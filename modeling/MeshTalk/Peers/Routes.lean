import MeshTalk.Peers.Manager
import MeshTalk.Udp.SessionRuns

namespace MeshTalk.Peers

open MeshTalk.Library MeshTalk.Protocol MeshTalk.Udp

/-! # Which connection is selected for a peer -/

namespace PeerTables

variable {tables : PeerTables} {peer other : PeerConnection} {peerId : PeerId} {state : PeerState} {phase : Phase}

/-! ## Readings of the maps -/

@[grind =] theorem connected_eq : tables.connected peer = decide (tables.states peer.serial = .connected) := rfl

@[grind =] theorem setState_connections : (tables.setState peer state).connections = tables.connections := rfl
@[grind =] theorem setState_peers : (tables.setState peer state).peers = tables.peers := rfl
@[grind =] theorem setState_udpPeers : (tables.setState peer state).udpPeers = tables.udpPeers := rfl
@[grind =] theorem setState_phases {serial : Nat} : (tables.setState peer state).phases serial = tables.phases serial := rfl
@[grind =] theorem setState_states {serial : Nat} : (tables.setState peer state).states serial =
    if serial = peer.serial then state else tables.states serial := Function.update_apply ..

@[grind =] theorem setPhase_connections : (tables.setPhase peer phase).connections = tables.connections := rfl
@[grind =] theorem setPhase_peers : (tables.setPhase peer phase).peers = tables.peers := rfl
@[grind =] theorem setPhase_udpPeers : (tables.setPhase peer phase).udpPeers = tables.udpPeers := rfl
@[grind =] theorem setPhase_states {serial : Nat} : (tables.setPhase peer phase).states serial = tables.states serial := rfl
@[grind =] theorem setPhase_phases {serial : Nat} : (tables.setPhase peer phase).phases serial =
    if serial = peer.serial then phase else tables.phases serial := Function.update_apply ..

@[grind =] theorem select_connections : (tables.select peerId peer).connections = tables.connections := rfl
@[grind =] theorem select_udpPeers : (tables.select peerId peer).udpPeers = tables.udpPeers := rfl
@[grind =] theorem select_states {serial : Nat} : (tables.select peerId peer).states serial = tables.states serial := rfl
@[grind =] theorem select_phases {serial : Nat} : (tables.select peerId peer).phases serial = tables.phases serial := rfl
@[grind =] theorem select_peers : (tables.select peerId peer).peers = tables.peers.set peerId peer := rfl

@[grind =] theorem fallBack_connections : (tables.fallBack peerId).connections = tables.connections := by
  unfold fallBack; split <;> rfl
@[grind =] theorem fallBack_udpPeers : (tables.fallBack peerId).udpPeers = tables.udpPeers := by
  unfold fallBack; split <;> rfl
@[grind =] theorem fallBack_states {serial : Nat} : (tables.fallBack peerId).states serial = tables.states serial := by
  unfold fallBack; split <;> rfl
@[grind =] theorem fallBack_phases {serial : Nat} : (tables.fallBack peerId).phases serial = tables.phases serial := by
  unfold fallBack; split <;> rfl
@[grind =] theorem fallBack_peers {second : PeerId} : (tables.fallBack peerId).peers.get? second =
    if second = peerId then tables.connectedUdp peerId else tables.peers.get? second := by
  unfold fallBack
  split <;> simp only [select, deselect] <;> grind

@[grind =] theorem registerUdp_connections : (tables.registerUdp peer).connections = tables.connections := by
  simp only [registerUdp]; split <;> rfl
@[grind =] theorem registerUdp_states {serial : Nat} : (tables.registerUdp peer).states serial = tables.states serial := by
  simp only [registerUdp]; split <;> rfl
@[grind =] theorem registerUdp_phases {serial : Nat} : (tables.registerUdp peer).phases serial = tables.phases serial := by
  simp only [registerUdp]; split <;> rfl
@[grind =] theorem registerUdp_udpPeers :
    (tables.registerUdp peer).udpPeers = tables.udpPeers.set peer.peerId peer := by
  simp only [registerUdp]; split <;> rfl
@[grind =] theorem registerUdp_peers : (tables.registerUdp peer).peers =
    if tables.lanConnected peer.peerId then tables.peers else tables.peers.set peer.peerId peer := by
  simp only [registerUdp]; split <;> rfl

@[grind =] theorem dropUdp_connections : (tables.dropUdp peerId peer).connections = tables.connections := by
  simp only [dropUdp]; split <;> rfl
@[grind =] theorem dropUdp_phases {serial : Nat} : (tables.dropUdp peerId peer).phases serial = tables.phases serial := by
  simp only [dropUdp]; split <;> rfl
@[grind =] theorem dropUdp_states {serial : Nat} : (tables.dropUdp peerId peer).states serial =
    if serial = peer.serial then .disconnected else tables.states serial := by
  simp only [dropUdp]; split <;> exact Function.update_apply ..
@[grind =] theorem dropUdp_udpPeers : (tables.dropUdp peerId peer).udpPeers = tables.udpPeers.erase peerId := by
  simp only [dropUdp]; split <;> rfl
@[grind =] theorem dropUdp_peers : (tables.dropUdp peerId peer).peers =
    if tables.peers.get? peerId = some peer then tables.peers.erase peerId else tables.peers := by
  simp only [dropUdp]; split <;> rfl

@[grind =] theorem create_udpPeers : (tables.create peer state).udpPeers = tables.udpPeers := rfl
@[grind =] theorem create_peers : (tables.create peer state).peers = tables.peers := rfl
@[grind =] theorem create_states {serial : Nat} : (tables.create peer state).states serial =
    if serial = peer.serial then state else tables.states serial := Function.update_apply ..
@[grind =] theorem create_phases {serial : Nat} : (tables.create peer state).phases serial =
    if serial = peer.serial then .seeding else tables.phases serial := Function.update_apply ..

theorem connectedUdp_some : tables.connectedUdp peerId = some peer ↔
    tables.udpPeers.get? peerId = some peer ∧ tables.connected peer = true := Option.filter_eq_some_iff

theorem lanConnected_eq_true : tables.lanConnected peerId = true ↔
    ∃ active, tables.peers.get? peerId = some active ∧ tables.connected active = true ∧ active.isLan = true := by
  simp only [lanConnected, Option.any_eq_true, Bool.and_eq_true]

/-- The object was constructed in this run. -/
def Created (tables : PeerTables) (peer : PeerConnection) : Prop :=
  tables.connections[peer.serial]? = some peer

/-- Some task still owns the admitted LAN connection. -/
def Served (tables : PeerTables) (peer : PeerConnection) : Prop :=
  tables.phases peer.serial = .admitted ∨ tables.phases peer.serial = .receiving

/-- An admitted LAN connection that is still up. -/
structure Live (tables : PeerTables) (peer : PeerConnection) : Prop where
  created : tables.Created peer
  lan : peer.isLan = true
  served : tables.Served peer
  connected : tables.connected peer = true

@[grind =] theorem setState_created : (tables.setState peer state).Created other ↔ tables.Created other := .rfl
@[grind =] theorem setPhase_created : (tables.setPhase peer phase).Created other ↔ tables.Created other := .rfl
@[grind =] theorem select_created : (tables.select peerId peer).Created other ↔ tables.Created other := .rfl
@[grind =] theorem fallBack_created : (tables.fallBack peerId).Created other ↔ tables.Created other := by
  rw [Created, Created, fallBack_connections]
@[grind =] theorem registerUdp_created : (tables.registerUdp peer).Created other ↔ tables.Created other := by
  rw [Created, Created, registerUdp_connections]
@[grind =] theorem dropUdp_created : (tables.dropUdp peerId peer).Created other ↔ tables.Created other := by
  rw [Created, Created, dropUdp_connections]

instance (tables : PeerTables) (peer : PeerConnection) : Decidable (tables.Live peer) :=
  decidable_of_iff (tables.connections[peer.serial]? = some peer ∧ peer.isLan = true ∧
      (tables.phases peer.serial = .admitted ∨ tables.phases peer.serial = .receiving) ∧ tables.connected peer = true)
    ⟨fun ⟨created, lan, served, connected⟩ => ⟨created, lan, served, connected⟩,
      fun ⟨created, lan, served, connected⟩ => ⟨created, lan, served, connected⟩⟩

@[grind →] theorem Created.unique (created : tables.Created peer) (second : tables.Created other)
    (same : peer.serial = other.serial) : peer = other := by
  unfold Created at created second
  rw [same, second] at created
  exact (Option.some.inj created).symm

/-! ## The invariant -/

/-- What holds of the maps in every state but the limit and the preference for
LAN connections. -/
structure Registered (tables : PeerTables) : Prop where
  serial_index : ∀ {index : Nat} {peer : PeerConnection}, tables.connections[index]? = some peer → peer.serial = index
  selected_key : ∀ {peerId peer}, tables.peers.get? peerId = some peer → peer.peerId = peerId ∧ tables.Created peer
  udp_key : ∀ {peerId peer}, tables.udpPeers.get? peerId = some peer →
    peer.peerId = peerId ∧ tables.Created peer ∧ peer.isLan = false
  udp_connected : ∀ {peerId peer}, tables.udpPeers.get? peerId = some peer → tables.connected peer = true
  udp_finished : ∀ {peerId peer}, tables.udpPeers.get? peerId = some peer → tables.phases peer.serial = .finished
  seeding_connected : ∀ {peer}, tables.Created peer → peer.isLan = false →
    tables.phases peer.serial = .seeding → tables.connected peer = true
  remote_selected : ∀ {peerId peer}, tables.peers.get? peerId = some peer → peer.isLan = false →
    tables.udpPeers.get? peerId = some peer
  udp_reachable : ∀ {peerId peer}, tables.udpPeers.get? peerId = some peer →
    tables.peers.get? peerId = some peer ∨ ∃ lan, tables.peers.get? peerId = some lan ∧ lan.isLan = true
  lan_served : ∀ {peerId peer}, tables.peers.get? peerId = some peer → peer.isLan = true → tables.Served peer
  served_lan : ∀ {peer}, tables.Created peer → tables.Served peer → peer.isLan = true

attribute [grind →] Registered.selected_key Registered.udp_key Registered.udp_connected Registered.udp_finished

theorem Created.older (created : tables.Created other) (numbered : peer.serial = tables.connections.length) :
    other.serial ≠ peer.serial :=
  numbered ▸ Nat.ne_of_lt (List.getElem?_eq_some_iff.mp created).1

theorem create_created (numbered : peer.serial = tables.connections.length) :
    (tables.create peer state).Created other ↔ other = peer ∨ tables.Created other := by
  change (tables.connections ++ [peer])[other.serial]? = some other ↔ _
  unfold Created
  grind

theorem Registered.create (registered : Registered tables) (numbered : peer.serial = tables.connections.length)
    (remote : peer.isLan = false → state = .connected) : Registered (tables.create peer state) := by
  have created := @create_created tables peer
  have older := @Created.older tables peer
  constructor
  · change ∀ {index other}, (tables.connections ++ [peer])[index]? = some other → _
    grind [Registered]
  · grind [Registered]
  · grind [Registered]
  · grind [Registered]
  · grind [Registered]
  · grind [Registered]
  · grind [Registered]
  · grind [Registered]
  · grind [Registered, Served]
  · grind [Registered, Served]

theorem Registered.registerUdp (registered : Registered tables) (created : tables.Created peer)
    (remote : peer.isLan = false) (seeding : tables.phases peer.serial = .seeding) :
    Registered ((tables.registerUdp peer).setPhase peer .finished) := by
  have up := registered.seeding_connected created remote seeding
  have preferred := @lanConnected_eq_true tables
  obtain ⟨serial_index, selected_key, udp_key, udp_connected, udp_finished, seeding_connected, remote_selected,
    udp_reachable, lan_served, served_lan⟩ := registered
  constructor
  · grind
  all_goals grind [Served]

theorem Registered.dropUdp (registered : Registered tables) (found : tables.udpPeers.get? peerId = some peer) :
    Registered (tables.dropUdp peerId peer) := by
  have finished := registered.udp_finished found
  obtain ⟨serial_index, selected_key, udp_key, udp_connected, udp_finished, seeding_connected, remote_selected,
    udp_reachable, lan_served, served_lan⟩ := registered
  constructor
  · grind
  all_goals grind [Served]

theorem Registered.setLanState (registered : Registered tables) (state : PeerState) (created : tables.Created peer)
    (lan : peer.isLan = true) : Registered (tables.setState peer state) := by
  obtain ⟨serial_index, selected_key, udp_key, udp_connected, udp_finished, seeding_connected, remote_selected,
    udp_reachable, lan_served, served_lan⟩ := registered
  constructor
  · grind
  all_goals grind [Served]

theorem Registered.fallBack (registered : Registered tables) : Registered (tables.fallBack peerId) := by
  have remote := @connectedUdp_some tables
  obtain ⟨serial_index, selected_key, udp_key, udp_connected, udp_finished, seeding_connected, remote_selected,
    udp_reachable, lan_served, served_lan⟩ := registered
  constructor
  · grind
  all_goals grind [Served]

/-- The phase of a LAN connection may become anything that serves it while it is
selected. -/
theorem Registered.setLanPhase (registered : Registered tables) (created : tables.Created peer)
    (lan : peer.isLan = true)
    (serves : tables.peers.get? peer.peerId = some peer → phase = .admitted ∨ phase = .receiving) :
    Registered (tables.setPhase peer phase) := by
  obtain ⟨serial_index, selected_key, udp_key, udp_connected, udp_finished, seeding_connected, remote_selected,
    udp_reachable, lan_served, served_lan⟩ := registered
  constructor
  · grind
  all_goals grind [Served]

theorem Registered.undoLanAdmission (registered : Registered tables) : Registered (tables.undoLanAdmission peer) := by
  unfold PeerTables.undoLanAdmission
  split
  · exact registered.fallBack
  · exact registered

theorem undoLanAdmission_created : (tables.undoLanAdmission peer).Created other ↔ tables.Created other := by
  unfold PeerTables.undoLanAdmission
  split
  · exact fallBack_created
  · rfl

theorem undoLanAdmission_unselected (registered : Registered tables) (lan : peer.isLan = true) :
    (tables.undoLanAdmission peer).peers.get? peer.peerId ≠ some peer := by
  have remote := @connectedUdp_some tables
  unfold PeerTables.undoLanAdmission
  grind

theorem Registered.selectLan (registered : Registered tables) (created : tables.Created peer)
    (lan : peer.isLan = true) :
    Registered (((tables.setState peer .connected).select peer.peerId peer).setPhase peer .admitted) := by
  have selected : (((tables.setState peer .connected).select peer.peerId peer).setPhase peer .admitted).peers.get?
      peer.peerId = some peer := by grind
  obtain ⟨serial_index, selected_key, udp_key, udp_connected, udp_finished, seeding_connected, remote_selected,
    udp_reachable, lan_served, served_lan⟩ := registered
  constructor
  · grind
  · grind
  · grind
  · grind
  · grind
  · grind
  · grind
  · grind
  · grind [Served]
  · grind [Served]

theorem Registered.failLanSend {failure : LanFailure} (registered : Registered tables) (created : tables.Created peer)
    (lan : peer.isLan = true) : Registered (tables.failLanSend peer failure) := by
  have ended := registered.setLanState .disconnected created lan
  have remote := @connectedUdp_some (tables.setState peer .disconnected)
  simp only [PeerTables.failLanSend]
  split
  · rename_i found
    obtain ⟨entered, -⟩ := remote.mp found
    obtain ⟨serial_index, selected_key, udp_key, udp_connected, udp_finished, seeding_connected, remote_selected,
      udp_reachable, lan_served, served_lan⟩ := ended
    constructor
    · grind
    all_goals grind [Served]
  · exact ended

theorem Registered.finishUdp (registered : Registered tables) (created : tables.Created peer)
    (remote : peer.isLan = false) : Registered (tables.setPhase peer .finished) := by
  obtain ⟨serial_index, selected_key, udp_key, udp_connected, udp_finished, seeding_connected, remote_selected,
    udp_reachable, lan_served, served_lan⟩ := registered
  constructor
  · grind
  all_goals grind [Served]

theorem Registered.onUdpDisconnected {expected : Option SessionId} (registered : Registered tables) :
    Registered (tables.onUdpDisconnected peerId expected) := by
  unfold PeerTables.onUdpDisconnected
  split
  · exact registered
  · split
    · exact registered
    · exact registered.dropUdp ‹_›

/-- A LAN connection that no task serves yet or any more is not selected. -/
theorem Registered.unselected (registered : Registered tables) (lan : peer.isLan = true)
    (unserved : ¬ tables.Served peer) : tables.peers.get? peerId ≠ some peer :=
  fun selected => unserved (registered.lan_served selected lan)

theorem Registered.finishLan (registered : Registered tables) (created : tables.Created peer)
    (lan : peer.isLan = true) (unselected : tables.peers.get? peer.peerId ≠ some peer) :
    Registered (tables.setPhase peer .finished) :=
  registered.setLanPhase created lan fun selected => absurd selected unselected

theorem admitLanPeer_ok {admitted : Bool} {next : PeerTables} (result : tables.admitLanPeer peer = .ok (admitted, next)) :
    (admitted = false ∧ next = tables) ∨
      (admitted = true ∧ tables.lanConnected peer.peerId = false ∧ tables.peerLimitReached peer.peerId = false ∧
        next = (tables.setState peer .connected).select peer.peerId peer) := by
  unfold admitLanPeer at result
  split at result
  · cases result
    exact .inl ⟨rfl, rfl⟩
  · rename_i unconnected
    split at result
    · contradiction
    · rename_i room
      cases result
      exact .inr ⟨rfl, Bool.of_not_eq_true unconnected, Bool.of_not_eq_true room, rfl⟩

/-! ## The preference for LAN connections -/

/-- The limit is kept and every live LAN connection is the selected one. -/
structure Routed (tables : PeerTables) : Prop extends Registered tables where
  live_selected : ∀ {peer}, tables.Live peer → tables.peers.get? peer.peerId = some peer
  capped : tables.peers.size ≤ maxConnectedPeers

theorem Routed.lanConnected (routed : Routed tables) (live : tables.Live peer) : tables.lanConnected peer.peerId = true :=
  lanConnected_eq_true.mpr ⟨peer, routed.live_selected live, live.connected, live.lan⟩

/-- Connections that are no longer live or still selected keep the preference. -/
theorem Routed.of_fewer {next : PeerTables} (routed : Routed tables) (registered : Registered next)
    (fewer : ∀ {peer}, next.Live peer → tables.Live peer)
    (kept : ∀ {peer}, next.Live peer → tables.peers.get? peer.peerId = some peer →
      next.peers.get? peer.peerId = some peer)
    (size : next.peers.size ≤ maxConnectedPeers) : Routed next where
  toRegistered := registered
  live_selected live := kept live (routed.live_selected (fewer live))
  capped := size

theorem size_set_le (room : tables.peerLimitReached peerId = false) (capped : tables.peers.size ≤ maxConnectedPeers) :
    (tables.peers.set peerId peer).size ≤ maxConnectedPeers := by
  rw [Dict.size_set]
  split
  · exact capped
  · rename_i absent
    simp only [peerLimitReached, absent, Bool.not_false, Bool.true_and, decide_eq_false_iff_not] at room
    omega

theorem room_of_selected (selected : tables.peers.get? peerId = some peer) : tables.peerLimitReached peerId = false := by
  simp [peerLimitReached, Dict.contains, selected]

theorem Routed.create (routed : Routed tables) (numbered : peer.serial = tables.connections.length)
    (remote : peer.isLan = false → state = .connected) : Routed (tables.create peer state) := by
  refine routed.of_fewer (routed.toRegistered.create numbered remote) (fun live => ?_) (fun _ selected => selected)
    routed.capped
  obtain ⟨created, lan, served, connected⟩ := live
  have apart : ∀ {other}, other.serial = peer.serial → ¬ (tables.create peer state).Served other := by
    intro other same
    simp [Served, create_phases, same]
  constructor
  · rcases (create_created numbered).mp created with rfl | created
    · exact absurd served (apart rfl)
    · exact created
  · exact lan
  · grind [Served]
  · grind

theorem Routed.registerUdp (routed : Routed tables) (created : tables.Created peer) (remote : peer.isLan = false)
    (seeding : tables.phases peer.serial = .seeding) (room : tables.peerLimitReached peer.peerId = false) :
    Routed ((tables.registerUdp peer).setPhase peer .finished) := by
  have fewer : ∀ {other}, ((tables.registerUdp peer).setPhase peer .finished).Live other → tables.Live other := by
    rintro other ⟨created, lan, served, connected⟩
    exact ⟨by grind, lan, by grind [Served], by grind⟩
  refine routed.of_fewer (routed.toRegistered.registerUdp created remote seeding) fewer (fun live selected => ?_) ?_
  · have preferred := routed.lanConnected (fewer live)
    grind
  · rw [setPhase_peers, registerUdp_peers]
    split
    · exact routed.capped
    · exact size_set_le room routed.capped

theorem Routed.onUdpDisconnected {expected : Option SessionId} (routed : Routed tables) :
    Routed (tables.onUdpDisconnected peerId expected) := by
  unfold PeerTables.onUdpDisconnected
  split
  · exact routed
  · rename_i old found
    split
    · exact routed
    · refine routed.of_fewer (routed.toRegistered.dropUdp found) ?_ (fun live selected => ?_) ?_
      · rintro other ⟨created, lan, served, connected⟩
        exact ⟨by grind, lan, by grind [Served], by grind⟩
      · have lan := live.lan
        have remote := (routed.udp_key found).2.2
        grind
      · rw [dropUdp_peers]
        split
        · exact Nat.le_trans Dict.size_erase_le routed.capped
        · exact routed.capped

theorem Routed.setDisconnected (routed : Routed tables) (created : tables.Created peer) (lan : peer.isLan = true) :
    Routed (tables.setState peer .disconnected) := by
  refine routed.of_fewer (routed.toRegistered.setLanState _ created lan) ?_ (fun _ selected => selected) routed.capped
  rintro other ⟨created, lan, served, connected⟩
  exact ⟨by grind, lan, by grind [Served], by grind⟩

/-- A connection that no task serves any more. -/
theorem Routed.finish (routed : Routed tables) (registered : Registered (tables.setPhase peer .finished)) :
    Routed (tables.setPhase peer .finished) := by
  refine routed.of_fewer registered ?_ (fun _ selected => selected) routed.capped
  rintro other ⟨created, lan, served, connected⟩
  exact ⟨by grind, lan, by grind [Served], by grind⟩

theorem Routed.receive (routed : Routed tables) (created : tables.Created peer) (lan : peer.isLan = true)
    (admitted : tables.phases peer.serial = .admitted) : Routed (tables.setPhase peer .receiving) := by
  refine routed.of_fewer (routed.toRegistered.setLanPhase created lan fun _ => .inr rfl) ?_
    (fun _ selected => selected) routed.capped
  rintro other ⟨created, lan, served, connected⟩
  exact ⟨by grind, lan, by grind [Served], by grind⟩

theorem size_fallBack_le (selected : tables.peers.get? peerId = some peer)
    (capped : tables.peers.size ≤ maxConnectedPeers) : (tables.fallBack peerId).peers.size ≤ maxConnectedPeers := by
  unfold PeerTables.fallBack
  split
  · exact size_set_le (room_of_selected selected) capped
  · exact Nat.le_trans Dict.size_erase_le capped

/-- Rolling an admission back together with the end of its task. -/
theorem Routed.undoLanAdmission (routed : Routed tables) (created : tables.Created peer) (lan : peer.isLan = true) :
    Routed ((tables.undoLanAdmission peer).setPhase peer .finished) := by
  have undone : Registered (tables.undoLanAdmission peer) := routed.toRegistered.undoLanAdmission
  have registered := undone.finishLan (undoLanAdmission_created.mpr created) lan
    (undoLanAdmission_unselected routed.toRegistered lan)
  unfold PeerTables.undoLanAdmission at registered ⊢
  by_cases selected : tables.peers.get? peer.peerId = some peer
  · rw [if_pos selected] at registered ⊢
    refine routed.of_fewer registered ?_ (fun {other} live kept => ?_) (size_fallBack_le selected routed.capped)
    · rintro other ⟨created, lan, served, connected⟩
      exact ⟨by grind, lan, by grind [Served], by grind⟩
    · have apart : other ≠ peer := by
        rintro rfl
        simpa [Served, setPhase_phases] using live.served
      grind
  · rw [if_neg selected] at registered ⊢
    exact routed.finish registered

theorem Routed.endReceiveLoop (routed : Routed tables) (created : tables.Created peer) (lan : peer.isLan = true) :
    Routed ((tables.endReceiveLoop peer).setPhase peer .finished) :=
  (routed.setDisconnected created lan).undoLanAdmission created lan

/-- A newly admitted connection is the only live one of its peer. -/
theorem Routed.selectLan (routed : Routed tables) (created : tables.Created peer) (lan : peer.isLan = true)
    (unconnected : tables.lanConnected peer.peerId = false) (room : tables.peerLimitReached peer.peerId = false) :
    Routed (((tables.setState peer .connected).select peer.peerId peer).setPhase peer .admitted) where
  toRegistered := routed.toRegistered.selectLan created lan
  live_selected {other} live := by
    obtain ⟨existed, otherLan, served, connected⟩ := live
    by_cases same : other.serial = peer.serial
    · grind
    · have before : tables.Live other := ⟨by grind, otherLan, by grind [Served], by grind⟩
      have preferred := routed.lanConnected before
      have selected := routed.live_selected before
      grind
  capped := size_set_le room routed.capped

/-- Falling back to the UDP entry of the peer would replace a connected LAN
connection other than the one whose send failed. -/
def Displaces (tables : PeerTables) (peer : PeerConnection) : Prop :=
  (tables.udpPeers.get? peer.peerId).isSome = true ∧
    ∃ active ∈ tables.peers.get? peer.peerId, active ≠ peer ∧ tables.connected active = true ∧ active.isLan = true

instance (tables : PeerTables) (peer : PeerConnection) : Decidable (tables.Displaces peer) :=
  inferInstanceAs (Decidable (_ ∧ ∃ _ ∈ _, _))

theorem Routed.failLanSend {failure : LanFailure} (routed : Routed tables) (created : tables.Created peer)
    (lan : peer.isLan = true) (keeps : failure = .connection → ¬ tables.Displaces peer) :
    Routed (tables.failLanSend peer failure) := by
  have registered : Registered (tables.failLanSend peer failure) := routed.toRegistered.failLanSend created lan
  have ended := routed.setDisconnected created lan
  simp only [PeerTables.failLanSend] at registered ⊢
  split
  · rename_i entry found
    obtain ⟨entered, -⟩ := connectedUdp_some.mp found
    have present : tables.peers.get? peer.peerId ≠ none := by
      rcases routed.udp_reachable entered with selected | ⟨other, selected, -⟩ <;> simp [selected]
    obtain ⟨active, selected⟩ := Option.ne_none_iff_exists'.mp present
    have live : ∀ {other}, ((tables.setState peer .disconnected).select peer.peerId entry).Live other →
        (tables.setState peer .disconnected).Live other :=
      fun live => ⟨live.created, live.lan, live.served, live.connected⟩
    refine ended.of_fewer (by rw [found] at registered; exact registered) live (fun {other} alive kept => ?_)
      (size_set_le (room_of_selected selected) routed.capped)
    have apart : other.peerId ≠ peer.peerId := by
      intro same
      have connected := (live alive).connected
      refine keeps rfl ⟨Option.isSome_of_eq_some entered, other, same ▸ kept, ?_, ?_, alive.lan⟩
      · rintro rfl
        simp [connected_eq, setState_states] at connected
      · grind
    grind
  · exact ended

end PeerTables

namespace PeerManager

open PeerTables
open UdpTransport (TransportEvent)

/-- All that a step can do to the maps. -/
inductive Effect (settings : Udp.Settings) (tables : PeerTables) : PeerEvent → PeerTables → Prop where
  | unchanged {event : PeerEvent} : Effect settings tables event tables
  | created {event : PeerEvent} {peer : PeerConnection} {state : PeerState}
      (numbered : peer.serial = tables.connections.length) (remote : peer.isLan = false → state = .connected) :
      Effect settings tables event (tables.create peer state)
  | disconnected {event : PeerEvent} {peerId : PeerId} {expected : Option SessionId} : Effect settings tables event (tables.onUdpDisconnected peerId expected)
  | seeded {serial : Nat} {peer : PeerConnection} {loaded : Bool}
      (found : tables.connections[serial]? = some peer) (seeding : tables.phases serial = .seeding) :
      Effect settings tables (.seeded serial loaded) (seeded settings peer loaded tables)
  | upserted {serial : Nat} {peer : PeerConnection} {saved : Bool}
      (found : tables.connections[serial]? = some peer) (admitted : tables.phases serial = .admitted) :
      Effect settings tables (.upserted serial saved) (upserted settings peer saved tables)
  | setupFailed {serial : Nat} {peer : PeerConnection}
      (found : tables.connections[serial]? = some peer) (receiving : tables.phases serial = .receiving) :
      Effect settings tables (.setupFailed serial) (lanRaised settings tables peer)
  | lanSendFailed {serial : Nat} {peer : PeerConnection} {failure : LanFailure}
      (found : tables.connections[serial]? = some peer) (lan : peer.isLan = true) :
      Effect settings tables (.lanSendFailed serial failure) (tables.failLanSend peer failure)
  | receiveLoopEnded {serial : Nat} {peer : PeerConnection}
      (found : tables.connections[serial]? = some peer) (receiving : tables.phases serial = .receiving) :
      Effect settings tables (.receiveLoopEnded serial) ((tables.endReceiveLoop peer).setPhase peer .finished)

variable {settings : Udp.Settings} {tables : PeerTables} {manager next : PeerManager} {peer : PeerConnection} {loaded saved : Bool}

theorem lanRaised_registered (registered : tables.Registered) (created : tables.Created peer) (lan : peer.isLan = true) :
    (lanRaised settings tables peer).Registered := by
  unfold lanRaised
  split
  · exact registered.setLanState _ created lan
  · exact registered

theorem lanRaised_created : (lanRaised settings tables peer).Created peer ↔ tables.Created peer := by
  unfold lanRaised
  split <;> rfl

theorem lanRaised_peers : (lanRaised settings tables peer).peers = tables.peers := by
  unfold lanRaised
  split <;> rfl

theorem lanRaised_routed (routed : tables.Routed) (created : tables.Created peer) (lan : peer.isLan = true) :
    (lanRaised settings tables peer).Routed := by
  unfold lanRaised
  split
  · exact routed.setDisconnected created lan
  · exact routed

theorem unserved_of_seeding (seeding : tables.phases peer.serial = .seeding) : ¬ tables.Served peer := by
  simp [Served, seeding]

/-! ## One step -/

/-- What becomes of a LAN connection after `_seed_peer_dnd`. -/
theorem lanSeeded_cases (settings : Udp.Settings) (tables : PeerTables) (peer : PeerConnection) (loaded : Bool) :
    lanSeeded settings peer loaded tables = (lanRaised settings tables peer).setPhase peer .finished ∨
    lanSeeded settings peer loaded tables = tables.setPhase peer .finished ∨
    (tables.lanConnected peer.peerId = false ∧ tables.peerLimitReached peer.peerId = false ∧
      lanSeeded settings peer loaded tables =
        ((tables.setState peer .connected).select peer.peerId peer).setPhase peer .admitted) := by
  simp only [lanSeeded]
  split
  · exact .inl rfl
  · split
    · exact .inl rfl
    · rename_i result
      obtain ⟨-, rfl⟩ | ⟨contradictory, -⟩ := admitLanPeer_ok result
      · exact .inr (.inl rfl)
      · contradiction
    · rename_i result
      obtain ⟨contradictory, -⟩ | ⟨-, unconnected, room, rfl⟩ := admitLanPeer_ok result
      · contradiction
      · exact .inr (.inr ⟨unconnected, room, rfl⟩)

theorem lanSeeded_registered (registered : tables.Registered) (created : tables.Created peer)
    (lan : peer.isLan = true) (seeding : tables.phases peer.serial = .seeding) :
    (lanSeeded settings peer loaded tables).Registered := by
  have unselected : tables.peers.get? peer.peerId ≠ some peer := registered.unselected lan (unserved_of_seeding seeding)
  rcases lanSeeded_cases settings tables peer loaded with
    same | same | ⟨-, -, same⟩ <;> rw [same]
  · exact (lanRaised_registered registered created lan).finishLan (lanRaised_created.mpr created) lan
      (by rwa [lanRaised_peers])
  · exact registered.finishLan created lan unselected
  · exact registered.selectLan created lan

theorem lanSeeded_routed (routed : tables.Routed) (created : tables.Created peer)
    (lan : peer.isLan = true) (seeding : tables.phases peer.serial = .seeding) :
    (lanSeeded settings peer loaded tables).Routed := by
  have registered : (lanSeeded settings peer loaded tables).Registered :=
    lanSeeded_registered routed.toRegistered created lan seeding
  rcases lanSeeded_cases settings tables peer loaded with
    same | same | ⟨unconnected, room, same⟩ <;> rw [same] at registered ⊢
  · exact (lanRaised_routed routed created lan).finish registered
  · exact routed.finish registered
  · exact routed.selectLan created lan unconnected room

theorem seeded_registered (registered : tables.Registered) (created : tables.Created peer)
    (seeding : tables.phases peer.serial = .seeding) : (seeded settings peer loaded tables).Registered := by
  unfold seeded
  split
  · exact lanSeeded_registered registered created ‹_› seeding
  · rename_i remote
    have remote := Bool.of_not_eq_true remote
    split
    · exact registered.registerUdp created remote seeding
    · exact registered.finishUdp created remote

theorem seeded_routed (routed : tables.Routed) (created : tables.Created peer)
    (seeding : tables.phases peer.serial = .seeding)
    (room : peer.isLan = false → loaded = true → tables.peerLimitReached peer.peerId = false) :
    (seeded settings peer loaded tables).Routed := by
  unfold seeded
  split
  · exact lanSeeded_routed routed created ‹_› seeding
  · rename_i remote
    have remote := Bool.of_not_eq_true remote
    split
    · exact routed.registerUdp created remote seeding (room remote ‹_›)
    · exact routed.finish (routed.toRegistered.finishUdp created remote)

theorem upserted_registered (registered : tables.Registered) (created : tables.Created peer)
    (lan : peer.isLan = true) : (upserted settings peer saved tables).Registered := by
  unfold upserted
  split
  · exact registered.setLanPhase created lan fun _ => .inr rfl
  · have raised : (lanRaised settings tables peer).Registered := lanRaised_registered registered created lan
    exact raised.undoLanAdmission.finishLan (undoLanAdmission_created.mpr (lanRaised_created.mpr created)) lan
      (undoLanAdmission_unselected raised lan)

theorem upserted_routed (routed : tables.Routed) (created : tables.Created peer)
    (lan : peer.isLan = true) (admitted : tables.phases peer.serial = .admitted) :
    (upserted settings peer saved tables).Routed := by
  unfold upserted
  split
  · exact routed.receive created lan admitted
  · exact (lanRaised_routed routed created lan).undoLanAdmission (lanRaised_created.mpr created) lan

theorem resume_some {serial : Nat} {phase : Phase} {continue_ : PeerConnection → PeerTables → PeerTables}
    (stepped : manager.resume serial phase continue_ = some next) : ∃ peer,
      manager.connections[serial]? = some peer ∧ manager.phases serial = phase ∧
        next = manager.onTables (continue_ peer manager.toPeerTables) := by
  unfold resume at stepped
  split at stepped
  · rename_i peer found
    split at stepped
    · exact ⟨peer, found, ‹_›, (Option.some.inj stepped).symm⟩
    · contradiction
  · contradiction

theorem onUdpConnected_effect {session : Session} {event : PeerEvent} :
    Effect settings manager.toPeerTables event (manager.onUdpConnected session).toPeerTables := by
  unfold onUdpConnected
  split
  · exact .unchanged
  · split
    · exact .unchanged
    · exact .created rfl fun _ => rfl

theorem onCallback_effect {callback : Callback} {draw : SendDraw} {event : PeerEvent} :
    Effect settings manager.toPeerTables event (manager.onCallback settings draw callback).toPeerTables := by
  cases callback with
  | dispatchConnected session =>
      simp only [onCallback, dispatchConnected]
      split
      · exact onUdpConnected_effect
      · exact .unchanged
  | onDisconnected peerId sessionId => exact .disconnected
  | onPacket delivery =>
      simp only [onCallback, onUdpPacket]
      split
      · exact .unchanged
      · split
        · simp only [actOnPacket]
          split
          · exact .unchanged
          · exact .disconnected
          · exact .unchanged
        · exact .unchanged

theorem sendPacket_effect {packet : Packet} {draw : SendDraw} {event : PeerEvent} :
    Effect settings manager.toPeerTables event (manager.sendPacket settings peer packet draw).toPeerTables := by
  unfold sendPacket
  split
  · exact .unchanged
  · split
    · exact .unchanged
    · exact .disconnected
    · exact .unchanged

theorem sendRound_effect {call : Nat} {sending : Sending} {event : PeerEvent} :
    Effect settings manager.toPeerTables event (manager.sendRound call peer sending).toPeerTables := by
  simp only [sendRound]
  split
  · exact .unchanged
  · exact .unchanged
  · exact .unchanged
  · exact .disconnected

theorem step_effect {event : Time × PeerEvent} (stepped : step settings manager event = some next) :
    Effect settings manager.toPeerTables event.2 next.toPeerTables := by
  obtain ⟨now, event⟩ := event
  cases event with
  | transport event =>
      simp only [step] at stepped
      split at stepped
      · contradiction
      · obtain ⟨udp, -, rfl⟩ := Option.map_eq_some_iff.mp stepped
        exact .unchanged
  | runCallback index draw =>
      simp only [step, runCallback] at stepped
      split at stepped
      · contradiction
      · obtain ⟨callback, -, rfl⟩ := Option.map_eq_some_iff.mp stepped
        exact @onCallback_effect settings (manager.takeCallback index) callback draw _
  | sendPacket serial packet draw =>
      simp only [step] at stepped
      split at stepped
      · contradiction
      · obtain ⟨peer, -, rfl⟩ := Option.map_eq_some_iff.mp stepped
        exact sendPacket_effect
  | sendRound call =>
      obtain ⟨peer, -, rest⟩ := Option.bind_eq_some_iff.mp stepped
      obtain ⟨sending, -, rfl⟩ := Option.map_eq_some_iff.mp rest
      exact sendRound_effect
  | lanAuthenticated peerId endpoint capabilities outbound =>
      cases stepped
      simp only [lanAuthenticated]
      split
      · exact .unchanged
      · exact .created rfl fun remote => by simp [PeerConnection.isLan] at remote
  | seeded serial loaded =>
      obtain ⟨peer, found, seeding, rfl⟩ := resume_some stepped
      exact .seeded found seeding
  | upserted serial saved =>
      obtain ⟨peer, found, admitted, rfl⟩ := resume_some stepped
      exact .upserted found admitted
  | setupFailed serial =>
      obtain ⟨peer, found, receiving, rfl⟩ := resume_some stepped
      exact .setupFailed found receiving
  | lanSendFailed serial failure =>
      obtain ⟨peer, found, rfl⟩ := Option.map_eq_some_iff.mp stepped
      obtain ⟨found, lan⟩ := Option.filter_eq_some_iff.mp found
      exact .lanSendFailed found lan
  | receiveLoopEnded serial =>
      simp only [step] at stepped
      obtain ⟨peer, found, receiving, rfl⟩ := resume_some stepped
      exact .receiveLoopEnded found receiving

theorem Registered.created_at {serial : Nat} (registered : tables.Registered)
    (found : tables.connections[serial]? = some peer) : peer.serial = serial ∧ tables.Created peer := by
  have same := registered.serial_index found
  exact ⟨same, by rwa [Created, same]⟩

/-- The maps stay registered whatever happens. -/
theorem Effect.registered {event : PeerEvent} {final : PeerTables} (effect : Effect settings tables event final)
    (registered : tables.Registered) : final.Registered := by
  cases effect with
  | unchanged => exact registered
  | created numbered remote => exact registered.create numbered remote
  | disconnected => exact registered.onUdpDisconnected
  | seeded found seeding =>
      obtain ⟨rfl, created⟩ := Registered.created_at registered found
      exact seeded_registered registered created seeding
  | upserted found admitted =>
      obtain ⟨rfl, created⟩ := Registered.created_at registered found
      exact upserted_registered registered created (registered.served_lan created (.inl admitted))
  | setupFailed found receiving =>
      obtain ⟨rfl, created⟩ := Registered.created_at registered found
      exact lanRaised_registered registered created (registered.served_lan created (.inr receiving))
  | lanSendFailed found lan =>
      obtain ⟨rfl, created⟩ := Registered.created_at registered found
      exact registered.failLanSend created lan
  | receiveLoopEnded found receiving =>
      obtain ⟨rfl, created⟩ := Registered.created_at registered found
      have lan := registered.served_lan created (.inr receiving)
      have ended := registered.setLanState .disconnected created lan
      exact ended.undoLanAdmission.finishLan (undoLanAdmission_created.mpr created) lan
        (undoLanAdmission_unselected ended lan)

/-- The events that keep the limit and the preference: no UDP entry of a new
peer is registered at the limit, and no failed LAN send falls back over another
live LAN connection. -/
def KeepsRoutes (tables : PeerTables) : PeerEvent → Prop
  | .seeded serial loaded => ∀ peer ∈ tables.connections[serial]?, peer.isLan = false →
      loaded = true → tables.peerLimitReached peer.peerId = false
  | .lanSendFailed serial .connection => ∀ peer ∈ tables.connections[serial]?, ¬ tables.Displaces peer
  | _ => True

instance (tables : PeerTables) : ∀ event, Decidable (KeepsRoutes tables event)
  | .seeded _ _ => inferInstanceAs (Decidable (∀ _ ∈ _, _ → _ → _))
  | .lanSendFailed _ .connection => inferInstanceAs (Decidable (∀ _ ∈ _, ¬ _))
  | .lanSendFailed _ .transport | .transport _ | .runCallback _ _ | .sendPacket _ _ _ | .sendRound _
  | .lanAuthenticated _ _ _ _ | .upserted _ _ | .setupFailed _ | .receiveLoopEnded _ => inferInstanceAs (Decidable True)

theorem Effect.routed {event : PeerEvent} {final : PeerTables} (effect : Effect settings tables event final)
    (routed : tables.Routed) (keeps : KeepsRoutes tables event) : final.Routed := by
  have registered := routed.toRegistered
  cases effect with
  | unchanged => exact routed
  | created numbered remote => exact routed.create numbered remote
  | disconnected => exact routed.onUdpDisconnected
  | seeded found seeding =>
      obtain ⟨rfl, created⟩ := Registered.created_at registered found
      exact seeded_routed routed created seeding (keeps _ found)
  | upserted found admitted =>
      obtain ⟨rfl, created⟩ := Registered.created_at registered found
      exact upserted_routed routed created (registered.served_lan created (.inl admitted)) admitted
  | setupFailed found receiving =>
      obtain ⟨rfl, created⟩ := Registered.created_at registered found
      exact lanRaised_routed routed created (registered.served_lan created (.inr receiving))
  | lanSendFailed found lan =>
      obtain ⟨rfl, created⟩ := Registered.created_at registered found
      refine routed.failLanSend created lan ?_
      rintro rfl
      exact keeps _ found
  | receiveLoopEnded found receiving =>
      obtain ⟨rfl, created⟩ := Registered.created_at registered found
      exact routed.endReceiveLoop created (registered.served_lan created (.inr receiving))

theorem initial_routed : PeerManager.initial.Routed := by
  refine ⟨?_, ?_, Nat.zero_le _⟩
  · constructor <;> simp [PeerManager.initial, PeerTables.initial, Created]
  · rintro peer ⟨created, -⟩
    simp [PeerManager.initial, PeerTables.initial, Created] at created

/-! ## Selection when nothing is in progress -/

/-- No connection waits for the database between handshake and registration or
receive loop, and every receive loop still runs on a connected stream. -/
def Idle (tables : PeerTables) : Prop :=
  ∀ peer ∈ tables.connections, tables.phases peer.serial = .finished ∨
    (tables.phases peer.serial = .receiving ∧ tables.connected peer = true)

instance (tables : PeerTables) : Decidable (Idle tables) := inferInstanceAs (Decidable (∀ _ ∈ _, _))

/-- The live LAN connection of a peer is selected if there is one, else its
connected UDP entry, else nothing. -/
structure Selects (tables : PeerTables) (peerId : PeerId) : Prop where
  lan : ∀ peer, tables.Live peer → peer.peerId = peerId → tables.peers.get? peerId = some peer
  udp : (∀ peer, tables.Live peer → peer.peerId ≠ peerId) → tables.peers.get? peerId = tables.connectedUdp peerId

theorem Routed.selects (routed : tables.Routed) (idle : Idle tables) (peerId : PeerId) : Selects tables peerId := by
  have live : ∀ {lan}, tables.peers.get? peerId = some lan → lan.isLan = true →
      tables.Live lan ∧ lan.peerId = peerId := by
    intro lan selected isLan
    obtain ⟨key, created⟩ := routed.selected_key selected
    refine ⟨⟨created, isLan, routed.lan_served selected isLan, ?_⟩, key⟩
    rcases idle lan (List.mem_of_getElem? created) with finished | ⟨-, connected⟩
    · have served := routed.lan_served selected isLan
      simp [Served, finished] at served
    · exact connected
  refine ⟨fun peer alive own => own ▸ routed.live_selected alive, fun absent => ?_⟩
  have noLan : ∀ {lan}, tables.peers.get? peerId = some lan → lan.isLan = false := by
    intro lan selected
    refine Bool.eq_false_iff.mpr fun isLan => ?_
    obtain ⟨alive, own⟩ := live selected isLan
    exact absent lan alive own
  refine Option.ext fun peer => ⟨fun selected => ?_, fun entered => ?_⟩
  · have entered := routed.remote_selected selected (noLan selected)
    exact connectedUdp_some.mpr ⟨entered, routed.udp_connected entered⟩
  · rcases routed.udp_reachable (connectedUdp_some.mp entered).1 with selected | ⟨lan, selected, isLan⟩
    · exact selected
    · rw [noLan selected] at isLan
      contradiction

/-- In every run whose events keep the routes, the limit holds in every state
and each peer's route is the preferred one whenever nothing is in progress. -/
theorem routes_stay_preferred {events : List (Time × PeerEvent)} {final : PeerManager}
    (meets : Meets (step settings) (fun manager event => KeepsRoutes manager.toPeerTables event.2) initial events)
    (completed : run (step settings) initial events = some final) :
    final.peers.size ≤ maxConnectedPeers ∧
      (Idle final.toPeerTables → ∀ peerId, Selects final.toPeerTables peerId) := by
  have routed := run_invariant (fun manager : PeerManager => manager.Routed)
    (fun _ _ _ routed keeps stepped => (step_effect stepped).routed routed keeps) initial_routed meets completed
  exact ⟨routed.capped, fun idle peerId => Routed.selects routed idle peerId⟩

/-! ### A send on a replaced LAN connection -/

def sampleDraw (call : Nat) : SendDraw where
  call := call
  messageId := call
  nonces _ := []

/-- A session with a peer is opened and confirmed over UDP. -/
def sampleConfirmation : List (Time × PeerEvent) :=
  [(0, .transport (.datagramReceived (.hello UdpTransport.sampleHello) UdpTransport.homeRoute)),
   (0, .transport (.datagramReceived
     (.authenticated { type := .ready, sessionId := List.replicate 8 0, token := 0 } []) UdpTransport.homeRoute))]

def sampleLan (serial : Nat) : List (Time × PeerEvent) :=
  [(0, .lanAuthenticated "b0" ("192.0.2.1", 4001) [] true), (0, .seeded serial true), (0, .upserted serial true)]

/-- The peer is connected over LAN and over UDP, its LAN connection ends and a
new one is admitted. -/
def sampleReplacement : List (Time × PeerEvent) :=
  sampleLan 0 ++ sampleConfirmation ++ [(0, .runCallback 0 (sampleDraw 0)), (0, .seeded 1 true), (0, .receiveLoopEnded 0)] ++
    sampleLan 2

/-- A send that still holds the old LAN connection fails and selects the UDP
entry over the live LAN connection. -/
theorem stale_send_deselects_live_lan :
    ¬ ∀ events final, run (step UdpTransport.sampleSettings) initial events = some final →
      final.peers.size ≤ maxConnectedPeers ∧
        (Idle final.toPeerTables → ∀ peerId, Selects final.toPeerTables peerId) := by
  intro preferred
  have reached : (run (step UdpTransport.sampleSettings) initial
      (sampleReplacement ++ [(0, .lanSendFailed 0 .connection)])).any (fun final =>
        decide (Idle final.toPeerTables) &&
        final.connections[2]?.any (fun lan => decide (final.Live lan) && lan.peerId = "b0") &&
        (final.peers.get? "b0").any (fun selected => !selected.isLan)) = true := by decide +kernel
  simp only [Option.any_eq_true, Bool.and_eq_true, decide_eq_true_eq] at reached
  obtain ⟨final, completed, ⟨idle, lan, -, live, own⟩, selected, found, remote⟩ := reached
  have chosen := (((preferred _ final completed).2 idle) "b0").lan lan live own
  rw [found] at chosen
  cases chosen
  rw [live.lan] at remote
  contradiction

/-- Without that send the new LAN connection stays selected. -/
theorem replacement_is_preferred : ∃ final,
    run (step UdpTransport.sampleSettings) initial sampleReplacement = some final ∧ final.udpPeers.size = 1 ∧
      final.peers.size ≤ maxConnectedPeers ∧
        (Idle final.toPeerTables → ∀ peerId, Selects final.toPeerTables peerId) := by
  have reached : (run (step UdpTransport.sampleSettings) initial sampleReplacement).map (·.udpPeers.size) = some 1 := by
    decide +kernel
  obtain ⟨final, completed, size⟩ := Option.map_eq_some_iff.mp reached
  exact ⟨final, completed, size, routes_stay_preferred (by decide +kernel) completed⟩

end PeerManager

end MeshTalk.Peers
