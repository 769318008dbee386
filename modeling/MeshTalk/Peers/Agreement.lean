import MeshTalk.Peers.Routes
import MeshTalk.Udp.Announced

namespace MeshTalk.Peers

open MeshTalk.Library MeshTalk.Protocol MeshTalk.Udp
open UdpTransport (TransportEvent Settled SettledAt Tracked)

/-! # The manager's UDP entries and the transport's sessions -/

namespace PeerTables

variable {tables next : PeerTables} {peer other : PeerConnection} {peerId second : PeerId} {sessionId : SessionId}
  {expected : Option SessionId} {phase : Phase}

/-- The session id of the UDP entry of a peer. -/
def recorded (tables : PeerTables) (peerId : PeerId) : Option SessionId :=
  (tables.udpPeers.get? peerId).bind PeerConnection.udpSessionId

/-- A connected callback of the session waits in `_seed_peer_dnd`. -/
def Opening (tables : PeerTables) (peerId : PeerId) (sessionId : SessionId) : Prop :=
  ∃ peer ∈ tables.connections, tables.phases peer.serial = .seeding ∧ peer.peerId = peerId ∧
    peer.udpSessionId = some sessionId

instance (tables : PeerTables) (peerId : PeerId) (sessionId : SessionId) :
    Decidable (tables.Opening peerId sessionId) := inferInstanceAs (Decidable (∃ _ ∈ _, _))

/-- `_on_udp_disconnected` would drop the entry of the peer. -/
def Drops (tables : PeerTables) (peerId : PeerId) (expected : Option SessionId) : Prop :=
  ∃ old ∈ tables.udpPeers.get? peerId, expected.isSome = true → old.udpSessionId = expected

instance (tables : PeerTables) (peerId : PeerId) (expected : Option SessionId) :
    Decidable (tables.Drops peerId expected) := inferInstanceAs (Decidable (∃ _ ∈ _, _))

theorem Drops.iff_of_entry (entered : tables.udpPeers.get? peerId = some peer) :
    tables.Drops peerId expected ↔ ¬ (expected.isSome = true ∧ peer.udpSessionId ≠ expected) := by
  simp [Drops, entered]

theorem onUdpDisconnected_udpPeers : (tables.onUdpDisconnected peerId expected).udpPeers.get? second =
    if second = peerId ∧ tables.Drops peerId expected then none else tables.udpPeers.get? second := by
  unfold onUdpDisconnected
  split
  · rename_i absent
    grind
  · rename_i old found
    have drops : tables.Drops peerId expected ↔ _ := Drops.iff_of_entry found
    grind

theorem onUdpDisconnected_opening :
    (tables.onUdpDisconnected peerId expected).Opening second sessionId ↔ tables.Opening second sessionId := by
  unfold onUdpDisconnected Opening
  split
  · rfl
  · split
    · rfl
    · simp only [dropUdp_connections, dropUdp_phases]

theorem recorded_onUdpDisconnected : (tables.onUdpDisconnected peerId expected).recorded second =
    if second = peerId ∧ tables.Drops peerId expected then none else tables.recorded second := by
  unfold recorded
  rw [onUdpDisconnected_udpPeers]
  split <;> rfl

theorem Drops.of_recorded (found : tables.recorded peerId = some sessionId) : tables.Drops peerId (some sessionId) := by
  obtain ⟨old, entered, same⟩ := Option.bind_eq_some_iff.mp found
  exact ⟨old, entered, fun _ => same⟩

/-! ## Steps that leave the UDP entries alone -/

/-- The UDP entries are the same and no callback stops waiting. -/
structure KeepsUdp (tables next : PeerTables) : Prop where
  udpPeers : next.udpPeers = tables.udpPeers
  opening : ∀ {peerId sessionId}, tables.Opening peerId sessionId → next.Opening peerId sessionId

theorem KeepsUdp.refl : KeepsUdp tables tables := ⟨rfl, id⟩

theorem KeepsUdp.trans {last : PeerTables} (earlier : KeepsUdp tables next) (later : KeepsUdp next last) :
    KeepsUdp tables last :=
  ⟨later.udpPeers.trans earlier.udpPeers, fun waits => later.opening (earlier.opening waits)⟩

theorem KeepsUdp.of_phases (udpPeers : next.udpPeers = tables.udpPeers)
    (connections : next.connections = tables.connections)
    (phases : ∀ serial, next.phases serial = tables.phases serial) : KeepsUdp tables next := by
  refine ⟨udpPeers, fun {peerId sessionId} waits => ?_⟩
  unfold Opening at waits ⊢
  simpa only [connections, phases] using waits

theorem KeepsUdp.recorded (keeps : KeepsUdp tables next) : next.recorded = tables.recorded := by
  funext peerId
  rw [PeerTables.recorded, PeerTables.recorded, keeps.udpPeers]

theorem Registered.created_of_mem (registered : Registered tables) (member : peer ∈ tables.connections) :
    tables.Created peer := by
  obtain ⟨index, found⟩ := List.mem_iff_getElem?.mp member
  rwa [Created, registered.serial_index found]

theorem setPhase_opening (registered : Registered tables) (created : tables.Created peer)
    (apart : ∀ sessionId, peer.udpSessionId = some sessionId → phase = .seeding) :
    tables.Opening peerId sessionId → (tables.setPhase peer phase).Opening peerId sessionId := by
  rintro ⟨waiting, member, seeding, key, session⟩
  refine ⟨waiting, member, ?_, key, session⟩
  rw [setPhase_phases]
  split
  · rename_i same
    have equal := (registered.created_of_mem member).unique created same
    exact apart sessionId (equal ▸ session)
  · exact seeding

theorem KeepsUdp.setLanPhase (registered : Registered tables) (created : tables.Created peer)
    (lan : peer.isLan = true) : KeepsUdp tables (tables.setPhase peer phase) := by
  refine ⟨rfl, setPhase_opening registered created fun sessionId session => ?_⟩
  rw [peer.lan_sessionless (of_decide_eq_true lan)] at session
  contradiction

theorem KeepsUdp.undoLanAdmission : KeepsUdp tables (tables.undoLanAdmission peer) := by
  unfold PeerTables.undoLanAdmission
  split
  · exact .of_phases fallBack_udpPeers fallBack_connections fun _ => fallBack_phases
  · exact .refl

theorem KeepsUdp.failLanSend {failure : LanFailure} : KeepsUdp tables (tables.failLanSend peer failure) := by
  simp only [PeerTables.failLanSend]
  split <;> exact .of_phases rfl rfl fun _ => rfl

theorem create_seeding {state : PeerState} : (tables.create peer state).phases peer.serial = .seeding := by
  rw [create_phases, if_pos rfl]

theorem create_opening (registered : Registered tables) {state : PeerState}
    (numbered : peer.serial = tables.connections.length) (waits : tables.Opening peerId sessionId) :
    (tables.create peer state).Opening peerId sessionId := by
  obtain ⟨waiting, member, seeding, key, session⟩ := waits
  refine ⟨waiting, List.mem_append_left _ member, ?_, key, session⟩
  rw [create_phases, if_neg ((registered.created_of_mem member).older numbered)]
  exact seeding

end PeerTables

namespace PeerManager

open PeerTables

variable {settings : Udp.Settings} {tables next : PeerTables} {udp : UdpTransport} {manager final : PeerManager}
  {peer : PeerConnection} {peerId : PeerId} {sessionId : SessionId} {expected : Option SessionId} {session : Session}

/-- What the manager has on record for the sessions of its transport. -/
def Agreed (tables : PeerTables) (udp : UdpTransport) : Prop := Settled tables.recorded tables.Opening udp

theorem Agreed.keeps (agreed : Agreed tables udp) (keeps : KeepsUdp tables next) : Agreed next udp := by
  intro peerId
  unfold Agreed at agreed
  rw [keeps.recorded]
  refine ⟨fun session found => ?_, (agreed peerId).unannounced⟩
  exact ((agreed peerId).announced session found).imp_right (Or.imp_right keeps.opening)

/-- Dropping the entry of the peer leaves its announced session to a callback
that has still to register it. -/
def Spares (tables : PeerTables) (udp : UdpTransport) (peerId : PeerId) (expected : Option SessionId) : Prop :=
  tables.Drops peerId expected → ∀ session ∈ udp.announcedSession peerId,
    tables.recorded peerId = some session.sessionId →
      .dispatchConnected session ∈ udp.callbacks ∨ tables.Opening peerId session.sessionId

instance (tables : PeerTables) (udp : UdpTransport) (peerId : PeerId) (expected : Option SessionId) :
    Decidable (Spares tables udp peerId expected) := inferInstanceAs (Decidable (_ → ∀ _ ∈ _, _ → _))

theorem onUdpDisconnected_agreed
    (elsewhere : ∀ other, other ≠ peerId → SettledAt tables.recorded tables.Opening udp other)
    (announced : ∀ session, udp.announcedSession peerId = some session →
      tables.recorded peerId = some session.sessionId ∨ .dispatchConnected session ∈ udp.callbacks ∨
        tables.Opening peerId session.sessionId)
    (unannounced : ∀ sessionId, udp.announcedSession peerId = none → tables.recorded peerId = some sessionId →
      .onDisconnected peerId sessionId ∈ udp.callbacks ∨ tables.Drops peerId expected)
    (spares : Spares tables udp peerId expected) : Agreed (tables.onUdpDisconnected peerId expected) udp := by
  intro other
  by_cases own : other = peerId
  · subst own
    by_cases drops : tables.Drops other expected
    · refine ⟨fun session found => .inr ?_, fun sessionId _ recorded => ?_⟩
      · rw [onUdpDisconnected_opening]
        rcases announced session found with recorded | covered
        · exact spares drops session found recorded
        · exact covered
      · rw [recorded_onUdpDisconnected, if_pos ⟨rfl, drops⟩] at recorded
        contradiction
    · have kept : (tables.onUdpDisconnected other expected).recorded other = tables.recorded other := by
        rw [recorded_onUdpDisconnected, if_neg fun both => drops both.2]
      refine ⟨fun session found => ?_, fun sessionId absent recorded => ?_⟩
      · rw [kept, onUdpDisconnected_opening]
        exact announced session found
      · exact (unannounced sessionId absent (kept ▸ recorded)).resolve_right drops
  · have kept : (tables.onUdpDisconnected peerId expected).recorded other = tables.recorded other := by
      rw [recorded_onUdpDisconnected, if_neg fun both => own both.1]
    refine ⟨fun session found => ?_, fun sessionId absent recorded => ?_⟩
    · rw [kept, onUdpDisconnected_opening]
      exact (elsewhere other own).announced session found
    · exact (elsewhere other own).unannounced sessionId absent (kept ▸ recorded)

theorem Agreed.onUdpDisconnected (agreed : Agreed tables udp) (spares : Spares tables udp peerId expected) :
    Agreed (tables.onUdpDisconnected peerId expected) udp :=
  onUdpDisconnected_agreed (fun other _ => agreed other) (agreed peerId).announced
    (fun sessionId absent recorded => .inl ((agreed peerId).unannounced sessionId absent recorded)) spares

/-! ## Registering a session -/

/-- Once the callback that waits on `peer` ends, the announced session of the
peer is on record or about to be, and a record of an ended one is due to go. -/
def RegistersCurrent (tables : PeerTables) (udp : UdpTransport) (peer : PeerConnection) (record : Option SessionId) :
    Prop :=
  (∀ session ∈ udp.announcedSession peer.peerId, record = some session.sessionId ∨
      .dispatchConnected session ∈ udp.callbacks ∨
      (tables.setPhase peer .finished).Opening peer.peerId session.sessionId) ∧
  (udp.announcedSession peer.peerId = none → ∀ sessionId ∈ record,
      .onDisconnected peer.peerId sessionId ∈ udp.callbacks)

instance (tables : PeerTables) (udp : UdpTransport) (peer : PeerConnection) (record : Option SessionId) :
    Decidable (RegistersCurrent tables udp peer record) := inferInstanceAs (Decidable ((∀ _ ∈ _, _) ∧ (_ → ∀ _ ∈ _, _)))

theorem finished_opening (registered : Registered tables) (created : tables.Created peer) (other : peerId ≠ peer.peerId)
    (waits : tables.Opening peerId sessionId) : (tables.setPhase peer .finished).Opening peerId sessionId := by
  obtain ⟨waiting, member, seeding, key, session⟩ := waits
  refine ⟨waiting, member, ?_, key, session⟩
  rw [setPhase_phases, if_neg]
  · exact seeding
  · intro same
    have equal := (registered.created_of_mem member).unique created same
    exact other (key.symm.trans (congrArg PeerConnection.peerId equal))

/-- The end of `_seed_peer_dnd` for a UDP connection, with `record` what is then
on record for its peer. -/
theorem finished_agreed (agreed : Agreed tables udp) (registered : Registered tables) (created : tables.Created peer)
    (recorded : ∀ other, next.recorded other = if other = peer.peerId then record else tables.recorded other)
    (waiting : ∀ {peerId sessionId}, (tables.setPhase peer .finished).Opening peerId sessionId ↔
      next.Opening peerId sessionId)
    (current : RegistersCurrent tables udp peer record) : Agreed next udp := by
  intro other
  by_cases own : other = peer.peerId
  · subst own
    refine ⟨fun session found => ?_, fun sessionId absent found => ?_⟩
    · rw [recorded, if_pos rfl, ← waiting]
      exact current.1 session found
    · rw [recorded, if_pos rfl] at found
      exact current.2 absent sessionId found
  · refine ⟨fun session found => ?_, fun sessionId absent found => ?_⟩
    · rw [recorded, if_neg own, ← waiting]
      exact ((agreed other).announced session found).imp_right
        (Or.imp_right (finished_opening registered created own))
    · rw [recorded, if_neg own] at found
      exact (agreed other).unannounced sessionId absent found

/-! ## Callbacks -/

theorem takeCallback_mem {index : Nat} {told callback : Callback} (found : manager.udp.callbacks[index]? = some told)
    (member : callback ∈ manager.udp.callbacks) :
    callback ∈ (manager.takeCallback index).udp.callbacks ∨ callback = told := by
  obtain ⟨position, located⟩ := List.mem_iff_getElem?.mp member
  by_cases same : position = index
  · subst same
    exact .inr (Option.some.inj (located.symm.trans found))
  · exact .inl (List.mem_eraseIdx_iff_getElem?.mpr ⟨position, same, located⟩)

theorem takeCallback_announced {index : Nat} :
    (manager.takeCallback index).udp.announcedSession peerId = manager.udp.announcedSession peerId := rfl

/-- A connected callback has been taken, and its session is on record, about to
be, or covered by another callback. -/
theorem Agreed.takeConnected {index : Nat} (agreed : Agreed manager.toPeerTables manager.udp)
    (found : manager.udp.callbacks[index]? = some (.dispatchConnected session))
    (keeps : KeepsUdp manager.toPeerTables next)
    (covered : ∀ peerId, manager.udp.announcedSession peerId = some session →
      next.recorded peerId = some session.sessionId ∨
        .dispatchConnected session ∈ (manager.takeCallback index).udp.callbacks ∨
        next.Opening peerId session.sessionId) :
    Agreed next (manager.takeCallback index).udp := by
  intro peerId
  refine ⟨fun other announced => ?_, fun sessionId absent recorded => ?_⟩
  · rw [takeCallback_announced] at announced
    rcases (agreed peerId).announced other announced with recorded | told | opening
    · exact .inl (keeps.recorded ▸ recorded)
    · rcases takeCallback_mem found told with left | taken
      · exact .inr (.inl left)
      · cases taken
        exact covered peerId announced
    · exact .inr (.inr (keeps.opening opening))
  · rw [keeps.recorded] at recorded
    rcases takeCallback_mem found ((agreed peerId).unannounced sessionId absent recorded) with left | taken
    · exact left
    · contradiction

/-- The callbacks that keep the two in agreement, in the state without the
callback itself. -/
def KeepsOnCallback (manager : PeerManager) : Callback → Prop
  | .dispatchConnected session => manager.udp.announcedSession session.peerId = some session →
      manager.peerLimitReached session.peerId = true →
        manager.recorded session.peerId = some session.sessionId ∨
          .dispatchConnected session ∈ manager.udp.callbacks ∨ manager.Opening session.peerId session.sessionId
  | .onDisconnected peerId sessionId => Spares manager.toPeerTables manager.udp peerId (some sessionId)
  | .onPacket delivery => delivery.packet.type = .live .goodbye →
      Spares manager.toPeerTables manager.udp delivery.session.peerId none

instance (manager : PeerManager) : ∀ callback, Decidable (KeepsOnCallback manager callback)
  | .dispatchConnected _ => inferInstanceAs (Decidable (_ → _ → _))
  | .onDisconnected _ _ => inferInstanceAs (Decidable (Spares _ _ _ _))
  | .onPacket _ => inferInstanceAs (Decidable (_ → Spares _ _ _ _))

theorem Spares.of_none (spares : Spares tables udp peerId none) : Spares tables udp peerId expected :=
  fun ⟨old, entered, _⟩ => spares ⟨old, entered, fun contradictory => by contradiction⟩

theorem dispatchConnected_agreed {index : Nat} (agreed : Agreed manager.toPeerTables manager.udp)
    (filed : manager.udp.Filed) (registered : manager.Registered)
    (found : manager.udp.callbacks[index]? = some (.dispatchConnected session))
    (keeps : KeepsOnCallback (manager.takeCallback index) (.dispatchConnected session)) :
    Agreed ((manager.takeCallback index).dispatchConnected session).toPeerTables
      ((manager.takeCallback index).dispatchConnected session).udp := by
  have key : ∀ {peerId}, manager.udp.announcedSession peerId = some session → session.peerId = peerId :=
    fun announced => filed.active_key (SessionTables.announcedSession_some.mp announced).1
  unfold dispatchConnected
  split
  · rename_i active
    unfold onUdpConnected
    split
    · rename_i full
      refine agreed.takeConnected found .refl fun peerId announced => ?_
      obtain rfl := key announced
      exact keeps announced full
    · split
      · rename_i stale
        rw [active] at stale
        simp at stale
      · refine agreed.takeConnected found ⟨rfl, create_opening registered rfl⟩ fun peerId announced => .inr (.inr ?_)
        obtain rfl := key announced
        exact ⟨_, List.mem_append_right _ (List.mem_singleton.mpr rfl), create_seeding, rfl, rfl⟩
  · rename_i inactive
    refine agreed.takeConnected found .refl fun peerId announced => ?_
    obtain rfl := key announced
    exact absurd (SessionTables.announcedSession_some.mp announced).1 inactive

theorem onDisconnected_agreed {index : Nat} (agreed : Agreed manager.toPeerTables manager.udp)
    (found : manager.udp.callbacks[index]? = some (.onDisconnected peerId sessionId))
    (spares : Spares manager.toPeerTables (manager.takeCallback index).udp peerId (some sessionId)) :
    Agreed (manager.toPeerTables.onUdpDisconnected peerId (some sessionId)) (manager.takeCallback index).udp := by
  refine onUdpDisconnected_agreed (fun other apart => ?_) (fun session announced => ?_)
    (fun recorded absent same => ?_) spares
  · refine ⟨fun session announced => ?_, fun recorded absent same => ?_⟩
    · refine ((agreed other).announced session announced).imp_right (Or.imp_left fun told => ?_)
      exact (takeCallback_mem found told).resolve_right fun taken => by contradiction
    · refine (takeCallback_mem found ((agreed other).unannounced recorded absent same)).resolve_right fun taken => ?_
      cases taken
      exact apart rfl
  · refine ((agreed peerId).announced session announced).imp_right (Or.imp_left fun told => ?_)
    exact (takeCallback_mem found told).resolve_right fun taken => by contradiction
  · rcases takeCallback_mem found ((agreed peerId).unannounced recorded absent same) with left | taken
    · exact .inl left
    · cases taken
      exact .inr (.of_recorded same)

theorem takePacket_agreed {index : Nat} {delivery : Delivery} (agreed : Agreed manager.toPeerTables manager.udp)
    (found : manager.udp.callbacks[index]? = some (.onPacket delivery)) :
    Agreed manager.toPeerTables (manager.takeCallback index).udp := by
  intro peerId
  refine ⟨fun session announced => ?_, fun recorded absent same => ?_⟩
  · refine ((agreed peerId).announced session announced).imp_right (Or.imp_left fun told => ?_)
    exact (takeCallback_mem found told).resolve_right fun taken => by contradiction
  · exact (takeCallback_mem found ((agreed peerId).unannounced recorded absent same)).resolve_right
      fun taken => by contradiction

theorem onUdpPacket_agreed {delivery : Delivery} {draw : SendDraw} (agreed : Agreed manager.toPeerTables manager.udp)
    (registered : manager.Registered) (keeps : KeepsOnCallback manager (.onPacket delivery)) :
    Agreed (manager.onUdpPacket settings delivery draw).toPeerTables (manager.onUdpPacket settings delivery draw).udp := by
  unfold onUdpPacket
  split
  · exact agreed
  · rename_i peer found
    split
    · simp only [actOnPacket]
      split
      · exact (UdpTransport.settled_of_quiet fun _ => UdpTransport.sendPacket_quiet).finish agreed
      · rename_i goodbye
        have spares := keeps goodbye
        rw [← (registered.udp_key (connectedUdp_some.mp found).1).1] at spares
        exact Agreed.onUdpDisconnected agreed spares.of_none
      · exact agreed
    · exact agreed

theorem onCallback_agreed {index : Nat} {draw : SendDraw} {told : Callback}
    (agreed : Agreed manager.toPeerTables manager.udp) (filed : manager.udp.Filed) (registered : manager.Registered)
    (found : manager.udp.callbacks[index]? = some told) (keeps : KeepsOnCallback (manager.takeCallback index) told) :
    Agreed ((manager.takeCallback index).onCallback settings draw told).toPeerTables
      ((manager.takeCallback index).onCallback settings draw told).udp := by
  cases told with
  | dispatchConnected session => exact dispatchConnected_agreed agreed filed registered found keeps
  | onDisconnected peerId sessionId => exact onDisconnected_agreed agreed found keeps
  | onPacket delivery =>
      have taken := takePacket_agreed agreed found
      exact onUdpPacket_agreed taken registered keeps

/-! ## Sends -/

def connectionFails : Except Failure α → Bool
  | .error (.connection _) => true
  | .error (.value _) | .ok _ => false

theorem Spares.quiet {after : UdpTransport} (quiet : UdpTransport.Quiet udp after)
    (spares : Spares tables udp peerId expected) : Spares tables after peerId expected := by
  unfold Spares
  rw [quiet.announcedSession, quiet.callbacks]
  exact spares

theorem quiet_of_run {handler : Handling α} {outcome : Except Failure α} {after : UdpTransport}
    (quiet : Handler.Keeps (UdpTransport.Quiet udp) handler) (run : handler udp = (outcome, after)) :
    UdpTransport.Quiet udp after := by
  have kept := quiet udp .refl
  rw [run] at kept
  cases outcome <;> exact kept

theorem sendPacket_agreed {packet : Packet} {draw : SendDraw} (agreed : Agreed manager.toPeerTables manager.udp)
    (spares : connectionFails (UdpTransport.sendPacket settings draw.call peer.peerId packet draw.messageId
        draw.nonces manager.udp).1 = true →
      Spares manager.toPeerTables manager.udp peer.peerId peer.udpSessionId) :
    Agreed (manager.sendPacket settings peer packet draw).toPeerTables (manager.sendPacket settings peer packet draw).udp := by
  unfold sendPacket
  split
  · exact agreed
  · rcases sent : UdpTransport.sendPacket settings draw.call peer.peerId packet draw.messageId draw.nonces manager.udp
      with ⟨outcome, after⟩
    have quiet := quiet_of_run UdpTransport.sendPacket_quiet sent
    have kept : Agreed manager.toPeerTables after := quiet.settled agreed
    rw [sent] at spares
    rcases outcome with (text | text) | _
    · exact kept
    · exact kept.onUdpDisconnected ((spares rfl).quiet quiet)
    · exact kept

theorem sendRound_agreed {call : Nat} {sending : Sending} (agreed : Agreed manager.toPeerTables manager.udp)
    (spares : connectionFails (UdpTransport.sendRound call sending manager.udp).1 = true →
      Spares manager.toPeerTables manager.udp peer.peerId peer.udpSessionId) :
    Agreed (manager.sendRound call peer sending).toPeerTables (manager.sendRound call peer sending).udp := by
  simp only [sendRound]
  rcases sent : UdpTransport.sendRound call sending manager.udp with ⟨outcome, after⟩
  have quiet := quiet_of_run UdpTransport.sendRound_quiet sent
  have kept : Agreed manager.toPeerTables after := quiet.settled agreed
  rw [sent] at spares
  rcases outcome with (text | text) | (_ | _)
  · exact kept
  · exact kept.onUdpDisconnected ((spares rfl).quiet quiet)
  · exact kept
  · exact kept

/-! ## LAN connections -/

theorem lanRaised_keepsUdp : KeepsUdp tables (lanRaised settings tables peer) := by
  unfold lanRaised
  split
  · exact .of_phases rfl rfl fun _ => rfl
  · exact .refl

theorem lanSeeded_keepsUdp {loaded : Bool} (registered : tables.Registered) (created : tables.Created peer)
    (lan : peer.isLan = true) : KeepsUdp tables (lanSeeded settings peer loaded tables) := by
  rcases lanSeeded_cases settings tables peer loaded with
    same | same | ⟨-, -, same⟩ <;> rw [same]
  · exact lanRaised_keepsUdp.trans
      (.setLanPhase (lanRaised_registered registered created lan) (lanRaised_created.mpr created) lan)
  · exact .setLanPhase registered created lan
  · have admitted := registered.selectLan created lan
    refine ⟨rfl, fun waits => ?_⟩
    exact (KeepsUdp.setLanPhase registered created lan).opening waits

theorem upserted_keepsUdp {saved : Bool} (registered : tables.Registered) (created : tables.Created peer)
    (lan : peer.isLan = true) : KeepsUdp tables (upserted settings peer saved tables) := by
  unfold upserted
  split
  · exact .setLanPhase registered created lan
  · have raised : (lanRaised settings tables peer).Registered := lanRaised_registered registered created lan
    exact (lanRaised_keepsUdp.trans .undoLanAdmission).trans
      (.setLanPhase raised.undoLanAdmission (undoLanAdmission_created.mpr (lanRaised_created.mpr created)) lan)

theorem endReceiveLoop_keepsUdp (registered : tables.Registered) (created : tables.Created peer)
    (lan : peer.isLan = true) : KeepsUdp tables ((tables.endReceiveLoop peer).setPhase peer .finished) := by
  have ended := registered.setLanState .disconnected created lan
  have kept : KeepsUdp tables (tables.setState peer .disconnected) := .of_phases rfl rfl fun _ => rfl
  exact (kept.trans .undoLanAdmission).trans
    (.setLanPhase ended.undoLanAdmission (undoLanAdmission_created.mpr created) lan)

/-! ## Runs -/

/-- The invariant of a run. -/
structure Coherent (manager : PeerManager) : Prop where
  tracked : Tracked False manager.udp
  registered : manager.Registered
  agreed : Agreed manager.toPeerTables manager.udp

/-- The events that keep the manager's entries and the transport's sessions in
agreement.  What may part them is a session that ends or fails to be announced
while an older one is on record, a callback that registers a session which is
no longer the announced one or is refused at the peer limit, and a send or a
GOODBYE that drops the entry of a session which stays. -/
def KeepsAgreement (settings : Udp.Settings) (manager : PeerManager) : Time × PeerEvent → Prop
  | (now, .transport event) =>
      (∀ session ∈ UdpTransport.endedSession settings manager.udp (now, event),
        UdpTransport.Undisputed manager.recorded manager.udp session) ∧
      (∀ session ∈ UdpTransport.unansweredSession settings manager.udp (now, event),
        ∀ sessionId ∈ manager.recorded session.peerId,
          .onDisconnected session.peerId sessionId ∈ manager.udp.callbacks)
  | (_, .runCallback index _) =>
      ∀ told ∈ manager.udp.callbacks[index]?, KeepsOnCallback (manager.takeCallback index) told
  | (_, .sendPacket serial packet draw) => ∀ peer ∈ manager.connections[serial]?,
      connectionFails (UdpTransport.sendPacket settings draw.call peer.peerId packet draw.messageId draw.nonces
        manager.udp).1 = true → Spares manager.toPeerTables manager.udp peer.peerId peer.udpSessionId
  | (_, .sendRound call) => ∀ peer ∈ manager.udpSends.get? call, ∀ sending ∈ manager.udp.sending.get? call,
      connectionFails (UdpTransport.sendRound call sending manager.udp).1 = true →
        Spares manager.toPeerTables manager.udp peer.peerId peer.udpSessionId
  | (_, .seeded serial loaded) => ∀ peer ∈ manager.connections[serial]?, peer.isLan = false →
      RegistersCurrent manager.toPeerTables manager.udp peer
        (if loaded then peer.udpSessionId else manager.recorded peer.peerId)
  | _ => True

instance (settings : Udp.Settings) (manager : PeerManager) : ∀ event, Decidable (KeepsAgreement settings manager event)
  | (_, .transport _) => inferInstanceAs (Decidable ((∀ _ ∈ _, _) ∧ (∀ _ ∈ _, ∀ _ ∈ _, _)))
  | (_, .runCallback _ _) => inferInstanceAs (Decidable (∀ _ ∈ _, _))
  | (_, .sendPacket _ _ _) => inferInstanceAs (Decidable (∀ _ ∈ _, _ → _))
  | (_, .sendRound _) => inferInstanceAs (Decidable (∀ _ ∈ _, ∀ _ ∈ _, _ → _))
  | (_, .seeded _ _) => inferInstanceAs (Decidable (∀ _ ∈ _, _ → RegistersCurrent _ _ _ _))
  | (_, .lanAuthenticated _ _ _ _) | (_, .upserted _ _) | (_, .setupFailed _) | (_, .lanSendFailed _ _)
  | (_, .receiveLoopEnded _) => inferInstanceAs (Decidable True)

theorem onCallback_quiet {told : Callback} {draw : SendDraw} :
    UdpTransport.Quiet manager.udp (manager.onCallback settings draw told).udp := by
  cases told with
  | dispatchConnected session =>
      simp only [onCallback, dispatchConnected, onUdpConnected]
      split
      · split
        · exact .refl
        · split <;> exact .refl
      · exact .refl
  | onDisconnected peerId sessionId => exact .refl
  | onPacket delivery =>
      simp only [onCallback, onUdpPacket]
      split
      · exact .refl
      · split
        · simp only [actOnPacket]
          split
          · exact UdpTransport.sendPacket_quiet.finish .refl
          · exact .refl
          · exact .refl
        · exact .refl

theorem step_tracked {event : Time × PeerEvent} (tracked : Tracked False manager.udp)
    (stepped : step settings manager event = some final) : Tracked False final.udp := by
  have quiet : ∀ {after}, UdpTransport.Quiet manager.udp after → Tracked False after :=
    fun quiet => (quiet.consistent tracked.consistent).tracked tracked.running
  obtain ⟨now, event⟩ := event
  cases event with
  | transport event =>
      simp only [step] at stepped
      split at stepped
      · contradiction
      · obtain ⟨udp, moved, rfl⟩ := Option.map_eq_some_iff.mp stepped
        exact UdpTransport.step_tracked tracked (fun assumed => assumed.elim) moved
  | runCallback index draw =>
      simp only [step, runCallback] at stepped
      split at stepped
      · contradiction
      · obtain ⟨told, -, rfl⟩ := Option.map_eq_some_iff.mp stepped
        have taken : Tracked False (manager.takeCallback index).udp :=
          ⟨tracked.filed, tracked.announced, tracked.index, tracked.running⟩
        exact (onCallback_quiet.consistent taken.consistent).tracked taken.running
  | sendPacket serial packet draw =>
      simp only [step] at stepped
      split at stepped
      · contradiction
      · obtain ⟨peer, -, rfl⟩ := Option.map_eq_some_iff.mp stepped
        unfold sendPacket
        split
        · exact tracked
        · rcases sent : UdpTransport.sendPacket settings draw.call peer.peerId packet draw.messageId draw.nonces
            manager.udp with ⟨outcome, after⟩
          have kept := quiet (quiet_of_run UdpTransport.sendPacket_quiet sent)
          rcases outcome with (text | text) | _ <;> exact kept
  | sendRound call =>
      obtain ⟨peer, -, rest⟩ := Option.bind_eq_some_iff.mp stepped
      obtain ⟨sending, -, rfl⟩ := Option.map_eq_some_iff.mp rest
      simp only [sendRound]
      rcases sent : UdpTransport.sendRound call sending manager.udp with ⟨outcome, after⟩
      have kept := quiet (quiet_of_run UdpTransport.sendRound_quiet sent)
      rcases outcome with (text | text) | (_ | _) <;> exact kept
  | lanAuthenticated peerId endpoint capabilities outbound =>
      cases stepped
      simp only [lanAuthenticated]
      split <;> exact tracked
  | seeded serial loaded =>
      obtain ⟨peer, -, -, rfl⟩ := resume_some stepped
      exact tracked
  | upserted serial saved =>
      obtain ⟨peer, -, -, rfl⟩ := resume_some stepped
      exact tracked
  | setupFailed serial =>
      simp only [step] at stepped
      obtain ⟨peer, -, -, rfl⟩ := resume_some stepped
      exact tracked
  | lanSendFailed serial failure =>
      obtain ⟨peer, -, rfl⟩ := Option.map_eq_some_iff.mp stepped
      exact tracked
  | receiveLoopEnded serial =>
      simp only [step] at stepped
      obtain ⟨peer, -, -, rfl⟩ := resume_some stepped
      exact tracked

theorem seeded_agreed {loaded : Bool} (agreed : Agreed tables udp) (registered : tables.Registered)
    (created : tables.Created peer)
    (current : peer.isLan = false →
      RegistersCurrent tables udp peer (if loaded then peer.udpSessionId else tables.recorded peer.peerId)) :
    Agreed (seeded settings peer loaded tables) udp := by
  unfold seeded
  split
  · exact agreed.keeps (lanSeeded_keepsUdp registered created ‹_›)
  · rename_i remote
    have current := current (Bool.of_not_eq_true remote)
    split
    · rename_i completed
      rw [if_pos completed] at current
      refine finished_agreed agreed registered created (fun other => ?_) ?_ current
      · rw [recorded, setPhase_udpPeers, registerUdp_udpPeers, Dict.get?_set]
        split <;> rfl
      · unfold Opening
        simp only [setPhase_connections, registerUdp_connections, setPhase_phases, registerUdp_phases, implies_true]
    · rename_i failed
      rw [if_neg failed] at current
      refine finished_agreed agreed registered created (fun other => ?_) .rfl current
      split
      · rename_i own
        rw [own]
        rfl
      · rfl

theorem step_agreed {event : Time × PeerEvent} (coherent : Coherent manager)
    (keeps : KeepsAgreement settings manager event) (stepped : step settings manager event = some final) :
    Agreed final.toPeerTables final.udp := by
  obtain ⟨tracked, registered, agreed⟩ := coherent
  obtain ⟨now, event⟩ := event
  cases event with
  | transport event =>
      simp only [step] at stepped
      split at stepped
      · contradiction
      · obtain ⟨udp, moved, rfl⟩ := Option.map_eq_some_iff.mp stepped
        exact UdpTransport.step_settled tracked agreed keeps.1 keeps.2 moved
  | runCallback index draw =>
      simp only [step, runCallback] at stepped
      split at stepped
      · contradiction
      · obtain ⟨told, found, rfl⟩ := Option.map_eq_some_iff.mp stepped
        exact onCallback_agreed agreed tracked.filed registered found (keeps told found)
  | sendPacket serial packet draw =>
      simp only [step] at stepped
      split at stepped
      · contradiction
      · obtain ⟨peer, found, rfl⟩ := Option.map_eq_some_iff.mp stepped
        exact sendPacket_agreed agreed (keeps peer (Option.filter_eq_some_iff.mp found).1)
  | sendRound call =>
      obtain ⟨peer, called, rest⟩ := Option.bind_eq_some_iff.mp stepped
      obtain ⟨sending, running, rfl⟩ := Option.map_eq_some_iff.mp rest
      exact sendRound_agreed agreed (keeps peer called sending running)
  | lanAuthenticated peerId endpoint capabilities outbound =>
      cases stepped
      simp only [lanAuthenticated]
      split
      · exact agreed
      · exact agreed.keeps ⟨rfl, create_opening registered rfl⟩
  | seeded serial loaded =>
      obtain ⟨peer, found, seeding, rfl⟩ := resume_some stepped
      obtain ⟨rfl, created⟩ := Registered.created_at registered found
      exact seeded_agreed agreed registered created (keeps peer found)
  | upserted serial saved =>
      obtain ⟨peer, found, admitted, rfl⟩ := resume_some stepped
      obtain ⟨rfl, created⟩ := Registered.created_at registered found
      exact agreed.keeps (upserted_keepsUdp registered created (registered.served_lan created (.inl admitted)))
  | setupFailed serial =>
      simp only [step] at stepped
      obtain ⟨peer, -, -, rfl⟩ := resume_some stepped
      exact agreed.keeps lanRaised_keepsUdp
  | lanSendFailed serial failure =>
      obtain ⟨peer, -, rfl⟩ := Option.map_eq_some_iff.mp stepped
      exact agreed.keeps .failLanSend
  | receiveLoopEnded serial =>
      simp only [step] at stepped
      obtain ⟨peer, found, receiving, rfl⟩ := resume_some stepped
      obtain ⟨rfl, created⟩ := Registered.created_at registered found
      exact agreed.keeps (endReceiveLoop_keepsUdp registered created (registered.served_lan created (.inr receiving)))

theorem step_coherent {event : Time × PeerEvent} (coherent : Coherent manager)
    (keeps : KeepsAgreement settings manager event) (stepped : step settings manager event = some final) :
    Coherent final where
  tracked := step_tracked coherent.tracked stepped
  registered := (step_effect stepped).registered coherent.registered
  agreed := step_agreed coherent keeps stepped

theorem initial_coherent : Coherent PeerManager.initial where
  tracked := UdpTransport.initial_tracked
  registered := initial_routed.toRegistered
  agreed peerId := by
    constructor
    · intro session announced
      have found := (SessionTables.announcedSession_some.mp announced).1
      contradiction
    · intro sessionId _ recorded
      contradiction

/-! ## Agreement when nothing is in progress -/

/-- No callback of the transport waits to start or in `_seed_peer_dnd`. -/
structure Quiescent (manager : PeerManager) : Prop where
  started : manager.udp.callbacks = []
  seeded : ∀ peer ∈ manager.connections, peer.isLan = false → manager.phases peer.serial ≠ .seeding

instance (manager : PeerManager) : Decidable (Quiescent manager) :=
  decidable_of_iff (manager.udp.callbacks = [] ∧
      ∀ peer ∈ manager.connections, peer.isLan = false → manager.phases peer.serial ≠ .seeding)
    ⟨fun ⟨started, seeded⟩ => ⟨started, seeded⟩, fun ⟨started, seeded⟩ => ⟨started, seeded⟩⟩

/-- The manager has a connected entry for a session exactly while the transport
has it as the confirmed and announced active one of the peer. -/
def Agrees (manager : PeerManager) : Prop :=
  ∀ peerId sessionId,
    (∃ peer, manager.udpPeers.get? peerId = some peer ∧ manager.connected peer = true ∧
      peer.udpSessionId = some sessionId) ↔
    ∃ session, manager.udp.sessions.get? peerId = some session ∧ session.sessionId = sessionId ∧
      manager.udp.confirmed session = true ∧ (manager.udp.statusOf session).connectedNotified = true

theorem Coherent.agrees (coherent : Coherent manager) (quiescent : Quiescent manager) : Agrees manager := by
  obtain ⟨-, registered, agreed⟩ := coherent
  have idle : ∀ {peerId sessionId}, ¬ manager.Opening peerId sessionId := by
    rintro peerId sessionId ⟨peer, member, seeding, -, session⟩
    refine quiescent.seeded peer member (Bool.eq_false_iff.mpr fun lan => ?_) seeding
    rw [peer.lan_sessionless (of_decide_eq_true lan)] at session
    contradiction
  have onRecord : ∀ {peerId session}, manager.udp.announcedSession peerId = some session →
      manager.recorded peerId = some session.sessionId := by
    intro peerId session announced
    rcases (agreed peerId).announced session announced with recorded | told | opening
    · exact recorded
    · rw [quiescent.started] at told
      contradiction
    · exact absurd opening idle
  intro peerId sessionId
  constructor
  · rintro ⟨peer, entered, -, same⟩
    have recorded : manager.recorded peerId = some sessionId := Option.bind_eq_some_iff.mpr ⟨peer, entered, same⟩
    cases announced : manager.udp.announcedSession peerId with
    | none =>
        have told := (agreed peerId).unannounced sessionId announced recorded
        rw [quiescent.started] at told
        contradiction
    | some session =>
        obtain ⟨active, confirmed, notified⟩ := SessionTables.announcedSession_some.mp announced
        exact ⟨session, active, Option.some.inj ((onRecord announced).symm.trans recorded), confirmed, notified⟩
  · rintro ⟨session, active, rfl, confirmed, notified⟩
    have recorded := onRecord (SessionTables.announcedSession_some.mpr ⟨active, confirmed, notified⟩)
    obtain ⟨peer, entered, same⟩ := Option.bind_eq_some_iff.mp recorded
    exact ⟨peer, entered, registered.udp_connected entered, same⟩

/-- In every run whose events keep the agreement, the manager and its transport
agree on the announced sessions whenever no callback is in progress. -/
theorem udp_entries_follow_sessions {events : List (Time × PeerEvent)}
    (meets : Meets (step settings) (KeepsAgreement settings) initial events)
    (completed : run (step settings) initial events = some final) (quiescent : Quiescent final) : Agrees final :=
  (run_invariant Coherent (fun _ _ _ coherent keeps stepped => step_coherent coherent keeps stepped)
    initial_coherent meets completed).agrees quiescent

/-! ### A send that is never acknowledged -/

def sampleRegistration : List (Time × PeerEvent) :=
  sampleConfirmation ++ [(0, .runCallback 0 (sampleDraw 0)), (0, .seeded 0 true)]

/-- The send gives up after its last round and takes the UDP entry with it; the
session stays confirmed and announced, so nothing registers the peer again. -/
theorem failed_send_forgets_session :
    ¬ ∀ events final, run (step UdpTransport.sampleSettings) initial events = some final → Quiescent final →
      final.udpSends.size = 0 → final.peers.size < maxConnectedPeers → Agrees final := by
  intro agrees
  have reached : (run (step UdpTransport.sampleSettings) initial
      (sampleRegistration ++ [(0, .sendPacket 0 { type := .live .ping, payload := [] } (sampleDraw 1))] ++
        List.replicate 11 (0, .sendRound 1))).any (fun final =>
          decide (Quiescent final) && final.udpSends.size = 0 && decide (final.peers.size < maxConnectedPeers) &&
          (final.udpPeers.get? "b0").isNone &&
          (final.udp.sessions.get? "b0").any (fun session =>
            final.udp.confirmed session && (final.udp.statusOf session).connectedNotified)) = true := by
    decide +kernel
  simp only [Option.any_eq_true, Bool.and_eq_true, decide_eq_true_eq] at reached
  obtain ⟨final, completed, ⟨⟨⟨quiescent, sends⟩, room⟩, absent⟩, session, active, confirmed, notified⟩ := reached
  obtain ⟨peer, entered, -⟩ := (agrees _ final completed quiescent sends room "b0" session.sessionId).mpr
    ⟨session, active, rfl, confirmed, notified⟩
  rw [Option.isNone_iff_eq_none.mp absent] at entered
  contradiction

/-- Up to the send, the entry is that of the announced session. -/
theorem registration_follows_session : ∃ final,
    run (step UdpTransport.sampleSettings) initial sampleRegistration = some final ∧ final.udpPeers.size = 1 ∧
      Agrees final := by
  have reached : (run (step UdpTransport.sampleSettings) initial sampleRegistration).any (fun final =>
      decide (final.udpPeers.size = 1) && decide (Quiescent final)) = true := by decide +kernel
  simp only [Option.any_eq_true, Bool.and_eq_true, decide_eq_true_eq] at reached
  obtain ⟨final, completed, size, quiescent⟩ := reached
  exact ⟨final, completed, size, udp_entries_follow_sessions (by decide +kernel) completed quiescent⟩

end PeerManager

end MeshTalk.Peers
