import MeshTalk.Udp.Duplicates

namespace MeshTalk.Udp

open MeshTalk.Library MeshTalk.Protocol Handler

/-! # A packet from `send_packet` to `on_packet` -/

namespace UdpTransport

open SessionTables

variable {settings : Settings} {now : Time} {transport start next final : UdpTransport} {session : Session}
  {route : Route} {packet : Packet} {messageId pieces : Nat} {frame : Bytes}

/-! ## Splitting -/

theorem fragmentsOf_length :
    (fragmentsOf frame).length = (frame.length + fragmentSize - 1) / fragmentSize := by
  simp [fragmentsOf]

theorem fragmentsOf_get {index : Nat} (inside : index < (fragmentsOf frame).length) :
    (fragmentsOf frame)[index] = (frame.drop (index * fragmentSize)).take fragmentSize := by
  simp [fragmentsOf]

theorem fragment_length {fragment : Bytes} (member : fragment ∈ fragmentsOf frame) :
    fragment.length ≤ fragmentSize := by
  obtain ⟨index, -, rfl⟩ := List.mem_map.mp member
  exact List.length_take_le _ _

/-- The pieces up to an offset make up the part of the frame before it. -/
theorem flatMap_pieces :
    (List.range pieces).flatMap (fun index => (frame.drop (index * fragmentSize)).take fragmentSize) =
      frame.take (pieces * fragmentSize) := by
  induction pieces with
  | zero => simp
  | succ pieces ih =>
      rw [List.range_succ, List.flatMap_append, ih, Nat.succ_mul, List.take_add]
      simp

theorem flatMap_fragments :
    (List.range (fragmentsOf frame).length).flatMap
      (fun index => (frame.drop (index * fragmentSize)).take fragmentSize) = frame := by
  rw [flatMap_pieces, fragmentsOf_length]
  refine List.take_of_length_le ?_
  unfold fragmentSize
  omega

/-! ## Sending -/

/-- Size of a DATA datagram: magic, type, session id, message id, index, count
and nonce, then the ciphertext. -/
def dataSize (ciphertext : Bytes) : Nat := 4 + 1 + 8 + 8 + 2 + 2 + 12 + ciphertext.length

def maxDatagramSize : Nat := 1200

def dataHeader (session : Session) (messageId count : Nat) (nonces : Nat → Bytes) (index : Nat) : DataHeader :=
  { sessionId := session.sessionId, messageId, index, count, nonce := nonces index }

def datagramsOf (settings : Settings) (session : Session) (messageId : Nat) (nonces : Nat → Bytes)
    (frame : Bytes) : List Datagram :=
  (fragmentsOf frame).mapIdx fun index fragment =>
    encryptFragment settings session messageId index (fragmentsOf frame).length (nonces index) fragment

theorem mem_datagramsOf {nonces : Nat → Bytes} {datagram : Datagram} :
    datagram ∈ datagramsOf settings session messageId nonces frame ↔
      ∃ index, ∃ inside : index < (fragmentsOf frame).length,
        datagram = .data (dataHeader session messageId (fragmentsOf frame).length nonces index)
          (settings.crypto.encrypt session.transmitEncryptionKey
            (dataHeader session messageId (fragmentsOf frame).length nonces index) (fragmentsOf frame)[index]) := by
  simp only [datagramsOf, List.mem_mapIdx]
  exact exists_congr fun index => exists_congr fun inside => eq_comm

/-- A call with its datagrams before its first round. -/
def waiting (settings : Settings) (session : Session) (messageId : Nat) (nonces : Nat → Bytes)
    (frame : Bytes) : Sending where
  session := session
  messageId := messageId
  datagrams := datagramsOf settings session messageId nonces frame
  remaining := maxRetries
  acknowledged := false

/-- What `send_packet` has fixed once it waits for its first acknowledgement. -/
theorem sendPacket_accepted {call : Nat} {peerId : PeerId} {nonces : Nat → Bytes}
    (accepted : sendPacket settings call peerId packet messageId nonces transport = (.ok ⟨⟩, next)) :
    ∃ session frame, packet.encode = some frame ∧ (fragmentsOf frame).length ≤ maxFragments ∧
      next.sending.get? call = some (waiting settings session messageId nonces frame) := by
  have spec : Ensures (· = transport) (sendPacket settings call peerId packet messageId nonces)
      (fun _ state => ∃ session frame, packet.encode = some frame ∧ (fragmentsOf frame).length ≤ maxFragments ∧
        state.sending.get? call = some (waiting settings session messageId nonces frame))
      (fun _ => True) := by
    refine Ensures.read fun seen _ => Ensures.bind (Ensures.orRaise (Q := fun _ _ => True) (fun _ _ _ => trivial)
      fun _ _ _ _ => trivial) fun session => Ensures.bind (Ensures.orRaise
        (Q := fun frame _ => packet.encode = some frame) (fun _ _ _ => trivial) fun _ _ _ encoded => encoded) fun frame =>
      Ensures.bind (Ensures.refuse (Q := fun _ _ => packet.encode = some frame ∧
        (fragmentsOf frame).length ≤ maxFragments) (fun _ _ _ => trivial) ?_) fun _ =>
      Ensures.bind (Ensures.refuse (Q := fun _ _ => packet.encode = some frame ∧
        (fragmentsOf frame).length ≤ maxFragments) (fun _ _ _ => trivial) fun _ held _ => held) fun _ => Ensures.change ?_
    · intro _ encoded fits
      exact ⟨encoded, Nat.not_lt.mp fun long => fits (.inr long)⟩
    · rintro state ⟨encoded, fits⟩
      refine ⟨session, frame, encoded, fits, ?_⟩
      rw [Dict.get?_set, if_pos rfl]
      rfl
  have result := spec transport rfl
  rwa [accepted] at result

/-! ## Datagrams of other messages -/

/-- Nothing that receiving the message depends on has changed. -/
structure Aside (messageId : Nat) (start next : UdpTransport) : Prop where
  sessionsById : next.sessionsById = start.sessionsById
  confirmed : ∀ session, next.confirmed session = start.confirmed session
  derpSender : next.derpSender = start.derpSender
  derpPeers : next.derpPeers = start.derpPeers
  seen : ∀ session, (next.statusOf session).seen.get? messageId = (start.statusOf session).seen.get? messageId
  reassemblies : ∀ session,
    (next.statusOf session).reassemblies.get? messageId = (start.statusOf session).reassemblies.get? messageId
  handed : ∀ serial, next.handed serial messageId = start.handed serial messageId

theorem Aside.refl : Aside messageId transport transport :=
  ⟨rfl, fun _ => rfl, rfl, rfl, fun _ => rfl, fun _ => rfl, fun _ => rfl⟩

theorem Aside.trans {last : UdpTransport} (earlier : Aside messageId start next) (later : Aside messageId next last) :
    Aside messageId start last where
  sessionsById := later.sessionsById.trans earlier.sessionsById
  confirmed session := (later.confirmed session).trans (earlier.confirmed session)
  derpSender := later.derpSender.trans earlier.derpSender
  derpPeers := later.derpPeers.trans earlier.derpPeers
  seen session := (later.seen session).trans (earlier.seen session)
  reassemblies session := (later.reassemblies session).trans (earlier.reassemblies session)
  handed serial := (later.handed serial).trans (earlier.handed serial)

theorem OnMessage.aside {other : Nat} (only : OnMessage other start next) (apart : messageId ≠ other) :
    Aside messageId start next where
  sessionsById := only.quiet.tables.sessionsById
  confirmed := only.quiet.tables.confirmed
  derpSender := only.derpSender
  derpPeers := only.derpPeers
  seen session := by rw [only.seen]
  reassemblies session := only.reassemblies session messageId apart
  handed _ := handed_congr only.quiet.callbacks

theorem marked_statusOf {other : Session} :
    (transport.marked now session messageId packet).statusOf other =
      if other.serial = session.serial then
        { transport.statusOf session with seen := (transport.statusOf session).seen.set messageId now }
      else transport.statusOf other :=
  setStatus_statusOf

theorem marked_aside {other : Nat} (apart : messageId ≠ other) :
    Aside messageId transport (transport.marked now session other packet) where
  sessionsById := rfl
  confirmed peer := by
    rw [confirmed_eq, confirmed_eq, marked_statusOf]
    split
    · rename_i same
      rw [statusOf, statusOf, same]
    · rfl
  derpSender := rfl
  derpPeers := rfl
  seen peer := by
    rw [marked_statusOf]
    split
    · rename_i same
      rw [Dict.get?_set, if_neg apart, statusOf, statusOf, same]
    · rfl
  reassemblies peer := by
    rw [marked_statusOf]
    split
    · rename_i same
      rw [statusOf, statusOf, same]
    · rfl
  handed _ := rfl

theorem told_aside {other : Nat} (apart : messageId ≠ other) :
    Aside messageId transport (transport.told (.onPacket { session, messageId := other, packet })) where
  sessionsById := rfl
  confirmed _ := rfl
  derpSender := rfl
  derpPeers := rfl
  seen _ := rfl
  reassemblies _ := rfl
  handed serial := by
    rw [told_handed]
    simp [Callback.packetOf, apart.symm]

theorem handleData_aside {header : DataHeader} {ciphertext : Bytes} (apart : header.messageId ≠ messageId) :
    Aside messageId transport ((handleData settings now header ciphertext route).finish transport) := by
  by_cases some : ∃ session fragment packet,
      Completing settings now transport header ciphertext route session fragment packet
  · obtain ⟨session, fragment, packet, completing⟩ := some
    obtain ⟨received, answered, only, answer, final⟩ := handleData_completing completing
    have before := (only.aside apart.symm).trans ((marked_aside apart.symm).trans (answer.aside apart.symm))
    rw [final]
    split
    · exact before.trans (told_aside apart.symm)
    · exact before
  · have incomplete : ∀ session fragment packet,
        ¬ Completing settings now transport header ciphertext route session fragment packet :=
      fun session fragment packet completing => some ⟨session, fragment, packet, completing⟩
    exact (handleData_incomplete incomplete).aside apart.symm

/-! ## Datagrams of the message -/

/-- A fragment that is not the last missing one is stored. -/
theorem handleData_stored {header : DataHeader} {ciphertext fragment : Bytes}
    (opened : Opened settings transport header ciphertext route session fragment)
    (stores : Stores transport now session header fragment)
    (incomplete : ¬ Completes transport now session header fragment) :
    (((handleData settings now header ciphertext route).finish transport).statusOf session).reassemblies.get?
      header.messageId = some (transport.assembled now session header fragment) := by
  have spec : Ensures (· = transport) (handleData settings now header ciphertext route)
      (fun _ state => (state.statusOf session).reassemblies.get? header.messageId =
        some (transport.assembled now session header fragment))
      (fun state => (state.statusOf session).reassemblies.get? header.messageId =
        some (transport.assembled now session header fragment)) := by
    refine Ensures.bind (Ensures.weaken receivePacket_spec (fun _ same => same) (fun _ _ held => held) ?_) ?_
    · rintro state ⟨-, refused⟩
      exact absurd (refused session fragment opened stores).1 incomplete
    · rintro (_ | ⟨other, packet⟩)
      · refine Ensures.pure ?_
        rintro state ⟨-, other, plain, again, outcome⟩
        obtain ⟨rfl, rfl⟩ := opened.unique again
        rcases outcome with known | ⟨-, -, stored⟩
        · simp [stores.unseen] at known
        · exact stored
      · rintro state ⟨-, plain, completing⟩
        obtain ⟨rfl, rfl⟩ := opened.unique completing.opened
        exact absurd completing.completes incomplete
  exact Ensures.finish spec rfl

/-- A packet on its way from the session that sends it to one that reads it. -/
structure Transfer where
  sender : Settings
  source : Session
  settings : Settings
  session : Session
  route : Route
  messageId : Nat
  nonces : Nat → Bytes
  frame : Bytes
  packet : Packet
  heard : hears settings route = true
  onRoute : session.route = route
  decrypts : ∀ header fragment, settings.crypto.decrypt session.receiveEncryptionKey header
    (sender.crypto.encrypt source.transmitEncryptionKey header fragment) = some fragment
  fits : (fragmentsOf frame).length ≤ maxFragments
  frames : Frames frame packet
  supported : Supported packet

namespace Transfer

variable (transfer : Transfer)

def count : Nat := (fragmentsOf transfer.frame).length

def fragment (index : Nat) : Bytes := (transfer.frame.drop (index * fragmentSize)).take fragmentSize

def header (index : Nat) : DataHeader :=
  dataHeader transfer.source transfer.messageId transfer.count transfer.nonces index

def ciphertext (index : Nat) : Bytes :=
  transfer.sender.crypto.encrypt transfer.source.transmitEncryptionKey (transfer.header index) (transfer.fragment index)

theorem count_pos : 0 < transfer.count := by
  have long := transfer.frames.1
  rw [count, fragmentsOf_length]
  unfold headerSize at long
  unfold fragmentSize
  omega

/-- The session reads the packet's datagrams. -/
structure Readable (transport : UdpTransport) : Prop where
  listed : transport.sessionsById.get? transfer.source.sessionId = some transfer.session
  confirmed : transport.confirmed transfer.session = true
  can : CanSend transport transfer.route

/-- The packet is not complete; the fragments with the given indices have
arrived. -/
structure Collecting (before : List Packet) (arrived : Nat → Prop) (transport : UdpTransport) : Prop where
  readable : transfer.Readable transport
  unseen : (transport.statusOf transfer.session).seen.get? transfer.messageId = none
  counted : ∀ held, (transport.statusOf transfer.session).reassemblies.get? transfer.messageId = some held →
    held.count = transfer.count
  stored : ∀ held, (transport.statusOf transfer.session).reassemblies.get? transfer.messageId = some held →
    ∀ index fragment, held.fragments.get? index = some fragment →
      index < transfer.count ∧ fragment = transfer.fragment index
  incomplete : ∀ held, (transport.statusOf transfer.session).reassemblies.get? transfer.messageId = some held →
    held.fragments.size < transfer.count
  kept : ∀ index, arrived index → ∃ held fragment,
    (transport.statusOf transfer.session).reassemblies.get? transfer.messageId = some held ∧
      held.fragments.get? index = some fragment
  handed : transport.handed transfer.session.serial transfer.messageId = before

/-- The packet is marked as seen and was handed over once. -/
structure Received (before : List Packet) (transport : UdpTransport) : Prop where
  readable : transfer.Readable transport
  seen : (transport.statusOf transfer.session).seen.contains transfer.messageId = true
  handed : transport.handed transfer.session.serial transfer.messageId = before ++ [transfer.packet]

variable {transfer} {before : List Packet} {arrived : Nat → Prop} {index : Nat}

theorem Readable.aside (readable : transfer.Readable start) (aside : Aside messageId start next) :
    transfer.Readable next where
  listed := aside.sessionsById ▸ readable.listed
  confirmed := (aside.confirmed _).trans readable.confirmed
  can := by
    have can := readable.can
    unfold CanSend at can ⊢
    rwa [aside.derpSender, aside.derpPeers]

theorem Readable.onMessage (readable : transfer.Readable start) (only : OnMessage messageId start next) :
    transfer.Readable next where
  listed := only.quiet.tables.sessionsById ▸ readable.listed
  confirmed := (only.quiet.tables.confirmed _).trans readable.confirmed
  can := only.canSend.mpr readable.can

theorem Readable.opened (readable : transfer.Readable transport) (inside : index < transfer.count) :
    Opened transfer.settings transport (transfer.header index) (transfer.ciphertext index) transfer.route
      transfer.session (transfer.fragment index) where
  listed := readable.listed
  onRoute := transfer.onRoute
  confirmed := readable.confirmed
  indexed := by
    rintro (none | many | outside)
    · exact absurd none (Nat.not_lt.mpr transfer.count_pos)
    · exact absurd many (Nat.not_lt.mpr transfer.fits)
    · exact absurd inside (Nat.not_lt.mpr outside)
  decrypted := transfer.decrypts _ _

theorem Collecting.aside (collecting : transfer.Collecting before arrived start)
    (aside : Aside transfer.messageId start next) : transfer.Collecting before arrived next where
  readable := collecting.readable.aside aside
  unseen := (aside.seen _).trans collecting.unseen
  counted held found := collecting.counted held ((aside.reassemblies _).symm.trans found)
  stored held found := collecting.stored held ((aside.reassemblies _).symm.trans found)
  incomplete held found := collecting.incomplete held ((aside.reassemblies _).symm.trans found)
  kept index arrival := by
    obtain ⟨held, fragment, found, kept⟩ := collecting.kept index arrival
    exact ⟨held, fragment, (aside.reassemblies _).trans found, kept⟩
  handed := (aside.handed _).trans collecting.handed

theorem Collecting.mono {fewer : Nat → Prop} (collecting : transfer.Collecting before arrived transport)
    (implied : ∀ index, fewer index → arrived index) : transfer.Collecting before fewer transport :=
  { collecting with kept := fun index arrival => collecting.kept index (implied index arrival) }

theorem Received.aside (received : transfer.Received before start) (aside : Aside transfer.messageId start next) :
    transfer.Received before next where
  readable := received.readable.aside aside
  seen := by rw [Dict.contains, aside.seen]; exact received.seen
  handed := (aside.handed _).trans received.handed

/-- Every fragment the reassembly holds, the new one included, is the packet's. -/
theorem Collecting.assembled_get (collecting : transfer.Collecting before arrived transport)
    (inside : index < transfer.count) {other : Nat} {fragment : Bytes}
    (found : (transport.assembled now transfer.session (transfer.header index)
      (transfer.fragment index)).fragments.get? other = some fragment) :
    other < transfer.count ∧ fragment = transfer.fragment other := by
  simp only [assembled, Dict.get?_set] at found
  split at found
  · rename_i same
    cases found
    exact ⟨same ▸ inside, same ▸ rfl⟩
  · cases held : (transport.statusOf transfer.session).reassemblies.get? (transfer.header index).messageId with
    | none => rw [held] at found; contradiction
    | some reassembly =>
        rw [held] at found
        exact collecting.stored reassembly held other fragment found

theorem Collecting.assembled_kept (collecting : transfer.Collecting before arrived transport) {other : Nat}
    (arrival : other = index ∨ arrived other) :
    ∃ fragment, (transport.assembled now transfer.session (transfer.header index)
      (transfer.fragment index)).fragments.get? other = some fragment := by
  simp only [assembled, Dict.get?_set]
  by_cases new : other = index
  · exact ⟨_, if_pos new⟩
  · obtain ⟨held, fragment, found, kept⟩ := collecting.kept other (arrival.resolve_left new)
    refine ⟨fragment, (if_neg new).trans ?_⟩
    rw [show (transfer.header index).messageId = transfer.messageId from rfl, found]
    exact kept

theorem Collecting.assembled_count (collecting : transfer.Collecting before arrived transport) :
    (transport.assembled now transfer.session (transfer.header index) (transfer.fragment index)).count = transfer.count := by
  simp only [assembled]
  cases held : (transport.statusOf transfer.session).reassemblies.get? (transfer.header index).messageId with
  | none => rfl
  | some reassembly => exact collecting.counted reassembly held

theorem Collecting.stores (collecting : transfer.Collecting before arrived transport)
    (room : (transport.statusOf transfer.session).reassemblies.size < maxReassemblies ∨
      (transport.statusOf transfer.session).reassemblies.contains transfer.messageId = true) :
    Stores transport now transfer.session (transfer.header index) (transfer.fragment index) where
  unseen := by rw [Dict.contains]; exact Option.isSome_eq_false_iff.mpr (Option.isNone_iff_eq_none.mpr collecting.unseen)
  room := room
  counted := collecting.assembled_count

/-- With its last missing fragment the reassembly holds the frame. -/
theorem Collecting.assembled_frame (collecting : transfer.Collecting before arrived transport)
    (inside : index < transfer.count)
    (completes : Completes transport now transfer.session (transfer.header index) (transfer.fragment index)) :
    Reassembly.frame (transport.assembled now transfer.session (transfer.header index) (transfer.fragment index)) =
      transfer.frame := by
  have whole := @flatMap_fragments transfer.frame
  rw [Reassembly.frame, collecting.assembled_count]
  refine Eq.trans (List.flatMap_congr fun other member => ?_) whole
  obtain ⟨fragment, found⟩ := Dict.get?_of_full
    (fun _ _ found => (collecting.assembled_get inside found).1) completes (List.mem_range.mp member)
  rw [found, (collecting.assembled_get inside found).2]
  rfl

theorem Collecting.completing (collecting : transfer.Collecting before arrived transport)
    (room : (transport.statusOf transfer.session).reassemblies.size < maxReassemblies ∨
      (transport.statusOf transfer.session).reassemblies.contains transfer.messageId = true)
    (inside : index < transfer.count)
    (completes : Completes transport now transfer.session (transfer.header index) (transfer.fragment index)) :
    Completing transfer.settings now transport (transfer.header index) (transfer.ciphertext index) transfer.route
      transfer.session (transfer.fragment index) transfer.packet where
  opened := collecting.readable.opened inside
  stores := collecting.stores room
  completes := completes
  frames := by
    rw [collecting.assembled_frame inside completes]
    exact transfer.frames

/-- One more of the packet's datagrams either adds its fragment or completes the
packet. -/
theorem Collecting.datagram (collecting : transfer.Collecting before arrived transport)
    (room : (transport.statusOf transfer.session).reassemblies.size < maxReassemblies ∨
      (transport.statusOf transfer.session).reassemblies.contains transfer.messageId = true)
    (inside : index < transfer.count)
    (received : (handleData transfer.settings now (transfer.header index) (transfer.ciphertext index)
      transfer.route).finish transport = next) :
    transfer.Collecting before (fun other => other = index ∨ arrived other) next ∨ transfer.Received before next := by
  have opened := collecting.readable.opened inside
  have stores : Stores transport now transfer.session (transfer.header index) (transfer.fragment index) :=
    collecting.stores room
  by_cases completes : Completes transport now transfer.session (transfer.header index) (transfer.fragment index)
  · right
    have completing := collecting.completing room inside completes
    obtain ⟨middle, answered, only, answer, final⟩ := handleData_completing completing
    rw [received, if_pos ⟨collecting.readable.can, transfer.supported⟩] at final
    have handed := handleData_handed transfer.session.serial transfer.messageId completing
      collecting.readable.can transfer.supported
    rw [received, collecting.handed] at handed
    have marking : transfer.Readable (middle.marked now transfer.session transfer.messageId transfer.packet) :=
      (collecting.readable.onMessage only).aside (marked_aside (Nat.succ_ne_self _))
    have answering : transfer.Readable answered := marking.onMessage answer
    refine ⟨?_, ?_, ?_⟩
    · rw [final]
      exact ⟨answering.listed, answering.confirmed, answering.can⟩
    · have seen := answer.seen transfer.session
      rw [marked_statusOf, if_pos rfl] at seen
      rw [final]
      change (answered.statusOf transfer.session).seen.contains transfer.messageId = true
      rw [seen, Dict.contains, Dict.get?_set]
      exact (congrArg Option.isSome (if_pos rfl)).trans rfl
    · rw [handed]
      simp [Callback.packetOf, header, dataHeader]
  · left
    have incomplete : ∀ session fragment packet, ¬ Completing transfer.settings now transport (transfer.header index)
        (transfer.ciphertext index) transfer.route session fragment packet := by
      intro session fragment packet completing
      obtain ⟨rfl, rfl⟩ := opened.unique completing.opened
      exact completes completing.completes
    have only := handleData_incomplete incomplete
    have stored := handleData_stored opened stores completes
    rw [received] at only stored
    have within : ∀ other fragment, (transport.assembled now transfer.session (transfer.header index)
        (transfer.fragment index)).fragments.get? other = some fragment →
        other < transfer.count ∧ fragment = transfer.fragment other := fun _ _ => collecting.assembled_get inside
    have size := Dict.size_le_of_below fun other fragment found => (within other fragment found).1
    refine ⟨collecting.readable.onMessage only, ?_, ?_, ?_, ?_, ?_, ?_⟩
    · rw [only.seen]
      exact collecting.unseen
    · intro held found
      cases stored.symm.trans found
      exact collecting.assembled_count
    · intro held found
      cases stored.symm.trans found
      exact within
    · intro held found
      cases stored.symm.trans found
      exact Nat.lt_of_le_of_ne size completes
    · intro other arrival
      obtain ⟨fragment, kept⟩ := collecting.assembled_kept arrival
      exact ⟨_, fragment, stored, kept⟩
    · rw [handed_congr only.quiet.callbacks]
      exact collecting.handed

/-- After the packet is complete its datagrams are only acknowledged. -/
theorem Received.datagram (received : transfer.Received before transport)
    (inside : index < transfer.count)
    (result : (handleData transfer.settings now (transfer.header index) (transfer.ciphertext index)
      transfer.route).finish transport = next) : transfer.Received before next := by
  have opened := received.readable.opened inside
  have incomplete : ∀ session fragment packet, ¬ Completing transfer.settings now transport (transfer.header index)
      (transfer.ciphertext index) transfer.route session fragment packet := by
    intro session fragment packet completing
    obtain ⟨rfl, rfl⟩ := opened.unique completing.opened
    have seen := received.seen
    have unseen : (transport.statusOf transfer.session).seen.contains transfer.messageId = false :=
      completing.stores.unseen
    rw [unseen] at seen
    contradiction
  have only := handleData_incomplete incomplete
  rw [result] at only
  refine ⟨received.readable.onMessage only, ?_, ?_⟩
  · rw [only.seen]
    exact received.seen
  · rw [handed_congr only.quiet.callbacks]
    exact received.handed

/-- A DATA datagram of the packet that finds room for it, or one of another
message. -/
def Interleaves (transfer : Transfer) (transport : UdpTransport) : Time × TransportEvent → Prop
  | (_, .datagramReceived (.data header ciphertext) route) =>
      header.messageId ≠ transfer.messageId ∨
        (∃ index, index < transfer.count ∧ header = transfer.header index ∧ ciphertext = transfer.ciphertext index) ∧
          route = transfer.route ∧
          ((transport.statusOf transfer.session).reassemblies.size < maxReassemblies ∨
            (transport.statusOf transfer.session).reassemblies.contains transfer.messageId = true)
  | _ => False

/-- The datagram with the index is one of the events. -/
def Arrives (transfer : Transfer) (events : List (Time × TransportEvent)) (index : Nat) : Prop :=
  ∃ now, (now, .datagramReceived (.data (transfer.header index) (transfer.ciphertext index)) transfer.route) ∈ events

theorem header_injective {first second : Nat} (same : transfer.header first = transfer.header second) : first = second :=
  congrArg DataHeader.index same

theorem step_interleaved (before : List Packet) (arrived : Nat → Prop) {event : Time × TransportEvent}
    (interleaves : transfer.Interleaves transport event)
    (stepped : step transfer.settings transport event = some next) :
    (transfer.Received before transport → transfer.Received before next) ∧
      (transfer.Collecting before arrived transport →
        transfer.Collecting before (fun index => transfer.Arrives [event] index ∨ arrived index) next ∨
          transfer.Received before next) := by
  obtain ⟨now, event⟩ := event
  unfold Interleaves at interleaves
  split at interleaves
  · rename_i clock header ciphertext route same
    obtain ⟨rfl, rfl⟩ := Prod.mk.inj same
    simp only [step, datagramReceived_data, Option.some.injEq] at stepped
    rcases interleaves with other | ⟨⟨index, inside, rfl, rfl⟩, rfl, room⟩
    · have aside : Aside transfer.messageId transport next := by
        rw [← stepped]
        split
        · exact handleData_aside other
        · exact .refl
      refine ⟨fun received => received.aside aside, fun collecting => .inl ?_⟩
      refine (collecting.aside aside).mono fun index arrival => arrival.resolve_left ?_
      rintro ⟨time, member⟩
      have same := (Prod.mk.inj (List.mem_singleton.mp member)).2
      obtain ⟨same, -⟩ := TransportEvent.datagramReceived.inj same
      obtain ⟨same, -⟩ := Datagram.data.inj same
      exact other (congrArg DataHeader.messageId same.symm)
    · rw [if_pos transfer.heard] at stepped
      refine ⟨fun received => received.datagram inside stepped, fun collecting => ?_⟩
      rcases collecting.datagram room inside stepped with kept | received
      · refine .inl (kept.mono fun other arrival => arrival.imp_left ?_)
        rintro ⟨time, member⟩
        have same := (Prod.mk.inj (List.mem_singleton.mp member)).2
        obtain ⟨same, -⟩ := TransportEvent.datagramReceived.inj same
        exact header_injective (Datagram.data.inj same).1
      · exact .inr received
  · contradiction

theorem run_interleaved (before : List Packet) (arrived : Nat → Prop) {events : List (Time × TransportEvent)}
    (interleaves : Meets (step transfer.settings) transfer.Interleaves start events)
    (completed : run (step transfer.settings) start events = some final) :
    (transfer.Received before start → transfer.Received before final) ∧
      (transfer.Collecting before arrived start →
        transfer.Collecting before (fun index => transfer.Arrives events index ∨ arrived index) final ∨
          transfer.Received before final) := by
  induction events generalizing start arrived with
  | nil =>
      cases completed
      exact ⟨id, fun collecting => .inl (collecting.mono fun index arrival =>
        arrival.resolve_left fun ⟨_, member⟩ => nomatch member)⟩
  | cons event rest ih =>
      obtain ⟨next, stepped, remaining⟩ := run_cons_some completed
      obtain ⟨received, collecting⟩ := step_interleaved before arrived interleaves.1 stepped
      have later := interleaves.2 next stepped
      refine ⟨fun done => (ih arrived later remaining).1 (received done), fun partly => ?_⟩
      rcases collecting partly with partly | done
      · refine ((ih _ later remaining).2 partly).imp_left fun kept => kept.mono fun index arrival => ?_
        rcases arrival with ⟨time, member⟩ | earlier
        · rcases List.mem_cons.mp member with first | later
          · exact .inr (.inl ⟨time, List.mem_singleton.mpr first⟩)
          · exact .inl ⟨time, later⟩
        · exact .inr (.inr earlier)
      · exact .inr ((ih arrived later remaining).1 done)

/-- Once every datagram of the packet has arrived, in whatever order and however
often, the packet was handed over once. -/
theorem run_received {events : List (Time × TransportEvent)}
    (collecting : transfer.Collecting before (fun _ => False) start)
    (interleaves : Meets (step transfer.settings) transfer.Interleaves start events)
    (all : ∀ index, index < transfer.count → transfer.Arrives events index)
    (completed : run (step transfer.settings) start events = some final) :
    final.handed transfer.session.serial transfer.messageId = before ++ [transfer.packet] := by
  rcases (run_interleaved before _ interleaves completed).2 collecting with partly | received
  · obtain ⟨held, -, found, -⟩ := partly.kept 0 (.inl (all 0 transfer.count_pos))
    have full : transfer.count ≤ held.fragments.size := Dict.le_size_of_all fun index inside => by
      obtain ⟨again, fragment, foundAgain, kept⟩ := partly.kept index (.inl (all index inside))
      cases found.symm.trans foundAgain
      exact ⟨fragment, kept⟩
    exact absurd full (Nat.not_le.mpr (partly.incomplete held found))
  · exact received.handed

end Transfer

/-! ## Both ends together -/

/-- The receiving transport can hear the session that mirrors the sender's, and
the message id is new to it. -/
structure Expects (settings : Settings) (sending : Sending) (session : Session) (transport : UdpTransport) : Prop where
  listed : transport.sessionsById.get? sending.session.sessionId = some session
  mirrored : session.receiveEncryptionKey = sending.session.transmitEncryptionKey
  confirmed : transport.confirmed session = true
  heard : hears settings session.route = true
  can : CanSend transport session.route
  unseen : (transport.statusOf session).seen.get? sending.messageId = none
  unstored : (transport.statusOf session).reassemblies.get? sending.messageId = none

/-- The event is the arrival of a DATA datagram: one of the packet's, with no
more reassemblies in progress than the session allows, or one of another
message. -/
def Interleaved (sending : Sending) (session : Session) (transport : UdpTransport) : Time × TransportEvent → Prop
  | (_, .datagramReceived (.data header ciphertext) route) =>
      header.messageId ≠ sending.messageId ∨
        .data header ciphertext ∈ sending.datagrams ∧ route = session.route ∧
          ((transport.statusOf session).reassemblies.size < maxReassemblies ∨
            (transport.statusOf session).reassemblies.contains sending.messageId = true)
  | _ => False

instance Interleaved.decidable (sending : Sending) (session : Session) (transport : UdpTransport) :
    ∀ event, Decidable (Interleaved sending session transport event)
  | (_, .datagramReceived (.data _ _) _) => inferInstanceAs (Decidable (_ ∨ _))
  | (_, .datagramReceived .empty _) | (_, .datagramReceived (.hello _) _)
  | (_, .datagramReceived (.authenticated _ _) _) | (_, .punch _) | (_, .maintenance _) | (_, .expectPeer _ _)
  | (_, .expectDerpPeer _) | (_, .configureDerp _ _) | (_, .clearDirectCandidate _) | (_, .forgetCandidate _)
  | (_, .sendPacket _ _ _ _ _) | (_, .sendRound _) => .isFalse id

/-- Every packet of a live type that `send_packet` accepts goes out in bounded
datagrams, and however these arrive between those of other messages, the
receiver hands over the same packet once. -/
theorem packet_received_once {sender settings : Settings} {sent : UdpTransport} {call : Nat} {peerId : PeerId}
    {type : PacketType} {nonces : Nat → Bytes} {sending : Sending}
    (decrypts : ∀ key header fragment,
      settings.crypto.decrypt key header (sender.crypto.encrypt key header fragment) = some fragment)
    (overhead : ∀ key header fragment, (sender.crypto.encrypt key header fragment).length = fragment.length + 16)
    (live : packet.type = .live type)
    (accepted : sendPacket sender call peerId packet messageId nonces transport = (.ok ⟨⟩, sent))
    (registered : sent.sending.get? call = some sending) :
    sending.datagrams.length ≤ maxFragments ∧
      (∀ datagram ∈ sending.datagrams, ∃ header ciphertext,
        datagram = .data header ciphertext ∧ dataSize ciphertext ≤ maxDatagramSize) ∧
      ∀ session start events final, Expects settings sending session start →
        Meets (step settings) (Interleaved sending session) start events →
        (∀ datagram ∈ sending.datagrams, ∃ now, (now, .datagramReceived datagram session.route) ∈ events) →
        run (step settings) start events = some final →
        final.handed session.serial sending.messageId = start.handed session.serial sending.messageId ++ [packet] := by
  obtain ⟨source, frame, encoded, fits, found⟩ := sendPacket_accepted accepted
  cases registered.symm.trans found
  obtain ⟨long, short⟩ := Packet.encode_length encoded
  refine ⟨by simpa [waiting, datagramsOf] using fits, fun datagram member => ?_, ?_⟩
  · obtain ⟨index, inside, rfl⟩ := mem_datagramsOf.mp member
    refine ⟨_, _, rfl, ?_⟩
    have piece := fragment_length (List.getElem_mem inside)
    rw [dataSize, overhead]
    unfold fragmentSize at piece
    unfold maxDatagramSize
    omega
  · intro session start events final expects meets all completed
    let transfer : Transfer := {
      sender, source, settings, session, messageId, nonces, frame, packet, fits
      route := session.route
      heard := expects.heard
      onRoute := rfl
      decrypts := fun header fragment => by
        rw [expects.mirrored]
        exact decrypts _ header fragment
      frames := ⟨long, short, Packet.decode_encode live encoded⟩
      supported := ⟨type, live⟩ }
    have datagrams : ∀ datagram, datagram ∈ datagramsOf sender source messageId nonces frame ↔
        ∃ index, index < transfer.count ∧ datagram = .data (transfer.header index) (transfer.ciphertext index) := by
      intro datagram
      rw [mem_datagramsOf]
      refine exists_congr fun index => ?_
      constructor
      · rintro ⟨inside, rfl⟩
        exact ⟨inside, by rw [fragmentsOf_get inside]; rfl⟩
      · rintro ⟨inside, rfl⟩
        exact ⟨inside, by rw [fragmentsOf_get inside]; rfl⟩
    have collecting : transfer.Collecting (start.handed session.serial messageId) (fun _ => False) start := {
      readable := ⟨expects.listed, expects.confirmed, expects.can⟩
      unseen := expects.unseen
      counted := fun held found => by cases expects.unstored.symm.trans found
      stored := fun held found => by cases expects.unstored.symm.trans found
      incomplete := fun held found => by cases expects.unstored.symm.trans found
      kept := fun _ arrival => arrival.elim
      handed := rfl }
    refine transfer.run_received collecting (meets.mono fun state event interleaved => ?_) ?_ completed
    · obtain ⟨now, event⟩ := event
      unfold Interleaved at interleaved
      split at interleaved
      · rename_i clock header ciphertext route same
        obtain ⟨rfl, rfl⟩ := Prod.mk.inj same
        rcases interleaved with other | ⟨member, routed, room⟩
        · exact .inl other
        · obtain ⟨index, inside, same⟩ := (datagrams _).mp member
          obtain ⟨sameHeader, sameText⟩ := Datagram.data.inj same
          exact .inr ⟨⟨index, inside, sameHeader, sameText⟩, routed, room⟩
      · contradiction
    · intro index inside
      exact all _ ((datagrams _).mpr ⟨index, inside, rfl⟩)

/-! Two nodes with a session, and a packet that needs two datagrams. -/

/-- Sixteen bytes follow every ciphertext. -/
def sealingCrypto : Crypto := { sampleCrypto with
  fingerprint key := if key = List.replicate 32 2 then "b0" else "a0"
  encrypt _ _ fragment := fragment ++ List.replicate 16 0
  decrypt _ _ ciphertext := some (ciphertext.take (ciphertext.length - 16)) }

def aliceSettings : Settings := { sampleSettings with crypto := sealingCrypto }

def bobSettings : Settings := { sampleSettings with
  crypto := sealingCrypto
  peerId := "b0"
  displayName := "Bob"
  signingPublicKey := List.replicate 32 2
  encryptionPublicKey := List.replicate 32 2 }

def helloOf (settings : Settings) : Hello :=
  makeHello settings (newAttempt settings 0 0 "" homeRoute)

def meets (settings peer : Settings) : Option UdpTransport :=
  run (step settings) initial
    [(0, .datagramReceived (.hello (helloOf peer)) homeRoute), (0, control .ready)]

def longPacket : Packet := { type := .live .message, payload := List.replicate 946 7 }

/-- The last datagram first, a stray one in between, and the whole once more. -/
def shuffled (datagrams : List Datagram) : List (Time × TransportEvent) :=
  (datagrams.reverse.map fun datagram => (1, .datagramReceived datagram homeRoute)) ++ [(2, messageFragment)] ++
    datagrams.map fun datagram => (3, .datagramReceived datagram homeRoute)

theorem long_packet_received_once : ∃ sender sent sending session start final,
    meets aliceSettings bobSettings = some sender ∧
      sendPacket aliceSettings 0 "b0" longPacket 5 (fun _ => []) sender = (.ok ⟨⟩, sent) ∧
      sent.sending.get? 0 = some sending ∧ sending.datagrams.length = 2 ∧
      meets bobSettings aliceSettings = some start ∧ Expects bobSettings sending session start ∧
      run (step bobSettings) start (shuffled sending.datagrams) = some final ∧
      final.handed session.serial sending.messageId = start.handed session.serial sending.messageId ++ [longPacket] := by
  have reached : (meets aliceSettings bobSettings).any (fun sender =>
      match sendPacket aliceSettings 0 "b0" longPacket 5 (fun _ => []) sender with
      | (.error _, _) => false
      | (.ok _, sent) => (sent.sending.get? 0).any fun sending => (meets bobSettings aliceSettings).any fun start =>
          (start.sessions.get? "a0").any fun session =>
            decide (start.sessionsById.get? sending.session.sessionId = some session) &&
            decide (session.receiveEncryptionKey = sending.session.transmitEncryptionKey) &&
            start.confirmed session && decide (session.route = homeRoute) &&
            decide ((start.statusOf session).seen.get? sending.messageId = none) &&
            !(start.statusOf session).reassemblies.contains sending.messageId &&
            decide (sending.datagrams.length = 2) &&
            decide (Meets (step bobSettings) (Interleaved sending session) start (shuffled sending.datagrams)) &&
            (run (step bobSettings) start (shuffled sending.datagrams)).isSome) = true := by
    decide +kernel
  rw [Option.any_eq_true] at reached
  obtain ⟨sender, alice, reached⟩ := reached
  rcases accepted : sendPacket aliceSettings 0 "b0" longPacket 5 (fun _ => []) sender with ⟨_ | _, sent⟩
  · simp [accepted] at reached
  · simp only [accepted, Option.any_eq_true, Bool.and_eq_true, decide_eq_true_eq, Bool.not_eq_true',
      Dict.contains, Option.isSome_eq_false_iff, Option.isNone_iff_eq_none] at reached
    obtain ⟨sending, registered, start, bob, session, -, ⟨⟨⟨⟨⟨⟨⟨listed, mirrored⟩, confirmed⟩, routed⟩, unseen⟩,
      unstored⟩, two⟩, interleaved⟩, finished⟩ := reached
    obtain ⟨final, completed⟩ := Option.isSome_iff_exists.mp finished
    have expects : Expects bobSettings sending session start :=
      ⟨listed, mirrored, confirmed, rfl, fun relayed => by rw [routed] at relayed; contradiction, unseen, unstored⟩
    have all : ∀ datagram ∈ sending.datagrams, ∃ now, (now, .datagramReceived datagram session.route) ∈
        shuffled sending.datagrams := fun datagram member =>
      ⟨3, routed ▸ List.mem_append_right _ (List.mem_map.mpr ⟨datagram, member, rfl⟩)⟩
    have decrypts : ∀ key header fragment, bobSettings.crypto.decrypt key header
        (aliceSettings.crypto.encrypt key header fragment) = some fragment := fun _ _ fragment => by
      simp [bobSettings, aliceSettings, sealingCrypto]
    have overhead : ∀ key header fragment,
        (aliceSettings.crypto.encrypt key header fragment).length = fragment.length + 16 := fun _ _ fragment => by
      simp [aliceSettings, sealingCrypto]
    exact ⟨sender, sent, sending, session, start, final, alice, accepted, registered, two, bob, expects, completed,
      (packet_received_once decrypts overhead rfl accepted registered).2.2 session start _ final expects interleaved
        all completed⟩

end UdpTransport

end MeshTalk.Udp
