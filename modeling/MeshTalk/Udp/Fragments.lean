import MeshTalk.Udp.Completed

namespace MeshTalk.Udp

open MeshTalk.Library MeshTalk.Protocol Handler

/-! # What one DATA datagram does -/

namespace UdpTransport

open SessionTables

variable {settings : Settings} {now : Time} {transport start next : UdpTransport} {session : Session}
  {route : Route} {header : DataHeader} {ciphertext fragment : Bytes} {packet : Packet} {messageId : Nat}

/-- Only what sessions keep of the fragments of one message id may differ. -/
structure OnMessage (messageId : Nat) (start next : UdpTransport) : Prop where
  quiet : Quiet start next
  derpSender : next.derpSender = start.derpSender
  derpPeers : next.derpPeers = start.derpPeers
  seen : ∀ session, (next.statusOf session).seen = (start.statusOf session).seen
  reassemblies : ∀ session other, other ≠ messageId →
    (next.statusOf session).reassemblies.get? other = (start.statusOf session).reassemblies.get? other

theorem OnMessage.refl : OnMessage messageId transport transport :=
  ⟨.refl, rfl, rfl, fun _ => rfl, fun _ _ _ => rfl⟩

theorem OnMessage.trans {last : UdpTransport} (earlier : OnMessage messageId start next)
    (later : OnMessage messageId next last) : OnMessage messageId start last where
  quiet := earlier.quiet.trans later.quiet
  derpSender := later.derpSender.trans earlier.derpSender
  derpPeers := later.derpPeers.trans earlier.derpPeers
  seen session := (later.seen session).trans (earlier.seen session)
  reassemblies session other apart := (later.reassemblies session other apart).trans (earlier.reassemblies session other apart)

theorem OnMessage.canSend (only : OnMessage messageId start next) : CanSend next route ↔ CanSend start route := by
  unfold CanSend
  rw [only.derpSender, only.derpPeers]

/-- Attributes that only concern the message id are assigned. -/
theorem updateStatus_onMessage {update : SessionStatus → SessionStatus}
    (confirmed : ∀ status, (update status).confirmed = status.confirmed)
    (notified : ∀ status, (update status).connectedNotified = status.connectedNotified)
    (seen : ∀ status, (update status).seen = status.seen)
    (reassemblies : ∀ status other, other ≠ messageId →
      (update status).reassemblies.get? other = status.reassemblies.get? other) :
    OnMessage messageId transport (transport.updateStatus session update) where
  quiet := updateStatus_quiet confirmed notified
  derpSender := rfl
  derpPeers := rfl
  seen other := by
    rw [updateStatus, setStatus_statusOf]
    split
    · rename_i same
      rw [seen, statusOf, statusOf, same]
    · rfl
  reassemblies other id apart := by
    rw [updateStatus, setStatus_statusOf]
    split
    · rename_i same
      rw [reassemblies _ _ apart, statusOf, statusOf, same]
    · rfl

theorem touch_onMessage : OnMessage messageId transport (transport.touch now session) :=
  updateStatus_onMessage (fun _ => rfl) (fun _ => rfl) (fun _ => rfl) fun _ _ _ => rfl

theorem touch_reassemblies {other : Session} :
    ((transport.touch now session).statusOf other).reassemblies = (transport.statusOf other).reassemblies := by
  rw [touch, updateStatus, setStatus_statusOf]
  split
  · rename_i same
    rw [statusOf, statusOf, same]
  · rfl

theorem sendRoute_onMessage {datagram : Datagram} :
    Ensures (· = transport) (sendRoute datagram route)
      (fun _ state => CanSend transport route ∧ OnMessage messageId transport state ∧
        ∀ session, state.statusOf session = transport.statusOf session)
      (fun state => state = transport ∧ ¬ CanSend transport route) := by
  refine Ensures.read fun seen same => ?_
  subst same
  refine Ensures.bind (Ensures.refuse (Q := fun _ state => state = seen ∧ CanSend seen route) ?_ ?_) fun _ =>
    Ensures.change ?_
  · rintro state same ⟨relayed, unusable⟩
    refine ⟨same, fun can => ?_⟩
    obtain ⟨sender, known⟩ := can relayed
    simp [sender, known] at unusable
  · intro state same usable
    refine ⟨same, fun relayed => ?_⟩
    simpa [relayed] using usable
  · rintro state ⟨rfl, can⟩
    exact ⟨can, ⟨⟨.refl, rfl, rfl, rfl⟩, rfl, rfl, fun _ => rfl, fun _ _ _ => rfl⟩, fun _ => rfl⟩

/-! ## Opening a fragment -/

/-- A confirmed session on the route decrypts the datagram to a fragment. -/
structure Opened (settings : Settings) (transport : UdpTransport) (header : DataHeader) (ciphertext : Bytes)
    (route : Route) (session : Session) (fragment : Bytes) : Prop where
  listed : transport.sessionsById.get? header.sessionId = some session
  onRoute : session.route = route
  confirmed : transport.confirmed session = true
  indexed : ¬ (header.count < 1 ∨ header.count > maxFragments ∨ header.index ≥ header.count)
  decrypted : settings.crypto.decrypt session.receiveEncryptionKey header ciphertext = some fragment

theorem Opened.unique {other : Session} {plain : Bytes} (opened : Opened settings transport header ciphertext route session fragment)
    (again : Opened settings transport header ciphertext route other plain) : other = session ∧ plain = fragment := by
  have same : other = session := Option.some.inj (again.listed.symm.trans opened.listed)
  subst same
  exact ⟨rfl, Option.some.inj (again.decrypted.symm.trans opened.decrypted)⟩

theorem sessionFor_confirmed :
    Ensures (· = transport) (sessionFor header.sessionId route true)
      (fun session state => state = transport ∧ transport.sessionsById.get? header.sessionId = some session ∧
        session.route = route ∧ transport.confirmed session = true)
      (fun state => state = transport ∧
        ∀ session fragment, ¬ Opened settings transport header ciphertext route session fragment) := by
  refine Ensures.read fun seen same => ?_
  subst same
  refine Ensures.bind (Ensures.orRaise (Q := fun session state => state = seen ∧
      seen.sessionsById.get? header.sessionId = some session ∧ session.route = route) ?_ ?_) fun session =>
    Ensures.bind (Ensures.refuse (Q := fun _ state => state = seen ∧
      seen.sessionsById.get? header.sessionId = some session ∧ session.route = route ∧
        seen.confirmed session = true) ?_ ?_) fun _ => Ensures.pure fun state held => held
  · intro state same unlisted
    refine ⟨same, fun session fragment opened => ?_⟩
    simp [opened.listed, opened.onRoute, Option.filter] at unlisted
  · intro state session same found
    obtain ⟨listed, onRoute⟩ := Option.filter_eq_some_iff.mp found
    exact ⟨same, listed, of_decide_eq_true onRoute⟩
  · rintro state ⟨same, listed, -⟩ ⟨-, unconfirmed⟩
    refine ⟨same, fun other fragment opened => ?_⟩
    have other := Option.some.inj (opened.listed.symm.trans listed)
    subst other
    simp [opened.confirmed] at unconfirmed
  · rintro state ⟨same, listed, onRoute⟩ passed
    exact ⟨same, listed, onRoute, by simpa using passed⟩

theorem openFragment_found :
    Ensures (· = transport) (openFragment settings now header ciphertext route)
      (fun opened state => Opened settings transport header ciphertext route opened.1 opened.2 ∧
        state = transport.touch now opened.1)
      (fun state => state = transport ∧
        ∀ session fragment, ¬ Opened settings transport header ciphertext route session fragment) := by
  refine Ensures.bind sessionFor_confirmed fun session =>
    Ensures.bind (Ensures.refuse (Q := fun _ state => state = transport ∧
      transport.sessionsById.get? header.sessionId = some session ∧ session.route = route ∧
        transport.confirmed session = true ∧
        ¬ (header.count < 1 ∨ header.count > maxFragments ∨ header.index ≥ header.count)) ?_ ?_) fun _ =>
    Ensures.bind (Ensures.orRaise (Q := fun fragment state => state = transport ∧
      Opened settings transport header ciphertext route session fragment) ?_ ?_) fun fragment =>
    Ensures.bind (Ensures.change (Q := fun _ state => state = transport.touch now session ∧
      Opened settings transport header ciphertext route session fragment) ?_) fun _ =>
    Ensures.pure fun state held => ⟨held.2, held.1⟩
  · rintro state ⟨same, -⟩ outside
    exact ⟨same, fun _ _ opened => opened.indexed outside⟩
  · rintro state ⟨same, listed, onRoute, confirmed⟩ inside
    exact ⟨same, listed, onRoute, confirmed, inside⟩
  · rintro state ⟨same, listed, -⟩ undecrypted
    refine ⟨same, fun other fragment opened => ?_⟩
    have other := Option.some.inj (opened.listed.symm.trans listed)
    subst other
    simp [opened.decrypted] at undecrypted
  · rintro state fragment ⟨same, listed, onRoute, confirmed, indexed⟩ decrypted
    exact ⟨same, listed, onRoute, confirmed, indexed, decrypted⟩
  · rintro state ⟨same, opened⟩
    exact ⟨by rw [same], opened⟩

/-! ## Reassembly -/

/-- The reassembly of the message once the fragment is stored. -/
def assembled (transport : UdpTransport) (now : Time) (session : Session) (header : DataHeader)
    (fragment : Bytes) : Reassembly :=
  let held := ((transport.statusOf session).reassemblies.get? header.messageId).getD
    { count := header.count, createdAt := now, fragments := ∅ }
  { held with fragments := held.fragments.set header.index fragment }

/-- The message is not marked as seen and its fragment can be stored. -/
structure Stores (transport : UdpTransport) (now : Time) (session : Session) (header : DataHeader)
    (fragment : Bytes) : Prop where
  unseen : (transport.statusOf session).seen.contains header.messageId = false
  room : (transport.statusOf session).reassemblies.size < maxReassemblies ∨
    (transport.statusOf session).reassemblies.contains header.messageId = true
  counted : (transport.assembled now session header fragment).count = header.count

/-- The fragment is the last missing one. -/
def Completes (transport : UdpTransport) (now : Time) (session : Session) (header : DataHeader)
    (fragment : Bytes) : Prop :=
  (transport.assembled now session header fragment).fragments.size = header.count

theorem setReassembly_onMessage {reassembly : Reassembly} :
    OnMessage messageId transport (transport.updateStatus session fun status =>
      { status with reassemblies := status.reassemblies.set messageId reassembly }) :=
  updateStatus_onMessage (fun _ => rfl) (fun _ => rfl) (fun _ => rfl) fun _ _ apart => by
    rw [Dict.get?_set, if_neg apart]

theorem eraseReassembly_onMessage :
    OnMessage messageId transport (transport.updateStatus session fun status =>
      { status with reassemblies := status.reassemblies.erase messageId }) :=
  updateStatus_onMessage (fun _ => rfl) (fun _ => rfl) (fun _ => rfl) fun _ _ apart => by
    rw [Dict.get?_erase, if_neg apart]

theorem storeFragment_spec (unseen : (transport.statusOf session).seen.contains header.messageId = false) :
    Ensures (· = transport) (storeFragment now session header fragment)
      (fun result state => OnMessage header.messageId transport state ∧ Stores transport now session header fragment ∧
        match result with
        | none => ¬ Completes transport now session header fragment ∧
            (state.statusOf session).reassemblies.get? header.messageId =
              some (transport.assembled now session header fragment)
        | some reassembly => Completes transport now session header fragment ∧
            reassembly = transport.assembled now session header fragment)
      (fun state => OnMessage header.messageId transport state ∧ ¬ Stores transport now session header fragment) := by
  refine Ensures.read fun seen same => ?_
  subst same
  refine Ensures.bind (Ensures.refuse (Q := fun _ state => state = seen ∧
      ((seen.statusOf session).reassemblies.size < maxReassemblies ∨
        (seen.statusOf session).reassemblies.contains header.messageId = true)) ?_ ?_) fun _ =>
    Ensures.bind (Ensures.change (Q := fun _ state => OnMessage header.messageId seen state ∧
      ((seen.statusOf session).reassemblies.size < maxReassemblies ∨
        (seen.statusOf session).reassemblies.contains header.messageId = true)) ?_) fun _ =>
    Ensures.bind (Ensures.refuse (Q := fun _ state => OnMessage header.messageId seen state ∧
      Stores seen now session header fragment) ?_ ?_) fun _ => Ensures.ite (fun incomplete => ?_) fun complete => ?_
  · rintro state same ⟨full, absent⟩
    refine ⟨same ▸ .refl, fun stores => ?_⟩
    rcases stores.room with room | held
    · exact absurd full (Nat.not_le.mpr room)
    · simp [held] at absent
  · intro state same admitted
    refine ⟨same, ?_⟩
    by_cases room : (seen.statusOf session).reassemblies.size < maxReassemblies
    · exact .inl room
    · exact .inr (by simpa [Nat.not_lt.mp room] using admitted)
  · rintro state ⟨same, room⟩
    exact ⟨same ▸ setReassembly_onMessage, room⟩
  · rintro state ⟨only, -⟩ changed
    exact ⟨only, fun stores => changed stores.counted⟩
  · rintro state ⟨only, room⟩ counted
    exact ⟨only, unseen, room, not_not.mp counted⟩
  · refine Ensures.bind (Ensures.change (Q := fun _ state => OnMessage header.messageId seen state ∧
      Stores seen now session header fragment ∧ (state.statusOf session).reassemblies.get? header.messageId =
        some (seen.assembled now session header fragment)) ?_) fun _ =>
      Ensures.pure fun state held => ⟨held.1, held.2.1, incomplete, held.2.2⟩
    rintro state ⟨only, stores⟩
    refine ⟨only.trans setReassembly_onMessage, stores, ?_⟩
    rw [updateStatus, setStatus_statusOf, if_pos rfl, Dict.get?_set, if_pos rfl]
    rfl
  · refine Ensures.bind (Ensures.change (Q := fun _ state => OnMessage header.messageId seen state ∧
      Stores seen now session header fragment) ?_) fun _ =>
      Ensures.pure fun state held => ⟨held.1, held.2, not_not.mp complete, rfl⟩
    rintro state ⟨only, stores⟩
    exact ⟨only.trans eraseReassembly_onMessage, stores⟩

/-! ## The datagram as a whole -/

/-- The frame is that of a packet. -/
def Frames (frame : Bytes) (packet : Packet) : Prop :=
  headerSize ≤ frame.length ∧ frame.length ≤ maxPacketSize + headerSize ∧
    Packet.decode (frame.take headerSize) (frame.drop headerSize) = some packet

theorem decodeFrame_spec {frame : Bytes} :
    Ensures (· = transport) (decodeFrame frame) (fun packet state => state = transport ∧ Frames frame packet)
      (fun state => state = transport ∧ ∀ packet, ¬ Frames frame packet) := by
  refine Ensures.bind (Ensures.refuse (Q := fun _ state => state = transport ∧
      headerSize ≤ frame.length ∧ frame.length ≤ maxPacketSize + headerSize) ?_ ?_) fun _ =>
    Ensures.orRaise ?_ ?_
  · rintro state same outside
    refine ⟨same, fun packet frames => ?_⟩
    rcases outside with short | long
    · exact absurd short (Nat.not_lt.mpr frames.1)
    · exact absurd long (Nat.not_lt.mpr frames.2.1)
  · rintro state same inside
    exact ⟨same, by omega, by omega⟩
  · rintro state ⟨same, -⟩ undecoded
    refine ⟨same, fun packet frames => ?_⟩
    rw [frames.2.2] at undecoded
    contradiction
  · rintro state packet ⟨same, short, long⟩ decoded
    exact ⟨same, short, long, decoded⟩

/-- The datagram carries the last missing fragment of a packet. -/
structure Completing (settings : Settings) (now : Time) (transport : UdpTransport) (header : DataHeader)
    (ciphertext : Bytes) (route : Route) (session : Session) (fragment : Bytes) (packet : Packet) : Prop where
  opened : Opened settings transport header ciphertext route session fragment
  stores : Stores transport now session header fragment
  completes : Completes transport now session header fragment
  frames : Frames (Reassembly.frame (transport.assembled now session header fragment)) packet

theorem Frames.unique {frame : Bytes} {other : Packet} (frames : Frames frame packet) (again : Frames frame other) :
    other = packet :=
  Option.some.inj (again.2.2.symm.trans frames.2.2)

theorem Completing.unique {other : Session} {plain : Bytes} {second : Packet}
    (completing : Completing settings now transport header ciphertext route session fragment packet)
    (again : Completing settings now transport header ciphertext route other plain second) :
    other = session ∧ plain = fragment ∧ second = packet := by
  obtain ⟨rfl, rfl⟩ := completing.opened.unique again.opened
  exact ⟨rfl, rfl, completing.frames.unique again.frames⟩

theorem touch_assembled :
    (transport.touch now session).assembled now session header fragment =
      transport.assembled now session header fragment := by
  simp only [assembled, touch_reassemblies]

theorem touch_stores :
    Stores (transport.touch now session) now session header fragment ↔
      Stores transport now session header fragment := by
  have seen : ((transport.touch now session).statusOf session).seen = (transport.statusOf session).seen :=
    (@touch_onMessage now transport session 0).seen session
  constructor <;> intro stores
  · refine ⟨?_, ?_, ?_⟩
    · simpa only [seen] using stores.unseen
    · simpa only [touch_reassemblies] using stores.room
    · simpa only [touch_assembled] using stores.counted
  · refine ⟨?_, ?_, ?_⟩
    · simpa only [seen] using stores.unseen
    · simpa only [touch_reassemblies] using stores.room
    · simpa only [touch_assembled] using stores.counted

theorem reassemble_spec :
    Ensures (· = transport) (reassemble settings now session header fragment)
      (fun result state => OnMessage header.messageId transport state ∧
        match result with
        | none => (transport.statusOf session).seen.contains header.messageId = true ∨
            Stores transport now session header fragment ∧ ¬ Completes transport now session header fragment ∧
              (state.statusOf session).reassemblies.get? header.messageId =
                some (transport.assembled now session header fragment)
        | some reassembly => Stores transport now session header fragment ∧
            Completes transport now session header fragment ∧
            reassembly = transport.assembled now session header fragment)
      (fun state => OnMessage header.messageId transport state ∧ ¬ Stores transport now session header fragment) := by
  refine Ensures.read fun seen same => ?_
  subst same
  refine Ensures.ite (fun known => ?_) fun unknown => ?_
  · refine Ensures.bind (Ensures.weaken sendRoute_onMessage (fun _ same => same) (fun _ _ held => held) ?_) fun _ =>
      Ensures.pure fun state held => ⟨held.2.1, .inl known⟩
    rintro state ⟨rfl, -⟩
    exact ⟨.refl, fun stores => by simp [stores.unseen] at known⟩
  · have unseen : (seen.statusOf session).seen.contains header.messageId = false := by simpa using unknown
    refine Ensures.weaken (storeFragment_spec unseen) (fun _ same => same) ?_ fun _ held => held
    rintro (_ | reassembly) state ⟨only, stores, rest⟩
    · exact ⟨only, .inr ⟨stores, rest⟩⟩
    · exact ⟨only, stores, rest⟩

/-- `reassemble_spec` for the opened fragment, after its session has been touched. -/
theorem reassemble_opened (opened : Opened settings transport header ciphertext route session fragment) :
    Ensures (· = transport.touch now session) (reassemble settings now session header fragment)
      (fun result state => OnMessage header.messageId transport state ∧
        match result with
        | none => (transport.statusOf session).seen.contains header.messageId = true ∨
            Stores transport now session header fragment ∧ ¬ Completes transport now session header fragment ∧
              (state.statusOf session).reassemblies.get? header.messageId =
                some (transport.assembled now session header fragment)
        | some reassembly => Stores transport now session header fragment ∧
            Completes transport now session header fragment ∧
            reassembly = transport.assembled now session header fragment)
      (fun state => OnMessage header.messageId transport state ∧ ∀ other plain,
        Opened settings transport header ciphertext route other plain → Stores transport now other header plain →
          Completes transport now other header plain ∧
            ∀ packet, ¬ Frames (Reassembly.frame (transport.assembled now other header plain)) packet) := by
  refine Ensures.weaken reassemble_spec (fun _ same => same) ?_ ?_
  · rintro result state ⟨only, outcome⟩
    have seen : ((transport.touch now session).statusOf session).seen = (transport.statusOf session).seen :=
      (@touch_onMessage now transport session 0).seen session
    refine ⟨touch_onMessage.trans only, ?_⟩
    simpa only [touch_stores, touch_assembled, Completes, seen] using outcome
  · rintro state ⟨only, refused⟩
    refine ⟨touch_onMessage.trans only, fun other plain again stores => ?_⟩
    obtain ⟨rfl, rfl⟩ := opened.unique again
    exact absurd (touch_stores.mpr stores) refused

/-- What a DATA datagram does before its packet, if it completes one, is marked
as seen. -/
theorem receivePacket_spec :
    Ensures (· = transport) (receivePacket settings now header ciphertext route)
      (fun result state => OnMessage header.messageId transport state ∧
        match result with
        | none => ∃ session fragment, Opened settings transport header ciphertext route session fragment ∧
            ((transport.statusOf session).seen.contains header.messageId = true ∨
              Stores transport now session header fragment ∧ ¬ Completes transport now session header fragment ∧
                (state.statusOf session).reassemblies.get? header.messageId =
                  some (transport.assembled now session header fragment))
        | some (session, packet) =>
            ∃ fragment, Completing settings now transport header ciphertext route session fragment packet)
      (fun state => OnMessage header.messageId transport state ∧ ∀ session fragment,
        Opened settings transport header ciphertext route session fragment →
          Stores transport now session header fragment →
            Completes transport now session header fragment ∧
              ∀ packet, ¬ Frames (Reassembly.frame (transport.assembled now session header fragment)) packet) := by
  refine Ensures.bind (Ensures.weaken openFragment_found (fun _ same => same) (fun _ _ held => held) ?_) ?_
  · rintro state ⟨rfl, unopened⟩
    exact ⟨.refl, fun session fragment opened => absurd opened (unopened session fragment)⟩
  · rintro ⟨session, fragment⟩
    rintro _ ⟨opened, rfl⟩
    refine Ensures.bind (reassemble_opened opened) ?_ _ rfl
    rintro (_ | reassembly)
    · refine Ensures.pure ?_
      rintro state ⟨only, outcome⟩
      exact ⟨only, session, fragment, opened, outcome⟩
    · refine Ensures.bind (Q := fun packet state => OnMessage header.messageId transport state ∧
          Completing settings now transport header ciphertext route session fragment packet) ?_ fun packet => Ensures.pure ?_
      · rintro state ⟨only, stores, completes, rfl⟩
        refine Ensures.weaken decodeFrame_spec (fun _ same => same) ?_ ?_ state rfl
        · rintro packet _ ⟨rfl, frames⟩
          exact ⟨only, opened, stores, completes, frames⟩
        · rintro _ ⟨rfl, undecoded⟩
          refine ⟨only, fun other plain again _ => ?_⟩
          obtain ⟨rfl, rfl⟩ := opened.unique again
          exact ⟨completes, undecoded⟩
      · rintro state ⟨only, completing⟩
        exact ⟨only, fragment, completing⟩

/-- The packet is of a live type, which the owner is given. -/
def Supported (packet : Packet) : Prop := ∃ type, packet.type = .live type

instance (packet : Packet) : Decidable (Supported packet) :=
  match typed : packet.type with
  | .live type => .isTrue ⟨type, typed⟩
  | .retired _ => .isFalse fun ⟨_, live⟩ => by rw [typed] at live; contradiction

/-- The transport with the message marked as seen on the session. -/
def marked (transport : UdpTransport) (now : Time) (session : Session) (messageId : Nat) (packet : Packet) : UdpTransport :=
  { transport.updateStatus session (fun status => { status with seen := status.seen.set messageId now }) with
    completed := transport.completed ++ [{ session, messageId, packet }] }

def told (transport : UdpTransport) (callback : Callback) : UdpTransport :=
  { transport with callbacks := transport.callbacks ++ [callback] }

/-- The owner is given a packet just if its acknowledgement can be sent and its
type is live. -/
theorem acceptPacket_spec :
    Ensures (· = transport) (acceptPacket settings now session messageId packet)
      (fun _ state => CanSend transport session.route ∧ ∃ answered,
        OnMessage messageId (transport.marked now session messageId packet) answered ∧
          state = if Supported packet then answered.told (.onPacket { session, messageId, packet }) else answered)
      (fun state => ¬ CanSend transport session.route ∧ state = transport.marked now session messageId packet) := by
  refine Ensures.bind (Ensures.change (Q := fun _ state => state = transport.marked now session messageId packet)
    fun state same => same ▸ rfl) fun _ => Ensures.bind (Q := fun _ state => CanSend transport session.route ∧
      OnMessage messageId (transport.marked now session messageId packet) state) ?_ fun _ => ?_
  · refine Ensures.weaken sendRoute_onMessage (fun _ same => same) (fun _ _ held => ⟨held.1, held.2.1⟩) ?_
    rintro state ⟨same, cannot⟩
    exact ⟨cannot, same⟩
  · split
    · rename_i retired
      have unsupported : ¬ Supported packet := fun ⟨_, live⟩ => by rw [retired] at live; contradiction
      exact Ensures.pure fun state ⟨can, only⟩ => ⟨can, state, only, by rw [if_neg unsupported]⟩
    · rename_i type live
      have supported : Supported packet := ⟨type, live⟩
      exact Ensures.change fun state ⟨can, only⟩ => ⟨can, state, only, by rw [if_pos supported]; rfl⟩

/-- A datagram that completes a packet marks it as seen, and hands it to the
owner just if it can be acknowledged and its type is live. -/
theorem handleData_completing
    (completing : Completing settings now transport header ciphertext route session fragment packet) :
    ∃ received answered, OnMessage header.messageId transport received ∧
      OnMessage header.messageId (received.marked now session header.messageId packet) answered ∧
      (handleData settings now header ciphertext route).finish transport =
        if CanSend transport route ∧ Supported packet then
          answered.told (.onPacket { session, messageId := header.messageId, packet })
        else answered := by
  have spec : Ensures (· = transport) (handleData settings now header ciphertext route)
      (fun _ state => ∃ received answered, OnMessage header.messageId transport received ∧
        OnMessage header.messageId (received.marked now session header.messageId packet) answered ∧
        state = if CanSend transport route ∧ Supported packet then
          answered.told (.onPacket { session, messageId := header.messageId, packet }) else answered)
      (fun state => ∃ received answered, OnMessage header.messageId transport received ∧
        OnMessage header.messageId (received.marked now session header.messageId packet) answered ∧
        state = if CanSend transport route ∧ Supported packet then
          answered.told (.onPacket { session, messageId := header.messageId, packet }) else answered) := by
    refine Ensures.bind (Ensures.weaken receivePacket_spec (fun _ same => same) (fun _ _ held => held) ?_) ?_
    · rintro state ⟨-, refused⟩
      exact absurd completing.frames ((refused session fragment completing.opened completing.stores).2 packet)
    · rintro (_ | ⟨other, second⟩)
      · refine Ensures.pure ?_
        rintro state ⟨-, other, plain, opened, outcome⟩
        obtain ⟨rfl, rfl⟩ := completing.opened.unique opened
        rcases outcome with known | ⟨-, incomplete, -⟩
        · simp [completing.stores.unseen] at known
        · exact absurd completing.completes incomplete
      · rintro received ⟨only, plain, again⟩
        obtain ⟨rfl, rfl, rfl⟩ := completing.unique again
        have routed : other.route = route := completing.opened.onRoute
        refine Ensures.weaken acceptPacket_spec (fun _ same => same) ?_ ?_ received rfl
        · rintro _ state ⟨can, answered, answer, rfl⟩
          rw [routed, only.canSend] at can
          exact ⟨received, answered, only, answer, by simp only [can, true_and]⟩
        · rintro state ⟨cannot, rfl⟩
          rw [routed, only.canSend] at cannot
          exact ⟨received, _, only, .refl, by rw [if_neg fun both => cannot both.1]⟩
  exact Ensures.finish spec rfl

/-- Any other datagram hands nothing over. -/
theorem handleData_incomplete
    (incomplete : ∀ session fragment packet, ¬ Completing settings now transport header ciphertext route session fragment packet) :
    OnMessage header.messageId transport ((handleData settings now header ciphertext route).finish transport) := by
  have spec : Ensures (· = transport) (handleData settings now header ciphertext route)
      (fun _ => OnMessage header.messageId transport) (OnMessage header.messageId transport) := by
    refine Ensures.bind (Ensures.weaken receivePacket_spec (fun _ same => same) (fun _ _ held => held)
      fun _ held => held.1) ?_
    rintro (_ | ⟨session, packet⟩)
    · exact Ensures.pure fun _ held => held.1
    · rintro state ⟨-, fragment, completing⟩
      exact absurd completing (incomplete session fragment packet)
  exact Ensures.finish spec rfl

end UdpTransport

end MeshTalk.Udp
