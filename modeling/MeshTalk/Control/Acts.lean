import Mathlib.Data.Nat.Cast.Order.Ring
import MeshTalk.Library.Moves
import MeshTalk.Control.WorkerSteps

namespace MeshTalk.Control

open MeshTalk.Library ControlState

/-! # What handlers are made of

Whether or not its sends raise, a handler makes a few updates of the tables one
after the other, and each of them has a reason in a message of a client.  Relay
frames are apart: a frame is the last thing that a handler sends.
-/

def Output.isRelay : Output → Bool
  | .sent _ (.relay _ _) => true
  | _ => false

/-- Both devices with the bytes taken from them. -/
def spent (context : Context) (control : ControlState) (peerId recipientId : PeerId) (bytes : Nat)
    (sending receiving : DeviceLimit) : ControlState :=
  (control.setDeviceLimit peerId
    { sending with relayPeers := sending.relayPeers.set recipientId context.now, tokens := sending.tokens - bytes }).setDeviceLimit
    recipientId { receiving with receiveTokens := receiving.receiveTokens - bytes }

/-- Bytes may have been taken from the buckets, of those that were there. -/
structure DeviceLimit.Lowers (limit after : DeviceLimit) : Prop where
  updatedAt : after.updatedAt = limit.updatedAt
  tokens : after.tokens ≤ limit.tokens
  receiveTokens : after.receiveTokens ≤ limit.receiveTokens
  spent : 0 ≤ limit.tokens → 0 ≤ after.tokens
  taken : 0 ≤ limit.receiveTokens → 0 ≤ after.receiveTokens

/-- What gives reason for an update: the messages that have been sent, the devices
whose registration is at its end, and the clients that may be closed besides. -/
structure Grounds where
  asks : Socket → ControlMessage → Prop
  grants : PeerId → Prop
  ends : Socket → Prop

/-- The client has sent something, or may be closed. -/
def Grounds.Touches (grounds : Grounds) (socket : Socket) : Prop := grounds.ends socket ∨ ∃ message, grounds.asks socket message

/-- The client has presented the authentication value in a `join`. -/
def Grounds.Presents (grounds : Grounds) (socket : Socket) (roomId : RoomId) (roomAuth : Text) : Prop :=
  ∃ message, grounds.asks socket message ∧ message.type = .join ∧ message.roomId = some roomId ∧ message.roomAuth = some roomAuth

/-- The signals that a frame carries, with their rooms. -/
def Frame.contents : Frame → List (RoomId × Text)
  | .signal roomId payload => [(roomId, payload)]
  | .peers roomId payloads => payloads.map fun payload => (roomId, payload)
  | _ => []

def ControlState.Inside (control : ControlState) (socket : Socket) (roomId : RoomId) : Prop :=
  socket ∈ control.membersOf roomId ∨ roomId ∈ (control.data socket).rooms

/-- The client may see the signal, which somebody in the room has retained there. -/
def Entitled (grounds : Grounds) (control : ControlState) (socket : Socket) (roomId : RoomId) (payload : Text) : Prop :=
  ∃ author, control.Inside author roomId ∧ control.signalOf author roomId = some payload ∧
    (control.Inside socket roomId ∨ ∃ roomAuth, grounds.Presents socket roomId roomAuth ∧ isRoomAuth roomAuth = true ∧
      ∀ room, control.rooms.get? roomId = some room → fromHex room.auth = fromHex roomAuth)

/-- The client that an error or a close is for. -/
def Output.rebuked : Output → Option Socket
  | .sent socket (.error _) => some socket
  | .closed socket _ => some socket
  | _ => none

/-- No relay frame, no signal for a client that may not see it, and no error for one
that has done nothing. -/
structure Fair (grounds : Grounds) (control : ControlState) (output : Output) : Prop where
  direct : output.isRelay = false
  entitled : ∀ socket frame, output = .sent socket frame →
    ∀ content ∈ frame.contents, Entitled grounds control socket content.1 content.2
  touched : ∀ socket, output.rebuked = some socket → grounds.Touches socket

section

variable (context : Context) (grounds : Grounds)

/-- One update, with what has been checked before it. -/
inductive Act (control : ControlState) : ControlState → Prop where
  | counts (after : ControlState) (tallied : Tallied control after) (limits : after.deviceLimits = control.deviceLimits) :
      Act control after
  | limits (peerId : PeerId) (limit after : DeviceLimit) (found : control.deviceLimits.get? peerId = some limit)
      (lowered : after = limit.refill context.now ∨ limit.Lowers after) : Act control (control.setDeviceLimit peerId after)
  | tells (output : Output) (fair : Fair grounds control output) : Act control (control.putAll [output])
  | leaves (socket : Socket) (roomId : RoomId) (touched : grounds.Touches socket) : Act control (control.leave socket roomId)
  | joins (socket : Socket) (message : ControlMessage) (roomId : RoomId) (roomAuth : Text) (asked : grounds.asks socket message)
      (named : message.type = .join ∧ message.roomId = some roomId ∧ message.roomAuth = some roomAuth)
      (valid : isRoomAuth roomAuth = true)
      (matching : ∀ room, control.rooms.get? roomId = some room → fromHex room.auth = fromHex roomAuth) :
      Act control (control.join socket roomId roomAuth)
  | retains (socket : Socket) (message : ControlMessage) (roomId : RoomId) (payload : Text) (asked : grounds.asks socket message)
      (named : message.type = .signal ∧ message.roomId = some roomId ∧ message.payload = some payload)
      (inside : roomId ∈ (control.data socket).rooms) : Act control (control.retain socket roomId payload)
  | registers (socket : Socket) (message : ControlMessage) (signed : SignedRegistration) (asked : grounds.asks socket message)
      (named : message.type = .deviceRegister ∧ message.registration? = some signed)
      (proves : signed.Proves context.crypto (control.data socket)) (granted : grounds.grants signed.registration.peerId) :
      Act control (control.setRegistered socket signed.registration.peerId)
  | ensures (peerId : PeerId) (granted : grounds.grants peerId) : Act control (control.ensureDeviceLimit peerId context.now)
  | shuts (socket : Socket) (touched : grounds.Touches socket) : Act control (control.markClosed socket)
  | forgets (socket : Socket) (touched : grounds.Touches socket) : Act control ((control.forgetDevice socket).releaseConnection socket)
  | opens (socket : Socket) (ip : Address) (challengeId challenge : Text) (new : control.sockets.get? socket = none) :
      Act control (control.addClient socket (openedClient ip context.now challengeId challenge))

abbrev Acts : ControlState → ControlState → Prop := Relation.ReflTransGen (Act context grounds)

/-- A relay frame on its way, with all that has been checked before. -/
structure Forward (control after : ControlState) where
  sender : Socket
  message : ControlMessage
  peerId : PeerId
  recipient : Socket
  recipientId : PeerId
  payload : Text
  frame : Bytes
  sending : DeviceLimit
  receiving : DeviceLimit
  asked : grounds.asks sender message
  named : message.relayed? = some (recipientId, payload)
  decoded : decodeFrame context payload = some frame
  live : control.Live sender
  own : (control.data sender).peerId = some peerId
  shared : peersShareRoom context control sender recipientId = true
  registered : control.socketsByPeerId.get? recipientId = some recipient
  paying : control.deviceLimits.get? peerId = some sending
  taking : control.deviceLimits.get? recipientId = some receiving
  current : sending.updatedAt = context.now ∧ receiving.updatedAt = context.now
  enough : (frame.length : Rat) ≤ sending.tokens
  fits : (frame.length : Rat) ≤ receiving.receiveTokens
  result : after = (spent context control peerId recipientId frame.length sending receiving).putAll
    [.sent recipient (.relay peerId payload)]

/-- Updates, and then perhaps a relay frame. -/
def Ends (control after : ControlState) : Prop :=
  Acts context grounds control after ∨ ∃ middle, Acts context grounds control middle ∧ Nonempty (Forward context grounds middle after)

end

section

variable {context : Context} {grounds : Grounds} {control : ControlState} {socket other : Socket}
  {roomId : RoomId} {roomAuth payload : Text} {frame : Frame} {outputs : List Output} {message : ControlMessage}

instance : Trans (Acts context grounds) (Ends context grounds) (Ends context grounds) where
  trans := fun first later => by
    rcases later with acts | ⟨middle, acts, forward⟩
    · exact .inl (first.trans acts)
    · exact .inr ⟨middle, first.trans acts, forward⟩

theorem Act.acts {after : ControlState} (act : Act context grounds control after) : Acts context grounds control after := .single act

theorem Acts.ends {after : ControlState} (acts : Acts context grounds control after) : Ends context grounds control after := .inl acts

/-! ## Handlers that only send or count -/

theorem fair_of (direct : Output.isRelay (.sent socket frame) = false) (empty : frame.contents = [])
    (kind : Output.rebuked (.sent socket frame) = none) : Fair grounds control (.sent socket frame) where
  direct := direct
  entitled other sent same content member := by
    cases same
    simp [empty] at member
  touched other rebuked := by simp [kind] at rebuked

theorem fair_error {text : String} (touched : grounds.Touches socket) : Fair grounds control (.sent socket (.error text)) where
  direct := rfl
  entitled other sent same content member := by
    cases same
    cases member
  touched other rebuked := by
    cases rebuked
    exact touched

theorem fair_closed {code : Nat} (touched : grounds.Touches socket) : Fair grounds control (.closed socket code) where
  direct := rfl
  entitled _ _ same := nomatch same
  touched other rebuked := by
    cases rebuked
    exact touched

theorem fair_refresh {output : Output} (refreshing : output ∈ control.refreshes roomId) {seen : ControlState} :
    Fair grounds seen output := by
  obtain ⟨other, -, rfl⟩ := mem_refreshes refreshing
  exact fair_of rfl rfl rfl

theorem Fair.putAll {output : Output} (fair : Fair grounds control output) : Fair grounds (control.putAll outputs) output :=
  ⟨fair.direct, fair.entitled, fair.touched⟩

theorem acts_putAll (fair : ∀ output ∈ outputs, Fair grounds control output) :
    Acts context grounds control (control.putAll outputs) := by
  induction outputs generalizing control with
  | nil =>
      rw [putAll_nil]
  | cons output rest ih =>
      have first : Acts context grounds control (control.putAll [output]) := (Act.tells output (fair output (by simp))).acts
      have later := @ih (control.putAll [output]) fun other member => (fair other (by simp [member])).putAll
      rw [putAll_putAll] at later
      exact first.trans later

theorem Speaks.acts {handler : ControlHandler α} (speaks : Speaks control (Fair grounds control) handler) :
    Handler.Moves (Acts context grounds) handler control := by
  obtain ⟨outputs, fair, left⟩ := speaks.state
  exact .of_state left (acts_putAll fair)

theorem Counts.acts {handler : ControlHandler α} (counts : Counts handler control)
    (limits : (handler control).2.deviceLimits = control.deviceLimits) : Handler.Moves (Acts context grounds) handler control :=
  (Act.counts _ counts limits).acts

theorem refreshRoom_speaks {seen : ControlState} : Speaks control (Fair grounds seen) (refreshRoom context roomId) :=
  .refreshRoom fun _ refreshing => fair_refresh refreshing

theorem send_acts (direct : Output.isRelay (.sent socket frame) = false) (empty : frame.contents = [])
    (kind : Output.rebuked (.sent socket frame) = none) : Handler.Moves (Acts context grounds) (send context socket frame) control :=
  Speaks.acts (.send (fair_of direct empty kind))

theorem checkRateLimit_acts {type : MessageType} : Handler.Moves (Acts context grounds) (checkRateLimit context socket type) control := by
  have counted := @aside_countMessage control socket context.now type
  have first : Acts context grounds control (control.countMessage socket context.now type) :=
    (Act.counts _ ⟨counted, rfl⟩ rfl).acts
  refine .change first (.read (.refuse fun _ => ?_))
  generalize control.countMessage socket context.now type = middle
  have second : Acts context grounds middle (middle.countAddress (middle.data socket).ip context.now type) :=
    (Act.counts _ ⟨aside_countAddress, rfl⟩ rfl).acts
  refine .change second ?_
  rw [Handler.Moves, refuse_state]

theorem checkRelayRateLimit_acts : Handler.Moves (Acts context grounds) (checkRelayRateLimit context socket) control := by
  have counted := @aside_countRelayFrame control socket context.now
  have first : Acts context grounds control (control.countRelayFrame socket context.now) :=
    (Act.counts _ ⟨counted, rfl⟩ rfl).acts
  refine .change first (.read ?_)
  rw [Handler.Moves, refuse_state]

/-! ## Rooms -/

theorem putAll_join : (control.putAll outputs).join socket roomId roomAuth = (control.join socket roomId roomAuth).putAll outputs := by
  unfold ControlState.join
  rw [putAll_rooms]
  cases control.rooms.get? roomId <;> rfl

theorem leaveRoom_acts (touched : grounds.Touches socket) : Handler.Moves (Acts context grounds) (leaveRoom context socket roomId) control := by
  obtain ⟨outputs, refreshing, left⟩ := @leaveRoom_state context control socket roomId
  have leaves : Acts context grounds control (control.leave socket roomId) := (Act.leaves socket roomId touched).acts
  exact .of_state left (leaves.trans (acts_putAll fun output member => fair_refresh (refreshing output member)))

theorem detach_acts (touched : grounds.Touches socket) : Handler.Moves (Acts context grounds) (detach context socket) control := by
  have forgets : Acts context grounds control ((control.forgetDevice socket).releaseConnection socket) :=
    (Act.forgets socket touched).acts
  exact .change forgets (.read (.forEach fun _ _ _ => leaveRoom_acts touched))

theorem clientOf_signal {payload : Text}
    (retained : ((context.clientOf control other).bind fun data => data.signals.get? roomId) = some payload) :
    control.signalOf other roomId = some payload := by
  obtain ⟨data, found, held⟩ := Option.bind_eq_some_iff.mp retained
  have own : data = control.data other := by
    cases runtime : context.runtime with
    | bun => simpa [Context.clientOf, runtime] using found.symm
    | worker => cases flag : (control.data other).closed <;> simp_all [Context.clientOf]
  rwa [signalOf, ← own]

/-- What a member has retained may be replayed to whoever presents the value of the room. -/
theorem replaySignal_speaks (listed : other ∈ control.membersOf roomId) (presents : grounds.Presents socket roomId roomAuth)
    (valid : isRoomAuth roomAuth = true)
    (matching : ∀ room, control.rooms.get? roomId = some room → fromHex room.auth = fromHex roomAuth) :
    Speaks control (Fair grounds control) (replaySignal context socket roomId other) := by
  refine .read fun earlier => ?_
  split
  · rename_i payload retained
    split
    · exact .pure
    · refine .send ⟨rfl, fun recipient frame same content member => ?_, fun _ rebuked => (nomatch rebuked)⟩
      cases same
      obtain rfl := List.mem_singleton.mp member
      exact ⟨other, .inl listed, clientOf_signal retained, .inr ⟨roomAuth, presents, valid, matching⟩⟩
  · exact .pure

/-- Whoever joins is a member before it is told so. -/
theorem enterRoom_acts {room : RoomState} (listed : ∀ member ∈ room.members, member ∈ control.membersOf roomId)
    (presents : grounds.Presents socket roomId roomAuth) (valid : isRoomAuth roomAuth = true)
    (matching : ∀ room, control.rooms.get? roomId = some room → fromHex room.auth = fromHex roomAuth)
    (joins : ∀ outputs, Acts context grounds (control.putAll outputs) ((control.addMember socket roomId room).putAll outputs)) :
    Handler.Moves (Acts context grounds) (enterRoom context socket roomId room) control := by
  have replays : Speaks control (Fair grounds control) (Handler.forEach room.members (replaySignal context socket roomId)) :=
    .forEach fun member inside => replaySignal_speaks (listed member inside) presents valid matching
  obtain ⟨outputs, -, replayed⟩ := replays.state
  refine Handler.Moves.bind replays.acts fun _ middle ran => ?_
  rw [ran] at replayed
  dsimp only at replayed
  subst replayed
  refine .change (joins outputs) ?_
  have confirms : Speaks ((control.putAll outputs).addMember socket roomId room)
      (Fair grounds ((control.putAll outputs).addMember socket roomId room)) (do
        send context socket (.joined roomId (room.members.length + 1))
        refreshRoom context roomId) :=
    Speaks.bind (.send (fair_of rfl rfl rfl)) fun _ => refreshRoom_speaks
  exact confirms.acts

theorem joinRoom_acts (asked : grounds.asks socket message)
    (named : message.type = .join ∧ message.roomId = some roomId ∧ message.roomAuth = some roomAuth) :
    Handler.Moves (Acts context grounds) (joinRoom context socket roomId roomAuth) control := by
  refine .refuse fun fit => .read ?_
  have valid : isRoomAuth roomAuth = true := by
    by_contra wrong
    exact fit (.inr wrong)
  split
  · exact .pure
  · refine .refuse fun _ => ?_
    have joins : ∀ outputs, (∀ room, control.rooms.get? roomId = some room → fromHex room.auth = fromHex roomAuth) →
        Acts context grounds (control.putAll outputs) ((control.join socket roomId roomAuth).putAll outputs) := by
      intro outputs matching
      have act := @Act.joins context grounds (control.putAll outputs) socket message roomId roomAuth asked named valid matching
      rw [putAll_join] at act
      exact act.acts
    cases found : control.rooms.get? roomId with
    | some room =>
        have obtained : obtainRoom roomId roomAuth control = (.ok room, control) := by
          rw [obtainRoom, Handler.read_bind, found]
          rfl
        have entering : control.addMember socket roomId room = control.join socket roomId roomAuth := by
          simp only [ControlState.join, found]
        rw [Handler.Moves, Handler.bind_apply, obtained]
        change Handler.Moves _ (_ >>= _) control
        refine .refuse fun same => .refuse fun _ => ?_
        have matching : ∀ other, control.rooms.get? roomId = some other → fromHex other.auth = fromHex roomAuth := by
          intro other held
          rw [found] at held
          cases held
          exact timingSafeEqual_iff.mp (not_not.mp same)
        have members : ∀ member ∈ room.members, member ∈ control.membersOf roomId := by
          intro member listed
          rwa [membersOf_some found]
        refine enterRoom_acts members ⟨message, asked, named⟩ valid matching fun outputs => ?_
        rw [entering]
        exact joins outputs matching
    | none =>
        by_cases full : maxRooms ≤ control.rooms.size
        · have refused : obtainRoom roomId roomAuth control = (.error "Control service room limit reached", control) := by
            rw [obtainRoom, Handler.read_bind, found]
            dsimp only
            rw [Handler.bind_apply, Handler.refuse_of full]
          rw [Handler.Moves, Handler.bind_apply, refused]
        · have obtained : obtainRoom roomId roomAuth control = (.ok ⟨roomAuth, []⟩, control.createRoom roomId roomAuth) := by
            rw [obtainRoom, Handler.read_bind, found]
            dsimp only
            rw [Handler.bind_apply, Handler.refuse_of_not full]
            rfl
          have entering : (control.createRoom roomId roomAuth).addMember socket roomId ⟨roomAuth, []⟩ =
              control.join socket roomId roomAuth := by
            simp only [ControlState.join, found]
          have joined : Acts context grounds control (control.join socket roomId roomAuth) := by
            have alone := joins [] fun room held => by
              rw [found] at held
              cases held
            rwa [putAll_nil, putAll_nil] at alone
          have confirms : Speaks (control.join socket roomId roomAuth) (Fair grounds (control.join socket roomId roomAuth)) (do
              send context socket (.joined roomId 1)
              refreshRoom context roomId) :=
            Speaks.bind (.send (fair_of rfl rfl rfl)) fun _ => refreshRoom_speaks
          rw [Handler.Moves, Handler.bind_apply, obtained]
          dsimp only
          rw [Handler.bind_apply, Handler.refuse_of_not (by simpa using (sameAuth valid valid).mpr rfl)]
          dsimp only
          rw [Handler.bind_apply, Handler.refuse_of_not (by decide)]
          change Acts context grounds control ((send context socket (.joined roomId 1) >>= fun _ => refreshRoom context roomId)
            ((control.createRoom roomId roomAuth).addMember socket roomId ⟨roomAuth, []⟩)).2
          rw [entering]
          exact joined.trans confirms.acts

theorem signalRoom_acts (asked : grounds.asks socket message)
    (named : message.type = .signal ∧ message.roomId = some roomId ∧ message.payload = some payload) :
    Handler.Moves (Acts context grounds) (signalRoom context socket roomId payload) control := by
  refine .read (.refuse fun inside => .refuse fun _ => .refuse fun _ => ?_)
  have retains : Acts context grounds control (control.retain socket roomId payload) :=
    (Act.retains socket message roomId payload asked named (not_not.mp inside)).acts
  refine .change retains (Speaks.acts (.broadcastRoom fun member listed _ =>
    ⟨rfl, fun recipient frame same content carried => ?_, fun _ rebuked => (nomatch rebuked)⟩))
  cases same
  obtain rfl := List.mem_singleton.mp carried
  have held : (control.retain socket roomId payload).signalOf socket roomId = some payload := by
    simp [signalOf, ClientData.signalling]
  have own : roomId ∈ ((control.retain socket roomId payload).data socket).rooms := by
    simpa [ClientData.signalling] using not_not.mp inside
  exact ⟨socket, .inr own, held, .inl (.inl listed)⟩

theorem fetchPeers_acts : Handler.Moves (Acts context grounds) (fetchPeers context socket roomId) control := by
  refine .read (.refuse fun inside => ?_)
  cases found : control.rooms.get? roomId with
  | none => exact .pure
  | some room =>
      refine Speaks.acts (.send ⟨rfl, fun recipient frame same content carried => ?_, fun _ rebuked => (nomatch rebuked)⟩)
      cases same
      obtain ⟨payload, listed, rfl⟩ := List.mem_map.mp carried
      obtain ⟨author, member, kept⟩ := List.mem_filterMap.mp listed
      have retained := clientOf_signal (Option.eq_some_of_filter_eq_some kept)
      rw [← membersOf_some found] at member
      exact ⟨author, .inl member, retained, .inl (.inr (not_not.mp inside))⟩

theorem handleRoomMessage_acts (asked : grounds.asks socket message) :
    Handler.Moves (Acts context grounds) (handleRoomMessage context socket message) control := by
  unfold handleRoomMessage
  split
  · rename_i type roomId roomAuth
    exact joinRoom_acts asked ⟨type, roomId, roomAuth⟩
  · exact leaveRoom_acts (.inr ⟨message, asked⟩)
  · rename_i type roomId payload
    exact signalRoom_acts asked ⟨type, roomId, payload⟩
  · exact fetchPeers_acts
  · exact .raise

/-! ## Relay -/

/-- What `reserveRelayBandwidth` has found and checked before it takes the bytes
from both devices. -/
structure Affords (context : Context) (grounds : Grounds) (control middle : ControlState)
    (peerId recipientId : PeerId) (bytes : Nat) (sending receiving : DeviceLimit) : Prop where
  acts : Acts context grounds control middle
  tallied : Tallied control middle
  paying : middle.deviceLimits.get? peerId = some sending
  taking : middle.deviceLimits.get? recipientId = some receiving
  current : sending.updatedAt = context.now ∧ receiving.updatedAt = context.now
  enough : (bytes : Rat) ≤ sending.tokens
  fits : (bytes : Rat) ≤ receiving.receiveTokens

theorem get?_setDeviceLimit {peerId device : PeerId} {limit : DeviceLimit} :
    (control.setDeviceLimit peerId limit).deviceLimits.get? device =
      if device = peerId then some limit else control.deviceLimits.get? device := by
  simp only [ControlState.setDeviceLimit, Dict.get?_set]

theorem tallied_setDeviceLimit {peerId : PeerId} {limit : DeviceLimit} : Tallied control (control.setDeviceLimit peerId limit) :=
  ⟨aside_setDeviceLimit, rfl⟩

theorem limits_acts {peerId : PeerId} {limit after : DeviceLimit} (found : control.deviceLimits.get? peerId = some limit)
    (lowered : after = limit.refill context.now ∨ limit.Lowers after) :
    Acts context grounds control (control.setDeviceLimit peerId after) := (Act.limits peerId limit after found lowered).acts

/-- Bandwidth is refused after the buckets have been filled, or taken from both devices. -/
theorem reserve_cases {peerId recipientId : PeerId} {bytes : Nat} (distinct : peerId ≠ recipientId) :
    (∃ outcome after, reserveRelayBandwidth context peerId recipientId bytes control = (outcome, after) ∧ outcome ≠ .ok true ∧
        Acts context grounds control after ∧ Tallied control after) ∨
      ∃ middle sending receiving, Affords context grounds control middle peerId recipientId bytes sending receiving ∧
        reserveRelayBandwidth context peerId recipientId bytes control =
          (.ok true, spent context middle peerId recipientId bytes sending receiving) := by
  have refilled : ∀ {device : PeerId} {limit : DeviceLimit} {state : ControlState}, state.deviceLimits.get? device = some limit →
      refillDevice context device state = (.ok (limit.refill context.now), state.setDeviceLimit device (limit.refill context.now)) := by
    intro device limit state found
    rw [refillDevice, Handler.read_bind, found]
    rfl
  have unknown : ∀ {device : PeerId} {state : ControlState}, state.deviceLimits.get? device = none →
      refillDevice context device state = (.error "Relay device is not registered", state) := by
    intro device state absent
    rw [refillDevice, Handler.read_bind, absent]
    rfl
  cases paying : control.deviceLimits.get? peerId with
  | none =>
      refine .inl ⟨.error "Relay device is not registered", control, ?_, by simp, .refl, .refl⟩
      rw [reserveRelayBandwidth, Handler.bind_apply, unknown paying]
  | some paid =>
      have first := @limits_acts context grounds _ _ _ _ paying (.inl rfl)
      have other : (control.setDeviceLimit peerId (paid.refill context.now)).deviceLimits.get? recipientId =
          control.deviceLimits.get? recipientId := by
        rw [get?_setDeviceLimit, if_neg distinct.symm]
      cases taking : control.deviceLimits.get? recipientId with
      | none =>
          rw [taking] at other
          refine .inl ⟨.error "Relay device is not registered", _, ?_, by simp, first, tallied_setDeviceLimit⟩
          rw [reserveRelayBandwidth, Handler.bind_apply, refilled paying]
          dsimp only
          rw [Handler.bind_apply, unknown other]
      | some taken =>
          rw [taking] at other
          have second := @limits_acts context grounds _ _ _ _ other (.inl rfl)
          have filled : ((control.setDeviceLimit peerId (paid.refill context.now)).setDeviceLimit recipientId
              (taken.refill context.now)).deviceLimits.get? peerId = some (paid.refill context.now) := by
            rw [get?_setDeviceLimit, if_neg distinct, get?_setDeviceLimit, if_pos rfl]
          have third := @limits_acts context grounds _ _ _ ((paid.refill context.now).forgetIdle context.now) filled
            (.inr ⟨rfl, le_rfl, le_rfl, id, id⟩)
          generalize known : ((control.setDeviceLimit peerId (paid.refill context.now)).setDeviceLimit recipientId
            (taken.refill context.now)).setDeviceLimit peerId ((paid.refill context.now).forgetIdle context.now) = middle at third
          have acts := (first.trans second).trans third
          have tallied : Tallied control middle := by
            rw [← known]
            exact (tallied_setDeviceLimit.trans tallied_setDeviceLimit).trans tallied_setDeviceLimit
          have reached : reserveRelayBandwidth context peerId recipientId bytes control =
              (if ((paid.refill context.now).forgetIdle context.now).tokens < bytes ∨ (taken.refill context.now).receiveTokens < bytes then
                pure false
              else if ¬ ((paid.refill context.now).forgetIdle context.now).relayPeers.contains recipientId ∧
                  maxRelayPeersPerDevice ≤ ((paid.refill context.now).forgetIdle context.now).relayPeers.size then pure false
              else do
                Handler.change fun control => control.setDeviceLimit peerId { (paid.refill context.now).forgetIdle context.now with
                  relayPeers := ((paid.refill context.now).forgetIdle context.now).relayPeers.set recipientId context.now
                  tokens := ((paid.refill context.now).forgetIdle context.now).tokens - bytes }
                Handler.change fun control => control.setDeviceLimit recipientId
                  { taken.refill context.now with receiveTokens := (taken.refill context.now).receiveTokens - bytes }
                pure true : ControlHandler Bool) middle := by
            rw [reserveRelayBandwidth, Handler.bind_apply, refilled paying]
            dsimp only
            rw [Handler.bind_apply, refilled other, ← known]
            rfl
          by_cases poor : ((paid.refill context.now).forgetIdle context.now).tokens < bytes ∨ (taken.refill context.now).receiveTokens < bytes
          · rw [if_pos poor] at reached
            exact .inl ⟨_, _, reached, by simp, acts, tallied⟩
          · rw [if_neg poor] at reached
            by_cases crowded : ¬ ((paid.refill context.now).forgetIdle context.now).relayPeers.contains recipientId ∧
                maxRelayPeersPerDevice ≤ ((paid.refill context.now).forgetIdle context.now).relayPeers.size
            · rw [if_pos crowded] at reached
              exact .inl ⟨_, _, reached, by simp, acts, tallied⟩
            · rw [if_neg crowded] at reached
              obtain ⟨rich, roomy⟩ := not_or.mp poor
              refine .inr ⟨middle, (paid.refill context.now).forgetIdle context.now, taken.refill context.now,
                ⟨acts, tallied, ?_, ?_, ⟨rfl, rfl⟩, not_lt.mp rich, not_lt.mp roomy⟩, reached⟩
              · rw [← known, get?_setDeviceLimit, if_pos rfl]
              · rw [← known, get?_setDeviceLimit, if_neg distinct.symm, get?_setDeviceLimit, if_pos rfl]

/-- Who shares a room with whom can be read off the rooms and the clients. -/
theorem ControlState.Aside.peersShareRoom {after : ControlState} {recipientId : PeerId} (aside : Aside control after) :
    Control.peersShareRoom context after socket recipientId = Control.peersShareRoom context control socket recipientId := by
  have members : ∀ roomId, after.membersOf roomId = control.membersOf roomId := fun roomId => membersOf_congr (by rw [aside.rooms])
  have device : ∀ member, ((context.clientOf after member).bind fun data => data.peerId) =
      (context.clientOf control member).bind fun data => data.peerId := by
    intro member
    cases runtime : context.runtime with
    | bun => simp [Context.clientOf, runtime, aside.peerId]
    | worker => cases flag : (control.data member).closed <;> simp [Context.clientOf, runtime, aside.closed, flag, aside.peerId]
  simp only [Control.peersShareRoom, aside.peerId, aside.joined, members, device]

/-- The bytes are taken from both devices, one after the other. -/
theorem Affords.spent_acts {middle : ControlState} {peerId recipientId : PeerId} {bytes : Nat} {sending receiving : DeviceLimit}
    (affords : Affords context grounds control middle peerId recipientId bytes sending receiving) (distinct : peerId ≠ recipientId) :
    Acts context grounds control (spent context middle peerId recipientId bytes sending receiving) := by
  have less : ∀ tokens : Rat, tokens - (bytes : Rat) ≤ tokens := fun tokens => sub_le_self tokens (Nat.cast_nonneg bytes)
  have paid := @limits_acts context grounds _ _ _ { sending with
    relayPeers := sending.relayPeers.set recipientId context.now, tokens := sending.tokens - bytes } affords.paying
    (.inr ⟨rfl, less _, le_rfl, fun _ => sub_nonneg.mpr affords.enough, id⟩)
  have other : (middle.setDeviceLimit peerId { sending with
      relayPeers := sending.relayPeers.set recipientId context.now
      tokens := sending.tokens - bytes }).deviceLimits.get? recipientId = some receiving := by
    rw [get?_setDeviceLimit, if_neg distinct.symm, affords.taking]
  have taken := @limits_acts context grounds _ _ _ { receiving with receiveTokens := receiving.receiveTokens - bytes } other
    (.inr ⟨rfl, le_rfl, less _, id, fun _ => sub_nonneg.mpr affords.fits⟩)
  exact affords.acts.trans (paid.trans taken)

/-- Where a relay frame goes out, everything has been checked for it; where the
recipient cannot be reached, the bytes are gone all the same. -/
theorem relayDatagram_closes {recipientId : PeerId} (asked : grounds.asks socket message) (live : control.Live socket)
    (named : message.relayed? = some (recipientId, payload)) :
    Handler.Closes (Acts context grounds) (Ends context grounds) (relayDatagram context socket recipientId payload) control := by
  have quietly : ∀ {handler : ControlHandler PUnit} {state : ControlState}, Handler.Moves (Acts context grounds) handler state →
      Handler.Closes (Acts context grounds) (Ends context grounds) handler state := fun moves => .of_moves moves fun _ => Acts.ends
  refine .refuse fun _ => .read ?_
  cases own : (control.data socket).peerId with
  | none => exact quietly .raise
  | some peerId =>
      refine .refuse fun _ => .orRaise fun frame decoded => .refuse fun _ => ?_
      by_cases shared : peersShareRoom context control socket recipientId = true
      · rw [if_neg (not_not.mpr shared)]
        have distinct : peerId ≠ recipientId := by
          simp only [peersShareRoom, own, Bool.and_eq_true, decide_eq_true_eq] at shared
          exact shared.1
        cases registered : control.socketsByPeerId.get? recipientId with
        | none => exact quietly (send_acts rfl rfl rfl)
        | some recipient =>
            dsimp only
            rcases @reserve_cases context grounds control peerId recipientId frame.length distinct with
              ⟨outcome, after, ran, refused, acts, -⟩ | ⟨middle, sending, receiving, affords, ran⟩
            · cases outcome with
              | error text => simpa only [Handler.Closes, Handler.bind_apply, ran] using acts
              | ok granted =>
                  cases granted with
                  | true => exact absurd rfl refused
                  | false =>
                      refine quietly (.bind (.of_state (congrArg Prod.snd ran) acts) fun value state reached => ?_)
                      rw [ran] at reached
                      cases reached
                      exact send_acts rfl rfl rfl
            · have reached : (reserveRelayBandwidth context peerId recipientId frame.length >>= fun granted =>
                  if granted then send context recipient (.relay peerId payload)
                  else send context socket (.relayDropped recipientId .quota)) control =
                  send context recipient (.relay peerId payload)
                    (spent context middle peerId recipientId frame.length sending receiving) := by
                rw [Handler.bind_apply, ran]
                rfl
              by_cases fails : context.failing recipient = true
              · rw [Handler.Closes, reached, send, if_pos fails]
                exact affords.spent_acts distinct
              · have tallied := affords.tallied
                have forward : Forward context grounds middle
                    ((spent context middle peerId recipientId frame.length sending receiving).putAll [.sent recipient (.relay peerId payload)]) :=
                  { sender := socket, message := message, peerId := peerId, recipient := recipient, recipientId := recipientId
                    payload := payload, frame := frame, sending := sending, receiving := receiving
                    asked := asked, named := named, decoded := decoded
                    live := by rwa [Live, tallied.closed]
                    own := by rw [tallied.peerId, own]
                    shared := by rw [tallied.toAside.peersShareRoom, shared]
                    registered := by rw [tallied.socketsByPeerId, registered]
                    paying := affords.paying, taking := affords.taking, current := affords.current
                    enough := affords.enough, fits := affords.fits, result := rfl }
                have ended : Ends context grounds control _ := .inr ⟨middle, affords.acts, ⟨forward⟩⟩
                rw [Handler.Closes, reached, send, if_neg fails]
                exact ended
      · rw [if_pos shared]
        exact quietly (send_acts rfl rfl rfl)

end

end MeshTalk.Control
