import MeshTalk.Control.Consistency

namespace MeshTalk.Control

open MeshTalk.Library

/-! # What a message does

Where no `send` to a live client raises, each handler either raises and leaves the
tables as they were, but for counters, or makes its update and sends its frames.
-/

/-- A `send` raises only for clients that have been closed. -/
def Reliable (context : Context) (control : ControlState) : Prop :=
  ∀ socket, control.Live socket → context.failing socket = false

namespace ControlState

variable {control : ControlState} {socket other : Socket} {roomId : RoomId} {outputs more : List Output}

@[simp] theorem putAll_putAll : (control.putAll outputs).putAll more = control.putAll (outputs ++ more) := by
  simp [putAll]

@[simp] theorem putAll_nil : control.putAll [] = control := by
  simp [putAll]

theorem put_eq {output : Output} : control.put output = control.putAll [output] := rfl

@[simp] theorem putAll_membersOf : (control.putAll outputs).membersOf roomId = control.membersOf roomId := rfl

@[simp] theorem putAll_rooms : (control.putAll outputs).rooms = control.rooms := rfl

theorem putAll_leave : (control.putAll outputs).leave socket roomId = (control.leave socket roomId).putAll outputs := by
  unfold leave
  rw [putAll_rooms]
  split
  · rfl
  · split <;> rfl

theorem putAll_retire : (control.putAll outputs).retire socket = (control.retire socket).putAll outputs := by
  have forgets : ∀ state : ControlState, (state.putAll outputs).forgetDevice socket = (state.forgetDevice socket).putAll outputs := by
    intro state
    unfold forgetDevice
    rw [putAll_data]
    split
    · rfl
    · change (if state.socketsByPeerId.get? _ = some socket then _ else _) = _
      split <;> rfl
  change (((control.markClosed socket).putAll outputs).forgetDevice socket).releaseConnection socket = _
  rw [forgets]
  rfl

theorem putAll_leaveAll {roomIds : List RoomId} :
    (control.putAll outputs).leaveAll socket roomIds = (control.leaveAll socket roomIds).putAll outputs := by
  induction roomIds generalizing control with
  | nil => rfl
  | cons roomId rest ih =>
      change ((control.putAll outputs).leave socket roomId).leaveAll socket rest = _
      rw [putAll_leave, ih]
      rfl

theorem putAll_withdraw : (control.putAll outputs).withdraw socket = (control.withdraw socket).putAll outputs := by
  rw [withdraw_eq, putAll_retire, putAll_data, putAll_leaveAll, ← withdraw_eq]

/-- The frames of `refreshRoom`. -/
def refreshes (control : ControlState) (roomId : RoomId) : List Output :=
  (control.membersOf roomId).map fun member => .sent member (.refresh roomId (control.membersOf roomId).length)

/-- The frames of leaving the rooms of a list. -/
def farewells (control : ControlState) (socket : Socket) : List RoomId → List Output
  | [] => []
  | roomId :: rest =>
      (control.leave socket roomId).refreshes roomId ++ (control.leave socket roomId).farewells socket rest

theorem putAll_farewells {roomIds : List RoomId} :
    (control.putAll outputs).farewells socket roomIds = control.farewells socket roomIds := by
  induction roomIds generalizing control with
  | nil => rfl
  | cons roomId rest ih =>
      rw [farewells, farewells, putAll_leave, ih]
      rfl

/-- What the members of a client's rooms hear when it goes. -/
def IsFarewell (control : ControlState) (socket : Socket) (output : Output) : Prop :=
  ∃ roomId ∈ (control.data socket).rooms, ∃ member count, output = .sent member (.refresh roomId count) ∧
    member ∈ control.membersOf roomId ∧ member ≠ socket

theorem mem_refreshes {output : Output} (member : output ∈ control.refreshes roomId) :
    ∃ other ∈ control.membersOf roomId, output = .sent other (.refresh roomId (control.membersOf roomId).length) := by
  obtain ⟨other, listed, rfl⟩ := List.mem_map.mp member
  exact ⟨other, listed, rfl⟩

theorem mem_farewells {roomIds : List RoomId} {output : Output} (member : output ∈ control.farewells socket roomIds) :
    ∃ roomId ∈ roomIds, ∃ other count, output = .sent other (.refresh roomId count) ∧
      other ∈ control.membersOf roomId ∧ other ≠ socket := by
  induction roomIds generalizing control with
  | nil => cases member
  | cons roomId rest ih =>
      rcases List.mem_append.mp member with now | later
      · obtain ⟨other, listed, rfl⟩ := mem_refreshes now
        rw [membersOf_leave, if_pos rfl] at listed
        obtain ⟨inside, another⟩ := List.mem_filter.mp listed
        exact ⟨roomId, List.mem_cons_self .., other, _, rfl, inside, of_decide_eq_true another⟩
      · obtain ⟨left, listed, other, count, rfl, inside, another⟩ := ih later
        refine ⟨left, List.mem_cons_of_mem _ listed, other, count, rfl, ?_, another⟩
        rw [membersOf_leave] at inside
        split at inside
        · rename_i same
          rw [same]
          exact (List.mem_filter.mp inside).1
        · exact inside

end ControlState

open ControlState

section

variable {context : Context} {control : ControlState} {socket other : Socket} {roomId : RoomId} {frame : Frame}
  {roomAuth payload : Text}

theorem Reliable.of_live {next : ControlState} (reliable : Reliable context control)
    (live : ∀ socket, next.Live socket → control.Live socket) : Reliable context next :=
  fun socket alive => reliable socket (live socket alive)

theorem send_apply (delivers : context.failing socket = false) :
    send context socket frame control = (.ok ⟨⟩, control.putAll [.sent socket frame]) := by
  simp only [send, delivers, Bool.false_eq_true, if_false]
  rfl

/-- A loop whose body only sends. -/
theorem forEach_puts {items : List α} {body : α → ControlHandler PUnit} {frames : α → List Output}
    (each : ∀ item ∈ items, ∀ outputs, body item (control.putAll outputs) = (.ok ⟨⟩, control.putAll (outputs ++ frames item)))
    (outputs : List Output) :
    Handler.forEach items body (control.putAll outputs) = (.ok ⟨⟩, control.putAll (outputs ++ items.flatMap frames)) := by
  induction items generalizing outputs with
  | nil => simp [Handler.forEach]
  | cons item rest ih =>
      have first := each item (List.mem_cons_self ..) outputs
      have later := ih (fun other member => each other (List.mem_cons_of_mem _ member)) (outputs ++ frames item)
      simp only [Handler.forEach, Handler.bind_apply, first, later, List.flatMap_cons, List.append_assoc]

theorem broadcastRoom_apply {except : Option Socket}
    (delivers : ∀ member ∈ control.membersOf roomId, some member ≠ except → context.failing member = false) :
    broadcastRoom context roomId frame except control =
      (.ok ⟨⟩, control.putAll (((control.membersOf roomId).filter fun member => some member ≠ except).map fun member =>
        .sent member frame)) := by
  have each : ∀ member ∈ control.membersOf roomId, ∀ outputs,
      (if some member = except then pure ⟨⟩ else send context member frame : ControlHandler PUnit) (control.putAll outputs) =
        (.ok ⟨⟩, control.putAll (outputs ++ if some member = except then [] else [.sent member frame])) := by
    intro member listed outputs
    by_cases left : some member = except
    · simp [left]
    · rw [if_neg left, if_neg left, send_apply (delivers member listed left), putAll_putAll]
  have all := forEach_puts each []
  have frames : ((control.membersOf roomId).flatMap fun member => if some member = except then [] else [Output.sent member frame]) =
      ((control.membersOf roomId).filter fun member => some member ≠ except).map fun member => .sent member frame := by
    induction control.membersOf roomId with
    | nil => rfl
    | cons member rest ih =>
        rw [List.flatMap_cons, ih, List.filter_cons]
        by_cases left : some member = except <;> simp [left]
  rw [putAll_nil, frames, List.nil_append] at all
  exact all

theorem refreshRoom_apply (delivers : ∀ member ∈ control.membersOf roomId, context.failing member = false) :
    refreshRoom context roomId control = (.ok ⟨⟩, control.putAll (control.refreshes roomId)) := by
  have sent := @broadcastRoom_apply context control roomId (.refresh roomId (control.membersOf roomId).length) none
    fun member listed _ => delivers member listed
  have everyone : ((control.membersOf roomId).filter fun member => decide (some member ≠ none)) = control.membersOf roomId :=
    List.filter_eq_self.mpr fun _ _ => rfl
  rw [everyone] at sent
  cases found : control.rooms.get? roomId with
  | none =>
      have nobody : control.refreshes roomId = [] := by rw [refreshes, membersOf_none found, List.map_nil]
      simp only [refreshRoom, Handler.bind_apply, Handler.read, found, nobody, putAll_nil, Handler.pure_apply]
  | some room =>
      have members := membersOf_some found
      simp only [refreshRoom, Handler.bind_apply, Handler.read, found]
      rw [members] at sent
      rw [sent, refreshes, members]

theorem leaveRoom_apply
    (delivers : ∀ member ∈ control.membersOf roomId, member ≠ socket → context.failing member = false) :
    leaveRoom context socket roomId control =
      (.ok ⟨⟩, (control.leave socket roomId).putAll ((control.leave socket roomId).refreshes roomId)) := by
  have reached : ∀ member ∈ (control.leave socket roomId).membersOf roomId, context.failing member = false := by
    intro member listed
    rw [membersOf_leave, if_pos rfl] at listed
    obtain ⟨inside, another⟩ := List.mem_filter.mp listed
    exact delivers member inside (of_decide_eq_true another)
  have told := refreshRoom_apply reached
  cases found : control.rooms.get? roomId with
  | none =>
      rw [leave_none found, refreshes, membersOf_none found, List.map_nil, putAll_nil]
      simp only [leaveRoom, Handler.bind_apply, Handler.read, found, Handler.pure_apply]
  | some room =>
      simp only [leaveRoom, Handler.bind_apply, Handler.read, found, Handler.change]
      by_cases last : (room.members.filter fun member => member ≠ socket) = []
      · have gone : control.leave socket roomId = (control.dropMember socket roomId room).dropRoom roomId := by
          simp only [leave, found, last, if_true]
        have nobody : (control.leave socket roomId).membersOf roomId = [] := by
          rw [membersOf_leave, if_pos rfl, membersOf_some found, last]
        rw [if_pos last, refreshes, nobody, List.map_nil, putAll_nil, gone]
        rfl
      · have stays : control.leave socket roomId = control.dropMember socket roomId room := by
          simp only [leave, found, last, if_false]
        rw [stays] at told
        rw [if_neg last, told, stays]

theorem leaveRooms_apply {roomIds : List RoomId}
    (delivers : ∀ roomId ∈ roomIds, ∀ member ∈ control.membersOf roomId, member ≠ socket → context.failing member = false)
    (outputs : List Output) :
    Handler.forEach roomIds (leaveRoom context socket) (control.putAll outputs) =
      (.ok ⟨⟩, (control.leaveAll socket roomIds).putAll (outputs ++ control.farewells socket roomIds)) := by
  induction roomIds generalizing control outputs with
  | nil => simp [Handler.forEach, leaveAll, farewells]
  | cons roomId rest ih =>
      have first : leaveRoom context socket roomId (control.putAll outputs) =
          (.ok ⟨⟩, (control.leave socket roomId).putAll (outputs ++ (control.leave socket roomId).refreshes roomId)) := by
        have left := @leaveRoom_apply context (control.putAll outputs) socket roomId (delivers roomId (List.mem_cons_self ..))
        rw [putAll_leave, putAll_putAll] at left
        exact left
      have later := @ih (control.leave socket roomId) (by
        intro left listed member inside another
        rw [membersOf_leave] at inside
        split at inside
        · rename_i same
          rw [← same] at inside
          exact delivers left (List.mem_cons_of_mem _ listed) member (List.mem_filter.mp inside).1 another
        · exact delivers left (List.mem_cons_of_mem _ listed) member inside another)
        (outputs ++ (control.leave socket roomId).refreshes roomId)
      simp only [Handler.forEach, Handler.bind_apply, first, later, List.append_assoc]
      rfl

/-- The frames that go out while a client is taken out of its rooms. -/
def partings (control : ControlState) (socket : Socket) : List Output :=
  (control.retire socket).farewells socket (control.data socket).rooms

theorem mem_partings {output : Output} (member : output ∈ partings control socket) : control.IsFarewell socket output := by
  obtain ⟨roomId, listed, other, count, rfl, inside, another⟩ := mem_farewells member
  refine ⟨roomId, listed, other, count, rfl, ?_, another⟩
  rw [membersOf_congr (by rw [sameRooms_retire.rooms] : (control.retire socket).rooms.get? roomId = control.rooms.get? roomId)]
    at inside
  exact inside

/-- The clean-up of a client whose fellow members can be told. -/
theorem detach_apply (delivers : ∀ roomId ∈ (control.data socket).rooms, ∀ member ∈ control.membersOf roomId,
      member ≠ socket → context.failing member = false) :
    detach context socket (control.markClosed socket) =
      (.ok ⟨⟩, (control.withdraw socket).putAll (partings control socket)) := by
  have joined : ((control.retire socket).data socket).rooms = (control.data socket).rooms := sameRooms_retire.joined socket
  have told := @leaveRooms_apply context (control.retire socket) socket (control.data socket).rooms (by
    intro roomId listed member inside another
    rw [membersOf_congr (by rw [sameRooms_retire.rooms] : (control.retire socket).rooms.get? roomId = control.rooms.get? roomId)]
      at inside
    exact delivers roomId listed member inside another) []
  rw [putAll_nil, List.nil_append] at told
  simp only [detach, Handler.bind_apply, Handler.change, Handler.read]
  change Handler.forEach ((control.retire socket).data socket).rooms (leaveRoom context socket) (control.retire socket) = _
  rw [joined, told]
  rfl

theorem member_reached (kept : Wellkept control) (reliable : Reliable context control)
    (member : other ∈ control.membersOf roomId) : context.failing other = false :=
  reliable other (kept.member member).1

/-! ## Reactions -/

/-- Counters and limits change, and nothing is sent. -/
structure Tallied (before after : ControlState) : Prop extends Aside before after where
  wire : after.wire = before.wire

theorem Tallied.refl : Tallied control control := ⟨.refl, rfl⟩

theorem Tallied.trans {before middle after : ControlState} (first : Tallied before middle) (second : Tallied middle after) :
    Tallied before after := ⟨first.toAside.trans second.toAside, second.wire.trans first.wire⟩

theorem Tallied.reliable {after : ControlState} (tallied : Tallied control after) (reliable : Reliable context control) :
    Reliable context after :=
  reliable.of_live fun socket alive => by rwa [Live, tallied.closed] at alive

theorem Tallied.membersOf {before after : ControlState} (tallied : Tallied before after) :
    after.membersOf roomId = before.membersOf roomId := membersOf_congr (by rw [tallied.rooms])

/-- A registration of the connection, signed with the key that the device is named after. -/
structure SignedRegistration.Proves (signed : SignedRegistration) (crypto : Crypto) (data : ClientData) : Prop where
  challengeId : signed.registration.challengeId = data.challengeId
  nonce : signed.registration.nonce = data.challenge
  named : toHex (crypto.sha256 (fromHex signed.registration.signingPublicKey)) = signed.registration.peerId
  verified : crypto.verify (fromHex signed.registration.signingPublicKey) (fromHex signed.signature)
    (crypto.canonical signed.registration) = .ok true

/-- What the handling of a client's message comes to, once the counters are charged. -/
inductive Reaction (crypto : Crypto) (socket : Socket) (message : ControlMessage) (control : ControlState) : ControlState → Prop where
  | quiet : Reaction crypto socket message control control
  | rejected (outputs : List Output)
      (said : ∀ output ∈ outputs, control.IsFarewell socket output ∨ (∃ text, output = .sent socket (.error text)) ∨
        ∃ code, output = .closed socket code) :
      Reaction crypto socket message control ((control.withdraw socket).putAll outputs)
  | told (frame : Frame) (roomless : frame.roomId? = none) (direct : ∀ peerId payload, frame ≠ .relay peerId payload) :
      Reaction crypto socket message control (control.putAll [.sent socket frame])
  | fetched (roomId : RoomId) (payloads : List Text) (inside : roomId ∈ (control.data socket).rooms)
      (kept : ∀ payload ∈ payloads, ∃ member ∈ control.membersOf roomId, control.signalOf member roomId = some payload) :
      Reaction crypto socket message control (control.putAll [.sent socket (.peers roomId payloads)])
  | joined (roomId : RoomId) (roomAuth : Text) (outputs : List Output)
      (asked : message.type = .join ∧ message.roomId = some roomId ∧ message.roomAuth = some roomAuth)
      (device : (control.data socket).peerId ≠ none) (outside : roomId ∉ (control.data socket).rooms)
      (valid : isRoomAuth roomAuth = true)
      (matching : ∀ room, control.rooms.get? roomId = some room → room.auth = roomAuth)
      (said : ∀ output ∈ outputs,
        (∃ payload, output = .sent socket (.signal roomId payload) ∧
          ∃ member ∈ control.membersOf roomId, control.signalOf member roomId = some payload) ∨
        (∃ count, output = .sent socket (.joined roomId count)) ∨
        output ∈ (control.join socket roomId roomAuth).refreshes roomId) :
      Reaction crypto socket message control ((control.join socket roomId roomAuth).putAll outputs)
  | left (roomId : RoomId) (asked : message.type = .leave ∧ message.roomId = some roomId) :
      Reaction crypto socket message control ((control.leave socket roomId).putAll ((control.leave socket roomId).refreshes roomId))
  | signalled (roomId : RoomId) (payload : Text)
      (asked : message.type = .signal ∧ message.roomId = some roomId ∧ message.payload = some payload)
      (inside : roomId ∈ (control.data socket).rooms)
      (fits : control.retainedBytes - control.signalLength socket roomId + payload.length ≤ maxRetainedBytes) :
      Reaction crypto socket message control ((control.retain socket roomId payload).putAll
        (((control.membersOf roomId).filter fun member => some member ≠ some socket).map fun member =>
          .sent member (.signal roomId payload)))
  | relayed (recipient : Socket) (peerId recipientId : PeerId) (payload : Text)
      (asked : message.relayed? = some (recipientId, payload)) (own : (control.data socket).peerId = some peerId)
      (shared : ∃ roomId ∈ (control.data socket).rooms, ∃ member ∈ control.membersOf roomId,
        (control.data member).peerId = some recipientId)
      (found : control.socketsByPeerId.get? recipientId = some recipient) :
      Reaction crypto socket message control (control.putAll [.sent recipient (.relay peerId payload)])
  | registered (signed : SignedRegistration) (now : Int) (outputs : List Output)
      (asked : message.type = .deviceRegister ∧ message.registration? = some signed)
      (own : ∀ held ∈ (control.data socket).peerId, held = signed.registration.peerId)
      (proves : signed.Proves crypto (control.data socket))
      (said : ∀ output ∈ outputs,
        (∃ previous, control.previousOf socket signed.registration.peerId = some previous ∧
          (control.IsFarewell previous output ∨ output = .closed previous 4000)) ∨
        ∃ enabled, output = .sent socket (.deviceRegistered signed.registration.peerId enabled)) :
      Reaction crypto socket message control ((control.takeOver socket signed.registration.peerId now).putAll outputs)

/-- A message is handled to its end or refused, and nothing but counters differs in the latter case. -/
def Answers (crypto : Crypto) (socket : Socket) (message : ControlMessage) (handler : ControlHandler PUnit)
    (control : ControlState) : Prop :=
  ∃ middle, Tallied control middle ∧
    ((∃ text, handler control = (.error text, middle)) ∨
      ∃ next, handler control = (.ok ⟨⟩, next) ∧ Reaction crypto socket message middle next)

/-! ### Rooms -/

theorem bytesDiffer_zero {known given : Bytes} (length : known.length = given.length) :
    bytesDiffer known given = 0 ↔ known = given := by
  induction known generalizing given with
  | nil =>
      have nothing : given = [] := List.length_eq_zero_iff.mp length.symm
      simp [bytesDiffer, nothing]
  | cons first rest ih =>
      cases given with
      | nil => cases length
      | cons second others =>
          rw [bytesDiffer, UInt8.or_eq_zero_iff, UInt8.xor_eq_zero_iff, ih (by simpa using length), List.cons.injEq]

theorem timingSafeEqual_iff {known given : Bytes} : timingSafeEqual context known given = true ↔ known = given := by
  unfold timingSafeEqual
  split
  · exact decide_eq_true_iff
  · by_cases length : known.length = given.length
    · simp only [length, decide_true, Bool.true_and, decide_eq_true_eq]
      exact bytesDiffer_zero length
    · simp only [length, decide_false, Bool.false_and, Bool.false_eq_true, false_iff]
      rintro rfl
      exact length rfl

theorem sameAuth {known given : Text} (valid : isRoomAuth known = true) (presented : isRoomAuth given = true) :
    timingSafeEqual context (fromHex known) (fromHex given) = true ↔ known = given := by
  rw [timingSafeEqual_iff]
  simp only [isRoomAuth, matchesHex, Bool.and_eq_true, decide_eq_true_eq] at valid presented
  exact ⟨@fromHex_injective known given 32 valid.1 presented.1 valid.2 presented.2, fun same => by rw [same]⟩

/-- The signal of a live member is seen in both runtimes. -/
theorem clientOf_live (live : control.Live socket) : context.clientOf control socket = some (control.data socket) := by
  unfold Context.clientOf
  split
  · rfl
  · rw [if_neg (by simpa [Live] using live)]

/-- The replay of what the members of a room have signalled. -/
def replays (control : ControlState) (socket : Socket) (roomId : RoomId) (member : Socket) : List Output :=
  match control.signalOf member roomId with
  | some payload => if payload = [] then [] else [.sent socket (.signal roomId payload)]
  | none => []

theorem replaySignal_apply (delivers : context.failing socket = false) (live : control.Live other) :
    replaySignal context socket roomId other control = (.ok ⟨⟩, control.putAll (replays control socket roomId other)) := by
  rw [replaySignal, Handler.read_bind, clientOf_live live, Option.bind_some, replays, signalOf]
  cases (control.data other).signals.get? roomId with
  | none =>
      rw [putAll_nil]
      rfl
  | some payload =>
      dsimp only
      split
      · rw [putAll_nil]
        rfl
      · exact send_apply delivers

/-- `joinRoom` from where the room is at hand. -/
def enterRoom (context : Context) (socket : Socket) (roomId : RoomId) (room : RoomState) : ControlHandler PUnit := do
  Handler.forEach room.members (replaySignal context socket roomId)
  Handler.change fun control => control.addMember socket roomId room
  send context socket (.joined roomId (room.members.length + 1))
  refreshRoom context roomId

theorem enterRoom_apply {room : RoomState} (own : context.failing socket = false)
    (members : ∀ member ∈ room.members, control.Live member ∧ context.failing member = false) :
    enterRoom context socket roomId room control = (.ok ⟨⟩, (control.addMember socket roomId room).putAll
      (room.members.flatMap (replays control socket roomId) ++ [.sent socket (.joined roomId (room.members.length + 1))] ++
        (control.addMember socket roomId room).refreshes roomId)) := by
  have replayed := @forEach_puts control Socket room.members (replaySignal context socket roomId)
    (replays control socket roomId) (by
      intro member listed outputs
      have one := @replaySignal_apply context (control.putAll outputs) socket member roomId own (members member listed).1
      rw [putAll_putAll] at one
      exact one) []
  rw [putAll_nil, List.nil_append] at replayed
  have inside : (control.addMember socket roomId room).membersOf roomId = room.members ++ [socket] := by
    simp [ControlState.membersOf, addMember]
  have told := @refreshRoom_apply context ((control.addMember socket roomId room).putAll
      (room.members.flatMap (replays control socket roomId) ++ [.sent socket (.joined roomId (room.members.length + 1))])) roomId
    (by
      intro member listed
      rw [putAll_membersOf, inside] at listed
      rcases List.mem_append.mp listed with old | new
      · exact (members member old).2
      · rw [List.mem_singleton.mp new]
        exact own)
  rw [putAll_putAll] at told
  rw [enterRoom, Handler.bind_apply, replayed]
  dsimp only
  rw [Handler.change_bind, Handler.bind_apply]
  have confirmed := @send_apply context ((control.addMember socket roomId room).putAll
    (room.members.flatMap (replays control socket roomId))) socket (.joined roomId (room.members.length + 1)) own
  rw [putAll_putAll] at confirmed
  have commutes : (control.putAll (room.members.flatMap (replays control socket roomId))).addMember socket roomId room =
      (control.addMember socket roomId room).putAll (room.members.flatMap (replays control socket roomId)) := rfl
  rw [commutes, confirmed]
  exact told

theorem joinRoom_answers {message : ControlMessage} (kept : Wellkept control) (reliable : Reliable context control)
    (live : control.Live socket) (device : (control.data socket).peerId ≠ none)
    (asked : message.type = .join ∧ message.roomId = some roomId ∧ message.roomAuth = some roomAuth) :
    Answers context.crypto socket message (joinRoom context socket roomId roomAuth) control := by
  have refused : ∀ text, joinRoom context socket roomId roomAuth control = (.error text, control) →
      Answers context.crypto socket message (joinRoom context socket roomId roomAuth) control :=
    fun text raised => ⟨control, .refl, .inl ⟨text, raised⟩⟩
  by_cases unfit : ¬ isRoomId roomId ∨ ¬ isRoomAuth roomAuth
  · exact refused _ (by rw [joinRoom, Handler.bind_apply, Handler.refuse_of unfit])
  have valid : isRoomAuth roomAuth = true := by
    by_contra wrong
    exact unfit (.inr wrong)
  by_cases inside : roomId ∈ (control.data socket).rooms
  · refine ⟨control, .refl, .inr ⟨control, ?_, .quiet⟩⟩
    rw [joinRoom, Handler.bind_apply, Handler.refuse_of_not unfit]
    dsimp only
    rw [Handler.read_bind, if_pos inside]
    rfl
  by_cases crowded : maxRoomsPerClient ≤ (control.data socket).rooms.length
  · refine refused "Too many joined rooms" ?_
    rw [joinRoom, Handler.bind_apply, Handler.refuse_of_not unfit]
    dsimp only
    rw [Handler.read_bind, if_neg inside, Handler.bind_apply, Handler.refuse_of crowded]
  have reached : joinRoom context socket roomId roomAuth control = (obtainRoom roomId roomAuth >>= fun room => do
      Handler.refuse (¬ timingSafeEqual context (fromHex room.auth) (fromHex roomAuth)) "Room authorization failed"
      Handler.refuse (maxRoomMembers ≤ room.members.length) "Room is full"
      enterRoom context socket roomId room) control := by
    rw [joinRoom, Handler.bind_apply, Handler.refuse_of_not unfit]
    dsimp only
    rw [Handler.read_bind, if_neg inside, Handler.bind_apply, Handler.refuse_of_not crowded]
    rfl
  have own := reliable socket live
  cases found : control.rooms.get? roomId with
  | none =>
      by_cases full : maxRooms ≤ control.rooms.size
      · refine refused "Control service room limit reached" ?_
        rw [reached, Handler.bind_apply, obtainRoom, Handler.read_bind, found]
        dsimp only
        rw [Handler.bind_apply, Handler.refuse_of full]
      · have entered := @enterRoom_apply context (control.createRoom roomId roomAuth) socket roomId ⟨roomAuth, []⟩ own nofun
        have joins : (control.createRoom roomId roomAuth).addMember socket roomId ⟨roomAuth, []⟩ =
            control.join socket roomId roomAuth := by simp only [join, found]
        rw [joins] at entered
        have enters : joinRoom context socket roomId roomAuth control =
            enterRoom context socket roomId ⟨roomAuth, []⟩ (control.createRoom roomId roomAuth) := by
          rw [reached, Handler.bind_apply, obtainRoom, Handler.read_bind, found]
          dsimp only
          rw [Handler.bind_apply, Handler.refuse_of_not full]
          dsimp only
          rw [Handler.change_bind]
          dsimp only [Handler.pure_apply]
          rw [Handler.bind_apply, Handler.refuse_of_not (by simpa using (sameAuth valid valid).mpr rfl)]
          dsimp only
          rw [Handler.bind_apply, Handler.refuse_of_not (by decide)]
        refine ⟨control, .refl, .inr ⟨_, enters.trans entered, .joined roomId roomAuth _ asked device inside valid ?_ ?_⟩⟩
        · intro room present
          rw [found] at present
          cases present
        · intro output member
          rcases List.mem_append.mp member with early | late
          · rw [List.flatMap_nil, List.nil_append, List.mem_singleton] at early
            exact .inr (.inl ⟨_, early⟩)
          · exact .inr (.inr late)
  | some room =>
      have known := kept.authorized roomId room found
      have fetched : obtainRoom roomId roomAuth control = (.ok room, control) := by
        rw [obtainRoom, Handler.read_bind, found]
        rfl
      by_cases matched : room.auth = roomAuth
      · by_cases full : maxRoomMembers ≤ room.members.length
        · refine refused "Room is full" ?_
          rw [reached, Handler.bind_apply, fetched]
          dsimp only
          rw [Handler.bind_apply, Handler.refuse_of_not (by simpa using (sameAuth known valid).mpr matched)]
          dsimp only
          rw [Handler.bind_apply, Handler.refuse_of full]
        · have members : ∀ member ∈ room.members, control.Live member ∧ context.failing member = false := by
            intro member listed
            rw [← membersOf_some found] at listed
            exact ⟨(kept.member listed).1, member_reached kept reliable listed⟩
          have entered := @enterRoom_apply context control socket roomId room own members
          have joins : control.addMember socket roomId room = control.join socket roomId roomAuth := by simp only [join, found]
          rw [joins] at entered
          have enters : joinRoom context socket roomId roomAuth control = enterRoom context socket roomId room control := by
            rw [reached, Handler.bind_apply, fetched]
            dsimp only
            rw [Handler.bind_apply, Handler.refuse_of_not (by simpa using (sameAuth known valid).mpr matched)]
            dsimp only
            rw [Handler.bind_apply, Handler.refuse_of_not full]
          refine ⟨control, .refl, .inr ⟨_, enters.trans entered, .joined roomId roomAuth _ asked device inside valid ?_ ?_⟩⟩
          · intro other present
            cases found.symm.trans present
            exact matched
          · intro output member
            rcases List.mem_append.mp member with early | late
            · rcases List.mem_append.mp early with replay | confirmation
              · obtain ⟨known, listed, sent⟩ := List.mem_flatMap.mp replay
                unfold replays at sent
                split at sent
                · rename_i payload kept
                  split at sent
                  · cases sent
                  · rw [List.mem_singleton] at sent
                    rw [← membersOf_some found] at listed
                    exact .inl ⟨payload, sent, known, listed, kept⟩
                · cases sent
              · rw [List.mem_singleton] at confirmation
                exact .inr (.inl ⟨_, confirmation⟩)
            · exact .inr (.inr late)
      · refine refused "Room authorization failed" ?_
        rw [reached, Handler.bind_apply, fetched]
        dsimp only
        rw [Handler.bind_apply, Handler.refuse_of (by simpa using fun same => matched ((sameAuth known valid).mp same))]

theorem leaveRoom_answers {message : ControlMessage} (kept : Wellkept control) (reliable : Reliable context control)
    (asked : message.type = .leave ∧ message.roomId = some roomId) :
    Answers context.crypto socket message (leaveRoom context socket roomId) control :=
  ⟨control, .refl, .inr ⟨_, leaveRoom_apply fun _ listed _ => member_reached kept reliable listed, .left roomId asked⟩⟩

theorem signalRoom_answers {message : ControlMessage} (kept : Wellkept control) (reliable : Reliable context control)
    (asked : message.type = .signal ∧ message.roomId = some roomId ∧ message.payload = some payload) :
    Answers context.crypto socket message (signalRoom context socket roomId payload) control := by
  have refused : ∀ text, signalRoom context socket roomId payload control = (.error text, control) →
      Answers context.crypto socket message (signalRoom context socket roomId payload) control :=
    fun text raised => ⟨control, .refl, .inl ⟨text, raised⟩⟩
  by_cases outside : roomId ∉ (control.data socket).rooms
  · exact refused _ (by rw [signalRoom, Handler.read_bind, Handler.bind_apply, Handler.refuse_of outside])
  by_cases unfit : payload = [] ∨ maxSignalLength < payload.length
  · refine refused "Invalid signal payload" ?_
    rw [signalRoom, Handler.read_bind, Handler.bind_apply, Handler.refuse_of_not outside]
    dsimp only
    rw [Handler.bind_apply, Handler.refuse_of unfit]
  by_cases overflow : maxRetainedBytes < control.retainedBytes - control.signalLength socket roomId + payload.length
  · refine refused "Control service storage limit reached" ?_
    rw [signalRoom, Handler.read_bind, Handler.bind_apply, Handler.refuse_of_not outside]
    dsimp only
    rw [Handler.bind_apply, Handler.refuse_of_not unfit]
    dsimp only
    rw [Handler.bind_apply, Handler.refuse_of overflow]
  have told := @broadcastRoom_apply context (control.retain socket roomId payload) roomId (.signal roomId payload) (some socket)
    fun _ listed _ => member_reached kept reliable listed
  have reached : signalRoom context socket roomId payload control =
      broadcastRoom context roomId (.signal roomId payload) (some socket) (control.retain socket roomId payload) := by
    rw [signalRoom, Handler.read_bind, Handler.bind_apply, Handler.refuse_of_not outside]
    dsimp only
    rw [Handler.bind_apply, Handler.refuse_of_not unfit]
    dsimp only
    rw [Handler.bind_apply, Handler.refuse_of_not overflow]
    rfl
  exact ⟨control, .refl, .inr ⟨_, reached.trans told, .signalled roomId payload asked (not_not.mp outside) (by omega)⟩⟩

theorem fetchPeers_answers {message : ControlMessage} (kept : Wellkept control) (reliable : Reliable context control)
    (live : control.Live socket) : Answers context.crypto socket message (fetchPeers context socket roomId) control := by
  by_cases outside : roomId ∉ (control.data socket).rooms
  · exact ⟨control, .refl, .inl ⟨_, by rw [fetchPeers, Handler.read_bind, Handler.bind_apply, Handler.refuse_of outside]⟩⟩
  have inside := not_not.mp outside
  cases found : control.rooms.get? roomId with
  | none =>
      have member := (kept.joined socket roomId).mpr inside
      rw [membersOf_none found] at member
      cases member
  | some room =>
      refine ⟨control, .refl, .inr ⟨_, ?_, .fetched roomId (room.members.filterMap fun member =>
        ((context.clientOf control member).bind fun data => data.signals.get? roomId).filter fun payload => payload ≠ [])
        inside ?_⟩⟩
      · rw [fetchPeers, Handler.read_bind, Handler.bind_apply, Handler.refuse_of_not outside]
        dsimp only
        rw [found]
        exact send_apply (reliable socket live)
      · intro payload listed
        obtain ⟨member, present, seen⟩ := List.mem_filterMap.mp listed
        rw [← membersOf_some found] at present
        rw [clientOf_live (kept.member present).1, Option.bind_some] at seen
        exact ⟨member, present, (Option.filter_eq_some_iff.mp seen).1⟩

/-! ### Counters -/

/-- A handler that only counts, and may refuse. -/
def Counts (handler : ControlHandler α) (control : ControlState) : Prop := Tallied control (handler control).2

theorem refuse_state {condition : Prop} [Decidable condition] {text : String} :
    ((Handler.refuse condition text : ControlHandler PUnit) control).2 = control := by
  by_cases holds : condition
  · rw [Handler.refuse_of holds]
  · rw [Handler.refuse_of_not holds]

theorem checkRateLimit_counts {type : MessageType} : Counts (checkRateLimit context socket type) control := by
  have first : Tallied control (control.countMessage socket context.now type) := ⟨aside_countMessage, rfl⟩
  unfold Counts
  by_cases exceeded : ((control.countMessage socket context.now type).data socket).toRateLimit.exceeded
  · rw [checkRateLimit, Handler.change_bind, Handler.read_bind, Handler.bind_apply, Handler.refuse_of exceeded]
    exact first
  · rw [checkRateLimit, Handler.change_bind, Handler.read_bind, Handler.bind_apply, Handler.refuse_of_not exceeded]
    dsimp only
    rw [Handler.change_bind, refuse_state]
    exact first.trans ⟨aside_countAddress, rfl⟩

theorem checkRelayRateLimit_counts : Counts (checkRelayRateLimit context socket) control := by
  unfold Counts
  rw [checkRelayRateLimit, Handler.change_bind, Handler.read_bind, refuse_state]
  exact ⟨aside_countRelayFrame, rfl⟩

/-- A handler that counts before one that answers. -/
theorem Counts.answers {message : ControlMessage} {counting next : ControlHandler PUnit} (counts : Counts counting control)
    (answers : ∀ middle, Tallied control middle → Answers context.crypto socket message next middle) :
    Answers context.crypto socket message (counting >>= fun _ => next) control := by
  rcases ran : counting control with ⟨outcome, middle⟩
  have tallied : Tallied control middle := by
    rw [Counts, ran] at counts
    exact counts
  cases outcome with
  | error text => exact ⟨middle, tallied, .inl ⟨text, by rw [Handler.bind_apply, ran]⟩⟩
  | ok value =>
      obtain ⟨later, further, result⟩ := answers middle tallied
      refine ⟨later, tallied.trans further, ?_⟩
      rw [Handler.bind_apply, ran]
      exact result

/-! ### Relay -/

theorem refillDevice_counts {peerId : PeerId} : Counts (refillDevice context peerId) control := by
  unfold Counts
  cases found : control.deviceLimits.get? peerId with
  | none =>
      rw [refillDevice, Handler.read_bind, found]
      exact .refl
  | some limit =>
      rw [refillDevice, Handler.read_bind, found]
      exact ⟨aside_setDeviceLimit, rfl⟩

/-- A handler that counts before another one that does. -/
theorem Counts.bind {first : ControlHandler α} {next : α → ControlHandler β} (leading : Counts first control)
    (following : ∀ value middle, Counts (next value) middle) : Counts (first >>= next) control := by
  unfold Counts at leading ⊢
  rw [Handler.bind_apply]
  rcases ran : first control with ⟨outcome, middle⟩
  rw [ran] at leading
  cases outcome with
  | error text => exact leading
  | ok value => exact leading.trans (following value middle)

theorem reserve_counts {peerId recipientId : PeerId} {bytes : Nat} :
    Counts (reserveRelayBandwidth context peerId recipientId bytes) control := by
  refine refillDevice_counts.bind fun filled _ => refillDevice_counts.bind fun recipient middle => ?_
  have set : ∀ device limit state, Tallied state (ControlState.setDeviceLimit state device limit) :=
    fun _ _ _ => ⟨aside_setDeviceLimit, rfl⟩
  rw [Counts, Handler.change_bind]
  split
  · exact set ..
  · split
    · exact set ..
    · exact (set ..).trans ((set ..).trans (set ..))

theorem peersShareRoom_iff {recipientId : PeerId} (kept : Wellkept control)
    (share : peersShareRoom context control socket recipientId = true) :
    ∃ roomId ∈ (control.data socket).rooms, ∃ member ∈ control.membersOf roomId,
      (control.data member).peerId = some recipientId := by
  unfold peersShareRoom at share
  split at share
  · cases share
  · simp only [Bool.and_eq_true, List.any_eq_true, decide_eq_true_eq] at share
    obtain ⟨-, roomId, inside, member, listed, seen⟩ := share
    rw [clientOf_live (kept.member listed).1, Option.bind_some] at seen
    exact ⟨roomId, inside, member, listed, seen⟩

/-- `relayDatagram` with the decoded frame. -/
def relayFrame (context : Context) (control : ControlState) (socket : Socket) (peerId recipientId : PeerId) (payload : Text)
    (frame : Bytes) : ControlHandler PUnit := do
  Handler.refuse (frame = [] ∨ maxRelayFrameLength < frame.length ∨ Base64.encode frame ≠ payload) "Invalid relay frame"
  if ¬ peersShareRoom context control socket recipientId then
    send context socket (.relayDropped recipientId .unauthorized)
  else
    match control.socketsByPeerId.get? recipientId with
    | none => send context socket (.relayDropped recipientId .offline)
    | some recipient => do
        if ← reserveRelayBandwidth context peerId recipientId frame.length then
          send context recipient (.relay peerId payload)
        else send context socket (.relayDropped recipientId .quota)

theorem relayDatagram_answers {message : ControlMessage} {recipientId : PeerId} (kept : Wellkept control)
    (reliable : Reliable context control) (live : control.Live socket) (asked : message.relayed? = some (recipientId, payload)) :
    Answers context.crypto socket message (relayDatagram context socket recipientId payload) control := by
  have refused : ∀ text, relayDatagram context socket recipientId payload control = (.error text, control) →
      Answers context.crypto socket message (relayDatagram context socket recipientId payload) control :=
    fun text raised => ⟨control, .refl, .inl ⟨text, raised⟩⟩
  have own := reliable socket live
  by_cases disabled : ¬ context.relayEnabled
  · exact refused _ (by rw [relayDatagram, Handler.bind_apply, Handler.refuse_of disabled])
  cases device : (control.data socket).peerId with
  | none =>
      refine refused "Invalid relay frame" ?_
      rw [relayDatagram, Handler.bind_apply, Handler.refuse_of_not disabled]
      dsimp only
      rw [Handler.read_bind, device]
      rfl
  | some peerId =>
      by_cases unnamed : ¬ isPeerId recipientId
      · refine refused "Invalid relay frame" ?_
        rw [relayDatagram, Handler.bind_apply, Handler.refuse_of_not disabled]
        dsimp only
        rw [Handler.read_bind, device]
        dsimp only
        rw [Handler.bind_apply, Handler.refuse_of unnamed]
      cases decoded : decodeFrame context payload with
      | none =>
          refine refused "Invalid relay frame" ?_
          rw [relayDatagram, Handler.bind_apply, Handler.refuse_of_not disabled]
          dsimp only
          rw [Handler.read_bind, device]
          dsimp only
          rw [Handler.bind_apply, Handler.refuse_of_not unnamed]
          dsimp only
          rw [decoded]
          rfl
      | some frame =>
          have reached : relayDatagram context socket recipientId payload control =
              relayFrame context control socket peerId recipientId payload frame control := by
            rw [relayDatagram, Handler.bind_apply, Handler.refuse_of_not disabled]
            dsimp only
            rw [Handler.read_bind, device]
            dsimp only
            rw [Handler.bind_apply, Handler.refuse_of_not unnamed]
            dsimp only
            rw [decoded]
            rfl
          by_cases unfit : frame = [] ∨ maxRelayFrameLength < frame.length ∨ Base64.encode frame ≠ payload
          · exact refused "Invalid relay frame" (by rw [reached, relayFrame, Handler.bind_apply, Handler.refuse_of unfit])
          have dropped : ∀ reason, ∀ middle, Tallied control middle →
              send context socket (.relayDropped recipientId reason) middle =
                (.ok ⟨⟩, middle.putAll [.sent socket (.relayDropped recipientId reason)]) := fun _ _ _ => send_apply own
          by_cases apart : ¬ peersShareRoom context control socket recipientId
          · refine ⟨control, .refl, .inr ⟨_, ?_, .told (.relayDropped recipientId .unauthorized) rfl (by rintro _ _ ⟨⟩)⟩⟩
            rw [reached, relayFrame, Handler.bind_apply, Handler.refuse_of_not unfit]
            dsimp only
            rw [if_pos apart]
            exact dropped _ _ .refl
          · have shared := peersShareRoom_iff kept (by simpa using apart)
            cases found : control.socketsByPeerId.get? recipientId with
            | none =>
                refine ⟨control, .refl, .inr ⟨_, ?_, .told (.relayDropped recipientId .offline) rfl (by rintro _ _ ⟨⟩)⟩⟩
                rw [reached, relayFrame, Handler.bind_apply, Handler.refuse_of_not unfit]
                dsimp only
                rw [if_neg apart, found]
                exact dropped _ _ .refl
            | some recipient =>
                have tallied := @reserve_counts context control peerId recipientId frame.length
                rcases ran : reserveRelayBandwidth context peerId recipientId frame.length control with ⟨outcome, middle⟩
                rw [Counts, ran] at tallied
                have reserved : relayDatagram context socket recipientId payload control =
                    (reserveRelayBandwidth context peerId recipientId frame.length >>= fun granted =>
                      if granted then send context recipient (.relay peerId payload)
                      else send context socket (.relayDropped recipientId .quota)) control := by
                  rw [reached, relayFrame, Handler.bind_apply, Handler.refuse_of_not unfit]
                  dsimp only
                  rw [if_neg apart, found]
                rw [Handler.bind_apply, ran] at reserved
                cases outcome with
                | error text => exact ⟨middle, tallied, .inl ⟨text, reserved⟩⟩
                | ok value =>
                    cases value with
                    | false =>
                        refine ⟨middle, tallied, .inr ⟨_, reserved.trans (dropped .quota middle tallied), .told _ rfl (by rintro _ _ ⟨⟩)⟩⟩
                    | true =>
                        have alive := ((kept.registered recipientId recipient).mp found).1
                        have sent := @send_apply context middle recipient (.relay peerId payload) (reliable recipient alive)
                        refine ⟨middle, tallied, .inr ⟨_, reserved.trans sent, .relayed recipient peerId recipientId payload asked ?_ ?_ ?_⟩⟩
                        · rw [tallied.peerId, device]
                        · obtain ⟨roomId, inside, member, listed, named⟩ := shared
                          exact ⟨roomId, by rw [tallied.joined]; exact inside, member, by rw [tallied.membersOf]; exact listed,
                            by rw [tallied.peerId]; exact named⟩
                        · rw [tallied.socketsByPeerId]
                          exact found

/-! ### Registration -/

theorem readRegistration_state {message : ControlMessage} : (readRegistration context socket message control).2 = control := by
  rw [readRegistration, Handler.read_bind]
  cases message.registration? with
  | none => rfl
  | some signed =>
      change ((Handler.refuse _ _ >>= _ : ControlHandler SignedRegistration) control).2 = control
      rw [Handler.bind_apply]
      by_cases unfit : ¬ signed.fits (control.data socket) context.now
      · rw [Handler.refuse_of unfit]
      · rw [Handler.refuse_of_not unfit]
        dsimp only
        rw [Handler.bind_apply]
        by_cases changed : ((control.data socket).peerId.any fun registered =>
            decide (registered ≠ signed.registration.peerId)) = true
        · rw [Handler.refuse_of changed]
        · rw [Handler.refuse_of_not changed]
          rfl

/-- What is read of a registration fits the connection, and a socket that is
registered already registers the same device. -/
theorem readRegistration_ok {message : ControlMessage} {signed : SignedRegistration} {middle : ControlState}
    (read : readRegistration context socket message control = (.ok signed, middle)) :
    message.registration? = some signed ∧ signed.fits (control.data socket) context.now ∧
      ∀ held ∈ (control.data socket).peerId, held = signed.registration.peerId := by
  rw [readRegistration, Handler.read_bind] at read
  cases claimed : message.registration? with
  | none =>
      rw [claimed] at read
      cases read
  | some found =>
      rw [claimed] at read
      change (Handler.refuse _ _ >>= _ : ControlHandler SignedRegistration) control = _ at read
      rw [Handler.bind_apply] at read
      by_cases unfit : ¬ found.fits (control.data socket) context.now
      · rw [Handler.refuse_of unfit] at read
        cases read
      · rw [Handler.refuse_of_not unfit] at read
        dsimp only at read
        rw [Handler.bind_apply] at read
        by_cases changed : ((control.data socket).peerId.any fun registered =>
            decide (registered ≠ found.registration.peerId)) = true
        · rw [Handler.refuse_of changed] at read
          cases read
        · rw [Handler.refuse_of_not changed] at read
          cases read
          refine ⟨rfl, not_not.mp unfit, fun held member => ?_⟩
          rw [Option.mem_def] at member
          rw [member] at changed
          simpa using changed

theorem checkDigest_ok {signed : SignedRegistration} {middle : ControlState}
    (checked : checkDigest context signed control = (.ok ⟨⟩, middle)) :
    toHex (context.crypto.sha256 (fromHex signed.registration.signingPublicKey)) = signed.registration.peerId := by
  by_contra differs
  rw [checkDigest, Handler.refuse_of differs] at checked
  cases checked

theorem checkSignature_ok {signed : SignedRegistration} {middle : ControlState}
    (checked : checkSignature context signed control = (.ok ⟨⟩, middle)) :
    context.crypto.verify (fromHex signed.registration.signingPublicKey) (fromHex signed.signature)
      (context.crypto.canonical signed.registration) = .ok true := by
  unfold checkSignature at checked
  cases result : context.crypto.verify (fromHex signed.registration.signingPublicKey) (fromHex signed.signature)
      (context.crypto.canonical signed.registration) with
  | error text =>
      rw [result] at checked
      cases checked
  | ok verified =>
      rw [result] at checked
      cases verified with
      | true => rfl
      | false => cases checked

theorem checkDigest_state {signed : SignedRegistration} : (checkDigest context signed control).2 = control := refuse_state

theorem checkSignature_state {signed : SignedRegistration} : (checkSignature context signed control).2 = control := by
  unfold checkSignature
  cases context.crypto.verify (fromHex signed.registration.signingPublicKey) (fromHex signed.signature)
      (context.crypto.canonical signed.registration) with
  | error text => rfl
  | ok verified => exact refuse_state

theorem putAll_ensureDeviceLimit {outputs : List Output} {peerId : PeerId} {now : Int} :
    (control.putAll outputs).ensureDeviceLimit peerId now = (control.ensureDeviceLimit peerId now).putAll outputs := by
  have same : (control.putAll outputs).deviceLimits = control.deviceLimits := rfl
  unfold ensureDeviceLimit
  rw [same]
  cases control.deviceLimits.get? peerId <;> rfl

theorem confirmRegistration_apply {outputs : List Output} {peerId : PeerId} (delivers : context.failing socket = false) :
    confirmRegistration context socket peerId (control.putAll outputs) = (.ok ⟨⟩,
      (control.ensureDeviceLimit peerId context.now).putAll
        (outputs ++ [.sent socket (.deviceRegistered peerId context.relayEnabled)])) := by
  rw [confirmRegistration, Handler.change_bind, putAll_ensureDeviceLimit, send_apply delivers, putAll_putAll]

/-- What is sent while a registration takes the device over. -/
def takeOverOutputs (context : Context) (control : ControlState) (socket : Socket) (peerId : PeerId) : List Output :=
  (match control.previousOf socket peerId with
    | none => []
    | some previous => partings (control.setRegistered socket peerId) previous ++ [.closed previous 4000]) ++
    [.sent socket (.deviceRegistered peerId context.relayEnabled)]

theorem isFarewell_setRegistered {peerId : PeerId} {output : Output}
    (farewell : (control.setRegistered socket peerId).IsFarewell other output) : control.IsFarewell other output := by
  obtain ⟨roomId, inside, rest⟩ := farewell
  rw [sameRooms_setRegistered.joined] at inside
  exact ⟨roomId, inside, rest⟩

theorem takeOver_reaction {message : ControlMessage} {signed : SignedRegistration}
    (asked : message.type = .deviceRegister ∧ message.registration? = some signed)
    (own : ∀ held ∈ (control.data socket).peerId, held = signed.registration.peerId)
    (proves : signed.Proves context.crypto (control.data socket)) :
    Reaction context.crypto socket message control ((control.takeOver socket signed.registration.peerId context.now).putAll
      (takeOverOutputs context control socket signed.registration.peerId)) := by
  refine .registered signed context.now _ asked own proves ?_
  intro output member
  rcases List.mem_append.mp member with early | late
  · split at early
    · cases early
    · rename_i previous taken
      refine .inl ⟨previous, taken, ?_⟩
      rcases List.mem_append.mp early with parting | closing
      · exact .inl (isFarewell_setRegistered (mem_partings parting))
      · exact .inr (List.mem_singleton.mp closing)
  · exact .inr ⟨_, List.mem_singleton.mp late⟩

theorem previousOf_some {peerId : PeerId} {previous : Socket} (kept : Wellkept control)
    (taken : control.previousOf socket peerId = some previous) :
    control.Live previous ∧ previous ≠ socket ∧ (control.data previous).peerId = some peerId := by
  obtain ⟨holder, another⟩ := Option.filter_eq_some_iff.mp taken
  obtain ⟨alive, named⟩ := (kept.registered peerId previous).mp holder
  exact ⟨alive, of_decide_eq_true another, named⟩

theorem setRegistered_membersOf {peerId : PeerId} :
    (control.setRegistered socket peerId).membersOf roomId = control.membersOf roomId := rfl

theorem handleRoomMessage_answers {message : ControlMessage} (kept : Wellkept control) (reliable : Reliable context control)
    (live : control.Live socket) (device : (control.data socket).peerId ≠ none) :
    Answers context.crypto socket message (handleRoomMessage context socket message) control := by
  unfold handleRoomMessage
  split
  · rename_i type roomId roomAuth
    exact joinRoom_answers kept reliable live device ⟨type, roomId, roomAuth⟩
  · rename_i type roomId
    exact leaveRoom_answers kept reliable ⟨type, roomId⟩
  · rename_i type roomId payload
    exact signalRoom_answers kept reliable ⟨type, roomId, payload⟩
  · exact fetchPeers_answers kept reliable live
  · exact ⟨control, .refl, .inl ⟨_, rfl⟩⟩

/-- A client keeps its address and its challenge, and no client is forgotten. -/
structure Kin (before after : ControlState) : Prop where
  greeted : ∀ socket, before.sockets.contains socket = true → greeting (after.data socket) = greeting (before.data socket)
  known : ∀ socket, before.sockets.contains socket = true → after.sockets.contains socket = true

theorem Kin.trans {before middle after : ControlState} (first : Kin before middle) (second : Kin middle after) :
    Kin before after where
  greeted := fun socket held => (second.greeted socket (first.known socket held)).trans (first.greeted socket held)
  known := fun socket held => second.known socket (first.known socket held)

theorem Kin.ip {before after : ControlState} (kin : Kin before after) (held : before.sockets.contains socket = true) :
    (after.data socket).ip = (before.data socket).ip :=
  greeting_ip (kin.greeted socket held)

theorem kin_of {before after : ControlState} (same : SameClients before after) : Kin before after :=
  ⟨fun socket _ => same.greeted socket, same.known⟩

theorem kin_retire : Kin control (control.retire socket) := by
  refine ⟨fun other _ => ?_, fun other held => ?_⟩
  · rw [retire_data]
    split
    · rename_i itself
      rw [itself]
      rfl
    · rfl
  · change ((control.markClosed socket).forgetDevice socket).sockets.contains other = true
    rw [forgetDevice_tables.1]
    exact modify_known held

theorem kin_withdraw : Kin control (control.withdraw socket) := by
  rw [withdraw_eq]
  exact kin_retire.trans (kin_of sameClients_leaveAll)

theorem kin_setRegistered {peerId : PeerId} : Kin control (control.setRegistered socket peerId) := by
  refine ⟨fun other _ => ?_, fun other held =>
    @modify_known control socket other (fun data => data.registered peerId) held⟩
  rw [setRegistered_data]
  split
  · rename_i itself
    rw [itself]
    rfl
  · rfl

theorem kin_takeOver {peerId : PeerId} {now : Int} : Kin control (control.takeOver socket peerId now) := by
  unfold takeOver
  split
  · exact kin_setRegistered.trans (kin_of aside_ensureDeviceLimit.toSameClients)
  · exact (kin_setRegistered.trans kin_withdraw).trans (kin_of aside_ensureDeviceLimit.toSameClients)

theorem Reaction.kin {crypto : Crypto} {message : ControlMessage} {after : ControlState} (reaction : Reaction crypto socket message control after) :
    Kin control after := by
  have told : ∀ (state : ControlState) (outputs : List Output), Kin state (state.putAll outputs) :=
    fun _ _ => kin_of aside_putAll.toSameClients
  cases reaction with
  | quiet => exact kin_of .refl
  | rejected outputs said => exact kin_withdraw.trans (told ..)
  | told frame roomless direct => exact told ..
  | fetched roomId payloads inside seen => exact told ..
  | joined roomId roomAuth outputs asked device outside valid matching said =>
      exact (kin_of sameClients_join).trans (told ..)
  | left roomId asked => exact (kin_of sameClients_leave).trans (told ..)
  | signalled roomId payload asked inside fits => exact (kin_of sameClients_retain).trans (told ..)
  | relayed recipient peerId recipientId payload asked own shared found => exact told ..
  | registered signed now outputs asked own proves said => exact kin_takeOver.trans (told ..)

/-- A step of either runtime: counters, then at most one client is opened or reacts
to a message of its own.  The Worker also speaks to clients that are gone. -/
inductive Move (crypto : Crypto) (before after : ControlState) : Option (Socket × ControlMessage) → Prop where
  | idle (tallied : Tallied before after) : Move crypto before after none
  | opened (socket : Socket) (data : ClientData) (new : before.sockets.get? socket = none) (live : data.closed = false)
      (rooms : data.rooms = []) (signals : data.signals = ∅) (device : data.peerId = none)
      (challenged : after = (before.addClient socket data).putAll [.sent socket (challengeOf data)]) : Move crypto before after none
  | reacted (socket : Socket) (message : ControlMessage) (middle : ControlState) (tallied : Tallied before middle)
      (live : before.Live socket) (reaction : Reaction crypto socket message middle after) :
      Move crypto before after (some (socket, message))
  | dismissed (socket : Socket) (outputs : List Output) (gone : ¬ before.Live socket)
      (said : ∀ output ∈ outputs, (∃ text, output = .sent socket (.error text)) ∨ ∃ code, output = .closed socket code)
      (spoken : after = before.putAll outputs) : Move crypto before after none

theorem Tallied.kin {after : ControlState} (tallied : Tallied control after) : Kin control after := kin_of tallied.toSameClients

theorem Tallied.wellkept {after : ControlState} (tallied : Tallied control after) (kept : Wellkept control) : Wellkept after :=
  kept.aside tallied.toAside

theorem Reaction.wellkept {crypto : Crypto} {message : ControlMessage} {after : ControlState} (kept : Wellkept control)
    (live : control.Live socket) (reaction : Reaction crypto socket message control after) : Wellkept after := by
  cases reaction with
  | quiet => exact kept
  | rejected outputs said => exact (kept.withdraw live).aside aside_putAll
  | told frame roomless direct => exact kept.aside aside_putAll
  | fetched roomId payloads inside seen => exact kept.aside aside_putAll
  | joined roomId roomAuth outputs asked device outside valid matching said =>
      exact (kept.join live device outside valid).aside aside_putAll
  | left roomId asked => exact kept.leave.aside aside_putAll
  | signalled roomId payload asked inside fits => exact (kept.retain inside fits).aside aside_putAll
  | relayed recipient peerId recipientId payload asked own shared found => exact kept.aside aside_putAll
  | registered signed now outputs asked own proves said => exact (kept.takeOver live own).aside aside_putAll

theorem Move.wellkept {crypto : Crypto} {after : ControlState} {label : Option (Socket × ControlMessage)} (kept : Wellkept control)
    (move : Move crypto control after label) : Wellkept after := by
  cases move with
  | idle tallied => exact tallied.wellkept kept
  | opened socket data new live rooms signals device challenged =>
      rw [challenged]
      exact (kept.addClient new live rooms signals device).aside aside_putAll
  | reacted socket message middle tallied live reaction =>
      refine reaction.wellkept (tallied.wellkept kept) ?_
      rwa [Live, tallied.closed]
  | dismissed socket outputs gone said spoken =>
      rw [spoken]
      exact kept.aside aside_putAll

theorem kin_addClient {data : ClientData} (new : control.sockets.get? socket = none) :
    Kin control (control.addClient socket data) := by
  refine ⟨fun other held => ?_, fun other held => ?_⟩
  · have another : other ≠ socket := by
      rintro rfl
      simp [Dict.contains, new] at held
    rw [addClient_data, if_neg another]
  · simp only [addClient, Dict.contains, Dict.get?_set]
    split
    · rfl
    · exact held

theorem Move.kin {crypto : Crypto} {after : ControlState} {label : Option (Socket × ControlMessage)} (move : Move crypto control after label) :
    Kin control after := by
  cases move with
  | idle tallied => exact tallied.kin
  | opened socket data new live rooms signals device challenged =>
      rw [challenged]
      exact (kin_addClient new).trans (kin_of aside_putAll.toSameClients)
  | reacted socket message middle tallied live reaction => exact tallied.kin.trans reaction.kin
  | dismissed socket outputs gone said spoken =>
      rw [spoken]
      exact kin_of aside_putAll.toSameClients

end

end MeshTalk.Control
