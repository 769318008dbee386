import MeshTalk.Control.Worker

namespace MeshTalk.Control

open MeshTalk.Library

/-! # What the handlers do to the tables

Each update is stated without the frames that go with it, and each of the tables
is described after it.
-/

namespace ControlState

def putAll (control : ControlState) (outputs : List Output) : ControlState := { control with wire := control.wire ++ outputs }

/-- `leaveRoom`. -/
def leave (control : ControlState) (socket : Socket) (roomId : RoomId) : ControlState :=
  match control.rooms.get? roomId with
  | none => control
  | some room =>
      if (room.members.filter fun member => member ≠ socket) = [] then
        (control.dropMember socket roomId room).dropRoom roomId
      else control.dropMember socket roomId room

/-- `joinRoom` past its checks. -/
def join (control : ControlState) (socket : Socket) (roomId : RoomId) (roomAuth : Text) : ControlState :=
  match control.rooms.get? roomId with
  | none => (control.createRoom roomId roomAuth).addMember socket roomId ⟨roomAuth, []⟩
  | some room => control.addMember socket roomId room

/-- `closeClient` and `handleClose` before the rooms are left. -/
def retire (control : ControlState) (socket : Socket) : ControlState :=
  ((control.markClosed socket).forgetDevice socket).releaseConnection socket

/-- `closeClient` and `handleClose`. -/
def withdraw (control : ControlState) (socket : Socket) : ControlState :=
  (control.data socket).rooms.foldl (fun control roomId => control.leave socket roomId) (control.retire socket)

/-- The socket that a registration takes the device from. -/
def previousOf (control : ControlState) (socket : Socket) (peerId : PeerId) : Option Socket :=
  (control.socketsByPeerId.get? peerId).filter fun previous => previous ≠ socket

/-- `registerDevice` past its checks. -/
def takeOver (control : ControlState) (socket : Socket) (peerId : PeerId) (now : Int) : ControlState :=
  match control.previousOf socket peerId with
  | none => (control.setRegistered socket peerId).ensureDeviceLimit peerId now
  | some previous => ((control.setRegistered socket peerId).withdraw previous).ensureDeviceLimit peerId now

/-- The length of all retained signals of a client. -/
def signalsLength (data : ClientData) : Nat := data.signals.total List.length

/-- The length of all retained signals. -/
def retained (control : ControlState) : Nat := control.sockets.total signalsLength

/-- A live connection of the address counts once. -/
def countsFor (ip : Address) (data : ClientData) : Nat := if data.closed = false ∧ data.ip = ip then 1 else 0

def liveFor (control : ControlState) (ip : Address) : Nat := control.sockets.total (countsFor ip)

variable {control : ControlState} {socket other : Socket} {roomId otherRoom : RoomId} {room : RoomState}
  {roomAuth payload : Text} {peerId : PeerId} {now : Int} {update : ClientData → ClientData} {weight : ClientData → Nat}

/-! ## Clients -/

@[simp] theorem dropRoom_data : (control.dropRoom roomId).data other = control.data other := rfl

@[simp] theorem createRoom_data : (control.createRoom roomId roomAuth).data other = control.data other := rfl

@[simp] theorem dropMember_data : (control.dropMember socket roomId room).data other =
    if other = socket then (control.data socket).without roomId else control.data other :=
  @data_modify control socket other fun data => data.without roomId

@[simp] theorem addMember_data : (control.addMember socket roomId room).data other =
    if other = socket then (control.data socket).within roomId else control.data other :=
  @data_modify control socket other fun data => data.within roomId

@[simp] theorem retain_data : (control.retain socket roomId payload).data other =
    if other = socket then (control.data socket).signalling roomId payload else control.data other :=
  @data_modify control socket other fun data => data.signalling roomId payload

@[simp] theorem markClosed_data : (control.markClosed socket).data other =
    if other = socket then (control.data socket).shut else control.data other := data_modify

@[simp] theorem forgetDevice_data : (control.forgetDevice socket).data other = control.data other := by
  unfold forgetDevice
  split
  · rfl
  · split <;> rfl

@[simp] theorem releaseConnection_data : (control.releaseConnection socket).data other = control.data other := rfl

@[simp] theorem retire_data : (control.retire socket).data other =
    if other = socket then (control.data socket).shut else control.data other := by
  simp [retire]

@[simp] theorem setRegistered_data : (control.setRegistered socket peerId).data other =
    if other = socket then (control.data socket).registered peerId else control.data other :=
  @data_modify control socket other fun data => data.registered peerId

@[simp] theorem ensureDeviceLimit_data : (control.ensureDeviceLimit peerId now).data other = control.data other := by
  unfold ensureDeviceLimit
  split <;> rfl

@[simp] theorem putAll_data {outputs : List Output} : (control.putAll outputs).data other = control.data other := rfl

theorem join_data : (control.join socket roomId roomAuth).data other =
    if other = socket then (control.data socket).within roomId else control.data other := by
  unfold join
  split <;> simp

theorem leave_none (absent : control.rooms.get? roomId = none) : control.leave socket roomId = control := by
  simp [leave, absent]

theorem leave_data (found : control.rooms.get? roomId = some room) : (control.leave socket roomId).data other =
    if other = socket then (control.data socket).without roomId else control.data other := by
  simp only [leave, found]
  split <;> simp

/-- A weight that a socket which was never opened does not have changes by what the client's changes. -/
theorem total_modify (nothing : weight unopened = 0) : (control.modify socket update).sockets.total weight +
    weight (control.data socket) = control.sockets.total weight + weight (update (control.data socket)) := by
  have each := @Dict.total_set _ _ _ socket (update (control.data socket)) control.sockets weight
  have at_socket : control.sockets.weightAt weight socket = weight (control.data socket) := by
    unfold Dict.weightAt data
    cases control.sockets.get? socket with
    | none => exact nothing.symm
    | some data => rfl
  rw [at_socket] at each
  exact each

/-! ## Rooms -/

theorem membersOf_congr {before after : ControlState} (same : after.rooms.get? roomId = before.rooms.get? roomId) :
    after.membersOf roomId = before.membersOf roomId := by
  simp [membersOf, same]

theorem membersOf_some (found : control.rooms.get? roomId = some room) : control.membersOf roomId = room.members := by
  simp [membersOf, found]

theorem membersOf_none (absent : control.rooms.get? roomId = none) : control.membersOf roomId = [] := by
  simp [membersOf, absent]

theorem leave_rooms (found : control.rooms.get? roomId = some room) : (control.leave socket roomId).rooms.get? otherRoom =
    if otherRoom = roomId then
      if (room.members.filter fun member => member ≠ socket) = [] then none
      else some { room with members := room.members.filter fun member => member ≠ socket }
    else control.rooms.get? otherRoom := by
  simp only [leave, found]
  split
  · simp only [dropRoom, dropMember, Dict.get?_erase, Dict.get?_set]
    split <;> rfl
  · simp only [dropMember, Dict.get?_set]

theorem membersOf_leave : (control.leave socket roomId).membersOf otherRoom =
    if otherRoom = roomId then (control.membersOf roomId).filter fun member => member ≠ socket
    else control.membersOf otherRoom := by
  cases found : control.rooms.get? roomId with
  | none =>
      rw [leave_none found]
      split
      · rename_i same
        rw [same, membersOf_none found]
        rfl
      · rfl
  | some room =>
      rw [membersOf_some found]
      by_cases same : otherRoom = roomId
      · rw [if_pos same, membersOf, leave_rooms found, if_pos same]
        by_cases last : (room.members.filter fun member => member ≠ socket) = []
        · rw [if_pos last, last]
        · rw [if_neg last]
      · rw [if_neg same, membersOf_congr]
        rw [leave_rooms found, if_neg same]

/-- The room of a member after the client has joined it. -/
theorem join_rooms : (control.join socket roomId roomAuth).rooms.get? otherRoom = if otherRoom = roomId then
    some ⟨(match control.rooms.get? roomId with
      | some room => room.auth
      | none => roomAuth), control.membersOf roomId ++ [socket]⟩
    else control.rooms.get? otherRoom := by
  cases found : control.rooms.get? roomId with
  | none =>
      simp only [join, found, addMember, createRoom, modify, Dict.get?_set, membersOf_none found, List.nil_append]
      split <;> rfl
  | some room =>
      simp only [join, found, addMember, Dict.get?_set, membersOf_some found]

theorem membersOf_join : (control.join socket roomId roomAuth).membersOf otherRoom =
    if otherRoom = roomId then control.membersOf roomId ++ [socket] else control.membersOf otherRoom := by
  by_cases same : otherRoom = roomId
  · rw [if_pos same, membersOf, join_rooms, if_pos same]
  · rw [if_neg same, membersOf_congr]
    rw [join_rooms, if_neg same]

/-- Updates that leave the rooms and what clients hold of them alone. -/
structure SameRooms (before after : ControlState) : Prop where
  rooms : after.rooms = before.rooms
  joined : ∀ socket, (after.data socket).rooms = (before.data socket).rooms
  signals : ∀ socket, (after.data socket).signals = (before.data socket).signals
  retainedBytes : after.retainedBytes = before.retainedBytes
  retained : after.retained = before.retained

theorem SameRooms.refl : SameRooms control control := ⟨rfl, fun _ => rfl, fun _ => rfl, rfl, rfl⟩

theorem SameRooms.trans {before middle after : ControlState} (first : SameRooms before middle)
    (second : SameRooms middle after) : SameRooms before after where
  rooms := second.rooms.trans first.rooms
  joined := fun socket => (second.joined socket).trans (first.joined socket)
  signals := fun socket => (second.signals socket).trans (first.signals socket)
  retainedBytes := second.retainedBytes.trans first.retainedBytes
  retained := second.retained.trans first.retained

/-- An update of one client that keeps its rooms and signals. -/
theorem SameRooms.modify (rooms : (update (control.data socket)).rooms = (control.data socket).rooms)
    (signals : (update (control.data socket)).signals = (control.data socket).signals) :
    SameRooms control (control.modify socket update) := by
  have weights := @total_modify control socket update signalsLength rfl
  refine ⟨rfl, ?_, ?_, rfl, ?_⟩
  · intro other
    rw [data_modify]
    split
    · rename_i same
      rw [rooms, same]
    · rfl
  · intro other
    rw [data_modify]
    split
    · rename_i same
      rw [signals, same]
    · rfl
  · have unchanged : signalsLength (update (control.data socket)) = signalsLength (control.data socket) := by
      rw [signalsLength, signals, signalsLength]
    rw [unchanged] at weights
    exact Nat.add_right_cancel weights

/-- Updates of other tables. -/
theorem SameRooms.of {before after : ControlState} (sockets : after.sockets = before.sockets) (rooms : after.rooms = before.rooms)
    (retainedBytes : after.retainedBytes = before.retainedBytes) : SameRooms before after where
  rooms := rooms
  joined := fun socket => by rw [data, sockets, data]
  signals := fun socket => by rw [data, sockets, data]
  retainedBytes := retainedBytes
  retained := by rw [ControlState.retained, sockets, ControlState.retained]

theorem sameRooms_retire : SameRooms control (control.retire socket) := by
  refine (SameRooms.modify rfl rfl : SameRooms control (control.markClosed socket)).trans ?_
  refine SameRooms.trans ?_ (SameRooms.of rfl rfl rfl :
    SameRooms ((control.markClosed socket).forgetDevice socket) (control.retire socket))
  unfold forgetDevice
  split
  · exact .refl
  · split
    · exact .of rfl rfl rfl
    · exact .refl

theorem sameRooms_setRegistered : SameRooms control (control.setRegistered socket peerId) :=
  (SameRooms.modify rfl rfl : SameRooms control (control.modify socket fun data => data.registered peerId)).trans
    (.of rfl rfl rfl)

theorem sameRooms_ensureDeviceLimit : SameRooms control (control.ensureDeviceLimit peerId now) := by
  unfold ensureDeviceLimit
  split
  · exact .refl
  · exact .of rfl rfl rfl

end ControlState

end MeshTalk.Control
