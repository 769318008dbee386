import MeshTalk.Library.Dict
import MeshTalk.Library.Handler
import MeshTalk.Control.Wire

namespace MeshTalk.Control

open MeshTalk.Library

/-! # The tables of the control service

Both runtimes keep the same tables.  The data object of a socket lives as long as
something refers to it, so the objects are kept by socket and never dropped: the
Bun server marks a closed one, and the Worker takes it out of its `clients` map,
which therefore holds the sockets that are not marked here.
-/

structure RateLimit where
  windowStartedAt : Int
  controlMessagesInWindow : Nat := 0
  signalsInWindow : Nat := 0
  peerFetchesInWindow : Nat := 0
deriving Repr, DecidableEq

structure ClientData extends RateLimit where
  ip : Address
  rooms : List RoomId := []
  signals : Dict RoomId Text := ∅
  relayWindowStartedAt : Int
  relayFramesInWindow : Nat := 0
  challengeId : Text
  challenge : Text
  challengeExpiresAt : Int
  peerId : Option PeerId := none
  closed : Bool := false

namespace ClientData

def without (data : ClientData) (roomId : RoomId) : ClientData :=
  { data with rooms := data.rooms.filter fun joined => joined ≠ roomId, signals := data.signals.erase roomId }

def within (data : ClientData) (roomId : RoomId) : ClientData := { data with rooms := data.rooms ++ [roomId] }

def signalling (data : ClientData) (roomId : RoomId) (payload : Text) : ClientData :=
  { data with signals := data.signals.set roomId payload }

def registered (data : ClientData) (peerId : PeerId) : ClientData := { data with peerId := some peerId }

def shut (data : ClientData) : ClientData := { data with closed := true }

end ClientData

structure RoomState where
  auth : Text
  members : List Socket
deriving Repr, DecidableEq

structure DeviceLimit where
  tokens : Rat
  receiveTokens : Rat
  updatedAt : Int
  relayPeers : Dict PeerId Int

inductive Output where
  | sent (socket : Socket) (frame : Frame)
  | closed (socket : Socket) (code : Nat)
deriving Repr, DecidableEq

/-- `wire` holds what the event being handled has sent and closed so far. -/
structure ControlState where
  sockets : Dict Socket ClientData
  rooms : Dict RoomId RoomState
  connections : Nat
  connectionsByIp : Dict Address Nat
  rateLimitsByIp : Dict Address RateLimit
  socketsByPeerId : Dict PeerId Socket
  deviceLimits : Dict PeerId DeviceLimit
  retainedBytes : Int
  wire : List Output

namespace ControlState

def empty : ControlState where
  sockets := ∅
  rooms := ∅
  connections := 0
  connectionsByIp := ∅
  rateLimitsByIp := ∅
  socketsByPeerId := ∅
  deviceLimits := ∅
  retainedBytes := 0
  wire := []

/-- Stands for a socket that has not been opened. -/
def unopened : ClientData where
  ip := []
  windowStartedAt := 0
  relayWindowStartedAt := 0
  challengeId := []
  challenge := []
  challengeExpiresAt := 0
  closed := true

def data (control : ControlState) (socket : Socket) : ClientData := (control.sockets.get? socket).getD unopened

/-- The client is connected and has not been closed. -/
def Live (control : ControlState) (socket : Socket) : Prop := (control.data socket).closed = false

instance {control : ControlState} {socket : Socket} : Decidable (control.Live socket) :=
  inferInstanceAs (Decidable (_ = _))

def modify (control : ControlState) (socket : Socket) (update : ClientData → ClientData) : ControlState :=
  { control with sockets := control.sockets.set socket (update (control.data socket)) }

/-- The members of a room, in the order they joined. -/
def membersOf (control : ControlState) (roomId : RoomId) : List Socket :=
  match control.rooms.get? roomId with
  | some room => room.members
  | none => []

def signalOf (control : ControlState) (socket : Socket) (roomId : RoomId) : Option Text :=
  (control.data socket).signals.get? roomId

def signalLength (control : ControlState) (socket : Socket) (roomId : RoomId) : Nat :=
  match control.signalOf socket roomId with
  | some payload => payload.length
  | none => 0

/-- The updates of `leaveRoom` before it looks at what is left of the room. -/
def dropMember (control : ControlState) (socket : Socket) (roomId : RoomId) (room : RoomState) : ControlState :=
  { control.modify socket fun data => data.without roomId with
    rooms := control.rooms.set roomId { room with members := room.members.filter fun member => member ≠ socket }
    retainedBytes := control.retainedBytes - control.signalLength socket roomId }

def dropRoom (control : ControlState) (roomId : RoomId) : ControlState :=
  { control with rooms := control.rooms.erase roomId }

def createRoom (control : ControlState) (roomId : RoomId) (auth : Text) : ControlState :=
  { control with rooms := control.rooms.set roomId ⟨auth, []⟩ }

def addMember (control : ControlState) (socket : Socket) (roomId : RoomId) (room : RoomState) : ControlState :=
  { control.modify socket fun data => data.within roomId with
    rooms := control.rooms.set roomId { room with members := room.members ++ [socket] } }

def retain (control : ControlState) (socket : Socket) (roomId : RoomId) (payload : Text) : ControlState :=
  { control.modify socket fun data => data.signalling roomId payload with
    retainedBytes := control.retainedBytes + (payload.length - control.signalLength socket roomId) }

def setDeviceLimit (control : ControlState) (peerId : PeerId) (limit : DeviceLimit) : ControlState :=
  { control with deviceLimits := control.deviceLimits.set peerId limit }

/-- The tables as an event finds them. -/
def quiet (control : ControlState) : ControlState := { control with wire := [] }

def put (control : ControlState) (output : Output) : ControlState := { control with wire := control.wire ++ [output] }

variable {control : ControlState} {socket other : Socket} {update : ClientData → ClientData}

@[simp] theorem data_modify : (control.modify socket update).data other =
    if other = socket then update (control.data socket) else control.data other := by
  simp only [data, modify, Dict.get?_set]
  split <;> rfl

theorem data_put {output : Output} : (control.put output).data socket = control.data socket := rfl

end ControlState

end MeshTalk.Control
