import MeshTalk.Control.BunSteps
import MeshTalk.Control.WorkerSteps

namespace MeshTalk.Control

open MeshTalk.Library ControlState

/-! # The tables of the service agree with each other -/

namespace ControlState

/-- The tables agree with each other. -/
structure Consistent (control : ControlState) : Prop where
  joined : ∀ socket roomId, socket ∈ control.membersOf roomId ↔ roomId ∈ (control.data socket).rooms
  occupied : ∀ roomId room, control.rooms.get? roomId = some room → room.members ≠ []
  retained : control.retainedBytes = control.retained
  bounded : control.retainedBytes ≤ maxRetainedBytes
  counted : ∀ ip, control.countFor ip = control.liveFor ip
  unique : ∀ socket other peerId, control.Live socket → control.Live other → (control.data socket).peerId = some peerId →
    (control.data other).peerId = some peerId → socket = other

theorem Sound.consistent {control : ControlState} (sound : Sound control) : Consistent control where
  joined := sound.joined
  occupied := sound.occupied
  retained := sound.retained
  bounded := sound.bounded
  counted := sound.counted
  unique := by
    intro socket other peerId live alive named called
    have holder := (sound.registered peerId socket).mpr ⟨live, named⟩
    rw [(sound.registered peerId other).mpr ⟨alive, called⟩] at holder
    exact (Option.some.inj holder).symm

end ControlState

theorem Bun.run_wellkept {deployment : Deployment} {turns : List Turn} {control : ControlState}
    (ran : run (Bun.step deployment) .empty turns = some control) : Wellkept control :=
  reachable_invariant (fun _ _ _ kept stepped => Bun.step_wellkept kept stepped) empty_wellkept ⟨turns, ran⟩

theorem Worker.run_kept {deployment : Deployment} {turns : List WorkerTurn} {worker : WorkerState}
    (ran : run (Worker.step deployment) .empty turns = some worker) : worker.Kept deployment.crypto :=
  reachable_invariant (fun _ _ _ kept stepped => Worker.step_kept kept stepped) WorkerState.empty_kept ⟨turns, ran⟩

namespace Sample

def deployment : Deployment := ⟨true, id, fun _ => [], fun _ _ _ => .ok true⟩

/-- Sixty-four times one digit. -/
def name (digit : UInt16) : PeerId := List.replicate 64 digit

def room : RoomId := List.replicate 32 49

def auth : Text := List.replicate 64 50

def registering (digit : UInt16) : ControlMessage :=
  { type := .deviceRegister, challengeId := some [], nonce := some [], issuedAt := some 0, peerId := some (name digit)
    signingPublicKey := some (name digit), signature := some (List.replicate 128 49) }

def joining : ControlMessage := { type := .join, roomId := some room, roomAuth := some auth }

def raw (message : ControlMessage) : Raw := ⟨1, 1, .object message⟩

def connect (socket : Socket) : ClientEvent := .connect socket [] [] []

def tells (socket : Socket) (message : ControlMessage) : ClientEvent := .message socket (raw message)

/-- A client that connects, registers and joins the room. -/
def arrives (socket : Socket) (digit : UInt16) : List ClientEvent :=
  [connect socket, tells socket (registering digit), tells socket joining]

/-- The events at one reading of the clock. -/
def turns (events : List ClientEvent) : List Turn := events.map fun event => ⟨0, event⟩

/-- An event of the Worker, with the turns its loop takes to be idle again. -/
def drained (event : ClientEvent) (waits : Nat) : List WorkerTurn :=
  ⟨0, fun _ => false, .client event⟩ :: List.replicate waits ⟨0, fun _ => false, .resume⟩

def workerArrives (socket : Socket) (digit : UInt16) : List WorkerTurn :=
  drained (connect socket) 0 ++ drained (tells socket (registering digit)) 3 ++ drained (tells socket joining) 1

end Sample

end MeshTalk.Control
