import MeshTalk.Library.Machine
import MeshTalk.Control.Handlers

namespace MeshTalk.Control

open MeshTalk.Library

/-! # The Bun server

Every callback runs to its end, so each event is one step.  A `send` reports a
status here and does not raise.
-/

structure Deployment where
  relayEnabled : Bool
  crypto : Crypto

/-- What clients do. -/
inductive ClientEvent where
  | connect (socket : Socket) (ip : Address) (challengeId challenge : Text)
  | message (socket : Socket) (raw : Raw)
  | close (socket : Socket)

/-- An event with the clock it is handled at. -/
structure Turn where
  now : Int
  event : ClientEvent

/-- `device_challenge`. -/
def challengeOf (data : ClientData) : Frame :=
  .deviceChallenge data.challengeId data.challenge data.challengeExpiresAt

/-- `fetch` with `open`, past the checks of `fetch`. -/
def openClient (context : Context) (socket : Socket) (ip : Address) (challengeId challenge : Text) :
    ControlHandler PUnit := do
  let data := ControlState.openedClient ip context.now challengeId challenge
  Handler.change fun control => control.addClient socket data
  send context socket (challengeOf data)

/-- The binding of the device to the socket; the socket that had it is returned. -/
def takeIdentity (socket : Socket) (peerId : PeerId) : ControlHandler (Option Socket) := do
  let control ← Handler.read
  Handler.change fun control => control.setRegistered socket peerId
  pure ((control.socketsByPeerId.get? peerId).filter fun previous => previous ≠ socket)

def confirmRegistration (context : Context) (socket : Socket) (peerId : PeerId) : ControlHandler PUnit := do
  Handler.change fun control => control.ensureDeviceLimit peerId context.now
  send context socket (.deviceRegistered peerId context.relayEnabled)

namespace Bun

section

variable (context : Context)

def closeClient (socket : Socket) : ControlHandler PUnit := do
  let control ← Handler.read
  if (control.data socket).closed then pure ⟨⟩
  else do
    Handler.change fun control => control.markClosed socket
    detach context socket

def replacePrevious (previous : Option Socket) : ControlHandler PUnit :=
  match previous with
  | none => pure ⟨⟩
  | some previous => do
      closeClient context previous
      Handler.change fun control => control.put (.closed previous 4000)

def registerDevice (socket : Socket) (message : ControlMessage) : ControlHandler PUnit := do
  let signed ← readRegistration context socket message
  checkDigest context signed
  checkSignature context signed
  let previous ← takeIdentity socket signed.registration.peerId
  replacePrevious context previous
  confirmRegistration context socket signed.registration.peerId

def handleMessage (socket : Socket) (message : ControlMessage) : ControlHandler PUnit :=
  if message.type = .deviceRegister then do
    checkRateLimit context socket message.type
    registerDevice context socket message
  else do
    let control ← Handler.read
    Handler.refuse ((control.data socket).peerId = none) "Device registration required"
    match message.relayed? with
    | some (recipientId, payload) => do
        checkRelayRateLimit context socket
        relayDatagram context socket recipientId payload
    | none => do
        checkRateLimit context socket message.type
        handleRoomMessage context socket message

/-- The fields of anything but an object are undefined, and `null` has none. -/
def handleParsed (socket : Socket) : Parsed → ControlHandler PUnit
  | .malformed => Handler.raise "JSON Parse error"
  | .null => Handler.raise "null is not an object"
  | .bare => handleMessage context socket { type := .other }
  | .object message => handleMessage context socket message

def rejectClient (socket : Socket) (text : String) : ControlHandler PUnit :=
  (send context socket (.error text)).ensuring do
    closeClient context socket
    Handler.change fun control => control.put (.closed socket 1008)

def message (socket : Socket) (content : Parsed) : ControlHandler PUnit := do
  let control ← Handler.read
  if (control.data socket).closed then pure ⟨⟩
  else (handleParsed context socket content).recover (rejectClient context socket)

end

def context (deployment : Deployment) (now : Int) : Context where
  runtime := .bun
  relayEnabled := deployment.relayEnabled
  crypto := deployment.crypto
  now := now
  failing := fun _ => false

def step (deployment : Deployment) (control : ControlState) (turn : Turn) : Option ControlState :=
  let start := control.quiet
  let context := context deployment turn.now
  match turn.event with
  | .connect socket ip challengeId challenge =>
      if control.sockets.contains socket then none
      else if control.admits ip then some ((openClient context socket ip challengeId challenge).finish start)
      else some start
  | .message socket raw =>
      if control.sockets.contains socket then some ((message context socket raw.content).finish start) else none
  | .close socket =>
      if control.sockets.contains socket then some ((closeClient context socket).finish start) else none

end Bun

end MeshTalk.Control
