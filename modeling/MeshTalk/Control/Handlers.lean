import Mathlib.Algebra.Order.Group.Unbundled.Abs
import Mathlib.Algebra.Order.Ring.Rat
import MeshTalk.Control.State

namespace MeshTalk.Control

open MeshTalk.Library

/-! # Handlers that both runtimes have

The two servers write these handlers down separately and alike.  They differ in
how a member's data is reached, in two library functions, and in that a `send`
of the Worker may raise.
-/

inductive Runtime where
  | bun
  | worker
deriving Repr, DecidableEq

/-- What a handler finds outside the tables: the deployment, the clock, and the
sockets whose `send` raises. -/
structure Context where
  runtime : Runtime
  relayEnabled : Bool
  crypto : Crypto
  now : Int
  failing : Socket → Bool

abbrev ControlHandler := Handler ControlState String

/-- The data of a member of a room: `member.data`, or what `clients` has. -/
def Context.clientOf (context : Context) (control : ControlState) (socket : Socket) : Option ClientData :=
  match context.runtime with
  | .bun => some (control.data socket)
  | .worker => if (control.data socket).closed then none else some (control.data socket)

section

variable (context : Context)

def send (socket : Socket) (frame : Frame) : ControlHandler PUnit :=
  if context.failing socket then Handler.raise "send failed"
  else Handler.change fun control => control.put (.sent socket frame)

/-! ## Rooms -/

def broadcastRoom (roomId : RoomId) (frame : Frame) (except : Option Socket) : ControlHandler PUnit := do
  let control ← Handler.read
  Handler.forEach (control.membersOf roomId) fun member =>
    if some member = except then pure ⟨⟩ else send context member frame

def refreshRoom (roomId : RoomId) : ControlHandler PUnit := do
  let control ← Handler.read
  match control.rooms.get? roomId with
  | none => pure ⟨⟩
  | some room => broadcastRoom context roomId (.refresh roomId room.members.length) none

def leaveRoom (socket : Socket) (roomId : RoomId) : ControlHandler PUnit := do
  let control ← Handler.read
  match control.rooms.get? roomId with
  | none => pure ⟨⟩
  | some room => do
      Handler.change fun control => control.dropMember socket roomId room
      if (room.members.filter fun member => member ≠ socket) = [] then
        Handler.change fun control => control.dropRoom roomId
      else refreshRoom context roomId

/-- The loop of the Worker's own `timingSafeEqual`. -/
def bytesDiffer : Bytes → Bytes → UInt8
  | first :: rest, second :: others => (first ^^^ second) ||| bytesDiffer rest others
  | _, _ => 0

/-- The library's in the Bun server, which raises for texts of different lengths. -/
def timingSafeEqual (known given : Bytes) : Bool :=
  match context.runtime with
  | .bun => decide (known = given)
  | .worker => known.length = given.length && bytesDiffer known given = 0

/-- The room to join, made where it is missing. -/
def obtainRoom (roomId : RoomId) (roomAuth : Text) : ControlHandler RoomState := do
  let control ← Handler.read
  match control.rooms.get? roomId with
  | some room => pure room
  | none => do
      Handler.refuse (maxRooms ≤ control.rooms.size) "Control service room limit reached"
      Handler.change fun control => control.createRoom roomId roomAuth
      pure ⟨roomAuth, []⟩

/-- A retained signal of a member, for the client that joins. -/
def replaySignal (socket : Socket) (roomId : RoomId) (member : Socket) : ControlHandler PUnit := do
  let control ← Handler.read
  match (context.clientOf control member).bind fun data => data.signals.get? roomId with
  | some payload => if payload = [] then pure ⟨⟩ else send context socket (.signal roomId payload)
  | none => pure ⟨⟩

def joinRoom (socket : Socket) (roomId : RoomId) (roomAuth : Text) : ControlHandler PUnit := do
  Handler.refuse (¬ isRoomId roomId ∨ ¬ isRoomAuth roomAuth) "Invalid room authorization"
  let control ← Handler.read
  if roomId ∈ (control.data socket).rooms then pure ⟨⟩
  else do
    Handler.refuse (maxRoomsPerClient ≤ (control.data socket).rooms.length) "Too many joined rooms"
    let room ← obtainRoom roomId roomAuth
    Handler.refuse (¬ timingSafeEqual context (fromHex room.auth) (fromHex roomAuth)) "Room authorization failed"
    Handler.refuse (maxRoomMembers ≤ room.members.length) "Room is full"
    Handler.forEach room.members (replaySignal context socket roomId)
    Handler.change fun control => control.addMember socket roomId room
    send context socket (.joined roomId (room.members.length + 1))
    refreshRoom context roomId

def signalRoom (socket : Socket) (roomId : RoomId) (payload : Text) : ControlHandler PUnit := do
  let control ← Handler.read
  Handler.refuse (roomId ∉ (control.data socket).rooms) "Join the room before signaling"
  Handler.refuse (payload = [] ∨ maxSignalLength < payload.length) "Invalid signal payload"
  Handler.refuse (maxRetainedBytes < control.retainedBytes - control.signalLength socket roomId + payload.length)
    "Control service storage limit reached"
  Handler.change fun control => control.retain socket roomId payload
  broadcastRoom context roomId (.signal roomId payload) (some socket)

def fetchPeers (socket : Socket) (roomId : RoomId) : ControlHandler PUnit := do
  let control ← Handler.read
  Handler.refuse (roomId ∉ (control.data socket).rooms) "Join the room before fetching peers"
  match control.rooms.get? roomId with
  | none => pure ⟨⟩
  | some room =>
      let payloads := room.members.filterMap fun member =>
        ((context.clientOf control member).bind fun data => data.signals.get? roomId).filter fun payload => payload ≠ []
      send context socket (.peers roomId payloads)

end

/-! ## Rate limits -/

namespace RateLimit

def expired (limit : RateLimit) (now : Int) : Prop := 60000 ≤ now - limit.windowStartedAt

instance {limit : RateLimit} {now : Int} : Decidable (limit.expired now) := inferInstanceAs (Decidable (_ ≤ _))

def count (limit : RateLimit) : MessageType → RateLimit
  | .signal => { limit with signalsInWindow := limit.signalsInWindow + 1 }
  | .getPeers => { limit with peerFetchesInWindow := limit.peerFetchesInWindow + 1 }
  | _ => { limit with controlMessagesInWindow := limit.controlMessagesInWindow + 1 }

def current (limit : RateLimit) (now : Int) : RateLimit := if limit.expired now then ⟨now, 0, 0, 0⟩ else limit

def exceeded (limit : RateLimit) : Prop :=
  maxSignalsPerMinute < limit.signalsInWindow ∨ maxControlMessagesPerMinute < limit.controlMessagesInWindow ∨
    maxPeerFetchesPerMinute < limit.peerFetchesInWindow

instance {limit : RateLimit} : Decidable limit.exceeded := inferInstanceAs (Decidable (_ ∨ _))

end RateLimit

namespace ControlState

def countMessage (control : ControlState) (socket : Socket) (now : Int) (type : MessageType) : ControlState :=
  control.modify socket fun data => { data with toRateLimit := (data.toRateLimit.current now).count type }

/-- The window of an address, begun anew where there is none. -/
def addressLimit (control : ControlState) (ip : Address) (now : Int) : RateLimit :=
  match control.rateLimitsByIp.get? ip with
  | some limit => limit.current now
  | none => ⟨now, 0, 0, 0⟩

def countAddress (control : ControlState) (ip : Address) (now : Int) (type : MessageType) : ControlState :=
  { control with rateLimitsByIp := control.rateLimitsByIp.set ip ((control.addressLimit ip now).count type) }

def countRelayFrame (control : ControlState) (socket : Socket) (now : Int) : ControlState :=
  control.modify socket fun data =>
    if 1000 ≤ now - data.relayWindowStartedAt then { data with relayWindowStartedAt := now, relayFramesInWindow := 1 }
    else { data with relayFramesInWindow := data.relayFramesInWindow + 1 }

end ControlState

section

variable (context : Context)

def checkRateLimit (socket : Socket) (type : MessageType) : ControlHandler PUnit := do
  Handler.change fun control => control.countMessage socket context.now type
  let control ← Handler.read
  Handler.refuse (control.data socket).toRateLimit.exceeded "Message rate limit exceeded"
  Handler.change fun control => control.countAddress (control.data socket).ip context.now type
  Handler.refuse ((control.addressLimit (control.data socket).ip context.now).count type).exceeded
    "IP message rate limit exceeded"

def checkRelayRateLimit (socket : Socket) : ControlHandler PUnit := do
  Handler.change fun control => control.countRelayFrame socket context.now
  let control ← Handler.read
  Handler.refuse (maxRelayFramesPerSecond < (control.data socket).relayFramesInWindow) "Relay frame rate limit exceeded"

/-! ## Relay -/

def peersShareRoom (control : ControlState) (socket : Socket) (recipientId : PeerId) : Bool :=
  match (control.data socket).peerId with
  | none => false
  | some peerId =>
      peerId ≠ recipientId &&
        (control.data socket).rooms.any fun roomId => (control.membersOf roomId).any fun member =>
          ((context.clientOf control member).bind fun data => data.peerId) = some recipientId

def DeviceLimit.fresh (now : Int) : DeviceLimit := ⟨relayBurstBytes, relayBurstBytes, now, ∅⟩

/-- What a bucket holds after it has been filled up to now. -/
def refilled (tokens : Rat) (updatedAt now : Int) : Rat :=
  min relayBurstBytes (tokens + (now - updatedAt) * relayBytesPerSecond / 1000)

def DeviceLimit.refill (limit : DeviceLimit) (now : Int) : DeviceLimit :=
  { limit with
    tokens := refilled limit.tokens limit.updatedAt now
    receiveTokens := refilled limit.receiveTokens limit.updatedAt now
    updatedAt := now }

def DeviceLimit.forgetIdle (limit : DeviceLimit) (now : Int) : DeviceLimit :=
  { limit with relayPeers := limit.relayPeers.filter fun _ seenAt => now - seenAt ≤ relayPeerIdleMs }

/-- The buckets of a device, filled up to now. -/
def refillDevice (peerId : PeerId) : ControlHandler DeviceLimit := do
  let control ← Handler.read
  let limit ← Handler.orRaise (control.deviceLimits.get? peerId) "Relay device is not registered"
  Handler.change fun control => control.setDeviceLimit peerId (limit.refill context.now)
  pure (limit.refill context.now)

def reserveRelayBandwidth (peerId recipientId : PeerId) (bytes : Nat) : ControlHandler Bool := do
  let filled ← refillDevice context peerId
  let recipient ← refillDevice context recipientId
  let sender := filled.forgetIdle context.now
  Handler.change fun control => control.setDeviceLimit peerId sender
  if sender.tokens < bytes ∨ recipient.receiveTokens < bytes then pure false
  else if ¬ sender.relayPeers.contains recipientId ∧ maxRelayPeersPerDevice ≤ sender.relayPeers.size then pure false
  else do
    Handler.change fun control => control.setDeviceLimit peerId
      { sender with relayPeers := sender.relayPeers.set recipientId context.now, tokens := sender.tokens - bytes }
    Handler.change fun control => control.setDeviceLimit recipientId
      { recipient with receiveTokens := recipient.receiveTokens - bytes }
    pure true

def decodeFrame (payload : Text) : Option Bytes :=
  match context.runtime with
  | .bun => some (Base64.decodeBuffer payload)
  | .worker => Base64.atob payload

def relayDatagram (socket : Socket) (recipientId : PeerId) (payload : Text) : ControlHandler PUnit := do
  Handler.refuse (¬ context.relayEnabled) "MeshTalk Relay is disabled"
  let control ← Handler.read
  match (control.data socket).peerId with
  | none => Handler.raise "Invalid relay frame"
  | some peerId => do
      Handler.refuse (¬ isPeerId recipientId) "Invalid relay frame"
      let frame ← Handler.orRaise (decodeFrame context payload) "Invalid relay frame"
      Handler.refuse (frame = [] ∨ maxRelayFrameLength < frame.length ∨ Base64.encode frame ≠ payload) "Invalid relay frame"
      if ¬ peersShareRoom context control socket recipientId then
        send context socket (.relayDropped recipientId .unauthorized)
      else
        match control.socketsByPeerId.get? recipientId with
        | none => send context socket (.relayDropped recipientId .offline)
        | some recipient => do
            if ← reserveRelayBandwidth context peerId recipientId frame.length then
              send context recipient (.relay peerId payload)
            else send context socket (.relayDropped recipientId .quota)

/-! ## Registration -/

/-- A registration whose shape, challenge and age are right, with its signature. -/
structure SignedRegistration where
  registration : Registration
  signature : Text

/-- The fields of a registration, where all have their types. -/
def ControlMessage.registration? (message : ControlMessage) : Option SignedRegistration := do
  let registration : Registration :=
    { challengeId := ← message.challengeId, issuedAt := ← message.issuedAt, nonce := ← message.nonce
      peerId := ← message.peerId, signingPublicKey := ← message.signingPublicKey }
  some ⟨registration, ← message.signature⟩

/-- The challenge, the age and the patterns. -/
def SignedRegistration.fits (signed : SignedRegistration) (data : ClientData) (now : Int) : Prop :=
  signed.registration.challengeId = data.challengeId ∧ signed.registration.nonce = data.challenge ∧
    |((now / 1000 : Int) : Rat) - signed.registration.issuedAt| ≤ 30 ∧ isPeerId signed.registration.peerId ∧
    isHex32 signed.registration.signingPublicKey ∧ isHex64 signed.signature

instance {signed : SignedRegistration} {data : ClientData} {now : Int} : Decidable (signed.fits data now) :=
  inferInstanceAs (Decidable (_ ∧ _))

/-- The checks of `registerDevice` that need no cryptography. -/
def readRegistration (socket : Socket) (message : ControlMessage) : ControlHandler SignedRegistration := do
  let control ← Handler.read
  let signed ← Handler.orRaise message.registration? "Invalid device registration"
  Handler.refuse (¬ signed.fits (control.data socket) context.now) "Invalid device registration"
  Handler.refuse ((control.data socket).peerId.any fun registered => registered ≠ signed.registration.peerId)
    "Device identity cannot change on a connection"
  pure signed

def checkDigest (signed : SignedRegistration) : ControlHandler PUnit :=
  Handler.refuse (toHex (context.crypto.sha256 (fromHex signed.registration.signingPublicKey)) ≠ signed.registration.peerId)
    "Device identity mismatch"

def checkSignature (signed : SignedRegistration) : ControlHandler PUnit :=
  match context.crypto.verify (fromHex signed.registration.signingPublicKey) (fromHex signed.signature)
      (context.crypto.canonical signed.registration) with
  | .error text => Handler.raise text
  | .ok verified => Handler.refuse (verified = false) "Invalid device signature"

end

namespace ControlState

def setRegistered (control : ControlState) (socket : Socket) (peerId : PeerId) : ControlState :=
  { control.modify socket fun data => data.registered peerId with
    socketsByPeerId := control.socketsByPeerId.set peerId socket }

/-- The buckets of a device that has none yet. -/
def ensureDeviceLimit (control : ControlState) (peerId : PeerId) (now : Int) : ControlState :=
  match control.deviceLimits.get? peerId with
  | some _ => control
  | none => control.setDeviceLimit peerId (.fresh now)

/-! ## Connections -/

def countFor (control : ControlState) (ip : Address) : Nat :=
  match control.connectionsByIp.get? ip with
  | some count => count
  | none => 0

/-- The checks of `fetch`. -/
def admits (control : ControlState) (ip : Address) : Prop :=
  control.connections < maxConnections ∧ control.countFor ip < maxConnectionsPerIp

instance {control : ControlState} {ip : Address} : Decidable (control.admits ip) := inferInstanceAs (Decidable (_ ∧ _))

def openedClient (ip : Address) (now : Int) (challengeId challenge : Text) : ClientData where
  ip := ip
  windowStartedAt := now
  relayWindowStartedAt := now
  challengeId := challengeId
  challenge := challenge
  challengeExpiresAt := now / 1000 + 60

def addClient (control : ControlState) (socket : Socket) (data : ClientData) : ControlState :=
  { control with
    sockets := control.sockets.set socket data
    connections := control.connections + 1
    connectionsByIp := control.connectionsByIp.set data.ip (control.countFor data.ip + 1) }

/-- The client is gone before anything else is cleaned up. -/
def markClosed (control : ControlState) (socket : Socket) : ControlState :=
  control.modify socket ClientData.shut

/-- Ends the registration, unless a newer connection holds it. -/
def forgetDevice (control : ControlState) (socket : Socket) : ControlState :=
  match (control.data socket).peerId with
  | none => control
  | some peerId =>
      if control.socketsByPeerId.get? peerId = some socket then
        { control with
          socketsByPeerId := control.socketsByPeerId.erase peerId
          deviceLimits := (control.deviceLimits.erase peerId).mapValues fun limit =>
            { limit with relayPeers := limit.relayPeers.erase peerId } }
      else control

def releaseConnection (control : ControlState) (socket : Socket) : ControlState :=
  let ip := (control.data socket).ip
  let count := (match control.connectionsByIp.get? ip with
    | some count => count
    | none => 1) - 1
  { control with
    connections := control.connections - 1
    connectionsByIp := if 0 < count then control.connectionsByIp.set ip count else control.connectionsByIp.erase ip }

end ControlState

section

variable (context : Context)

/-- What `closeClient` and `handleClose` do after the client is marked. -/
def detach (socket : Socket) : ControlHandler PUnit := do
  Handler.change fun control => (control.forgetDevice socket).releaseConnection socket
  let control ← Handler.read
  Handler.forEach (control.data socket).rooms (leaveRoom context socket)

/-- A registered client's message other than a registration and a relay frame. -/
def handleRoomMessage (socket : Socket) (message : ControlMessage) : ControlHandler PUnit :=
  match message.type, message.roomId, message.roomAuth, message.payload with
  | .join, some roomId, some roomAuth, _ => joinRoom context socket roomId roomAuth
  | .leave, some roomId, _, _ => leaveRoom context socket roomId
  | .signal, some roomId, _, some payload => signalRoom context socket roomId payload
  | .getPeers, some roomId, _, _ => fetchPeers context socket roomId
  | _, _, _, _ => Handler.raise "Invalid control message"

end

/-- The recipient and the payload of a relay frame. -/
def ControlMessage.relayed? (message : ControlMessage) : Option (PeerId × Text) :=
  match message.type, message.recipientId, message.payload with
  | .relay, some recipientId, some payload => some (recipientId, payload)
  | _, _, _ => none

end MeshTalk.Control
