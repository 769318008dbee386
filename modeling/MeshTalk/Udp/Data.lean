import MeshTalk.Udp.Handshake

namespace MeshTalk.Udp

open MeshTalk.Library MeshTalk.Protocol Handler

/-! # Fragmented packets and their acknowledgements -/

namespace UdpTransport

variable (settings : Settings) (now : Time)

def sendAck (session : Session) (messageId : Nat) : Handling PUnit :=
  sendAuthenticated settings session .ack messageId

/-- The fragments of a complete reassembly in index order. -/
def Reassembly.frame (reassembly : Reassembly) : Bytes :=
  (List.range reassembly.count).flatMap fun index => (reassembly.fragments.get? index).getD []

/-- Store one fragment; the reassembly is returned once it is complete, and is
then no longer held. -/
def storeFragment (session : Session) (header : DataHeader) (fragment : Bytes) :
    Handling (Option Reassembly) := do
  let transport ← read
  let reassemblies := (transport.statusOf session).reassemblies
  refuse (reassemblies.size ≥ maxReassemblies ∧ !reassemblies.contains header.messageId)
    (.value "Too many UDP reassemblies")
  let reassembly := (reassemblies.get? header.messageId).getD
    { count := header.count, createdAt := now, fragments := ∅ }
  change (·.updateStatus session fun status =>
    { status with reassemblies := status.reassemblies.set header.messageId reassembly })
  refuse (reassembly.count ≠ header.count) (.value "UDP fragment count changed")
  let grown := { reassembly with fragments := reassembly.fragments.set header.index fragment }
  if grown.fragments.size ≠ header.count then
    change (·.updateStatus session fun status =>
      { status with reassemblies := status.reassemblies.set header.messageId grown })
    return none
  else
    change (·.updateStatus session fun status =>
      { status with reassemblies := status.reassemblies.erase header.messageId })
    return some grown

/-- A fragment that a confirmed session has encrypted. -/
def openFragment (header : DataHeader) (ciphertext : Bytes) (route : Route) : Handling (Session × Bytes) := do
  let session ← sessionFor header.sessionId route true
  refuse (header.count < 1 ∨ header.count > maxFragments ∨ header.index ≥ header.count)
    (.value "Invalid UDP fragment index")
  let fragment ← orRaise (settings.crypto.decrypt session.receiveEncryptionKey header ciphertext)
    (.value "InvalidTag")
  change (·.touch now session)
  return (session, fragment)

/-- The reassembly that a fragment completes.  A fragment of a packet that is
already marked as seen is acknowledged again instead. -/
def reassemble (session : Session) (header : DataHeader) (fragment : Bytes) : Handling (Option Reassembly) := do
  let transport ← read
  if (transport.statusOf session).seen.contains header.messageId then do
    sendAck settings session header.messageId
    return none
  else storeFragment now session header fragment

def decodeFrame (frame : Bytes) : Handling Packet := do
  refuse (frame.length < headerSize ∨ frame.length > maxPacketSize + headerSize)
    (.value "Invalid reassembled packet size")
  orRaise (Packet.decode (frame.take headerSize) (frame.drop headerSize)) (.value "Invalid packet")

/-- The part of `_handle_data` before a packet is marked as seen; `none` where
the datagram completes none. -/
def receivePacket (header : DataHeader) (ciphertext : Bytes) (route : Route) :
    Handling (Option (Session × Packet)) := do
  let opened ← openFragment settings now header ciphertext route
  match ← reassemble settings now opened.1 header opened.2 with
  | none => return none
  | some reassembly => do
      let packet ← decodeFrame (Reassembly.frame reassembly)
      return some (opened.1, packet)

/-- A packet is marked as seen and acknowledged before it is handed to the
owner; retired packet types end there. -/
def acceptPacket (session : Session) (messageId : Nat) (packet : Packet) : Handling PUnit := do
  change fun transport =>
    { transport.updateStatus session (fun status => { status with seen := status.seen.set messageId now }) with
      completed := transport.completed ++ [{ session, messageId, packet }] }
  sendAck settings session messageId
  match packet.type with
  | .retired _ => pure ⟨⟩
  | .live _ => callback (.onPacket { session, messageId, packet })

/-- `_handle_data`. -/
def handleData (header : DataHeader) (ciphertext : Bytes) (route : Route) : Handling PUnit := do
  match ← receivePacket settings now header ciphertext route with
  | none => pure ⟨⟩
  | some (session, packet) => acceptPacket settings now session header.messageId packet

/-- `_handle_ack`. -/
def handleAck (header : AuthHeader) (tag : Bytes) (route : Route) : Handling PUnit := do
  let session ← sessionFor header.sessionId route true
  authenticated settings session header tag
  change (·.touch now session)
  let transport ← read
  match transport.pending.get? (header.sessionId, header.token) with
  | none => pure ⟨⟩
  | some call =>
      match transport.sending.get? call with
      | none => pure ⟨⟩
      | some sending =>
          change fun transport =>
            { transport with sending := transport.sending.set call { sending with acknowledged := true } }

/-- `frame[offset:offset + FRAGMENT_SIZE]` for every offset. -/
def fragmentsOf (frame : Bytes) : List Bytes :=
  (List.range ((frame.length + fragmentSize - 1) / fragmentSize)).map fun index =>
    (frame.drop (index * fragmentSize)).take fragmentSize

def encryptFragment (session : Session) (messageId index count : Nat) (nonce fragment : Bytes) : Datagram :=
  let header : DataHeader := { sessionId := session.sessionId, messageId, index, count, nonce }
  .data header (settings.crypto.encrypt session.transmitEncryptionKey header fragment)

/-- `send_packet` up to its first wait: the call is registered under its
message id with the datagrams each round transmits. -/
def sendPacket (call : Nat) (peerId : PeerId) (packet : Packet) (messageId : Nat)
    (nonces : Nat → Bytes) : Handling PUnit := do
  let transport ← read
  let session ← orRaise
    (transport.confirmedActive peerId)
    (.connection "Remote UDP peer is not connected")
  let frame ← orRaise packet.encode (.value "Packet payload too large")
  let fragments := fragmentsOf frame
  refuse (fragments = [] ∨ fragments.length > maxFragments)
    (.value "Packet cannot be represented by UDP transport")
  refuse (transport.pending.size ≥ maxPending) (.connection "Too many pending UDP packets")
  let datagrams := fragments.mapIdx fun index fragment =>
    encryptFragment settings session messageId index fragments.length (nonces index) fragment
  change fun transport => { transport with
    pending := transport.pending.set (session.sessionId, messageId) call
    sending := transport.sending.set call
      { session, messageId, datagrams, remaining := maxRetries, acknowledged := false } }

def finishSending (transport : UdpTransport) (call : Nat) (sending : Sending) : UdpTransport :=
  { transport with
    sending := transport.sending.erase call
    pending := transport.pending.erase (sending.session.sessionId, sending.messageId) }

def sendAll (route : Route) : List Datagram → Handling PUnit
  | [] => pure ⟨⟩
  | datagram :: rest => do
      sendRoute datagram route
      sendAll route rest

/-- One round of `send_packet`: the value tells whether the packet has been
acknowledged.  The call ends where it returns `true` or raises. -/
def sendRound (call : Nat) (sending : Sending) : Handling Bool :=
  if sending.acknowledged then do
    change (·.finishSending call sending)
    return true
  else if sending.remaining = 0 then do
    change (·.finishSending call sending)
    raise (.connection "Remote UDP packet was not acknowledged")
  else do
    onRaise (sendAll sending.session.route sending.datagrams) (·.finishSending call sending)
    change fun transport => { transport with
      sending := transport.sending.set call { sending with remaining := sending.remaining - 1 } }
    return false

end UdpTransport

end MeshTalk.Udp
