import MeshTalk.Udp.Data
import MeshTalk.Library.Machine

namespace MeshTalk.Udp

open MeshTalk.Library MeshTalk.Protocol Handler

/-! # Candidates, the maintenance task and the transport as a machine

The maintenance task is cut between any two sessions it visits in the active and
retiring maps, where the source only yields in its callbacks; this adds
interleavings and removes none.
-/

namespace UdpTransport

variable (settings : Settings) (now : Time)

def configureDerp (transport : UdpTransport) (sender serverEnabled : Bool) : UdpTransport :=
  { transport with relayEnabled := serverEnabled, derpSender := sender && serverEnabled }

def expectDerpPeer (peerId : PeerId) : Handling PUnit := do
  if peerId = settings.peerId then pure ⟨⟩
  else
    let endpoint : Endpoint := ("derp:" ++ peerId, 0)
    change fun transport => { transport with
      forgottenRelays := transport.forgottenRelays.erase peerId
      derpCandidates := transport.derpCandidates.set peerId endpoint
      derpPeers := transport.derpPeers.set endpoint peerId }
    let transport ← read
    if transport.relayEnabled ∧ transport.derpSender ∧
        (settings.forceRelay ∨ !transport.directCandidates.contains peerId) then do
      let _ ← startAttempt settings now peerId (endpoint, true)
    else pure ⟨⟩

def withdrawDirect (transport : UdpTransport) (peerId : PeerId) : UdpTransport :=
  let cleared := { transport with
    directCandidates := transport.directCandidates.erase peerId
    expectedEndpoints := transport.expectedEndpoints.erase peerId }
  if (cleared.attempts.get? peerId).any (!·.viaRelay) then cleared.popAttempt peerId else cleared

/-- Drop the direct candidate with its attempt and its pending sessions. -/
def clearDirectCandidate (transport : UdpTransport) (peerId : PeerId) : UdpTransport :=
  let halted := transport.withdrawDirect peerId
  removeSessions ((halted.pendingOf peerId).values.filter (!·.viaRelay)) halted

/-- Relay routing stays until the last relay session of the peer has ended. -/
def withdraw (transport : UdpTransport) (peerId : PeerId) : UdpTransport :=
  let cleared := { transport with
    directCandidates := transport.directCandidates.erase peerId
    expectedEndpoints := transport.expectedEndpoints.erase peerId
    lastDirectProbe := transport.lastDirectProbe.erase peerId }
  let released :=
    if cleared.relayInUse peerId then
      { cleared with forgottenRelays := cleared.forgottenRelays.set peerId () }
    else cleared.dropRelayRouting peerId
  released.popAttempt peerId

def forgetCandidate (transport : UdpTransport) (peerId : PeerId) : UdpTransport :=
  let halted := transport.withdraw peerId
  removeSessions (halted.pendingOf peerId).values halted

def punchingAttempt (transport : UdpTransport) (peerId : PeerId) : Option Attempt :=
  (transport.attempts.get? peerId).filter fun attempt => transport.punching.contains attempt.serial

/-- The endpoint `expect_peer` registers: the verified one while a confirmed
session uses it. -/
def endpointToExpect (transport : UdpTransport) (peerId : PeerId) (endpoint : Endpoint) : Endpoint :=
  match transport.expectedEndpoints.get? peerId, transport.sessions.get? peerId with
  | some verified, some session =>
      if now - verified.2 < expectedPeerTimeout ∧ transport.confirmed session ∧
        session.endpoint = verified.1 then verified.1 else endpoint
  | _, _ => endpoint

/-- Whether a confirmed relay session rules out a direct attempt for now. -/
def probeWithheld (transport : UdpTransport) (peerId : PeerId) (session : Session)
    (previous : Option Endpoint) (endpoint : Endpoint) : Bool :=
  decide (capDirectRouteRecovery ∉ session.capabilities) ||
    decide (previous = some endpoint ∧
      now - (transport.lastDirectProbe.get? peerId).getD 0 < directProbeInterval)

def expectPeer (peerId : PeerId) (endpoint : Endpoint) : Handling PUnit := do
  if peerId = settings.peerId then pure ⟨⟩
  else
    refuse (!settings.isAddress endpoint.1) (.value "not an IP address")
    refuse (endpoint.2 < 1 ∨ endpoint.2 > 65535) (.value "Invalid peer UDP port")
    let transport ← read
    refuse (!transport.expectedEndpoints.contains peerId ∧
        transport.expectedEndpoints.size ≥ maxExpectedPeers)
      (.value "Too many expected UDP peers")
    let previous := transport.directCandidates.get? peerId
    let expected := transport.endpointToExpect now peerId endpoint
    change fun transport => { transport with
      directCandidates := transport.directCandidates.set peerId endpoint
      expectedEndpoints := transport.expectedEndpoints.set peerId (expected, now) }
    let session := transport.confirmedActive peerId
    if settings.forceRelay then
      match transport.derpCandidates.get? peerId with
      | some relay =>
          if transport.derpSender then do
            let _ ← startAttempt settings now peerId (relay, true)
          else pure ⟨⟩
      | none => pure ⟨⟩
    else if session.any fun session => session.endpoint = expected then pure ⟨⟩
    else if (transport.punchingAttempt peerId).any fun attempt => attempt.endpoint = expected then pure ⟨⟩
    else if session.any fun session => session.viaRelay &&
        transport.probeWithheld now peerId session previous expected then pure ⟨⟩
    else
      change fun transport =>
        if session.any (·.viaRelay) then
          { transport with lastDirectProbe := transport.lastDirectProbe.set peerId now }
        else transport
      change fun transport => { transport with
        punching := ((transport.attempts.get? peerId).map fun attempt =>
          transport.punching.erase attempt.serial).getD transport.punching }
      let _ ← startAttempt settings now peerId (expected, false)

/-- Drop old entries of the duplicate and reassembly tables. -/
def sweep (transport : UdpTransport) (session : Session) : UdpTransport :=
  transport.updateStatus session fun status => { status with
    seen := status.seen.filter fun _ seenAt => now - seenAt < sessionTimeout
    reassemblies := status.reassemblies.filter fun _ reassembly => now - reassembly.createdAt < 10 }

def probeDue (transport : UdpTransport) (session : Session) : Option Endpoint :=
  if session.viaRelay ∧ capDirectRouteRecovery ∈ session.capabilities ∧
      now - (transport.lastDirectProbe.get? session.peerId).getD 0 ≥ directProbeInterval ∧
      ¬ (transport.punchingAttempt session.peerId).any (!·.viaRelay) then
    transport.directCandidates.get? session.peerId
  else none

/-- PING, and a direct probe when one is due. -/
def keepAlive (session : Session) (token : Nat) : Handling PUnit := do
  sendAuthenticated settings session .ping token
  let transport ← read
  match transport.probeDue now session with
  | none => pure ⟨⟩
  | some direct =>
      change fun transport =>
        { transport with lastDirectProbe := transport.lastDirectProbe.set session.peerId now }
      let _ ← startAttempt settings now session.peerId (direct, false)

def keepAliveConfirmed (session : Session) (token : Nat) : Handling PUnit := do
  let transport ← read
  if transport.confirmed session then keepAlive settings now session token else pure ⟨⟩

def visitActive (session : Session) (token : Nat) : Handling PUnit := do
  let transport ← read
  let status := transport.statusOf session
  if !status.confirmed ∧ now - session.createdAt > 10 then change (·.removeSession session)
  else if now - status.lastSeen > sessionTimeout then do
    change (·.removeSession session)
    callback (.onDisconnected session.peerId session.sessionId)
  else do
    keepAliveConfirmed settings now session token
    change (·.sweep now session)

def visitRetiring (session : Session) (expiresAt : Time) : Handling PUnit :=
  if now ≥ expiresAt then do
    change (·.removeSession session)
    callback (.onDisconnected session.peerId session.sessionId)
  else change (·.sweep now session)

def expireExpected (transport : UdpTransport) : UdpTransport :=
  { transport with
    expectedEndpoints := transport.expectedEndpoints.filter fun peerId value =>
      now - value.2 < expectedPeerTimeout || transport.sessions.contains peerId }

/-- The end of a tick, which does not yield: old pending sessions and expected
endpoints go. -/
def finishTick (transport : UdpTransport) : UdpTransport :=
  (removeSessions (transport.pendingList.filter fun session => now - session.createdAt > 10) transport).expireExpected now

/-- Run one piece of the maintenance task; an exception ends the task. -/
def maintain (piece : Handling PUnit) (following : Maintenance) (transport : UdpTransport) : UdpTransport :=
  match piece transport with
  | (.ok _, next) => { next with maintenance := following }
  | (.error _, next) => { next with maintenance := .ended }

/-- One piece of `_maintenance_loop`; `now` is read when a tick begins. -/
def maintenanceStep (token : Nat) (transport : UdpTransport) : Option UdpTransport :=
  match transport.maintenance with
  | .asleep => some { transport with maintenance := .active now transport.sessions.values }
  | .active at_ (session :: rest) =>
      some (maintain (visitActive settings at_ session token) (.active at_ rest) transport)
  | .active at_ [] => some { transport with maintenance := .retiring at_ transport.retiringSessions.values }
  | .retiring at_ ((session, expiresAt) :: rest) =>
      some (maintain (visitRetiring at_ session expiresAt) (.retiring at_ rest) transport)
  | .retiring at_ [] => some { transport.finishTick at_ with maintenance := .asleep }
  | .ended => none

/-- One step of a running punch loop, which ends by an exception of its sends,
by its own return, or after its last round. -/
def punchStep (serial : Nat) (transport : UdpTransport) : Option UdpTransport :=
  (transport.punching.get? serial).map fun punch =>
    let ended (transport : UdpTransport) := { transport with punching := transport.punching.erase serial }
    match punch.remaining with
    | remaining + 1 =>
        match punchRound settings punch.attempt transport with
        | (.ok true, next) =>
            { next with punching := next.punching.set serial { punch with remaining } }
        | (_, next) => ended next
    | 0 => ended ((punchExhausted settings now punch.attempt).finish transport)

inductive TransportEvent where
  | datagramReceived (datagram : Datagram) (route : Route)
  | punch (serial : Nat)
  | maintenance (token : Nat)
  | expectPeer (peerId : PeerId) (endpoint : Endpoint)
  | expectDerpPeer (peerId : PeerId)
  | configureDerp (sender serverEnabled : Bool)
  | clearDirectCandidate (peerId : PeerId)
  | forgetCandidate (peerId : PeerId)
  | sendPacket (call : Nat) (peerId : PeerId) (packet : Packet) (messageId : Nat) (nonces : Nat → Bytes)
  | sendRound (call : Nat)

/-- `datagram_received` after the size and magic checks. -/
def datagramReceived (datagram : Datagram) (route : Route) : Handling PUnit :=
  if settings.forceRelay ∧ !route.2 then pure ⟨⟩
  else
    match datagram with
    | .empty => pure ⟨⟩
    | .hello hello => handleHello settings now hello route
    | .data header ciphertext => handleData settings now header ciphertext route
    | .authenticated header tag =>
        if header.type = .ack then handleAck settings now header tag route
        else handleKeepalive settings now header tag route

/-- One event of the transport at a clock reading.  Exceptions are logged by
the caller, so what the handler did before raising stays. -/
def step (transport : UdpTransport) : Time × TransportEvent → Option UdpTransport
  | (now, .datagramReceived datagram route) => some ((datagramReceived settings now datagram route).finish transport)
  | (now, .punch serial) => punchStep settings now serial transport
  | (now, .maintenance token) => maintenanceStep settings now token transport
  | (now, .expectPeer peerId endpoint) => some ((expectPeer settings now peerId endpoint).finish transport)
  | (now, .expectDerpPeer peerId) => some ((expectDerpPeer settings now peerId).finish transport)
  | (_, .configureDerp sender serverEnabled) => some (transport.configureDerp sender serverEnabled)
  | (_, .clearDirectCandidate peerId) => some (transport.clearDirectCandidate peerId)
  | (_, .forgetCandidate peerId) => some (transport.forgetCandidate peerId)
  | (_, .sendPacket call peerId packet messageId nonces) =>
      if transport.sending.contains call then none
      else some ((sendPacket settings call peerId packet messageId nonces).finish transport)
  | (_, .sendRound call) =>
      (transport.sending.get? call).map fun sending => (sendRound call sending).finish transport

end UdpTransport

end MeshTalk.Udp
