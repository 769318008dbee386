import MeshTalk.Library.Dict
import MeshTalk.Library.Handler
import MeshTalk.Protocol.Handshake
import Mathlib.Logic.Function.Basic

namespace MeshTalk.Udp

open MeshTalk.Library MeshTalk.Protocol

/-! # State of the UDP transport

Objects that the source compares with `is` carry a serial number drawn at
construction.  A session value holds what its constructor fixes; the attributes
that handlers assign later are kept in `status` under the serial number, so all
maps that hold one session see the same attributes.
-/

def fragmentSize : Nat := 950
def maxFragments : Nat := (maxPacketSize + headerSize + fragmentSize - 1) / fragmentSize
def maxRetries : Nat := 10
def sessionTimeout : Time := 12
def directProbeInterval : Time := 30
def expectedPeerTimeout : Time := 600
def maxExpectedPeers : Nat := 512
def maxAttempts : Nat := 128
def maxUnconfirmedHelloReplies : Nat := 4
def maxSessions : Nat := 256
def maxReassemblies : Nat := 32
def maxPending : Nat := 64
def punchRounds : Nat := 20

/-- Endpoint and whether it is reached through the relay. -/
abbrev Route := Endpoint × Bool

structure Attempt where
  serial : Nat
  peerId : PeerId
  endpoint : Endpoint
  viaRelay : Bool
  privateKey : Bytes
  nonce : Bytes
  hello : Option Hello
  createdAt : Time
deriving DecidableEq

structure Reassembly where
  count : Nat
  createdAt : Time
  fragments : Dict Nat Bytes

structure Session where
  serial : Nat
  peerId : PeerId
  endpoint : Endpoint
  viaRelay : Bool
  sessionId : SessionId
  transmitEncryptionKey : Bytes
  receiveEncryptionKey : Bytes
  transmitAuthenticationKey : Bytes
  receiveAuthenticationKey : Bytes
  displayName : String
  encryptionPublicKey : Bytes
  signingPublicKey : Bytes
  localHello : Option Hello
  remoteNonce : Bytes
  remoteSessionPublicKey : Bytes
  capabilities : List String
  remoteCapabilities : List String
  peerMissingCapabilities : List String
  localMissingCapabilities : List String
  createdAt : Time
deriving DecidableEq

/-- `_route_key`. -/
def Session.route (session : Session) : Route := (session.endpoint, session.viaRelay)

structure SessionStatus where
  confirmed : Bool
  connectedNotified : Bool
  helloReplies : Nat
  lastSeen : Time
  reassemblies : Dict Nat Reassembly
  seen : Dict Nat Time

def SessionStatus.fresh (now : Time) : SessionStatus where
  confirmed := false
  connectedNotified := false
  helloReplies := 0
  lastSeen := now
  reassemblies := ∅
  seen := ∅

/-- The four maps of `_sessions*` and the attributes of the sessions in them. -/
structure SessionTables where
  sessions : Dict PeerId Session
  pendingSessions : Dict PeerId (Dict Route Session)
  retiringSessions : Dict SessionId (Session × Time)
  sessionsById : Dict SessionId Session
  status : Nat → SessionStatus
  nextSession : Nat

namespace SessionTables

variable (tables : SessionTables)

def statusOf (session : Session) : SessionStatus := tables.status session.serial

def setStatus (session : Session) (status : SessionStatus) : SessionTables :=
  { tables with status := Function.update tables.status session.serial status }

def pendingOf (peerId : PeerId) : Dict Route Session := (tables.pendingSessions.get? peerId).getD ∅

/-- Erase one route from the peer's pending sessions, and the peer's map with
its last route. -/
def popPending (peerId : PeerId) (route : Route) : SessionTables :=
  match tables.pendingSessions.get? peerId with
  | none => tables
  | some pending =>
      let remaining := pending.erase route
      { tables with
        pendingSessions :=
          if remaining.size = 0 then tables.pendingSessions.erase peerId
          else tables.pendingSessions.set peerId remaining }

def deactivate (session : Session) : SessionTables :=
  { tables with
    sessions :=
      if tables.sessions.get? session.peerId = some session then tables.sessions.erase session.peerId
      else tables.sessions }

def unlist (session : Session) : SessionTables :=
  { tables with sessionsById := tables.sessionsById.erase session.sessionId }

def unpend (session : Session) : SessionTables :=
  if (tables.pendingOf session.peerId).get? session.route = some session then
    tables.popPending session.peerId session.route
  else tables

def unretire (session : Session) : SessionTables :=
  { tables with retiringSessions := tables.retiringSessions.erase session.sessionId }

/-- `_remove_session` but for the relay routing it may release. -/
def remove (session : Session) : SessionTables :=
  (((tables.deactivate session).unlist session).unpend session).unretire session

/-- An active, pending or retiring session of the peer on the route. -/
def sessionForRoute (peerId : PeerId) (route : Route) : Option Session :=
  ((tables.sessions.get? peerId).filter fun active => active.route = route).or <|
    ((tables.pendingOf peerId).get? route).or <|
      (tables.retiringSessions.values.find? fun entry =>
        entry.1.peerId = peerId && entry.1.route = route).map Prod.fst

def confirmed (session : Session) : Bool := (tables.statusOf session).confirmed

def retire (active : Session) (now : Time) : SessionTables :=
  { tables with
    retiringSessions := tables.retiringSessions.set active.sessionId (active, now + sessionTimeout) }

/-- Make room for a new active session of the peer. -/
def vacate (peerId : PeerId) (now : Time) : SessionTables :=
  match tables.sessions.get? peerId with
  | none => tables
  | some active => if tables.confirmed active then tables.retire active now else tables.remove active

/-- Make a pending session the active one of its peer. -/
def activate (session : Session) : SessionTables :=
  { tables with sessions := tables.sessions.set session.peerId session }.popPending session.peerId session.route

/-- `_promote_session` but for the relay routing it may release. -/
def promote (session : Session) (now : Time) : SessionTables :=
  if tables.sessions.get? session.peerId = some session then tables
  else (tables.vacate session.peerId now).activate session

/-- Pending sessions of every peer, in the order a tick visits them. -/
def pendingList : List Session := tables.pendingSessions.values.flatMap Dict.values

/-- A new session object; nothing refers to it yet. -/
def create (session : Session) : SessionTables :=
  { tables with
    nextSession := tables.nextSession + 1
    status := Function.update tables.status session.serial (.fresh session.createdAt) }

def list (session : Session) : SessionTables :=
  { tables with sessionsById := tables.sessionsById.set session.sessionId session }

def confirmedActive (peerId : PeerId) : Option Session :=
  (tables.sessions.get? peerId).filter fun active => tables.confirmed active

/-- Hold a new session beside the confirmed active one until READY proves key
possession. -/
def addPending (session : Session) : SessionTables :=
  { tables with
    pendingSessions := tables.pendingSessions.set session.peerId
      ((tables.pendingOf session.peerId).set session.route session) }

def addActive (session : Session) : SessionTables :=
  { tables with sessions := tables.sessions.set session.peerId session }

/-- The new session takes the place of a pending one on its route. -/
def replacePending (session : Session) : SessionTables :=
  match (tables.pendingOf session.peerId).get? session.route with
  | some stale => (tables.remove stale).addPending session
  | none => tables.addPending session

/-- Put a new session under the maps, but for the relay routing that removing a
stale one may release. -/
def add (session : Session) : SessionTables :=
  let created := tables.create session
  let held :=
    if (created.confirmedActive session.peerId).isSome then created.replacePending session
    else created.addActive session
  held.list session

end SessionTables

/-- A packet reassembled on a session.  The owner is given the packet and the
peer of the session; the message id only tells one delivery from another. -/
structure Delivery where
  session : Session
  messageId : Nat
  packet : Packet
deriving DecidableEq

/-- What the transport hands to the event loop for its owner. -/
inductive Callback where
  | dispatchConnected (session : Session)
  | onDisconnected (peerId : PeerId) (sessionId : SessionId)
  | onPacket (delivery : Delivery)
deriving DecidableEq

/-- Where the maintenance task stands: asleep, part way through one of the
lists a tick has copied, or ended by an exception. -/
inductive Maintenance where
  | asleep
  | active (now : Time) (rest : List Session)
  | retiring (now : Time) (rest : List (Session × Time))
  | ended

def Maintenance.running : Maintenance → Bool
  | .ended => false
  | .asleep | .active .. | .retiring .. => true

structure Punch where
  attempt : Attempt
  remaining : Nat

/-- A `send_packet` call waiting for its acknowledgement. -/
structure Sending where
  session : Session
  messageId : Nat
  datagrams : List Datagram
  remaining : Nat
  acknowledged : Bool

/-- `ValueError` and `ConnectionError`; callers tell the two apart. -/
inductive Failure where
  | value (text : String)
  | connection (text : String)
deriving DecidableEq, Repr

structure UdpTransport extends SessionTables where
  relayEnabled : Bool
  attempts : Dict PeerId Attempt
  expectedEndpoints : Dict PeerId (Endpoint × Time)
  derpCandidates : Dict PeerId Endpoint
  derpPeers : Dict Endpoint PeerId
  derpSender : Bool
  directCandidates : Dict PeerId Endpoint
  lastDirectProbe : Dict PeerId Time
  forgottenRelays : Dict PeerId Unit
  /-- Running punch loops by the serial number of their attempt. -/
  punching : Dict Nat Punch
  sending : Dict Nat Sending
  /-- The call that waits for an acknowledgement of a session and message id. -/
  pending : Dict (SessionId × Nat) Nat
  maintenance : Maintenance
  nextAttempt : Nat
  sent : List (Datagram × Route)
  callbacks : List Callback
  /-- Every packet marked as seen so far, for statements about deliveries. -/
  completed : List Delivery

def UdpTransport.initial : UdpTransport where
  relayEnabled := true
  attempts := ∅
  expectedEndpoints := ∅
  derpCandidates := ∅
  derpPeers := ∅
  derpSender := false
  directCandidates := ∅
  lastDirectProbe := ∅
  forgottenRelays := ∅
  sessions := ∅
  pendingSessions := ∅
  retiringSessions := ∅
  sessionsById := ∅
  status := fun _ => .fresh 0
  punching := ∅
  sending := ∅
  pending := ∅
  maintenance := .asleep
  nextSession := 0
  nextAttempt := 0
  sent := []
  callbacks := []
  completed := []

/-- What `__init__` fixes: the own identity, the advertised capabilities and
whether direct remote UDP is disabled. -/
structure Settings where
  crypto : Crypto
  peerId : PeerId
  displayName : String
  signingPublicKey : Bytes
  encryptionPublicKey : Bytes
  capabilities : List String
  forceRelay : Bool
  /-- Whether `ipaddress.ip_address` accepts a host. -/
  isAddress : String → Bool

namespace UdpTransport

variable (transport : UdpTransport)

/-- Whether some active or retiring session of the peer uses the relay. -/
def relayInUse (peerId : PeerId) : Bool :=
  (transport.sessions.get? peerId).any (·.viaRelay) ||
    transport.retiringSessions.values.any fun entry => entry.1.peerId = peerId && entry.1.viaRelay

def dropRelayRouting (peerId : PeerId) : UdpTransport :=
  let cleared := { transport with forgottenRelays := transport.forgottenRelays.erase peerId }
  match transport.derpCandidates.get? peerId with
  | none => cleared
  | some endpoint =>
      { cleared with
        derpCandidates := cleared.derpCandidates.erase peerId
        derpPeers :=
          if cleared.derpPeers.get? endpoint = some peerId then cleared.derpPeers.erase endpoint
          else cleared.derpPeers }

def releaseForgottenRelay (peerId : PeerId) : UdpTransport :=
  if !transport.forgottenRelays.contains peerId then transport
  else if transport.relayInUse peerId then transport
  else transport.dropRelayRouting peerId

/-- `_remove_session`. -/
def removeSession (session : Session) : UdpTransport :=
  { transport with toSessionTables := transport.toSessionTables.remove session }.releaseForgottenRelay
    session.peerId

def removeSessions : List Session → UdpTransport → UdpTransport
  | [], transport => transport
  | session :: rest, transport => removeSessions rest (transport.removeSession session)

/-- The part of `_promote_session` that makes room for the new active session. -/
def vacateActive (peerId : PeerId) (now : Time) : UdpTransport :=
  match transport.sessions.get? peerId with
  | none => transport
  | some active =>
      if transport.confirmed active then
        { transport with toSessionTables := transport.toSessionTables.retire active now }
      else transport.removeSession active

/-- `_promote_session`. -/
def promoteSession (session : Session) (now : Time) : UdpTransport :=
  if transport.sessions.get? session.peerId = some session then transport
  else
    let vacated := transport.vacateActive session.peerId now
    { vacated with toSessionTables := vacated.toSessionTables.activate session }

/-- Replace the attributes of a session. -/
def updateStatus (session : Session) (update : SessionStatus → SessionStatus) : UdpTransport :=
  { transport with
    toSessionTables := transport.toSessionTables.setStatus session (update (transport.statusOf session)) }

/-- Cancel the peer's attempt, if any, and forget it. -/
def popAttempt (peerId : PeerId) : UdpTransport :=
  match transport.attempts.get? peerId with
  | none => transport
  | some attempt =>
      { transport with
        attempts := transport.attempts.erase peerId
        punching := transport.punching.erase attempt.serial }

end UdpTransport

end MeshTalk.Udp
