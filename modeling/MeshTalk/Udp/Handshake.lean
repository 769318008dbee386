import MeshTalk.Udp.Transport

namespace MeshTalk.Udp

open MeshTalk.Library MeshTalk.Protocol Handler

/-! # Attempts, HELLO and the authenticated control datagrams

Each handler is the code between two suspension points; `now` is the clock
reading it uses.
-/

abbrev Handling (α : Type) := Handler UdpTransport Failure α

namespace UdpTransport

variable (settings : Settings) (now : Time)

def makeHello (attempt : Attempt) : Hello :=
  let unsigned : Hello := {
    capabilities := settings.capabilities
    peerId := settings.peerId
    displayName := settings.displayName
    signingPublicKey := settings.signingPublicKey
    encryptionPublicKey := settings.encryptionPublicKey
    sessionPublicKey := settings.crypto.sessionPublicKey attempt.privateKey
    nonce := attempt.nonce
    unread := []
    signature := [] }
  { unsigned with signature := settings.crypto.sign (settings.crypto.canonical unsigned) }

/-- `_send_route`; a relayed datagram is handed to the relay's sender. -/
def sendRoute (datagram : Datagram) (route : Route) : Handling PUnit := do
  let transport ← read
  refuse (route.2 ∧ (!transport.derpSender || !transport.derpPeers.contains route.1))
    (.connection "DERP relay is not available")
  change fun transport => { transport with sent := transport.sent ++ [(datagram, route)] }

def sendAuthenticated (session : Session) (type : AuthenticatedType) (token : Nat) : Handling PUnit :=
  let header : AuthHeader := { type, sessionId := session.sessionId, token }
  sendRoute (.authenticated header (settings.crypto.tag session.transmitAuthenticationKey header)) session.route

def newAttempt (serial : Nat) (peerId : PeerId) (route : Route) : Attempt where
  serial := serial
  peerId := peerId
  endpoint := route.1
  viaRelay := route.2
  privateKey := settings.crypto.randomKey serial
  nonce := settings.crypto.randomNonce serial
  hello := none
  createdAt := now

/-- `_start_attempt`.  Without a relay sender a relayed attempt is returned but
neither stored nor run. -/
def startAttempt (peerId : PeerId) (route : Route) : Handling Attempt := do
  let transport ← read
  let attempt := newAttempt settings now transport.nextAttempt peerId route
  if route.2 ∧ !transport.derpSender then
    change fun transport => { transport with nextAttempt := transport.nextAttempt + 1 }
    return attempt
  else
    refuse (!transport.attempts.contains peerId ∧ transport.attempts.size ≥ maxAttempts)
      (.value "Too many concurrent UDP punch attempts")
    let attempt := { attempt with hello := some (makeHello settings attempt) }
    change fun transport =>
      let replaced := transport.popAttempt peerId
      { replaced with
        nextAttempt := transport.nextAttempt + 1
        attempts := transport.attempts.set peerId attempt
        punching := replaced.punching.set attempt.serial { attempt, remaining := punchRounds } }
    return attempt

def sendHello (hello : Option Hello) (route : Route) : Handling PUnit :=
  sendRoute (hello.elim .empty .hello) route

/-- The checks of a HELLO that look at nothing but the HELLO. -/
def wellFormedHello (hello : Hello) : Handling PUnit := do
  refuse (hello.peerId ≠ settings.crypto.fingerprint hello.signingPublicKey)
    (.value "UDP handshake identity mismatch")
  refuse (validateCapabilities hello.capabilities = none) (.value "Invalid handshake capability")
  refuse (hello.signingPublicKey.length ≠ 32 ∨ hello.encryptionPublicKey.length ≠ 32 ∨
      hello.sessionPublicKey.length ≠ 32 ∨ hello.nonce.length ≠ 32 ∨ hello.signature.length ≠ 64)
    (.value "Invalid UDP handshake key length")

def matchesDirect (transport : UdpTransport) (peerId : PeerId) (route : Route) : Bool :=
  (transport.expectedEndpoints.get? peerId).any fun direct => direct.1.1 = route.1.1

def matchesRelay (transport : UdpTransport) (peerId : PeerId) (route : Route) : Bool :=
  transport.derpCandidates.get? peerId = some route.1

def introduced (transport : UdpTransport) (peerId : PeerId) : Bool :=
  transport.expectedEndpoints.contains peerId || transport.derpCandidates.contains peerId

/-- A HELLO from a direct route for a peer whose confirmed session is relayed. -/
def recoversDirectRoute (transport : UdpTransport) (peerId : PeerId) (route : Route) : Bool :=
  !route.2 && (transport.confirmedActive peerId).any (·.viaRelay)

/-- The checks of a HELLO up to its signature.  The endpoint of an introduced
peer is updated before the signature is verified. -/
def authenticateHello (hello : Hello) (route : Route) : Handling PUnit := do
  wellFormedHello settings hello
  let transport ← read
  refuse (transport.introduced hello.peerId ∧ !(transport.matchesDirect hello.peerId route ||
      transport.matchesRelay hello.peerId route))
    (.value "UDP handshake source does not match an introduced endpoint")
  change fun transport =>
    if !route.2 && transport.matchesDirect hello.peerId route then
      { transport with expectedEndpoints := transport.expectedEndpoints.set hello.peerId (route.1, now) }
    else transport
  refuse (transport.recoversDirectRoute hello.peerId route ∧
      capDirectRouteRecovery ∉ intersectCapabilities settings.capabilities hello.capabilities)
    (.value "Direct route recovery is not jointly supported")
  refuse (!settings.crypto.verify hello.signingPublicKey hello.signature (settings.crypto.canonical hello))
    (.value "Invalid UDP handshake signature")

def sameHandshake (hello : Hello) (session : Session) : Bool :=
  session.remoteNonce = hello.nonce && session.remoteSessionPublicKey = hello.sessionPublicKey

/-- The session a HELLO is compared with: the one on its route, unless it
repeats the handshake of a pending replacement there. -/
def currentFor (transport : UdpTransport) (hello : Hello) (route : Route) : Option Session :=
  match (transport.pendingOf hello.peerId).get? route with
  | some pending =>
      if sameHandshake hello pending then some pending else transport.sessionForRoute hello.peerId route
  | none => transport.sessionForRoute hello.peerId route

/-- A repeat of a known handshake: READY alone once confirmed, HELLO and READY
a bounded number of times before. -/
def answerRepeat (current : Session) (route : Route) : Handling PUnit := do
  let transport ← read
  let status := transport.statusOf current
  if status.confirmed then sendAuthenticated settings current .ready 0
  else if status.helloReplies ≥ maxUnconfirmedHelloReplies then pure ⟨⟩
  else
    change (·.updateStatus current fun status => { status with helloReplies := status.helloReplies + 1 })
    sendHello current.localHello route
    sendAuthenticated settings current .ready 0

/-- A handshake for which a session is about to be built. -/
structure Opening where
  hello : Hello
  route : Route
  current : Option Session
  attempt : Attempt
  material : Bytes
  sessionId : SessionId

def attemptFor (hello : Hello) (route : Route) : Handling Attempt := do
  let transport ← read
  match transport.attempts.get? hello.peerId with
  | some attempt =>
      if (attempt.endpoint, attempt.viaRelay) = route then return attempt
      else startAttempt settings now hello.peerId route
  | none => startAttempt settings now hello.peerId route

def sessionSalt (hello : Hello) (attempt : Attempt) : Bytes :=
  if settings.peerId < hello.peerId then attempt.nonce ++ hello.nonce else hello.nonce ++ attempt.nonce

def sessionIdOf (material : Bytes) : SessionId :=
  (settings.crypto.digest (material ++ "session-id".toUTF8.toList)).take 8

/-- Answer with the own HELLO and derive the session's key material; `none`
where the session compared with already has the derived id. -/
def deriveSession (hello : Hello) (route : Route) (current : Option Session) : Handling (Option Opening) := do
  let attempt ← attemptFor settings now hello route
  sendHello attempt.hello route
  let shared ← orRaise (settings.crypto.exchange attempt.privateKey hello.sessionPublicKey)
    (.value "Error computing shared key.")
  let material := settings.crypto.derive shared (sessionSalt settings hello attempt)
  let sessionId := sessionIdOf settings material
  match current.filter (·.sessionId = sessionId) with
  | some known => do
      sendAuthenticated settings known .ready 0
      return none
  | none => return some { hello, route, current, attempt, material, sessionId }

/-- Everything `_handle_hello` does before it creates a session; `none` where
it returns without creating one. -/
def admitHello (hello : Hello) (route : Route) : Handling (Option Opening) := do
  authenticateHello settings now hello route
  let transport ← read
  match (transport.currentFor hello route).filter (sameHandshake hello) with
  | some repeated => do
      answerRepeat settings repeated route
      return none
  | none => deriveSession settings now hello route (transport.currentFor hello route)

def newSession (serial : Nat) (opening : Opening) (displayName : String) : Session :=
  let hello := opening.hello
  let part (index : Nat) := (opening.material.drop (32 * index)).take 32
  let localFirst : Bool := settings.peerId < hello.peerId
  { serial
    peerId := hello.peerId
    endpoint := opening.route.1
    viaRelay := opening.route.2
    sessionId := opening.sessionId
    transmitEncryptionKey := if localFirst then part 0 else part 2
    receiveEncryptionKey := if localFirst then part 2 else part 0
    transmitAuthenticationKey := if localFirst then part 1 else part 3
    receiveAuthenticationKey := if localFirst then part 3 else part 1
    displayName
    encryptionPublicKey := hello.encryptionPublicKey
    signingPublicKey := hello.signingPublicKey
    localHello := opening.attempt.hello
    remoteNonce := hello.nonce
    remoteSessionPublicKey := hello.sessionPublicKey
    capabilities := intersectCapabilities settings.capabilities hello.capabilities
    remoteCapabilities := sortCapabilities hello.capabilities
    peerMissingCapabilities := capabilityDifference settings.capabilities hello.capabilities
    localMissingCapabilities := capabilityDifference hello.capabilities settings.capabilities
    createdAt := now }

/-- An unconfirmed session on the route makes way for the new one. -/
def dropUnconfirmed (transport : UdpTransport) (current : Option Session) : UdpTransport :=
  match current with
  | some current => if transport.confirmed current then transport else transport.removeSession current
  | none => transport

/-- Beside a confirmed active session the new one waits as pending until READY
proves key possession; otherwise it becomes the active one. -/
def addSession (transport : UdpTransport) (session : Session) : UdpTransport :=
  let created := { transport with toSessionTables := transport.toSessionTables.create session }
  let held :=
    if (created.confirmedActive session.peerId).isSome then
      let cleared :=
        match (created.pendingOf session.peerId).get? session.route with
        | some stale => created.removeSession stale
        | none => created
      { cleared with toSessionTables := cleared.toSessionTables.addPending session }
    else { created with toSessionTables := created.toSessionTables.addActive session }
  { held with toSessionTables := held.toSessionTables.list session }

def installSession (opening : Opening) : Handling PUnit := do
  let transport ← read
  refuse (transport.sessionsById.size ≥ maxSessions) (.value "Too many UDP sessions")
  change fun transport => transport.dropUnconfirmed opening.current
  let displayName ← orRaise (normalizeDisplayName opening.hello.displayName) (.value "display_name")
  let session := newSession settings now transport.nextSession opening displayName
  change fun transport => transport.addSession session
  sendAuthenticated settings session .ready 0

/-- `_handle_hello`. -/
def handleHello (hello : Hello) (route : Route) : Handling PUnit := do
  match ← admitHello settings now hello route with
  | none => pure ⟨⟩
  | some opening => installSession settings now opening

/-- `_session_for`. -/
def sessionFor (sessionId : SessionId) (route : Route) (requireConfirmation : Bool) : Handling Session := do
  let transport ← read
  let session ← orRaise ((transport.sessionsById.get? sessionId).filter fun session => session.route = route)
    (.value "Unknown UDP session")
  refuse (requireConfirmation ∧ !transport.confirmed session)
    (.value "UDP session is not confirmed")
  return session

def authenticated (session : Session) (header : AuthHeader) (tag : Bytes) : Handling PUnit :=
  refuse (tag ≠ settings.crypto.tag session.receiveAuthenticationKey header)
    (.value "Invalid UDP keepalive authentication")

def callback (callback : Callback) : Handling PUnit :=
  change fun transport => { transport with callbacks := transport.callbacks ++ [callback] }

def confirm (transport : UdpTransport) (session : Session) : UdpTransport :=
  transport.updateStatus session fun status => { status with confirmed := true, lastSeen := now }

/-- The first READY of a session confirms it, ends the peer's attempt and makes
the session the active one. -/
def confirmSession (session : Session) : Handling PUnit := do
  change fun transport => ((transport.confirm now session).popAttempt session.peerId).promoteSession session now
  sendAuthenticated settings session .ready 0

def confirmOnce (session : Session) : Handling PUnit := do
  let transport ← read
  if transport.confirmed session then pure ⟨⟩ else confirmSession settings now session

/-- Tell the owner of the session if it is still the active one. -/
def notifyConnected (session : Session) : Handling PUnit := do
  change (·.updateStatus session fun status => { status with connectedNotified := true })
  let transport ← read
  if transport.sessions.get? session.peerId = some session then callback (.dispatchConnected session)
  else pure ⟨⟩

def notifyOnce (session : Session) : Handling PUnit := do
  let transport ← read
  if (transport.statusOf session).connectedNotified then pure ⟨⟩ else notifyConnected session

def handleReady (session : Session) : Handling PUnit := do
  confirmOnce settings now session
  notifyOnce session

def touch (transport : UdpTransport) (session : Session) : UdpTransport :=
  transport.updateStatus session fun status => { status with lastSeen := now }

def handleGoodbye (session : Session) : Handling PUnit := do
  let transport ← read
  change fun transport => transport.removeSession session
  if transport.sessions.get? session.peerId = some session then
    callback (.onDisconnected session.peerId session.sessionId)
  else pure ⟨⟩

/-- `_handle_keepalive`. -/
def handleKeepalive (header : AuthHeader) (tag : Bytes) (route : Route) : Handling PUnit := do
  let session ← sessionFor header.sessionId route false
  authenticated settings session header tag
  if header.type = .ready then handleReady settings now session
  else
    let transport ← read
    refuse (!transport.confirmed session) (.value "UDP session is not confirmed")
    change fun transport => transport.touch now session
    match header.type with
    | .ping => sendAuthenticated settings session .pong header.token
    | .goodbye => handleGoodbye session
    | .pong | .ack | .ready => pure ⟨⟩

def sendReady (session : Option Session) : Handling PUnit :=
  match session with
  | some session => sendAuthenticated settings session .ready 0
  | none => pure ⟨⟩

/-- One round of `_punch_loop`; the value tells whether the loop goes on. -/
def punchRound (attempt : Attempt) : Handling Bool := do
  let transport ← read
  let route : Route := (attempt.endpoint, attempt.viaRelay)
  let session := transport.sessions.get? attempt.peerId
  let onRoute := session.filter fun session => session.route = route
  if transport.attempts.get? attempt.peerId ≠ some attempt ∨
      onRoute.any (fun session => transport.confirmed session) then
    return false
  else
    sendHello attempt.hello route
    sendReady settings onRoute
    return true

/-- Forget the peer's attempt together with a session it left unconfirmed. -/
def abandonAttempt (transport : UdpTransport) (peerId : PeerId) : UdpTransport :=
  let popped := { transport with attempts := transport.attempts.erase peerId }
  match popped.sessions.get? peerId with
  | some session => if popped.confirmed session then popped else popped.removeSession session
  | none => popped

def relayFallback (attempt : Attempt) (confirmed : Option Session) : Handling PUnit := do
  let transport ← read
  match transport.derpCandidates.get? attempt.peerId with
  | some endpoint =>
      if !attempt.viaRelay ∧ transport.derpSender ∧ confirmed = none then do
        let _ ← startAttempt settings now attempt.peerId (endpoint, true)
      else pure ⟨⟩
  | none => pure ⟨⟩

/-- The end of `_punch_loop` after its last round, with the fallback to the relay. -/
def punchExhausted (attempt : Attempt) : Handling PUnit := do
  let transport ← read
  if transport.attempts.get? attempt.peerId = some attempt then
    change (·.abandonAttempt attempt.peerId)
    relayFallback settings now attempt (transport.confirmedActive attempt.peerId)
  else pure ⟨⟩

end UdpTransport

end MeshTalk.Udp
