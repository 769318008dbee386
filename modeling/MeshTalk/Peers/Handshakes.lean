import MeshTalk.Tcp.Derivation
import MeshTalk.Udp.Exchange

namespace MeshTalk.Peers

open MeshTalk.Library MeshTalk.Protocol MeshTalk.Tcp Handler

/-! # The handshake of a LAN connection

The two sides of a handshake up to the session they derive, in the pieces between
the packets they wait for.
-/

/-- The local identity and the capabilities it advertises. -/
structure LanIdentity where
  peerId : PeerId
  signingPublicKey : Bytes
  encryptionPublicKey : Bytes
  displayName : String
  capabilities : List String
  sign : Bytes → Bytes

/-- The fields of a `PeerConnection` that a handshake reads or writes; the id is
empty while the peer is not known. -/
structure LanConnection where
  peerId : PeerId
  displayName : String
  signingPublicKey : Option Bytes
  encryptionPublicKey : Option Bytes
  capabilities : List String
  remoteCapabilities : Option (List String)
  peerMissingCapabilities : List String
  localMissingCapabilities : List String
  tcpHandshakePrivateKey : Option Bytes
  tcpHandshakeNonce : Option Bytes
  tcpLocalHandshake : Option HandshakePayload
  tcpRemoteHandshake : Option HandshakePayload
  tcpSession : Option TcpSession

/-- A private key and a nonce drawn for a connection that has none. -/
structure Draw where
  privateKey : Bytes
  nonce : Bytes

def LanConnection.privateKeyOr (connection : LanConnection) (drawn : Draw) : Bytes :=
  connection.tcpHandshakePrivateKey.getD drawn.privateKey

abbrev LanHandling (α : Type) := Handler LanConnection TcpFailure α

section Handshake

variable (crypto : LanCrypto) (identity : LanIdentity)

/-- The payload of `_handshake_payload`, signed. -/
def signedPayload (challenge privateKey nonce : Bytes) : HandshakePayload :=
  let unsigned : HandshakePayload := {
    peerId := identity.peerId
    signingPublicKey := identity.signingPublicKey
    encryptionPublicKey := identity.encryptionPublicKey
    displayName := identity.displayName
    nonce
    challenge
    signature := []
    capabilities := identity.capabilities
    transportVersion := tcpTransportVersion
    sessionPublicKey := crypto.sessionPublicKey privateKey }
  { unsigned with signature := identity.sign (signedBytes crypto unsigned) }

/-- `_handshake_payload`. -/
def handshakePayload (challenge : Bytes) (drawn : Draw) : LanHandling HandshakePayload := do
  let peer ← read
  let privateKey := peer.privateKeyOr drawn
  let nonce := peer.tcpHandshakeNonce.getD drawn.nonce
  change fun peer => { peer with tcpHandshakePrivateKey := some privateKey, tcpHandshakeNonce := some nonce }
  return signedPayload crypto identity challenge privateKey nonce

/-- `_apply_handshake`. -/
def applyHandshake (payload : HandshakePayload) (expectedPeerId : Option PeerId)
    (expectedChallenge : Option Bytes) : LanHandling PUnit := do
  refuse (payload.transportVersion ≠ tcpTransportVersion ∨ payload.sessionPublicKey.length ≠ 32)
    (.payload "Unsupported TCP transport handshake")
  let peerId := crypto.fingerprint payload.signingPublicKey
  refuse (payload.peerId ≠ peerId ∨ expectedPeerId.any fun expected => expected ≠ "" && peerId ≠ expected)
    (.payload "Handshake peer ID does not match signing key")
  refuse (expectedChallenge.any fun expected => payload.challenge ≠ expected) (.payload "Handshake challenge mismatch")
  refuse (!crypto.verify payload.signingPublicKey payload.signature (signedBytes crypto payload))
    (.payload "Invalid handshake signature")
  change fun peer => { peer with peerId }
  let displayName ← orRaise (normalizeDisplayName payload.displayName) (.payload "display_name")
  change fun peer => { peer with
    displayName
    signingPublicKey := some payload.signingPublicKey
    encryptionPublicKey := some payload.encryptionPublicKey
    remoteCapabilities := some (payload.capabilities.mergeSort fun a b => decide (a ≤ b))
    tcpRemoteHandshake := some payload
    capabilities := intersectCapabilities identity.capabilities payload.capabilities
    peerMissingCapabilities := capabilityDifference identity.capabilities payload.capabilities
    localMissingCapabilities := capabilityDifference payload.capabilities identity.capabilities }

/-- `_establish_tcp_session`; the ephemeral key goes whether or not it raises. -/
def establishTcpSession : LanHandling PUnit := do
  let peer ← read
  match peer.tcpHandshakePrivateKey, peer.tcpLocalHandshake, peer.tcpRemoteHandshake with
  | some privateKey, some localHandshake, some remoteHandshake => do
      change fun peer => { peer with tcpHandshakePrivateKey := none, tcpHandshakeNonce := none }
      match TcpSession.derive crypto identity.peerId peer.peerId privateKey localHandshake remoteHandshake with
      | .error failure => raise failure
      | .ok session => change fun peer => { peer with tcpSession := some session }
  | _, _, _ => raise (.payload "Incomplete TCP transport handshake")

/-- `_outbound_handshake` up to its HANDSHAKE. -/
def openHandshake (drawn : Draw) : LanHandling HandshakePayload := do
  let initial ← handshakePayload crypto identity [] drawn
  change fun peer => { peer with tcpLocalHandshake := some initial }
  return initial

/-- `_inbound_handshake` from the HANDSHAKE to its HANDSHAKE_ACK. -/
def answerHandshake (document : Json) (drawn : Draw) : LanHandling HandshakePayload := do
  let initial ← orRaise (HandshakePayload.decode document) (.payload "Invalid handshake")
  applyHandshake crypto identity initial none (some [])
  let acknowledgement ← handshakePayload crypto identity initial.nonce drawn
  change fun peer => { peer with tcpLocalHandshake := some acknowledgement }
  return acknowledgement

/-- `_outbound_handshake` from the HANDSHAKE_ACK to the session. -/
def receiveAcknowledgement (initial : HandshakePayload) (document : Json) : LanHandling PUnit := do
  let acknowledgement ← orRaise (HandshakePayload.decode document) (.payload "Invalid handshake")
  let peer ← read
  applyHandshake crypto identity acknowledgement (some peer.peerId) (some initial.nonce)

end Handshake

variable {crypto : LanCrypto} {identity initiator responder : LanIdentity}
  {peer start other opened answering acknowledged : LanConnection} {payload initial acknowledgement : HandshakePayload}
  {drawn answer : Draw} {document : Json} {challenge shared privateKey : Bytes}

/-- The connection holds the handshake it sent and the key it drew for it. -/
structure Offers (crypto : LanCrypto) (identity : LanIdentity) (privateKey : Bytes) (payload : HandshakePayload)
    (peer : LanConnection) : Prop where
  sent : peer.tcpLocalHandshake = some payload
  key : peer.tcpHandshakePrivateKey = some privateKey
  drawn : payload.sessionPublicKey = crypto.sessionPublicKey privateKey
  named : payload.peerId = identity.peerId

/-- The connection has checked the other side's handshake. -/
structure Accepts (payload : HandshakePayload) (peer : LanConnection) : Prop where
  received : peer.tcpRemoteHandshake = some payload
  named : peer.peerId = payload.peerId

theorem applyHandshake_spec {expectedPeerId : Option PeerId} {expectedChallenge : Option Bytes} :
    Ensures (· = peer) (applyHandshake crypto identity payload expectedPeerId expectedChallenge)
      (fun _ state => Accepts payload state ∧ state.tcpLocalHandshake = peer.tcpLocalHandshake ∧
        state.tcpHandshakePrivateKey = peer.tcpHandshakePrivateKey)
      (fun _ => True) := by
  refine Ensures.bind (Ensures.refuse (Q := fun _ state => state = peer) (fun _ _ _ => trivial) fun _ same _ => same)
    fun _ => Ensures.bind (Ensures.refuse (Q := fun _ state => state = peer ∧
        payload.peerId = crypto.fingerprint payload.signingPublicKey) (fun _ _ _ => trivial) fun _ same passed => ?_)
    fun _ => ?_
  · exact ⟨same, not_not.mp (not_or.mp passed).1⟩
  let Named (state : LanConnection) : Prop := state.peerId = payload.peerId ∧
    state.tcpLocalHandshake = peer.tcpLocalHandshake ∧ state.tcpHandshakePrivateKey = peer.tcpHandshakePrivateKey
  let Fits (state : LanConnection) : Prop := state = peer ∧ payload.peerId = crypto.fingerprint payload.signingPublicKey
  refine Ensures.bind (Ensures.refuse (Q := fun _ => Fits) (fun _ _ _ => trivial) fun _ held _ => held) fun _ =>
    Ensures.bind (Ensures.refuse (Q := fun _ => Fits) (fun _ _ _ => trivial) fun _ held _ => held) fun _ =>
    Ensures.bind (Ensures.change (Q := fun _ => Named) fun state held => ⟨held.2.symm, by rw [held.1], by rw [held.1]⟩)
    fun _ => Ensures.bind (Ensures.orRaise (Q := fun _ => Named) (fun _ _ _ => trivial) fun _ _ held _ => held)
    fun _ => Ensures.change fun state held => ⟨⟨rfl, held.1⟩, held.2⟩

theorem openHandshake_offers (began : openHandshake crypto identity drawn start = (.ok initial, opened)) :
    Offers crypto identity (start.privateKeyOr drawn) initial opened := by
  cases began
  exact ⟨rfl, rfl, rfl, rfl⟩

/-- A side that answers has read the handshake, accepted it and drawn its own. -/
theorem answerHandshake_spec (answered : answerHandshake crypto identity document answer other = (.ok acknowledgement, answering)) :
    ∃ initial, HandshakePayload.decode document = some initial ∧ Accepts initial answering ∧
      Offers crypto identity (other.privateKeyOr answer) acknowledgement answering := by
  have spec : Ensures (· = other) (answerHandshake crypto identity document answer) (fun acknowledgement state =>
      ∃ initial, HandshakePayload.decode document = some initial ∧ Accepts initial state ∧
        Offers crypto identity (other.privateKeyOr answer) acknowledgement state) (fun _ => True) := by
    refine Ensures.bind (Ensures.orRaise (Q := fun initial state => state = other ∧
        HandshakePayload.decode document = some initial) (fun _ _ _ => trivial) fun _ _ same found => ⟨same, found⟩)
      fun initial => ?_
    intro state held
    obtain ⟨rfl, decoded⟩ := held
    refine Ensures.bind applyHandshake_spec (fun _ => ?_) state rfl
    rintro middle ⟨accepts, -, key⟩
    refine ⟨initial, decoded, ⟨accepts.received, accepts.named⟩, rfl, ?_, ?_, rfl⟩
    · simp only [LanConnection.privateKeyOr, key]
    · simp only [signedPayload, LanConnection.privateKeyOr, key]
  have result := spec other rfl
  rw [answered] at result
  exact result

theorem receiveAcknowledgement_spec (offers : Offers crypto identity privateKey initial opened)
    (received : receiveAcknowledgement crypto identity initial document opened = (.ok ⟨⟩, acknowledged)) :
    ∃ acknowledgement, HandshakePayload.decode document = some acknowledgement ∧ Accepts acknowledgement acknowledged ∧
      Offers crypto identity privateKey initial acknowledged := by
  have spec : Ensures (· = opened) (receiveAcknowledgement crypto identity initial document) (fun _ state =>
      ∃ acknowledgement, HandshakePayload.decode document = some acknowledgement ∧ Accepts acknowledgement state ∧
        Offers crypto identity privateKey initial state) (fun _ => True) := by
    refine Ensures.bind (Ensures.orRaise (Q := fun acknowledgement state => state = opened ∧
        HandshakePayload.decode document = some acknowledgement) (fun _ _ _ => trivial) fun _ _ same found => ⟨same, found⟩)
      fun acknowledgement => Ensures.read fun seen held => ?_
    obtain ⟨rfl, decoded⟩ := held
    refine Ensures.weaken applyHandshake_spec (fun _ same => same) (fun _ state held => ?_) fun _ held => held
    obtain ⟨accepts, sent, key⟩ := held
    exact ⟨acknowledgement, decoded, accepts, sent.trans offers.sent, key.trans offers.key, offers.drawn, offers.named⟩
  have result := spec opened rfl
  rw [received] at result
  exact result

theorem establishTcpSession_spec (offers : Offers crypto identity privateKey initial peer)
    (accepts : Accepts acknowledgement peer) (apart : identity.peerId ≠ acknowledgement.peerId)
    (valid : initial.checked = true) (validRemote : acknowledgement.checked = true)
    (agreed : crypto.exchange privateKey acknowledgement.sessionPublicKey = some shared) :
    ∃ final, establishTcpSession crypto identity peer = (.ok ⟨⟩, final) ∧ final.tcpSession =
      some (TcpSession.keyed crypto identity.peerId acknowledgement.peerId initial acknowledgement shared) := by
  have usable : ∀ {payload : HandshakePayload}, payload.checked = true → TcpSession.invalidParameters payload = false := by
    intro payload valid
    simp only [HandshakePayload.checked, Bool.and_eq_true, decide_eq_true_eq] at valid
    simp [TcpSession.invalidParameters, valid]
  have derived := TcpSession.derive_keyed apart offers.named rfl (usable valid) (usable validRemote) agreed
  rw [← accepts.named] at derived ⊢
  refine ⟨{ peer with
    tcpHandshakePrivateKey := none
    tcpHandshakeNonce := none
    tcpSession := some (TcpSession.keyed crypto identity.peerId peer.peerId initial acknowledgement shared) }, ?_, rfl⟩
  simp only [establishTcpSession, bind_apply, Handler.read, offers.key, offers.sent, accepts.received, change, derived]

/-- Each side reads the other's handshake as it was written, and the sessions they
derive from the pair match. -/
theorem lan_sessions_paired (commutes : Commutes crypto.sessionPublicKey crypto.exchange)
    (apart : initiator.peerId ≠ responder.peerId)
    (began : openHandshake crypto initiator drawn start = (.ok initial, opened))
    (answered : answerHandshake crypto responder initial.encode answer other = (.ok acknowledgement, answering))
    (received : receiveAcknowledgement crypto initiator initial acknowledgement.encode opened = (.ok ⟨⟩, acknowledged))
    (agreed : crypto.exchange (start.privateKeyOr drawn) (crypto.sessionPublicKey (other.privateKeyOr answer)) =
      some shared) :
    ∃ near far left right, establishTcpSession crypto initiator acknowledged = (.ok ⟨⟩, near) ∧
      establishTcpSession crypto responder answering = (.ok ⟨⟩, far) ∧ near.tcpSession = some left ∧
      far.tcpSession = some right ∧ TcpSession.Paired left right := by
  have offersInitial := openHandshake_offers began
  obtain ⟨heard, decoded, accepts, offers⟩ := answerHandshake_spec answered
  obtain ⟨heardBack, decodedBack, acceptsBack, offersBack⟩ := receiveAcknowledgement_spec offersInitial received
  obtain ⟨rfl, valid⟩ := HandshakePayload.decode_encode_eq decoded
  obtain ⟨rfl, validBack⟩ := HandshakePayload.decode_encode_eq decodedBack
  have mirroredSecret : crypto.exchange (other.privateKeyOr answer) heard.sessionPublicKey = some shared := by
    rw [offersInitial.drawn, ← commutes, agreed]
  rw [← offers.drawn] at agreed
  obtain ⟨near, nearReturns, left⟩ := establishTcpSession_spec offersBack acceptsBack
    (offers.named ▸ apart) valid validBack agreed
  obtain ⟨far, farReturns, right⟩ := establishTcpSession_spec offers accepts
    (offersInitial.named ▸ apart.symm) validBack valid mirroredSecret
  refine ⟨near, far, _, _, nearReturns, farReturns, left, right, ?_⟩
  rw [offers.named, offersInitial.named]
  exact TcpSession.keyed_paired apart

open Udp Udp.UdpTransport in
/-- With a commutative key agreement, two peers with different ids that read each
other's handshakes from their documents derive sessions of one id whose keys
mirror each other: over LAN whichever of them dials, and over UDP whichever of
them admits the other's HELLO first. -/
theorem handshakes_give_mirrored_sessions :
    (∀ {crypto : LanCrypto} {initiator responder : LanIdentity} {start other opened answering acknowledged : LanConnection}
      {initial acknowledgement : HandshakePayload} {drawn answer : Draw} {shared : Bytes},
      Commutes crypto.sessionPublicKey crypto.exchange → initiator.peerId ≠ responder.peerId →
      openHandshake crypto initiator drawn start = (.ok initial, opened) →
      answerHandshake crypto responder initial.encode answer other = (.ok acknowledgement, answering) →
      receiveAcknowledgement crypto initiator initial acknowledgement.encode opened = (.ok ⟨⟩, acknowledged) →
      crypto.exchange (start.privateKeyOr drawn) (crypto.sessionPublicKey (other.privateKeyOr answer)) = some shared →
      ∃ near far left right, establishTcpSession crypto initiator acknowledged = (.ok ⟨⟩, near) ∧
        establishTcpSession crypto responder answering = (.ok ⟨⟩, far) ∧ near.tcpSession = some left ∧
        far.tcpSession = some right ∧ TcpSession.Paired left right) ∧
    (∀ {settings others : Udp.Settings} {now later : Time} {transport remote middle final : UdpTransport} {route back : Route}
      {heard heardBack : Hello} {opening answer : Opening} {render : Json → String},
      Shares settings.crypto others.crypto → Commutes settings.crypto.sessionPublicKey settings.crypto.exchange →
      settings.peerId ≠ others.peerId →
      admitHello settings now heard route transport = (.ok (some opening), middle) →
      admitHello others later heardBack back remote = (.ok (some answer), final) →
      Hello.decode render (makeHello others answer.attempt).encode = some heard →
      Hello.decode render (makeHello settings opening.attempt).encode = some heardBack →
      ∀ serial number name label, UdpTransport.Paired (newSession settings now serial opening name)
        (newSession others later number answer label)) :=
  ⟨fun commutes apart began answered received agreed =>
    lan_sessions_paired commutes apart began answered received agreed,
   fun shares commutes apart admitted admittedBack decoded decodedBack _ _ _ _ =>
    udp_sessions_paired shares commutes apart admitted admittedBack decoded decodedBack⟩

/-! ### Two peers with small keys -/

/-- A key agreement that adds the keys byte by byte. -/
def addKeys (privateKey publicKey : Bytes) : Option Bytes := some (List.zipWith (· + ·) privateKey publicKey)

def sampleName (signingKey : Bytes) : PeerId := if signingKey = List.replicate 32 1 then "a0" else "b0"

def sampleLan : LanCrypto where
  canonical _ := []
  sha256 data := (data.drop 60).take 32
  fingerprint := sampleName
  verify _ _ _ := true
  sessionPublicKey := id
  exchange := addKeys
  hkdf length salt _ secret := (secret ++ salt ++ secret ++ secret).take length

def sampleIdentity (byte : UInt8) : LanIdentity where
  peerId := sampleName (List.replicate 32 byte)
  signingPublicKey := List.replicate 32 byte
  encryptionPublicKey := List.replicate 32 byte
  displayName := "Peer"
  capabilities := ["text_chat"]
  sign _ := List.replicate 64 byte

def sampleDraw (byte : UInt8) : Draw := ⟨List.replicate 32 byte, List.replicate 32 byte⟩

def unknownPeer : LanConnection where
  peerId := ""
  displayName := "Anonymous"
  signingPublicKey := none
  encryptionPublicKey := none
  capabilities := []
  remoteCapabilities := none
  peerMissingCapabilities := []
  localMissingCapabilities := []
  tcpHandshakePrivateKey := none
  tcpHandshakeNonce := none
  tcpLocalHandshake := none
  tcpRemoteHandshake := none
  tcpSession := none

open Udp Udp.UdpTransport

def sampleNode (byte : UInt8) : Udp.Settings where
  crypto := { sampleCrypto with
    fingerprint := sampleName
    exchange := addKeys
    randomKey := fun _ => List.replicate 32 byte
    randomNonce := fun _ => List.replicate 32 byte }
  peerId := sampleName (List.replicate 32 byte)
  displayName := "Peer"
  signingPublicKey := List.replicate 32 byte
  encryptionPublicKey := List.replicate 32 byte
  capabilities := ["text_chat"]
  forceRelay := false
  isAddress _ := true

/-- The HELLO of a node's first attempt. -/
def sampleGreeting (byte : UInt8) : Hello := makeHello (sampleNode byte) (newAttempt (sampleNode byte) 0 0 "" homeRoute)

theorem addKeys_commutes : Commutes id addKeys := by
  intro one other
  exact congrArg some (List.zipWith_comm_of_comm fun first second => UInt8.add_comm first second)

theorem sampleGreeting_admitted {byte answering : UInt8}
    (admits : (match admitHello (sampleNode byte) 0 (sampleGreeting answering) homeRoute UdpTransport.initial with
      | (.ok (some opening), _) => decide (opening.attempt.privateKey = List.replicate 32 byte ∧
          opening.attempt.nonce = List.replicate 32 byte)
      | _ => false) = true) :
    ∃ opening middle, admitHello (sampleNode byte) 0 (sampleGreeting answering) homeRoute UdpTransport.initial =
      (.ok (some opening), middle) ∧ makeHello (sampleNode byte) opening.attempt = sampleGreeting byte := by
  split at admits
  · rename_i opening middle admitted
    obtain ⟨privateKey, nonce⟩ := of_decide_eq_true admits
    refine ⟨opening, middle, admitted, ?_⟩
    simp only [sampleGreeting, makeHello, newAttempt, privateKey, nonce, sampleNode]
  · contradiction

def sampleExchange : Bool :=
  match openHandshake sampleLan (sampleIdentity 2) (sampleDraw 2) unknownPeer with
  | (.ok initial, opened) =>
      match answerHandshake sampleLan (sampleIdentity 1) initial.encode (sampleDraw 1) unknownPeer with
      | (.ok acknowledgement, _) =>
          match receiveAcknowledgement sampleLan (sampleIdentity 2) initial acknowledgement.encode opened with
          | (.ok _, _) => true
          | _ => false
      | _ => false
  | _ => false

theorem sample_handshakes_give_mirrored_sessions :
    (∃ (near far : LanConnection) (left right : TcpSession), near.tcpSession = some left ∧ far.tcpSession = some right ∧
      TcpSession.Paired left right) ∧
    (∃ opening answer, opening.hello = sampleGreeting 2 ∧ answer.hello = sampleGreeting 1 ∧
      UdpTransport.Paired (newSession (sampleNode 1) 0 0 opening "Peer") (newSession (sampleNode 2) 0 0 answer "Peer")) := by
  have apart : (sampleNode 1).peerId ≠ (sampleNode 2).peerId := by decide +kernel
  constructor
  · have exchanged : sampleExchange = true := by decide +kernel
    unfold sampleExchange at exchanged
    split at exchanged
    · rename_i initial opened began
      split at exchanged
      · rename_i acknowledgement answering answered
        split at exchanged
        · rename_i acknowledged received
          obtain ⟨near, far, left, right, -, -, outer, inner, paired⟩ :=
            handshakes_give_mirrored_sessions.1 addKeys_commutes apart.symm began answered received rfl
          exact ⟨near, far, left, right, outer, inner, paired⟩
        · contradiction
      · contradiction
    · contradiction
  · obtain ⟨opening, middle, admitted, greeting⟩ := @sampleGreeting_admitted 1 2 (by decide +kernel)
    obtain ⟨answer, final, admittedBack, greetingBack⟩ := @sampleGreeting_admitted 2 1 (by decide +kernel)
    have decoded : Hello.decode (fun _ => "") (makeHello (sampleNode 2) answer.attempt).encode =
        some (sampleGreeting 2) := by
      rw [greetingBack, Hello.decode_encode rfl]
    have decodedBack : Hello.decode (fun _ => "") (makeHello (sampleNode 1) opening.attempt).encode =
        some (sampleGreeting 1) := by
      rw [greeting, Hello.decode_encode rfl]
    have shares : Shares (sampleNode 1).crypto (sampleNode 2).crypto := ⟨rfl, rfl, rfl, rfl⟩
    have commutes : Commutes (sampleNode 1).crypto.sessionPublicKey (sampleNode 1).crypto.exchange := addKeys_commutes
    exact ⟨opening, answer, (admitHello_material admitted).1, (admitHello_material admittedBack).1,
      handshakes_give_mirrored_sessions.2 shares commutes apart admitted admittedBack decoded decodedBack 0 0 "Peer" "Peer"⟩

end MeshTalk.Peers
