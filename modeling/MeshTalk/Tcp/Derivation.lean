import MeshTalk.Protocol.HandshakePayload
import MeshTalk.Tcp.Records

namespace MeshTalk.Tcp

open MeshTalk.Library MeshTalk.Protocol

/-! # The keys of a LAN TCP session -/

def tcpKdfInfo : Bytes := "meshtalk-tcp-session-v1".toUTF8.toList
def tcpTranscriptDomain : Bytes := "meshtalk-tcp-handshake-transcript-v1".toUTF8.toList

/-- The functions of the cryptography library that a LAN handshake calls, and
`json.dumps` with sorted keys. -/
structure LanCrypto where
  canonical : Json → Bytes
  sha256 : Bytes → Bytes
  /-- `hashlib.sha256(...).hexdigest()`. -/
  fingerprint : Bytes → PeerId
  verify : Bytes → Bytes → Bytes → Bool
  sessionPublicKey : Bytes → Bytes
  /-- `none` where the public key or the shared secret is refused. -/
  exchange : Bytes → Bytes → Option Bytes
  /-- Length, salt, info and secret of `HKDF`. -/
  hkdf : Nat → Bytes → Bytes → Bytes → Bytes

variable (crypto : LanCrypto)

/-- `_length_prefixed`. -/
def lengthPrefixed (value : Bytes) : Bytes := BigEndian.toBytes 4 value.length ++ value

def signedBytes (payload : HandshakePayload) : Bytes := crypto.canonical payload.signedDocument

/-- `_authenticated_handshake_payload`. -/
def authenticatedHandshakePayload (payload : HandshakePayload) : Bytes :=
  lengthPrefixed (signedBytes crypto payload) ++ lengthPrefixed payload.signature

/-- `_handshake_transcript`. -/
def handshakeTranscript (first second : HandshakePayload) : Bytes :=
  crypto.sha256 (tcpTranscriptDomain ++ lengthPrefixed (authenticatedHandshakePayload crypto first) ++
    lengthPrefixed (authenticatedHandshakePayload crypto second))

namespace TcpSession

/-- The end of `derive`, once the secret is agreed on. -/
def keyed (localPeerId remotePeerId : PeerId) (localPayload remotePayload : HandshakePayload)
    (sharedSecret : Bytes) : TcpSession :=
  let localFirst : Bool := localPeerId < remotePeerId
  let first := if localFirst then localPayload else remotePayload
  let second := if localFirst then remotePayload else localPayload
  let transcriptHash := handshakeTranscript crypto first second
  let salt := crypto.sha256 ("meshtalk-tcp-kdf-salt-v1".toUTF8.toList ++ first.nonce ++ second.nonce)
  let material := crypto.hkdf (32 + 4 + 32 + 4) salt (tcpKdfInfo ++ transcriptHash) sharedSecret
  let firstToSecond := material.take 36
  let secondToFirst := (material.take 72).drop 36
  let transmit := if localFirst then firstToSecond else secondToFirst
  let receive := if localFirst then secondToFirst else firstToSecond
  let sessionId :=
    (crypto.sha256 ("meshtalk-tcp-session-id-v1".toUTF8.toList ++ transcriptHash ++ material)).take 16
  { peerId := remotePeerId
    sessionId
    transcriptHash
    confirmationToken := crypto.sha256 ("meshtalk-tcp-confirm-v1".toUTF8.toList ++ sessionId ++ transcriptHash)
    transmitEncryptionKey := transmit.take 32
    receiveEncryptionKey := receive.take 32
    transmitNoncePrefix := transmit.drop 32
    receiveNoncePrefix := receive.drop 32
    sendSequence := 0
    receiveSequence := 0
    confirmed := false }

def invalidParameters (payload : HandshakePayload) : Bool :=
  payload.transportVersion ≠ tcpTransportVersion || payload.sessionPublicKey.length ≠ 32 || payload.nonce.length ≠ 32

/-- `TcpSession.derive`. -/
def derive (localPeerId remotePeerId : PeerId) (localPrivateKey : Bytes)
    (localPayload remotePayload : HandshakePayload) : Except TcpFailure TcpSession :=
  if localPeerId = remotePeerId then .error (.transport "TCP session cannot be established with itself")
  else if localPayload.peerId ≠ localPeerId ∨ remotePayload.peerId ≠ remotePeerId then
    .error (.transport "TCP session identity mismatch")
  else if invalidParameters localPayload || invalidParameters remotePayload then
    .error (.transport "Invalid TCP session handshake parameters")
  else
    match crypto.exchange localPrivateKey remotePayload.sessionPublicKey with
    | none => .error (.transport "Invalid TCP session key")
    | some sharedSecret => .ok (keyed crypto localPeerId remotePeerId localPayload remotePayload sharedSecret)

variable {crypto} {one other : PeerId} {ours theirs : HandshakePayload} {privateKey shared : Bytes}

/-- What the two ends of a connection agree on.  What one transmits the other
receives, with no record sent yet. -/
structure Paired (left right : TcpSession) : Prop where
  sessionId : left.sessionId = right.sessionId
  transcriptHash : left.transcriptHash = right.transcriptHash
  confirmationToken : left.confirmationToken = right.confirmationToken
  outward : Mirrored left right
  inward : Mirrored right left

theorem Paired.symm {left right : TcpSession} (paired : Paired left right) : Paired right left :=
  ⟨paired.sessionId.symm, paired.transcriptHash.symm, paired.confirmationToken.symm, paired.inward, paired.outward⟩

theorem keyed_paired_of_lt (less : one < other) :
    Paired (keyed crypto one other ours theirs shared) (keyed crypto other one theirs ours shared) := by
  have ordered : decide (one < other) = true := decide_eq_true less
  have reversed : decide (other < one) = false := decide_eq_false (String.lt_asymm less)
  constructor
  · simp only [keyed, ordered, reversed, if_true, Bool.false_eq_true, if_false]
  · simp only [keyed, ordered, reversed, if_true, Bool.false_eq_true, if_false]
  · simp only [keyed, ordered, reversed, if_true, Bool.false_eq_true, if_false]
  · constructor <;> simp only [keyed, ordered, reversed, if_true, Bool.false_eq_true, if_false]
  · constructor <;> simp only [keyed, ordered, reversed, if_true, Bool.false_eq_true, if_false]

/-- Whichever id is the smaller one, the two ends put the payloads and the halves
of the key material in one order. -/
theorem keyed_paired (apart : one ≠ other) :
    Paired (keyed crypto one other ours theirs shared) (keyed crypto other one theirs ours shared) := by
  rcases peerId_lt_or_lt apart with less | greater
  · exact keyed_paired_of_lt less
  · exact (keyed_paired_of_lt greater).symm

theorem derive_keyed (apart : one ≠ other) (own : ours.peerId = one) (remote : theirs.peerId = other)
    (valid : invalidParameters ours = false) (validRemote : invalidParameters theirs = false)
    (agreed : crypto.exchange privateKey theirs.sessionPublicKey = some shared) :
    derive crypto one other privateKey ours theirs = .ok (keyed crypto one other ours theirs shared) := by
  unfold derive
  rw [if_neg apart, if_neg (by simp [own, remote]), if_neg (by simp [valid, validRemote]), agreed]

end TcpSession

end MeshTalk.Tcp
