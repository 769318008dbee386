import MeshTalk.Protocol.FilePayloads

namespace MeshTalk.Protocol

open MeshTalk.Library FileAckV2Payload

/-! # The handshake of a LAN connection

A payload travels as its JSON document.  A peer id or a display name that is no
text is refused here; in the source `_apply_handshake` refuses it next.
-/

/-- Both ends of a key agreement get the same secret. -/
def Commutes (sessionPublicKey : Bytes → Bytes) (exchange : Bytes → Bytes → Option Bytes) : Prop :=
  ∀ one other, exchange one (sessionPublicKey other) = exchange other (sessionPublicKey one)

theorem peerId_lt_or_lt {one other : PeerId} (apart : one ≠ other) : one < other ∨ other < one := by
  by_cases less : one < other
  · exact .inl less
  · refine .inr (Decidable.byContradiction fun greater => apart ?_)
    exact String.le_antisymm (String.not_lt.mp greater) (String.not_lt.mp less)

def tcpTransportVersion : Int := 1

structure HandshakePayload where
  peerId : PeerId
  signingPublicKey : Bytes
  encryptionPublicKey : Bytes
  displayName : String
  nonce : Bytes
  challenge : Bytes
  signature : Bytes
  capabilities : List String
  transportVersion : Int
  sessionPublicKey : Bytes
deriving DecidableEq, Repr

def asTexts : Json → Option (List String)
  | .array items => items.mapM asText
  | _ => none

def asInt : Json → Option Int
  | .int value => some value
  | _ => none

/-- `bytes.fromhex(obj[name])`. -/
def hexMember (members : List (String × Json)) (name : String) : Option Bytes :=
  ((members.lookup name).bind asText).bind Hex.ofText

def textMember (members : List (String × Json)) (name : String) : Option String := (members.lookup name).bind asText

def hexJson (bytes : Bytes) : Json := .text (Hex.toText bytes)

def textsJson (texts : List String) : Json := .array (texts.map .text)

namespace HandshakePayload

variable (payload : HandshakePayload)

/-- The document `signed_bytes` serialises with its keys sorted. -/
def signedDocument : Json :=
  .object [
    ("peer_id", .text payload.peerId),
    ("signing_public_key", hexJson payload.signingPublicKey),
    ("encryption_public_key", hexJson payload.encryptionPublicKey),
    ("display_name", .text payload.displayName),
    ("nonce", hexJson payload.nonce),
    ("challenge", hexJson payload.challenge),
    ("capabilities", textsJson (payload.capabilities.mergeSort fun a b => decide (a ≤ b))),
    ("transport_version", .int payload.transportVersion),
    ("session_public_key", hexJson payload.sessionPublicKey)]

def encode : Json :=
  .object [
    ("peer_id", .text payload.peerId),
    ("signing_public_key", hexJson payload.signingPublicKey),
    ("encryption_public_key", hexJson payload.encryptionPublicKey),
    ("display_name", .text payload.displayName),
    ("nonce", hexJson payload.nonce),
    ("challenge", hexJson payload.challenge),
    ("signature", hexJson payload.signature),
    ("capabilities", textsJson payload.capabilities),
    ("transport_version", .int payload.transportVersion),
    ("session_public_key", hexJson payload.sessionPublicKey)]

/-- The lengths and the version that `decode` checks. -/
def checked : Bool :=
  payload.signingPublicKey.length = 32 && payload.encryptionPublicKey.length = 32 && payload.nonce.length = 32 &&
    (payload.challenge.length = 0 || payload.challenge.length = 32) && payload.signature.length = 64 &&
    payload.transportVersion = tcpTransportVersion && payload.sessionPublicKey.length = 32

/-- `none` where it raises. -/
def decode : Json → Option HandshakePayload
  | .object members => do
      let payload : HandshakePayload := {
        capabilities := ← ((members.lookup "capabilities").bind asTexts).bind validateCapabilities
        peerId := ← textMember members "peer_id"
        signingPublicKey := ← hexMember members "signing_public_key"
        encryptionPublicKey := ← hexMember members "encryption_public_key"
        displayName := ← textMember members "display_name"
        nonce := ← hexMember members "nonce"
        challenge := ← hexMember members "challenge"
        signature := ← hexMember members "signature"
        transportVersion := ← (members.lookup "transport_version").bind asInt
        sessionPublicKey := ← hexMember members "session_public_key" }
      if payload.checked then some payload else none
  | _ => none

end HandshakePayload

theorem asTexts_textsJson {texts : List String} : asTexts (textsJson texts) = some texts := by
  unfold asTexts textsJson
  induction texts with
  | nil => rfl
  | cons text rest ih =>
      simp only [List.map_cons, List.mapM_cons, ih]
      rfl

theorem validateCapabilities_eq {capabilities validated : List String}
    (valid : validateCapabilities capabilities = some validated) : validated = capabilities := by
  unfold validateCapabilities at valid
  split at valid
  · contradiction
  · split at valid
    · contradiction
    · split at valid
      · contradiction
      · exact (Option.some.inj valid).symm

namespace HandshakePayload

variable {payload received : HandshakePayload}

/-- What `encode` writes, `decode` reads back unchanged where the receiver's
checks pass. -/
theorem decode_encode : decode payload.encode =
    if (validateCapabilities payload.capabilities).isSome ∧ payload.checked then some payload else none := by
  have read : decode payload.encode = (validateCapabilities payload.capabilities).bind fun capabilities =>
      if ({ payload with capabilities } : HandshakePayload).checked then
        some { payload with capabilities } else none := by
    simp only [decode, encode]
    simp only [List.lookup_cons, String.reduceBEq, hexMember, textMember]
    simp only [hexJson, asText, asInt, asTexts_textsJson, Hex.ofText_toText, Option.bind_some, Option.bind_eq_bind]
  rw [read]
  cases valid : validateCapabilities payload.capabilities with
  | none => rfl
  | some validated =>
      rw [validateCapabilities_eq valid]
      simp

theorem decode_encode_eq (decoded : decode payload.encode = some received) :
    received = payload ∧ payload.checked = true := by
  rw [decode_encode] at decoded
  split at decoded
  · rename_i valid
    exact ⟨(Option.some.inj decoded).symm, valid.2⟩
  · contradiction

end HandshakePayload

end MeshTalk.Protocol
