import MeshTalk.Protocol.HandshakePayload
import MeshTalk.Udp.Origins

namespace MeshTalk.Protocol

open MeshTalk.Library FileAckV2Payload

/-! # Two HELLOs that answer each other -/

namespace Hello

variable (hello : Hello)

def unsignedMembers : List (String × Json) :=
  [("capabilities", textsJson hello.capabilities),
   ("peer_id", .text hello.peerId),
   ("display_name", .text hello.displayName),
   ("signing_public_key", hexJson hello.signingPublicKey),
   ("encryption_public_key", hexJson hello.encryptionPublicKey),
   ("session_public_key", hexJson hello.sessionPublicKey),
   ("nonce", hexJson hello.nonce)]

/-- The document of `_make_hello`. -/
def encode : Json := .object (hello.unsignedMembers ++ [("signature", hexJson hello.signature)])

/-- What the fields do not determine of the signed members; `render` is
`json.dumps` of one value. -/
def unreadMembers (render : Json → String) (members : List (String × Json)) : List (String × String) :=
  ((members.filter fun member => member.1 ≠ "signature").filter fun member =>
      (hello.unsignedMembers.lookup member.1).map render ≠ some (render member.2)).map
    fun member => (member.1, render member.2)

/-- The reading of `_handle_hello`, `none` where it raises. -/
def decode (render : Json → String) : Json → Option Hello
  | .object members => do
      let read : Hello := {
        signature := ← hexMember members "signature"
        signingPublicKey := ← hexMember members "signing_public_key"
        encryptionPublicKey := ← hexMember members "encryption_public_key"
        sessionPublicKey := ← hexMember members "session_public_key"
        nonce := ← hexMember members "nonce"
        peerId := ← textMember members "peer_id"
        capabilities := ← (members.lookup "capabilities").bind asTexts
        displayName := (textMember members "display_name").getD ""
        unread := [] }
      some { read with unread := read.unreadMembers render members }
  | _ => none

variable {hello}

theorem lookup_unsignedMembers : ∀ member ∈ hello.unsignedMembers,
    hello.unsignedMembers.lookup member.1 = some member.2 := by
  simp only [unsignedMembers, List.forall_mem_cons]
  refine ⟨?_, ?_, ?_, ?_, ?_, ?_, ?_, fun _ none => nomatch none⟩ <;> simp only [List.lookup_cons, String.reduceBEq]

theorem unsigned_of_unsignedMembers : ∀ member ∈ hello.unsignedMembers, member.1 ≠ "signature" := by
  simp only [unsignedMembers, List.forall_mem_cons]
  refine ⟨?_, ?_, ?_, ?_, ?_, ?_, ?_, fun _ none => nomatch none⟩ <;> simp only [ne_eq, String.reduceEq, not_false_eq_true]

theorem unreadMembers_eq_nil {render : Json → String} :
    hello.unreadMembers render (hello.unsignedMembers ++ [("signature", hexJson hello.signature)]) = [] := by
  have signed : ((hello.unsignedMembers ++ [("signature", hexJson hello.signature)]).filter fun member =>
      member.1 ≠ "signature") = hello.unsignedMembers := by
    rw [List.filter_append, List.filter_eq_self.mpr fun member found =>
      decide_eq_true (unsigned_of_unsignedMembers member found)]
    exact List.append_nil _
  rw [unreadMembers, signed, List.map_eq_nil_iff, List.filter_eq_nil_iff]
  intro member found
  simp only [lookup_unsignedMembers member found, Option.map_some, ne_eq, not_true_eq_false, decide_false,
    Bool.false_eq_true, not_false_eq_true]

/-- Reading the document of a HELLO that was made here gives the HELLO. -/
theorem decode_encode {render : Json → String} (plain : hello.unread = []) : decode render hello.encode = some hello := by
  have determined : hello.unreadMembers render (hello.unsignedMembers ++ [("signature", hexJson hello.signature)]) = [] :=
    unreadMembers_eq_nil
  obtain ⟨capabilities, peerId, displayName, signingPublicKey, encryptionPublicKey, sessionPublicKey, nonce, unread,
    signature⟩ := hello
  cases plain
  simp only [decode, encode]
  simp only [unsignedMembers, List.cons_append, List.nil_append] at determined ⊢
  simp only [List.lookup_cons, String.reduceBEq, hexMember, textMember]
  simp only [hexJson, asText, asTexts_textsJson, Hex.ofText_toText, Option.bind_some, Option.bind_eq_bind,
    Option.getD_some] at determined ⊢
  rw [determined]

end Hello

end MeshTalk.Protocol

namespace MeshTalk.Udp

open MeshTalk.Library MeshTalk.Protocol Handler

namespace UdpTransport

variable {settings others : Settings} {ours theirs : Attempt} {now later : Time} {transport remote middle final : UdpTransport}
  {route back : Route} {hello heard heardBack : Hello} {opening answer : Opening}

/-- Two nodes call one library. -/
structure Shares (one other : Crypto) : Prop where
  sessionPublicKey : one.sessionPublicKey = other.sessionPublicKey
  exchange : one.exchange = other.exchange
  derive : one.derive = other.derive
  digest : one.digest = other.digest

/-- What the two ends of a session agree on. -/
structure Paired (left right : Session) : Prop where
  sessionId : left.sessionId = right.sessionId
  encryption : left.transmitEncryptionKey = right.receiveEncryptionKey
  decryption : left.receiveEncryptionKey = right.transmitEncryptionKey
  authentication : left.transmitAuthenticationKey = right.receiveAuthenticationKey
  verification : left.receiveAuthenticationKey = right.transmitAuthenticationKey

theorem Paired.symm {left right : Session} (paired : Paired left right) : Paired right left :=
  ⟨paired.sessionId.symm, paired.decryption.symm, paired.encryption.symm, paired.verification.symm,
    paired.authentication.symm⟩

/-- What a HELLO leads to is derived from it and from the attempt chosen for it. -/
theorem deriveSession_material {current : Option Session} :
    Ensures (fun _ => True) (deriveSession settings now hello route current)
      (fun result _ => ∀ opening, result = some opening → opening.hello = hello ∧
        materialOf settings opening.attempt hello = some opening.material ∧
        opening.sessionId = sessionIdOf settings opening.material)
      (fun _ => True) := by
  refine Ensures.bind Ensures.always fun attempt => Ensures.bind Ensures.always fun _ =>
    Ensures.bind (Ensures.orRaise (Q := fun shared _ =>
      settings.crypto.exchange attempt.privateKey hello.sessionPublicKey = some shared)
      (fun _ _ _ => trivial) fun _ _ _ found => found) fun shared => ?_
  dsimp only
  split
  · exact Ensures.bind Ensures.always fun _ => Ensures.pure fun _ _ _ returned => nomatch returned
  · refine Ensures.pure fun _ found opening returned => ?_
    cases returned
    exact ⟨rfl, by rw [materialOf, found]; rfl, rfl⟩

theorem admitHello_material (admitted : admitHello settings now hello route transport = (.ok (some opening), middle)) :
    opening.hello = hello ∧ materialOf settings opening.attempt hello = some opening.material ∧
      opening.sessionId = sessionIdOf settings opening.material := by
  have spec : Ensures (fun _ => True) (admitHello settings now hello route) (fun result _ =>
      ∀ opening, result = some opening → opening.hello = hello ∧
        materialOf settings opening.attempt hello = some opening.material ∧
        opening.sessionId = sessionIdOf settings opening.material) (fun _ => True) := by
    refine Ensures.bind Ensures.always fun _ => Ensures.read fun seen _ => ?_
    split
    · exact Ensures.bind Ensures.always fun _ => Ensures.pure fun _ _ _ returned => nomatch returned
    · exact Ensures.weaken deriveSession_material (fun _ _ => trivial) (fun _ _ held => held) fun _ held => held
  have result := spec transport trivial
  rw [admitted] at result
  exact result opening rfl

/-- The two ends salt with the nonces in one order. -/
theorem sessionSalt_comm (apart : settings.peerId ≠ others.peerId) :
    sessionSalt settings (makeHello others theirs) ours = sessionSalt others (makeHello settings ours) theirs := by
  change (if settings.peerId < others.peerId then ours.nonce ++ theirs.nonce else theirs.nonce ++ ours.nonce) =
    if others.peerId < settings.peerId then theirs.nonce ++ ours.nonce else ours.nonce ++ theirs.nonce
  rcases peerId_lt_or_lt apart with less | greater
  · rw [if_pos less, if_neg (String.lt_asymm less)]
  · rw [if_pos greater, if_neg (String.lt_asymm greater)]

theorem materialOf_comm (shares : Shares settings.crypto others.crypto)
    (commutes : Commutes settings.crypto.sessionPublicKey settings.crypto.exchange)
    (apart : settings.peerId ≠ others.peerId) :
    materialOf settings ours (makeHello others theirs) = materialOf others theirs (makeHello settings ours) := by
  have secret : settings.crypto.exchange ours.privateKey (makeHello others theirs).sessionPublicKey =
      others.crypto.exchange theirs.privateKey (makeHello settings ours).sessionPublicKey := by
    simp only [makeHello, ← shares.sessionPublicKey, ← shares.exchange]
    exact commutes ours.privateKey theirs.privateKey
  rw [materialOf, materialOf, secret, shares.derive, sessionSalt_comm apart]

theorem newSession_paired {serial number : Nat} {name label : String} (less : opening.hello.peerId < answer.hello.peerId)
    (named : settings.peerId = answer.hello.peerId) (namedBack : others.peerId = opening.hello.peerId)
    (material : opening.material = answer.material) (sessionId : opening.sessionId = answer.sessionId) :
    Paired (newSession settings now serial opening name) (newSession others later number answer label) := by
  have ordered : decide (others.peerId < answer.hello.peerId) = true := decide_eq_true (namedBack ▸ less)
  have reversed : decide (settings.peerId < opening.hello.peerId) = false :=
    decide_eq_false (named ▸ String.lt_asymm less)
  constructor
  · exact sessionId
  · simp only [newSession, ordered, reversed, if_true, Bool.false_eq_true, if_false, material]
  · simp only [newSession, ordered, reversed, if_true, Bool.false_eq_true, if_false, material]
  · simp only [newSession, ordered, reversed, if_true, Bool.false_eq_true, if_false, material]
  · simp only [newSession, ordered, reversed, if_true, Bool.false_eq_true, if_false, material]

/-- Each node admits the other's HELLO, as it was read from its document, with the
attempt its own HELLO was made for: the sessions the two create match. -/
theorem udp_sessions_paired {render : Json → String} {serial number : Nat} {name label : String}
    (shares : Shares settings.crypto others.crypto)
    (commutes : Commutes settings.crypto.sessionPublicKey settings.crypto.exchange)
    (apart : settings.peerId ≠ others.peerId)
    (admitted : admitHello settings now heard route transport = (.ok (some opening), middle))
    (admittedBack : admitHello others later heardBack back remote = (.ok (some answer), final))
    (decoded : Hello.decode render (makeHello others answer.attempt).encode = some heard)
    (decodedBack : Hello.decode render (makeHello settings opening.attempt).encode = some heardBack) :
    Paired (newSession settings now serial opening name) (newSession others later number answer label) := by
  rw [Hello.decode_encode rfl] at decoded decodedBack
  cases decoded
  cases decodedBack
  obtain ⟨hello, material, sessionId⟩ := admitHello_material admitted
  obtain ⟨helloBack, materialBack, sessionIdBack⟩ := admitHello_material admittedBack
  have same : opening.material = answer.material := by
    rw [materialOf_comm shares commutes apart, materialBack] at material
    exact (Option.some.inj material).symm
  have sameId : opening.sessionId = answer.sessionId := by
    rw [sessionId, sessionIdBack, sessionIdOf, sessionIdOf, same, shares.digest]
  have named : settings.peerId = answer.hello.peerId := by rw [helloBack]; rfl
  have namedBack : others.peerId = opening.hello.peerId := by rw [hello]; rfl
  rcases peerId_lt_or_lt apart with less | greater
  · exact (newSession_paired (named ▸ namedBack ▸ less) namedBack named same.symm sameId.symm).symm
  · exact newSession_paired (named ▸ namedBack ▸ greater) named namedBack same sameId

end UdpTransport

end MeshTalk.Udp
