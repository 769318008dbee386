import MeshTalk.Protocol.GroupPayloads

namespace MeshTalk.Protocol

open MeshTalk.Library

/-! # Endpoint cards

A card is what a member of a room says of itself through the control service.
It is modelled as decrypted and parsed.
-/

def cardMaxAge : Time := 180
def maxCardCandidates : Nat := 8

inductive CardCandidate where
  | direct (host : String) (port : Int)
  | derp
deriving DecidableEq, Repr

namespace CardCandidate

def json : CardCandidate → Json
  | direct host port => .object [("type", .text "direct"), ("host", .text host), ("port", .int port)]
  | derp => .object [("type", .text "derp")]

end CardCandidate

structure EndpointCard where
  kind : String
  peerId : PeerId
  signingPublicKey : Bytes
  candidate : Option (String × Int)
  candidates : Option (List CardCandidate)
  createdAt : JsonNumber
  nonce : String
  signature : Bytes
deriving DecidableEq, Repr

namespace EndpointCard

variable (card : EndpointCard)

/-- What a card signs: all of its members but the signature. -/
def unsigned : Json :=
  let legacy := match card.candidate with
    | some (host, port) => Json.object [("host", .text host), ("port", .int port)]
    | none => .null
  let listed := match card.candidates with
    | some candidates => [("candidates", Json.array (candidates.map CardCandidate.json))]
    | none => []
  .object <|
    [("kind", .text card.kind), ("peer_id", .text card.peerId),
     ("signing_public_key", .text (Hex.toText card.signingPublicKey)), ("candidate", legacy)] ++ listed ++
    [("created_at", card.createdAt.json), ("nonce", .text card.nonce)]

/-- The candidates, with the single one of older cards in their place. -/
def offered : List CardCandidate :=
  match card.candidates, card.candidate with
  | some candidates, _ => candidates
  | none, some (host, port) => [.direct host port]
  | none, none => []

/-- The checks of `decrypt_endpoint_card`, in their order. -/
def refusal (crypto : FileCrypto) (now : Time) : Option String :=
  if card.kind ≠ "endpoint" then some "Invalid endpoint card kind"
  else if card.peerId ≠ crypto.sha256 card.signingPublicKey ∨ card.signingPublicKey.length ≠ 32 ∨
      card.signature.length ≠ 64 then
    some "Endpoint card identity mismatch"
  else match card.createdAt with
    | .real _ => some "Expired endpoint card"
    | .int createdAt =>
        if cardMaxAge < clockDistance now createdAt then some "Expired endpoint card"
        else if maxCardCandidates < card.offered.length then some "Invalid endpoint card candidates"
        else if crypto.verify card.signingPublicKey card.signature (crypto.canonical card.unsigned) then none
        else some "Invalid endpoint card signature"

end EndpointCard

end MeshTalk.Protocol
