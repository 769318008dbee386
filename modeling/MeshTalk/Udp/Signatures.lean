import Mathlib.Algebra.Order.BigOperators.Group.List
import Mathlib.Algebra.Order.Ring.Nat
import MeshTalk.Protocol.Canonical
import MeshTalk.Protocol.EndpointCards
import MeshTalk.Protocol.FriendPayloads
import MeshTalk.Udp.Exchange

namespace MeshTalk.Protocol

open MeshTalk.Library

/-! # What the signatures of different payloads cover

Every payload signs the canonical text of some of its members, or a digest of
that text and its ciphertext.  The text tells which payload it belongs to.
-/

/-! ## Typing indicators and profiles -/

structure TypingPayload where
  senderId : PeerId
  recipientId : PeerId
  createdAt : JsonNumber
  encryptedContent : Bytes
  signature : Bytes
deriving DecidableEq, Repr

namespace TypingPayload

variable (payload : TypingPayload)

def valid : Bool :=
  validPeerId payload.senderId && validPeerId payload.recipientId && decide (0 < payload.createdAt.value) &&
    decide (payload.createdAt.value < 1000000000000) && payload.signature.length = 64

def associatedData : Json :=
  .object
    [("sender_id", .text payload.senderId), ("recipient_id", .text payload.recipientId),
     ("created_at", payload.createdAt.json)]

def signedBytes (crypto : FileCrypto) : Bytes :=
  crypto.digest (crypto.canonical payload.associatedData ++ payload.encryptedContent)

end TypingPayload

structure ProfilePayload where
  peerId : PeerId
  displayName : String
  tuiActive : Bool
  signature : Bytes
  dnd : Bool
  dndSignature : Bytes
deriving DecidableEq, Repr

namespace ProfilePayload

variable (payload : ProfilePayload)

def unsigned : Json :=
  .object
    [("peer_id", .text payload.peerId), ("display_name", .text payload.displayName),
     ("tui_active", .bool payload.tuiActive)]

/-- The second signature covers the first. -/
def dndUnsigned : Json :=
  .object
    [("peer_id", .text payload.peerId), ("dnd", .bool payload.dnd),
     ("profile_signature", .text (Hex.toText payload.signature))]

def valid : Bool :=
  payload.signature.length = 64 && (payload.dndSignature.length = 0 || payload.dndSignature.length = 64)

end ProfilePayload

/-- The arguments of `group_origin_signed_bytes`. -/
@[ext]
structure GroupOrigin where
  messageId : String
  groupId : String
  senderId : PeerId
  createdAt : JsonNumber
  replyToMessageId : Option String
  contentSha256 : String
deriving DecidableEq, Repr

/-! ## Everything that is signed -/

inductive Signed where
  | handshake (payload : HandshakePayload)
  | hello (hello : Hello)
  | card (card : EndpointCard)
  | message (payload : MessagePayload)
  | groupMessage (payload : GroupMessagePayload)
  | groupOrigin (origin : GroupOrigin)
  | typing (payload : TypingPayload)
  | groupAck (payload : GroupAckPayload)
  | groupLeave (payload : GroupLeavePayload)
  | friendRequest (payload : FriendRequestPayload)
  | friendResponse (payload : FriendRequestResponsePayload)
  | friendCancelled (payload : FriendRequestCancelledPayload)
  | messageBlocked (payload : MessageBlockedPayload)
  | profile (payload : ProfilePayload)
  | profileDnd (payload : ProfilePayload)
  | fileOffer (offer : FileOfferV2Payload)
  | fileChunk (chunk : FileChunkV2Payload)
  | fileAck (ack : FileAckV2Payload)
deriving DecidableEq, Repr

namespace Signed

/-- What a signing and a verifying site hand to the library. -/
def signedBytes (crypto : FileCrypto) : Signed → Bytes
  | .handshake payload => crypto.canonical payload.signedDocument
  | .hello value => crypto.canonical (.object value.unsignedMembers)
  | .card value => crypto.canonical value.unsigned
  | .message payload => payload.signedBytes crypto
  | .groupMessage payload => payload.signedBytes crypto
  | .groupOrigin origin =>
      crypto.canonical (Protocol.groupOrigin origin.messageId origin.groupId origin.senderId origin.createdAt
        origin.replyToMessageId origin.contentSha256)
  | .typing payload => payload.signedBytes crypto
  | .groupAck payload => crypto.canonical payload.unsigned
  | .groupLeave payload => crypto.canonical payload.unsigned
  | .friendRequest payload => crypto.canonical payload.unsigned
  | .friendResponse payload => crypto.canonical payload.unsigned
  | .friendCancelled payload => crypto.canonical payload.unsigned
  | .messageBlocked payload => crypto.canonical payload.unsigned
  | .profile payload => crypto.canonical payload.unsigned
  | .profileDnd payload => crypto.canonical payload.dndUnsigned
  | .fileOffer offer => offer.signedBytes crypto
  | .fileChunk chunk => chunk.signedBytes crypto
  | .fileAck ack => crypto.canonical (.object ack.unsignedMembers)

/-- The document in what is signed. -/
def document : Signed → Json
  | .handshake payload => payload.signedDocument
  | .hello value => .object value.unsignedMembers
  | .card value => value.unsigned
  | .message payload => payload.associatedData
  | .groupMessage payload => payload.associatedData
  | .groupOrigin origin =>
      Protocol.groupOrigin origin.messageId origin.groupId origin.senderId origin.createdAt origin.replyToMessageId
        origin.contentSha256
  | .typing payload => payload.associatedData
  | .groupAck payload => payload.unsigned
  | .groupLeave payload => payload.unsigned
  | .friendRequest payload => payload.unsigned
  | .friendResponse payload => payload.unsigned
  | .friendCancelled payload => payload.unsigned
  | .messageBlocked payload => payload.unsigned
  | .profile payload => payload.unsigned
  | .profileDnd payload => payload.dndUnsigned
  | .fileOffer offer => offer.unsigned
  | .fileChunk chunk => chunk.associatedData
  | .fileAck ack => .object ack.unsignedMembers

/-- The ciphertext that is hashed behind the document. -/
def ciphertext : Signed → Option Bytes
  | .message payload => some payload.encryptedContent
  | .groupMessage payload => some payload.encryptedContent
  | .typing payload => some payload.encryptedContent
  | .fileChunk chunk => some chunk.encryptedContent
  | _ => none

theorem signedBytes_eq {crypto : FileCrypto} {signed : Signed} :
    signed.signedBytes crypto = match signed.ciphertext with
      | some content => crypto.digest (crypto.canonical signed.document ++ content)
      | none => crypto.canonical signed.document := by
  cases signed <;> rfl

/-- The value without what its signature does not cover. -/
def covered : Signed → Signed
  | .handshake payload =>
      .handshake { payload with
        signature := []
        capabilities := payload.capabilities.mergeSort fun first second => decide (first ≤ second) }
  | .hello value => .hello { value with signature := [], unread := [] }
  | .card value => .card { value with signature := [] }
  | .message payload => .message { payload with signature := [], hopCount := 0, maxHops := 0 }
  | .groupMessage payload => .groupMessage { payload with signature := [], originSignature := [] }
  | .groupOrigin origin => .groupOrigin origin
  | .typing payload => .typing { payload with signature := [] }
  | .groupAck payload => .groupAck { payload with signature := [] }
  | .groupLeave payload => .groupLeave { payload with signature := [] }
  | .friendRequest payload => .friendRequest { payload with signature := [] }
  | .friendResponse payload => .friendResponse { payload with signature := [] }
  | .friendCancelled payload => .friendCancelled { payload with signature := [] }
  | .messageBlocked payload => .messageBlocked { payload with signature := [] }
  | .profile payload => .profile { payload with signature := [], dnd := false, dndSignature := [] }
  | .profileDnd payload => .profileDnd { payload with displayName := "", tuiActive := false, dndSignature := [] }
  | .fileOffer offer => .fileOffer { offer with signature := [] }
  | .fileChunk chunk => .fileChunk { chunk with signature := [], totalChunks := 0 }
  | .fileAck ack => .fileAck { ack with signature := [] }

/-- The checks of the payload, whatever its signature is to be. -/
def Valid : Signed → Prop
  | .handshake payload => ∃ signature, ({ payload with signature } : HandshakePayload).checked = true
  | .hello value => value.unread = []
  | .card value => value.kind = "endpoint"
  | .message payload => payload.valid = true
  | .groupMessage payload => ∃ signature, ({ payload with signature } : GroupMessagePayload).valid = true
  | .groupOrigin origin => origin.replyToMessageId.all validRequestId = true
  | .typing payload => ∃ signature, ({ payload with signature } : TypingPayload).valid = true
  | .groupAck payload => ∃ signature, ({ payload with signature } : GroupAckPayload).valid = true
  | .groupLeave payload => ∃ signature, ({ payload with signature } : GroupLeavePayload).valid = true
  | .friendRequest payload => ∃ signature, ({ payload with signature } : FriendRequestPayload).valid = true
  | .friendResponse payload => ∃ signature, ({ payload with signature } : FriendRequestResponsePayload).valid = true
  | .friendCancelled payload => ∃ signature, ({ payload with signature } : FriendRequestCancelledPayload).valid = true
  | .messageBlocked payload => ∃ signature, ({ payload with signature } : MessageBlockedPayload).valid = true
  | .profile payload => ∃ signature, ({ payload with signature } : ProfilePayload).valid = true
  | .profileDnd payload => payload.signature.length = 64
  | .fileOffer offer => ∃ signature, ({ offer with signature } : FileOfferV2Payload).valid = true
  | .fileChunk chunk => ∃ signature, ({ chunk with signature } : FileChunkV2Payload).valid = true
  | .fileAck ack => ack.valid false = true

/-! ## The document tells the payload -/

def members (signed : Signed) : List (String × Json) :=
  match signed.document with
  | .object members => members
  | _ => []

theorem document_eq {signed : Signed} : signed.document = .object signed.members := by
  cases signed <;> rfl

end Signed

inductive SignedKind where
  | handshake | hello | card | message | groupMessage | groupOrigin | typing | groupAck | groupLeave | friendRequest
  | friendResponse | friendCancelled | messageBlocked | profile | profileDnd | fileOffer | fileChunk | fileAck
deriving DecidableEq, Repr

namespace SignedKind

def all : List SignedKind :=
  [handshake, hello, card, message, groupMessage, groupOrigin, typing, groupAck, groupLeave, friendRequest,
   friendResponse, friendCancelled, messageBlocked, profile, profileDnd, fileOffer, fileChunk, fileAck]

/-- The members every document of the kind has. -/
def required : SignedKind → List String
  | handshake =>
      ["peer_id", "signing_public_key", "encryption_public_key", "display_name", "nonce", "challenge", "capabilities",
       "transport_version", "session_public_key"]
  | hello =>
      ["capabilities", "peer_id", "display_name", "signing_public_key", "encryption_public_key", "session_public_key",
       "nonce"]
  | card => ["kind", "peer_id", "signing_public_key", "candidate", "created_at", "nonce"]
  | message => ["message_id", "sender_id", "recipient_id", "created_at"]
  | groupMessage => ["message_id", "group_id", "sender_id", "recipient_id", "created_at"]
  | groupOrigin => ["message_id", "group_id", "sender_id", "created_at", "content_sha256"]
  | typing => ["sender_id", "recipient_id", "created_at"]
  | groupAck => ["message_id", "group_id", "recipient_id"]
  | groupLeave => ["event_id", "group_id", "peer_id", "created_at"]
  | friendRequest => ["request_id", "sender_id", "note", "created_at"]
  | friendResponse => ["request_id", "responder_id", "accept"]
  | friendCancelled => ["request_id", "sender_id"]
  | messageBlocked => ["message_id", "blocked_by"]
  | profile => ["peer_id", "display_name", "tui_active"]
  | profileDnd => ["peer_id", "dnd", "profile_signature"]
  | fileOffer =>
      ["file_id", "filename", "file_size", "chunk_size", "total_chunks", "file_sha256", "caption", "sender_id",
       "recipient_id", "created_at"]
  | fileChunk => ["file_id", "chunk_index", "sender_id", "recipient_id"]
  | fileAck => ["file_id", "recipient_id", "status"]

/-- The members a document of the kind may have besides. -/
def optional : SignedKind → List String
  | card => ["candidates"]
  | message | groupMessage | groupOrigin => ["reply_to_message_id"]
  | fileOffer => ["group_id", "batch_id", "batch_index", "batch_count"]
  | fileChunk => ["group_id"]
  | fileAck => ["missing_ranges"]
  | _ => []

theorem mem_all (kind : SignedKind) : kind ∈ all := by cases kind <;> decide

theorem names_distinct (kind : SignedKind) : (kind.required ++ kind.optional).Nodup := by
  have checked : ∀ kind ∈ all, (kind.required ++ kind.optional).Nodup := by decide
  exact checked kind kind.mem_all

/-- Two kinds are told apart by a member that the one always and the other never has. -/
theorem told_apart (first second : SignedKind) (apart : first ≠ second) :
    (∃ name ∈ first.required, name ∉ second.required ++ second.optional) ∨
      ∃ name ∈ second.required, name ∉ first.required ++ first.optional := by
  have checked : ∀ first ∈ all, ∀ second ∈ all, first ≠ second →
      (∃ name ∈ first.required, name ∉ second.required ++ second.optional) ∨
        ∃ name ∈ second.required, name ∉ first.required ++ first.optional := by decide
  exact checked first first.mem_all second second.mem_all apart

end SignedKind

namespace Signed

def kind : Signed → SignedKind
  | .handshake _ => .handshake
  | .hello _ => .hello
  | .card _ => .card
  | .message _ => .message
  | .groupMessage _ => .groupMessage
  | .groupOrigin _ => .groupOrigin
  | .typing _ => .typing
  | .groupAck _ => .groupAck
  | .groupLeave _ => .groupLeave
  | .friendRequest _ => .friendRequest
  | .friendResponse _ => .friendResponse
  | .friendCancelled _ => .friendCancelled
  | .messageBlocked _ => .messageBlocked
  | .profile _ => .profile
  | .profileDnd _ => .profileDnd
  | .fileOffer _ => .fileOffer
  | .fileChunk _ => .fileChunk
  | .fileAck _ => .fileAck

def names (signed : Signed) : List String := signed.members.map Prod.fst

theorem names_replyMember {reply : Option String} :
    ((replyMember reply).map Prod.fst).Sublist ["reply_to_message_id"] := by
  unfold replyMember
  split
  · split
    · exact List.nil_sublist _
    · exact List.Sublist.refl _
  · exact List.nil_sublist _

theorem names_optional {value : Option α} {name : String} {json : α → Json} :
    ((value.map fun given => (name, json given)).toList.map Prod.fst).Sublist [name] := by
  cases value with
  | none => exact List.nil_sublist _
  | some given => exact List.Sublist.refl _

theorem names_listed {signed : Signed} :
    ∃ listing : List String, listing.Perm (signed.kind.required ++ signed.kind.optional) ∧ signed.names.Sublist listing := by
  cases signed with
  | card card =>
      refine ⟨["kind", "peer_id", "signing_public_key", "candidate"] ++ ["candidates"] ++ ["created_at", "nonce"],
        by simp only [kind, SignedKind.required, SignedKind.optional]; decide, ?_⟩
      rw [names, members, document, EndpointCard.unsigned]
      rw [List.map_append, List.map_append]
      refine ((List.Sublist.refl _).append ?_).append (List.Sublist.refl _)
      cases card.candidates with
      | none => exact List.nil_sublist _
      | some listed => exact List.Sublist.refl _
  | message payload =>
      refine ⟨_, .refl _, ?_⟩
      rw [names, members, document, MessagePayload.associatedData, List.map_append]
      exact (List.Sublist.refl _).append names_replyMember
  | groupMessage payload =>
      refine ⟨_, .refl _, ?_⟩
      rw [names, members, document, GroupMessagePayload.associatedData, List.map_append]
      exact (List.Sublist.refl _).append names_replyMember
  | groupOrigin origin =>
      refine ⟨_, .refl _, ?_⟩
      rw [names, members, document, Protocol.groupOrigin, List.map_append]
      exact (List.Sublist.refl _).append names_replyMember
  | fileOffer offer =>
      refine ⟨_, .refl _, ?_⟩
      rw [names, members, document, FileOfferV2Payload.unsigned, List.map_append, List.map_append, List.append_assoc]
      refine (List.Sublist.refl _).append (names_optional.append ?_)
      split
      · exact List.Sublist.refl _
      · exact List.nil_sublist _
  | fileChunk chunk =>
      refine ⟨_, .refl _, ?_⟩
      rw [names, members, document, FileChunkV2Payload.associatedData, List.map_append]
      exact (List.Sublist.refl _).append names_optional
  | fileAck ack =>
      refine ⟨_, .refl _, ?_⟩
      rw [names, members, document, FileAckV2Payload.unsignedMembers, List.map_append]
      exact (List.Sublist.refl _).append names_optional
  | _ => exact ⟨_, .refl _, List.Sublist.refl _⟩

theorem names_nodup {signed : Signed} : signed.names.Nodup := by
  obtain ⟨listing, permuted, within⟩ := @names_listed signed
  exact (permuted.nodup_iff.mpr signed.kind.names_distinct).sublist within

theorem names_subset {signed : Signed} : signed.names ⊆ signed.kind.required ++ signed.kind.optional := by
  obtain ⟨listing, permuted, within⟩ := @names_listed signed
  exact fun name member => permuted.subset (within.subset member)

theorem required_names {signed : Signed} : signed.kind.required ⊆ signed.names := by
  cases signed with
  | card card =>
      rw [names, members, document, EndpointCard.unsigned]
      rw [List.map_append, List.map_append]
      intro name member
      rcases List.mem_append.mp (show name ∈ ["kind", "peer_id", "signing_public_key", "candidate"] ++
        ["created_at", "nonce"] from member) with first | last
      · exact List.mem_append_left _ (List.mem_append_left _ first)
      · exact List.mem_append_right _ last
  | message payload =>
      rw [names, members, document, MessagePayload.associatedData, List.map_append]
      exact List.subset_append_left _ _
  | groupMessage payload =>
      rw [names, members, document, GroupMessagePayload.associatedData, List.map_append]
      exact List.subset_append_left _ _
  | groupOrigin origin =>
      rw [names, members, document, Protocol.groupOrigin, List.map_append]
      exact List.subset_append_left _ _
  | fileOffer offer =>
      rw [names, members, document, FileOfferV2Payload.unsigned, List.map_append, List.map_append, List.append_assoc]
      exact List.subset_append_left _ _
  | fileChunk chunk =>
      rw [names, members, document, FileChunkV2Payload.associatedData, List.map_append]
      exact List.subset_append_left _ _
  | fileAck ack =>
      rw [names, members, document, FileAckV2Payload.unsignedMembers, List.map_append]
      exact List.subset_append_left _ _
  | _ => exact List.Subset.refl _

/-- Two lists of members with the same value under every name, up to the order
of keys. -/
def Agree (first second : List (String × Json)) : Prop :=
  ∀ name, (first.lookup name).map Json.sortKeys = (second.lookup name).map Json.sortKeys

theorem Agree.names {first second : List (String × Json)} (agree : Agree first second) {name : String}
    (member : name ∈ first.map Prod.fst) : name ∈ second.map Prod.fst := by
  by_contra absent
  have missing : second.lookup name = none :=
    List.lookup_eq_none_iff.mpr fun pair listed => by
      have apart : name ≠ pair.1 := fun same => absent (List.mem_map.mpr ⟨pair, listed, same.symm⟩)
      simp [apart]
  have both := agree name
  rw [missing, Option.map_none, Option.map_eq_none_iff, List.lookup_eq_none_iff] at both
  obtain ⟨pair, listed, rfl⟩ := List.mem_map.mp member
  exact absurd (both pair listed) (by simp)

theorem same_kind {one other : Signed} (agree : Agree one.members other.members) : one.kind = other.kind := by
  by_contra apart
  rcases SignedKind.told_apart one.kind other.kind apart with ⟨name, always, never⟩ | ⟨name, always, never⟩
  · exact never (names_subset (agree.names (required_names always)))
  · exact never (names_subset (Agree.names (fun name => (agree name).symm) (required_names always)))

section

variable {first second : List (String × Json)} (agree : Agree first second) (name : String)

include agree

theorem Agree.value {one other : Json} (found : first.lookup name = some one) (also : second.lookup name = some other) :
    one.sortKeys = other.sortKeys := by
  have both := agree name
  rw [found, also, Option.map_some, Option.map_some] at both
  exact Option.some.inj both

theorem Agree.text {one other : String} (found : first.lookup name = some (.text one))
    (also : second.lookup name = some (.text other)) : one = other := by
  have values := agree.value name found also
  simpa only [Json.sortKeys, Json.text.injEq] using values

theorem Agree.hex {one other : Bytes} (found : first.lookup name = some (.text (Hex.toText one)))
    (also : second.lookup name = some (.text (Hex.toText other))) : one = other := by
  have texts := agree.text name found also
  exact Option.some.inj (by rw [← Hex.ofText_toText, texts, Hex.ofText_toText])

theorem Agree.int {one other : Int} (found : first.lookup name = some (.int one))
    (also : second.lookup name = some (.int other)) : one = other := by
  have values := agree.value name found also
  simpa only [Json.sortKeys, Json.int.injEq] using values

theorem Agree.nat {one other : Nat} (found : first.lookup name = some (.int one))
    (also : second.lookup name = some (.int other)) : one = other :=
  Int.ofNat.inj (agree.int name found also)

theorem Agree.bool {one other : Bool} (found : first.lookup name = some (.bool one))
    (also : second.lookup name = some (.bool other)) : one = other := by
  have values := agree.value name found also
  simpa only [Json.sortKeys, Json.bool.injEq] using values

theorem Agree.number {one other : JsonNumber} (found : first.lookup name = some one.json)
    (also : second.lookup name = some other.json) : one = other := by
  have values := agree.value name found also
  cases one with
  | int value =>
      cases other with
      | int also => exact congrArg JsonNumber.int (Json.int.inj values)
      | real also => cases values
  | real value =>
      cases other with
      | int also => cases values
      | real also => exact congrArg JsonNumber.real (Json.real.inj values)

theorem Agree.texts {one other : List String} (found : first.lookup name = some (textsJson one))
    (also : second.lookup name = some (textsJson other)) : one = other := by
  have values := agree.value name found also
  rw [textsJson, textsJson, Json.sortKeys, Json.sortKeys, sortItems_eq, sortItems_eq] at values
  have plain : ∀ texts : List String, (texts.map Json.text).map Json.sortKeys = texts.map Json.text := fun texts => by
    rw [List.map_map]
    exact List.map_congr_left fun text _ => by rw [Function.comp_apply, Json.sortKeys]
  rw [plain, plain] at values
  exact List.map_injective_iff.mpr (fun _ _ same => Json.text.inj same) (Json.array.inj values)

theorem Agree.optional {json : α → Json} (injective : ∀ one other, (json one).sortKeys = (json other).sortKeys → one = other)
    {one other : Option α} (found : first.lookup name = one.map json) (also : second.lookup name = other.map json) :
    one = other := by
  have both := agree name
  rw [found, also, Option.map_map, Option.map_map] at both
  exact Option.map_injective (fun _ _ same => injective _ _ same) both

end

theorem text_injective (one other : String) (same : (Json.text one).sortKeys = (Json.text other).sortKeys) : one = other := by
  simpa only [Json.sortKeys, Json.text.injEq] using same

theorem nat_injective (one other : Nat) (same : (Json.int one).sortKeys = (Json.int other).sortKeys) : one = other := by
  rw [Json.sortKeys, Json.sortKeys] at same
  exact Int.ofNat.inj (Json.int.inj same)

/-! ## Each payload agrees with itself -/

section

theorem handshake_agree {one other : HandshakePayload} (agree : Agree (members (.handshake one)) (members (.handshake other))) :
    covered (.handshake one) = covered (.handshake other) := by
  rw [covered, covered, agree.text "peer_id" rfl rfl, agree.hex "signing_public_key" rfl rfl,
    agree.hex "encryption_public_key" rfl rfl, agree.text "display_name" rfl rfl, agree.hex "nonce" rfl rfl,
    agree.hex "challenge" rfl rfl, agree.texts "capabilities" rfl rfl, agree.int "transport_version" rfl rfl,
    agree.hex "session_public_key" rfl rfl]

theorem hello_agree {one other : Hello} (agree : Agree (members (.hello one)) (members (.hello other))) :
    covered (.hello one) = covered (.hello other) := by
  rw [covered, covered, agree.texts "capabilities" rfl rfl, agree.text "peer_id" rfl rfl,
    agree.text "display_name" rfl rfl, agree.hex "signing_public_key" rfl rfl,
    agree.hex "encryption_public_key" rfl rfl, agree.hex "session_public_key" rfl rfl, agree.hex "nonce" rfl rfl]

theorem typing_agree {one other : TypingPayload} (agree : Agree (members (.typing one)) (members (.typing other)))
    (content : one.encryptedContent = other.encryptedContent) : covered (.typing one) = covered (.typing other) := by
  rw [covered, covered, agree.text "sender_id" rfl rfl, agree.text "recipient_id" rfl rfl,
    agree.number "created_at" rfl rfl, content]

theorem groupAck_agree {one other : GroupAckPayload} (agree : Agree (members (.groupAck one)) (members (.groupAck other))) :
    covered (.groupAck one) = covered (.groupAck other) := by
  rw [covered, covered, agree.text "message_id" rfl rfl, agree.text "group_id" rfl rfl,
    agree.text "recipient_id" rfl rfl]

theorem groupLeave_agree {one other : GroupLeavePayload}
    (agree : Agree (members (.groupLeave one)) (members (.groupLeave other))) :
    covered (.groupLeave one) = covered (.groupLeave other) := by
  rw [covered, covered, agree.text "event_id" rfl rfl, agree.text "group_id" rfl rfl, agree.text "peer_id" rfl rfl,
    agree.number "created_at" rfl rfl]

theorem friendRequest_agree {one other : FriendRequestPayload}
    (agree : Agree (members (.friendRequest one)) (members (.friendRequest other))) :
    covered (.friendRequest one) = covered (.friendRequest other) := by
  rw [covered, covered, agree.text "request_id" rfl rfl, agree.text "sender_id" rfl rfl, agree.text "note" rfl rfl,
    agree.number "created_at" rfl rfl]

theorem friendResponse_agree {one other : FriendRequestResponsePayload}
    (agree : Agree (members (.friendResponse one)) (members (.friendResponse other))) :
    covered (.friendResponse one) = covered (.friendResponse other) := by
  rw [covered, covered, agree.text "request_id" rfl rfl, agree.text "responder_id" rfl rfl, agree.bool "accept" rfl rfl]

theorem friendCancelled_agree {one other : FriendRequestCancelledPayload}
    (agree : Agree (members (.friendCancelled one)) (members (.friendCancelled other))) :
    covered (.friendCancelled one) = covered (.friendCancelled other) := by
  rw [covered, covered, agree.text "request_id" rfl rfl, agree.text "sender_id" rfl rfl]

theorem messageBlocked_agree {one other : MessageBlockedPayload}
    (agree : Agree (members (.messageBlocked one)) (members (.messageBlocked other))) :
    covered (.messageBlocked one) = covered (.messageBlocked other) := by
  rw [covered, covered, agree.text "message_id" rfl rfl, agree.text "blocked_by" rfl rfl]

theorem profile_agree {one other : ProfilePayload} (agree : Agree (members (.profile one)) (members (.profile other))) :
    covered (.profile one) = covered (.profile other) := by
  rw [covered, covered, agree.text "peer_id" rfl rfl, agree.text "display_name" rfl rfl,
    agree.bool "tui_active" rfl rfl]

theorem profileDnd_agree {one other : ProfilePayload}
    (agree : Agree (members (.profileDnd one)) (members (.profileDnd other))) :
    covered (.profileDnd one) = covered (.profileDnd other) := by
  rw [covered, covered, agree.text "peer_id" rfl rfl, agree.bool "dnd" rfl rfl,
    agree.hex "profile_signature" rfl rfl]

/-! ### Members that may be left out -/

theorem lookup_reply {base : List (String × Json)} (absent : base.lookup "reply_to_message_id" = none)
    {reply : Option String} (valid : reply.all validRequestId = true) :
    (base ++ replyMember reply).lookup "reply_to_message_id" = reply.map Json.text := by
  rw [List.lookup_append, absent, Option.none_or]
  cases reply with
  | none => rfl
  | some messageId =>
      have given : messageId ≠ "" := by
        simp only [Option.all_some, validRequestId, Bool.and_eq_true, decide_eq_true_eq] at valid
        exact valid.2
      rw [replyMember, if_neg given]
      rfl

theorem lookup_optional {base rest : List (String × Json)} {name : String} (absent : base.lookup name = none)
    (later : rest.lookup name = none) {value : Option α} {json : α → Json} :
    (base ++ (value.map fun given => (name, json given)).toList ++ rest).lookup name = value.map json := by
  rw [List.append_assoc, List.lookup_append, absent, Option.none_or, List.lookup_append]
  cases value with
  | none => exact later
  | some given => simp

theorem message_agree {one other : MessagePayload} (agree : Agree (members (.message one)) (members (.message other)))
    (content : one.encryptedContent = other.encryptedContent) (valid : one.valid = true) (also : other.valid = true) :
    covered (.message one) = covered (.message other) := by
  simp only [MessagePayload.valid, Bool.and_eq_true] at valid also
  have reply := agree.optional "reply_to_message_id" text_injective (lookup_reply rfl valid.1.1.1.1.1)
    (lookup_reply rfl also.1.1.1.1.1)
  rw [covered, covered, agree.text "message_id" rfl rfl, agree.text "sender_id" rfl rfl,
    agree.text "recipient_id" rfl rfl, agree.number "created_at" rfl rfl, content, reply]

theorem groupMessage_agree {one other : GroupMessagePayload}
    (agree : Agree (members (.groupMessage one)) (members (.groupMessage other)))
    (content : one.encryptedContent = other.encryptedContent) (valid : one.replyToMessageId.all validRequestId = true)
    (also : other.replyToMessageId.all validRequestId = true) :
    covered (.groupMessage one) = covered (.groupMessage other) := by
  have reply := agree.optional "reply_to_message_id" text_injective (lookup_reply rfl valid) (lookup_reply rfl also)
  rw [covered, covered, agree.text "message_id" rfl rfl, agree.text "group_id" rfl rfl, agree.text "sender_id" rfl rfl,
    agree.text "recipient_id" rfl rfl, agree.number "created_at" rfl rfl, content, reply]

theorem groupOrigin_agree {one other : GroupOrigin} (agree : Agree (members (.groupOrigin one)) (members (.groupOrigin other)))
    (valid : one.replyToMessageId.all validRequestId = true) (also : other.replyToMessageId.all validRequestId = true) :
    covered (.groupOrigin one) = covered (.groupOrigin other) := by
  have reply := agree.optional "reply_to_message_id" text_injective (lookup_reply rfl valid) (lookup_reply rfl also)
  exact congrArg Signed.groupOrigin (GroupOrigin.ext (agree.text "message_id" rfl rfl) (agree.text "group_id" rfl rfl)
    (agree.text "sender_id" rfl rfl) (agree.number "created_at" rfl rfl) reply (agree.text "content_sha256" rfl rfl))

/-! ### Files -/

theorem fileChunk_agree {one other : FileChunkV2Payload}
    (agree : Agree (members (.fileChunk one)) (members (.fileChunk other)))
    (content : one.encryptedContent = other.encryptedContent) :
    covered (.fileChunk one) = covered (.fileChunk other) := by
  have grouped : ∀ chunk : FileChunkV2Payload,
      (members (.fileChunk chunk)).lookup "group_id" = chunk.groupId.map Json.text := fun chunk =>
    (congrArg (List.lookup "group_id") (List.append_nil _).symm).trans (lookup_optional rfl rfl)
  have group := agree.optional "group_id" text_injective (grouped one) (grouped other)
  rw [covered, covered, agree.text "file_id" rfl rfl, agree.nat "chunk_index" rfl rfl, agree.text "sender_id" rfl rfl,
    agree.text "recipient_id" rfl rfl, content, group]

theorem ranges_injective (one other : List (Int × Int))
    (same : (Json.array (one.map FileAckV2Payload.rangeJson)).sortKeys =
      (Json.array (other.map FileAckV2Payload.rangeJson)).sortKeys) : one = other := by
  rw [Json.sortKeys, Json.sortKeys, sortItems_eq, sortItems_eq, List.map_map, List.map_map] at same
  refine List.map_injective_iff.mpr (fun first second equal => ?_) (Json.array.inj same)
  simpa [FileAckV2Payload.rangeJson, Json.sortKeys, Json.sortItems, Prod.ext_iff] using equal

theorem fileAck_agree {one other : FileAckV2Payload} (agree : Agree (members (.fileAck one)) (members (.fileAck other))) :
    covered (.fileAck one) = covered (.fileAck other) := by
  have listed : ∀ ack : FileAckV2Payload, (members (.fileAck ack)).lookup "missing_ranges" =
      ack.missingRanges.map fun ranges => Json.array (ranges.map FileAckV2Payload.rangeJson) := fun ack =>
    (congrArg (List.lookup "missing_ranges") (List.append_nil _).symm).trans (lookup_optional rfl rfl)
  have ranges := agree.optional "missing_ranges" ranges_injective (listed one) (listed other)
  have texts := agree.text "status" rfl rfl
  have status : one.status = other.status := by
    have told : ∀ first second : AckStatus, first.text = second.text → first = second := by
      intro first second
      cases first <;> cases second <;> decide
    exact told _ _ texts
  rw [covered, covered, agree.text "file_id" rfl rfl, agree.text "recipient_id" rfl rfl, status, ranges]

/-- The members of a batch, all of them or none. -/
def batchMembers (offer : FileOfferV2Payload) : List (String × Json) :=
  match offer.batchId, offer.batchIndex, offer.batchCount with
  | some id, some index, some count => [("batch_id", .text id), ("batch_index", .int index), ("batch_count", .int count)]
  | _, _, _ => []

theorem lookup_batch {offer : FileOfferV2Payload} (valid : offer.validBatch = true) :
    (batchMembers offer).lookup "batch_id" = offer.batchId.map Json.text ∧
      (batchMembers offer).lookup "batch_index" = offer.batchIndex.map (fun index : Nat => Json.int index) ∧
      (batchMembers offer).lookup "batch_count" = offer.batchCount.map (fun count : Nat => Json.int count) ∧
      (batchMembers offer).lookup "group_id" = none := by
  unfold FileOfferV2Payload.validBatch at valid
  unfold batchMembers
  split at valid
  · rename_i id index count
    rw [id, index, count]
    exact ⟨rfl, rfl, rfl, rfl⟩
  · rename_i id index count
    rw [id, index, count]
    exact ⟨rfl, rfl, rfl, rfl⟩
  · cases valid

/-- What stands behind an optional member is found past it. -/
theorem lookup_past_optional {base rest : List (String × Json)} {label name : String} (absent : base.lookup name = none)
    (other : name ≠ label) {value : Option α} {json : α → Json} :
    (base ++ (value.map fun given => (label, json given)).toList ++ rest).lookup name = rest.lookup name := by
  rw [List.append_assoc, List.lookup_append, absent, Option.none_or, List.lookup_append]
  cases value with
  | none => rfl
  | some given =>
      rw [Option.map_some, Option.toList_some, List.lookup_cons, beq_false_of_ne other]
      rfl

theorem fileOffer_agree {one other : FileOfferV2Payload}
    (agree : Agree (members (.fileOffer one)) (members (.fileOffer other))) (valid : one.validBatch = true)
    (also : other.validBatch = true) : covered (.fileOffer one) = covered (.fileOffer other) := by
  have grouped : ∀ offer : FileOfferV2Payload, offer.validBatch = true →
      (members (.fileOffer offer)).lookup "group_id" = offer.groupId.map Json.text := fun offer valid =>
    lookup_optional rfl (lookup_batch valid).2.2.2
  have batch : ∀ (offer : FileOfferV2Payload) name, name = "batch_id" ∨ name = "batch_index" ∨ name = "batch_count" →
      (members (.fileOffer offer)).lookup name = (batchMembers offer).lookup name := by
    rintro offer name (rfl | rfl | rfl)
    · exact lookup_past_optional rfl (by decide)
    · exact lookup_past_optional rfl (by decide)
    · exact lookup_past_optional rfl (by decide)
  have group := agree.optional "group_id" text_injective (grouped one valid) (grouped other also)
  have ids := agree.optional "batch_id" text_injective ((batch one _ (.inl rfl)).trans (lookup_batch valid).1)
    ((batch other _ (.inl rfl)).trans (lookup_batch also).1)
  have indices := agree.optional "batch_index" nat_injective
    ((batch one _ (.inr (.inl rfl))).trans (lookup_batch valid).2.1)
    ((batch other _ (.inr (.inl rfl))).trans (lookup_batch also).2.1)
  have counts := agree.optional "batch_count" nat_injective
    ((batch one _ (.inr (.inr rfl))).trans (lookup_batch valid).2.2.1)
    ((batch other _ (.inr (.inr rfl))).trans (lookup_batch also).2.2.1)
  rw [covered, covered, agree.text "file_id" rfl rfl, agree.text "filename" rfl rfl, agree.nat "file_size" rfl rfl,
    agree.nat "chunk_size" rfl rfl, agree.nat "total_chunks" rfl rfl, agree.text "file_sha256" rfl rfl,
    agree.text "caption" rfl rfl, agree.text "sender_id" rfl rfl, agree.text "recipient_id" rfl rfl, group, ids, indices,
    counts]
  have dates : one.createdAt = other.createdAt := by
    have values := agree.value "created_at" rfl rfl
    exact Json.real.inj values
  rw [dates]

/-! ### Cards -/

theorem direct_names {host : String} {port : Int} :
    ([("type", Json.text "direct"), ("host", .text host), ("port", .int port)].map Prod.fst).Nodup :=
  show ["type", "host", "port"].Nodup by decide

theorem derp_names : ([("type", Json.text "derp")].map Prod.fst).Nodup := by decide

theorem candidate_injective (one other : CardCandidate) (same : one.json.sortKeys = other.json.sortKeys) : one = other := by
  cases one with
  | direct host port =>
      cases other with
      | direct otherHost otherPort =>
          have agree : Agree _ _ := lookup_of_sorted direct_names direct_names same
          rw [agree.text "host" rfl rfl, agree.int "port" rfl rfl]
      | derp =>
          have agree : Agree _ _ := lookup_of_sorted direct_names derp_names same
          exact absurd (agree.text "type" rfl rfl) (by decide)
  | derp =>
      cases other with
      | direct otherHost otherPort =>
          have agree : Agree _ _ := lookup_of_sorted derp_names direct_names same
          exact absurd (agree.text "type" rfl rfl) (by decide)
      | derp => rfl

theorem candidates_injective (one other : List CardCandidate)
    (same : (Json.array (one.map CardCandidate.json)).sortKeys = (Json.array (other.map CardCandidate.json)).sortKeys) :
    one = other := by
  rw [Json.sortKeys, Json.sortKeys, sortItems_eq, sortItems_eq, List.map_map, List.map_map] at same
  exact List.map_injective_iff.mpr (fun first second equal => candidate_injective first second equal) (Json.array.inj same)

/-- The single candidate of older cards. -/
def legacyJson : Option (String × Int) → Json
  | some (host, port) => .object [("host", .text host), ("port", .int port)]
  | none => .null

theorem legacy_names {host : String} {port : Int} : ([("host", Json.text host), ("port", .int port)].map Prod.fst).Nodup :=
  show ["host", "port"].Nodup by decide

theorem legacyJson_injective (one other : Option (String × Int))
    (same : (legacyJson one).sortKeys = (legacyJson other).sortKeys) : one = other := by
  cases one with
  | none =>
      cases other with
      | none => rfl
      | some endpoint => cases same
  | some endpoint =>
      cases other with
      | none => cases same
      | some otherEndpoint =>
          obtain ⟨host, port⟩ := endpoint
          obtain ⟨otherHost, otherPort⟩ := otherEndpoint
          have agree : Agree _ _ := lookup_of_sorted legacy_names legacy_names same
          rw [agree.text "host" rfl rfl, agree.int "port" rfl rfl]

theorem card_members {card : EndpointCard} :
    members (.card card) =
      [("kind", .text card.kind), ("peer_id", .text card.peerId),
        ("signing_public_key", .text (Hex.toText card.signingPublicKey)), ("candidate", legacyJson card.candidate)] ++
      (card.candidates.map fun listed => ("candidates", Json.array (listed.map CardCandidate.json))).toList ++
      [("created_at", card.createdAt.json), ("nonce", .text card.nonce)] := by
  obtain ⟨kind, peerId, key, candidate, candidates, createdAt, nonce, signature⟩ := card
  cases candidates <;> cases candidate <;> rfl

theorem card_agree {one other : EndpointCard} (agree : Agree (members (.card one)) (members (.card other))) :
    covered (.card one) = covered (.card other) := by
  rw [card_members, card_members] at agree
  have legacy := legacyJson_injective _ _ (agree.value "candidate" rfl rfl)
  have listed := agree.optional "candidates" candidates_injective (lookup_optional rfl rfl) (lookup_optional rfl rfl)
  have created := agree.number "created_at" (lookup_past_optional rfl (by decide)) (lookup_past_optional rfl (by decide))
  have nonces := agree.text "nonce" (lookup_past_optional rfl (by decide)) (lookup_past_optional rfl (by decide))
  rw [covered, covered, agree.text "kind" rfl rfl, agree.text "peer_id" rfl rfl,
    agree.hex "signing_public_key" rfl rfl, legacy, listed, created, nonces]

end

/-- Payloads whose documents agree, and whose ciphertexts are the same, agree in
all that is signed. -/
theorem covered_of_agree {one other : Signed} (agree : Agree one.members other.members)
    (content : one.ciphertext = other.ciphertext) (valid : one.Valid) (also : other.Valid) : one.covered = other.covered := by
  have same := same_kind agree
  cases one with
  | handshake payload => cases other <;> simp only [kind, reduceCtorEq] at same; exact handshake_agree agree
  | hello value => cases other <;> simp only [kind, reduceCtorEq] at same; exact hello_agree agree
  | card value => cases other <;> simp only [kind, reduceCtorEq] at same; exact card_agree agree
  | message payload =>
      cases other <;> simp only [kind, reduceCtorEq] at same
      exact message_agree agree (Option.some.inj content) valid also
  | groupMessage payload =>
      cases other <;> simp only [kind, reduceCtorEq] at same
      obtain ⟨_, valid⟩ := valid
      obtain ⟨_, also⟩ := also
      simp only [GroupMessagePayload.valid, Bool.and_eq_true] at valid also
      exact groupMessage_agree agree (Option.some.inj content) valid.2 also.2
  | groupOrigin origin =>
      cases other <;> simp only [kind, reduceCtorEq] at same
      exact groupOrigin_agree agree valid also
  | typing payload =>
      cases other <;> simp only [kind, reduceCtorEq] at same
      exact typing_agree agree (Option.some.inj content)
  | groupAck payload => cases other <;> simp only [kind, reduceCtorEq] at same; exact groupAck_agree agree
  | groupLeave payload => cases other <;> simp only [kind, reduceCtorEq] at same; exact groupLeave_agree agree
  | friendRequest payload => cases other <;> simp only [kind, reduceCtorEq] at same; exact friendRequest_agree agree
  | friendResponse payload => cases other <;> simp only [kind, reduceCtorEq] at same; exact friendResponse_agree agree
  | friendCancelled payload => cases other <;> simp only [kind, reduceCtorEq] at same; exact friendCancelled_agree agree
  | messageBlocked payload => cases other <;> simp only [kind, reduceCtorEq] at same; exact messageBlocked_agree agree
  | profile payload => cases other <;> simp only [kind, reduceCtorEq] at same; exact profile_agree agree
  | profileDnd payload => cases other <;> simp only [kind, reduceCtorEq] at same; exact profileDnd_agree agree
  | fileOffer offer =>
      cases other <;> simp only [kind, reduceCtorEq] at same
      obtain ⟨_, valid⟩ := valid
      obtain ⟨_, also⟩ := also
      simp only [FileOfferV2Payload.valid, Bool.and_eq_true] at valid also
      exact fileOffer_agree agree valid.1.2 also.1.2
  | fileChunk chunk =>
      cases other <;> simp only [kind, reduceCtorEq] at same
      exact fileChunk_agree agree (Option.some.inj content)
  | fileAck ack => cases other <;> simp only [kind, reduceCtorEq] at same; exact fileAck_agree agree

/-! ## No document is as short as a digest -/

def nameBytes (name : String) : Nat := byteCount (quote name) + 1

def valueBytes (floatRepr : Rat → List Char) (member : String × Json) : Nat :=
  nameBytes member.1 + byteCount (member.2.dumps (.compact floatRepr))

section

variable {floatRepr : Rat → List Char} {document : List (String × Json)}

theorem compact_marks :
    byteCount (JsonWriter.compact floatRepr).itemSeparator = 1 ∧ byteCount (JsonWriter.compact floatRepr).keySeparator = 1 ∧
      byteCount ['\x7b'] = 1 ∧ byteCount ['\x7d'] = 1 := by
  refine ⟨?_, ?_, by decide, by decide⟩
  · change byteCount [','] = 1
    decide
  · change byteCount [':'] = 1
    decide

theorem byteCount_dumpsMember {member : String × Json} :
    byteCount (Json.dumpsMember (.compact floatRepr) member) = valueBytes floatRepr member := by
  obtain ⟨name, value⟩ := member
  rw [Json.dumpsMember, byteCount_append, byteCount_append, compact_marks.2.1]
  rfl

theorem sum_le_dumpsMembers :
    (document.map (valueBytes floatRepr)).sum ≤ byteCount (Json.dumpsMembers (.compact floatRepr) document) := by
  induction document with
  | nil => exact Nat.zero_le _
  | cons member rest ih =>
      rw [List.map_cons, List.sum_cons, Json.dumpsMembers, byteCount_append, byteCount_append, byteCount_dumpsMember]
      omega

theorem sum_le_dumps :
    2 + (document.map (valueBytes floatRepr)).sum ≤ byteCount ((Json.object document).dumps (.compact floatRepr)) := by
  cases document with
  | nil =>
      rw [Json.dumps]
      exact Nat.le_of_eq (by decide : 2 = byteCount ['\x7b', '\x7d'])
  | cons member rest =>
      have later := @sum_le_dumpsMembers floatRepr rest
      rw [Json.dumps, byteCount_append, byteCount_append, byteCount_append, (@compact_marks floatRepr).2.2.1,
        (@compact_marks floatRepr).2.2.2, byteCount_dumpsMember, List.map_cons, List.sum_cons]
      omega

/-- The order of the members does not change the length of the text. -/
theorem sum_le_canonical :
    2 + ((Json.sortMembers document).map (valueBytes floatRepr)).sum ≤ ((Json.object document).canonical floatRepr).length := by
  rw [Json.canonical, Json.length_encoded, Json.sortKeys]
  have permuted := (List.mergeSort_perm (Json.sortMembers document)
    fun first second => decide (first.1 ≤ second.1)).map (valueBytes floatRepr)
  rw [← permuted.sum_eq]
  exact sum_le_dumps

theorem names_le_canonical :
    2 + ((document.map Prod.fst).map nameBytes).sum ≤ ((Json.object document).canonical floatRepr).length := by
  have names : ((document.map Prod.fst).map nameBytes).sum ≤ ((Json.sortMembers document).map (valueBytes floatRepr)).sum := by
    rw [sortMembers_eq, List.map_map, List.map_map]
    refine List.sum_le_sum fun member _ => ?_
    exact Nat.le_add_right _ _
  have whole := @sum_le_canonical floatRepr document
  omega

end

theorem weigh_subset {wanted names : List String} (distinct : wanted.Nodup) (within : wanted ⊆ names) :
    (wanted.map nameBytes).sum ≤ (names.map nameBytes).sum := by
  obtain ⟨permuted, same, sublist⟩ := distinct.subperm within
  rw [← (same.map nameBytes).sum_eq]
  exact (sublist.map nameBytes).sum_le_sum fun _ _ => Nat.zero_le _

/-- The names alone make a document longer than a digest, but for two kinds. -/
theorem names_outweigh_digest {kind : SignedKind} (long : kind ≠ .friendCancelled ∧ kind ≠ .messageBlocked)
    (plain : kind ≠ .typing) : 30 < (kind.required.map nameBytes).sum := by
  have checked : ∀ kind ∈ SignedKind.all, kind ≠ .friendCancelled ∧ kind ≠ .messageBlocked → kind ≠ .typing →
      30 < (kind.required.map nameBytes).sum := by decide
  exact checked kind kind.mem_all long plain

theorem two_le_quote {text : String} : 2 ≤ byteCount (quote text) := by
  rw [byteCount_quote]
  omega

theorem three_le_quote {text : String} (given : text ≠ "") : 3 ≤ byteCount (quote text) := by
  rw [byteCount_quote]
  have nonempty : text.toList ≠ [] := fun empty => given (String.toList_inj.mp empty)
  obtain ⟨char, rest, listed⟩ := List.exists_cons_of_ne_nil nonempty
  have first : 0 < byteCount (escape char) := by
    rcases @escape_cases char with ⟨-, written⟩ | ⟨letter, -, written⟩ | written
    · rw [written, byteCount_cons]
      have := char.utf8Size_pos
      omega
    · rw [written, byteCount_cons]
      have := ('\\').utf8Size_pos
      omega
    · obtain ⟨tail, head⟩ := @escapeOther_head char.toNat
      rw [written, head, List.cons_append, byteCount_cons]
      have := ('\\').utf8Size_pos
      omega
  rw [listed, List.map_cons, List.sum_cons]
  omega

theorem longer_than_digest {floatRepr : Rat → List Char} {signed : Signed} (plain : signed.ciphertext = none)
    (valid : signed.Valid) : 32 < (signed.document.canonical floatRepr).length := by
  have named : signed.kind ≠ .friendCancelled ∧ signed.kind ≠ .messageBlocked → signed.kind ≠ .typing →
      32 < (signed.document.canonical floatRepr).length := fun long silent => by
    have distinct : signed.kind.required.Nodup := (List.nodup_append.mp signed.kind.names_distinct).1
    have names := weigh_subset distinct required_names
    have weight := names_outweigh_digest long silent
    have whole := @names_le_canonical floatRepr signed.members
    rw [document_eq]
    rw [Signed.names] at names
    omega
  cases signed with
  | friendCancelled payload =>
      obtain ⟨_, checked⟩ := valid
      simp only [FriendRequestCancelledPayload.valid, validRequestId, validPeerId, Bool.and_eq_true, decide_eq_true_eq]
        at checked
      have request := three_le_quote checked.1.1.2
      have sender := three_le_quote checked.1.2.2
      have whole := @sum_le_canonical floatRepr (members (.friendCancelled payload))
      have names : nameBytes "request_id" = 13 ∧ nameBytes "sender_id" = 12 := by decide
      rw [document_eq]
      simp only [members, document, FriendRequestCancelledPayload.unsigned, sortMembers_eq, List.map_cons, List.map_nil,
        List.sum_cons, List.sum_nil, valueBytes, Json.sortKeys, dumps_text, names] at whole ⊢
      omega
  | messageBlocked payload =>
      obtain ⟨_, checked⟩ := valid
      simp only [MessageBlockedPayload.valid, validRequestId, validPeerId, Bool.and_eq_true, decide_eq_true_eq] at checked
      have message := three_le_quote checked.1.1.2
      have blocker := three_le_quote checked.1.2.2
      have whole := @sum_le_canonical floatRepr (members (.messageBlocked payload))
      have names : nameBytes "message_id" = 13 ∧ nameBytes "blocked_by" = 13 := by decide
      rw [document_eq]
      simp only [members, document, MessageBlockedPayload.unsigned, sortMembers_eq, List.map_cons, List.map_nil,
        List.sum_cons, List.sum_nil, valueBytes, Json.sortKeys, dumps_text, names] at whole ⊢
      omega
  | typing payload => cases plain
  | _ => exact named ⟨by rintro ⟨⟩, by rintro ⟨⟩⟩ (by rintro ⟨⟩)

/-! ## Equal bytes -/

/-- What SHA-256 is applied to before the signature, if anything. -/
def hashed (crypto : FileCrypto) (signed : Signed) : Option Bytes :=
  signed.ciphertext.map fun content => crypto.canonical signed.document ++ content

/-- SHA-256 does not collide on what the two payloads hash. -/
def CollisionFree (crypto : FileCrypto) (one other : Signed) : Prop :=
  ∀ first ∈ one.hashed crypto, ∀ second ∈ other.hashed crypto, crypto.digest first = crypto.digest second → first = second

theorem signedBytes_plain {crypto : FileCrypto} {signed : Signed} (plain : signed.ciphertext = none) :
    signed.signedBytes crypto = crypto.canonical signed.document := by
  rw [signedBytes_eq, plain]

theorem signedBytes_hashed {crypto : FileCrypto} {signed : Signed} {content : Bytes} (given : signed.ciphertext = some content) :
    signed.signedBytes crypto = crypto.digest (crypto.canonical signed.document ++ content) := by
  rw [signedBytes_eq, given]

section

variable {floatRepr : Rat → List Char} {crypto : FileCrypto} (floats : FloatText floatRepr)
  (canonical : crypto.canonical = Json.canonical floatRepr) (digestLength : ∀ message, (crypto.digest message).length = 32)

include floats canonical

theorem agree_of_canonical {one other : Signed} {rest later : Bytes}
    (same : crypto.canonical one.document ++ rest = crypto.canonical other.document ++ later) :
    Agree one.members other.members ∧ rest = later := by
  rw [canonical, document_eq, document_eq] at same
  exact canonical_injective floats names_nodup names_nodup same

include digestLength

/-- Payloads that sign the same bytes are of one kind and agree in all that is signed. -/
theorem covered_of_signedBytes {one other : Signed} (valid : one.Valid) (also : other.Valid)
    (collisionFree : CollisionFree crypto one other) (same : one.signedBytes crypto = other.signedBytes crypto) :
    one.covered = other.covered := by
  cases ours : one.ciphertext with
  | none =>
      rw [signedBytes_plain ours] at same
      cases theirs : other.ciphertext with
      | none =>
          rw [signedBytes_plain theirs, ← List.append_nil (crypto.canonical one.document),
            ← List.append_nil (crypto.canonical other.document)] at same
          have agree := (agree_of_canonical floats canonical same).1
          exact covered_of_agree agree (by rw [ours, theirs]) valid also
      | some content =>
          have long := @longer_than_digest floatRepr one ours valid
          rw [signedBytes_hashed theirs, canonical] at same
          rw [same, digestLength] at long
          exact absurd long (Nat.lt_irrefl 32)
  | some content =>
      rw [signedBytes_hashed ours] at same
      cases theirs : other.ciphertext with
      | none =>
          have long := @longer_than_digest floatRepr other theirs also
          rw [signedBytes_plain theirs, canonical] at same
          rw [← same, digestLength] at long
          exact absurd long (Nat.lt_irrefl 32)
      | some otherContent =>
          rw [signedBytes_hashed theirs] at same
          have texts := collisionFree _ (by rw [hashed, ours]; rfl) _ (by rw [hashed, theirs]; rfl) same
          obtain ⟨agree, contents⟩ := agree_of_canonical floats canonical texts
          exact covered_of_agree agree (by rw [ours, theirs, contents]) valid also

/-- A verifier that writes out the object it received accepts the bytes of a payload
only if the object has the members that the payload signs. -/
theorem agree_of_received {signed : Signed} {members : List (String × Json)} {wanted : List String}
    (distinct : (members.map Prod.fst).Nodup) (listed : wanted.Nodup) (within : wanted ⊆ members.map Prod.fst)
    (long : 30 < (wanted.map nameBytes).sum) (same : signed.signedBytes crypto = crypto.canonical (.object members)) :
    Agree signed.members members := by
  cases content : signed.ciphertext with
  | none =>
      rw [signedBytes_plain content, canonical, document_eq, ← List.append_nil (Json.canonical _ (.object signed.members)),
        ← List.append_nil (Json.canonical _ (.object members))] at same
      exact (canonical_injective floats names_nodup distinct same).1
  | some ciphertext =>
      have whole := @names_le_canonical floatRepr members
      have weight := weigh_subset listed within
      rw [signedBytes_hashed content, canonical] at same
      have length := congrArg List.length same
      rw [digestLength] at length
      omega

end

/-! ## Verifiers of received objects -/

/-- The checks of `_handle_hello` on the object without its signature that look at
nothing else. -/
def readsAsHello (crypto : FileCrypto) (members : List (String × Json)) : Bool :=
  match hexMember members "signing_public_key", hexMember members "encryption_public_key",
      hexMember members "session_public_key", hexMember members "nonce" with
  | some signingKey, some encryptionKey, some sessionKey, some nonce =>
      textMember members "peer_id" = some (crypto.sha256 signingKey) &&
      (((members.lookup "capabilities").bind asTexts).bind validateCapabilities).isSome &&
      signingKey.length = 32 && encryptionKey.length = 32 && sessionKey.length = 32 && nonce.length = 32
  | _, _, _, _ => false

/-- The checks of `verify_card` on the object without its signature that tell a card. -/
def readsAsCard (crypto : FileCrypto) (members : List (String × Json)) : Bool :=
  match hexMember members "signing_public_key" with
  | some signingKey =>
      textMember members "kind" = some "endpoint" && textMember members "peer_id" = some (crypto.sha256 signingKey) &&
      signingKey.length = 32
  | none => false

theorem name_of_text {members : List (String × Json)} {name text : String} (found : textMember members name = some text) :
    name ∈ members.map Prod.fst := by
  obtain ⟨value, member, -⟩ := Option.bind_eq_some_iff.mp found
  obtain ⟨before, after, listed, -⟩ := List.lookup_eq_some_iff.mp member
  rw [listed, List.map_append, List.map_cons]
  exact List.mem_append_right _ (List.mem_cons_self ..)

theorem name_of_hex {members : List (String × Json)} {name : String} {bytes : Bytes}
    (found : hexMember members name = some bytes) : name ∈ members.map Prod.fst := by
  obtain ⟨text, read, -⟩ := Option.bind_eq_some_iff.mp found
  exact name_of_text read

/-- The members `_handle_hello` cannot do without. -/
def helloNames : List String := ["signing_public_key", "encryption_public_key", "session_public_key", "nonce"]

theorem helloNames_within {crypto : FileCrypto} {members : List (String × Json)} (reads : readsAsHello crypto members = true) :
    helloNames ⊆ members.map Prod.fst := by
  unfold readsAsHello at reads
  split at reads
  · rename_i signingKey encryptionKey sessionKey nonce signing encryption session random
    intro name listed
    simp only [helloNames, List.mem_cons, List.not_mem_nil, or_false] at listed
    rcases listed with rfl | rfl | rfl | rfl
    · exact name_of_hex signing
    · exact name_of_hex encryption
    · exact name_of_hex session
    · exact name_of_hex random
  · cases reads

/-- The members `verify_card` cannot do without. -/
def cardNames : List String := ["signing_public_key", "kind", "peer_id"]

theorem cardNames_within {crypto : FileCrypto} {members : List (String × Json)} (reads : readsAsCard crypto members = true) :
    cardNames ⊆ members.map Prod.fst := by
  unfold readsAsCard at reads
  split at reads
  · rename_i signingKey signing
    simp only [Bool.and_eq_true, decide_eq_true_eq] at reads
    intro name listed
    simp only [cardNames, List.mem_cons, List.not_mem_nil, or_false] at listed
    rcases listed with rfl | rfl | rfl
    · exact name_of_hex signing
    · exact name_of_text reads.1.1
    · exact name_of_text reads.1.2
  · cases reads

theorem kinds_with_session_key (kind : SignedKind) (named : "session_public_key" ∈ kind.required ++ kind.optional) :
    kind = .hello ∨ kind = .handshake := by
  have checked : ∀ kind ∈ SignedKind.all, "session_public_key" ∈ kind.required ++ kind.optional →
      kind = .hello ∨ kind = .handshake := by decide
  exact checked kind kind.mem_all named

theorem kinds_with_kind (kind : SignedKind) (named : "kind" ∈ kind.required ++ kind.optional) : kind = .card := by
  have checked : ∀ kind ∈ SignedKind.all, "kind" ∈ kind.required ++ kind.optional → kind = .card := by decide
  exact checked kind kind.mem_all named

section

variable {floatRepr : Rat → List Char} {crypto : FileCrypto} (floats : FloatText floatRepr)
  (canonical : crypto.canonical = Json.canonical floatRepr) (digestLength : ∀ message, (crypto.digest message).length = 32)

include floats canonical digestLength

/-- What a signature lets through `_handle_hello`. -/
theorem hello_received {signed : Signed} {members : List (String × Json)} (distinct : (members.map Prod.fst).Nodup)
    (reads : readsAsHello crypto members = true) (same : signed.signedBytes crypto = crypto.canonical (.object members)) :
    (signed.kind = .hello ∨ signed.kind = .handshake) ∧ Agree signed.members members := by
  have within := helloNames_within reads
  have agree := agree_of_received floats canonical digestLength distinct (by decide) within (by decide) same
  have named : "session_public_key" ∈ signed.names :=
    Agree.names (fun name => (agree name).symm) (within (by decide))
  exact ⟨kinds_with_session_key _ (names_subset named), agree⟩

/-- What a signature lets through `verify_card`. -/
theorem card_received {signed : Signed} {members : List (String × Json)} (distinct : (members.map Prod.fst).Nodup)
    (reads : readsAsCard crypto members = true) (same : signed.signedBytes crypto = crypto.canonical (.object members)) :
    signed.kind = .card ∧ Agree signed.members members := by
  have within := cardNames_within reads
  have agree := agree_of_received floats canonical digestLength distinct (by decide) within (by decide) same
  have named : "kind" ∈ signed.names := Agree.names (fun name => (agree name).symm) (within (by decide))
  exact ⟨kinds_with_kind _ (names_subset named), agree⟩

/-- A signature tells the payload it was made for, and all that it covers, wherever it
verifies; only what a TCP handshake signs also verifies as a HELLO, from an object with
the members of the handshake. -/
theorem signatures_tell_payloads (signed : Signed) (valid : signed.Valid) :
    (∀ other : Signed, other.Valid → CollisionFree crypto signed other →
      signed.signedBytes crypto = other.signedBytes crypto → signed.covered = other.covered) ∧
    (∀ members : List (String × Json), (members.map Prod.fst).Nodup → readsAsHello crypto members = true →
      signed.signedBytes crypto = crypto.canonical (.object members) →
        (signed.kind = .hello ∨ signed.kind = .handshake) ∧ Agree signed.members members) ∧
    ∀ members : List (String × Json), (members.map Prod.fst).Nodup → readsAsCard crypto members = true →
      signed.signedBytes crypto = crypto.canonical (.object members) →
        signed.kind = .card ∧ Agree signed.members members :=
  ⟨fun _ also collisionFree same => covered_of_signedBytes floats canonical digestLength valid also collisionFree same,
    fun _ distinct reads same => hello_received floats canonical digestLength distinct reads same,
    fun _ distinct reads same => card_received floats canonical digestLength distinct reads same⟩

end

/-! ### A handshake that is received as a HELLO -/

/-- Numerator and denominator; a whole number is written as Python does. -/
def ratioText (value : Rat) : List Char := intRepr value.num ++ ['.'] ++ Nat.toDigits 10 (value.den - 1)

theorem point_not_in_int {value : Int} : '.' ∉ intRepr value := by
  cases value with
  | ofNat count => exact fun point => absurd (digitChar_code point).1 (by decide)
  | negSucc count =>
      intro point
      rcases List.mem_append.mp point with sign | digit
      · exact absurd sign (by decide)
      · exact absurd (digitChar_code digit).1 (by decide)

theorem ratioText_floats : FloatText ratioText where
  injective first second same := by
    rw [ratioText, ratioText, List.append_assoc, List.append_assoc] at same
    have whole : '.' ∉ Nat.toDigits 10 (first.den - 1) := @point_not_in_int (Int.ofNat (first.den - 1))
    obtain ⟨numerators, -, denominators⟩ := (List.append_cons_inj_of_notMem point_not_in_int whole).mp same
    have less := toDigits_injective denominators
    have positive := first.den_pos
    have nonzero := second.den_pos
    exact Rat.ext (intRepr_injective numerators) (by omega)
  chars value := by
    refine ⟨fun empty => ?_, fun char member => ?_⟩
    · have point : '.' ∈ ratioText value := List.mem_append_left _ (List.mem_append_right _ (List.mem_singleton.mpr rfl))
      rw [empty] at point
      cases point
    · rcases List.mem_append.mp member with front | digit
      · rcases List.mem_append.mp front with numerator | point
        · exact intRepr_chars.2 char numerator
        · rw [List.mem_singleton.mp point]
          decide
      · exact (@intRepr_chars (Int.ofNat (value.den - 1))).2 char digit
  noInt value number same := by
    have point : '.' ∈ ratioText value := List.mem_append_left _ (List.mem_append_right _ (List.mem_singleton.mpr rfl))
    rw [same] at point
    exact point_not_in_int point

/-- A library whose digests are the first 32 bytes. -/
def plainCrypto : FileCrypto where
  canonical := Json.canonical ratioText
  digest message := (message ++ List.replicate 32 0).take 32
  sha256 := Hex.toText
  verify _ _ _ := true

def aliceKey : Bytes := List.replicate 32 7

def aliceHandshake : HandshakePayload := {
  peerId := Hex.toText aliceKey, signingPublicKey := aliceKey, encryptionPublicKey := List.replicate 32 8,
  displayName := "alice", nonce := List.replicate 32 9, challenge := [], signature := List.replicate 64 1,
  capabilities := ["chat"], transportVersion := tcpTransportVersion, sessionPublicKey := List.replicate 32 10 }

theorem plainCrypto_digest (message : Bytes) : (plainCrypto.digest message).length = 32 := by
  change ((message ++ List.replicate 32 0).take 32).length = 32
  rw [List.length_take, List.length_append, List.length_replicate]
  omega

theorem aliceHandshake_valid : (Signed.handshake aliceHandshake).Valid :=
  ⟨List.replicate 64 1, show aliceHandshake.checked = true by decide⟩

theorem alice_reads : readsAsHello plainCrypto (members (.handshake aliceHandshake)) = true := by decide +kernel

theorem alice_signatures_tell_payloads :
    readsAsHello plainCrypto (members (.handshake aliceHandshake)) = true ∧
      ((Signed.handshake aliceHandshake).kind = .hello ∨ (Signed.handshake aliceHandshake).kind = .handshake) ∧
      Agree (members (.handshake aliceHandshake)) (members (.handshake aliceHandshake)) := by
  have told := signatures_tell_payloads ratioText_floats rfl plainCrypto_digest (.handshake aliceHandshake) aliceHandshake_valid
  exact ⟨alice_reads, told.2.1 _ names_nodup alice_reads rfl⟩

theorem alice_fits : ((Json.object (members (.handshake aliceHandshake) ++
    [("signature", hexJson aliceHandshake.signature)])).encoded (.compact ratioText)).length ≤ 1000 := by
  rw [Json.length_encoded]
  decide +kernel

/-- Alice's handshake, its signature with it, is a HELLO of the size of a HELLO. -/
theorem handshake_verifies_as_hello :
    ¬ ∀ (floatRepr : Rat → List Char) (crypto : FileCrypto), FloatText floatRepr → crypto.canonical = Json.canonical floatRepr →
      (∀ message, (crypto.digest message).length = 32) → ∀ (signed : Signed) (members : List (String × Json)),
        signed.Valid → (members.map Prod.fst).Nodup → readsAsHello crypto members = true →
        ((Json.object (members ++ [("signature", hexJson aliceHandshake.signature)])).encoded (.compact floatRepr)).length ≤ 1000 →
        signed.signedBytes crypto = crypto.canonical (.object members) → signed.kind = .hello := by
  intro apart
  have hello := apart ratioText plainCrypto ratioText_floats rfl plainCrypto_digest (.handshake aliceHandshake)
    (members (.handshake aliceHandshake)) aliceHandshake_valid names_nodup alice_reads alice_fits rfl
  cases hello

end Signed

end MeshTalk.Protocol
