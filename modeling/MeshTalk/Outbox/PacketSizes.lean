import MeshTalk.Outbox.Router
import MeshTalk.Protocol.JsonText

namespace MeshTalk.Outbox

open MeshTalk.Library MeshTalk.Protocol MeshTalk.Store MeshTalk.Groups

/-! # Every sealed message fits into a packet

A message passes through encryption, hexadecimal text and JSON before it is a
packet.  The sizes below are exact up to the ids, the time and the reply.
-/

section

variable {floatRepr : Rat → List Char}

theorem spaced_item : byteCount (JsonWriter.spaced floatRepr).itemSeparator = 2 := by
  change byteCount [',', ' '] = 2
  decide

theorem spaced_key : byteCount (JsonWriter.spaced floatRepr).keySeparator = 2 := by
  change byteCount [':', ' '] = 2
  decide

theorem spaced_float : (JsonWriter.spaced floatRepr).floatRepr = floatRepr := rfl

theorem braces : byteCount ['\x7b'] = 1 ∧ byteCount ['\x7d'] = 1 := by decide

/-- A document of one member and more. -/
theorem byteCount_object {member : String × Json} {rest : List (String × Json)} :
    byteCount ((Json.object (member :: rest)).dumps (.spaced floatRepr)) =
      2 + byteCount (Json.dumpsMember (.spaced floatRepr) member) + byteCount (Json.dumpsMembers (.spaced floatRepr) rest) := by
  rw [Json.dumps, byteCount_append, byteCount_append, byteCount_append, braces.1, braces.2]
  omega

theorem byteCount_member {name : String} {value : Json} :
    byteCount (Json.dumpsMember (.spaced floatRepr) (name, value)) =
      byteCount (quote name) + 2 + byteCount (value.dumps (.spaced floatRepr)) := by
  rw [Json.dumpsMember, byteCount_append, byteCount_append, spaced_key]

theorem byteCount_members {member : String × Json} {rest : List (String × Json)} :
    byteCount (Json.dumpsMembers (.spaced floatRepr) (member :: rest)) =
      2 + byteCount (Json.dumpsMember (.spaced floatRepr) member) + byteCount (Json.dumpsMembers (.spaced floatRepr) rest) := by
  rw [Json.dumpsMembers, byteCount_append, byteCount_append, spaced_item]

theorem byteCount_noMembers : byteCount (Json.dumpsMembers (.spaced floatRepr) []) = 0 := by
  rw [Json.dumpsMembers, byteCount_nil]

theorem byteCount_replyMember_le {reply : Option String} (valid : reply.all validRequestId = true) :
    byteCount (Json.dumpsMembers (.spaced floatRepr) (replyMember reply)) ≤ 1563 := by
  have name : byteCount (quote "reply_to_message_id") = 21 := by decide
  cases reply with
  | none =>
      rw [replyMember, byteCount_noMembers]
      exact Nat.zero_le _
  | some messageId =>
      simp only [Option.all_some, validRequestId, Bool.and_eq_true, decide_eq_true_eq] at valid
      have short := byteCount_quote_le valid.1
      rw [replyMember]
      split
      · rw [byteCount_noMembers]
        exact Nat.zero_le _
      · rw [byteCount_members, byteCount_noMembers, byteCount_member, dumps_text, name]
        omega

/-! ## The payloads -/

theorem quoted_names :
    byteCount (quote "message_id") = 12 ∧ byteCount (quote "sender_id") = 11 ∧ byteCount (quote "recipient_id") = 14 ∧
      byteCount (quote "created_at") = 12 ∧ byteCount (quote "hop_count") = 11 ∧ byteCount (quote "max_hops") = 10 ∧
      byteCount (quote "encrypted_content") = 19 ∧ byteCount (quote "signature") = 11 ∧ byteCount (quote "group_id") = 10 ∧
      byteCount (quote "origin_signature") = 18 ∧ byteCount (quote "file_id") = 9 ∧ byteCount (quote "chunk_index") = 13 ∧
      byteCount (quote "total_chunks") = 14 := by
  decide

theorem byteCount_message {payload : MessagePayload} :
    byteCount (payload.json.dumps (.spaced floatRepr)) =
      136 + byteCount (quote payload.messageId) + byteCount (quote payload.senderId) +
        byteCount (quote payload.recipientId) + byteCount (payload.createdAt.json.dumps (.spaced floatRepr)) +
        byteCount (intRepr payload.hopCount) + byteCount (intRepr payload.maxHops) +
        2 * payload.encryptedContent.length + 2 * payload.signature.length +
        byteCount (Json.dumpsMembers (.spaced floatRepr) (replyMember payload.replyToMessageId)) := by
  simp only [MessagePayload.json, List.cons_append, List.nil_append, byteCount_object, byteCount_members, byteCount_member,
    dumps_text, dumps_int, quoted_names, byteCount_quote_toText]
  omega

theorem byteCount_groupMessage {payload : GroupMessagePayload} :
    byteCount (payload.json.dumps (.spaced floatRepr)) =
      145 + byteCount (quote payload.messageId) + byteCount (quote payload.groupId) + byteCount (quote payload.senderId) +
        byteCount (quote payload.recipientId) + byteCount (payload.createdAt.json.dumps (.spaced floatRepr)) +
        2 * payload.encryptedContent.length + 2 * payload.signature.length + 2 * payload.originSignature.length +
        byteCount (Json.dumpsMembers (.spaced floatRepr) (replyMember payload.replyToMessageId)) := by
  simp only [GroupMessagePayload.json, List.cons_append, List.nil_append, byteCount_object, byteCount_members,
    byteCount_member, dumps_text, quoted_names, byteCount_quote_toText]
  omega

theorem byteCount_chunk_le {chunk : FileChunkV2Payload} (valid : chunk.valid = true) :
    byteCount (chunk.json.dumps (.spaced floatRepr)) ≤ 3420 + 2 * chunk.encryptedContent.length := by
  simp only [FileChunkV2Payload.valid, Bool.and_eq_true, decide_eq_true_eq, validFileV2CommonId, validUuid4Hex,
    validPeerId, validGroupId] at valid
  obtain ⟨⟨⟨⟨⟨⟨⟨⟨⟨⟨fileId, -⟩, -⟩, below⟩, total⟩, sender, -⟩, recipient, -⟩, group⟩, -⟩, -⟩, signed⟩ := valid
  have few : chunk.totalChunks ≤ 10000 := total
  have fileIdSize := byteCount_quote_hex fileId
  have senderSize := byteCount_quote_le sender
  have recipientSize := byteCount_quote_le recipient
  have indexSize := @byteCount_intRepr_le chunk.chunkIndex 5 (by decide) (by omega)
  have totalSize := @byteCount_intRepr_le chunk.totalChunks 5 (by decide) (by omega)
  have groupSize : byteCount (Json.dumpsMembers (.spaced floatRepr)
      (chunk.groupId.map fun id => ("group_id", Json.text id)).toList) ≤ 48 := by
    cases given : chunk.groupId with
    | none =>
        rw [Option.map_none, Option.toList_none, byteCount_noMembers]
        exact Nat.zero_le _
    | some groupId =>
        rw [given, Option.all_some] at group
        have size := byteCount_quote_hex group
        rw [Option.map_some, Option.toList_some, byteCount_members, byteCount_noMembers, byteCount_member, dumps_text]
        simp only [quoted_names]
        omega
  simp only [FileChunkV2Payload.json, List.cons_append, List.nil_append, byteCount_object, byteCount_members,
    byteCount_member, dumps_text, dumps_int, quoted_names, byteCount_quote_toText]
  omega

end

/-! ## What is sent -/

/-- A valid id that needs no escape, as the hexadecimal fingerprint of a key. -/
def PlainId (peerId : PeerId) : Prop := validPeerId peerId = true ∧ peerId.toList.all isPlain = true

theorem PlainId.byteCount_le {peerId : PeerId} (plain : PlainId peerId) : byteCount (quote peerId) ≤ 130 := by
  have short := plain.1
  simp only [validPeerId, Bool.and_eq_true, decide_eq_true_eq] at short
  rw [byteCount_quote_plain plain.2]
  omega

/-- The check the routers make, and the encoding of the packet. -/
def FitsPacket (writer : PacketWriter) (type : PacketType) (document : Json) : Prop :=
  (writer.dumps document).length ≤ maxPacketSize ∧ (Packet.encode ⟨.live type, writer.dumps document⟩).isSome = true

section

variable {crypto : FileCrypto} (identity : Identity crypto) (writer : PacketWriter)

/-- `_chunk`. -/
def sealedChunk (key : Bytes) (fileId : String) (groupId : Option String) (totalChunks chunkIndex : Nat)
    (recipientId : PeerId) (plaintext : Bytes) : FileChunkV2Payload :=
  let bare : FileChunkV2Payload :=
    { fileId, chunkIndex, totalChunks, senderId := identity.peerId, recipientId, encryptedContent := [], signature := []
      groupId }
  let sealedPayload := { bare with encryptedContent := writer.encryptForRecipient key plaintext bare.associatedData }
  { sealedPayload with signature := identity.sign (sealedPayload.signedBytes crypto) }

/-- What the libraries promise: encryption adds a key, a nonce and a tag, and no
float in the range of the times has a longer `repr`. -/
structure PacketWriter.Documented (floatRepr : Rat → List Char) : Prop where
  dumps : writer.dumps = Json.encoded (.spaced floatRepr)
  sealing : ∀ key plaintext data, (writer.encryptForRecipient key plaintext data).length = plaintext.length + 60
  times : ∀ time, 0 < time → time < 1000000000000 → byteCount (floatRepr time) ≤ 24

variable {identity writer} {floatRepr : Rat → List Char}

theorem fitsPacket_of_byteCount {type : PacketType} {document : Json} (documented : writer.Documented floatRepr)
    (short : byteCount (document.dumps (.spaced floatRepr)) ≤ maxPacketSize) : FitsPacket writer type document := by
  have size : (writer.dumps document).length ≤ maxPacketSize := by rwa [documented.dumps, Json.length_encoded]
  have live : type.value ≤ 255 := by cases type <;> decide
  refine ⟨size, ?_⟩
  rw [Packet.encode, if_neg (by simp only [WireType.value]; omega)]
  rfl

theorem direct_fits {key plaintext : Bytes} {recipientId messageId : String} {reply : Option String} {now : Time}
    (documented : writer.Documented floatRepr) (sender : PlainId identity.peerId) (recipient : PlainId recipientId)
    (short : plaintext.length ≤ maxMessageContentSize) (known : validRequestId messageId = true)
    (replied : reply.all validRequestId = true) (started : 0 < now) (ending : now < 1000000000000) :
    FitsPacket writer .message (directPayload identity writer key recipientId plaintext reply messageId now).json := by
  refine fitsPacket_of_byteCount documented ?_
  simp only [validRequestId, Bool.and_eq_true, decide_eq_true_eq] at known
  have messageSize := byteCount_quote_le known.1
  have senderSize := sender.byteCount_le
  have recipientSize := recipient.byteCount_le
  have replySize := @byteCount_replyMember_le floatRepr reply replied
  have timeSize := documented.times now started ending
  have zero : byteCount (intRepr 0) = 1 := by decide
  rw [byteCount_message]
  simp only [directPayload, JsonNumber.json, dumps_real, spaced_float, documented.sealing, identity.sign_length, zero]
  simp only [maxMessageContentSize] at short
  simp only [maxPacketSize]
  omega

/-- The largest text with three ids that JSON writes twelve times as long. -/
theorem direct_exceeds {key plaintext : Bytes} {recipientId messageId reply : String} {now : Time}
    (documented : writer.Documented floatRepr) (full : plaintext.length = maxMessageContentSize)
    (messageSize : 1538 ≤ byteCount (quote messageId)) (recipientSize : 1538 ≤ byteCount (quote recipientId))
    (replySize : 1538 ≤ byteCount (quote reply)) (given : reply ≠ "") :
    ¬ FitsPacket writer .message (directPayload identity writer key recipientId plaintext (some reply) messageId now).json := by
  intro fits
  have size := fits.1
  have name : byteCount (quote "reply_to_message_id") = 21 := by decide
  have replied : byteCount (Json.dumpsMembers (.spaced floatRepr) (replyMember (some reply))) = 25 + byteCount (quote reply) := by
    rw [replyMember, if_neg given, byteCount_members, byteCount_noMembers, byteCount_member, dumps_text, name]
    omega
  rw [documented.dumps, Json.length_encoded, byteCount_message] at size
  simp only [directPayload, replied, documented.sealing, identity.sign_length, full, maxMessageContentSize, maxPacketSize] at size
  omega

/-- A group message, made for a member or copied for it. -/
theorem group_fits {payload : GroupMessagePayload} {now : Time} (documented : writer.Documented floatRepr)
    (sender : PlainId payload.senderId) (recipient : PlainId payload.recipientId)
    (sealedSize : payload.encryptedContent.length ≤ maxGroupMessageContentSize + 60)
    (known : validRequestId payload.messageId = true) (grouped : isLowerHexOf 32 payload.groupId = true)
    (replied : payload.replyToMessageId.all validRequestId = true) (dated : payload.createdAt = .real now)
    (started : 0 < now) (ending : now < 1000000000000) (signed : payload.signature.length = 64)
    (authored : payload.originSignature.length = 64) : FitsPacket writer .groupMessage payload.json := by
  refine fitsPacket_of_byteCount documented ?_
  simp only [validRequestId, Bool.and_eq_true, decide_eq_true_eq] at known
  have messageSize := byteCount_quote_le known.1
  have groupSize := byteCount_quote_hex grouped
  have senderSize := sender.byteCount_le
  have recipientSize := recipient.byteCount_le
  have replySize := @byteCount_replyMember_le floatRepr _ replied
  have timeSize := documented.times now started ending
  rw [byteCount_groupMessage]
  simp only [dated, JsonNumber.json, dumps_real, spaced_float, signed, authored]
  simp only [maxGroupMessageContentSize] at sealedSize
  simp only [maxPacketSize]
  omega

theorem chunk_fits {key plaintext : Bytes} {fileId : String} {groupId : Option String} {totalChunks chunkIndex : Nat}
    {recipientId : PeerId} (documented : writer.Documented floatRepr) (short : plaintext.length ≤ maxFileChunkSize)
    (known : validFileV2CommonId fileId = true) (grouped : validGroupId groupId = true) (below : chunkIndex < totalChunks)
    (bounded : totalChunks ≤ maxFileChunks) (recipient : validPeerId recipientId = true) :
    ∃ document, (sealedChunk identity writer key fileId groupId totalChunks chunkIndex recipientId plaintext).encode =
      some document ∧ FitsPacket writer .fileChunkV2 document := by
  have sealedSize : (sealedChunk identity writer key fileId groupId totalChunks chunkIndex recipientId
      plaintext).encryptedContent.length = plaintext.length + 60 := documented.sealing _ _ _
  have within : 60 ≤ plaintext.length + 60 ∧ plaintext.length + 60 ≤ maxPacketSize := by
    simp only [maxFileChunkSize] at short
    simp only [maxPacketSize]
    omega
  have valid : (sealedChunk identity writer key fileId groupId totalChunks chunkIndex recipientId plaintext).valid = true := by
    simp only [FileChunkV2Payload.valid, sealedSize, Bool.and_eq_true, decide_eq_true_eq]
    exact ⟨⟨⟨⟨⟨⟨⟨⟨known, below⟩, bounded⟩, identity.peerId_valid⟩, recipient⟩, grouped⟩, within.1⟩, within.2⟩,
      identity.sign_length _⟩
  refine ⟨_, if_pos valid, fitsPacket_of_byteCount documented ?_⟩
  have size := @byteCount_chunk_le floatRepr _ valid
  rw [sealedSize] at size
  simp only [maxFileChunkSize] at short
  simp only [maxPacketSize]
  omega

/-- Direct messages, group messages and their relayed copies of at most 30 KiB
and chunks of at most 28 KiB fit into packets, whatever their ids are as long
as those of the peers need no escapes. -/
theorem sealed_messages_fit (identity : Identity crypto) (writer : PacketWriter) (floatRepr : Rat → List Char)
    (documented : writer.Documented floatRepr) (sender : PlainId identity.peerId) :
    (∀ key plaintext recipientId messageId reply now, plaintext.length ≤ maxMessageContentSize → PlainId recipientId →
        validRequestId messageId = true → reply.all validRequestId = true → 0 < now → now < 1000000000000 →
        FitsPacket writer .message (directPayload identity writer key recipientId plaintext reply messageId now).json) ∧
      (∀ key plaintext recipientId messageId groupId reply now, plaintext.length ≤ maxGroupMessageContentSize →
        PlainId recipientId → validRequestId messageId = true → isLowerHexOf 32 groupId = true →
        reply.all validRequestId = true → 0 < now → now < 1000000000000 →
        FitsPacket writer .groupMessage
          (groupPayload identity writer key recipientId messageId groupId plaintext reply now).json) ∧
      (∀ key (peer : GroupPeer) groupId (stored : GroupMessage) origin plaintext,
        plaintext.length ≤ maxGroupMessageContentSize → PlainId peer.peerId → PlainId stored.senderId →
        validRequestId stored.messageId = true → isLowerHexOf 32 groupId = true →
        stored.replyToMessageId.all validRequestId = true → 0 < stored.createdAt → stored.createdAt < 1000000000000 →
        origin.length = 64 →
        FitsPacket writer .groupMessage
          (relayedPayload identity writer.encryptForRecipient key peer groupId stored origin plaintext).json) ∧
      ∀ key plaintext fileId groupId totalChunks chunkIndex recipientId, plaintext.length ≤ maxFileChunkSize →
        validFileV2CommonId fileId = true → validGroupId groupId = true → chunkIndex < totalChunks →
        totalChunks ≤ maxFileChunks → validPeerId recipientId = true →
        ∃ document, (sealedChunk identity writer key fileId groupId totalChunks chunkIndex recipientId plaintext).encode =
          some document ∧ FitsPacket writer .fileChunkV2 document := by
  refine ⟨?_, ?_, ?_, ?_⟩
  · intro key plaintext recipientId messageId reply now short recipient known replied started ending
    exact direct_fits documented sender recipient short known replied started ending
  · intro key plaintext recipientId messageId groupId reply now short recipient known grouped replied started ending
    refine group_fits documented sender recipient ?_ known grouped replied rfl started ending (identity.sign_length _)
      (identity.sign_length _)
    change (writer.encryptForRecipient _ _ _).length ≤ _
    rw [documented.sealing]
    omega
  · intro key peer groupId stored origin plaintext short recipient author known grouped replied started ending signed
    refine group_fits documented author recipient ?_ known grouped replied rfl started ending (identity.sign_length _) signed
    change (writer.encryptForRecipient _ _ _).length ≤ _
    rw [documented.sealing]
    omega
  · intro key plaintext fileId groupId totalChunks chunkIndex recipientId short known grouped below bounded recipient
    exact chunk_fits documented short known grouped below bounded recipient

end

/-! ### Whole seconds, and an id that JSON writes twelve times as long -/

/-- The `repr` of a time without a fraction. -/
def wholeSeconds (time : Rat) : List Char := Nat.toDigits 10 time.floor.toNat ++ ['.', '0']

def sealingWriter : PacketWriter where
  dumps := Json.encoded (.spaced wholeSeconds)
  encryptForRecipient := fun _ plaintext _ => List.replicate 44 0 ++ plaintext ++ List.replicate 16 0
  renderMentionsPlain := id

theorem sealingWriter_documented : sealingWriter.Documented wholeSeconds where
  dumps := rfl
  sealing := fun key plaintext data => by
    simp only [sealingWriter, List.length_append, List.length_replicate]
    omega
  times := fun time started ending => by
    have digits : byteCount (intRepr time.floor.toNat) ≤ 12 := byteCount_intRepr_le (by decide) (by
      have same : ((1000000000000 : Int) : Rat) = 1000000000000 := by decide +kernel
      have below : time.floor < 1000000000000 := Rat.floor_lt_iff.mpr (by rwa [same])
      omega)
    have suffix : byteCount ['.', '0'] = 2 := by decide
    change byteCount (intRepr time.floor.toNat ++ ['.', '0']) ≤ 24
    rw [byteCount_append]
    omega

def largestPlaintext : Bytes := List.replicate (30 * 1024) 0

theorem largestPlaintext_length : largestPlaintext.length = maxMessageContentSize := by
  rw [largestPlaintext, List.length_replicate]
  rfl

theorem largestChunk_length : (List.replicate (28 * 1024) (0 : UInt8)).length = maxFileChunkSize := by
  rw [List.length_replicate]
  rfl

theorem largest_messages_fit :
    FitsPacket sealingWriter .message
        (directPayload plainIdentity sealingWriter [] "bob" largestPlaintext (some "m0") "m1" 1).json ∧
      ∃ document, (sealedChunk plainIdentity sealingWriter [] "0123456789ab4def8123456789abcdef" (some team) 2 0 "bob"
          (List.replicate (28 * 1024) 0)).encode = some document ∧ FitsPacket sealingWriter .fileChunkV2 document := by
  obtain ⟨direct, -, -, chunk⟩ := sealed_messages_fit plainIdentity sealingWriter wholeSeconds sealingWriter_documented
    ⟨by decide, by decide⟩
  refine ⟨direct [] largestPlaintext "bob" "m1" (some "m0") 1 ?_ ⟨by decide, by decide⟩ (by decide) (by decide)
    (by decide) (by decide +kernel), ?_⟩
  · exact Nat.le_of_eq largestPlaintext_length
  · exact chunk [] _ "0123456789ab4def8123456789abcdef" (some team) 2 0 "bob" (Nat.le_of_eq largestChunk_length)
      (by decide +kernel) (by decide +kernel) (by decide) (by decide) (by decide)

/-- An id of the longest valid length, every character of it beyond the first plane. -/
def pictureId : String := String.ofList (List.replicate 128 (Char.ofNat 0x1f600))

theorem pictureId_chars : pictureId.toList = List.replicate 128 (Char.ofNat 0x1f600) := String.toList_ofList

theorem byteCount_pictureId : byteCount (quote pictureId) = 2 + 12 * 128 := by
  have each : byteCount (escape (Char.ofNat 0x1f600)) = 12 := by decide +kernel
  have sizes : (List.replicate 128 (Char.ofNat 0x1f600)).map (fun char => byteCount (escape char)) = List.replicate 128 12 := by
    rw [List.map_replicate]
    exact congrArg (List.replicate 128) each
  have total : (List.replicate 128 12).sum = 128 * 12 := List.sum_replicate_nat
  rw [byteCount_quote, pictureId_chars, sizes, total]

theorem pictureId_given : pictureId ≠ "" := by
  intro empty
  have length := congrArg List.length pictureId_chars
  rw [empty, List.length_replicate] at length
  exact absurd length (by decide)

theorem pictureId_valid : validPeerId pictureId = true ∧ validRequestId pictureId = true := by
  have short : pictureId.toList.length ≤ 128 := Nat.le_of_eq (by
    rw [pictureId_chars, List.length_replicate])
  simp only [validPeerId, validRequestId, Bool.and_eq_true, decide_eq_true_eq]
  exact ⟨⟨short, pictureId_given⟩, short, pictureId_given⟩

/-- The bounds of the ids count characters, and four such ids exceed the packet. -/
theorem picture_ids_exceed_packet :
    largestPlaintext.length = maxMessageContentSize ∧ validPeerId pictureId = true ∧ validRequestId pictureId = true ∧
      ¬ FitsPacket sealingWriter .message
        (directPayload plainIdentity sealingWriter [] pictureId largestPlaintext (some pictureId) pictureId 1).json := by
  refine ⟨largestPlaintext_length, pictureId_valid.1, pictureId_valid.2, ?_⟩
  intro fits
  have size : 1538 ≤ byteCount (quote pictureId) := Nat.le_of_eq byteCount_pictureId.symm
  exact direct_exceeds sealingWriter_documented largestPlaintext_length size size size pictureId_given fits

end MeshTalk.Outbox
