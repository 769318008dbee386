import MeshTalk.Library.Hex
import MeshTalk.Protocol.Handshake

namespace MeshTalk.Protocol

open MeshTalk.Library

/-! # Payloads of the v2 file transfer

Offers and chunks are kept with their members typed; an acknowledgement also
has its JSON document, whose members the decoder checks one by one.
-/

def maxFileSize : Nat := 50 * 1024 * 1024
def maxFileChunkSize : Nat := 28 * 1024
def maxFilenameLength : Nat := 255
def maxFileBatchSize : Nat := 32
def maxFileCaptionBytes : Nat := 1024
def maxFileChunks : Nat := 10000

def isLowerHex (char : Char) : Bool := ('a' ≤ char && char ≤ 'f') || ('0' ≤ char && char ≤ '9')

/-- `re.fullmatch(r"[a-f0-9]{n}", text)`. -/
def isLowerHexOf (length : Nat) (text : String) : Bool :=
  text.toList.length = length && text.toList.all isLowerHex

def validUuid4Hex (text : String) : Bool :=
  isLowerHexOf 32 text && text.toList[12]? = some '4' &&
    (text.toList[16]?).any fun char => char ∈ ['8', '9', 'a', 'b']

def validFileV2CommonId (text : String) : Bool := validUuid4Hex text

def validPeerId (text : String) : Bool := text.toList.length ≤ 128 && text ≠ ""

def validGroupId (groupId : Option String) : Bool := groupId.all (isLowerHexOf 32)

/-! ## File names -/

def illegalFilenameChars : List Char := ['<', '>', ':', '"', '/', '\\', '|', '?', '*']

def reservedFilenames : List (List Char) :=
  ["CON", "PRN", "AUX", "NUL",
   "COM1", "COM2", "COM3", "COM4", "COM5", "COM6", "COM7", "COM8", "COM9",
   "LPT1", "LPT2", "LPT3", "LPT4", "LPT5", "LPT6", "LPT7", "LPT8", "LPT9"].map String.toList

def isSpaceOrDot (char : Char) : Bool := char = ' ' || char = '.'

def rstripSpaceDot (text : List Char) : List Char := (text.reverse.dropWhile isSpaceOrDot).reverse

def stripSpaceDot (text : List Char) : List Char := rstripSpaceDot (text.dropWhile isSpaceOrDot)

/-- `text.rpartition(".")` when it finds a dot. -/
def rpartitionDot (text : List Char) : Option (List Char × List Char) :=
  if '.' ∈ text then
    let extension := (text.reverse.takeWhile (· ≠ '.')).reverse
    some (text.take (text.length - extension.length - 1), extension)
  else none

def truncateFilename (base : List Char) : List Char :=
  if base.length > maxFilenameLength then
    match rpartitionDot (base.take maxFilenameLength) with
    | some (_, extension) =>
        if extension.length ≤ 10 then
          rstripSpaceDot (base.take (maxFilenameLength - extension.length - 1)) ++ '.' :: extension
        else base.take maxFilenameLength
    | none => base.take maxFilenameLength
  else base

/-- `sanitize_filename`.  Upper case is that of ASCII: no other character has
an upper case that spells part of a reserved name. -/
def sanitizeFilename (name : String) : String :=
  let segment := (name.toList.reverse.takeWhile fun char => char ≠ '/' ∧ char ≠ '\\').reverse
  let legal := (strip segment).map fun char =>
    if char ∈ illegalFilenameChars ∨ char.toNat < 32 then '_' else char
  let base := truncateFilename (stripSpaceDot legal)
  let unreserved := if (base.takeWhile (· ≠ '.')).map Char.toUpper ∈ reservedFilenames then '_' :: base else base
  if unreserved = [] then "file" else String.ofList unreserved

/-! ## Offers and chunks -/

inductive Json where
  | null
  | bool (value : Bool)
  | int (value : Int)
  | real (value : Rat)
  | text (value : String)
  | array (items : List Json)
  | object (members : List (String × Json))

structure FileOfferV2Payload where
  fileId : String
  filename : String
  fileSize : Nat
  chunkSize : Nat
  totalChunks : Nat
  fileSha256 : String
  senderId : PeerId
  recipientId : PeerId
  createdAt : Time
  signature : Bytes
  groupId : Option String
  caption : String
  batchId : Option String
  batchIndex : Option Nat
  batchCount : Option Nat
deriving DecidableEq, Repr

namespace FileOfferV2Payload

variable (offer : FileOfferV2Payload)

def validBatch : Bool :=
  match offer.batchId, offer.batchIndex, offer.batchCount with
  | none, none, none => true
  | some id, some index, some count => validUuid4Hex id && index < count && count ≤ maxFileBatchSize
  | _, _, _ => false

/-- `_validate(require_signature=True)` on a payload whose members have their types. -/
def valid : Bool :=
  validFileV2CommonId offer.fileId && offer.filename ≠ "" &&
    offer.filename.toList.length ≤ maxFilenameLength && sanitizeFilename offer.filename = offer.filename &&
    0 < offer.fileSize && offer.fileSize ≤ maxFileSize &&
    0 < offer.chunkSize && offer.chunkSize ≤ maxFileChunkSize &&
    offer.totalChunks = (offer.fileSize + offer.chunkSize - 1) / offer.chunkSize &&
    offer.totalChunks ≤ maxFileChunks && isLowerHexOf 64 offer.fileSha256 &&
    offer.caption.utf8ByteSize ≤ maxFileCaptionBytes &&
    validPeerId offer.senderId && validPeerId offer.recipientId && validGroupId offer.groupId &&
    0 < offer.createdAt && offer.createdAt < 1000000000000 && offer.validBatch && offer.signature.length = 64

def unsigned : Json :=
  .object <|
    [("file_id", .text offer.fileId), ("filename", .text offer.filename), ("file_size", .int offer.fileSize),
     ("chunk_size", .int offer.chunkSize), ("total_chunks", .int offer.totalChunks),
     ("file_sha256", .text offer.fileSha256), ("caption", .text offer.caption),
     ("sender_id", .text offer.senderId), ("recipient_id", .text offer.recipientId),
     ("created_at", .real offer.createdAt)] ++
    (offer.groupId.map fun id => ("group_id", Json.text id)).toList ++
    match offer.batchId, offer.batchIndex, offer.batchCount with
    | some id, some index, some count =>
        [("batch_id", .text id), ("batch_index", .int index), ("batch_count", .int count)]
    | _, _, _ => []

end FileOfferV2Payload

structure FileChunkV2Payload where
  fileId : String
  chunkIndex : Nat
  totalChunks : Nat
  senderId : PeerId
  recipientId : PeerId
  encryptedContent : Bytes
  signature : Bytes
  groupId : Option String
deriving DecidableEq, Repr

namespace FileChunkV2Payload

variable (chunk : FileChunkV2Payload)

def valid : Bool :=
  validFileV2CommonId chunk.fileId && chunk.chunkIndex < chunk.totalChunks && chunk.totalChunks ≤ maxFileChunks &&
    validPeerId chunk.senderId && validPeerId chunk.recipientId && validGroupId chunk.groupId &&
    60 ≤ chunk.encryptedContent.length && chunk.encryptedContent.length ≤ maxPacketSize &&
    chunk.signature.length = 64

def associatedData : Json :=
  .object <|
    [("file_id", .text chunk.fileId), ("chunk_index", .int chunk.chunkIndex),
     ("sender_id", .text chunk.senderId), ("recipient_id", .text chunk.recipientId)] ++
    (chunk.groupId.map fun id => ("group_id", Json.text id)).toList

def json : Json :=
  .object <|
    [("file_id", .text chunk.fileId), ("chunk_index", .int chunk.chunkIndex), ("total_chunks", .int chunk.totalChunks),
     ("sender_id", .text chunk.senderId), ("recipient_id", .text chunk.recipientId),
     ("encrypted_content", .text (Hex.toText chunk.encryptedContent)), ("signature", .text (Hex.toText chunk.signature))] ++
    (chunk.groupId.map fun id => ("group_id", Json.text id)).toList

/-- `encode`, `none` where it raises. -/
def encode : Option Json := if chunk.valid then some chunk.json else none

end FileChunkV2Payload

/-! ## Acknowledgements -/

inductive AckStatus where
  | completed | missing | blocked
deriving DecidableEq, Repr

def AckStatus.text : AckStatus → String
  | .completed => "completed" | .missing => "missing" | .blocked => "blocked"

def AckStatus.ofText? (text : String) : Option AckStatus :=
  [AckStatus.completed, .missing, .blocked].find? fun status => status.text = text

structure FileAckV2Payload where
  fileId : String
  recipientId : PeerId
  status : AckStatus
  signature : Bytes
  missingRanges : Option (List (Int × Int))
deriving DecidableEq, Repr

namespace FileAckV2Payload

/-- The loop of `_validate` over the ranges, from the end of the previous one. -/
def rangesFrom (previousEnd : Int) : List (Int × Int) → Bool
  | [] => true
  | (start, stop) :: rest =>
      0 ≤ start && start ≤ stop && stop < maxFileChunks && previousEnd < start && rangesFrom stop rest

def validRanges : Option (List (Int × Int)) → Bool
  | none => false
  | some ranges => ranges ≠ [] && rangesFrom (-1) ranges

variable (ack : FileAckV2Payload)

def valid (requireSignature : Bool) : Bool :=
  validFileV2CommonId ack.fileId && validPeerId ack.recipientId &&
    decide (ack.status = .missing) = validRanges ack.missingRanges &&
    (ack.status = .missing || ack.missingRanges.isNone) &&
    (!requireSignature || ack.signature.length = 64)

def rangeJson (range : Int × Int) : Json := .array [.int range.1, .int range.2]

def unsignedMembers : List (String × Json) :=
  [("file_id", .text ack.fileId), ("recipient_id", .text ack.recipientId), ("status", .text ack.status.text)] ++
    (ack.missingRanges.map fun ranges => ("missing_ranges", Json.array (ranges.map rangeJson))).toList

/-- The document `signed_bytes` serialises, `none` where it raises. -/
def signedDocument : Option Json := if ack.valid false then some (.object ack.unsignedMembers) else none

/-- `encode`, `none` where it raises. -/
def encode : Option Json :=
  if ack.valid true then
    some (.object (ack.unsignedMembers ++ [("signature", .text (Hex.toText ack.signature))]))
  else none

def ofRangeJson : Json → Option (Int × Int)
  | .array [.int start, .int stop] => some (start, stop)
  | _ => none

def asText : Json → Option String
  | .text value => some value
  | _ => none

/-- `[tuple(value) for value in raw_ranges]`, up to what `_validate` accepts. -/
def asRanges : Json → Option (List (Int × Int))
  | .array items => items.mapM ofRangeJson
  | _ => none

def decode : Json → Option FileAckV2Payload
  | .object members => do
      let names := members.map Prod.fst
      guard (["file_id", "recipient_id", "status", "signature"].all (· ∈ names))
      guard (names.all (· ∈ ["file_id", "recipient_id", "status", "signature", "missing_ranges"]))
      let status ← (members.lookup "status").bind asText
      guard (decide (status = "missing") = decide ("missing_ranges" ∈ names))
      let missingRanges ← match members.lookup "missing_ranges" with
        | none => some none
        | some raw => (asRanges raw).map some
      let ack : FileAckV2Payload := {
        fileId := ← (members.lookup "file_id").bind asText
        recipientId := ← (members.lookup "recipient_id").bind asText
        status := ← AckStatus.ofText? status
        signature := ← ((members.lookup "signature").bind asText).bind Hex.ofText
        missingRanges }
      guard (ack.valid true)
      some ack
  | _ => none

theorem asRanges_array {ranges : List (Int × Int)} : asRanges (.array (ranges.map rangeJson)) = some ranges := by
  unfold asRanges
  induction ranges with
  | nil => rfl
  | cons range rest ih =>
      simp only [List.map_cons, List.mapM_cons, ih]
      rfl

/-- What `encode` writes, `decode` reads back unchanged. -/
theorem decode_encode {ack : FileAckV2Payload} {document : Json} (encoded : ack.encode = some document) :
    decode document = some ack := by
  unfold encode at encoded
  split at encoded
  · rename_i valid
    cases encoded
    obtain ⟨fileId, recipientId, status, signature, missingRanges⟩ := ack
    have agreed : decide (status = .missing) = validRanges missingRanges ∧
        (status = .missing ∨ missingRanges = none) := by
      simp only [FileAckV2Payload.valid, Bool.and_eq_true, decide_eq_true_eq, Bool.or_eq_true,
        Option.isNone_iff_eq_none] at valid
      exact ⟨valid.1.1.2, valid.1.2⟩
    cases missingRanges with
    | none =>
        have other : status ≠ .missing := by
          intro same
          simp [same, validRanges] at agreed
        cases status with
        | missing => exact absurd rfl other
        | completed =>
            simp [decode, unsignedMembers, asText, AckStatus.text, AckStatus.ofText?, Hex.ofText_toText, valid,
              List.lookup_cons, List.lookup_nil, guard]
        | blocked =>
            simp [decode, unsignedMembers, asText, AckStatus.text, AckStatus.ofText?, Hex.ofText_toText, valid,
              List.lookup_cons, List.lookup_nil, guard]
    | some ranges =>
        have missing : status = .missing := by simpa using agreed.2
        subst missing
        simp [decode, unsignedMembers, asText, asRanges_array, AckStatus.text, AckStatus.ofText?,
          Hex.ofText_toText, valid, List.lookup_cons, guard]
  · cases encoded

end FileAckV2Payload

/-! ## Primitives -/

/-- Hashing, signature checking and the canonical text of a JSON document. -/
structure FileCrypto where
  canonical : Json → Bytes
  digest : Bytes → Bytes
  sha256 : Bytes → String
  verify : Bytes → Bytes → Bytes → Bool

def FileOfferV2Payload.signedBytes (crypto : FileCrypto) (offer : FileOfferV2Payload) : Bytes :=
  crypto.canonical offer.unsigned

def FileChunkV2Payload.signedBytes (crypto : FileCrypto) (chunk : FileChunkV2Payload) : Bytes :=
  crypto.digest (crypto.canonical chunk.associatedData ++ chunk.encryptedContent)

/-- The local identity: its peer id is well formed, and what it signs is 64
bytes long and verifies under its public key. -/
structure Identity (crypto : FileCrypto) where
  peerId : PeerId
  signingPublicKey : Bytes
  sign : Bytes → Bytes
  decryptAsRecipient : Bytes → Json → Option Bytes
  peerId_valid : validPeerId peerId = true
  sign_length : ∀ message, (sign message).length = 64
  sign_verifies : ∀ message, crypto.verify signingPublicKey (sign message) message = true

/-! ### An identity for runs on fixed inputs -/

def plainCrypto : FileCrypto where
  canonical := fun _ => []
  digest := id
  sha256 := fun content => String.ofList (content.map fun byte => Char.ofNat byte.toNat)
  verify := fun _ _ _ => true

def plainIdentity : Identity plainCrypto where
  peerId := "self"
  signingPublicKey := []
  sign := fun _ => List.replicate 64 0
  decryptAsRecipient := fun content _ => some (content.drop 60)
  peerId_valid := by decide
  sign_length := fun _ => rfl
  sign_verifies := fun _ => rfl

end MeshTalk.Protocol
