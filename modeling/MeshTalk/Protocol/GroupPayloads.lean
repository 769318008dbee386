import Mathlib.Algebra.Order.Ring.Rat
import MeshTalk.Protocol.FilePayloads

namespace MeshTalk.Protocol

open MeshTalk.Library

/-! # Group messages and leaves -/

def maxGroupMessageContentSize : Nat := 30 * 1024

/-- A JSON number as the decoder leaves it: an integer is not written like the
real number of the same value. -/
inductive JsonNumber where
  | int (value : Int)
  | real (value : Rat)
deriving DecidableEq, Repr

namespace JsonNumber

def value : JsonNumber → Time
  | int value => value
  | real value => value

def json : JsonNumber → Json
  | int value => .int value
  | real value => .real value

/-- What a column of type `REAL` gives back. -/
def stored (number : JsonNumber) : JsonNumber := .real number.value

end JsonNumber

/-! ## Texts as bytes -/

def encodeUtf8 (text : String) : Bytes := text.toUTF8.data.toList

def decodeUtf8 (content : Bytes) : Option String := String.fromUTF8? content.toByteArray

theorem decodeUtf8_encodeUtf8 {text : String} : decodeUtf8 (encodeUtf8 text) = some text := by
  have whole : text.toUTF8.data.toList.toByteArray = text.toUTF8 := by
    apply ByteArray.ext
    rw [List.data_toByteArray]
  unfold decodeUtf8 encodeUtf8 String.fromUTF8?
  rw [whole]
  exact dif_pos text.isValidUTF8

theorem encodeUtf8_of_decodeUtf8 {content : Bytes} {text : String} (decoded : decodeUtf8 content = some text) :
    encodeUtf8 text = content := by
  unfold decodeUtf8 String.fromUTF8? at decoded
  split at decoded
  · cases decoded
    change content.toByteArray.data.toList = content
    rw [List.data_toByteArray]
  · cases decoded

/-- `abs(now - created_at)`. -/
def clockDistance (now createdAt : Time) : Time := max (now - createdAt) (createdAt - now)

def validRequestId (requestId : String) : Bool := requestId.toList.length ≤ 128 && requestId ≠ ""

structure GroupMessagePayload where
  messageId : String
  groupId : String
  senderId : PeerId
  recipientId : PeerId
  createdAt : JsonNumber
  encryptedContent : Bytes
  signature : Bytes
  replyToMessageId : Option String
  originSignature : Bytes
deriving DecidableEq, Repr

/-- A reply member is written only for a non-empty id. -/
def replyMember (replyToMessageId : Option String) : List (String × Json) :=
  match replyToMessageId with
  | some messageId => if messageId = "" then [] else [("reply_to_message_id", .text messageId)]
  | none => []

namespace GroupMessagePayload

variable (payload : GroupMessagePayload)

/-- The checks of `decode` on members that have their types. -/
def valid : Bool :=
  validRequestId payload.messageId && isLowerHexOf 32 payload.groupId && validPeerId payload.senderId &&
    validPeerId payload.recipientId && decide (0 < payload.createdAt.value) &&
    decide (payload.createdAt.value < 1000000000000) && payload.signature.length = 64 &&
    (payload.originSignature.length = 0 || payload.originSignature.length = 64) &&
    payload.replyToMessageId.all validRequestId

def associatedData : Json :=
  .object <|
    [("message_id", .text payload.messageId), ("group_id", .text payload.groupId),
     ("sender_id", .text payload.senderId), ("recipient_id", .text payload.recipientId),
     ("created_at", payload.createdAt.json)] ++ replyMember payload.replyToMessageId

def signedBytes (crypto : FileCrypto) : Bytes :=
  crypto.digest (crypto.canonical payload.associatedData ++ payload.encryptedContent)

def json : Json :=
  .object <|
    [("message_id", .text payload.messageId), ("group_id", .text payload.groupId),
     ("sender_id", .text payload.senderId), ("recipient_id", .text payload.recipientId),
     ("created_at", payload.createdAt.json), ("encrypted_content", .text (Hex.toText payload.encryptedContent)),
     ("signature", .text (Hex.toText payload.signature)), ("origin_signature", .text (Hex.toText payload.originSignature))] ++
    replyMember payload.replyToMessageId

end GroupMessagePayload

/-- `group_origin_signed_bytes` before it is written out. -/
def groupOrigin (messageId groupId : String) (senderId : PeerId) (createdAt : JsonNumber)
    (replyToMessageId : Option String) (contentSha256 : String) : Json :=
  .object <|
    [("message_id", .text messageId), ("group_id", .text groupId), ("sender_id", .text senderId),
     ("created_at", createdAt.json), ("content_sha256", .text contentSha256)] ++ replyMember replyToMessageId

structure GroupLeavePayload where
  eventId : String
  groupId : String
  peerId : PeerId
  createdAt : JsonNumber
  signature : Bytes
deriving DecidableEq, Repr

namespace GroupLeavePayload

variable (leave : GroupLeavePayload)

def unsigned : Json :=
  .object
    [("event_id", .text leave.eventId), ("group_id", .text leave.groupId), ("peer_id", .text leave.peerId),
     ("created_at", leave.createdAt.json)]

def json : Json :=
  .object
    [("event_id", .text leave.eventId), ("group_id", .text leave.groupId), ("peer_id", .text leave.peerId),
     ("created_at", leave.createdAt.json), ("signature", .text (Hex.toText leave.signature))]

def valid : Bool :=
  validRequestId leave.eventId && isLowerHexOf 32 leave.groupId && validPeerId leave.peerId &&
    leave.signature.length = 64

end GroupLeavePayload

structure GroupAckPayload where
  messageId : String
  groupId : String
  recipientId : PeerId
  signature : Bytes
deriving DecidableEq, Repr

namespace GroupAckPayload

variable (acknowledgement : GroupAckPayload)

/-- What `signed_bytes` writes out. -/
def unsigned : Json :=
  .object
    [("message_id", .text acknowledgement.messageId), ("group_id", .text acknowledgement.groupId),
     ("recipient_id", .text acknowledgement.recipientId)]

def json : Json :=
  .object
    [("message_id", .text acknowledgement.messageId), ("group_id", .text acknowledgement.groupId),
     ("recipient_id", .text acknowledgement.recipientId),
     ("signature", .text (Hex.toText acknowledgement.signature))]

def valid : Bool :=
  validRequestId acknowledgement.messageId && isLowerHexOf 32 acknowledgement.groupId &&
    validPeerId acknowledgement.recipientId && acknowledgement.signature.length = 64

end GroupAckPayload

end MeshTalk.Protocol
