import MeshTalk.Protocol.GroupPayloads

namespace MeshTalk.Protocol

open MeshTalk.Library

/-! # Payloads of friend requests and direct messages

Decoded payloads.  `valid` has the checks of `decode` on members that have
their types, `unsigned` is what the signature covers before it is written out.
-/

def maxFriendNoteLength : Nat := 1024

structure FriendRequestPayload where
  requestId : String
  senderId : PeerId
  note : String
  createdAt : JsonNumber
  signature : Bytes
deriving DecidableEq, Repr

namespace FriendRequestPayload

variable (payload : FriendRequestPayload)

def unsigned : Json :=
  .object
    [("request_id", .text payload.requestId), ("sender_id", .text payload.senderId), ("note", .text payload.note),
     ("created_at", payload.createdAt.json)]

def valid : Bool :=
  validRequestId payload.requestId && validPeerId payload.senderId &&
    decide (payload.note.toList.length ≤ maxFriendNoteLength) && decide (0 < payload.createdAt.value) &&
    payload.signature.length = 64

end FriendRequestPayload

structure FriendRequestResponsePayload where
  requestId : String
  responderId : PeerId
  accept : Bool
  signature : Bytes
deriving DecidableEq, Repr

namespace FriendRequestResponsePayload

variable (payload : FriendRequestResponsePayload)

def unsigned : Json :=
  .object
    [("request_id", .text payload.requestId), ("responder_id", .text payload.responderId),
     ("accept", .bool payload.accept)]

def valid : Bool :=
  validRequestId payload.requestId && validPeerId payload.responderId && payload.signature.length = 64

end FriendRequestResponsePayload

structure FriendRequestCancelledPayload where
  requestId : String
  senderId : PeerId
  signature : Bytes
deriving DecidableEq, Repr

namespace FriendRequestCancelledPayload

variable (payload : FriendRequestCancelledPayload)

def unsigned : Json :=
  .object [("request_id", .text payload.requestId), ("sender_id", .text payload.senderId)]

def valid : Bool :=
  validRequestId payload.requestId && validPeerId payload.senderId && payload.signature.length = 64

end FriendRequestCancelledPayload

structure MessageBlockedPayload where
  messageId : String
  blockedBy : PeerId
  signature : Bytes
deriving DecidableEq, Repr

namespace MessageBlockedPayload

variable (payload : MessageBlockedPayload)

def unsigned : Json :=
  .object [("message_id", .text payload.messageId), ("blocked_by", .text payload.blockedBy)]

def valid : Bool :=
  validRequestId payload.messageId && validPeerId payload.blockedBy && payload.signature.length = 64

end MessageBlockedPayload

structure MessagePayload where
  messageId : String
  senderId : PeerId
  recipientId : PeerId
  createdAt : JsonNumber
  hopCount : Int
  maxHops : Int
  encryptedContent : Bytes
  signature : Bytes
  replyToMessageId : Option String
deriving DecidableEq, Repr

namespace MessagePayload

variable (payload : MessagePayload)

def valid : Bool :=
  payload.replyToMessageId.all validRequestId && validRequestId payload.messageId && validPeerId payload.senderId &&
    validPeerId payload.recipientId && decide (0 < payload.createdAt.value) &&
    decide (payload.createdAt.value < 1000000000000)

def associatedData : Json :=
  .object <|
    [("message_id", .text payload.messageId), ("sender_id", .text payload.senderId),
     ("recipient_id", .text payload.recipientId), ("created_at", payload.createdAt.json)] ++
    replyMember payload.replyToMessageId

def signedBytes (crypto : FileCrypto) : Bytes :=
  crypto.digest (crypto.canonical payload.associatedData ++ payload.encryptedContent)

def json : Json :=
  .object <|
    [("message_id", .text payload.messageId), ("sender_id", .text payload.senderId),
     ("recipient_id", .text payload.recipientId), ("created_at", payload.createdAt.json),
     ("hop_count", .int payload.hopCount), ("max_hops", .int payload.maxHops),
     ("encrypted_content", .text (Hex.toText payload.encryptedContent)),
     ("signature", .text (Hex.toText payload.signature))] ++ replyMember payload.replyToMessageId

end MessagePayload

/-- The packets by which peers become friends, or hear that they are not. -/
inductive FriendPacket where
  | request (payload : FriendRequestPayload)
  | response (payload : FriendRequestResponsePayload)
  | cancelled (payload : FriendRequestCancelledPayload)
  | blocked (payload : MessageBlockedPayload)
  | receipt (messageId : String)
deriving DecidableEq, Repr

end MeshTalk.Protocol
