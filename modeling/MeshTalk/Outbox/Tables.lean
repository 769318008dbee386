import MeshTalk.Store.GroupDeliveries

namespace MeshTalk.Outbox

open MeshTalk.Library MeshTalk.Protocol MeshTalk.Store

/-! # Messages on their way

The direct messages with the flags that tell how far they have come, next to
the tables of the queue and of the group deliveries.  Each operation is one
statement.
-/

structure SentMessage where
  messageId : String
  senderId : PeerId
  recipientId : PeerId
  content : Option String
  encryptedContent : Bytes
  createdAt : Time
  readAt : Option Time
  replyToMessageId : Option String
  receivedAt : Option Time
  delivered : Bool
  queued : Bool
  failed : Bool
  blocked : Bool
deriving DecidableEq, Repr

/-- `messages` is the table of that name with the columns used here; `db.messages` stays empty. -/
structure OutboxTables where
  messages : Table SentMessage SentMessage.messageId := ∅
  db : Database := {}

namespace OutboxTables

variable (tables : OutboxTables)

def updateMessages (chosen : SentMessage → Bool) (change : SentMessage → SentMessage)
    (keeps : ∀ row, (change row).messageId = row.messageId) : OutboxTables :=
  { tables with messages := tables.messages.updateWhere chosen change keeps }

def saveMessage (message : SentMessage) : OutboxTables :=
  { tables with messages := tables.messages.insertOrIgnore message }

def isFrom (messageId : String) (senderId recipientId : PeerId) (row : SentMessage) : Bool :=
  row.messageId = messageId && row.senderId = senderId && row.recipientId = recipientId

def markMessageDelivered (messageId : String) (senderId recipientId : PeerId) (now : Time) : OutboxTables :=
  tables.updateMessages (isFrom messageId senderId recipientId)
    (fun row => { row with delivered := true, queued := false, receivedAt := some now }) fun _ => rfl

def markMessageSent (messageId : String) : OutboxTables :=
  tables.updateMessages (fun row => row.messageId = messageId) (fun row => { row with queued := false }) fun _ => rfl

def markMessageQueued (messageId : String) : OutboxTables :=
  tables.updateMessages (fun row => row.messageId = messageId) (fun row => { row with queued := true }) fun _ => rfl

def markMessageFailed (messageId : String) : OutboxTables :=
  tables.updateMessages (fun row => row.messageId = messageId)
    (fun row => { row with failed := true, queued := false }) fun _ => rfl

def markMessageBlocked (messageId : String) (senderId recipientId : PeerId) : OutboxTables :=
  tables.updateMessages (isFrom messageId senderId recipientId) (fun row => { row with blocked := true }) fun _ => rfl

def deleteMessage (messageId : String) : OutboxTables :=
  { tables with messages := tables.messages.deleteWhere fun row => row.messageId = messageId }

end OutboxTables

end MeshTalk.Outbox
