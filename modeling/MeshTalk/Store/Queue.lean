import MeshTalk.Store.Tables

namespace MeshTalk.Store.Database

open MeshTalk.Library MeshTalk.Protocol

/-! # The outgoing queue

One table holds the packets of several producers under different conventions
for `message_id`: a direct or group message's id, a friend request's id, a
file's id, or nothing at all.
-/

def addToOutqueue (db : Database) (recipientId : PeerId) (packetType : Nat) (encryptedPayload : Bytes)
    (messageId groupId : Option String) (now : Time) : Database :=
  let id := nextId (db.outgoingQueue.rows.map OutgoingRow.id) db.queueSequence
  { db with
    queueSequence := id
    outgoingQueue := db.outgoingQueue.insertOrIgnore
      { id, messageId, recipientId, packetType, encryptedPayload,
        createdAt := now, attempts := 0, lastAttempt := none, groupId } }

def getPendingOutgoing (db : Database) (recipientId : PeerId) : List OutgoingRow :=
  db.outgoingQueue.rows.filter fun row => row.recipientId = recipientId ∧ row.attempts < 5

def incrementOutqueueAttempts (db : Database) (queueId : Nat) (now : Time) : Database :=
  let attempt (row : OutgoingRow) : OutgoingRow :=
    { row with attempts := row.attempts + 1, lastAttempt := some now }
  { db with
    outgoingQueue := db.outgoingQueue.updateWhere (fun row => row.id = queueId) attempt fun _ => rfl }

def removeFromOutqueue (db : Database) (queueId : Nat) : Database :=
  { db with outgoingQueue := db.outgoingQueue.deleteWhere fun row => row.id = queueId }

/-- Scoped to one recipient when one is given. -/
def removeFileFromOutqueue (db : Database) (fileId : String) (recipientId : Option PeerId) : Database :=
  { db with outgoingQueue := db.outgoingQueue.deleteWhere fun row =>
      row.messageId = some fileId ∧ (recipientId = none ∨ recipientId = some row.recipientId) }

/-- The queue part of the daily sweep: rows whose retry budget is used up. -/
def cleanupExpired (db : Database) (now : Time) : Database :=
  { db with
    seenMessages := db.seenMessages.deleteWhere fun row => row.seenAt < now - 86400
    outgoingQueue := db.outgoingQueue.deleteWhere fun row => 5 ≤ row.attempts }

def deleteMessageLocally (db : Database) (messageId : String) (groupId : Option String) : Database :=
  let db := { db with
    outgoingQueue := db.outgoingQueue.deleteWhere fun row => row.messageId = some messageId }
  match groupId with
  | none => { db with messages := db.messages.deleteWhere fun row => row.messageId = messageId }
  | some groupId =>
      { db with
        groupMessages := db.groupMessages.deleteWhere fun row =>
          row.messageId = messageId ∧ row.groupId = groupId
        groupDeliveries := db.groupDeliveries.deleteWhere fun row => row.messageId = messageId }

/-- The rows removed with an attachment; an unknown file id changes nothing. -/
def deleteFileTransferLocally (db : Database) (fileId : String) : Database :=
  match db.fileTransfers.find? fileId with
  | none => db
  | some _ =>
      { db with
        fileTransfers := db.fileTransfers.deleteWhere fun row => row.fileId = fileId
        fileReceivedChunks := db.fileReceivedChunks.deleteWhere fun row => row.fileId = fileId
        fileDeliveries := db.fileDeliveries.deleteWhere fun row => row.fileId = fileId
        outgoingQueue := db.outgoingQueue.deleteWhere fun row => row.messageId = some fileId
        seenMessages := db.seenMessages.deleteWhere fun row => row.messageId = fileId }

/-- Leaving a group drops its pending traffic and roster; history stays. -/
def removeGroup (db : Database) (groupId : String) : Database :=
  { db with
    outgoingQueue := db.outgoingQueue.deleteWhere fun row => row.groupId = some groupId
    groups := db.groups.filter fun group => group ≠ groupId
    groupMembers := db.groupMembers.deleteWhere fun row => row.groupId = groupId }

theorem addToOutqueue_keeps {db : Database} {row : OutgoingRow}
    (queued : row ∈ db.outgoingQueue.rows) :
    row ∈ (db.addToOutqueue recipientId packetType payload messageId groupId now).outgoingQueue.rows :=
  Table.mem_insertOrIgnore.mpr (.inl queued)

theorem addToOutqueue_adds {db : Database} :
    ∃ row ∈ (db.addToOutqueue recipientId packetType payload messageId groupId now).outgoingQueue.rows,
      row.id = nextId (db.outgoingQueue.rows.map OutgoingRow.id) db.queueSequence ∧
      row.messageId = messageId ∧ row.groupId = groupId ∧ row.recipientId = recipientId ∧
      row.packetType = packetType ∧ row.encryptedPayload = payload :=
  ⟨_, Table.mem_insertOrIgnore.mpr (.inr ⟨rfl, nextId_fresh⟩), rfl, rfl, rfl, rfl, rfl, rfl⟩

theorem incrementOutqueueAttempts_keeps {db : Database} {row : OutgoingRow}
    (queued : row ∈ db.outgoingQueue.rows) :
    ∃ kept ∈ (db.incrementOutqueueAttempts queueId now).outgoingQueue.rows, kept.SameEntry row := by
  simp only [incrementOutqueueAttempts, Table.mem_updateWhere]
  refine ⟨_, ⟨row, queued, rfl⟩, ?_⟩
  split <;> rfl

end MeshTalk.Store.Database
