import MeshTalk.Store.Queue

namespace MeshTalk.Store.Database

open MeshTalk.Library MeshTalk.Protocol

/-! # Group history and its pruning -/

def maxGroupHistoryRows : Nat := 5000
def hardMaxGroupHistoryRows : Nat := 10000

def groupHistory (db : Database) (groupId : String) : List GroupMessage :=
  db.groupMessages.rows.filter fun row => row.groupId = groupId

/-- Whether a row is selected by `ORDER BY rowid DESC LIMIT limit`. -/
def isNewest (history : List GroupMessage) (limit : Nat) (row : GroupMessage) : Bool :=
  (history.filter fun other => row.rowid < other.rowid).length < limit

/-- Someone is still waiting for the message. -/
def hasOpenDelivery (db : Database) (messageId : String) : Bool :=
  db.groupDeliveries.rows.any fun delivery =>
    delivery.messageId = messageId ∧ delivery.status ≠ .delivered ∧ delivery.status ≠ .unavailable

def insertGroupMessage (db : Database) (message : GroupMessage) : Database :=
  let rowid := nextId (db.groupMessages.rows.map GroupMessage.rowid) 0
  { db with groupMessages := db.groupMessages.insertOrIgnore { message with rowid } }

def pruneSettled (db : Database) (groupId : String) : Database :=
  let history := db.groupHistory groupId
  if history.length > maxGroupHistoryRows + 100 then
    { db with groupMessages := db.groupMessages.deleteWhere fun row =>
        row.groupId = groupId ∧ ¬ isNewest history maxGroupHistoryRows row ∧
          ¬ db.hasOpenDelivery row.messageId }
  else db

def pruneBeyondHardLimit (db : Database) (groupId : String) : Database :=
  let history := db.groupHistory groupId
  if history.length > hardMaxGroupHistoryRows then
    { db with groupMessages := db.groupMessages.deleteWhere fun row =>
        row.groupId = groupId ∧ ¬ isNewest history hardMaxGroupHistoryRows row }
  else db

def dropOrphanDeliveries (db : Database) : Database :=
  { db with groupDeliveries := db.groupDeliveries.deleteWhere fun delivery =>
      ¬ db.groupMessages.holds delivery.messageId }

/-- The last statement of the prune selects by group and by the message id not
naming a stored group message; it does not ask which packet the row holds. -/
def dropOrphanQueued (db : Database) (groupId : String) : Database :=
  { db with outgoingQueue := db.outgoingQueue.deleteWhere fun row =>
      row.groupId = some groupId ∧ row.messageId ≠ none ∧
        ¬ row.messageId.any db.groupMessages.holds }

def pruneGroupHistory (db : Database) (groupId : String) : Database :=
  ((db.pruneSettled groupId).pruneBeyondHardLimit groupId).dropOrphanDeliveries.dropOrphanQueued groupId

/-- Returns whether the message was newly inserted; only then is history pruned. -/
def saveGroupMessage (db : Database) (message : GroupMessage) : Database × Bool :=
  if db.groupMessages.holds message.messageId then (db, false)
  else ((db.insertGroupMessage message).pruneGroupHistory message.groupId, true)

variable {db : Database} {message pruned : GroupMessage} {row : OutgoingRow} {groupId : String}

theorem insertGroupMessage_holds {messageId : String} :
    (db.insertGroupMessage message).groupMessages.holds messageId = true ↔
      db.groupMessages.holds messageId = true ∨ messageId = message.messageId :=
  Table.holds_insertOrIgnore

/-- What a history deletion can do: drop messages of its group, and touch
nothing else the queue statement reads. -/
structure DropsHistory (groupId : String) (before after : Database) : Prop where
  queue : after.outgoingQueue = before.outgoingQueue
  stored : ∀ row ∈ after.groupMessages.rows, row ∈ before.groupMessages.rows
  foreign : ∀ row ∈ before.groupMessages.rows, row.groupId ≠ groupId → row ∈ after.groupMessages.rows
  members : after.groupMembers = before.groupMembers
  cursors : after.groupRelayCursors = before.groupRelayCursors

theorem DropsHistory.trans {before middle after : Database} (first : DropsHistory groupId before middle)
    (second : DropsHistory groupId middle after) : DropsHistory groupId before after where
  queue := second.queue.trans first.queue
  stored row member := first.stored row (second.stored row member)
  foreign row member other := second.foreign row (first.foreign row member other) other
  members := second.members.trans first.members
  cursors := second.cursors.trans first.cursors

theorem DropsHistory.refl : DropsHistory groupId db db :=
  ⟨rfl, fun _ member => member, fun _ member _ => member, rfl, rfl⟩

theorem DropsHistory.deletion {doomed : GroupMessage → Bool} (within : ∀ row, doomed row = true → row.groupId = groupId) :
    DropsHistory groupId db { db with groupMessages := db.groupMessages.deleteWhere doomed } where
  queue := rfl
  stored _ member := (Table.mem_deleteWhere.mp member).1
  foreign row member other :=
    Table.mem_deleteWhere.mpr ⟨member, Bool.eq_false_iff.mpr fun chosen => other (within row chosen)⟩
  members := rfl
  cursors := rfl

theorem pruneSettled_drops : DropsHistory groupId db (db.pruneSettled groupId) := by
  simp only [pruneSettled]
  split
  · exact .deletion fun row chosen => (of_decide_eq_true chosen).1
  · exact .refl

theorem pruneBeyondHardLimit_drops : DropsHistory groupId db (db.pruneBeyondHardLimit groupId) := by
  simp only [pruneBeyondHardLimit]
  split
  · exact .deletion fun row chosen => (of_decide_eq_true chosen).1
  · exact .refl

/-- The effect of the whole prune on the two tables the frame property is
about: history rows of the group may go, and the queue loses exactly the rows
of the group whose message id names no remaining message. -/
theorem pruneGroupHistory_spec :
    ∃ kept : Database, DropsHistory groupId db kept ∧
      (db.pruneGroupHistory groupId).groupMessages = kept.groupMessages ∧
      ∀ row, row ∈ (db.pruneGroupHistory groupId).outgoingQueue.rows ↔
        row ∈ db.outgoingQueue.rows ∧ ¬ (row.groupId = some groupId ∧
          ∃ messageId, row.messageId = some messageId ∧ kept.groupMessages.holds messageId = false) := by
  refine ⟨(db.pruneSettled groupId).pruneBeyondHardLimit groupId,
    pruneSettled_drops.trans pruneBeyondHardLimit_drops, ?_, ?_⟩
  · simp only [pruneGroupHistory, dropOrphanQueued, dropOrphanDeliveries]
  · have queue := ((@pruneSettled_drops db groupId).trans pruneBeyondHardLimit_drops).queue
    intro row
    simp only [pruneGroupHistory, dropOrphanQueued, dropOrphanDeliveries, Table.mem_deleteWhere, queue,
      decide_eq_false_iff_not]
    refine and_congr_right fun _ => not_congr (and_congr_right fun _ => ?_)
    cases row.messageId <;> simp

theorem pruneGroupHistory_members : (db.pruneGroupHistory groupId).groupMembers = db.groupMembers := by
  simp only [pruneGroupHistory, dropOrphanQueued, dropOrphanDeliveries]
  rw [pruneBeyondHardLimit_drops.members, pruneSettled_drops.members]

theorem pruneGroupHistory_cursors : (db.pruneGroupHistory groupId).groupRelayCursors = db.groupRelayCursors := by
  simp only [pruneGroupHistory, dropOrphanQueued, dropOrphanDeliveries]
  rw [pruneBeyondHardLimit_drops.cursors, pruneSettled_drops.cursors]

theorem mem_pruneGroupHistory {stored : GroupMessage}
    (member : stored ∈ (db.pruneGroupHistory groupId).groupMessages.rows) : stored ∈ db.groupMessages.rows := by
  simp only [pruneGroupHistory, dropOrphanQueued, dropOrphanDeliveries] at member
  exact pruneSettled_drops.stored stored (pruneBeyondHardLimit_drops.stored stored member)

theorem saveGroupMessage_members : (db.saveGroupMessage message).1.groupMembers = db.groupMembers := by
  unfold saveGroupMessage
  split
  · rfl
  · exact pruneGroupHistory_members

theorem saveGroupMessage_cursors : (db.saveGroupMessage message).1.groupRelayCursors = db.groupRelayCursors := by
  unfold saveGroupMessage
  split
  · rfl
  · exact pruneGroupHistory_cursors

/-- Saving adds at most the message, under a row id above all that are taken. -/
theorem mem_saveGroupMessage {stored : GroupMessage}
    (member : stored ∈ (db.saveGroupMessage message).1.groupMessages.rows) :
    stored ∈ db.groupMessages.rows ∨
      (db.groupMessages.holds message.messageId = false ∧
        stored = { message with rowid := nextId (db.groupMessages.rows.map GroupMessage.rowid) 0 }) := by
  unfold saveGroupMessage at member
  split at member
  · exact .inl member
  · rename_i fresh
    have kept := mem_pruneGroupHistory member
    rcases Table.mem_insertOrIgnore.mp kept with old | ⟨rfl, -⟩
    · exact .inl old
    · exact .inr ⟨by simpa using fresh, rfl⟩

end MeshTalk.Store.Database
