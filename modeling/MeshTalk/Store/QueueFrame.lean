import MeshTalk.Library.Machine
import MeshTalk.Store.GroupHistory

namespace MeshTalk.Store.Database

open MeshTalk.Library MeshTalk.Protocol

/-! # What a saved group message does to other producers' queued packets -/

/-- The row is a queued packet of the group message. -/
def PacketOf (message : GroupMessage) (row : OutgoingRow) : Prop :=
  row.messageId = some message.messageId ∧ row.groupId = some message.groupId

def PrunedBySave (db : Database) (message pruned : GroupMessage) : Prop :=
  pruned ∈ (db.insertGroupMessage message).groupMessages.rows ∧
    pruned ∉ (db.saveGroupMessage message).1.groupMessages.rows

/-- The frame a save owes the queue: rows other than the packets of messages
that this save pruned are exactly the ones that were there. -/
def QueueFrame (db : Database) (message : GroupMessage) : Prop :=
  ∀ row, (¬ ∃ pruned, PrunedBySave db message pruned ∧ PacketOf pruned row) →
    (row ∈ (db.saveGroupMessage message).1.outgoingQueue.rows ↔ row ∈ db.outgoingQueue.rows)

/-- The save inserts nothing, or every queued packet of the group that carries
a message id carries the id of a group message that is stored by then. -/
def Covered (db : Database) (message : GroupMessage) : Prop :=
  db.groupMessages.holds message.messageId = true ∨
    ∀ row ∈ db.outgoingQueue.rows, row.groupId = some message.groupId →
      ∀ messageId, row.messageId = some messageId →
        db.groupMessages.holds messageId = true ∨ messageId = message.messageId

variable {db : Database} {message pruned : GroupMessage} {row : OutgoingRow}

theorem saveGroupMessage_known (known : db.groupMessages.holds message.messageId = true) :
    (db.saveGroupMessage message).1 = db := by
  simp [saveGroupMessage, known]

theorem saveGroupMessage_spec (fresh : db.groupMessages.holds message.messageId = false) :
    ∃ kept : Database, DropsHistory message.groupId (db.insertGroupMessage message) kept ∧
      (db.saveGroupMessage message).1.groupMessages = kept.groupMessages ∧
      ∀ row, row ∈ (db.saveGroupMessage message).1.outgoingQueue.rows ↔
        row ∈ db.outgoingQueue.rows ∧ ¬ (row.groupId = some message.groupId ∧
          ∃ messageId, row.messageId = some messageId ∧ kept.groupMessages.holds messageId = false) := by
  have saved : (db.saveGroupMessage message).1 =
      (db.insertGroupMessage message).pruneGroupHistory message.groupId := by
    simp [saveGroupMessage, fresh]
  rw [saved]
  exact pruneGroupHistory_spec

theorem queueFrame_of_covered (covered : Covered db message) : QueueFrame db message := by
  intro row foreign
  by_cases known : db.groupMessages.holds message.messageId = true
  · rw [saveGroupMessage_known known]
  · obtain ⟨kept, drops, history, queue⟩ := saveGroupMessage_spec (Bool.eq_false_iff.mpr known)
    rw [queue]
    refine ⟨fun ⟨queued, _⟩ => queued, fun queued => ⟨queued, ?_⟩⟩
    rintro ⟨group, messageId, carries, dropped⟩
    -- The id names a message that was stored by then, so the prune removed it.
    have stored := insertGroupMessage_holds.mpr (covered.resolve_left known row queued group messageId carries)
    obtain ⟨victim, member, rfl⟩ := Table.holds_iff.mp stored
    have absent : victim ∉ kept.groupMessages.rows := fun held =>
      Bool.eq_false_iff.mp dropped (Table.holds_iff.mpr ⟨victim, held, rfl⟩)
    have sameGroup : victim.groupId = message.groupId := by
      by_contra other
      exact absent (drops.foreign victim member other)
    exact foreign ⟨victim, ⟨member, by rwa [history]⟩, carries, by rw [group, sameGroup]⟩

/-- A packet of the group whose id names no group message is deleted by the
next save, whichever producer queued it. -/
theorem saveGroupMessage_drops {messageId : String}
    (fresh : db.groupMessages.holds message.messageId = false)
    (group : row.groupId = some message.groupId) (carries : row.messageId = some messageId)
    (unknown : db.groupMessages.holds messageId = false) (other : messageId ≠ message.messageId) :
    row ∉ (db.saveGroupMessage message).1.outgoingQueue.rows := by
  obtain ⟨kept, drops, _, queue⟩ := saveGroupMessage_spec fresh
  rw [queue]
  refine fun ⟨_, survives⟩ => survives ⟨group, messageId, carries, Bool.eq_false_iff.mpr ?_⟩
  intro held
  obtain ⟨stored, member, rfl⟩ := Table.holds_iff.mp held
  have inserted := Table.holds_iff.mpr ⟨stored, drops.stored stored member, rfl⟩
  rcases insertGroupMessage_holds.mp inserted with known | same
  · rw [unknown] at known
    contradiction
  · exact other same

theorem covered_of_queueFrame (frame : QueueFrame db message) : Covered db message := by
  by_cases known : db.groupMessages.holds message.messageId = true
  · exact .inl known
  refine .inr fun row queued group messageId carries => ?_
  by_contra uncovered
  obtain ⟨unknown, other⟩ := not_or.mp uncovered
  have dropped := saveGroupMessage_drops (Bool.eq_false_iff.mpr known) group carries
    (Bool.eq_false_iff.mpr unknown) other
  refine dropped ((frame row ?_).mpr queued)
  rintro ⟨victim, ⟨member, _⟩, names, _⟩
  have sameId : victim.messageId = messageId := Option.some.inj (names.symm.trans carries)
  exact uncovered (insertGroupMessage_holds.mp (Table.holds_iff.mpr ⟨victim, member, sameId⟩))

/-! ## Runs of the operations that touch the queue -/

inductive QueueEvent where
  | addToOutqueue (recipientId : PeerId) (packetType : Nat) (payload : Bytes)
      (messageId groupId : Option String) (now : Time)
  | incrementOutqueueAttempts (queueId : Nat) (now : Time)
  | removeFromOutqueue (queueId : Nat)
  | removeFileFromOutqueue (fileId : String) (recipientId : Option PeerId)
  | cleanupExpired (now : Time)
  | deleteMessageLocally (messageId : String) (groupId : Option String)
  | deleteFileTransferLocally (fileId : String)
  | removeGroup (groupId : String)
  | saveGroupMessage (message : GroupMessage)

def apply (db : Database) : QueueEvent → Database
  | .addToOutqueue recipientId packetType payload messageId groupId now =>
      db.addToOutqueue recipientId packetType payload messageId groupId now
  | .incrementOutqueueAttempts queueId now => db.incrementOutqueueAttempts queueId now
  | .removeFromOutqueue queueId => db.removeFromOutqueue queueId
  | .removeFileFromOutqueue fileId recipientId => db.removeFileFromOutqueue fileId recipientId
  | .cleanupExpired now => db.cleanupExpired now
  | .deleteMessageLocally messageId groupId => db.deleteMessageLocally messageId groupId
  | .deleteFileTransferLocally fileId => db.deleteFileTransferLocally fileId
  | .removeGroup groupId => db.removeGroup groupId
  | .saveGroupMessage message => (db.saveGroupMessage message).1

def queueStep : Step Database QueueEvent := fun db event => some (db.apply event)

def Queued (row : OutgoingRow) (db : Database) : Prop :=
  ∃ kept ∈ db.outgoingQueue.rows, kept.SameEntry row

/-- The operation is one of those that remove this packet on purpose. -/
def Removes (row : OutgoingRow) (db : Database) : QueueEvent → Prop
  | .addToOutqueue .. | .incrementOutqueueAttempts .. => False
  | .removeFromOutqueue queueId => row.id = queueId
  | .removeFileFromOutqueue fileId recipientId =>
      row.messageId = some fileId ∧ (recipientId = none ∨ recipientId = some row.recipientId)
  | .cleanupExpired _ => ∃ kept ∈ db.outgoingQueue.rows, kept.SameEntry row ∧ 5 ≤ kept.attempts
  | .deleteMessageLocally messageId _ | .deleteFileTransferLocally messageId =>
      row.messageId = some messageId
  | .removeGroup groupId => row.groupId = some groupId
  | .saveGroupMessage message => ∃ pruned, PrunedBySave db message pruned ∧ PacketOf pruned row

def SavesCovered (db : Database) (event : QueueEvent) : Prop :=
  ∀ message, event = .saveGroupMessage message → Covered db message

theorem apply_keeps {event : QueueEvent} (queued : Queued row db) (covered : SavesCovered db event)
    (kept : ¬ Removes row db event) : Queued row (db.apply event) := by
  obtain ⟨current, member, same⟩ := queued
  have names : current.id = row.id ∧ current.messageId = row.messageId ∧
      current.recipientId = row.recipientId ∧ current.groupId = row.groupId := by
    rw [← same]
    exact ⟨rfl, rfl, rfl, rfl⟩
  obtain ⟨id, messageId, recipientId, groupId⟩ := names
  cases event with
  | addToOutqueue => exact ⟨current, addToOutqueue_keeps member, same⟩
  | incrementOutqueueAttempts queueId now =>
      obtain ⟨next, nextMember, nextSame⟩ : ∃ next ∈
          (db.incrementOutqueueAttempts queueId now).outgoingQueue.rows, next.SameEntry current :=
        incrementOutqueueAttempts_keeps member
      exact ⟨next, nextMember, by rw [← same, ← nextSame]; rfl⟩
  | removeFromOutqueue queueId =>
      exact ⟨current, Table.mem_deleteWhere.mpr ⟨member, by rw [decide_eq_false_iff_not, id]; exact kept⟩, same⟩
  | removeFileFromOutqueue fileId recipient =>
      refine ⟨current, Table.mem_deleteWhere.mpr ⟨member, ?_⟩, same⟩
      rw [decide_eq_false_iff_not, messageId, recipientId]
      exact kept
  | cleanupExpired now =>
      refine ⟨current, Table.mem_deleteWhere.mpr ⟨member, ?_⟩, same⟩
      rw [decide_eq_false_iff_not]
      exact fun spent => kept ⟨current, member, same, spent⟩
  | deleteMessageLocally wanted group =>
      refine ⟨current, ?_, same⟩
      have survives : current ∈ (db.outgoingQueue.deleteWhere fun row => row.messageId = some wanted).rows :=
        Table.mem_deleteWhere.mpr ⟨member, by rw [decide_eq_false_iff_not, messageId]; exact kept⟩
      cases group <;> exact survives
  | deleteFileTransferLocally fileId =>
      refine ⟨current, ?_, same⟩
      simp only [apply, deleteFileTransferLocally]
      split
      · exact member
      · exact Table.mem_deleteWhere.mpr ⟨member, by rw [decide_eq_false_iff_not, messageId]; exact kept⟩
  | removeGroup group =>
      exact ⟨current, Table.mem_deleteWhere.mpr ⟨member, by rw [decide_eq_false_iff_not, groupId]; exact kept⟩, same⟩
  | saveGroupMessage message =>
      refine ⟨current, (queueFrame_of_covered (covered message rfl) current ?_).mpr member, same⟩
      rintro ⟨victim, prunedHere, names, group⟩
      exact kept ⟨victim, prunedHere, messageId ▸ names, groupId ▸ group⟩

/-- A save keeps every foreign queue row exactly when the group's queued message
ids are covered; and over any run whose saves are covered a queued packet stays
queued until an operation that names it removes it. -/
theorem group_saves_frame_the_queue (db : Database) (message : GroupMessage) {start final : Database}
    {events : List QueueEvent} {row : OutgoingRow} (completed : run queueStep start events = some final)
    (meets : Meets queueStep SavesCovered start events) (queued : Queued row start) :
    (QueueFrame db message ↔ Covered db message) ∧
      (Queued row final ∨ ∃ before event after state, events = before ++ event :: after ∧
        run queueStep start before = some state ∧ Removes row state event) := by
  refine ⟨⟨covered_of_queueFrame, queueFrame_of_covered⟩, run_retained ?_ queued meets completed⟩
  rintro state event next held covered kept ⟨⟩
  exact apply_keeps held covered kept

/-- An offer to an absent member of group `g`, queued by the file manager. -/
def offerQueued : Database :=
  Database.addToOutqueue {} "bob" PacketType.fileOfferV2.value [0x7b] (some "5f1c0e9a") (some "g") 0

def offerRow : OutgoingRow :=
  { id := 1, messageId := some "5f1c0e9a", recipientId := "bob", packetType := PacketType.fileOfferV2.value,
    encryptedPayload := [0x7b], createdAt := 0, attempts := 0, lastAttempt := none, groupId := some "g" }

/-- The history entry written when a member's join is announced. -/
def joinAnnouncement : GroupMessage :=
  { messageId := "c3a1-join", groupId := "g", senderId := "carol", content := some "carol joined the group",
    createdAt := 1, receivedAt := some 1, kind := .join, replyToMessageId := none,
    originSignature := none, rowid := 0 }

/-- In a run that only announces a join of another group, the offer of group
`g` stays queued: nothing in the run removes it. -/
theorem offer_survives_other_group_join :
    Queued offerRow (offerQueued.saveGroupMessage { joinAnnouncement with groupId := "h" }).1 ∨
      ∃ before event after state,
        [QueueEvent.saveGroupMessage { joinAnnouncement with groupId := "h" }] = before ++ event :: after ∧
        run queueStep offerQueued before = some state ∧
        Removes offerRow state event := by
  have completed : run queueStep offerQueued [.saveGroupMessage { joinAnnouncement with groupId := "h" }] =
      some (offerQueued.saveGroupMessage { joinAnnouncement with groupId := "h" }).1 := rfl
  have meets : Meets queueStep SavesCovered offerQueued [.saveGroupMessage { joinAnnouncement with groupId := "h" }] :=
    ⟨fun message same => by cases same; exact .inr (by decide), fun _ _ => trivial⟩
  have queued : Queued offerRow offerQueued := ⟨offerRow, by decide, rfl⟩
  exact (group_saves_frame_the_queue offerQueued joinAnnouncement completed meets queued).2

theorem join_announcement_drops_queued_offer : ¬ ∀ db message, QueueFrame db message := by
  intro frame
  have covered := covered_of_queueFrame (frame offerQueued joinAnnouncement)
  revert covered
  simp only [Covered]
  decide

end MeshTalk.Store.Database
