import MeshTalk.Store.GroupDeliveries

namespace MeshTalk.Store.Database

open MeshTalk.Library MeshTalk.Protocol

/-! # Bounds on a group's history

SQLite hands out a row id above all that are taken, so the rows of a table in
the order of their insertion ascend by row id, also after an id is used again.
-/

/-- What reaches the history tables from outside a prune. -/
inductive HistoryCall where
  | save (message : GroupMessage)
  | setDelivery (messageId : String) (recipientId : PeerId) (status : GroupDeliveryStatus) (now : Time)
  | deleteLocally (messageId : String) (groupId : Option String)

def call (db : Database) : HistoryCall → Database
  | .save message => (db.saveGroupMessage message).1
  | .setDelivery messageId recipientId status now => db.setGroupDelivery messageId recipientId status now
  | .deleteLocally messageId groupId => db.deleteMessageLocally messageId groupId

def calls (db : Database) (performed : List HistoryCall) : Database := performed.foldl call db

/-- Insertion order is the order of row ids. -/
def Ascending (history : List GroupMessage) : Prop :=
  history.Pairwise fun earlier later => earlier.rowid < later.rowid

/-- The newest messages of a history by insertion. -/
def newest (history : List GroupMessage) (limit : Nat) : List GroupMessage := history.drop (history.length - limit)

variable {db : Database} {message row : GroupMessage} {groupId messageId : String} {limit : Nat}
  {history fewer : List GroupMessage}

theorem Ascending.sublist (ascending : Ascending history) (within : fewer.Sublist history) : Ascending fewer :=
  List.Pairwise.sublist within ascending

theorem Ascending.groupHistory (ascending : Ascending db.groupMessages.rows) : Ascending (db.groupHistory groupId) :=
  ascending.sublist List.filter_sublist

theorem isNewest_fewer (sublist : fewer.Sublist history) (newest : isNewest history limit row = true) :
    isNewest fewer limit row = true := by
  simp only [isNewest, decide_eq_true_eq] at newest ⊢
  have bound : (fewer.filter fun other => row.rowid < other.rowid).length ≤
      (history.filter fun other => row.rowid < other.rowid).length := (sublist.filter _).length_le
  exact Nat.lt_of_le_of_lt bound newest

theorem isNewest_mono {more : Nat} (larger : limit ≤ more) (newest : isNewest history limit row = true) :
    isNewest history more row = true := by
  simp only [isNewest, decide_eq_true_eq] at newest ⊢
  exact Nat.lt_of_lt_of_le newest larger

/-- The rows after a given one are the rows above it. -/
theorem isNewest_append {past recent : List GroupMessage} (ascending : Ascending (past ++ recent)) (present : row ∈ recent)
    (few : recent.length ≤ limit) : isNewest (past ++ recent) limit row = true := by
  obtain ⟨_, _, before⟩ := List.pairwise_append.mp ascending
  have older : (past.filter fun other => row.rowid < other.rowid) = [] := by
    refine List.filter_eq_nil_iff.mpr fun other member => ?_
    have below := before other member row present
    simp only [decide_eq_true_eq]
    omega
  have fewerAbove : (recent.filter fun other => row.rowid < other.rowid).length < recent.length := by
    refine List.length_filter_lt_length_iff_exists.mpr ⟨row, present, ?_⟩
    simp
  simp only [isNewest, List.filter_append, older, List.nil_append, decide_eq_true_eq]
  omega

theorem not_isNewest_append {past recent : List GroupMessage} (ascending : Ascending (past ++ recent)) (present : row ∈ past)
    (many : limit ≤ recent.length) : isNewest (past ++ recent) limit row = false := by
  obtain ⟨_, _, before⟩ := List.pairwise_append.mp ascending
  have above : (recent.filter fun other => row.rowid < other.rowid) = recent := by
    refine List.filter_eq_self.mpr fun other member => ?_
    exact decide_eq_true (before row present other member)
  simp only [isNewest, List.filter_append, above, List.length_append, decide_eq_false_iff_not]
  omega

/-- `ORDER BY rowid DESC LIMIT limit` selects the end of the history. -/
theorem filter_isNewest (ascending : Ascending history) :
    history.filter (isNewest history limit) = newest history limit := by
  have split : history.take (history.length - limit) ++ newest history limit = history := List.take_append_drop _ _
  have length : (newest history limit).length = history.length - (history.length - limit) := List.length_drop
  have ordered := ascending
  rw [← split] at ordered
  have kept : (newest history limit).filter (isNewest history limit) = newest history limit := by
    refine List.filter_eq_self.mpr fun row present => ?_
    have chosen : isNewest _ limit row = true := isNewest_append ordered present (by omega)
    rwa [split] at chosen
  have dropped : (history.take (history.length - limit)).filter (isNewest history limit) = [] := by
    refine List.filter_eq_nil_iff.mpr fun row present => ?_
    have some : 0 < (history.take (history.length - limit)).length := List.length_pos_of_mem present
    rw [List.length_take] at some
    have passed : isNewest _ limit row = false := not_isNewest_append ordered present (by omega)
    rw [split] at passed
    exact Bool.eq_false_iff.mp passed
  calc history.filter (isNewest history limit)
      = (history.take (history.length - limit) ++ newest history limit).filter (isNewest history limit) := by rw [split]
    _ = newest history limit := by rw [List.filter_append, dropped, kept, List.nil_append]

theorem length_newest_le : (newest history limit).length ≤ limit := by
  rw [newest, List.length_drop]
  omega

theorem isNewest_of_mem_newest (ascending : Ascending history) (recent : row ∈ newest history limit) :
    isNewest history limit row = true := by
  rw [← filter_isNewest ascending] at recent
  exact (List.mem_filter.mp recent).2

/-! ### What a prune removes -/

theorem groupHistory_pruneSettled_sublist : ((db.pruneSettled groupId).groupHistory groupId).Sublist (db.groupHistory groupId) := by
  unfold pruneSettled
  simp only
  split
  · exact List.Sublist.filter _ List.filter_sublist
  · exact List.Sublist.refl _

/-- The soft prune spares the newest messages and those someone waits for. -/
theorem mem_pruneSettled (present : row ∈ db.groupMessages.rows)
    (spared : row.groupId ≠ groupId ∨ isNewest (db.groupHistory groupId) maxGroupHistoryRows row = true ∨
      db.hasOpenDelivery row.messageId = true) : row ∈ (db.pruneSettled groupId).groupMessages.rows := by
  unfold pruneSettled
  simp only
  split
  · refine Table.mem_deleteWhere.mpr ⟨present, decide_eq_false fun doomed => ?_⟩
    obtain ⟨foreign, old, settled⟩ := doomed
    rcases spared with other | recent | waiting
    · exact other foreign
    · exact old recent
    · exact settled waiting
  · exact present

theorem mem_pruneBeyondHardLimit (present : row ∈ db.groupMessages.rows)
    (spared : row.groupId ≠ groupId ∨ isNewest (db.groupHistory groupId) hardMaxGroupHistoryRows row = true) :
    row ∈ (db.pruneBeyondHardLimit groupId).groupMessages.rows := by
  unfold pruneBeyondHardLimit
  simp only
  split
  · refine Table.mem_deleteWhere.mpr ⟨present, decide_eq_false fun doomed => ?_⟩
    obtain ⟨foreign, old⟩ := doomed
    rcases spared with other | recent
    · exact other foreign
    · exact old recent
  · exact present

theorem pruneBeyondHardLimit_few (few : (db.groupHistory groupId).length ≤ hardMaxGroupHistoryRows) :
    db.pruneBeyondHardLimit groupId = db := by
  unfold pruneBeyondHardLimit
  exact if_neg (Nat.not_lt.mpr few)

theorem length_pruneBeyondHardLimit (ascending : Ascending db.groupMessages.rows) :
    ((db.pruneBeyondHardLimit groupId).groupHistory groupId).length ≤ hardMaxGroupHistoryRows := by
  by_cases few : (db.groupHistory groupId).length ≤ hardMaxGroupHistoryRows
  · rw [pruneBeyondHardLimit_few few]
    exact few
  · have remaining : (db.pruneBeyondHardLimit groupId).groupHistory groupId =
        (db.groupHistory groupId).filter (isNewest (db.groupHistory groupId) hardMaxGroupHistoryRows) := by
      unfold pruneBeyondHardLimit
      simp only
      rw [if_pos (Nat.lt_of_not_le few)]
      simp only [groupHistory, Table.deleteWhere, List.filter_filter]
      refine List.filter_congr fun row _ => ?_
      by_cases own : row.groupId = groupId <;> simp [own]
    rw [remaining, filter_isNewest ascending.groupHistory]
    exact length_newest_le

theorem pruneGroupHistory_messages : (db.pruneGroupHistory groupId).groupMessages =
    ((db.pruneSettled groupId).pruneBeyondHardLimit groupId).groupMessages := rfl

theorem groupHistory_pruneGroupHistory : (db.pruneGroupHistory groupId).groupHistory groupId =
    ((db.pruneSettled groupId).pruneBeyondHardLimit groupId).groupHistory groupId := rfl

theorem pruneSettled_sublist : (db.pruneSettled groupId).groupMessages.rows.Sublist db.groupMessages.rows := by
  unfold pruneSettled
  simp only
  split
  · exact List.filter_sublist
  · exact List.Sublist.refl _

theorem pruneGroupHistory_sublist : (db.pruneGroupHistory groupId).groupMessages.rows.Sublist db.groupMessages.rows := by
  refine List.Sublist.trans ?_ (@pruneSettled_sublist db groupId)
  rw [pruneGroupHistory_messages]
  unfold pruneBeyondHardLimit
  simp only
  split
  · exact List.filter_sublist
  · exact List.Sublist.refl _

theorem pruneGroupHistory_deliveries {delivery : GroupDelivery}
    (kept : delivery ∈ (db.pruneGroupHistory groupId).groupDeliveries.rows) :
    (db.pruneGroupHistory groupId).groupMessages.holds delivery.messageId = true := by
  have stored := (Table.mem_deleteWhere.mp kept).2
  rw [pruneGroupHistory_messages]
  simpa using stored

/-! ### Runs -/

theorem insertGroupMessage_ascending (ascending : Ascending db.groupMessages.rows) :
    Ascending (db.insertGroupMessage message).groupMessages.rows := by
  simp only [insertGroupMessage, Table.insertOrIgnore]
  split
  · exact ascending
  · refine List.pairwise_append.mpr ⟨ascending, List.pairwise_singleton _ _, ?_⟩
    intro earlier present later added
    cases List.mem_singleton.mp added
    exact lt_nextId (List.mem_map_of_mem present)

theorem call_ascending (ascending : Ascending db.groupMessages.rows) (performed : HistoryCall) :
    Ascending (db.call performed).groupMessages.rows := by
  cases performed with
  | save message =>
      simp only [call, saveGroupMessage]
      split
      · exact ascending
      · exact (insertGroupMessage_ascending ascending).sublist pruneGroupHistory_sublist
  | setDelivery messageId recipientId status now => exact ascending
  | deleteLocally messageId groupId =>
      cases groupId with
      | none => exact ascending
      | some groupId => exact ascending.sublist List.filter_sublist

theorem calls_ascending {performed : List HistoryCall} (ascending : Ascending db.groupMessages.rows) :
    Ascending (db.calls performed).groupMessages.rows := by
  induction performed generalizing db with
  | nil => exact ascending
  | cons first rest ih => exact ih (call_ascending ascending first)

/-- After any saves, acknowledgements and local deletions, a save that inserts
leaves its group within the hard limit, spares the newest messages of every
group, removes a message someone waits for only beyond the hard limit, and
leaves no delivery without its message. -/
theorem history_stays_bounded {performed : List HistoryCall} (ascending : Ascending db.groupMessages.rows)
    (inserted : ((db.calls performed).saveGroupMessage message).2 = true) :
    let arrived := (db.calls performed).insertGroupMessage message
    let saved := ((db.calls performed).saveGroupMessage message).1
    (saved.groupHistory message.groupId).length ≤ hardMaxGroupHistoryRows ∧
    (∀ groupId, ∀ row ∈ newest (arrived.groupHistory groupId) maxGroupHistoryRows, row ∈ saved.groupMessages.rows) ∧
    (∀ row ∈ arrived.groupMessages.rows, arrived.hasOpenDelivery row.messageId = true → row ∉ saved.groupMessages.rows →
      row.groupId = message.groupId ∧
        hardMaxGroupHistoryRows < ((arrived.pruneSettled message.groupId).groupHistory message.groupId).length) ∧
    ∀ delivery ∈ saved.groupDeliveries.rows, saved.groupMessages.holds delivery.messageId = true := by
  intro arrived saved
  have fresh : ¬ (db.calls performed).groupMessages.holds message.messageId = true := by
    intro taken
    simp [saveGroupMessage, taken] at inserted
  have result : saved = arrived.pruneGroupHistory message.groupId := by
    simp only [saved, saveGroupMessage, if_neg fresh]
    rfl
  have ordered : Ascending arrived.groupMessages.rows := insertGroupMessage_ascending (calls_ascending ascending)
  have softOrdered : Ascending (arrived.pruneSettled message.groupId).groupMessages.rows :=
    ordered.sublist pruneSettled_sublist
  have larger : maxGroupHistoryRows ≤ hardMaxGroupHistoryRows := by
    unfold maxGroupHistoryRows hardMaxGroupHistoryRows
    omega
  clear_value saved
  subst result
  refine ⟨?_, ?_, ?_, fun _ kept => pruneGroupHistory_deliveries kept⟩
  · rw [groupHistory_pruneGroupHistory]
    exact length_pruneBeyondHardLimit softOrdered
  · intro groupId row recent
    rw [pruneGroupHistory_messages]
    have present : row ∈ arrived.groupMessages.rows := (List.mem_filter.mp (List.mem_of_mem_drop recent)).1
    have own : row.groupId = groupId := of_decide_eq_true (List.mem_filter.mp (List.mem_of_mem_drop recent)).2
    have chosen := isNewest_of_mem_newest ordered.groupHistory recent
    by_cases pruned : groupId = message.groupId
    · subst pruned
      have soft := mem_pruneSettled present (.inr (.inl chosen))
      refine mem_pruneBeyondHardLimit soft (.inr ?_)
      exact isNewest_mono larger (isNewest_fewer groupHistory_pruneSettled_sublist chosen)
    · have foreign : row.groupId ≠ message.groupId := fun same => pruned (own.symm.trans same)
      exact mem_pruneBeyondHardLimit (mem_pruneSettled present (.inl foreign)) (.inl foreign)
  · intro row present waiting removed
    rw [pruneGroupHistory_messages] at removed
    have soft : row ∈ (arrived.pruneSettled message.groupId).groupMessages.rows :=
      mem_pruneSettled present (.inr (.inr waiting))
    refine ⟨?_, ?_⟩
    · by_contra foreign
      exact removed (mem_pruneBeyondHardLimit soft (.inl foreign))
    · by_contra few
      refine removed ?_
      rw [pruneBeyondHardLimit_few (Nat.le_of_not_lt few)]
      exact soft

def greeting (messageId : String) : GroupMessage :=
  { messageId, groupId := "garden", senderId := "alice", content := some "hello", createdAt := 1, receivedAt := none,
    kind := .message, replyToMessageId := none, originSignature := none, rowid := 0 }

theorem reused_rowid_is_bounded :
    let before := ({} : Database).calls
      [.save (greeting "first"), .setDelivery "first" "bob" .queued 2, .deleteLocally "first" (some "garden")]
    ((before.saveGroupMessage (greeting "second")).1.groupHistory "garden").length ≤ 10000 :=
  (@history_stays_bounded {} (greeting "second")
    [.save (greeting "first"), .setDelivery "first" "bob" .queued 2, .deleteLocally "first" (some "garden")]
    List.Pairwise.nil (by decide)).1

end MeshTalk.Store.Database
