import MeshTalk.Store.FileTables
import Mathlib.Data.List.Sort

namespace MeshTalk.Store

open MeshTalk.Library MeshTalk.Protocol

/-! # Deliveries of outbound files

A direct transfer keeps the state of its one delivery in its own row.  A group
transfer has a row for each recipient, and its own row keeps an aggregate.
-/

/-- `transfer["group_id"]` where it is truthy. -/
def FileTransfer.group? (transfer : FileTransfer) : Option String := transfer.groupId.filter (· ≠ "")

/-- What never changes in the row of an outbound transfer. -/
structure FileTransfer.SameRoute (transfer other : FileTransfer) : Prop where
  fileId : transfer.fileId = other.fileId
  groupId : transfer.groupId = other.groupId
  recipientId : transfer.recipientId = other.recipientId
  direction : transfer.direction = other.direction

theorem FileTransfer.SameRoute.refl {transfer : FileTransfer} : transfer.SameRoute transfer := ⟨rfl, rfl, rfl, rfl⟩

theorem FileTransfer.SameRoute.trans {first second third : FileTransfer} (leading : first.SameRoute second)
    (following : second.SameRoute third) : first.SameRoute third :=
  ⟨leading.fileId.trans following.fileId, leading.groupId.trans following.groupId,
    leading.recipientId.trans following.recipientId, leading.direction.trans following.direction⟩

theorem FileTransfer.SameRoute.group? {transfer other : FileTransfer} (same : transfer.SameRoute other) :
    transfer.group? = other.group? := congrArg (Option.filter _) same.groupId

/-- The status `_recompute_aggregate` makes of the statuses of the deliveries. -/
def aggregateStatus (states : List FileStatus) : FileStatus :=
  if states.all (· = .unavailable) then .unavailable
  else if states.all (· = .completed) then .completed
  else if states.any (· ∈ [.pending, .transferring, .sent]) then .transferring
  else if states.any (· = .failed) then .failed
  else if states.any (· = .blocked) then .blocked
  else if states.any (· = .queued) then .queued
  else .unavailable

/-- The aggregate is `completed` exactly when there are deliveries and all of
them are. -/
theorem aggregateStatus_completed {states : List FileStatus} :
    aggregateStatus states = .completed ↔ states ≠ [] ∧ ∀ state ∈ states, state = .completed := by
  constructor
  · intro completed
    unfold aggregateStatus at completed
    split at completed
    · cases completed
    · rename_i some
      split at completed
      · rename_i all
        refine ⟨fun none => some (by rw [none]; rfl), fun state member => ?_⟩
        exact of_decide_eq_true (List.all_eq_true.mp all state member)
      · repeat' split at completed
        all_goals cases completed
  · rintro ⟨some, all⟩
    obtain ⟨first, member⟩ := List.exists_mem_of_ne_nil states some
    have available : ¬ states.all (fun state => decide (state = .unavailable)) = true := fun unavailable => by
      have := of_decide_eq_true (List.all_eq_true.mp unavailable first member)
      rw [all first member] at this
      cases this
    unfold aggregateStatus
    rw [if_neg available, if_pos (List.all_eq_true.mpr fun state among => decide_eq_true (all state among))]

namespace Database

variable (db : Database)

def getFileDelivery (fileId : String) (recipientId : PeerId) : Option FileDelivery :=
  db.fileDeliveries.find? (fileId, recipientId)

def getFileDeliveries (fileId : String) : List FileDelivery :=
  (db.fileDeliveries.rows.filter fun row => row.fileId = fileId).insertionSort fun first second =>
    first.recipientId ≤ second.recipientId

def deliveryStates (fileId : String) : List FileStatus := (db.getFileDeliveries fileId).map FileDelivery.status

/-- `set_file_delivery`. -/
def setFileDelivery (fileId : String) (recipientId : PeerId) (status : FileStatus) (now : Time) : Database :=
  let delivery : FileDelivery :=
    { fileId, recipientId, status, updatedAt := now, awaitingAckAt := if status = .sent then some now else none }
  { db with
    fileDeliveries := (db.fileDeliveries.updateWhere (fun row => row.fileId = fileId ∧ row.recipientId = recipientId)
      (fun row => { row with status, updatedAt := delivery.updatedAt, awaitingAckAt := delivery.awaitingAckAt })
      fun _ => rfl).insertOrIgnore delivery }

/-- `update_file_transfer(status=..., awaiting_ack_at=...)`. -/
def setFileStatusAwaiting (fileId : String) (status : FileStatus) (now : Time) : Database :=
  { db with
    fileTransfers := db.fileTransfers.updateWhere (fun row => row.fileId = fileId)
      (fun row => { row with status, awaitingAckAt := if status = .sent then some now else none }) fun _ => rfl }

/-- The update of `_recompute_aggregate`. -/
def setFileAggregate (fileId : String) (status : FileStatus) (now : Time) : Database :=
  if status = .completed then db.setFileCompleted fileId now else db.setFileStatus fileId status

/-- The recorded status of an outbound file's delivery to a recipient. -/
def deliveryStatus (fileId : String) (recipientId : PeerId) : Option FileStatus :=
  (db.getFileTransfer fileId).bind fun transfer =>
    if transfer.direction = .outbound then
      match transfer.group? with
      | some _ => (db.getFileDelivery fileId recipientId).map FileDelivery.status
      | none => if transfer.recipientId = recipientId then some transfer.status else none
    else none

variable {db} {fileId other : String} {recipientId : PeerId} {status : FileStatus} {now : Time} {transfer : FileTransfer}

theorem getFileDelivery_setFileDelivery {peerId : PeerId} :
    ((db.setFileDelivery fileId recipientId status now).getFileDelivery other peerId).map FileDelivery.status =
      if other = fileId ∧ peerId = recipientId then some status
      else (db.getFileDelivery other peerId).map FileDelivery.status := by
  unfold setFileDelivery getFileDelivery
  rw [Table.find?_insertOrIgnore, Table.find?_updateWhere]
  by_cases same : other = fileId ∧ peerId = recipientId
  · obtain ⟨rfl, rfl⟩ := same
    cases found : db.fileDeliveries.find? (other, peerId) with
    | none => simp
    | some row =>
        have key := (Table.find?_some_iff.mp found).2
        have known : row.fileId = other ∧ row.recipientId = peerId := ⟨congrArg Prod.fst key, congrArg Prod.snd key⟩
        simp [known]
  · rw [if_neg same, if_neg (fun equal : (other, peerId) = (fileId, recipientId) =>
      same ⟨congrArg Prod.fst equal, congrArg Prod.snd equal⟩), Option.or_none]
    cases found : db.fileDeliveries.find? (other, peerId) with
    | none => rfl
    | some row =>
        have key := (Table.find?_some_iff.mp found).2
        have apart : ¬ (row.fileId = fileId ∧ row.recipientId = recipientId) := fun equal =>
          same ⟨(congrArg Prod.fst key).symm.trans equal.1, (congrArg Prod.snd key).symm.trans equal.2⟩
        simp [apart]

theorem getFileDeliveries_setFileDelivery (apart : other ≠ fileId) :
    (db.setFileDelivery fileId recipientId status now).getFileDeliveries other = db.getFileDeliveries other := by
  have kept : (db.setFileDelivery fileId recipientId status now).fileDeliveries.rows.filter
      (fun row => decide (row.fileId = other)) = db.fileDeliveries.rows.filter fun row => decide (row.fileId = other) := by
    simp only [setFileDelivery]
    have added : decide (fileId = other) = false := decide_eq_false (Ne.symm apart)
    rw [Table.filter_insertOrIgnore (by exact added), Table.filter_updateWhere]
    intro row chosen
    have missed : ¬ row.fileId = other := fun same => apart (same.symm.trans (of_decide_eq_true chosen).1)
    exact ⟨decide_eq_false missed, decide_eq_false missed⟩
  unfold getFileDeliveries
  rw [kept]

/-! ## What the statements leave of a row -/

theorem fileId_of_getFileTransfer (found : db.getFileTransfer fileId = some transfer) : transfer.fileId = fileId :=
  (Table.find?_some_iff.mp found).2

/-- The rows stay, with their routes. -/
def KeepsRoutes (before after : Database) : Prop :=
  ∀ fileId transfer, before.getFileTransfer fileId = some transfer →
    ∃ kept, after.getFileTransfer fileId = some kept ∧ kept.SameRoute transfer

theorem KeepsRoutes.of_eq {before after : Database} (same : after.fileTransfers = before.fileTransfers) :
    KeepsRoutes before after := by
  intro fileId transfer found
  refine ⟨transfer, ?_, .refl⟩
  unfold getFileTransfer at found ⊢
  rw [same]
  exact found

/-- A write of the status of one row. -/
structure WritesStatus (before after : Database) (fileId : String) (status : FileStatus) : Prop where
  deliveries : after.fileDeliveries = before.fileDeliveries
  others : ∀ other, other ≠ fileId → after.getFileTransfer other = before.getFileTransfer other
  row : ∀ transfer, before.getFileTransfer fileId = some transfer →
    ∃ written, after.getFileTransfer fileId = some written ∧ written.SameRoute transfer ∧ written.status = status
  missing : before.getFileTransfer fileId = none → after.getFileTransfer fileId = none

theorem writesStatus_of_update {change : FileTransfer → FileTransfer} (keeps : ∀ row, (change row).fileId = row.fileId)
    (route : ∀ row, (change row).SameRoute row) (written : ∀ row, (change row).status = status) :
    WritesStatus db { db with
      fileTransfers := db.fileTransfers.updateWhere (fun row => row.fileId = fileId) change keeps } fileId status := by
  refine ⟨rfl, fun other apart => ?_, fun transfer found => ?_, fun missing => ?_⟩
  · change Table.find? _ other = Table.find? _ other
    rw [Table.find?_updateWhere]
    cases found : db.fileTransfers.find? other with
    | none => rfl
    | some row =>
        have missed : ¬ row.fileId = fileId := fun same =>
          apart ((fileId_of_getFileTransfer found).symm.trans same)
        simp [missed]
  · refine ⟨change transfer, ?_, route transfer, written transfer⟩
    have key := fileId_of_getFileTransfer found
    unfold getFileTransfer at found ⊢
    rw [Table.find?_updateWhere, found]
    simp [key]
  · unfold getFileTransfer at missing ⊢
    rw [Table.find?_updateWhere, missing]
    rfl

theorem setFileStatus_writes : WritesStatus db (db.setFileStatus fileId status) fileId status :=
  writesStatus_of_update _ (fun _ => ⟨rfl, rfl, rfl, rfl⟩) fun _ => rfl

theorem setFileStatusAwaiting_writes : WritesStatus db (db.setFileStatusAwaiting fileId status now) fileId status :=
  writesStatus_of_update _ (fun _ => ⟨rfl, rfl, rfl, rfl⟩) fun _ => rfl

theorem setFileAggregate_writes : WritesStatus db (db.setFileAggregate fileId status now) fileId status := by
  unfold setFileAggregate
  split
  · rename_i completed
    rw [completed]
    exact writesStatus_of_update _ (fun _ => ⟨rfl, rfl, rfl, rfl⟩) fun _ => rfl
  · exact setFileStatus_writes

section Writes

variable {before after : Database} {peerId : PeerId}

theorem WritesStatus.keepsRoutes (writes : WritesStatus before after fileId status) : KeepsRoutes before after := by
  intro other transfer found
  by_cases same : other = fileId
  · subst same
    obtain ⟨written, located, route, -⟩ := writes.row transfer found
    exact ⟨written, located, route⟩
  · exact ⟨transfer, (writes.others other same).trans found, .refl⟩

theorem saveFileTransfer_keepsRoutes (fresh : db.getFileTransfer transfer.fileId = none) :
    KeepsRoutes db (db.saveFileTransfer transfer) := by
  intro other kept found
  refine ⟨kept, ?_, .refl⟩
  refine Table.find?_insertOrReplace.trans ?_
  have apart : other ≠ transfer.fileId := fun same => by
    rw [same, fresh] at found
    cases found
  rw [if_neg apart]
  exact found

theorem deliveryStatus_of_row (found : db.getFileTransfer fileId = some transfer) :
    db.deliveryStatus fileId recipientId =
      if transfer.direction = .outbound then
        match transfer.group? with
        | some _ => (db.getFileDelivery fileId recipientId).map FileDelivery.status
        | none => if transfer.recipientId = recipientId then some transfer.status else none
      else none := by
  unfold deliveryStatus
  rw [found]
  rfl

theorem deliveryStatus_congr (transfers : after.fileTransfers = before.fileTransfers)
    (deliveries : after.fileDeliveries = before.fileDeliveries) :
    after.deliveryStatus fileId recipientId = before.deliveryStatus fileId recipientId := by
  unfold deliveryStatus getFileTransfer getFileDelivery
  rw [transfers, deliveries]

/-- The statuses of all other files are left alone. -/
theorem WritesStatus.deliveryStatus_other (writes : WritesStatus before after fileId status) (apart : other ≠ fileId) :
    after.deliveryStatus other recipientId = before.deliveryStatus other recipientId := by
  unfold deliveryStatus getFileDelivery
  rw [writes.others other apart, writes.deliveries]

/-- The row of a group transfer holds no status of a delivery. -/
theorem WritesStatus.deliveryStatus_group (writes : WritesStatus before after fileId status)
    (found : before.getFileTransfer fileId = some transfer) (group : transfer.group? ≠ none) :
    after.deliveryStatus fileId recipientId = before.deliveryStatus fileId recipientId := by
  obtain ⟨written, located, route, -⟩ := writes.row transfer found
  rw [deliveryStatus_of_row found, deliveryStatus_of_row located, route.direction, route.group?]
  unfold getFileDelivery
  rw [writes.deliveries]
  cases known : transfer.group? with
  | none => exact absurd known group
  | some groupId => rfl

/-- The row of a direct transfer holds the status of its one delivery. -/
theorem WritesStatus.deliveryStatus_direct (writes : WritesStatus before after fileId status)
    (found : before.getFileTransfer fileId = some transfer) (direct : transfer.group? = none) :
    after.deliveryStatus fileId recipientId =
      if transfer.direction = .outbound ∧ transfer.recipientId = recipientId then some status else none := by
  obtain ⟨written, located, route, current⟩ := writes.row transfer found
  rw [deliveryStatus_of_row located, route.direction, route.group?, direct, route.recipientId, current]
  by_cases outbound : transfer.direction = .outbound <;> simp [outbound]

theorem deliveryStatus_direct_other (found : db.getFileTransfer fileId = some transfer) (direct : transfer.group? = none)
    (apart : transfer.recipientId ≠ recipientId) : db.deliveryStatus fileId recipientId = none := by
  rw [deliveryStatus_of_row found, direct]
  simp [apart]

theorem deliveryStatus_setFileDelivery_other (apart : ¬ (other = fileId ∧ peerId = recipientId)) :
    (db.setFileDelivery fileId recipientId status now).deliveryStatus other peerId = db.deliveryStatus other peerId := by
  have kept : ((db.setFileDelivery fileId recipientId status now).getFileDelivery other peerId).map FileDelivery.status =
      (db.getFileDelivery other peerId).map FileDelivery.status := by
    rw [getFileDelivery_setFileDelivery, if_neg apart]
  unfold deliveryStatus
  rw [kept]
  rfl

theorem deliveryStatus_setFileDelivery (found : db.getFileTransfer fileId = some transfer)
    (group : transfer.group? ≠ none) : (db.setFileDelivery fileId recipientId status now).deliveryStatus fileId recipientId =
      if transfer.direction = .outbound then some status else none := by
  have located : (db.setFileDelivery fileId recipientId status now).getFileTransfer fileId = some transfer := found
  have value : ((db.setFileDelivery fileId recipientId status now).getFileDelivery fileId recipientId).map
      FileDelivery.status = some status := by
    rw [getFileDelivery_setFileDelivery, if_pos ⟨rfl, rfl⟩]
  rw [deliveryStatus_of_row located, value]
  cases known : transfer.group? with
  | none => exact absurd known group
  | some groupId => rfl

end Writes

/-! ## What the statements leave of the deliveries -/

/-- The rows stay, and no delivery has another status. -/
structure KeepsDeliveries (before after : Database) : Prop where
  routes : KeepsRoutes before after
  statuses : ∀ fileId recipientId, after.deliveryStatus fileId recipientId = before.deliveryStatus fileId recipientId

/-- At most the one delivery has another status, the given one. -/
structure WritesDelivery (before after : Database) (fileId : String) (recipientId : PeerId) (status : FileStatus) : Prop where
  routes : KeepsRoutes before after
  others : ∀ other peerId, ¬ (other = fileId ∧ peerId = recipientId) →
    after.deliveryStatus other peerId = before.deliveryStatus other peerId
  written : ∀ known, after.deliveryStatus fileId recipientId = some known → known = status
  absent : after.deliveryStatus fileId recipientId = none → before.deliveryStatus fileId recipientId = none

section Deliveries

variable {before after : Database}

theorem KeepsDeliveries.of_eq (transfers : after.fileTransfers = before.fileTransfers)
    (deliveries : after.fileDeliveries = before.fileDeliveries) : KeepsDeliveries before after :=
  ⟨.of_eq transfers, fun _ _ => deliveryStatus_congr transfers deliveries⟩

theorem WritesStatus.keepsDeliveries (writes : WritesStatus before after fileId status)
    (found : before.getFileTransfer fileId = some transfer) (group : transfer.group? ≠ none) :
    KeepsDeliveries before after := by
  refine ⟨writes.keepsRoutes, fun other peerId => ?_⟩
  by_cases same : other = fileId
  · subst same
    exact writes.deliveryStatus_group found group
  · exact writes.deliveryStatus_other same

theorem WritesStatus.writesDelivery (writes : WritesStatus before after fileId status)
    (found : before.getFileTransfer fileId = some transfer) (direct : transfer.group? = none) :
    WritesDelivery before after fileId transfer.recipientId status := by
  refine ⟨writes.keepsRoutes, fun other peerId apart => ?_, fun known current => ?_, fun none => ?_⟩
  · by_cases same : other = fileId
    · subst same
      have elsewhere : transfer.recipientId ≠ peerId := fun equal => apart ⟨rfl, equal.symm⟩
      rw [writes.deliveryStatus_direct found direct, deliveryStatus_direct_other found direct elsewhere,
        if_neg fun both => elsewhere both.2]
    · exact writes.deliveryStatus_other same
  · rw [writes.deliveryStatus_direct found direct] at current
    split at current
    · cases current
      rfl
    · cases current
  · rw [writes.deliveryStatus_direct found direct] at none
    rw [deliveryStatus_of_row found, direct]
    split at none
    · cases none
    · rename_i inbound
      rw [if_neg fun outbound => inbound ⟨outbound, rfl⟩]

theorem setFileDelivery_writesDelivery (found : db.getFileTransfer fileId = some transfer)
    (group : transfer.group? ≠ none) :
    WritesDelivery db (db.setFileDelivery fileId recipientId status now) fileId recipientId status := by
  refine ⟨.of_eq rfl, fun other peerId apart => deliveryStatus_setFileDelivery_other apart, fun known current => ?_,
    fun none => ?_⟩
  · rw [deliveryStatus_setFileDelivery found group] at current
    split at current
    · cases current
      rfl
    · cases current
  · rw [deliveryStatus_setFileDelivery found group] at none
    rw [deliveryStatus_of_row found]
    split at none
    · cases none
    · rename_i inbound
      rw [if_neg inbound]

theorem getFileTransfer_saveFileTransfer_other (apart : other ≠ transfer.fileId) :
    (db.saveFileTransfer transfer).getFileTransfer other = db.getFileTransfer other := by
  refine Table.find?_insertOrReplace.trans ?_
  rw [if_neg apart]
  rfl

theorem deliveryStatus_saveFileTransfer_other (apart : other ≠ transfer.fileId) :
    (db.saveFileTransfer transfer).deliveryStatus other recipientId = db.deliveryStatus other recipientId := by
  unfold deliveryStatus
  rw [getFileTransfer_saveFileTransfer_other apart]
  rfl

theorem getFileTransfer_saveFileTransfer :
    (db.saveFileTransfer transfer).getFileTransfer transfer.fileId = some transfer := by
  refine Table.find?_insertOrReplace.trans ?_
  rw [if_pos rfl]

theorem deliveryStatus_none (absent : db.getFileTransfer fileId = none) : db.deliveryStatus fileId recipientId = none := by
  unfold deliveryStatus
  rw [absent]
  rfl

/-- The row of a new direct transfer holds the status of its delivery. -/
theorem saveFileTransfer_writesDelivery (fresh : db.getFileTransfer transfer.fileId = none)
    (direct : transfer.group? = none) :
    WritesDelivery db (db.saveFileTransfer transfer) transfer.fileId transfer.recipientId transfer.status := by
  refine ⟨saveFileTransfer_keepsRoutes fresh, fun other peerId apart => ?_, fun known current => ?_,
    fun _ => deliveryStatus_none fresh⟩
  · by_cases same : other = transfer.fileId
    · subst same
      have elsewhere : transfer.recipientId ≠ peerId := fun equal => apart ⟨rfl, equal.symm⟩
      rw [deliveryStatus_direct_other getFileTransfer_saveFileTransfer direct elsewhere, deliveryStatus_none fresh]
    · exact deliveryStatus_saveFileTransfer_other same
  · rw [deliveryStatus_of_row getFileTransfer_saveFileTransfer, direct, if_pos rfl] at current
    split at current
    · cases current
      rfl
    · cases current

/-- A new group transfer has no deliveries yet. -/
theorem saveFileTransfer_keepsDeliveries (fresh : db.getFileTransfer transfer.fileId = none)
    (unsent : ∀ peerId, db.getFileDelivery transfer.fileId peerId = none) (group : transfer.group? ≠ none) :
    KeepsDeliveries db (db.saveFileTransfer transfer) := by
  refine ⟨saveFileTransfer_keepsRoutes fresh, fun other peerId => ?_⟩
  by_cases same : other = transfer.fileId
  · subst same
    have none' : (db.saveFileTransfer transfer).getFileDelivery transfer.fileId peerId = none := unsent peerId
    rw [deliveryStatus_of_row getFileTransfer_saveFileTransfer, deliveryStatus_none fresh, none']
    cases known : transfer.group? with
    | none => exact absurd known group
    | some groupId => simp
  · exact deliveryStatus_saveFileTransfer_other same

end Deliveries

end Database

end MeshTalk.Store
