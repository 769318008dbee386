import MeshTalk.Store.GroupHistory

namespace MeshTalk.Store.Database

open MeshTalk.Library MeshTalk.Protocol

/-! # Deliveries of group messages

As for the file tables, each definition is one statement.
-/

def maxQueuedGroupPerPeer : Nat := 200
def maxQueuedAcksPerPeer : Nat := 100

/-- A recorded delivery stays `delivered`. -/
def setGroupDelivery (db : Database) (messageId : String) (recipientId : PeerId) (status : GroupDeliveryStatus)
    (now : Time) : Database :=
  { db with
    groupDeliveries := if db.groupDeliveries.holds (messageId, recipientId) then
        db.groupDeliveries.updateWhere
          (fun row => row.messageId = messageId ∧ row.recipientId = recipientId ∧ row.status ≠ .delivered)
          (fun row => { row with status, updatedAt := now }) fun _ => rfl
      else db.groupDeliveries.insertOrIgnore { messageId, recipientId, status, updatedAt := now } }

/-- The recipients `get_group_deliveries` lists. -/
def deliveryRecipients (db : Database) (messageId : String) : List PeerId :=
  (db.groupDeliveries.rows.filter fun row => row.messageId = messageId).map GroupDelivery.recipientId

def hasQueuedPayload (db : Database) (recipientId : PeerId) (packetType : Nat) (payload : Bytes) : Bool :=
  db.outgoingQueue.rows.any fun row =>
    row.recipientId = recipientId ∧ row.packetType = packetType ∧ row.encryptedPayload = payload ∧ row.attempts < 5

def countQueuedPackets (db : Database) (recipientId : PeerId) (packetType : Nat) : Nat :=
  db.outgoingQueue.count fun row => row.recipientId = recipientId ∧ row.packetType = packetType ∧ row.attempts < 5

/-! ### The statements of a local deletion -/

def dropQueued (db : Database) (messageId : String) : Database :=
  { db with outgoingQueue := db.outgoingQueue.deleteWhere fun row => row.messageId = some messageId }

def dropGroupMessage (db : Database) (messageId groupId : String) : Database :=
  { db with groupMessages := db.groupMessages.deleteWhere fun row => row.messageId = messageId ∧ row.groupId = groupId }

def dropDeliveries (db : Database) (messageId : String) : Database :=
  { db with groupDeliveries := db.groupDeliveries.deleteWhere fun row => row.messageId = messageId }

/-- Deliveries left `pending` by a crash, as `connect` finds them. -/
def failPendingDeliveries (db : Database) (now : Time) : Database :=
  { db with
    groupDeliveries := db.groupDeliveries.updateWhere (fun row => row.status = .pending)
      (fun row => { row with status := .failed, updatedAt := now }) fun _ => rfl }

/-- The status of the delivery of a message to a recipient. -/
def groupDeliveryStatus (db : Database) (messageId : String) (recipientId : PeerId) : Option GroupDeliveryStatus :=
  (db.groupDeliveries.find? (messageId, recipientId)).map GroupDelivery.status

variable {db : Database} {messageId other groupId : String} {recipientId peerId : PeerId} {status : GroupDeliveryStatus}
  {now : Time}

theorem groupDeliveryStatus_congr {after : Database} (same : after.groupDeliveries = db.groupDeliveries) :
    after.groupDeliveryStatus messageId recipientId = db.groupDeliveryStatus messageId recipientId := by
  rw [groupDeliveryStatus, groupDeliveryStatus, same]

theorem pruneSettled_deliveries : (db.pruneSettled groupId).groupDeliveries = db.groupDeliveries := by
  unfold pruneSettled
  simp only
  split <;> rfl

theorem pruneBeyondHardLimit_deliveries : (db.pruneBeyondHardLimit groupId).groupDeliveries = db.groupDeliveries := by
  unfold pruneBeyondHardLimit
  simp only
  split <;> rfl

/-- What `set_group_delivery` leaves of every delivery. -/
theorem groupDeliveryStatus_setGroupDelivery :
    (db.setGroupDelivery messageId recipientId status now).groupDeliveryStatus other peerId =
    if other = messageId ∧ peerId = recipientId then
      if db.groupDeliveryStatus messageId recipientId = some .delivered then some .delivered else some status
    else db.groupDeliveryStatus other peerId := by
  unfold groupDeliveryStatus setGroupDelivery
  simp only
  split
  · rename_i held
    rw [Table.find?_updateWhere]
    obtain ⟨row, member, same⟩ := Table.holds_iff.mp held
    cases found : db.groupDeliveries.find? (other, peerId) with
    | none =>
        rw [if_neg]
        · rfl
        · rintro ⟨rfl, rfl⟩
          exact Table.find?_none_iff.mp found row member same
    | some stored =>
        obtain ⟨_, known⟩ := Table.find?_some_iff.mp found
        cases known
        by_cases aimed : stored.messageId = messageId ∧ stored.recipientId = recipientId
        · obtain ⟨rfl, rfl⟩ := aimed
          rw [if_pos ⟨rfl, rfl⟩, found]
          by_cases delivered : stored.status = .delivered <;> simp [delivered]
        · rw [if_neg aimed]
          have spared : ¬ (stored.messageId = messageId ∧ stored.recipientId = recipientId ∧ stored.status ≠ .delivered) :=
            fun chosen => aimed ⟨chosen.1, chosen.2.1⟩
          simp [spared]
  · rename_i fresh
    rw [Table.find?_insertOrIgnore]
    have absent : db.groupDeliveries.find? (messageId, recipientId) = none := by
      refine Table.find?_none_iff.mpr fun row member same => ?_
      exact fresh (Table.holds_iff.mpr ⟨row, member, same⟩)
    by_cases aimed : other = messageId ∧ peerId = recipientId
    · obtain ⟨rfl, rfl⟩ := aimed
      simp [absent]
    · simp [aimed]

theorem groupDeliveryStatus_dropDeliveries : (db.dropDeliveries messageId).groupDeliveryStatus other peerId =
    if other = messageId then none else db.groupDeliveryStatus other peerId := by
  unfold groupDeliveryStatus dropDeliveries
  simp only [Table.find?_deleteWhere]
  cases found : db.groupDeliveries.find? (other, peerId) with
  | none => simp
  | some stored =>
      obtain ⟨_, known⟩ := Table.find?_some_iff.mp found
      cases known
      by_cases same : stored.messageId = messageId <;> simp [Option.filter, same]

theorem groupDeliveryStatus_dropOrphanDeliveries : db.dropOrphanDeliveries.groupDeliveryStatus other peerId =
    if db.groupMessages.holds other then db.groupDeliveryStatus other peerId else none := by
  unfold groupDeliveryStatus dropOrphanDeliveries
  simp only [Table.find?_deleteWhere]
  cases found : db.groupDeliveries.find? (other, peerId) with
  | none => simp
  | some stored =>
      obtain ⟨_, known⟩ := Table.find?_some_iff.mp found
      cases known
      cases held : db.groupMessages.holds stored.messageId <;> simp [Option.filter, held]

theorem groupDeliveryStatus_failPendingDeliveries : (db.failPendingDeliveries now).groupDeliveryStatus other peerId =
    (db.groupDeliveryStatus other peerId).map fun status => if status = .pending then .failed else status := by
  unfold groupDeliveryStatus failPendingDeliveries
  simp only [Table.find?_updateWhere, Option.map_map]
  congr 1
  funext stored
  by_cases pending : stored.status = .pending <;> simp [pending]

end MeshTalk.Store.Database
