import MeshTalk.Outbox.Router

namespace MeshTalk.Outbox

open MeshTalk.Library MeshTalk.Protocol MeshTalk.Store MeshTalk.Groups

/-! # What the actions of the node have in common

Each task tells by its points what it does.  `Regular` has what the programs
make sure of before a point, `Wellkept` what all of them rely on.
-/

/-- The bytes are a copy of the group message, made out to the recipient. -/
def CopyOf (writer : PacketWriter) (messageId : String) (recipientId : PeerId) (payload : Bytes) : Prop :=
  ∃ copy : GroupMessagePayload, copy.messageId = messageId ∧ copy.recipientId = recipientId ∧
    payload = writer.dumps copy.json

def RowCarries (writer : PacketWriter) (row : OutgoingRow) : Prop :=
  row.packetType = PacketType.groupMessage.value →
    ∃ messageId, row.messageId = some messageId ∧ CopyOf writer messageId row.recipientId row.encryptedPayload

/-- The acknowledgement verifies under the key of its recipient and names a
group message that has been stored, with its group. -/
structure Acknowledged (crypto : FileCrypto) (key : Bytes) (acknowledgement : GroupAckPayload)
    (stored : List GroupMessage) : Prop where
  owner : crypto.sha256 key = acknowledgement.recipientId
  signed : crypto.verify key acknowledgement.signature (crypto.canonical acknowledgement.unsigned) = true
  known : ∃ message ∈ stored, message.messageId = acknowledgement.messageId ∧ message.groupId = acknowledgement.groupId

structure TablesKept (crypto : FileCrypto) (writer : PacketWriter) (stored : List GroupMessage) (tables : OutboxTables) :
    Prop where
  certified : ∀ record ∈ tables.db.peers.rows, ∀ key, record.signingPublicKey = some key →
    crypto.sha256 key = record.peerId
  carries : ∀ row ∈ tables.db.outgoingQueue.rows, RowCarries writer row
  known : ∀ row ∈ tables.db.groupMessages.rows,
    ∃ message ∈ stored, message.messageId = row.messageId ∧ message.groupId = row.groupId

structure Wellkept (crypto : FileCrypto) (writer : PacketWriter) (node : OutboxNode) : Prop where
  current : TablesKept crypto writer node.stored node.tables
  committed : TablesKept crypto writer node.stored node.committed

/-- What a program has made sure of when it comes to a point. -/
def Regular (crypto : FileCrypto) (writer : PacketWriter) : OutboxPoint → OutboxNode → Prop
  | .saveMessage message, _ => message.delivered = false
  | .setDelivery _ _ status, _ => status = .unavailable ∨ status = .pending
  | .endAttempt _ _ _ status, _ => status = .unavailable ∨ status = .queued
  | .confirm key acknowledgement, node => Acknowledged crypto key acknowledgement node.stored
  | .enqueue recipientId packetType payload messageId _, _ => packetType = PacketType.groupMessage.value →
      ∃ id, messageId = some id ∧ CopyOf writer id recipientId payload
  | .sendCopy _ messageId peerId packet, _ => ∃ encoded, packet = liveGroupMessage encoded ∧
      CopyOf writer messageId peerId encoded
  | .sendQueued task row peerId packet, node => RowCarries writer row ∧ row.recipientId = peerId ∧
      (∃ type : PacketType, packet = ⟨.live type, row.encryptedPayload⟩ ∧ type.value = row.packetType) ∧
      (isGroupCopy row = true → ∃ attempt ∈ node.sending, attempt.isAt task (row.messageId.getD "") peerId = true)
  | .meet peer, _ => ∀ key, peer.signingPublicKey = some key → crypto.sha256 key = peer.peerId
  | .learnKey peerId key, _ => crypto.sha256 key = peerId
  | _, _ => True

/-- The task that a point belongs to, where the point says so. -/
def OutboxPoint.task? : OutboxPoint → Option Nat
  | .beginAttempt task _ _ | .endAttempt task _ _ _ | .readPending task _ | .remove task _ | .sendCopy task _ _ _
  | .sendQueued task _ _ _ => some task
  | _ => none

/-- The status a point writes, and of which delivery. -/
def OutboxPoint.sets? : OutboxPoint → Option (String × PeerId × GroupDeliveryStatus)
  | .setDelivery messageId recipientId status => some (messageId, recipientId, status)
  | .confirm _ acknowledgement => some (acknowledgement.messageId, acknowledgement.recipientId, .delivered)
  | .beginAttempt _ messageId recipientId => some (messageId, recipientId, .sent)
  | .endAttempt _ messageId recipientId status => some (messageId, recipientId, status)
  | _ => none

section

variable {crypto : FileCrypto} {writer : PacketWriter} {node : OutboxNode} {point : OutboxPoint} {fate : OutboxFate}
  {stored : List GroupMessage} {before after : OutboxTables} {self other : Nat}

theorem TablesKept.mono {longer : List GroupMessage} (kept : TablesKept crypto writer stored before)
    (grows : ∀ message ∈ stored, message ∈ longer) : TablesKept crypto writer longer before where
  certified := kept.certified
  carries := kept.carries
  known row member := by
    obtain ⟨message, listed, same⟩ := kept.known row member
    exact ⟨message, grows message listed, same⟩

theorem RowCarries.of_sameEntry {row old : OutgoingRow} (same : row.SameEntry old) (carries : RowCarries writer old) :
    RowCarries writer row := by
  rw [OutgoingRow.SameEntry] at same
  rw [← same] at carries
  exact carries

/-- Statements that bring no peer, packet or group message. -/
theorem TablesKept.fewer (kept : TablesKept crypto writer stored before)
    (peers : ∀ record ∈ after.db.peers.rows, record ∈ before.db.peers.rows)
    (queue : ∀ row ∈ after.db.outgoingQueue.rows, ∃ old ∈ before.db.outgoingQueue.rows, row.SameEntry old)
    (messages : ∀ row ∈ after.db.groupMessages.rows, row ∈ before.db.groupMessages.rows) :
    TablesKept crypto writer stored after where
  certified record member := kept.certified record (peers record member)
  carries row member := by
    obtain ⟨old, present, same⟩ := queue row member
    exact (kept.carries old present).of_sameEntry same
  known row member := kept.known row (messages row member)

theorem TablesKept.same (kept : TablesKept crypto writer stored before) (peers : after.db.peers = before.db.peers)
    (queue : after.db.outgoingQueue = before.db.outgoingQueue)
    (messages : after.db.groupMessages = before.db.groupMessages) : TablesKept crypto writer stored after := by
  apply kept.fewer
  · rw [peers]
    exact fun _ => id
  · rw [queue]
    exact fun row member => ⟨row, member, rfl⟩
  · rw [messages]
    exact fun _ => id

theorem TablesKept.fewerQueued (kept : TablesKept crypto writer stored before) (peers : after.db.peers = before.db.peers)
    (queue : ∀ row ∈ after.db.outgoingQueue.rows, row ∈ before.db.outgoingQueue.rows)
    (messages : after.db.groupMessages = before.db.groupMessages) : TablesKept crypto writer stored after := by
  apply kept.fewer
  · rw [peers]
    exact fun _ => id
  · exact fun row member => ⟨row, queue row member, rfl⟩
  · rw [messages]
    exact fun _ => id

theorem TablesKept.fewerMessages (kept : TablesKept crypto writer stored before)
    (peers : after.db.peers = before.db.peers) (queue : after.db.outgoingQueue = before.db.outgoingQueue)
    (messages : ∀ row ∈ after.db.groupMessages.rows, row ∈ before.db.groupMessages.rows) :
    TablesKept crypto writer stored after := by
  apply kept.fewer
  · rw [peers]
    exact fun _ => id
  · rw [queue]
    exact fun row member => ⟨row, member, rfl⟩
  · exact messages

theorem stored_effect {message : GroupMessage} (member : message ∈ node.stored) :
    message ∈ (point.effect fate node).stored := by
  cases point with
  | saveGroupMessage saved =>
      simp only [OutboxPoint.effect]
      split
      · exact member
      · exact List.mem_append_left _ member
  | sendCopy task messageId peerId packet =>
      simp only [OutboxPoint.effect]
      split <;> exact member
  | sendQueued task row peerId packet =>
      simp only [OutboxPoint.effect]
      split <;> exact member
  | send peerId packet =>
      simp only [OutboxPoint.effect]
      split <;> exact member
  | _ => exact member

/-- Only `enqueue` brings a packet to the queue. -/
theorem queue_effect {row : OutgoingRow} (member : row ∈ (point.effect fate node).tables.db.outgoingQueue.rows) :
    (∃ old ∈ node.tables.db.outgoingQueue.rows, row.SameEntry old) ∨
      point = .enqueue row.recipientId row.packetType row.encryptedPayload row.messageId row.groupId := by
  have fewer : ∀ {doomed : OutgoingRow → Bool}, row ∈ (node.tables.db.outgoingQueue.deleteWhere doomed).rows →
      ∃ old ∈ node.tables.db.outgoingQueue.rows, row.SameEntry old :=
    fun kept => ⟨row, (Table.mem_deleteWhere.mp kept).1, rfl⟩
  cases point with
  | enqueue recipientId packetType payload messageId groupId =>
      rcases Table.mem_insertOrIgnore.mp member with old | ⟨rfl, -⟩
      · exact .inl ⟨row, old, rfl⟩
      · exact .inr rfl
  | increment queueId =>
      simp only [OutboxPoint.effect, OutboxPoint.statement, Database.incrementOutqueueAttempts, Table.mem_updateWhere]
        at member
      obtain ⟨old, present, rfl⟩ := member
      refine .inl ⟨old, present, ?_⟩
      split <;> rfl
  | pruneSettled groupId =>
      have same : (node.tables.db.pruneSettled groupId).outgoingQueue = _ := Database.pruneSettled_drops.queue
      exact .inl ⟨row, same ▸ member, rfl⟩
  | pruneBeyondHardLimit groupId =>
      have same : (node.tables.db.pruneBeyondHardLimit groupId).outgoingQueue = _ :=
        Database.pruneBeyondHardLimit_drops.queue
      exact .inl ⟨row, same ▸ member, rfl⟩
  | dropOrphanQueued groupId => exact .inl (fewer member)
  | remove task queueId => exact .inl (fewer member)
  | removeFile fileId recipientId => exact .inl (fewer member)
  | cleanup => exact .inl (fewer member)
  | dropQueued messageId => exact .inl (fewer member)
  | removeGroup groupId => exact .inl (fewer member)
  | learnKey peerId key =>
      simp only [OutboxPoint.effect, OutboxPoint.statement, Database.insertSigningKey] at member
      split at member <;> exact .inl ⟨row, member, rfl⟩
  | send peerId packet =>
      simp only [OutboxPoint.effect] at member
      split at member <;> exact .inl ⟨row, member, rfl⟩
  | sendCopy task messageId peerId packet =>
      simp only [OutboxPoint.effect] at member
      split at member <;> exact .inl ⟨row, member, rfl⟩
  | sendQueued task queued peerId packet =>
      simp only [OutboxPoint.effect] at member
      split at member <;> exact .inl ⟨row, member, rfl⟩
  | _ => exact .inl ⟨row, member, rfl⟩

theorem pruneSettled_peers {db : Database} {groupId : String} : (db.pruneSettled groupId).peers = db.peers := by
  unfold Database.pruneSettled
  simp only
  split <;> rfl

theorem pruneBeyondHardLimit_peers {db : Database} {groupId : String} :
    (db.pruneBeyondHardLimit groupId).peers = db.peers := by
  unfold Database.pruneBeyondHardLimit
  simp only
  split <;> rfl

theorem current_effect (regular : Regular crypto writer point node)
    (kept : TablesKept crypto writer node.stored node.tables) :
    TablesKept crypto writer (point.effect fate node).stored (point.effect fate node).tables := by
  cases point with
  | saveGroupMessage message =>
      refine ⟨kept.certified, kept.carries, ?_⟩
      intro row member
      simp only [OutboxPoint.effect, OutboxPoint.statement, Database.insertGroupMessage] at member ⊢
      rcases Table.mem_insertOrIgnore.mp member with old | ⟨rfl, fresh⟩
      · obtain ⟨message, listed, same⟩ := kept.known row old
        refine ⟨message, ?_, same⟩
        split
        · exact listed
        · exact List.mem_append_left _ listed
      · have absent : node.tables.db.groupMessages.holds message.messageId = false := by
          simpa [Table.holds] using fresh
        rw [if_neg (by simp [absent])]
        exact ⟨message, by simp, rfl, rfl⟩
  | pruneSettled groupId =>
      exact kept.fewerMessages pruneSettled_peers Database.pruneSettled_drops.queue Database.pruneSettled_drops.stored
  | pruneBeyondHardLimit groupId =>
      exact kept.fewerMessages pruneBeyondHardLimit_peers Database.pruneBeyondHardLimit_drops.queue
        Database.pruneBeyondHardLimit_drops.stored
  | dropGroupMessage messageId groupId =>
      exact kept.fewerMessages rfl rfl fun row member => (Table.mem_deleteWhere.mp member).1
  | enqueue recipientId packetType payload messageId groupId =>
      refine ⟨kept.certified, ?_, kept.known⟩
      intro row member
      rcases Table.mem_insertOrIgnore.mp member with old | ⟨rfl, -⟩
      · exact kept.carries row old
      · exact regular
  | increment queueId =>
      refine kept.fewer (fun _ => id) ?_ fun _ => id
      intro row member
      simp only [OutboxPoint.effect, OutboxPoint.statement, Database.incrementOutqueueAttempts, Table.mem_updateWhere]
        at member
      obtain ⟨old, present, rfl⟩ := member
      refine ⟨old, present, ?_⟩
      split <;> rfl
  | dropOrphanQueued groupId =>
      exact kept.fewerQueued rfl (fun row member => (Table.mem_deleteWhere.mp member).1) rfl
  | remove task queueId =>
      exact kept.fewerQueued rfl (fun row member => (Table.mem_deleteWhere.mp member).1) rfl
  | removeFile fileId recipientId =>
      exact kept.fewerQueued rfl (fun row member => (Table.mem_deleteWhere.mp member).1) rfl
  | cleanup => exact kept.fewerQueued rfl (fun row member => (Table.mem_deleteWhere.mp member).1) rfl
  | dropQueued messageId => exact kept.fewerQueued rfl (fun row member => (Table.mem_deleteWhere.mp member).1) rfl
  | removeGroup groupId => exact kept.fewerQueued rfl (fun row member => (Table.mem_deleteWhere.mp member).1) rfl
  | meet peer =>
      refine ⟨?_, kept.carries, kept.known⟩
      intro record member
      rcases Table.mem_insertOrReplace.mp member with ⟨old, -⟩ | rfl
      · exact kept.certified record old
      · exact regular
  | learnKey peerId key =>
      refine ⟨?_, ?_, ?_⟩
      · intro record member
        simp only [OutboxPoint.effect, OutboxPoint.statement, Database.insertSigningKey] at member
        split at member
        · rcases Table.mem_insertOrReplace.mp member with ⟨old, -⟩ | rfl
          · exact kept.certified record old
          · rintro signed ⟨⟩
            exact regular
        · exact kept.certified record member
      · simp only [OutboxPoint.effect, OutboxPoint.statement, Database.insertSigningKey]
        split <;> exact kept.carries
      · simp only [OutboxPoint.effect, OutboxPoint.statement, Database.insertSigningKey]
        split <;> exact kept.known
  | send peerId packet =>
      simp only [OutboxPoint.effect]
      split <;> exact kept
  | sendCopy task messageId peerId packet =>
      simp only [OutboxPoint.effect]
      split <;> exact kept
  | sendQueued task row peerId packet =>
      simp only [OutboxPoint.effect]
      split <;> exact kept
  | _ => exact kept.same rfl rfl rfl

theorem Wellkept.effect (kept : Wellkept crypto writer node) (regular : Regular crypto writer point node) :
    Wellkept crypto writer (point.effect fate node) := by
  refine ⟨current_effect regular kept.current, ?_⟩
  have grown : TablesKept crypto writer (point.effect fate node).stored node.committed :=
    kept.committed.mono fun message => stored_effect
  cases point with
  | commit => exact kept.current
  | send peerId packet =>
      simp only [OutboxPoint.effect] at grown ⊢
      split <;> exact kept.committed
  | sendCopy task messageId peerId packet =>
      simp only [OutboxPoint.effect] at grown ⊢
      split <;> exact kept.committed
  | sendQueued task row peerId packet =>
      simp only [OutboxPoint.effect] at grown ⊢
      split <;> exact kept.committed
  | _ => exact grown

/-! ## The entries of a task -/

/-- What other tasks leave of the entries of a task: they drop no attempt of it,
and give it no row and no attempt. -/
structure EntriesWithin (owner : Nat) (before after : OutboxNode) : Prop where
  holding : ∀ held ∈ after.holding, held.1 = owner → held ∈ before.holding
  sending : ∀ attempt : Attempt, attempt.task = owner → (attempt ∈ after.sending ↔ attempt ∈ before.sending)

theorem mem_otherAttempts {task : Nat} {messageId : String} {recipientId : PeerId} {attempt : Attempt} :
    attempt ∈ node.otherAttempts task messageId recipientId ↔
      attempt ∈ node.sending ∧ attempt.isAt task messageId recipientId = false := by
  simp [OutboxNode.otherAttempts]

theorem isAt_apart {task : Nat} {messageId : String} {recipientId : PeerId} {attempt : Attempt}
    (apart : attempt.task ≠ task) : attempt.isAt task messageId recipientId = false := by
  simp [Attempt.isAt, apart]

/-- An action makes no entries for a task that is not its own. -/
theorem entries_effect (apart : point.task? ≠ some self) : EntriesWithin self node (point.effect fate node) := by
  have foreign : ∀ {task : Nat} {messageId : String} {recipientId : PeerId} {attempt : Attempt}, task ≠ self →
      attempt.task = self →
      (attempt ∈ node.otherAttempts task messageId recipientId ↔ attempt ∈ node.sending) := by
    intro task messageId recipientId attempt other own
    rw [mem_otherAttempts, isAt_apart (own.trans_ne (Ne.symm other))]
    simp
  cases point with
  | beginAttempt task messageId recipientId =>
      refine ⟨fun _ member _ => member, ?_⟩
      intro attempt own
      simp only [OutboxPoint.effect, List.mem_append, List.mem_singleton, or_iff_left_iff_imp]
      rintro rfl
      exact absurd (congrArg some own) apart
  | endAttempt task messageId recipientId status =>
      exact ⟨fun _ member _ => member, fun _ own => foreign (fun same => apart (congrArg some same)) own⟩
  | readPending task peerId =>
      refine ⟨?_, fun _ _ => Iff.rfl⟩
      intro held member own
      rcases List.mem_append.mp member with old | added
      · exact old
      · obtain ⟨row, -, rfl⟩ := List.mem_map.mp added
        exact absurd (congrArg some own) apart
  | remove task queueId => exact ⟨fun _ member _ => (List.mem_filter.mp member).1, fun _ _ => Iff.rfl⟩
  | send peerId packet =>
      simp only [OutboxPoint.effect]
      split <;> exact ⟨fun _ member _ => member, fun _ _ => Iff.rfl⟩
  | sendCopy task messageId peerId packet =>
      simp only [OutboxPoint.effect]
      split
      · exact ⟨fun _ member _ => member, fun _ _ => Iff.rfl⟩
      · exact ⟨fun _ member _ => member, fun _ own => foreign (fun same => apart (congrArg some same)) own⟩
  | sendQueued task row peerId packet =>
      have attempts : ∀ attempt : Attempt, attempt.task = self → (attempt ∈ (if isGroupCopy row then
          node.otherAttempts task (row.messageId.getD "") peerId else node.sending) ↔ attempt ∈ node.sending) := by
        intro attempt own
        split
        · exact foreign (fun same => apart (congrArg some same)) own
        · rfl
      simp only [OutboxPoint.effect]
      split
      · exact ⟨fun _ member _ => (List.mem_filter.mp member).1, attempts⟩
      · exact ⟨fun _ member _ => member, attempts⟩
  | _ => exact ⟨fun _ member _ => member, fun _ _ => Iff.rfl⟩

/-! ## Statuses -/

variable {messageId otherId : String} {recipientId peerId : PeerId} {status : GroupDeliveryStatus}

theorem status_of_sets (sets : point.sets? = some (messageId, recipientId, status)) :
    (point.effect fate node).tables.db.groupDeliveryStatus otherId peerId =
      if otherId = messageId ∧ peerId = recipientId then
        if node.tables.db.groupDeliveryStatus messageId recipientId = some .delivered then some .delivered
        else some status
      else node.tables.db.groupDeliveryStatus otherId peerId := by
  cases point with
  | setDelivery messageId recipientId status =>
      cases sets
      exact Database.groupDeliveryStatus_setGroupDelivery
  | confirm key acknowledgement =>
      cases sets
      exact Database.groupDeliveryStatus_setGroupDelivery
  | beginAttempt task messageId recipientId =>
      cases sets
      exact Database.groupDeliveryStatus_setGroupDelivery
  | endAttempt task messageId recipientId status =>
      cases sets
      exact Database.groupDeliveryStatus_setGroupDelivery
  | _ => cases sets

/-- The other points leave a status, or drop its row. -/
theorem status_of_none (sets : point.sets? = none) :
    (point.effect fate node).tables.db.groupDeliveryStatus messageId recipientId =
        node.tables.db.groupDeliveryStatus messageId recipientId ∨
      (point.effect fate node).tables.db.groupDeliveryStatus messageId recipientId = none := by
  cases point with
  | setDelivery messageId recipientId status => cases sets
  | confirm key acknowledgement => cases sets
  | beginAttempt task messageId recipientId => cases sets
  | endAttempt task messageId recipientId status => cases sets
  | pruneSettled groupId => exact .inl (Database.groupDeliveryStatus_congr Database.pruneSettled_deliveries)
  | pruneBeyondHardLimit groupId => exact .inl (Database.groupDeliveryStatus_congr Database.pruneBeyondHardLimit_deliveries)
  | dropOrphanDeliveries =>
      change node.tables.db.dropOrphanDeliveries.groupDeliveryStatus messageId recipientId = _ ∨
        node.tables.db.dropOrphanDeliveries.groupDeliveryStatus messageId recipientId = none
      rw [Database.groupDeliveryStatus_dropOrphanDeliveries]
      split
      · exact .inl rfl
      · exact .inr rfl
  | dropDeliveries dropped =>
      change (node.tables.db.dropDeliveries dropped).groupDeliveryStatus messageId recipientId = _ ∨
        (node.tables.db.dropDeliveries dropped).groupDeliveryStatus messageId recipientId = none
      rw [Database.groupDeliveryStatus_dropDeliveries]
      split
      · exact .inr rfl
      · exact .inl rfl
  | learnKey peerId key =>
      refine .inl (Database.groupDeliveryStatus_congr ?_)
      simp only [OutboxPoint.effect, OutboxPoint.statement, Database.insertSigningKey]
      split <;> rfl
  | send peerId packet =>
      simp only [OutboxPoint.effect]
      split <;> exact .inl rfl
  | sendCopy task messageId peerId packet =>
      simp only [OutboxPoint.effect]
      split <;> exact .inl rfl
  | sendQueued task row peerId packet =>
      simp only [OutboxPoint.effect]
      split <;> exact .inl rfl
  | _ => exact .inl rfl

/-- No action takes a recorded delivery back. -/
theorem delivered_effect (recorded : node.tables.db.groupDeliveryStatus messageId recipientId = some .delivered) :
    (point.effect fate node).tables.db.groupDeliveryStatus messageId recipientId = some .delivered ∨
      (point.effect fate node).tables.db.groupDeliveryStatus messageId recipientId = none := by
  cases sets : point.sets? with
  | none =>
      rcases status_of_none sets with kept | dropped
      · exact .inl (kept.trans recorded)
      · exact .inr dropped
  | some written =>
      obtain ⟨writtenId, writtenTo, status⟩ := written
      rw [status_of_sets sets]
      split
      · rename_i aimed
        rw [← aimed.1, ← aimed.2, if_pos recorded]
        exact .inl rfl
      · exact .inl recorded

/-! ## The contract of the programs -/

/-- What the tasks do to each other: none makes entries for another, none
forgets a message that was stored. -/
def bookkeeping (crypto : FileCrypto) (writer : PacketWriter) : Contract OutboxNode OutboxFate OutboxPoint where
  invariant := Wellkept crypto writer
  rely := fun self before after => EntriesWithin self before after ∧ ∀ message ∈ before.stored, message ∈ after.stored
  admits := fun _ _ _ => True
  guarantees := fun point fate before after => Regular crypto writer point before ∧ after = point.effect fate before

theorem effect_step (kept : Wellkept crypto writer node) (regular : Regular crypto writer point node)
    (own : ∀ task ∈ point.task?, task = self) :
    (bookkeeping crypto writer).Step self point fate node (point.effect fate node) where
  invariant := kept.effect regular
  guaranteed := ⟨regular, rfl⟩
  relied := by
    intro other apart
    refine ⟨entries_effect ?_, fun message => stored_effect⟩
    exact fun same => apart (own other same)

/-- The entries a task may have: rows of `held`, and attempts of `attempted`. -/
structure Entries (held : Nat → Prop) (attempted : String → PeerId → Prop) (owner : Nat) (node : OutboxNode) : Prop where
  rows : ∀ entry ∈ node.holding, entry.1 = owner → held entry.2
  attempts : ∀ attempt ∈ node.sending, attempt.task = owner → attempted attempt.messageId attempt.recipientId

/-- A task with nothing under way. -/
abbrev Clear : Nat → OutboxNode → Prop := Entries (fun _ => False) fun _ _ => False

variable {held : Nat → Prop} {attempted : String → PeerId → Prop}

theorem Entries.of_within {before after : OutboxNode} (within : EntriesWithin self before after)
    (entries : Entries held attempted self before) : Entries held attempted self after where
  rows := fun entry member own => entries.rows entry (within.holding entry member own) own
  attempts := fun attempt member own => entries.attempts attempt ((within.sending attempt own).mp member) own

theorem entries_stable : (bookkeeping crypto writer).Stable self (Entries held attempted self) :=
  fun _ _ _ _ relied entries => entries.of_within relied.1

/-- A fact of the stored messages that more of them do not disturb. -/
theorem known_stable {fact : List GroupMessage → Prop}
    (grows : ∀ shorter longer, (∀ message ∈ shorter, message ∈ longer) → fact shorter → fact longer) :
    (bookkeeping crypto writer).Stable self fun node => Entries held attempted self node ∧ fact node.stored :=
  fun _ _ _ _ relied entries => ⟨entries.1.of_within relied.1, grows _ _ relied.2 entries.2⟩

end

end MeshTalk.Outbox
