import MeshTalk.Outbox.Contracts

namespace MeshTalk.Outbox

open MeshTalk.Library MeshTalk.Protocol MeshTalk.Store MeshTalk.Groups

/-! # Direct messages after their receipt

A transport reports a failure after the packet may have arrived, so the receipt
can come before the fallback of its own send, and while a flush has the row.
-/

/-- A queued packet of the direct message. -/
def PacketOf (messageId : String) (row : OutgoingRow) : Prop :=
  row.messageId = some messageId ∧ row.packetType = PacketType.message.value

instance {messageId : String} {row : OutgoingRow} : Decidable (PacketOf messageId row) :=
  inferInstanceAs (Decidable (_ ∧ _))

/-- A receipt for the message has been recorded. -/
def IsDelivered (node : OutboxNode) (messageId : String) : Prop :=
  ∃ message ∈ node.tables.messages.rows, message.messageId = messageId ∧ message.delivered = true

instance {node : OutboxNode} {messageId : String} : Decidable (IsDelivered node messageId) :=
  inferInstanceAs (Decidable (∃ message ∈ _, _))

/-- Each packet of the message is in the hands of a flush. -/
def InHand (node : OutboxNode) (messageId : String) : Prop :=
  ∀ row ∈ node.tables.db.outgoingQueue.rows, PacketOf messageId row → ∃ held ∈ node.holding, held.2 = row.id

instance {node : OutboxNode} {messageId : String} : Decidable (InHand node messageId) :=
  inferInstanceAs (Decidable (∀ row ∈ _, _))

/-- What a run grants a step: nothing queues or fails a message after its receipt,
and a receipt finds no packet that nobody is about to remove. -/
def ReceiptsLast : OutboxPoint → OutboxFate → OutboxNode → Prop
  | .markQueued messageId, _, node => ¬ IsDelivered node messageId
  | .markFailed messageId, _, node => ¬ IsDelivered node messageId
  | .enqueue _ packetType _ named _, _, node => packetType = PacketType.message.value →
      ∀ messageId ∈ named, ¬ IsDelivered node messageId
  | .markDelivered messageId senderId recipientId, _, node => ∀ message ∈ node.tables.messages.rows,
      OutboxTables.isFrom messageId senderId recipientId message = true → message.failed = false ∧ InHand node messageId
  | .sendQueued _ row _ _, fate, node => fate.sendFails = true → ∀ queued ∈ node.tables.db.outgoingQueue.rows,
      queued.id = row.id → queued.packetType = PacketType.message.value →
        ∀ messageId ∈ queued.messageId, ¬ IsDelivered node messageId
  | _, _, _ => True

instance {point : OutboxPoint} {fate : OutboxFate} {node : OutboxNode} : Decidable (ReceiptsLast point fate node) := by
  induction point using OutboxPoint.casesOn <;> dsimp only [ReceiptsLast] <;> infer_instance

/-- The process goes on, and receipts come last. -/
def ReceiptsComeLast (pool : OutboxPool) (event : OutboxEvent crypto) : Prop :=
  Pool.Allowed ReceiptsLast pool event ∧ event.Running

instance {pool : OutboxPool} {event : OutboxEvent crypto} : Decidable (ReceiptsComeLast pool event) :=
  inferInstanceAs (Decidable (_ ∧ _))

/-- A message with a receipt is neither queued nor failed, and its packets are in hand. -/
def Confirmed (node : OutboxNode) : Prop :=
  ∀ message ∈ node.tables.messages.rows, message.delivered = true →
    message.queued = false ∧ message.failed = false ∧ InHand node message.messageId

section

variable {crypto : FileCrypto} {writer : PacketWriter} {node next : OutboxNode} {point : OutboxPoint} {fate : OutboxFate}

/-- Actions that change no message and bring no packet, and let go of none. -/
theorem Confirmed.same (confirmed : Confirmed node) (messages : next.tables.messages = node.tables.messages)
    (queue : ∀ row ∈ next.tables.db.outgoingQueue.rows, ∃ old ∈ node.tables.db.outgoingQueue.rows, row.SameEntry old)
    (holding : ∀ row ∈ next.tables.db.outgoingQueue.rows, ∀ held ∈ node.holding, held.2 = row.id → held ∈ next.holding) :
    Confirmed next := by
  intro message member delivered
  rw [messages] at member
  obtain ⟨queued, failed, inHand⟩ := confirmed message member delivered
  refine ⟨queued, failed, ?_⟩
  intro row present packet
  obtain ⟨old, before, same⟩ := queue row present
  have oldPacket : PacketOf message.messageId old := by
    rw [← same]
    exact packet
  obtain ⟨held, listed, aimed⟩ := inHand old before oldPacket
  have named : held.2 = row.id := by
    rw [aimed, ← same]
  exact ⟨held, holding row present held listed named, named⟩

/-- Actions that leave the messages and the hands alone. -/
theorem Confirmed.untouched (confirmed : Confirmed node) (brings : ∀ r t p m g, point ≠ .enqueue r t p m g)
    (messages : (point.effect fate node).tables.messages = node.tables.messages)
    (holding : ∀ held ∈ node.holding, held ∈ (point.effect fate node).holding) : Confirmed (point.effect fate node) := by
  refine confirmed.same messages ?_ fun _ _ held listed _ => holding held listed
  intro row member
  rcases queue_effect member with old | added
  · exact old
  · exact absurd added (brings _ _ _ _ _)

/-- An update of the messages that confirms none and flags only those without a receipt. -/
theorem Confirmed.updated {chosen : SentMessage → Bool} {change : SentMessage → SentMessage}
    {keeps : ∀ row, (change row).messageId = row.messageId} (confirmed : Confirmed node)
    (messages : next.tables = node.tables.updateMessages chosen change keeps) (holding : next.holding = node.holding)
    (flags : ∀ message ∈ node.tables.messages.rows, chosen message = true → (change message).delivered = true →
      (change message).queued = false ∧ (change message).failed = false ∧ InHand node message.messageId) :
    Confirmed next := by
  have hands : ∀ messageId, InHand node messageId → InHand next messageId := by
    intro messageId inHand row member packet
    rw [messages] at member
    obtain ⟨held, listed, aimed⟩ := inHand row member packet
    exact ⟨held, holding ▸ listed, aimed⟩
  intro message member delivered
  rw [messages, OutboxTables.updateMessages, Table.mem_updateWhere] at member
  obtain ⟨old, before, rfl⟩ := member
  split at delivered
  · rename_i touched
    rw [if_pos touched]
    obtain ⟨queued, failed, inHand⟩ := flags old before touched delivered
    exact ⟨queued, failed, hands _ (by rw [keeps]; exact inHand)⟩
  · rename_i spared
    rw [if_neg spared]
    obtain ⟨queued, failed, inHand⟩ := confirmed old before delivered
    exact ⟨queued, failed, hands _ inHand⟩

theorem Confirmed.effect (confirmed : Confirmed node) (regular : Regular crypto writer point node)
    (last : ReceiptsLast point fate node) : Confirmed (point.effect fate node) := by
  cases point with
  | saveMessage message =>
      intro saved member delivered
      rcases Table.mem_insertOrIgnore.mp member with old | ⟨rfl, -⟩
      · exact confirmed saved old delivered
      · rw [show saved.delivered = false from regular] at delivered
        cases delivered
  | markDelivered messageId senderId recipientId =>
      refine confirmed.updated rfl rfl ?_
      intro message member chosen _
      obtain ⟨sound, inHand⟩ := last message member chosen
      have named : message.messageId = messageId := by
        simp only [OutboxTables.isFrom, Bool.and_eq_true, decide_eq_true_eq] at chosen
        exact chosen.1.1
      exact ⟨rfl, sound, named ▸ inHand⟩
  | markSent messageId =>
      refine confirmed.updated rfl rfl ?_
      intro message member _ delivered
      exact ⟨rfl, (confirmed message member delivered).2⟩
  | markQueued messageId =>
      refine confirmed.updated rfl rfl ?_
      intro message member chosen delivered
      exact absurd ⟨message, member, of_decide_eq_true chosen, delivered⟩ last
  | markFailed messageId =>
      refine confirmed.updated rfl rfl ?_
      intro message member chosen delivered
      exact absurd ⟨message, member, of_decide_eq_true chosen, delivered⟩ last
  | markBlocked messageId senderId recipientId =>
      refine confirmed.updated rfl rfl ?_
      exact fun message member _ delivered => confirmed message member delivered
  | dropMessage messageId =>
      intro message member delivered
      exact confirmed message (Table.mem_deleteWhere.mp member).1 delivered
  | enqueue recipientId packetType payload named groupId =>
      intro message member delivered
      obtain ⟨queued, failed, inHand⟩ := confirmed message member delivered
      refine ⟨queued, failed, ?_⟩
      intro row present packet
      rcases Table.mem_insertOrIgnore.mp present with old | ⟨rfl, -⟩
      · exact inHand row old packet
      · exact absurd ⟨message, member, rfl, delivered⟩ (last packet.2 message.messageId packet.1)
  | readPending task peerId =>
      exact confirmed.untouched (by rintro _ _ _ _ _ ⟨⟩) rfl fun held listed => List.mem_append_left _ listed
  | remove task queueId =>
      refine confirmed.same rfl (fun row member => ⟨row, (Table.mem_deleteWhere.mp member).1, rfl⟩) ?_
      intro row member held listed aimed
      refine List.mem_filter.mpr ⟨listed, decide_eq_true ?_⟩
      rintro rfl
      have spared := (Table.mem_deleteWhere.mp member).2
      simp [← aimed] at spared
  | sendQueued task row peerId packet =>
      cases failed : fate.sendFails with
      | false =>
          refine confirmed.untouched (by rintro _ _ _ _ _ ⟨⟩) ?_ ?_
          · simp [OutboxPoint.effect, failed]
          · intro held listed
            simpa [OutboxPoint.effect, failed] using listed
      | true =>
          intro message member delivered
          have before : message ∈ node.tables.messages.rows := by simpa [OutboxPoint.effect, failed] using member
          obtain ⟨queued, sound, inHand⟩ := confirmed message before delivered
          refine ⟨queued, sound, ?_⟩
          intro kept present packet
          have stillQueued : kept ∈ node.tables.db.outgoingQueue.rows := by
            simpa [OutboxPoint.effect, failed] using present
          obtain ⟨held, listed, aimed⟩ := inHand kept stillQueued packet
          refine ⟨held, ?_, aimed⟩
          simp only [OutboxPoint.effect, failed, if_true, List.mem_filter]
          refine ⟨listed, decide_eq_true ?_⟩
          rintro rfl
          exact last failed kept stillQueued aimed.symm packet.2 message.messageId packet.1 ⟨message, before, rfl, delivered⟩
  | send peerId packet =>
      simp only [OutboxPoint.effect]
      split <;> exact confirmed
  | sendCopy task messageId peerId packet =>
      simp only [OutboxPoint.effect]
      split <;> exact confirmed
  | _ => exact confirmed.untouched (by rintro _ _ _ _ _ ⟨⟩) rfl fun _ => id

end

/-- In a run of the process in which receipts come last, a message with a receipt
is neither queued nor failed in any state, and when all operations have finished
no packet of it is in the queue. -/
theorem confirmed_messages_are_settled {crypto : FileCrypto} (identity : Identity crypto) (writer : PacketWriter)
    (restartedAt : Time) (events : List (OutboxEvent crypto)) (final : OutboxPool)
    (lasting : Meets (Pool.step (outboxService identity writer restartedAt)) ReceiptsComeLast freshOutbox events)
    (completed : run (Pool.step (outboxService identity writer restartedAt)) freshOutbox events = some final) :
    ∀ message ∈ final.shared.tables.messages.rows, message.delivered = true →
      message.queued = false ∧ message.failed = false ∧
        ((∀ task ∈ final.tasks, task.point? = none) →
          ∀ row ∈ final.shared.tables.db.outgoingQueue.rows, ¬ PacketOf message.messageId row) := by
  obtain ⟨settled, confirmed⟩ := @outbox_invariant crypto writer identity freshOutbox final restartedAt events
    Confirmed ReceiptsComeLast
    (fun pool index fate point _ confirmed admitted current regular =>
      confirmed.effect regular (admitted.1 point current))
    (fun pool _ admitted => admitted.2.elim) ⟨freshOutbox_settled, nofun⟩ lasting completed
  intro message member delivered
  obtain ⟨queued, failed, inHand⟩ := confirmed message member delivered
  refine ⟨queued, failed, ?_⟩
  intro ended row present packet
  obtain ⟨held, listed, -⟩ := inHand row present packet
  exact (settled.ended ended held.1).rows held listed rfl

/-! ### Runs on fixed inputs -/

def writtenToBob : List (OutboxEvent plainCrypto) :=
  [.start (.meet bobConnected)] ++ turns 0 2 calm ++ [.start (.sendMessage "bob" [104, 105] none)]

/-- The receipt of a queued message arrives while its flush goes on. -/
def confirmedInFlush : List (OutboxEvent plainCrypto) :=
  writtenToBob ++ turns 1 9 away ++ [.start (.flush "bob")] ++ turns 2 3 calm ++
    [.start (.receipt bobConnected "m1")] ++ turns 3 2 calm ++ turns 2 4 calm

theorem flushed_message_is_settled : ∃ final, ∃ message ∈ final.shared.tables.messages.rows,
    run (Pool.step (outboxService plainIdentity plainWriter 0)) freshOutbox confirmedInFlush = some final ∧
      message.delivered = true ∧ message.queued = false ∧ message.failed = false ∧
      ∀ row ∈ final.shared.tables.db.outgoingQueue.rows, ¬ PacketOf message.messageId row := by
  have found : ((run (Pool.step (outboxService plainIdentity plainWriter 0)) freshOutbox confirmedInFlush).any fun final =>
      decide ((∃ message ∈ final.shared.tables.messages.rows, message.delivered = true) ∧
        ∀ task ∈ final.tasks, task.point?.isNone = true)) = true := by
    decide +kernel
  have lasting : Meets (Pool.step (outboxService plainIdentity plainWriter 0)) ReceiptsComeLast freshOutbox
      confirmedInFlush := by
    decide +kernel
  obtain ⟨final, completed, known⟩ := (Option.any_eq_true _ _).mp found
  obtain ⟨⟨message, member, delivered⟩, ended⟩ := of_decide_eq_true known
  obtain ⟨queued, failed, removed⟩ :=
    confirmed_messages_are_settled plainIdentity plainWriter 0 _ final lasting completed message member delivered
  exact ⟨final, message, member, completed, delivered, queued, failed,
    removed fun task listed => Option.isNone_iff_eq_none.mp (ended task listed)⟩

/-- The receipt is handled before the send of its message reports a failure. -/
def confirmedBeforeFallback : List (OutboxEvent plainCrypto) :=
  writtenToBob ++ turns 1 7 calm ++ [.start (.receipt bobConnected "m1")] ++ turns 2 2 calm ++ turns 1 5 broken

/-- The message is delivered and queued, with its packet in the queue and no task left. -/
theorem fallback_queues_confirmed_message : ∃ final,
    run (Pool.step (outboxService plainIdentity plainWriter 0)) freshOutbox confirmedBeforeFallback = some final ∧
      (∀ task ∈ final.tasks, task.point? = none) ∧
      ∃ message ∈ final.shared.tables.messages.rows, message.delivered = true ∧ message.queued = true ∧
        ∃ row ∈ final.shared.tables.db.outgoingQueue.rows, PacketOf message.messageId row := by
  have found : ((run (Pool.step (outboxService plainIdentity plainWriter 0)) freshOutbox confirmedBeforeFallback).any
      fun final => decide ((∀ task ∈ final.tasks, task.point?.isNone = true) ∧
        ∃ message ∈ final.shared.tables.messages.rows, message.delivered = true ∧ message.queued = true ∧
          ∃ row ∈ final.shared.tables.db.outgoingQueue.rows, PacketOf message.messageId row)) = true := by
    decide +kernel
  obtain ⟨final, completed, known⟩ := (Option.any_eq_true _ _).mp found
  obtain ⟨ended, confirmed⟩ := of_decide_eq_true known
  exact ⟨final, completed, fun task listed => Option.isNone_iff_eq_none.mp (ended task listed), confirmed⟩

end MeshTalk.Outbox
