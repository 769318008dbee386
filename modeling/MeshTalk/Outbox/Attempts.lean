import MeshTalk.Outbox.Contracts

namespace MeshTalk.Outbox

open MeshTalk.Library MeshTalk.Protocol MeshTalk.Store MeshTalk.Groups

/-! # The status `sent`

Both paths announce `sent` before the packet goes out.  The direct path sets the
status again when the send fails; the flush only counts the failure.
-/

/-- A `send_packet` with the message, to the recipient, has returned. -/
def Carried (writer : PacketWriter) (node : OutboxNode) (messageId : String) (recipientId : PeerId) : Prop :=
  ∃ encoded, (recipientId, liveGroupMessage encoded) ∈ node.sent ∧ CopyOf writer messageId recipientId encoded

/-- A failed send of a flush leaves the status that the attempt found, or `delivered`. -/
def LeavesStatus (point : OutboxPoint) (fate : OutboxFate) (node : OutboxNode) : Prop :=
  match point with
  | .sendQueued task row peerId _ => fate.sendFails = true → isGroupCopy row = true →
      ∃ attempt ∈ node.sending, attempt.isAt task (row.messageId.getD "") peerId = true ∧
        ((point.effect fate node).tables.db.groupDeliveryStatus (row.messageId.getD "") peerId = attempt.before ∨
          (point.effect fate node).tables.db.groupDeliveryStatus (row.messageId.getD "") peerId = some .delivered)
  | _ => True

/-- Where the send of a flush fails, the delivery was `sent` before the attempt
and still is, or it has been acknowledged. -/
def FailsHarmlessly (point : OutboxPoint) (fate : OutboxFate) (node : OutboxNode) : Prop :=
  match point with
  | .sendQueued task row peerId _ => fate.sendFails = true → isGroupCopy row = true →
      let status := node.tables.db.groupDeliveryStatus (row.messageId.getD "") peerId
      status = some .delivered ∨ (status = some .sent ∧ ∀ attempt ∈ node.sending,
        attempt.isAt task (row.messageId.getD "") peerId = true → attempt.before = some .sent)
  | _ => True

instance {point : OutboxPoint} {fate : OutboxFate} {node : OutboxNode} : Decidable (FailsHarmlessly point fate node) := by
  cases point <;> simp only [FailsHarmlessly] <;> infer_instance

instance {point : OutboxPoint} {fate : OutboxFate} {node : OutboxNode} : Decidable (LeavesStatus point fate node) := by
  cases point <;> simp only [LeavesStatus] <;> infer_instance

/-- The process goes on, and a flush fails only where that is harmless. -/
def GoesOn (pool : OutboxPool) (event : OutboxEvent crypto) : Prop :=
  Pool.Allowed FailsHarmlessly pool event ∧ event.Running

instance {pool : OutboxPool} {event : OutboxEvent crypto} : Decidable (GoesOn pool event) :=
  inferInstanceAs (Decidable (_ ∧ _))

/-- A `sent` status comes from a send that returned, or from an attempt under way
that found another status. -/
def SentAccounted (writer : PacketWriter) (node : OutboxNode) : Prop :=
  ∀ messageId recipientId, node.tables.db.groupDeliveryStatus messageId recipientId = some .sent →
    Carried writer node messageId recipientId ∨ ∃ attempt ∈ node.sending,
      attempt.messageId = messageId ∧ attempt.recipientId = recipientId ∧ attempt.before ≠ some .sent

section

variable {crypto : FileCrypto} {writer : PacketWriter} {node : OutboxNode} {point : OutboxPoint} {fate : OutboxFate}
  {messageId : String} {recipientId : PeerId}

theorem sent_effect {entry : PeerId × Packet} (member : entry ∈ node.sent) : entry ∈ (point.effect fate node).sent := by
  cases point with
  | send peerId packet =>
      simp only [OutboxPoint.effect]
      split
      · exact member
      · exact List.mem_append_left _ member
  | sendCopy task messageId peerId packet =>
      simp only [OutboxPoint.effect]
      split
      · exact member
      · exact List.mem_append_left _ member
  | sendQueued task row peerId packet =>
      simp only [OutboxPoint.effect]
      split
      · exact member
      · exact List.mem_append_left _ member
  | _ => exact member

theorem Carried.effect (carried : Carried writer node messageId recipientId) :
    Carried writer (point.effect fate node) messageId recipientId := by
  obtain ⟨encoded, logged, copy⟩ := carried
  exact ⟨encoded, sent_effect logged, copy⟩

/-- The packet of a row of a group message is a copy of it. -/
theorem copy_of_row {row : OutgoingRow} {type : PacketType} (carries : RowCarries writer row) (copied : isGroupCopy row = true)
    (typed : type.value = row.packetType) :
    type = .groupMessage ∧ CopyOf writer (row.messageId.getD "") row.recipientId row.encryptedPayload := by
  simp only [isGroupCopy, Bool.and_eq_true, decide_eq_true_eq] at copied
  obtain ⟨messageId, named, copy⟩ := carries copied.2
  rw [named]
  exact ⟨PacketType.value_injective (typed.trans copied.2), copy⟩

/-- An attempt at another delivery outlasts the end of one. -/
theorem spared_attempt {task : Nat} {endedId : String} {endedTo : PeerId} {attempt : Attempt}
    (apart : ¬ (messageId = endedId ∧ recipientId = endedTo)) (member : attempt ∈ node.sending)
    (named : attempt.messageId = messageId) (addressed : attempt.recipientId = recipientId) :
    attempt ∈ node.otherAttempts task endedId endedTo := by
  refine mem_otherAttempts.mpr ⟨member, ?_⟩
  rw [← named, ← addressed] at apart
  rw [Attempt.isAt, Bool.and_assoc, Bool.and_eq_false_iff]
  exact .inr (by simpa using apart)

/-- Every action keeps the account of the `sent` statuses, the failing sends of a
flush where they are harmless. -/
theorem SentAccounted.effect (accounted : SentAccounted writer node) (regular : Regular crypto writer point node)
    (harmless : FailsHarmlessly point fate node) : SentAccounted writer (point.effect fate node) := by
  intro messageId recipientId announced
  -- An attempt that the point leaves alone still accounts for the status.
  have kept : (∀ attempt ∈ node.sending, attempt.messageId = messageId → attempt.recipientId = recipientId →
        attempt ∈ (point.effect fate node).sending) →
      node.tables.db.groupDeliveryStatus messageId recipientId = some .sent →
      Carried writer (point.effect fate node) messageId recipientId ∨ ∃ attempt ∈ (point.effect fate node).sending,
        attempt.messageId = messageId ∧ attempt.recipientId = recipientId ∧ attempt.before ≠ some .sent := by
    intro stays before
    rcases accounted messageId recipientId before with carried | ⟨attempt, member, named, addressed, found⟩
    · exact .inl carried.effect
    · exact .inr ⟨attempt, stays attempt member named addressed, named, addressed, found⟩
  have unchanged : point.sets? = none → node.tables.db.groupDeliveryStatus messageId recipientId = some .sent := by
    intro none
    rcases status_of_none none with same | dropped
    · exact same.symm.trans announced
    · rw [dropped] at announced
      cases announced
  cases point with
  | beginAttempt task writtenId writtenTo =>
      rw [status_of_sets rfl] at announced
      split at announced
      · rename_i aimed
        obtain ⟨rfl, rfl⟩ := aimed
        by_cases before : node.tables.db.groupDeliveryStatus messageId recipientId = some .sent
        · exact kept (fun attempt member _ _ => List.mem_append_left _ member) before
        · exact .inr ⟨_, List.mem_append_right _ (List.mem_singleton_self _), rfl, rfl, before⟩
      · exact kept (fun attempt member _ _ => List.mem_append_left _ member) announced
  | endAttempt task writtenId writtenTo status =>
      rw [status_of_sets rfl] at announced
      split at announced
      · split at announced
        · cases announced
        · rcases regular with rfl | rfl <;> cases announced
      · rename_i apart
        exact kept (fun attempt => spared_attempt apart) announced
  | setDelivery writtenId writtenTo status =>
      rw [status_of_sets rfl] at announced
      split at announced
      · split at announced
        · cases announced
        · rcases regular with rfl | rfl <;> cases announced
      · exact kept (fun attempt member _ _ => member) announced
  | confirm key acknowledgement =>
      rw [status_of_sets rfl] at announced
      split at announced
      · split at announced <;> cases announced
      · exact kept (fun attempt member _ _ => member) announced
  | sendCopy task copyId peerId packet =>
      obtain ⟨encoded, rfl, copy⟩ := regular
      cases failed : fate.sendFails with
      | true =>
          simp only [OutboxPoint.effect, failed, if_true] at kept ⊢
          exact kept (fun attempt member _ _ => member) (unchanged rfl)
      | false =>
          simp only [OutboxPoint.effect, failed, Bool.false_eq_true, if_false] at kept ⊢
          by_cases aimed : messageId = copyId ∧ recipientId = peerId
          · obtain ⟨rfl, rfl⟩ := aimed
            exact .inl ⟨encoded, by simp, copy⟩
          · exact kept (fun attempt => spared_attempt aimed) (unchanged rfl)
  | sendQueued task row peerId packet =>
      obtain ⟨carries, rfl, ⟨type, rfl, typed⟩, -⟩ := regular
      have sent : node.tables.db.groupDeliveryStatus messageId recipientId = some .sent := unchanged rfl
      have ended : (OutboxPoint.effect (.sendQueued task row row.recipientId ⟨.live type, row.encryptedPayload⟩) fate
          node).sending = if isGroupCopy row then node.otherAttempts task (row.messageId.getD "") row.recipientId
            else node.sending := by
        simp only [OutboxPoint.effect]
        split <;> rfl
      rw [ended] at kept ⊢
      cases copied : isGroupCopy row with
      | false =>
          simp only [copied, Bool.false_eq_true, if_false] at kept ⊢
          exact kept (fun attempt member _ _ => member) sent
      | true =>
          simp only [copied, if_true] at kept ⊢
          by_cases aimed : messageId = row.messageId.getD "" ∧ recipientId = row.recipientId
          · obtain ⟨rfl, rfl⟩ := aimed
            cases failed : fate.sendFails with
            | false =>
                obtain ⟨rfl, copy⟩ := copy_of_row carries copied typed
                exact .inl ⟨row.encryptedPayload, by simp [OutboxPoint.effect, failed, liveGroupMessage], copy⟩
            | true =>
                rcases harmless failed copied with recorded | ⟨-, found⟩
                · cases sent.symm.trans recorded
                · rcases accounted _ _ sent with carried | ⟨attempt, member, named, addressed, other⟩
                  · exact .inl carried.effect
                  · refine .inr ⟨attempt, mem_otherAttempts.mpr ⟨member, ?_⟩, named, addressed, other⟩
                    exact Bool.eq_false_iff.mpr fun same => other (found attempt member same)
          · exact kept (fun attempt => spared_attempt aimed) sent
  | send peerId packet =>
      have same : (OutboxPoint.effect (.send peerId packet) fate node).sending = node.sending := by
        simp only [OutboxPoint.effect]
        split <;> rfl
      exact kept (fun attempt member _ _ => same.symm ▸ member) (unchanged rfl)
  | _ => exact kept (fun attempt member _ _ => member) (unchanged rfl)

/-- What is harmless leaves the status of the delivery. -/
theorem leavesStatus_of_harmless (regular : Regular crypto writer point node) (harmless : FailsHarmlessly point fate node) :
    LeavesStatus point fate node := by
  cases point with
  | sendQueued task row peerId packet =>
      intro failed copied
      obtain ⟨attempt, member, aimed⟩ := regular.2.2.2 copied
      refine ⟨attempt, member, aimed, ?_⟩
      simp only [OutboxPoint.effect, failed, if_true]
      rcases harmless failed copied with recorded | ⟨sent, found⟩
      · exact .inr recorded
      · exact .inl (sent.trans (found attempt member aimed).symm)
  | _ => trivial

end

/-- A run of the process in which the sends of flushes fail only where that is
harmless: a `sent` delivery has been carried, unless an attempt at it is under
way, and every failed flush leaves the status that it found, or `delivered`. -/
theorem sent_deliveries_were_carried {crypto : FileCrypto} (identity : Identity crypto) (writer : PacketWriter)
    (restartedAt : Time) (events : List (OutboxEvent crypto)) (final : OutboxPool)
    (goesOn : Meets (Pool.step (outboxService identity writer restartedAt)) GoesOn freshOutbox events)
    (completed : run (Pool.step (outboxService identity writer restartedAt)) freshOutbox events = some final) :
    (∀ messageId recipientId, final.shared.tables.db.groupDeliveryStatus messageId recipientId = some .sent →
      Carried writer final.shared messageId recipientId ∨ ∃ attempt ∈ final.shared.sending,
        attempt.messageId = messageId ∧ attempt.recipientId = recipientId ∧
          (final.pointAt attempt.task).isSome = true) ∧
    Meets (Pool.step (outboxService identity writer restartedAt)) (Pool.Allowed LeavesStatus) freshOutbox events := by
  constructor
  · obtain ⟨settled, accounted⟩ := @outbox_invariant crypto writer identity freshOutbox final restartedAt events
      (SentAccounted writer) GoesOn
      (fun pool index fate point _ accounted admitted current regular =>
        accounted.effect regular (admitted.1 point current))
      (fun pool _ admitted => admitted.2.elim) ⟨freshOutbox_settled, nofun⟩ goesOn completed
    intro messageId recipientId announced
    rcases accounted messageId recipientId announced with carried | ⟨attempt, member, named, addressed, -⟩
    · exact .inl carried
    · exact .inr ⟨attempt, member, named, addressed, attempt_running settled member⟩
  · refine goesOn.along (Settled crypto writer) (fun pool event next settled _ stepped => (step_settles settled stepped).1)
      ?_ freshOutbox_settled completed
    intro pool event next settled admitted stepped
    cases event with
    | start job => trivial
    | restart => trivial
    | resume index fate =>
        obtain ⟨-, point, current, regular, -⟩ := step_settles settled stepped
        intro other same
        cases current.symm.trans same
        exact leavesStatus_of_harmless regular (admitted.1 point current)

/-! ### Runs on fixed inputs -/

/-- Bob has been met and is away when the team is sent a message. -/
def queuedForBob : List (OutboxEvent plainCrypto) :=
  teamSet ++ [.start (.meet bobConnected)] ++ turns 1 2 calm ++ [.start (.sendGroupMessage team [104, 105] none)] ++
    turns 2 25 away

def flushedToBob : List (OutboxEvent plainCrypto) := queuedForBob ++ [.start (.flush "bob")] ++ turns 3 10 calm

theorem flushed_message_was_carried : ∃ final,
    run (Pool.step (outboxService plainIdentity plainWriter 0)) freshOutbox flushedToBob = some final ∧
      final.shared.tables.db.groupDeliveryStatus "m1" "bob" = some .sent ∧ Carried plainWriter final.shared "m1" "bob" := by
  have found : ((run (Pool.step (outboxService plainIdentity plainWriter 0)) freshOutbox flushedToBob).any fun final =>
      decide (final.shared.tables.db.groupDeliveryStatus "m1" "bob" = some .sent ∧ final.shared.sending = [])) = true := by
    decide +kernel
  have goesOn : Meets (Pool.step (outboxService plainIdentity plainWriter 0)) GoesOn freshOutbox flushedToBob := by
    decide +kernel
  obtain ⟨final, completed, known⟩ := (Option.any_eq_true _ _).mp found
  obtain ⟨sent, finished⟩ := of_decide_eq_true known
  have accounted := (sent_deliveries_were_carried plainIdentity plainWriter 0 _ final goesOn completed).1 "m1" "bob" sent
  rw [finished] at accounted
  refine ⟨final, completed, sent, accounted.resolve_right ?_⟩
  rintro ⟨attempt, none, -⟩
  cases none

/-- The flush to Bob fails: his `queued` delivery is `sent`, though nothing has
been sent and no task is left. -/
theorem failed_flush_leaves_sent : ∃ queued final,
    run (Pool.step (outboxService plainIdentity plainWriter 0)) freshOutbox queuedForBob = some queued ∧
      queued.shared.tables.db.groupDeliveryStatus "m1" "bob" = some .queued ∧
      run (Pool.step (outboxService plainIdentity plainWriter 0)) queued ([.start (.flush "bob")] ++ turns 3 10 broken) =
        some final ∧
      (∀ task ∈ final.tasks, task.point? = none) ∧ final.shared.sending = [] ∧ final.shared.sent = [] ∧
      final.shared.tables.db.groupDeliveryStatus "m1" "bob" = some .sent := by
  have found : ((run (Pool.step (outboxService plainIdentity plainWriter 0)) freshOutbox queuedForBob).any fun queued =>
      decide (queued.shared.tables.db.groupDeliveryStatus "m1" "bob" = some .queued) &&
        (run (Pool.step (outboxService plainIdentity plainWriter 0)) queued
          ([.start (.flush "bob")] ++ turns 3 10 broken)).any fun final =>
            final.tasks.all (fun task => task.point?.isNone) && final.shared.sending.isEmpty && final.shared.sent.isEmpty &&
              decide (final.shared.tables.db.groupDeliveryStatus "m1" "bob" = some .sent)) = true := by
    decide +kernel
  obtain ⟨queued, reached, known⟩ := (Option.any_eq_true _ _).mp found
  obtain ⟨waiting, flushed⟩ := (Bool.and_eq_true _ _).mp known
  obtain ⟨final, completed, state⟩ := (Option.any_eq_true _ _).mp flushed
  simp only [Bool.and_eq_true, List.all_eq_true, Option.isNone_iff_eq_none, List.isEmpty_iff] at state
  obtain ⟨⟨⟨ended, closed⟩, nothing⟩, sent⟩ := state
  exact ⟨queued, final, reached, of_decide_eq_true waiting, completed, ended, closed, nothing, of_decide_eq_true sent⟩

end MeshTalk.Outbox
