import MeshTalk.Deliveries.Operations

namespace MeshTalk.Deliveries

open MeshTalk.Library MeshTalk.Protocol MeshTalk.Store MeshTalk.Files MeshTalk.Library.Contract

/-! # Proving a contract of the sending half

An operation reads the row of a file, writes statuses of its deliveries and ends
with none of them left to itself.  A proof about the operations supplies an
assertion for each of these phases and one fact for each action that writes a
status or takes a packet lock; everything else leaves the phases alone.
-/

/-- Where an operation is with a file: `recognised` in an acknowledgement,
`drafting` before the aggregate has been written, and the recipients whose
status it has still to replace. -/
inductive Phase where
  | idle
  | recognised (transfer : FileTransfer)
  | drafting (transfer : FileTransfer) (unfinished : List PeerId)
  | ready (transfer : FileTransfer) (unfinished : List PeerId)

/-- An action that only reads, or only keeps books that no status depends on. -/
structure Unmoved (before after : Sender) : Prop where
  transfers : after.db.fileTransfers = before.db.fileTransfers
  deliveries : after.db.fileDeliveries = before.db.fileDeliveries
  committed : after.committed = before.committed
  packetLocks : after.packetLocks = before.packetLocks
  windows : after.windows = before.windows
  recomputes : after.recomputes = before.recomputes

theorem Unmoved.refl {sender : Sender} : Unmoved sender sender := ⟨rfl, rfl, rfl, rfl, rfl, rfl⟩

def without (unfinished : List PeerId) (recipientId : PeerId) : List PeerId := unfinished.filter (· ≠ recipientId)

/-- The recipients whose status is still to be replaced after a write. -/
def settle (unfinished : List PeerId) (recipientId : PeerId) (status : FileStatus) : List PeerId :=
  if FileStatus.unfinished status then recipientId :: without unfinished recipientId else without unfinished recipientId

theorem without_settle {unfinished : List PeerId} {recipientId : PeerId} {status : FileStatus} :
    without (settle unfinished recipientId status) recipientId = without unfinished recipientId := by
  unfold settle without
  split <;> simp

/-- The assertions of the phases; `some peerId` is the peer whose packet lock the
operation holds. -/
structure Phases (contract : Contract Sender SendFate SendPoint) (task : Nat) where
  holds : Option PeerId → Phase → Sender → Prop
  stable : ∀ lock phase, contract.Stable task (holds lock phase)
  unmoved : ∀ point fate before after, contract.invariant before → Unmoved before after →
    contract.Step task point fate before after
  keeps : ∀ lock phase before after, Unmoved before after → holds lock phase before → holds lock phase after
  commits : ∀ lock phase fate before, contract.invariant before → holds lock phase before →
    contract.Step task (.commit task) fate before (before.commit task) ∧ holds lock phase (before.commit task)

/-- What the actions of an operation make of its phases. -/
structure Rules {crypto : FileCrypto} (identity : Identity crypto) (contract : Contract Sender SendFate SendPoint)
    (task : Nat) extends Phases contract task where
  finds : ∀ fileId transfer before, holds none .idle before → before.db.getFileTransfer fileId = some transfer →
    holds none (.ready transfer []) before
  recognises : ∀ peerId fileId transfer before, holds (some peerId) .idle before →
    before.db.getFileTransfer fileId = some transfer → holds (some peerId) (.recognised transfer) before
  forgets : ∀ peerId transfer before, holds (some peerId) (.recognised transfer) before →
    holds (some peerId) .idle before
  acceptsDirect : ∀ peerId fileId transfer before, holds (some peerId) .idle before →
    before.db.getFileTransfer fileId = some transfer → transfer.direction = .outbound → transfer.group? = none →
    transfer.recipientId = peerId → transfer.status ≠ .completed → holds (some peerId) (.ready transfer []) before
  acceptsGroup : ∀ peerId groupId transfer delivery before, holds (some peerId) (.recognised transfer) before →
    transfer.direction = .outbound → transfer.group? = some groupId →
    before.db.getFileDelivery transfer.fileId peerId = some delivery → delivery.status ≠ .completed →
    holds (some peerId) (.ready transfer []) before
  releases : ∀ lock transfer before, holds lock (.ready transfer []) before → holds lock .idle before
  drafts : ∀ lock transfer unfinished before, holds lock (.ready transfer unfinished) before →
    holds lock (.drafting transfer unfinished) before
  rereads : ∀ lock transfer unfinished before, holds lock (.drafting transfer unfinished) before →
    ∃ row, before.db.getFileTransfer transfer.fileId = some row ∧ holds lock (.drafting row unfinished) before ∧
      row.SameRoute transfer
  reroutes : ∀ lock transfer other unfinished before, other.SameRoute transfer →
    holds lock (.ready other unfinished) before → holds lock (.ready transfer unfinished) before
  delivers : ∀ lock transfer unfinished recipientId status (failure : SendError → Sender → Prop), status ≠ .completed →
    contract.Triple task (holds lock (.drafting transfer unfinished)) (setDelivery task transfer recipientId status)
      (fun _ => holds lock (.ready transfer (settle unfinished (addressee transfer recipientId) status))) failure
  completes : ∀ peerId transfer (failure : SendError → Sender → Prop), addressee transfer peerId = peerId →
    contract.Triple task (holds (some peerId) (.ready transfer [])) (setDelivery task transfer peerId .completed)
      (fun _ => holds (some peerId) .idle) failure
  recomputes : ∀ lock transfer unfinished (failure : SendError → Sender → Prop),
    contract.Triple task (holds lock (.drafting transfer unfinished)) (recomputeAggregate task transfer.fileId)
      (fun _ => holds lock (.ready transfer unfinished)) failure
  saves : ∀ transfer (failure : SendError → Sender → Prop), transfer.status = .pending → transfer.direction = .outbound →
    contract.Triple task (holds none .idle) (store task (.save transfer))
      (fun _ => holds none (.drafting transfer (directRecipient transfer).toList)) failure
  marks : ∀ transfer unfinished recipientId status (failure : SendError → Sender → Prop), transfer.group? ≠ none →
    status ≠ .completed → contract.Triple task (holds none (.drafting transfer unfinished))
      (store task (.setDelivery transfer.fileId recipientId status))
      (fun _ => holds none (.drafting transfer (settle unfinished recipientId status))) failure
  widens : ∀ lock transfer unfinished wider before, unfinished ⊆ wider →
    holds lock (.drafting transfer unfinished) before → holds lock (.drafting transfer wider) before
  passesOver : ∀ transfer unfinished recipientId (failure : SendError → Sender → Prop), transfer.group? ≠ none →
    contract.Triple task (holds none (.drafting transfer unfinished)) (passOver task transfer recipientId)
      (fun _ => holds none (.drafting transfer (without unfinished recipientId))) failure
  sees : ∀ lock transfer unfinished recipientId (failure : SendError → Sender → Prop),
    contract.Triple task (holds lock (.ready transfer unfinished)) (checkCompleted task transfer recipientId)
      (fun seen => holds lock (.ready transfer
        (if seen then without unfinished (addressee transfer recipientId) else unfinished))) failure
  sets : ∀ lock transfer status (failure : SendError → Sender → Prop), status ∈ [FileStatus.failed, .blocked, .unavailable] →
    contract.Triple task (holds lock (.ready transfer []))
      (store task (.setStatus transfer.fileId (directRecipient transfer) status))
      (fun _ => holds lock (.ready transfer [])) failure
  raises : ∀ lock transfer unfinished recipientId fate before, contract.admits (.prepareOffer transfer recipientId) fate before →
    (offerFor identity transfer recipientId).valid = false → holds lock (.drafting transfer unfinished) before →
    holds lock .idle before
  locks : ∀ peerId fate before, contract.invariant before → holds none .idle before →
    before.packetLocks.contains peerId = false →
    let after := { before with packetLocks := before.packetLocks.set peerId task }
    contract.Step task (.lockPeer task peerId) fate before after ∧ holds (some peerId) .idle after
  unlocks : ∀ peerId fate before, contract.invariant before → holds (some peerId) .idle before →
    let after := { before with packetLocks := before.packetLocks.erase peerId }
    contract.Step task (.unlockPeer task peerId) fate before after ∧ holds none .idle after

section Reading

variable {crypto : FileCrypto} {identity : Identity crypto} {dumps : Json → Bytes}
  {encryptForRecipient : Bytes → Bytes → Json → Bytes} {transfer : FileTransfer} {recipientId : PeerId}
  {peer : RecipientPeer} {point : SendPoint}

/-! ## Programs that write no status -/

theorem query_unmoved {read : Sender → α} : (query read).Steady Unmoved :=
  Task.Steady.perform (fun _ _ => .refl) fun _ sender => ⟨read sender, rfl⟩

theorem queryAt_unmoved {read : SendFate → Sender → α} : (queryAt read).Steady Unmoved :=
  Task.Steady.perform (fun _ _ => .refl) fun fate sender => ⟨read fate sender, rfl⟩

theorem change_unmoved {update : SendFate → Sender → Sender} (unmoved : ∀ fate sender, Unmoved sender (update fate sender)) :
    (Task.perform point fun fate => (Handler.change (update fate) : Action Unit)).Steady Unmoved :=
  Task.Steady.perform unmoved fun _ _ => ⟨(), rfl⟩

theorem handler_unmoved {handler : SendFate → Action α}
    (keeps : ∀ fate sender, (handler fate).Keeps (Unmoved sender)) : (Task.perform point handler).Within Unmoved :=
  Task.Within.perform fun fate sender => (keeps fate sender).finish .refl

theorem forgetAwaiting_unmoved {fileId : String} : (forgetAwaiting fileId recipientId).Steady Unmoved :=
  change_unmoved fun _ _ => ⟨rfl, rfl, rfl, rfl, rfl, rfl⟩

theorem supportsV2_unmoved : (supportsV2 recipientId).Steady Unmoved := by
  refine Task.Steady.bind query_unmoved fun connected => ?_
  cases connected with
  | none => exact query_unmoved
  | some peer => exact .pure

theorem groupRecipientEligible_unmoved {groupId : String} : (groupRecipientEligible groupId recipientId).Steady Unmoved :=
  Task.Steady.bind query_unmoved fun _ => Task.Steady.ite
    (Task.Steady.bind query_unmoved fun _ => Task.Steady.ite .pure supportsV2_unmoved) .pure

theorem activeGroupSender_unmoved {groupId : String} : (activeGroupSender identity groupId).Steady Unmoved :=
  Task.Steady.bind (Task.Steady.bind query_unmoved fun _ => Task.Steady.ite .pure query_unmoved) fun _ =>
    Task.Steady.bind query_unmoved fun _ => .pure

theorem mayDeliver_unmoved : (mayDeliver identity transfer recipientId).Steady Unmoved := by
  unfold mayDeliver
  cases transfer.group? with
  | none => exact Task.Steady.bind query_unmoved fun _ => Task.Steady.ite .pure query_unmoved
  | some groupId =>
      exact Task.Steady.bind activeGroupSender_unmoved fun _ => Task.Steady.ite groupRecipientEligible_unmoved .pure

theorem stillAuthorized_unmoved : (stillAuthorized identity transfer recipientId).Steady Unmoved := by
  refine Task.Steady.bind query_unmoved fun _ => Task.Steady.ite .pure ?_
  cases transfer.group? with
  | none => exact query_unmoved
  | some groupId =>
      exact Task.Steady.bind activeGroupSender_unmoved fun _ => Task.Steady.ite groupRecipientEligible_unmoved .pure

theorem authorizedInbound_unmoved {groupId : String} : (authorizedInbound identity peer groupId).Steady Unmoved :=
  Task.Steady.bind query_unmoved fun _ => Task.Steady.ite .pure <| Task.Steady.bind query_unmoved fun _ =>
    Task.Steady.bind query_unmoved fun _ => Task.Steady.ite (Task.Steady.bind query_unmoved fun _ => .pure) .pure

theorem attempt_unmoved {packetType : PacketType} {payload : Bytes} : (attempt peer packetType payload).Steady Unmoved := by
  refine Task.Steady.perform (fun fate sender => ?_) fun fate sender => ⟨!fate.sendFails, rfl⟩
  change Unmoved sender (if fate.sendFails = true then sender else { sender with sent := _ })
  split
  · exact .refl
  · exact ⟨rfl, rfl, rfl, rfl, rfl, rfl⟩

theorem anyEligible_unmoved {groupId : String} {recipients : List PeerId} :
    (anyEligible groupId recipients).Steady Unmoved := by
  induction recipients with
  | nil => exact .pure
  | cons recipientId rest ih =>
      exact Task.Steady.bind groupRecipientEligible_unmoved fun _ => Task.Steady.bind ih fun _ => .pure

theorem anySupports_unmoved {recipients : List PeerId} : (anySupports recipients).Steady Unmoved := by
  induction recipients with
  | nil => exact .pure
  | cons recipientId rest ih => exact Task.Steady.bind supportsV2_unmoved fun _ => Task.Steady.bind ih fun _ => .pure

theorem groupRecipientBlockedReason_unmoved {groupId : String} :
    (groupRecipientBlockedReason groupId recipientId).Steady Unmoved :=
  Task.Steady.bind query_unmoved fun _ => Task.Steady.ite (Task.Steady.bind query_unmoved fun _ => Task.Steady.ite .pure
    (Task.Steady.bind supportsV2_unmoved fun _ => Task.Steady.ite .pure .pure)) .pure

theorem reserveResend_unmoved {peerId : PeerId} {ranges : List (Nat × Nat)} :
    (reserveResend peerId transfer ranges).Steady Unmoved := by
  refine Task.Steady.perform (fun fate sender => ?_) fun fate sender => ?_
  all_goals
    simp only [Handler.bind_apply, Handler.change, Handler.read]
    split
  · exact ⟨rfl, rfl, rfl, rfl, rfl, rfl⟩
  · exact ⟨rfl, rfl, rfl, rfl, rfl, rfl⟩
  · exact ⟨false, rfl⟩
  · exact ⟨true, rfl⟩

theorem sealChunk_unmoved {content key : Bytes} {index : Nat} :
    (sealChunk identity dumps encryptForRecipient transfer recipientId content key index).Within Unmoved :=
  handler_unmoved fun _ _ => Handler.Keeps.bind .refuse fun _ => Handler.Keeps.bind .refuse fun _ => .pure

theorem openSource_unmoved : (openSource transfer).Within Unmoved :=
  handler_unmoved fun _ _ => Handler.Keeps.read fun _ _ => Handler.Keeps.bind .refuse fun _ =>
    Handler.Keeps.bind .orRaise fun _ => .pure

theorem takeSnapshot_unmoved {source : Path} {caption : String} : (takeSnapshot source caption).Within Unmoved := by
  refine handler_unmoved fun fate sender => ?_
  refine Handler.Keeps.read fun _ _ => Handler.Keeps.bind .orRaise fun file => Handler.Keeps.bind .refuse fun _ => ?_
  refine Handler.Keeps.bind .refuse fun _ => Handler.Keeps.bind .refuse fun _ => Handler.Keeps.bind .refuse fun _ => ?_
  refine Handler.Keeps.bind (.change fun before moved => ?_) fun _ => .pure
  exact ⟨moved.transfers, moved.deliveries, moved.committed, moved.packetLocks, moved.windows, moved.recomputes⟩

end Reading

namespace Phases

variable {contract : Contract Sender SendFate SendPoint} {task : Nat} (phases : Phases contract task)
  {lock : Option PeerId} {phase raised : Phase} {recipientId : PeerId}

/-- The program leads from a phase to those of its results. -/
abbrev Leads (lock : Option PeerId) (before : Phase) (program : Program α) (after : α → Phase) (raised : Phase) : Prop :=
  contract.Triple task (phases.holds lock before) program (fun value => phases.holds lock (after value))
    fun _ => phases.holds lock raised

theorem steady {program : Program α} {R : SendError → Sender → Prop} (unmoved : program.Steady Unmoved) :
    contract.Triple task (phases.holds lock phase) program (fun _ => phases.holds lock phase) R :=
  Triple.ofSteady unmoved (phases.stable lock phase) phases.unmoved (phases.keeps lock phase)

theorem within {program : Program α} (unmoved : program.Within Unmoved) :
    phases.Leads lock phase program (fun _ => phase) phase :=
  Triple.ofWithin unmoved (phases.stable lock phase) phases.unmoved (phases.keeps lock phase)

theorem commit {R : SendError → Sender → Prop} :
    contract.Triple task (phases.holds lock phase)
      (Task.perform (.commit task) fun _ => Handler.change fun sender => sender.commit task : Program Unit)
      (fun _ => phases.holds lock phase) R :=
  Triple.perform (phases.stable lock phase) fun fate before invariant held _ =>
    phases.commits lock phase fate before invariant held

/-- A statement about the queue. -/
theorem storesAside {statement : SendStatement}
    (aside : ∀ sender now, Unmoved sender (sender.execute task statement now)) :
    phases.Leads lock phase (store task statement) (fun _ => phase) raised :=
  Triple.bind (phases.steady (change_unmoved fun fate sender => aside sender fate.now)) fun _ => phases.commit

theorem queues {packetType : PacketType} {payload : Bytes} {fileId : String} {groupId : Option String} :
    phases.Leads lock phase (store task (.queue recipientId packetType payload fileId groupId)) (fun _ => phase) raised :=
  phases.storesAside fun _ _ => ⟨rfl, rfl, rfl, rfl, rfl, rfl⟩

theorem removesFile {fileId : String} :
    phases.Leads lock phase (store task (.removeFile fileId recipientId)) (fun _ => phase) raised :=
  phases.storesAside fun _ _ => ⟨rfl, rfl, rfl, rfl, rfl, rfl⟩

theorem removesItem {item : OutgoingRow} : phases.Leads lock phase (removeItem task item) (fun _ => phase) raised :=
  phases.storesAside fun _ _ => ⟨rfl, rfl, rfl, rfl, rfl, rfl⟩

/-- A statement that leads from one phase to another. -/
theorem stores (lock : Option PeerId) (phase next : Phase) {statement : SendStatement} {R : SendError → Sender → Prop}
    (acts : ∀ fate before, contract.invariant before → phases.holds lock phase before →
      contract.admits (.execute task statement) fate before →
      contract.Step task (.execute task statement) fate before (before.execute task statement fate.now) ∧
        phases.holds lock next (before.execute task statement fate.now)) :
    contract.Triple task (phases.holds lock phase) (store task statement) (fun _ => phases.holds lock next) R :=
  Triple.bind (Q := fun _ => phases.holds lock next) (Triple.perform (phases.stable lock phase) acts) fun _ =>
    phases.commit

/-- `_set_delivery`: a group transfer has its aggregate computed anew. -/
theorem setsDelivery (lock : Option PeerId) (phase written next : Phase) {transfer : FileTransfer} {status : FileStatus}
    {R : SendError → Sender → Prop}
    (group : transfer.group? ≠ none → contract.Triple task (phases.holds lock phase)
      (store task (.setDelivery transfer.fileId recipientId status)) (fun _ => phases.holds lock written) R)
    (recomputes : transfer.group? ≠ none → contract.Triple task (phases.holds lock written)
      (recomputeAggregate task transfer.fileId) (fun _ => phases.holds lock next) R)
    (direct : transfer.group? = none → contract.Triple task (phases.holds lock phase)
      (store task (.setDirect transfer.fileId transfer.recipientId status)) (fun _ => phases.holds lock next) R) :
    contract.Triple task (phases.holds lock phase) (setDelivery task transfer recipientId status)
      (fun _ => phases.holds lock next) R := by
  refine Triple.bind (Q := fun _ => phases.holds lock phase) ?_ fun _ => ?_
  · exact Triple.ite (fun _ => phases.steady forgetAwaiting_unmoved) fun _ => Triple.pure fun _ => id
  · cases known : transfer.group? with
    | none => exact direct known
    | some groupId =>
        have some' : transfer.group? ≠ none := by rw [known]; exact fun impossible => nomatch impossible
        exact Triple.bind (group some') fun _ => recomputes some'

end Phases

namespace Rules

variable {crypto : FileCrypto} {identity : Identity crypto} {contract : Contract Sender SendFate SendPoint} {task : Nat}
  (rules : Rules identity contract task) {dumps : Json → Bytes} {encryptForRecipient : Bytes → Bytes → Json → Bytes}
  {lock : Option PeerId} {phase raised : Phase} {transfer : FileTransfer} {unfinished : List PeerId}
  {recipientId : PeerId} {peer : RecipientPeer}

include rules

/-! ## Streams -/

/-- A status that no running operation has to replace. -/
theorem finishes {status : FileStatus} (finished : FileStatus.unfinished status = false) (other : status ≠ .completed) :
    rules.Leads lock (.drafting transfer unfinished) (setDelivery task transfer recipientId status)
      (fun _ => .ready transfer (without unfinished (addressee transfer recipientId))) raised := by
  have delivered := rules.delivers lock transfer unfinished recipientId status (fun _ => rules.holds lock raised) other
  rw [settle, finished] at delivered
  exact delivered

theorem finishesReady {status : FileStatus} (finished : FileStatus.unfinished status = false)
    (other : status ≠ .completed) :
    rules.Leads lock (.ready transfer unfinished) (setDelivery task transfer recipientId status)
      (fun _ => .ready transfer (without unfinished (addressee transfer recipientId))) raised :=
  (rules.finishes finished other).weaken (rules.drafts lock transfer unfinished) (fun _ _ => id) fun _ _ => id

theorem fails : rules.Leads lock (.drafting transfer unfinished) (fail task transfer recipientId)
    (fun _ => .ready transfer (without unfinished (addressee transfer recipientId))) raised :=
  Triple.bind (rules.finishes rfl (fun same => nomatch same)) fun _ => Triple.pure fun _ => id

theorem queueRanges {key : Bytes} {indices : List Nat} :
    rules.Leads lock (.drafting transfer unfinished)
      (queueRanges identity dumps encryptForRecipient task transfer recipientId key indices)
      (fun queued => if queued then .drafting transfer unfinished
        else .ready transfer (without unfinished (addressee transfer recipientId))) raised := by
  refine Triple.recover (E := fun _ => rules.holds lock (.drafting transfer unfinished)) ?_ fun _ => ?_
  · refine Triple.bind (rules.within openSource_unmoved) fun content => Triple.bind (Triple.forEach fun index _ => ?_) ?_
    · exact Triple.bind (rules.within sealChunk_unmoved) fun _ => rules.queues
    · exact fun _ => Triple.pure fun _ => id
  · exact Triple.bind (rules.finishes rfl (fun same => nomatch same)) fun _ => Triple.pure fun _ => id

theorem queueRemaining {key payload : Bytes} {rest : List Nat} :
    rules.Leads lock (.ready transfer unfinished)
      (queueRemaining identity dumps encryptForRecipient task transfer recipientId key payload rest)
      (fun all => .ready transfer (if all then unfinished else without unfinished (addressee transfer recipientId)))
      raised := by
  refine Triple.bind (Q := fun _ => rules.holds lock (.drafting transfer unfinished)) ?_ fun _ => ?_
  · exact rules.queues.weaken (rules.drafts lock transfer unfinished) (fun _ _ => id) fun _ _ => id
  · refine Triple.bind rules.queueRanges fun queued => ?_
    cases queued with
    | true => exact Triple.bind (rules.finishes rfl (fun same => nomatch same)) fun _ => Triple.pure fun _ => id
    | false => exact Triple.pure fun _ => id

/-- The chunks that are left, whatever has been sent of the stream. -/
theorem streamFrom {content key : Bytes} {sent : Nat} {indices : List Nat} :
    rules.Leads lock (.ready transfer unfinished)
      (streamFrom identity dumps encryptForRecipient task peer transfer recipientId content key sent indices)
      (fun all => .ready transfer (if all then unfinished else without unfinished (addressee transfer recipientId)))
      (.ready transfer unfinished) := by
  induction indices generalizing sent with
  | nil => exact Triple.pure fun _ => id
  | cons index rest ih =>
      refine Triple.bind (rules.within sealChunk_unmoved) fun payload => ?_
      refine Triple.bind (rules.steady attempt_unmoved) fun went => Triple.ite (fun _ => ?_) fun _ => ?_
      · refine Triple.ite (fun _ => ih) fun _ => ?_
        refine Triple.bind (rules.steady stillAuthorized_unmoved) fun authorized => Triple.ite (fun _ => ih) fun _ => ?_
        exact Triple.bind (rules.finishesReady rfl (fun same => nomatch same)) fun _ => Triple.pure fun _ => id
      · exact rules.queueRemaining

theorem marksSent : rules.Leads lock (.ready transfer unfinished) (markSentUnlessCompleted task transfer recipientId)
    (fun _ => .ready transfer (without unfinished (addressee transfer recipientId))) raised := by
  refine Triple.bind (Q := fun _ => rules.holds lock (.ready transfer unfinished)) ?_ fun _ => ?_
  · exact Triple.ite (fun _ => Triple.bind (rules.steady query_unmoved) fun _ => Triple.pure fun _ => id) fun _ =>
      Triple.pure fun _ => id
  refine Triple.bind (rules.sees lock transfer unfinished recipientId _) fun seen => ?_
  cases seen with
  | true => exact Triple.pure fun _ => id
  | false =>
      refine Triple.bind (rules.steady (change_unmoved fun _ _ => ⟨rfl, rfl, rfl, rfl, rfl, rfl⟩)) fun _ => ?_
      exact rules.finishesReady rfl (fun same => nomatch same)

theorem streamOpened {key : Bytes} {indices : List Nat} :
    rules.Leads lock (.ready transfer unfinished)
      (streamOpened identity dumps encryptForRecipient task peer transfer recipientId key indices)
      (fun _ => .ready transfer (without unfinished (addressee transfer recipientId))) (.ready transfer unfinished) := by
  refine Triple.bind (rules.within openSource_unmoved) fun content => Triple.bind rules.streamFrom fun all => ?_
  cases all with
  | true => exact Triple.bind rules.marksSent fun _ => Triple.pure fun _ => id
  | false => exact Triple.pure fun _ => id

theorem streamRanges {indices : List Nat} :
    rules.Leads lock (.ready transfer unfinished)
      (streamRanges identity dumps encryptForRecipient task peer transfer recipientId indices)
      (fun _ => .ready transfer (without unfinished (addressee transfer recipientId))) raised := by
  have failing : rules.Leads lock (.ready transfer unfinished) (fail task transfer recipientId)
      (fun _ => .ready transfer (without unfinished (addressee transfer recipientId))) raised :=
    rules.fails.weaken (rules.drafts lock transfer unfinished) (fun _ _ => id) fun _ _ => id
  refine Triple.bind (rules.steady query_unmoved) fun present => ?_
  cases peer.encryptionPublicKey.filter (· ≠ []) with
  | none => exact failing
  | some key => exact Triple.ite (fun _ => Triple.recover rules.streamOpened fun _ => failing) fun _ => failing

/-! ## One delivery -/

theorem queueDelivery {key offer : Bytes} :
    rules.Leads lock (.drafting transfer unfinished)
      (queueDelivery identity dumps encryptForRecipient task transfer recipientId key offer)
      (fun _ => .ready transfer (without unfinished (addressee transfer recipientId))) raised := by
  refine Triple.bind rules.queues fun _ => Triple.bind rules.queueRanges fun queued => ?_
  cases queued with
  | true => exact Triple.bind (rules.finishes rfl (fun same => nomatch same)) fun _ => Triple.pure fun _ => id
  | false => exact Triple.pure fun _ => id

theorem sendDelivery {key offer : Bytes} :
    rules.Leads lock (.drafting transfer unfinished)
      (sendDelivery identity dumps encryptForRecipient task transfer recipientId peer key offer)
      (fun _ => .ready transfer (without unfinished (addressee transfer recipientId))) raised := by
  refine Triple.bind (rules.delivers lock transfer unfinished recipientId .transferring _ (fun same => nomatch same))
    fun _ => Triple.bind (rules.steady attempt_unmoved) fun went => ?_
  rw [← @without_settle unfinished _ .transferring]
  cases went with
  | true =>
      refine Triple.bind rules.streamRanges fun streamed => Triple.ite (fun _ => Triple.pure fun _ => id) fun _ => ?_
      exact rules.steady query_unmoved
  | false => exact rules.queueDelivery.weaken (rules.drafts lock transfer _) (fun _ _ => id) fun _ _ => id

theorem unavailable : rules.Leads lock (.drafting transfer unfinished) (unavailable task transfer recipientId)
    (fun _ => .ready transfer (without unfinished (addressee transfer recipientId))) raised :=
  Triple.bind (rules.finishes rfl (fun same => nomatch same)) fun _ => Triple.pure fun _ => id

theorem preparesOffer :
    rules.Leads lock (.drafting transfer unfinished) (prepareOffer identity dumps transfer recipientId)
      (fun _ => .drafting transfer unfinished) .idle := by
  refine Triple.perform (rules.stable lock _) fun fate before invariant held admitted => ?_
  by_cases valid : (offerFor identity transfer recipientId).valid = false
  · simp only [Handler.bind_apply, Handler.refuse, if_pos valid, Handler.raise]
    exact ⟨rules.unmoved _ _ _ _ invariant .refl, rules.raises lock transfer unfinished recipientId fate before admitted
      valid held⟩
  · simp only [Handler.bind_apply, Handler.refuse, if_neg valid, Handler.pure_apply]
    exact ⟨rules.unmoved _ _ _ _ invariant .refl, held⟩

/-- A delivery leaves the status of its recipient replaced. -/
theorem deliverV2 : rules.Leads lock (.drafting transfer unfinished)
    (deliverV2 identity dumps encryptForRecipient task transfer recipientId)
    (fun _ => .ready transfer (without unfinished (addressee transfer recipientId))) .idle := by
  refine Triple.bind (rules.steady mayDeliver_unmoved) fun _ => Triple.ite (fun _ => ?_) fun _ => rules.unavailable
  refine Triple.bind (rules.steady supportsV2_unmoved) fun _ => Triple.ite (fun _ => ?_) fun _ => rules.unavailable
  refine Triple.bind (rules.steady query_unmoved) fun peer => Triple.bind (rules.steady query_unmoved) fun stored => ?_
  unfold deliverTo
  cases deliveryKey peer stored with
  | none => exact rules.unavailable
  | some key =>
      refine Triple.bind rules.preparesOffer fun offer => ?_
      cases peer with
      | none => exact rules.queueDelivery
      | some connected => exact rules.sendDelivery

theorem withFlushLock {fileId : String} {body : Program α} {after : α → Phase}
    (inside : rules.Leads lock phase body after raised) :
    rules.Leads lock phase (withFlushLock task fileId recipientId body) after raised := by
  have unlocking : ∀ phase, rules.Leads lock phase (Task.perform (.unlockDelivery task fileId recipientId) fun _ =>
      Handler.change fun sender => { sender with flushLocks := sender.flushLocks.erase (fileId, recipientId) })
      (fun _ => phase) raised := fun phase => rules.steady (change_unmoved fun _ _ => ⟨rfl, rfl, rfl, rfl, rfl, rfl⟩)
  refine Triple.bind (Q := fun _ => rules.holds lock phase)
    (Triple.acquire (rules.stable lock phase) fun fate before invariant held _ _ => ?_) fun _ => ?_
  · have moved : Unmoved before { before with flushLocks := before.flushLocks.set (fileId, recipientId) task } :=
      ⟨rfl, rfl, rfl, rfl, rfl, rfl⟩
    exact ⟨rules.unmoved _ _ _ _ invariant moved, rules.keeps lock phase _ _ moved held⟩
  · exact Triple.ensuring inside (fun value => unlocking _) fun error => unlocking _

/-! ## New files -/

theorem deliverStored : rules.Leads lock (.drafting transfer unfinished)
    (deliverStored identity dumps encryptForRecipient task transfer.fileId recipientId)
    (fun _ => .ready transfer (without unfinished (addressee transfer recipientId))) .idle := by
  refine rules.withFlushLock (Triple.bind (Q := fun found state => ∃ row, found = some row ∧
    rules.holds lock (.drafting row unfinished) state ∧ row.SameRoute transfer) ?_ fun found => ?_)
  · refine Triple.perform (rules.stable lock _) fun fate before invariant held _ => ?_
    obtain ⟨row, found, drafting, route⟩ := rules.rereads lock transfer unfinished before held
    exact ⟨rules.unmoved _ _ _ _ invariant .refl, row, found, drafting, route⟩
  · intro state read
    obtain ⟨row, rfl, drafting, route⟩ := read
    have same : addressee row recipientId = addressee transfer recipientId := by
      unfold addressee
      rw [route.group?, route.recipientId]
    refine (rules.deliverV2 state drafting).weaken (fun _ after ready => ?_) fun _ _ => id
    exact same ▸ rules.reroutes lock transfer row _ after route ready

theorem deliverOne : rules.Leads none (.drafting transfer unfinished)
    (deliverOne identity dumps encryptForRecipient task transfer recipientId)
    (fun _ => .drafting transfer (without unfinished (addressee transfer recipientId))) .idle := by
  have stored : rules.Leads none (.drafting transfer unfinished)
      (Deliveries.deliverStored identity dumps encryptForRecipient task transfer.fileId recipientId)
      (fun _ => .drafting transfer (without unfinished (addressee transfer recipientId))) .idle :=
    rules.deliverStored.weaken (fun _ => id) (fun _ => rules.drafts none transfer _) fun _ _ => id
  unfold Deliveries.deliverOne
  cases group : transfer.group? with
  | none => exact stored
  | some groupId =>
      refine Triple.bind (rules.steady groupRecipientEligible_unmoved) fun _ => Triple.ite (fun _ => stored) fun _ => ?_
      have passed := rules.passesOver transfer unfinished recipientId (fun _ => rules.holds none .idle)
        (by rw [group]; exact fun same => nomatch same)
      have same : addressee transfer recipientId = recipientId := by unfold addressee; rw [group]
      rw [same]
      exact passed

theorem deliverEach {recipients : List PeerId} : rules.Leads none (.drafting transfer unfinished)
    (deliverEach identity dumps encryptForRecipient task transfer recipients)
    (fun _ => .drafting transfer (recipients.foldl (fun left recipientId => without left (addressee transfer recipientId))
      unfinished)) .idle := by
  induction recipients generalizing unfinished with
  | nil => exact Triple.pure fun _ => id
  | cons recipientId rest ih =>
      exact Triple.bind rules.deliverOne fun _ => Triple.bind ih fun _ => Triple.pure fun _ => id

theorem markRecipients {recipients : List PeerId} :
    rules.Leads none (.drafting transfer (directRecipient transfer).toList) (markRecipients task transfer recipients)
      (fun _ => .drafting transfer (if transfer.group? = none then [transfer.recipientId] else recipients)) raised := by
  unfold Deliveries.markRecipients directRecipient
  cases group : transfer.group? with
  | none => exact Triple.pure fun _ => id
  | some groupId =>
      have some : transfer.group? ≠ none := by rw [group]; exact fun same => nomatch same
      refine Triple.weaken (P := rules.holds none (.drafting transfer recipients)) (Triple.forEach fun recipientId among => ?_)
        (fun state => rules.widens none transfer _ _ state (List.nil_subset _)) (fun _ _ => id) fun _ _ => id
      refine Triple.bind (rules.steady groupRecipientEligible_unmoved) fun eligible => ?_
      have within : ∀ status, settle recipients recipientId status ⊆ recipients := by
        intro status peerId member
        unfold settle without at member
        split at member
        · rcases List.mem_cons.mp member with rfl | other
          · exact among
          · exact (List.mem_filter.mp other).1
        · exact (List.mem_filter.mp member).1
      refine (rules.marks transfer recipients recipientId _ _ some ?_).weaken (fun _ => id)
        (fun _ state => rules.widens none transfer _ _ state (within _)) fun _ _ => id
      split <;> exact fun same => nomatch same

omit rules in
theorem mem_left {recipients : List PeerId} {peerId : PeerId} :
    peerId ∈ recipients.foldl (fun left recipientId => without left (addressee transfer recipientId)) unfinished ↔
      peerId ∈ unfinished ∧ ∀ recipientId ∈ recipients, peerId ≠ addressee transfer recipientId := by
  induction recipients generalizing unfinished with
  | nil => simp
  | cons recipientId rest ih =>
      rw [List.foldl_cons, ih, without, List.mem_filter, and_assoc, List.forall_mem_cons, decide_eq_true_eq]

omit rules in
/-- Every recipient of a new file is dealt with. -/
theorem none_left {recipients : List PeerId} (direct : transfer.group? = none → recipients ≠ []) :
    recipients.foldl (fun left recipientId => without left (addressee transfer recipientId))
      (if transfer.group? = none then [transfer.recipientId] else recipients) = [] := by
  refine List.eq_nil_iff_forall_not_mem.mpr fun peerId member => ?_
  obtain ⟨among, apart⟩ := mem_left.mp member
  cases group : transfer.group? with
  | none =>
      obtain ⟨recipientId, first⟩ := List.exists_mem_of_ne_nil recipients (direct group)
      rw [if_pos group] at among
      refine apart recipientId first ((List.mem_singleton.mp among).trans ?_)
      unfold addressee
      rw [group]
  | some groupId =>
      rw [if_neg (by rw [group]; exact fun same => nomatch same)] at among
      refine apart peerId among ?_
      unfold addressee
      rw [group]

theorem sendSnapshot {recipients : List PeerId} (pending : transfer.status = .pending)
    (outbound : transfer.direction = .outbound) (direct : transfer.group? = none → recipients ≠ []) :
    rules.Leads none .idle (sendSnapshot identity dumps encryptForRecipient task transfer recipients) (fun _ => .idle)
      .idle := by
  have ended : ∀ state, rules.holds none (.ready transfer []) state → rules.holds none .idle state :=
    fun state => rules.releases none transfer state
  refine Triple.bind (rules.saves transfer _ pending outbound) fun _ => Triple.bind rules.markRecipients fun _ => ?_
  refine Triple.bind rules.deliverEach fun delivered => ?_
  rw [none_left direct]
  refine Triple.bind (rules.recomputes none transfer [] _) fun _ => Triple.ite (fun _ => ?_) fun _ => ?_
  · exact Triple.pure ended
  · exact Triple.failed ended

theorem createSend {source : Path} {caption : String} {groupId : Option String} {recipients : List PeerId}
    {batch : Option Batch} :
    rules.Leads none .idle (createSend identity dumps encryptForRecipient task source caption groupId recipients batch)
      (fun _ => .idle) .idle := by
  refine Triple.bind (rules.steady query_unmoved) fun _ => Triple.ite (fun _ => Triple.failed fun _ => id) fun _ => ?_
  refine Triple.bind (Q := fun reason state => rules.holds none .idle state ∧
    (reason = none → groupId.filter (· ≠ "") = none → recipients ≠ [])) ?_ fun reason => ?_
  · unfold noRecipient
    cases groupId.filter (· ≠ "") with
    | some group =>
        refine Triple.weaken (P := rules.holds none .idle) (rules.within ?_) (fun _ => id)
          (fun _ _ held => ⟨held, fun _ impossible => nomatch impossible⟩) fun _ _ => id
        exact Task.Within.ite .pure (Task.Within.bind anyEligible_unmoved.within fun _ => Task.Within.ite .pure .pure)
    | none =>
        cases recipients with
        | nil => exact Triple.failed fun _ => id
        | cons first rest =>
            refine Triple.weaken (P := rules.holds none .idle) (rules.within ?_) (fun _ => id)
              (fun _ _ held => ⟨held, fun _ _ impossible => nomatch impossible⟩) fun _ _ => id
            exact Task.Within.bind supportsV2_unmoved.within fun _ => Task.Within.ite .pure .pure
  · cases reason with
    | some reason => exact Triple.failed fun _ held => held.1
    | none =>
        intro state held
        refine Triple.bind (rules.within takeSnapshot_unmoved) (fun snapshot => ?_) state held.1
        exact rules.sendSnapshot rfl rfl (held.2 rfl)

theorem sendTo {target : Target} {source : Path} {caption : String} {batch : Option Batch} :
    rules.Leads none .idle (sendTo identity dumps encryptForRecipient task target source caption batch) (fun _ => .idle)
      .idle := by
  cases target with
  | direct recipientId =>
      refine Triple.bind (rules.steady query_unmoved) fun _ => Triple.ite (fun _ => Triple.failed fun _ => id) fun _ => ?_
      exact Triple.bind (rules.steady query_unmoved) fun _ => Triple.ite (fun _ => rules.createSend) fun _ =>
        Triple.failed fun _ => id
  | group groupId =>
      refine Triple.bind (rules.steady activeGroupSender_unmoved) fun _ => Triple.ite (fun _ => ?_) fun _ =>
        Triple.failed fun _ => id
      exact Triple.bind (rules.steady query_unmoved) fun _ => rules.createSend

theorem sendBatch {target : Target} {entries : List (Path × Option String)} {caption : String} :
    rules.Leads none .idle (sendBatch identity dumps encryptForRecipient task target entries caption) (fun _ => .idle)
      .idle := by
  refine Triple.ite (fun _ => Triple.failed fun _ => id) fun _ => Triple.bind (rules.steady queryAt_unmoved) fun id => ?_
  refine Triple.forEach fun entry _ => Triple.recover (E := fun _ => rules.holds none .idle) ?_ fun _ =>
    Triple.pure fun _ held => held
  exact Triple.bind rules.sendTo fun _ => Triple.pure fun _ held => held

/-! ## Retries -/

theorem released : ∀ state, rules.holds lock (.ready transfer []) state → rules.holds lock .idle state :=
  rules.releases lock transfer

/-- A status that a handler without further deliveries in hand writes. -/
theorem writes {status : FileStatus} (finished : FileStatus.unfinished status = false) (other : status ≠ .completed) :
    rules.Leads lock (.ready transfer []) (setDelivery task transfer recipientId status) (fun _ => .ready transfer [])
      raised :=
  rules.finishesReady finished other

/-- As `writes`, in an operation that has nothing more to do with the file. -/
theorem concludes {status : FileStatus} (finished : FileStatus.unfinished status = false) (other : status ≠ .completed) :
    rules.Leads lock (.ready transfer []) (setDelivery task transfer recipientId status) (fun _ => .idle) raised :=
  (rules.writes finished other).weaken (fun _ => id) (fun _ => rules.released) fun _ _ => id

theorem redeliver {only : Bool} : rules.Leads lock (.ready transfer [])
    (redeliver identity dumps encryptForRecipient task transfer only recipientId) (fun _ => .ready transfer []) .idle := by
  refine Triple.bind (Q := fun _ => rules.holds lock (.ready transfer [])) ?_ fun _ => ?_
  · exact rules.deliverV2.weaken (rules.drafts lock transfer []) (fun _ _ => id) fun _ _ => id
  · exact Triple.ite (fun _ => Triple.pure fun _ => id) fun _ => Triple.ite (fun _ => Triple.failed rules.released)
      fun _ => Triple.pure fun _ => id

theorem retryTarget {only : Bool} : rules.Leads lock (.ready transfer [])
    (retryTarget identity dumps encryptForRecipient task transfer only recipientId) (fun _ => .ready transfer []) .idle := by
  refine rules.withFlushLock (Triple.bind rules.removesFile fun _ => ?_)
  cases transfer.group? with
  | none => exact rules.redeliver
  | some groupId =>
      refine Triple.bind (rules.steady groupRecipientEligible_unmoved) fun _ => Triple.ite (fun _ => rules.redeliver)
        fun _ => Triple.bind (rules.writes rfl (fun same => nomatch same)) fun _ => Triple.ite (fun _ => ?_) fun _ =>
          Triple.pure fun _ => id
      exact Triple.bind (rules.steady groupRecipientBlockedReason_unmoved) fun _ => Triple.failed rules.released

theorem retryTargets {only : Bool} {targets : List PeerId} : rules.Leads lock (.ready transfer [])
    (retryTargets identity dumps encryptForRecipient task transfer only targets) (fun _ => .ready transfer []) .idle := by
  induction targets with
  | nil => exact Triple.pure fun _ => id
  | cons recipientId rest ih =>
      exact Triple.bind rules.retryTarget fun _ => Triple.bind ih fun _ => Triple.pure fun _ => id

theorem retrySource {only : Bool} {targets : List PeerId} : rules.Leads lock (.ready transfer [])
    (retrySource identity dumps encryptForRecipient task transfer only targets) (fun _ => .idle) .idle := by
  refine Triple.bind (rules.steady query_unmoved) fun _ => Triple.ite (fun _ => ?_) fun _ => ?_
  · exact Triple.bind rules.retryTargets fun _ => Triple.ite (fun _ => Triple.pure rules.released) fun _ =>
      Triple.failed rules.released
  · exact Triple.bind (rules.sets lock transfer .failed _ (by decide)) fun _ => Triple.failed rules.released

theorem retryGroup {groupId : String} {recipient : Option PeerId} : rules.Leads lock (.ready transfer [])
    (retryGroup identity dumps encryptForRecipient task transfer groupId recipient) (fun _ => .idle) .idle := by
  refine Triple.bind (rules.steady activeGroupSender_unmoved) fun _ => Triple.ite (fun _ => ?_) fun _ =>
    Triple.failed rules.released
  refine Triple.bind (rules.steady queryAt_unmoved) fun targets => Triple.ite (fun _ => ?_) fun _ => ?_
  · exact Triple.bind (rules.steady query_unmoved) fun _ => Triple.failed rules.released
  · refine Triple.ite (fun _ => rules.retrySource) fun _ => Triple.bind (rules.steady anySupports_unmoved) fun _ =>
      Triple.ite (fun _ => rules.retrySource) fun _ => Triple.bind (Triple.forEach fun _ _ => ?_) fun _ =>
        Triple.failed rules.released
    exact rules.writes rfl (fun same => nomatch same)

theorem setsDirect {status : FileStatus} (direct : transfer.group? = none)
    (handled : status ∈ [FileStatus.failed, .blocked, .unavailable]) : rules.Leads lock (.ready transfer [])
    (store task (.setStatus transfer.fileId (some transfer.recipientId) status)) (fun _ => .ready transfer []) raised := by
  have set := rules.sets lock transfer status (fun _ => rules.holds lock raised) handled
  unfold directRecipient at set
  rw [direct] at set
  exact set

theorem retryDirect {recipient : Option PeerId} (direct : transfer.group? = none) : rules.Leads lock (.ready transfer [])
    (retryDirect identity dumps encryptForRecipient task transfer recipient) (fun _ => .idle) .idle := by
  refine Triple.bind (rules.steady queryAt_unmoved) fun _ => Triple.ite (fun _ => Triple.failed rules.released) fun _ => ?_
  refine Triple.bind (rules.steady query_unmoved) fun _ => Triple.ite (fun _ => ?_) fun _ => ?_
  · exact Triple.bind rules.removesFile fun _ => Triple.bind (rules.setsDirect direct (by decide)) fun _ =>
      Triple.failed rules.released
  refine Triple.bind (rules.steady query_unmoved) fun _ => Triple.ite (fun _ => ?_) fun _ => ?_
  · refine Triple.bind (rules.steady supportsV2_unmoved) fun _ => Triple.ite (fun _ => rules.retrySource) fun _ => ?_
    exact Triple.bind rules.removesFile fun _ => Triple.bind (rules.writes rfl (fun same => nomatch same)) fun _ =>
      Triple.failed rules.released
  · exact Triple.bind rules.removesFile fun _ => Triple.bind (rules.setsDirect direct (by decide)) fun _ =>
      Triple.failed rules.released

/-- An operation reads the row of a file. -/
theorem reads {fileId : String} {following : Option FileTransfer → Program α} {after : α → Phase}
    (absent : rules.Leads none .idle (following none) after raised)
    (present : ∀ transfer, rules.Leads none (.ready transfer []) (following (some transfer)) after raised) :
    rules.Leads none .idle ((query fun sender => sender.db.getFileTransfer fileId) >>= following) after raised := by
  refine Triple.bind (Q := fun found state => rules.holds none .idle state ∧
    ∀ transfer, found = some transfer → rules.holds none (.ready transfer []) state) ?_ fun found => ?_
  · refine Triple.perform (rules.stable none .idle) fun fate before invariant held _ => ?_
    exact ⟨rules.unmoved _ _ _ _ invariant .refl, held, fun transfer found => rules.finds fileId transfer before held found⟩
  · cases found with
    | none => exact fun state held => absent state held.1
    | some transfer => exact fun state held => present transfer state (held.2 transfer rfl)

theorem retryFile {fileId : String} {recipient : Option PeerId} :
    rules.Leads none .idle (retryFile identity dumps encryptForRecipient task fileId recipient) (fun _ => .idle) .idle := by
  refine rules.reads (Triple.failed fun _ => id) fun transfer => ?_
  refine Triple.ite (fun _ => Triple.failed rules.released) fun _ => Triple.ite (fun _ => Triple.failed rules.released)
    fun _ => ?_
  cases group : transfer.group? with
  | none => exact rules.retryDirect group
  | some groupId => exact rules.retryGroup

/-! ## Flushing the queue -/

omit rules in
theorem pendingItems_unmoved {peerId : PeerId} : (pendingItems peerId).Steady Unmoved := query_unmoved

theorem purgesItems {peerId : PeerId} {fileId : String} :
    rules.Leads lock phase (purgeItems task peerId fileId) (fun _ => phase) raised :=
  Triple.bind (rules.steady pendingItems_unmoved) fun _ => Triple.forEach fun _ _ => Triple.ite
    (fun _ => rules.removesItem) fun _ => Triple.pure fun _ => id

theorem dropsItems {items : List OutgoingRow} {types : List Nat} :
    rules.Leads lock phase (Task.forEach items fun item => onlyIf (item.packetType ∈ types) (removeItem task item))
      (fun _ => phase) raised :=
  Triple.forEach fun _ _ => Triple.ite (fun _ => rules.removesItem) fun _ => Triple.pure fun _ => id

theorem purgeObsoleteV1Queue {peerId : PeerId} :
    rules.Leads none .idle (purgeObsoleteV1Queue task peerId) (fun _ => .idle) raised := by
  refine Triple.bind (rules.steady pendingItems_unmoved) fun items => Triple.bind rules.dropsItems fun _ => ?_
  refine Triple.bind (rules.steady queryAt_unmoved) fun ids => Triple.forEach fun fileId _ => ?_
  refine rules.reads (Triple.pure fun _ => id) fun transfer => Triple.ite (fun _ => ?_) fun _ => Triple.pure rules.released
  exact (rules.sets none transfer .failed _ (by decide)).weaken (fun _ => id) (fun _ => rules.released) fun _ _ => id

theorem blockFile {peerId : PeerId} {fileId : String} :
    rules.Leads none .idle (blockFile task peerId fileId) (fun _ => .idle) raised := by
  have blocks : ∀ transfer, rules.Leads none (.ready transfer []) (setDelivery task transfer peerId .blocked)
      (fun _ => .idle) raised := fun transfer => rules.concludes rfl (fun same => nomatch same)
  refine rules.reads (Triple.pure fun _ => id) fun transfer => Triple.ite (fun _ => Triple.pure rules.released) fun _ => ?_
  cases transfer.group? with
  | none => exact Triple.ite (fun _ => blocks transfer) fun _ => Triple.pure rules.released
  | some groupId =>
      exact Triple.bind (rules.steady query_unmoved) fun _ => Triple.ite (fun _ => blocks transfer) fun _ =>
        Triple.pure rules.released

theorem sendItems {items : List (PacketType × OutgoingRow)} :
    rules.Leads lock phase (sendItems task peer items) (fun _ => phase) raised := by
  induction items with
  | nil => exact Triple.pure fun _ => id
  | cons item rest ih =>
      exact Triple.bind (rules.steady attempt_unmoved) fun _ => Triple.ite
        (fun _ => Triple.bind rules.removesItem fun _ => ih) fun _ => Triple.pure fun _ => id

theorem flushTransfer :
    rules.Leads lock (.ready transfer []) (flushTransfer identity task peer transfer) (fun _ => .idle) raised := by
  have dropped : rules.Leads lock (.ready transfer []) (dropFlush task peer transfer) (fun _ => .idle) raised :=
    Triple.bind rules.removesFile fun _ => rules.concludes rfl (fun same => nomatch same)
  have purged : rules.Leads lock (.ready transfer []) (purgeItems task peer.peerId transfer.fileId) (fun _ => .idle)
      raised := rules.purgesItems.weaken (fun _ => id) (fun _ => rules.released) fun _ _ => id
  have flushed : rules.Leads lock (.ready transfer []) (flushItems task peer transfer) (fun _ => .idle) raised := by
    refine Triple.bind (rules.steady pendingItems_unmoved) fun items => Triple.bind rules.sendItems fun all => ?_
    refine Triple.ite (fun _ => ?_) fun _ => Triple.pure rules.released
    exact rules.marksSent.weaken (fun _ => id) (fun _ => rules.released) fun _ _ => id
  refine Triple.ite (fun _ => dropped) fun _ => Triple.bind (rules.steady mayDeliver_unmoved) fun _ => ?_
  refine Triple.ite (fun _ => Triple.ite (fun _ => purged) fun _ => ?_) fun _ => dropped
  unfold flushUncompleted
  cases transfer.group? with
  | none => exact flushed
  | some groupId =>
      exact Triple.bind (rules.steady query_unmoved) fun _ => Triple.ite (fun _ => purged) fun _ => flushed

theorem flushForPeer {peerId : PeerId} :
    rules.Leads none .idle (flushForPeer identity task peerId) (fun _ => .idle) raised := by
  refine Triple.bind (rules.steady query_unmoved) fun _ => Triple.ite (fun _ => Triple.pure fun _ => id) fun _ => ?_
  refine Triple.bind (rules.steady query_unmoved) fun connected => ?_
  cases connected with
  | none => exact Triple.pure fun _ => id
  | some peer =>
      refine Triple.bind rules.purgeObsoleteV1Queue fun _ => Triple.bind (rules.steady query_unmoved) fun _ => ?_
      refine Triple.ite (fun _ => ?_) fun _ => ?_
      · refine Triple.bind (rules.steady pendingItems_unmoved) fun items => Triple.bind rules.dropsItems fun _ => ?_
        exact Triple.bind (rules.steady queryAt_unmoved) fun ids => Triple.forEach fun _ _ => rules.blockFile
      · refine Triple.bind (rules.steady pendingItems_unmoved) fun items => Triple.bind (Triple.forEach fun item _ => ?_) ?_
        · refine Triple.ite (fun _ => Triple.pure fun _ => id) fun _ => Triple.ite (fun _ => rules.removesItem) fun _ => ?_
          exact Triple.bind (rules.steady attempt_unmoved) fun _ => Triple.ite (fun _ => rules.removesItem) fun _ =>
            Triple.pure fun _ => id
        · refine fun _ => Triple.bind (rules.steady queryAt_unmoved) fun ids => Triple.forEach fun fileId _ => ?_
          exact rules.withFlushLock (rules.reads rules.purgesItems fun _ => rules.flushTransfer)

/-! ## Acknowledgements -/

theorem resendMissingChunks {ranges : List (Nat × Nat)} : rules.Leads lock (.ready transfer [])
    (resendMissingChunks identity dumps encryptForRecipient task peer transfer ranges) (fun _ => .ready transfer [])
      raised := by
  refine rules.withFlushLock (Triple.recover (E := fun _ => rules.holds lock (.ready transfer [])) ?_ fun _ => ?_)
  · refine Triple.bind rules.removesFile fun _ => Triple.bind rules.streamRanges fun streamed => ?_
    refine Triple.ite (fun _ => Triple.pure fun _ => id) fun _ => Triple.bind (rules.steady query_unmoved) fun _ => ?_
    exact Triple.ite (fun _ => rules.writes rfl (fun same => nomatch same)) fun _ => Triple.pure fun _ => id
  · refine Triple.recover (E := fun _ => rules.holds lock (.ready transfer [])) ?_ fun _ => Triple.pure fun _ => id
    unfold requeue
    cases peer.encryptionPublicKey.filter (· ≠ []) with
    | none => exact Triple.pure fun _ => id
    | some key =>
        have queueing : rules.Leads lock (.ready transfer [])
            (Deliveries.queueRanges identity dumps encryptForRecipient task transfer peer.peerId key (rangeIndices ranges))
            (fun queued => if queued then .drafting transfer [] else .ready transfer []) (.ready transfer []) :=
          rules.queueRanges.weaken (rules.drafts lock transfer []) (fun _ _ => id) fun _ _ => id
        refine Triple.bind queueing fun queued => ?_
        cases queued with
        | true => exact Triple.ite (fun _ => rules.finishes rfl (fun same => nomatch same)) fun off => absurd rfl off
        | false => exact Triple.ite (fun on => nomatch on) fun _ => Triple.pure fun _ => id

/-- What an acknowledgement finds under the packet lock of its peer. -/
theorem acceptAck {ack : FileAckV2Payload} {peerId : PeerId} (sender : peer.peerId = peerId)
    (route : addressee transfer peerId = peerId) : rules.Leads (some peerId) (.ready transfer [])
    (acceptAck identity dumps encryptForRecipient task peer transfer ack) (fun _ => .idle) .idle := by
  subst sender
  unfold Deliveries.acceptAck
  cases ack.status with
  | completed =>
      refine Triple.bind (rules.completes peer.peerId transfer _ route) fun _ => ?_
      exact Triple.bind (rules.steady forgetAwaiting_unmoved) fun _ => rules.removesFile
  | blocked => exact Triple.bind (rules.concludes rfl (fun same => nomatch same)) fun _ => rules.removesFile
  | missing =>
      have resends : ∀ ranges, rules.Leads (some peer.peerId) (.ready transfer [])
          (resendWithinLimits identity dumps encryptForRecipient task peer transfer ranges) (fun _ => .idle) .idle := by
        refine fun ranges => Triple.bind (rules.steady reserveResend_unmoved) fun _ => Triple.ite (fun _ => ?_) fun _ =>
          Triple.pure rules.released
        exact rules.resendMissingChunks.weaken (fun _ => id) (fun _ => rules.released) fun _ _ => id
      have withdraws : ∀ status ∈ [FileStatus.failed, .blocked, .unavailable], rules.Leads (some peer.peerId)
          (.ready transfer []) (withdraw task peer transfer status) (fun _ => .idle) .idle := fun status handled =>
        Triple.bind ((rules.sets _ transfer status _ handled).weaken (fun _ => id) (fun _ => rules.released) fun _ _ => id)
          fun _ => rules.removesFile
      refine Triple.ite (fun _ => Triple.pure rules.released) fun _ => ?_
      unfold acceptMissing
      cases transfer.group? with
      | none =>
          refine Triple.bind (rules.steady query_unmoved) fun _ => Triple.ite (fun _ => withdraws _ (by decide)) fun _ => ?_
          exact Triple.bind (rules.steady query_unmoved) fun _ => Triple.ite (fun _ => resends _) fun _ =>
            withdraws _ (by decide)
      | some groupId =>
          refine Triple.bind (rules.steady authorizedInbound_unmoved) fun _ => Triple.ite (fun _ => resends _) fun _ => ?_
          exact Triple.bind (rules.concludes rfl (fun same => nomatch same)) fun _ => rules.removesFile

theorem handleAck {ack : FileAckV2Payload} : rules.Leads (some peer.peerId) .idle
    (handleAck identity dumps encryptForRecipient task peer ack) (fun _ => .idle) .idle := by
  have checked : (Task.perform SendPoint.query fun _ : SendFate => checkAck crypto peer ack).Within Unmoved :=
    handler_unmoved fun _ _ => Handler.Keeps.bind .refuse fun _ => Handler.Keeps.bind .refuse fun _ =>
      Handler.Keeps.bind .refuse fun _ => .refuse
  refine Triple.bind (rules.within checked) fun _ => Triple.bind (Q := fun found state =>
    rules.holds (some peer.peerId) .idle state ∧ ∀ transfer, found = some transfer →
      rules.holds (some peer.peerId) (.recognised transfer) state ∧ (transfer.direction = .outbound →
        transfer.group? = none → transfer.recipientId = peer.peerId → transfer.status ≠ .completed →
          rules.holds (some peer.peerId) (.ready transfer []) state)) ?_ fun found => ?_
  · refine Triple.perform (rules.stable _ .idle) fun fate before invariant held _ => ?_
    refine ⟨rules.unmoved _ _ _ _ invariant .refl, held, fun transfer found => ⟨?_, ?_⟩⟩
    · exact rules.recognises _ ack.fileId transfer before held found
    · exact rules.acceptsDirect _ ack.fileId transfer before held found
  cases found with
  | none => exact Triple.pure fun _ held => held.1
  | some transfer =>
      intro state held
      obtain ⟨idle, known⟩ := held
      obtain ⟨recognised, direct⟩ := known transfer rfl
      refine Triple.ite (P := fun current => current = state) (fun _ => Triple.pure fun _ same => same ▸ idle)
        (fun ours => ?_) state rfl
      have outbound : transfer.direction = .outbound := by
        by_contra other
        exact ours (.inl other)
      cases group : transfer.group? with
      | none =>
          refine Triple.ite (fun _ => Triple.pure fun _ same => same ▸ idle) fun open' => ?_
          have expected : transfer.recipientId = peer.peerId ∧ transfer.status ≠ .completed :=
            ⟨by_contra fun other => open' (.inl other), fun completed => open' (.inr completed)⟩
          have route : addressee transfer peer.peerId = peer.peerId := by
            unfold addressee
            rw [group]
            exact expected.1
          exact fun _ same => rules.acceptAck rfl route _ (same ▸ direct outbound group expected.1 expected.2)
      | some groupId =>
          have route : addressee transfer peer.peerId = peer.peerId := by
            unfold addressee
            rw [group]
          refine fun _ same => Triple.bind (P := rules.holds (some peer.peerId) (.recognised transfer))
            (Q := fun found state => rules.holds (some peer.peerId) .idle state ∧ ∀ delivery, found = some delivery →
              delivery.status ≠ .completed → rules.holds (some peer.peerId) (.ready transfer []) state)
            (Triple.perform (rules.stable _ _) fun fate before invariant held _ => ?_) (fun found => ?_) _ (same ▸ recognised)
          · exact ⟨rules.unmoved _ _ _ _ invariant .refl, rules.forgets _ transfer before held, fun delivery found =>
              rules.acceptsGroup _ groupId transfer delivery before held outbound group found⟩
          · cases found with
            | none => exact Triple.pure fun _ held => held.1
            | some delivery =>
                refine Triple.ite (fun _ => Triple.pure fun _ held => held.1) fun other => ?_
                exact fun state held => rules.acceptAck rfl route state (held.2 delivery rfl other)

theorem handlePacket {ack : FileAckV2Payload} : rules.Leads none .idle
    (handlePacket identity dumps encryptForRecipient task peer ack) (fun _ => .idle) .idle := by
  refine Triple.bind (Q := fun _ => rules.holds (some peer.peerId) .idle)
    (Triple.acquire (rules.stable none .idle) fun fate before invariant held free _ => ?_) fun _ => ?_
  · exact rules.locks peer.peerId fate before invariant held (by simpa using free)
  · have unlocking : contract.Triple task (rules.holds (some peer.peerId) .idle)
        (Task.perform (.unlockPeer task peer.peerId) fun _ => Handler.change fun sender =>
          { sender with packetLocks := sender.packetLocks.erase peer.peerId } : Program Unit)
        (fun _ => rules.holds none .idle) fun _ => rules.holds none .idle :=
      Triple.perform (rules.stable _ _) fun fate before invariant held _ =>
        rules.unlocks peer.peerId fate before invariant held
    exact Triple.ensuring (E := fun _ => rules.holds (some peer.peerId) .idle)
      (Triple.recover rules.handleAck fun _ => Triple.pure fun _ => id) (fun _ => unlocking) fun _ => unlocking

/-- Every operation starts and ends with nothing in hand. -/
theorem sendProgram (surrounds : ∀ surroundings fate before, contract.invariant before → rules.holds none .idle before →
      contract.Step task .surroundings fate before (before.surround surroundings) ∧
        rules.holds none .idle (before.surround surroundings)) {request : SendRequest} :
    rules.Leads none .idle (sendProgram identity dumps encryptForRecipient task request) (fun _ => .idle) .idle := by
  cases request with
  | send target source caption => exact Triple.bind rules.sendTo fun _ => Triple.pure fun _ => id
  | sendBatch target entries caption => exact rules.sendBatch
  | retry fileId recipient => exact rules.retryFile
  | flush peerId => exact rules.flushForPeer
  | acknowledge peer ack => exact rules.handlePacket
  | surround surroundings =>
      exact Triple.perform (rules.stable none .idle) fun fate before invariant held _ =>
        surrounds surroundings fate before invariant held

end Rules

end MeshTalk.Deliveries
