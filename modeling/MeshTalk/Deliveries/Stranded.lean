import MeshTalk.Deliveries.Statuses

namespace MeshTalk.Deliveries

open MeshTalk.Library MeshTalk.Protocol MeshTalk.Store MeshTalk.Files MeshTalk.Library.Contract

/-! # Deliveries that a stop of the process leaves behind

A delivery that is recorded as pending or transferring is in the hands of the
operation that wrote that status, until it has committed another one.  Only a
stop in between leaves such a status behind.
-/

namespace Stranded

section

variable (fileId : String) (recipientId : PeerId)

/-- The status is one that only a running operation moves on. -/
def Unfinished (db : Database) : Prop := (db.deliveryStatus fileId recipientId).any FileStatus.unfinished = true

instance {db : Database} : Decidable (Unfinished fileId recipientId db) := by
  unfold Unfinished
  infer_instance

def About (window : Window) : Prop := window.fileId = fileId ∧ window.recipientId = recipientId

instance {window : Window} : Decidable (About fileId recipientId window) := by
  unfold About
  infer_instance

/-- Somebody will write another status, or has written it and will commit it. -/
structure Attended (sender : Sender) : Prop where
  current : Unfinished fileId recipientId sender.db →
    ∃ window ∈ sender.windows, About fileId recipientId window ∧ window.settled = false
  committed : Unfinished fileId recipientId sender.committed → Unfinished fileId recipientId sender.db ∨
    ∃ window ∈ sender.windows, About fileId recipientId window ∧ window.settled = true

/-- No other task takes on what a task has written. -/
structure Relied (holder : Nat) (before after : Sender) : Prop where
  routes : Database.KeepsRoutes before.db after.db
  windows : ∀ window ∈ after.windows, window.task = holder → window ∈ before.windows

/-- New files have new ids, the offers of the file can be sent, and its recipient
is not passed over while the delivery is left to the operation. -/
def Guarded {crypto : FileCrypto} (identity : Identity crypto) : SendPoint → SendFate → Sender → Prop
  | .execute _ (.save transfer), _, sender =>
      sender.db.getFileTransfer transfer.fileId = none ∧
        ∀ row ∈ sender.db.fileDeliveries.rows, row.fileId ≠ transfer.fileId
  | .prepareOffer transfer peerId, _, _ => transfer.fileId = fileId → (offerFor identity transfer peerId).valid = true
  | .passOver _ transfer peerId, _, sender =>
      transfer.fileId = fileId ∧ peerId = recipientId → ¬ Unfinished fileId recipientId sender.db
  | _, _, _ => True

instance {crypto : FileCrypto} {identity : Identity crypto} {point : SendPoint} {fate : SendFate} {sender : Sender} :
    Decidable (Guarded fileId recipientId identity point fate sender) := by
  cases point with
  | execute task statement => cases statement <;> dsimp only [Guarded] <;> infer_instance
  | _ => dsimp only [Guarded]; infer_instance

def contract {crypto : FileCrypto} (identity : Identity crypto) : Contract Sender SendFate SendPoint where
  invariant := Attended fileId recipientId
  rely := Relied
  admits := Guarded fileId recipientId identity
  guarantees := fun _ _ _ _ => True

/-- The task has nothing of the delivery in hand. -/
def Free (task : Nat) (sender : Sender) : Prop :=
  ∀ window ∈ sender.windows, window.task = task → ¬ About fileId recipientId window

/-- What the task has in hand of the delivery is listed. -/
def Owes (task : Nat) (transfer : FileTransfer) (unfinished : List PeerId) (sender : Sender) : Prop :=
  ∀ window ∈ sender.windows, window.task = task → About fileId recipientId window →
    window.settled = false ∧ transfer.fileId = fileId ∧ recipientId ∈ unfinished

/-- As `Owes`, before the commit. -/
def Written (task : Nat) (transfer : FileTransfer) (unfinished : List PeerId) (sender : Sender) : Prop :=
  ∀ window ∈ sender.windows, window.task = task → About fileId recipientId window → window.settled = false →
    transfer.fileId = fileId ∧ recipientId ∈ unfinished

def holds (task : Nat) (_lock : Option PeerId) : Phase → Sender → Prop
  | .idle, sender => Free fileId recipientId task sender
  | .recognised transfer, sender => sender.Knows transfer ∧ Free fileId recipientId task sender
  | .drafting transfer unfinished, sender | .ready transfer unfinished, sender =>
      sender.Knows transfer ∧ Owes fileId recipientId task transfer unfinished sender

end

variable {crypto : FileCrypto} {identity : Identity crypto} {fileId other : String} {recipientId peerId : PeerId} {task : Nat}
  {before after sender : Sender} {transfer : FileTransfer} {unfinished next : List PeerId} {status : FileStatus}
  {point : SendPoint} {fate : SendFate} {window : Window}

/-! ## Phases -/

theorem Free.owes (free : Free fileId recipientId task sender) : Owes fileId recipientId task transfer unfinished sender :=
  fun window member mine about => absurd about (free window member mine)

theorem Owes.free (owes : Owes fileId recipientId task transfer [] sender) : Free fileId recipientId task sender :=
  fun window member mine about => nomatch (owes window member mine about).2.2

theorem Free.mono (free : Free fileId recipientId task before)
    (windows : ∀ window ∈ after.windows, window.task = task → window ∈ before.windows) :
    Free fileId recipientId task after :=
  fun window member mine => free window (windows window member mine) mine

theorem Owes.mono (owes : Owes fileId recipientId task transfer unfinished before)
    (windows : ∀ window ∈ after.windows, window.task = task → window ∈ before.windows) :
    Owes fileId recipientId task transfer unfinished after :=
  fun window member mine => owes window (windows window member mine) mine

theorem Written.mono (written : Written fileId recipientId task transfer unfinished before)
    (windows : ∀ window ∈ after.windows, window.task = task → window ∈ before.windows) :
    Written fileId recipientId task transfer unfinished after :=
  fun window member mine => written window (windows window member mine) mine

theorem holds_kept (lock : Option PeerId) (phase : Phase) (routes : Database.KeepsRoutes before.db after.db)
    (windows : ∀ window ∈ after.windows, window.task = task → window ∈ before.windows)
    (held : holds fileId recipientId task lock phase before) : holds fileId recipientId task lock phase after := by
  cases phase with
  | idle => exact Free.mono held windows
  | recognised transfer => exact ⟨held.1.kept routes, held.2.mono windows⟩
  | drafting transfer unfinished => exact ⟨held.1.kept routes, held.2.mono windows⟩
  | ready transfer unfinished => exact ⟨held.1.kept routes, held.2.mono windows⟩

theorem stable (lock : Option PeerId) (phase : Phase) :
    (contract fileId recipientId identity).Stable task (holds fileId recipientId task lock phase) := by
  intro before after _ _ (relied : Relied task before after) held
  exact holds_kept lock phase relied.routes relied.windows held

theorem stable_written : (contract fileId recipientId identity).Stable task fun sender =>
    sender.Knows transfer ∧ Written fileId recipientId task transfer unfinished sender := by
  intro before after _ _ (relied : Relied task before after) held
  exact ⟨held.1.kept relied.routes, held.2.mono relied.windows⟩

/-! ## Steps -/

/-- An action that writes no status leaves every phase and owes nothing. -/
structure Beside (before after : Sender) : Prop where
  deliveries : Database.KeepsDeliveries before.db after.db
  committed : after.committed = before.committed
  windows : after.windows = before.windows

theorem beside_of_aside (aside : Aside before after) : Beside before after :=
  ⟨aside.deliveries, aside.committed, aside.windows⟩

theorem Beside.step (beside : Beside before after) (invariant : Attended fileId recipientId before) :
    (contract fileId recipientId identity).Step task point fate before after := by
  have same : Unfinished fileId recipientId after.db ↔ Unfinished fileId recipientId before.db := by
    unfold Unfinished
    rw [beside.deliveries.statuses]
  refine ⟨⟨fun unfinished => ?_, fun unfinished => ?_⟩, trivial, fun _ _ => ⟨beside.deliveries.routes, ?_⟩⟩
  · rw [beside.windows]
    exact invariant.current (same.mp unfinished)
  · rw [beside.windows, same]
    rw [beside.committed] at unfinished
    exact invariant.committed unfinished
  · intro window member _
    rw [beside.windows] at member
    exact member

theorem Beside.kept (lock : Option PeerId) (phase : Phase) (beside : Beside before after)
    (held : holds fileId recipientId task lock phase before) : holds fileId recipientId task lock phase after := by
  refine holds_kept lock phase beside.deliveries.routes (fun window member _ => ?_) held
  rw [beside.windows] at member
  exact member

theorem mem_commit : window ∈ (before.commit task).windows ↔
    window ∈ before.windows ∧ ¬ (window.task = task ∧ window.settled = true) := by
  simp only [Sender.commit, List.mem_filter, decide_eq_true_eq]

theorem commit_step (invariant : Attended fileId recipientId before) :
    (contract fileId recipientId identity).Step task (.commit task) fate before (before.commit task) := by
  refine ⟨⟨fun unfinished => ?_, .inl⟩, trivial, fun _ _ => ⟨.of_eq rfl, fun window member _ => (mem_commit.mp member).1⟩⟩
  obtain ⟨window, member, about, open'⟩ := invariant.current unfinished
  refine ⟨window, mem_commit.mpr ⟨member, fun settled => ?_⟩, about, open'⟩
  rw [open'] at settled
  exact nomatch settled.2

theorem commits (lock : Option PeerId) (phase : Phase) (invariant : Attended fileId recipientId before)
    (held : holds fileId recipientId task lock phase before) :
    (contract fileId recipientId identity).Step task (.commit task) fate before (before.commit task) ∧
      holds fileId recipientId task lock phase (before.commit task) := by
  have routes : Database.KeepsRoutes before.db (before.commit task).db := .of_eq rfl
  exact ⟨commit_step invariant, holds_kept lock phase routes (fun _ member _ => (mem_commit.mp member).1) held⟩

theorem owes_of_written (written : Written fileId recipientId task transfer unfinished before) :
    Owes fileId recipientId task transfer unfinished (before.commit task) := by
  intro window member mine about
  obtain ⟨kept, open'⟩ := mem_commit.mp member
  have unsettled : window.settled = false := by
    cases settled : window.settled with
    | false => rfl
    | true => exact absurd ⟨mine, settled⟩ open'
  exact ⟨unsettled, written window kept mine about unsettled⟩

theorem mem_noteWindow : window ∈ (before.noteWindow task other peerId status).windows ↔
    (window ∈ before.windows ∧ ¬ (window.task = task ∧ window.fileId = other ∧ window.recipientId = peerId)) ∨
      window = ⟨task, other, peerId, !FileStatus.unfinished status⟩ := by
  simp only [Sender.noteWindow, List.mem_append, List.mem_filter, decide_eq_true_eq, List.mem_singleton]

/-- A write takes the delivery in hand, or settles it. -/
theorem writes_step (writes : Database.WritesDelivery before.db after.db other peerId status)
    (committed : after.committed = before.committed)
    (windows : after.windows = (before.noteWindow task other peerId status).windows)
    (invariant : Attended fileId recipientId before)
    (open' : ∀ window ∈ before.windows, window.task = task → About fileId recipientId window → window.settled = false) :
    (contract fileId recipientId identity).Step task point fate before after := by
  refine ⟨⟨fun unfinished => ?_, fun unfinished => ?_⟩, trivial, fun actor foreign => ⟨writes.routes, ?_⟩⟩
  · rw [windows]
    by_cases same : fileId = other ∧ recipientId = peerId
    · obtain ⟨rfl, rfl⟩ := same
      refine ⟨_, mem_noteWindow.mpr (.inr rfl), ⟨rfl, rfl⟩, ?_⟩
      obtain ⟨current, known, pending⟩ := Option.any_eq_true .. |>.mp unfinished
      rw [writes.written current known] at pending
      rw [pending]
      rfl
    · have before' : Unfinished fileId recipientId before.db := by
        unfold Unfinished at unfinished ⊢
        rw [writes.others fileId recipientId same] at unfinished
        exact unfinished
      obtain ⟨window, member, about, unsettled⟩ := invariant.current before'
      refine ⟨window, mem_noteWindow.mpr (.inl ⟨member, fun mine => same ?_⟩), about, unsettled⟩
      exact ⟨about.1.symm.trans mine.2.1, about.2.symm.trans mine.2.2⟩
  · rw [committed] at unfinished
    rw [windows]
    by_cases same : fileId = other ∧ recipientId = peerId
    · obtain ⟨rfl, rfl⟩ := same
      cases known : after.db.deliveryStatus fileId recipientId with
      | some current =>
          have value := writes.written current known
          subst value
          cases pending : FileStatus.unfinished current with
          | true =>
              refine .inl ?_
              unfold Unfinished
              rw [known]
              exact pending
          | false =>
              refine .inr ⟨_, mem_noteWindow.mpr (.inr rfl), ⟨rfl, rfl⟩, ?_⟩
              rw [pending]
              rfl
      | none =>
          have absent := writes.absent known
          rcases invariant.committed unfinished with impossible | ⟨window, member, about, settled⟩
          · unfold Unfinished at impossible
            rw [absent] at impossible
            cases impossible
          · refine .inr ⟨window, mem_noteWindow.mpr (.inl ⟨member, fun mine => ?_⟩), about, settled⟩
            rw [open' window member mine.1 about] at settled
            cases settled
    · rcases invariant.committed unfinished with still | ⟨window, member, about, settled⟩
      · refine .inl ?_
        unfold Unfinished at still ⊢
        rw [writes.others fileId recipientId same]
        exact still
      · refine .inr ⟨window, mem_noteWindow.mpr (.inl ⟨member, fun mine => same ?_⟩), about, settled⟩
        exact ⟨about.1.symm.trans mine.2.1, about.2.symm.trans mine.2.2⟩
  · intro window member theirs
    rw [windows] at member
    rcases mem_noteWindow.mp member with kept | rfl
    · exact kept.1
    · exact absurd theirs.symm foreign

/-- What is in hand after a write of a status. -/
theorem writes_written (windows : after.windows = (before.noteWindow task transfer.fileId peerId status).windows)
    (owes : Owes fileId recipientId task transfer unfinished before) :
    Written fileId recipientId task transfer (settle unfinished peerId status) after := by
  intro window member mine about open'
  rw [windows] at member
  rcases mem_noteWindow.mp member with ⟨kept, apart⟩ | rfl
  · obtain ⟨-, file, listed⟩ := owes window kept mine about
    have elsewhere : recipientId ≠ peerId := fun same =>
      apart ⟨mine, about.1.trans file.symm, about.2.trans same⟩
    have still : recipientId ∈ without unfinished peerId := List.mem_filter.mpr ⟨listed, decide_eq_true elsewhere⟩
    refine ⟨file, ?_⟩
    unfold settle
    split
    · exact List.mem_cons_of_mem _ still
    · exact still
  · have pending : FileStatus.unfinished status = true := by simpa using open'
    have here : peerId = recipientId := about.2
    refine ⟨about.1, ?_⟩
    unfold settle
    rw [if_pos pending, here]
    exact List.mem_cons_self ..

theorem mem_closeWindow : window ∈ (before.closeWindow task other peerId).windows ↔ window ∈ before.windows ∧
    ¬ (window.task = task ∧ window.fileId = other ∧ window.recipientId = peerId ∧ window.settled = false) := by
  simp only [Sender.closeWindow, List.mem_filter, decide_eq_true_eq]

/-- Only a delivery that is not left to the task is put down. -/
theorem closes_step (invariant : Attended fileId recipientId before)
    (finished : fileId = other ∧ recipientId = peerId → ¬ Unfinished fileId recipientId before.db) :
    (contract fileId recipientId identity).Step task point fate before (before.closeWindow task other peerId) := by
  refine ⟨⟨fun unfinished => ?_, fun unfinished => ?_⟩, trivial, fun _ _ => ⟨.of_eq rfl, fun window member _ => ?_⟩⟩
  · obtain ⟨window, member, about, open'⟩ := invariant.current unfinished
    refine ⟨window, mem_closeWindow.mpr ⟨member, fun mine => ?_⟩, about, open'⟩
    exact finished ⟨about.1.symm.trans mine.2.1, about.2.symm.trans mine.2.2.1⟩ unfinished
  · rcases invariant.committed unfinished with still | ⟨window, member, about, settled⟩
    · exact .inl still
    · refine .inr ⟨window, mem_closeWindow.mpr ⟨member, fun mine => ?_⟩, about, settled⟩
      rw [mine.2.2.2] at settled
      cases settled
  · exact (mem_closeWindow.mp member).1

theorem closes_owes (owes : Owes fileId recipientId task transfer unfinished before) :
    Owes fileId recipientId task transfer (without unfinished peerId)
      (before.closeWindow task transfer.fileId peerId) := by
  intro window member mine about
  obtain ⟨kept, still⟩ := mem_closeWindow.mp member
  obtain ⟨open', file, listed⟩ := owes window kept mine about
  refine ⟨open', file, List.mem_filter.mpr ⟨listed, decide_eq_true fun same => still ?_⟩⟩
  exact ⟨mine, about.1.trans file.symm, about.2.trans same, open'⟩

/-- A delivery that is seen completed is not left to anybody. -/
theorem seen_finished (knows : sender.Knows transfer) (seen : statusOf sender transfer peerId = some .completed)
    (same : fileId = transfer.fileId ∧ recipientId = addressee transfer peerId) :
    ¬ Unfinished fileId recipientId sender.db := by
  obtain ⟨row, found, route⟩ := knows
  obtain ⟨rfl, rfl⟩ := same
  unfold Unfinished
  rw [Database.deliveryStatus_of_row found, route.group?, route.recipientId]
  unfold statusOf at seen
  unfold addressee
  cases known : transfer.group? with
  | some groupId =>
      rw [known] at seen
      dsimp only at seen ⊢
      rw [seen]
      split <;> simp [FileStatus.unfinished]
  | none =>
      rw [known, found] at seen
      have completed : row.status = .completed := Option.some.inj seen
      dsimp only
      rw [if_pos rfl, completed]
      split <;> simp [FileStatus.unfinished]

/-! ## Operations -/

def phases : Phases (contract fileId recipientId identity) task where
  holds := holds fileId recipientId task
  stable := stable
  unmoved := fun _ _ _ _ invariant unmoved => (beside_of_aside unmoved.aside).step invariant
  keeps := fun lock phase _ _ unmoved held => (beside_of_aside unmoved.aside).kept lock phase held
  commits := fun lock phase _ _ invariant held => commits lock phase invariant held

theorem recomputes (lock : Option PeerId) (phase : Phase) {R : SendError → Sender → Prop}
    (knows : ∀ sender, holds fileId recipientId task lock phase sender → sender.Knows transfer) :
    (contract fileId recipientId identity).Triple task (holds fileId recipientId task lock phase)
      (recomputeAggregate task transfer.fileId) (fun _ => holds fileId recipientId task lock phase) R :=
  recomputeAggregate_aside (stable lock phase) knows
    (fun _ _ _ _ invariant aside => (beside_of_aside aside).step invariant)
    (fun _ _ aside held => (beside_of_aside aside).kept lock phase held) fun _ _ invariant held =>
      commits lock phase invariant held

/-- A statement that writes a status, and its commit. -/
theorem stores (lock : Option PeerId) (phase : Phase) {statement : SendStatement} {R : SendError → Sender → Prop}
    (acts : ∀ fate before, Attended fileId recipientId before → holds fileId recipientId task lock phase before →
      Guarded fileId recipientId identity (.execute task statement) fate before →
      (contract fileId recipientId identity).Step task (.execute task statement) fate before
          (before.execute task statement fate.now) ∧
        (before.execute task statement fate.now).Knows transfer ∧
        Written fileId recipientId task transfer unfinished (before.execute task statement fate.now)) :
    (contract fileId recipientId identity).Triple task (holds fileId recipientId task lock phase) (store task statement)
      (fun _ sender => sender.Knows transfer ∧ Owes fileId recipientId task transfer unfinished sender) R := by
  refine Triple.bind (Q := fun _ (sender : Sender) => sender.Knows transfer ∧
    Written fileId recipientId task transfer unfinished sender) (Triple.perform (stable lock phase) acts) fun _ => ?_
  refine Triple.perform stable_written fun fate before invariant held _ => ?_
  exact ⟨commit_step invariant, held.1, owes_of_written held.2⟩

/-- The statement of a group's delivery. -/
theorem delivers_group (lock : Option PeerId) {R : SendError → Sender → Prop} (group : transfer.group? ≠ none) :
    (contract fileId recipientId identity).Triple task
      (holds fileId recipientId task lock (.drafting transfer unfinished))
      (store task (.setDelivery transfer.fileId peerId status))
      (fun _ => holds fileId recipientId task lock (.drafting transfer (settle unfinished peerId status))) R := by
  refine stores lock (.drafting transfer unfinished) fun fate before invariant held _ => ?_
  have writes : Database.WritesDelivery before.db
      (before.execute task (.setDelivery transfer.fileId peerId status) fate.now).db transfer.fileId peerId status :=
    Sender.writes_setDelivery held.1 group
  refine ⟨writes_step writes rfl rfl invariant fun window member mine about => (held.2 window member mine about).1,
    held.1.kept writes.routes, ?_⟩
  exact writes_written rfl held.2

/-- The row of a direct transfer. -/
theorem delivers_direct (lock : Option PeerId) {R : SendError → Sender → Prop} (direct : transfer.group? = none) :
    (contract fileId recipientId identity).Triple task
      (holds fileId recipientId task lock (.drafting transfer unfinished))
      (store task (.setDirect transfer.fileId transfer.recipientId status))
      (fun _ => holds fileId recipientId task lock (.ready transfer (settle unfinished transfer.recipientId status))) R := by
  refine stores lock (.drafting transfer unfinished) fun fate before invariant held _ => ?_
  have writes : Database.WritesDelivery before.db
      (before.execute task (.setDirect transfer.fileId transfer.recipientId status) fate.now).db transfer.fileId
      transfer.recipientId status := Sender.writes_setDirect held.1 direct
  refine ⟨writes_step writes rfl rfl invariant fun window member mine about => (held.2 window member mine about).1,
    held.1.kept writes.routes, ?_⟩
  exact writes_written rfl held.2

theorem delivers (lock : Option PeerId) {R : SendError → Sender → Prop} :
    (contract fileId recipientId identity).Triple task
      (holds fileId recipientId task lock (.drafting transfer unfinished)) (setDelivery task transfer peerId status)
      (fun _ => holds fileId recipientId task lock
        (.ready transfer (settle unfinished (addressee transfer peerId) status))) R := by
  refine phases.setsDelivery lock (.drafting transfer unfinished)
    (.drafting transfer (settle unfinished (addressee transfer peerId) status))
    (.ready transfer (settle unfinished (addressee transfer peerId) status)) (fun group => ?_)
    (fun _ => recomputes lock (.drafting transfer (settle unfinished (addressee transfer peerId) status)) fun _ held =>
      held.1) fun direct => ?_
  · rw [addressee_group group]
    exact delivers_group lock group
  · rw [addressee_direct direct]
    exact delivers_direct lock direct

theorem sets (lock : Option PeerId) {R : SendError → Sender → Prop} (finished : FileStatus.unfinished status = false) :
    (contract fileId recipientId identity).Triple task (holds fileId recipientId task lock (.ready transfer []))
      (store task (.setStatus transfer.fileId (directRecipient transfer) status))
      (fun _ => holds fileId recipientId task lock (.ready transfer [])) R := by
  by_cases known : transfer.group? = none
  · rw [directRecipient_direct known]
    refine stores lock (.ready transfer []) fun fate before invariant held _ => ?_
    have writes : Database.WritesDelivery before.db
        (before.execute task (.setStatus transfer.fileId (some transfer.recipientId) status) fate.now).db
        transfer.fileId transfer.recipientId status := Sender.writes_setStatus held.1 known
    refine ⟨writes_step writes rfl rfl invariant fun window member mine about => (held.2 window member mine about).1,
      held.1.kept writes.routes, ?_⟩
    have written : Written fileId recipientId task transfer (settle [] transfer.recipientId status)
        (before.execute task (.setStatus transfer.fileId (some transfer.recipientId) status) fate.now) :=
      writes_written rfl held.2
    rw [settle, finished] at written
    exact written
  · rw [directRecipient_group known]
    refine phases.stores lock (.ready transfer []) (.ready transfer []) fun fate before invariant held _ => ?_
    have beside : Beside before (before.execute task (.setStatus transfer.fileId none status) fate.now) :=
      ⟨Sender.keeps_setStatus held.1 known, rfl, rfl⟩
    exact ⟨beside.step invariant, beside.kept lock (.ready transfer []) held⟩

theorem saves {R : SendError → Sender → Prop} (pending : transfer.status = .pending) :
    (contract fileId recipientId identity).Triple task (holds fileId recipientId task none .idle)
      (store task (.save transfer))
      (fun _ => holds fileId recipientId task none (.drafting transfer (directRecipient transfer).toList)) R := by
  refine stores none .idle fun fate before invariant free admitted => ?_
  have saved : (before.execute task (.save transfer) fate.now).db = before.db.saveFileTransfer transfer :=
    Sender.execute_frame.1
  have committed : (before.execute task (.save transfer) fate.now).committed = before.committed :=
    Sender.execute_frame.2.1
  have knows : (before.execute task (.save transfer) fate.now).Knows transfer := by
    refine ⟨transfer, ?_, .refl⟩
    rw [saved]
    exact Database.getFileTransfer_saveFileTransfer
  by_cases group : transfer.group? = none
  · have writes := Database.saveFileTransfer_writesDelivery admitted.1 group
    rw [← saved] at writes
    have windows : (before.execute task (.save transfer) fate.now).windows =
        (before.noteWindow task transfer.fileId transfer.recipientId transfer.status).windows := by
      unfold Sender.execute Sender.note
      simp only [group]
      rfl
    refine ⟨writes_step writes committed windows invariant fun window member mine about =>
      absurd about (free window member mine), knows, ?_⟩
    have nothing : Owes fileId recipientId task transfer [] before := Free.owes free
    have written := writes_written windows nothing
    rw [settle, pending] at written
    rw [directRecipient_direct group]
    exact written
  · have keeps := Database.saveFileTransfer_keepsDeliveries admitted.1 (Sender.unsent_delivery admitted.2) group
    rw [← saved] at keeps
    have windows : (before.execute task (.save transfer) fate.now).windows = before.windows := by
      unfold Sender.execute Sender.note
      cases known : transfer.group? with
      | none => exact absurd known group
      | some groupId =>
          simp only [known]
          rfl
    refine ⟨Beside.step ⟨keeps, committed, windows⟩ invariant, knows, fun window member mine about _ => ?_⟩
    rw [windows] at member
    exact absurd about (free window member mine)

/-- A delivery seen completed is put down. -/
theorem sees (lock : Option PeerId) {R : SendError → Sender → Prop} :
    (contract fileId recipientId identity).Triple task
      (holds fileId recipientId task lock (.ready transfer unfinished)) (checkCompleted task transfer peerId)
      (fun seen => holds fileId recipientId task lock (.ready transfer
        (if seen then without unfinished (addressee transfer peerId) else unfinished))) R := by
  refine Triple.perform (stable lock (.ready transfer unfinished)) fun fate before invariant held _ => ?_
  simp only [Handler.bind_apply, Handler.read, Handler.change, Handler.pure_apply]
  by_cases seen : statusOf before transfer peerId = some .completed
  · simp only [seen, decide_true, if_true]
    refine ⟨closes_step invariant fun same => ?_, held.1.kept (.of_eq rfl), closes_owes held.2⟩
    exact seen_finished held.1 seen same
  · simp only [seen, decide_false, if_false, Bool.false_eq_true]
    have still : Beside before before := ⟨.of_eq rfl rfl, rfl, rfl⟩
    exact ⟨still.step invariant, held⟩

def rules (task : Nat) : Rules identity (contract fileId recipientId identity) task where
  toPhases := phases
  finds := fun _ _ _ held found => ⟨Sender.knows_of_found found, Free.owes held⟩
  recognises := fun _ _ _ _ held found => ⟨Sender.knows_of_found found, held⟩
  forgets := fun _ _ _ held => held.2
  acceptsDirect := fun _ _ _ _ held found _ _ _ _ => ⟨Sender.knows_of_found found, Free.owes held⟩
  acceptsGroup := fun _ _ _ _ _ held _ _ _ _ => ⟨held.1, held.2.owes⟩
  releases := fun _ _ _ held => held.2.free
  drafts := fun _ _ _ _ held => held
  rereads := fun _ _ _ _ held => by
    obtain ⟨row, found, known, route⟩ := held.1.reread
    refine ⟨row, found, ⟨known, fun window member mine about => ?_⟩, route⟩
    obtain ⟨open', file, listed⟩ := held.2 window member mine about
    exact ⟨open', route.fileId.trans file, listed⟩
  reroutes := fun _ _ _ _ _ route held => by
    refine ⟨held.1.reroute route, fun window member mine about => ?_⟩
    obtain ⟨open', file, listed⟩ := held.2 window member mine about
    exact ⟨open', route.fileId.symm.trans file, listed⟩
  delivers := fun lock _ _ _ _ _ _ => delivers lock
  completes := fun peerId transfer R route => by
    exact (delivers (some peerId)).weaken (fun _ held => held) (fun _ _ held => held.2.free) fun _ _ => id
  recomputes := fun lock transfer unfinished _ => recomputes lock (.drafting transfer unfinished) fun _ held => held.1
  saves := fun _ _ pending _ => saves pending
  marks := fun _ _ _ _ _ group _ => delivers_group none group
  widens := fun _ _ _ _ _ included held => ⟨held.1, fun window member mine about =>
    have owed := held.2 window member mine about
    ⟨owed.1, owed.2.1, included owed.2.2⟩⟩
  passesOver := fun transfer unfinished recipientId _ _ =>
    Triple.perform (stable none (.drafting transfer unfinished)) fun _ _ invariant held admitted =>
      ⟨closes_step invariant fun same => admitted ⟨same.1.symm, same.2.symm⟩, held.1.kept (.of_eq rfl), closes_owes held.2⟩
  sees := fun lock _ _ _ _ => sees lock
  sets := fun lock transfer status _ listed => sets lock <| by
    simp only [List.mem_cons, List.not_mem_nil, or_false] at listed
    rcases listed with rfl | rfl | rfl <;> rfl
  raises := fun lock transfer _ _ _ _ admitted invalid held => fun window member mine about => by
    obtain ⟨-, file, -⟩ := held.2 window member mine about
    rw [admitted file] at invalid
    cases invalid
  locks := fun _ _ _ invariant held _ => by
    refine ⟨Beside.step ⟨.of_eq rfl rfl, rfl, rfl⟩ invariant, held⟩
  unlocks := fun _ _ _ invariant held => by
    refine ⟨Beside.step ⟨.of_eq rfl rfl, rfl, rfl⟩ invariant, held⟩

/-- Every operation starts and ends with nothing in hand. -/
theorem finishes {dumps : Json → Bytes} {encryptForRecipient : Bytes → Bytes → Json → Bytes} :
    Pool.Completes (contract fileId recipientId identity)
      (fun task => holds fileId recipientId task none .idle) (sendService identity dumps encryptForRecipient) := by
  refine ⟨fun task => stable none .idle, fun request task state _ left => ?_⟩
  refine (rules task).sendProgram (fun surroundings fate before invariant held => ?_) state left
  have beside : Beside before (before.surround surroundings) := ⟨.of_eq rfl rfl, rfl, rfl⟩
  exact ⟨beside.step invariant, beside.kept none .idle held⟩

end Stranded

/-! ## What a stop leaves -/

section

variable (fileId : String) (recipientId : PeerId)

/-- An operation that has not ended has the delivery in hand. -/
def InHand (pool : Pool Sender SendFate SendPoint SendError) : Prop :=
  ∃ window ∈ pool.shared.windows, Stranded.About fileId recipientId window ∧ (pool.pointAt window.task).isSome = true

instance {pool : Pool Sender SendFate SendPoint SendError} : Decidable (InHand fileId recipientId pool) := by
  unfold InHand
  infer_instance

/-- The process does not stop while the status an operation has in hand is what
a restart would find. -/
def MayStop (pool : Pool Sender SendFate SendPoint SendError) : Prop :=
  Stranded.Unfinished fileId recipientId pool.shared.committed → ¬ InHand fileId recipientId pool

instance {pool : Pool Sender SendFate SendPoint SendError} : Decidable (MayStop fileId recipientId pool) := by
  unfold MayStop
  infer_instance

/-- From some time on `retry_file` accepts the status, whenever it was awaiting
an acknowledgement since. -/
def Sender.AcceptsRetry (sender : Sender) (status : FileStatus) : Prop :=
  ∀ awaitingAckAt, ∃ since, ∀ fate : SendFate, since ≤ fate.now →
    sender.retryable fileId recipientId status awaitingAckAt fate = true

/-- Packets of the file wait for the recipient. -/
def Queued (db : Database) : Prop := ∃ row ∈ db.getPendingOutgoing recipientId, row.messageId = some fileId

instance {db : Database} : Decidable (Queued fileId recipientId db) := by
  unfold Queued
  infer_instance

/-- The delivery has reached its end, or somebody can still move it on. -/
def CanProgress (sender : Sender) : Prop :=
  ∀ status, sender.db.deliveryStatus fileId recipientId = some status → status ≠ .completed →
    sender.AcceptsRetry fileId recipientId status ∨ Queued fileId recipientId sender.db

end

section

variable {crypto : FileCrypto} {identity : Identity crypto} {dumps : Json → Bytes}
  {encryptForRecipient : Bytes → Bytes → Json → Bytes} {final : Pool Sender SendFate SendPoint SendError}
  {events : List (PoolEvent SendFate SendRequest)} {fileId : String} {recipientId : PeerId} {sender : Sender}
  {status : FileStatus}

/-- After a restart nothing is known of the time a delivery was sent but its row. -/
theorem reboot_acceptsRetry (finished : FileStatus.unfinished status = false) (other : status ≠ .completed) :
    sender.reboot.AcceptsRetry fileId recipientId status := by
  intro awaitingAckAt
  have forgotten : sender.reboot.awaitingAckSince.get? (fileId, recipientId) = none := rfl
  have sent : status ∉ [FileStatus.failed, .blocked, .queued, .unavailable] → status = .sent := fun listed => by
    cases status with
    | sent => rfl
    | pending | transferring => cases finished
    | completed => exact absurd rfl other
    | queued | failed | blocked | unavailable => exact absurd (by decide) listed
  refine ⟨(awaitingAckAt.getD 0) + awaitingAckTimeout, fun fate later => ?_⟩
  unfold Sender.retryable
  rw [forgotten]
  by_cases listed : status ∈ [FileStatus.failed, .blocked, .queued, .unavailable]
  · rw [if_pos listed]
  · rw [if_neg listed, sent listed]
    cases awaitingAckAt with
    | none => rfl
    | some since =>
        have passed : awaitingAckTimeout ≤ fate.now - since := by
          simp only [Option.getD_some] at later
          grind
        simp [passed]

theorem unfinished_rejectsRetry (unfinished : FileStatus.unfinished status = true) :
    ¬ sender.reboot.AcceptsRetry fileId recipientId status := by
  intro accepts
  obtain ⟨since, accepted⟩ := accepts none
  have retried := accepted { now := since, monotonic := 0, uuid := "", sendFails := false, readFails := false, order := [] }
    (by simp)
  cases status with
  | pending | transferring => cases retried
  | _ => cases unfinished

/-- What has been committed as pending or transferring is in somebody's hands. -/
theorem Stranded.inHand_of_committed
    (settled : Pool.Settled (Stranded.contract fileId recipientId identity)
      (fun task => Stranded.holds fileId recipientId task none .idle) final)
    (unfinished : Stranded.Unfinished fileId recipientId final.shared.committed) : InHand fileId recipientId final := by
  have running : ∀ window ∈ final.shared.windows, Stranded.About fileId recipientId window →
      (final.pointAt window.task).isSome = true := by
    intro window member about
    unfold Pool.pointAt
    cases found : final.tasks[window.task]? with
    | none =>
        have free := settled.unstarted window.task (List.getElem?_eq_none_iff.mp found)
        exact absurd about (free window member rfl)
    | some task =>
        cases task with
        | suspended point ready act next => rfl
        | done value => exact absurd about (settled.tasks window.task _ found window member rfl)
        | failed error => exact absurd about (settled.tasks window.task _ found window member rfl)
  rcases settled.invariant.committed unfinished with current | ⟨window, member, about, -⟩
  · obtain ⟨window, member, about, -⟩ := settled.invariant.current current
    exact ⟨window, member, about, running window member about⟩
  · exact ⟨window, member, about, running window member about⟩

theorem Stranded.reboots (settled : Pool.Settled (Stranded.contract fileId recipientId identity)
      (fun task => Stranded.holds fileId recipientId task none .idle) final)
    (stops : MayStop fileId recipientId final) :
    Stranded.Attended fileId recipientId final.shared.reboot ∧
      ∀ task, Stranded.holds fileId recipientId task none .idle final.shared.reboot := by
  have finished : ¬ Stranded.Unfinished fileId recipientId final.shared.committed := fun unfinished =>
    stops unfinished (Stranded.inHand_of_committed settled unfinished)
  exact ⟨⟨fun unfinished => absurd unfinished finished, fun unfinished => absurd unfinished finished⟩,
    fun task window member => nomatch member⟩

/-- A stop strands a delivery only while an operation has it in hand. -/
theorem delivery_can_progress (initial : ¬ Stranded.Unfinished fileId recipientId sender.committed)
    (meets : Meets (Pool.step (sendService identity dumps encryptForRecipient))
      (Pool.StoppingAt (Stranded.Guarded fileId recipientId identity) (MayStop fileId recipientId))
      (processStart sender) events)
    (completed : run (Pool.step (sendService identity dumps encryptForRecipient)) (processStart sender) events = some final) :
    CanProgress fileId recipientId final.shared.reboot ↔
      (Stranded.Unfinished fileId recipientId final.shared.committed → InHand fileId recipientId final →
        Queued fileId recipientId final.shared.committed) := by
  have start : Pool.Settled (Stranded.contract fileId recipientId identity)
      (fun task => Stranded.holds fileId recipientId task none .idle) (processStart sender) :=
    ⟨⟨fun unfinished => absurd unfinished initial, fun unfinished => absurd unfinished initial⟩,
      (fun _ _ found => nomatch found), fun _ _ _ member => nomatch member⟩
  have settled := Pool.run_settled Stranded.finishes (fun _ settled stops => Stranded.reboots settled stops) start meets
    completed
  constructor
  · intro progress unfinished _
    obtain ⟨status, known, pending⟩ := Option.any_eq_true .. |>.mp unfinished
    have other : status ≠ .completed := fun same => by
      subst same
      cases pending
    exact (progress status known other).resolve_left (unfinished_rejectsRetry pending)
  · intro queued status known other
    cases pending : FileStatus.unfinished status with
    | false => exact .inl (reboot_acceptsRetry pending other)
    | true =>
        have unfinished : Stranded.Unfinished fileId recipientId final.shared.committed := by
          unfold Stranded.Unfinished
          exact (congrArg (Option.any FileStatus.unfinished) known).trans pending
        exact .inr (queued unfinished (Stranded.inHand_of_committed settled unfinished))

end

/-- The process stops after the document has been sent to Bob, and stops again. -/
theorem bob_can_be_retried :
    ∃ final, run (Pool.step plainSender) (processStart emptySender) (sendToBob 29 ++ [.restart]) = some final ∧
      CanProgress documentId "bob" final.shared.reboot := by
  have checked : (run (Pool.step plainSender) (processStart emptySender) (sendToBob 29 ++ [.restart])).any (fun final =>
      decide (¬ Stranded.Unfinished documentId "bob" final.shared.committed)) = true := by
    decide +kernel
  have stops : Meets (Pool.step plainSender)
      (Pool.StoppingAt (Stranded.Guarded documentId "bob" plainIdentity) (MayStop documentId "bob"))
      (processStart emptySender) (sendToBob 29 ++ [.restart]) := by
    decide +kernel
  obtain ⟨final, completed, finished⟩ := Option.any_eq_true .. |>.mp checked
  exact ⟨final, completed, (delivery_can_progress (by decide) stops completed).mpr fun unfinished =>
    absurd unfinished (of_decide_eq_true finished)⟩

/-- The process stops when the chunks are about to be sent. -/
theorem bob_is_stranded :
    ∃ final, run (Pool.step plainSender) (processStart emptySender) (sendToBob 18) = some final ∧
      final.shared.reboot.db.deliveryStatus documentId "bob" = some .transferring ∧
      ¬ CanProgress documentId "bob" final.shared.reboot := by
  have checked : (run (Pool.step plainSender) (processStart emptySender) (sendToBob 18)).any (fun final =>
      decide (final.shared.reboot.db.deliveryStatus documentId "bob" = some .transferring ∧
        ¬ Queued documentId "bob" final.shared.reboot.db)) = true := by
    decide +kernel
  obtain ⟨final, completed, found⟩ := Option.any_eq_true .. |>.mp checked
  obtain ⟨status, unqueued⟩ := of_decide_eq_true found
  refine ⟨final, completed, status, fun progress => ?_⟩
  rcases progress .transferring status (fun same => nomatch same) with accepts | queued
  · exact unfinished_rejectsRetry rfl accepts
  · exact unqueued queued

end MeshTalk.Deliveries
