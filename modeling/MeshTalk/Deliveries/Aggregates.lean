import MeshTalk.Deliveries.Statuses

namespace MeshTalk.Deliveries

open MeshTalk.Library MeshTalk.Protocol MeshTalk.Store MeshTalk.Files MeshTalk.Library.Contract

/-! # Aggregates of group transfers

Whoever changes the status of a delivery computes the aggregate anew, from
statuses that it has read before its write.  As long as the last of these writes
rests on current statuses, the aggregate is right whenever nobody is at work.
-/

namespace Aggregates

section

variable (fileId : String)

/-- The row of an outbound group transfer has the status of its deliveries. -/
def Aggregate (db : Database) : Prop :=
  ∀ row ∈ db.getFileTransfer fileId, row.direction = .outbound → row.group? ≠ none →
    row.status = aggregateStatus (db.deliveryStates fileId)

instance {db : Database} : Decidable (Aggregate fileId db) := by
  unfold Aggregate
  infer_instance

/-- The operation will write an aggregate of these statuses, or has yet to read them. -/
def Awaits (states : List FileStatus) (recompute : Recompute) : Prop :=
  recompute.fileId = fileId ∧ (recompute.stage = .changed ∨ recompute.stage = .seen states)

instance {states : List FileStatus} {recompute : Recompute} : Decidable (Awaits fileId states recompute) := by
  unfold Awaits
  infer_instance

/-- The aggregate is right, or somebody will put it right and commit it. -/
structure Agreed (sender : Sender) : Prop where
  current : Aggregate fileId sender.db ∨
    ∃ recompute ∈ sender.recomputes, Awaits fileId (sender.db.deliveryStates fileId) recompute
  committed : Aggregate fileId sender.committed ∨ ∃ recompute ∈ sender.recomputes, recompute.fileId = fileId

/-- No other task takes on a recomputation of a task. -/
structure Relied (holder : Nat) (before after : Sender) : Prop where
  routes : Database.KeepsRoutes before.db after.db
  recomputes : ∀ recompute ∈ after.recomputes, recompute.task = holder → recompute ∈ before.recomputes

/-- An aggregate is written from current statuses, or while another operation has
still to write one of them. -/
def Guarded {crypto : FileCrypto} (identity : Identity crypto) : SendPoint → SendFate → Sender → Prop
  | .execute _ (.save transfer), _, sender =>
      sender.db.getFileTransfer transfer.fileId = none ∧
        ∀ row ∈ sender.db.fileDeliveries.rows, row.fileId ≠ transfer.fileId
  | .execute _ (.setStatus other none status), _, sender =>
      other = fileId → status = aggregateStatus (sender.db.deliveryStates fileId) ∨
        ∃ recompute ∈ sender.recomputes, Awaits fileId (sender.db.deliveryStates fileId) recompute
  | .writeAggregate task other seen, _, sender =>
      other = fileId → seen = sender.db.deliveryStates fileId ∨
        ∃ recompute ∈ sender.recomputes, recompute.task ≠ task ∧
          Awaits fileId (sender.db.deliveryStates fileId) recompute
  | .prepareOffer transfer peerId, _, _ => transfer.fileId = fileId → (offerFor identity transfer peerId).valid = true
  | _, _, _ => True

instance {crypto : FileCrypto} {identity : Identity crypto} {point : SendPoint} {fate : SendFate} {sender : Sender} :
    Decidable (Guarded fileId identity point fate sender) := by
  induction point using SendPoint.casesOn with
  | execute task statement =>
      induction statement using SendStatement.casesOn with
      | setStatus other direct status => induction direct using Option.casesOn <;> dsimp only [Guarded] <;> infer_instance
      | _ => dsimp only [Guarded]; infer_instance
  | _ => dsimp only [Guarded]; infer_instance

def contract {crypto : FileCrypto} (identity : Identity crypto) : Contract Sender SendFate SendPoint where
  invariant := Agreed fileId
  rely := Relied
  admits := Guarded fileId identity
  guarantees := fun _ _ _ _ => True

/-- The task has no recomputation of the file before it. -/
def Free (task : Nat) (sender : Sender) : Prop :=
  ∀ recompute ∈ sender.recomputes, recompute.task = task → recompute.fileId ≠ fileId

/-- What the task has to compute anew is the aggregate of this transfer. -/
def Drafts (task : Nat) (transfer : FileTransfer) (sender : Sender) : Prop :=
  ∀ recompute ∈ sender.recomputes, recompute.task = task → recompute.fileId = fileId →
    transfer.fileId = fileId ∧ transfer.group? ≠ none

/-- The aggregate is written and has to be committed. -/
def Wrote (task : Nat) (sender : Sender) : Prop :=
  ∀ recompute ∈ sender.recomputes, recompute.task = task → recompute.fileId = fileId → recompute.stage = .written

def holds (task : Nat) (_lock : Option PeerId) : Phase → Sender → Prop
  | .idle, sender => Free fileId task sender
  | .recognised transfer, sender | .ready transfer _, sender => sender.Knows transfer ∧ Free fileId task sender
  | .drafting transfer _, sender => sender.Knows transfer ∧ Drafts fileId task transfer sender

end

variable {crypto : FileCrypto} {identity : Identity crypto} {fileId other : String} {peerId : PeerId} {task : Nat}
  {before after sender : Sender} {transfer : FileTransfer} {unfinished next : List PeerId} {status : FileStatus}
  {point : SendPoint} {fate : SendFate} {recompute : Recompute} {stage : RecomputeStage}

/-! ## Phases -/

theorem Free.drafts (free : Free fileId task sender) : Drafts fileId task transfer sender :=
  fun recompute member mine same => absurd same (free recompute member mine)

theorem Free.mono (free : Free fileId task before)
    (recomputes : ∀ recompute ∈ after.recomputes, recompute.task = task → recompute ∈ before.recomputes) :
    Free fileId task after :=
  fun recompute member mine => free recompute (recomputes recompute member mine) mine

theorem Drafts.mono (drafts : Drafts fileId task transfer before)
    (recomputes : ∀ recompute ∈ after.recomputes, recompute.task = task → recompute ∈ before.recomputes) :
    Drafts fileId task transfer after :=
  fun recompute member mine => drafts recompute (recomputes recompute member mine) mine

theorem Wrote.mono (wrote : Wrote fileId task before)
    (recomputes : ∀ recompute ∈ after.recomputes, recompute.task = task → recompute ∈ before.recomputes) :
    Wrote fileId task after :=
  fun recompute member mine => wrote recompute (recomputes recompute member mine) mine

theorem holds_kept (lock : Option PeerId) (phase : Phase) (routes : Database.KeepsRoutes before.db after.db)
    (recomputes : ∀ recompute ∈ after.recomputes, recompute.task = task → recompute ∈ before.recomputes)
    (held : holds fileId task lock phase before) : holds fileId task lock phase after := by
  cases phase with
  | idle => exact Free.mono held recomputes
  | recognised transfer => exact ⟨held.1.kept routes, held.2.mono recomputes⟩
  | drafting transfer unfinished => exact ⟨held.1.kept routes, held.2.mono recomputes⟩
  | ready transfer unfinished => exact ⟨held.1.kept routes, held.2.mono recomputes⟩

theorem stable (lock : Option PeerId) (phase : Phase) :
    (contract fileId identity).Stable task (holds fileId task lock phase) := by
  intro before after _ _ (relied : Relied task before after) held
  exact holds_kept lock phase relied.routes relied.recomputes held

theorem stable_wrote : (contract fileId identity).Stable task fun sender =>
    sender.Knows transfer ∧ Wrote fileId task sender := by
  intro before after _ _ (relied : Relied task before after) held
  exact ⟨held.1.kept relied.routes, held.2.mono relied.recomputes⟩

/-! ## Steps -/

/-- An action that leaves the statuses of the deliveries and the aggregate. -/
structure Beside (fileId : String) (before after : Sender) : Prop where
  routes : Database.KeepsRoutes before.db after.db
  states : after.db.deliveryStates fileId = before.db.deliveryStates fileId
  aggregate : Aggregate fileId before.db → Aggregate fileId after.db
  committed : after.committed = before.committed
  recomputes : after.recomputes = before.recomputes

theorem aggregate_congr {first second : Database} (row : second.getFileTransfer fileId = first.getFileTransfer fileId)
    (states : second.deliveryStates fileId = first.deliveryStates fileId) (right : Aggregate fileId first) :
    Aggregate fileId second := by
  unfold Aggregate at right ⊢
  rw [row, states]
  exact right

theorem deliveryStates_congr {first second : Database} (deliveries : second.fileDeliveries = first.fileDeliveries) :
    second.deliveryStates fileId = first.deliveryStates fileId := by
  unfold Database.deliveryStates Database.getFileDeliveries
  rw [deliveries]

theorem beside_of_unmoved (unmoved : Unmoved before after) : Beside fileId before after := by
  have row : after.db.getFileTransfer fileId = before.db.getFileTransfer fileId := by
    unfold Database.getFileTransfer
    rw [unmoved.transfers]
  have states : after.db.deliveryStates fileId = before.db.deliveryStates fileId := deliveryStates_congr unmoved.deliveries
  exact ⟨.of_eq unmoved.transfers, states, aggregate_congr row states, unmoved.committed, unmoved.recomputes⟩

theorem Beside.step (beside : Beside fileId before after) (invariant : Agreed fileId before) :
    (contract fileId identity).Step task point fate before after := by
  refine ⟨⟨?_, ?_⟩, trivial, fun _ _ => ⟨beside.routes, fun recompute member _ => ?_⟩⟩
  · rw [beside.recomputes, beside.states]
    exact invariant.current.imp beside.aggregate id
  · rw [beside.recomputes, beside.committed]
    exact invariant.committed
  · rw [beside.recomputes] at member
    exact member

theorem Beside.kept (lock : Option PeerId) (phase : Phase) (beside : Beside fileId before after)
    (held : holds fileId task lock phase before) : holds fileId task lock phase after := by
  refine holds_kept lock phase beside.routes (fun recompute member _ => ?_) held
  rw [beside.recomputes] at member
  exact member

theorem mem_commit : recompute ∈ (before.commit task).recomputes ↔
    recompute ∈ before.recomputes ∧ ¬ (recompute.task = task ∧ recompute.stage = .written) := by
  simp only [Sender.commit, List.mem_filter, decide_eq_true_eq]

theorem commit_step (invariant : Agreed fileId before) :
    (contract fileId identity).Step task (.commit task) fate before (before.commit task) := by
  -- What somebody has still to write outlives the commit.
  have current : Aggregate fileId before.db ∨ ∃ recompute ∈ (before.commit task).recomputes,
      Awaits fileId (before.db.deliveryStates fileId) recompute := by
    refine invariant.current.imp id fun ⟨recompute, member, awaits⟩ => ?_
    refine ⟨recompute, mem_commit.mpr ⟨member, fun written => ?_⟩, awaits⟩
    rcases awaits.2 with changed | seen
    · rw [changed] at written
      exact nomatch written.2
    · rw [seen] at written
      exact nomatch written.2
  refine ⟨⟨current, current.imp id fun ⟨recompute, member, awaits⟩ => ⟨recompute, member, awaits.1⟩⟩, trivial, ?_⟩
  exact fun _ _ => ⟨.of_eq rfl, fun recompute member _ => (mem_commit.mp member).1⟩

theorem commits (lock : Option PeerId) (phase : Phase) (invariant : Agreed fileId before)
    (held : holds fileId task lock phase before) :
    (contract fileId identity).Step task (.commit task) fate before (before.commit task) ∧
      holds fileId task lock phase (before.commit task) := by
  have routes : Database.KeepsRoutes before.db (before.commit task).db := .of_eq rfl
  exact ⟨commit_step invariant, holds_kept lock phase routes (fun _ member _ => (mem_commit.mp member).1) held⟩

theorem mem_noteRecompute : recompute ∈ (before.noteRecompute task other stage).recomputes ↔
    (recompute ∈ before.recomputes ∧ ¬ (recompute.task = task ∧ recompute.fileId = other)) ∨
      recompute = ⟨task, other, stage⟩ := by
  simp only [Sender.noteRecompute, List.mem_append, List.mem_filter, decide_eq_true_eq, List.mem_singleton]

/-- A note about a recomputation, with what it does to the aggregate. -/
theorem notes_step (routes : Database.KeepsRoutes before.db after.db) (committed : after.committed = before.committed)
    (recomputes : after.recomputes = (before.noteRecompute task other stage).recomputes)
    (invariant : Agreed fileId before)
    (current : Aggregate fileId after.db ∨
      ∃ recompute ∈ after.recomputes, Awaits fileId (after.db.deliveryStates fileId) recompute) :
    (contract fileId identity).Step task point fate before after := by
  refine ⟨⟨current, ?_⟩, trivial, fun actor foreign => ⟨routes, fun recompute member theirs => ?_⟩⟩
  · rw [committed, recomputes]
    refine invariant.committed.imp id fun ⟨recompute, member, same⟩ => ?_
    by_cases mine : recompute.task = task ∧ recompute.fileId = other
    · exact ⟨_, mem_noteRecompute.mpr (.inr rfl), mine.2.symm.trans same⟩
    · exact ⟨recompute, mem_noteRecompute.mpr (.inl ⟨member, mine⟩), same⟩
  · rw [recomputes] at member
    rcases mem_noteRecompute.mp member with kept | rfl
    · exact kept.1
    · exact absurd theirs.symm foreign

/-- A note about another file. -/
theorem current_elsewhere (before : Sender) (apart : other ≠ fileId)
    (row : after.db.getFileTransfer fileId = before.db.getFileTransfer fileId)
    (states : after.db.deliveryStates fileId = before.db.deliveryStates fileId)
    (recomputes : after.recomputes = (before.noteRecompute task other stage).recomputes)
    (invariant : Agreed fileId before) : Aggregate fileId after.db ∨
      ∃ recompute ∈ after.recomputes, Awaits fileId (after.db.deliveryStates fileId) recompute := by
  refine invariant.current.imp (aggregate_congr row states) fun ⟨recompute, member, awaits⟩ => ?_
  rw [recomputes, states]
  exact ⟨recompute, mem_noteRecompute.mpr (.inl ⟨member, fun mine => apart (mine.2.symm.trans awaits.1)⟩), awaits⟩

/-- A changed status has its aggregate computed anew. -/
theorem current_changed (states : List FileStatus)
    (recomputes : after.recomputes = (before.noteRecompute task fileId .changed).recomputes) :
    ∃ recompute ∈ after.recomputes, Awaits fileId states recompute := by
  rw [recomputes]
  exact ⟨_, mem_noteRecompute.mpr (.inr rfl), rfl, .inl rfl⟩

theorem notes_drafts (group : transfer.group? ≠ none)
    (recomputes : after.recomputes = (before.noteRecompute task transfer.fileId stage).recomputes)
    (drafts : Drafts fileId task transfer before) : Drafts fileId task transfer after := by
  intro recompute member mine same
  rw [recomputes] at member
  rcases mem_noteRecompute.mp member with kept | rfl
  · exact drafts recompute kept.1 mine same
  · exact ⟨same, group⟩

/-! ## Recomputation -/

def phases : Phases (contract fileId identity) task where
  holds := holds fileId task
  stable := stable
  unmoved := fun _ _ _ _ invariant unmoved => (beside_of_unmoved unmoved).step invariant
  keeps := fun lock phase _ _ unmoved held => (beside_of_unmoved unmoved).kept lock phase held
  commits := fun lock phase _ _ invariant held => commits lock phase invariant held

theorem reads_step (invariant : Agreed fileId before) :
    (contract fileId identity).Step task point fate before
      (before.noteRecompute task other (.seen (before.db.deliveryStates other))) := by
  refine notes_step (.of_eq rfl) rfl rfl invariant ?_
  by_cases same : other = fileId
  · subst same
    exact .inr ⟨_, mem_noteRecompute.mpr (.inr rfl), rfl, .inr rfl⟩
  · exact current_elsewhere before same rfl rfl rfl invariant

/-- The write of an aggregate that rests on current statuses, or is not the last. -/
theorem aggregate_step {seen : List FileStatus} {now : Time} (invariant : Agreed fileId before)
    (granted : other = fileId → seen = before.db.deliveryStates fileId ∨
      ∃ recompute ∈ before.recomputes, recompute.task ≠ task ∧
        Awaits fileId (before.db.deliveryStates fileId) recompute) :
    (contract fileId identity).Step task point fate before ((before.updateDb fun db =>
      db.setFileAggregate other (aggregateStatus seen) now).noteRecompute task other .written) := by
  have writes : Database.WritesStatus before.db (before.db.setFileAggregate other (aggregateStatus seen) now) other
    (aggregateStatus seen) := Database.setFileAggregate_writes
  have states : (before.db.setFileAggregate other (aggregateStatus seen) now).deliveryStates fileId =
    before.db.deliveryStates fileId := deliveryStates_congr writes.deliveries
  refine notes_step writes.keepsRoutes rfl rfl invariant ?_
  by_cases same : other = fileId
  · subst same
    rcases granted rfl with current | ⟨recompute, member, foreign, awaits⟩
    · refine .inl fun row found _ _ => ?_
      cases known : before.db.getFileTransfer other with
      | none =>
          have absent := writes.missing known
          exact nomatch absent.symm.trans found
      | some transfer =>
          obtain ⟨written, located, -, status⟩ := writes.row transfer known
          cases located.symm.trans found
          rw [status]
          exact congrArg aggregateStatus (current.trans states.symm)
    · refine .inr ⟨recompute, mem_noteRecompute.mpr (.inl ⟨member, fun mine => foreign mine.1⟩), ?_⟩
      change Awaits other ((before.db.setFileAggregate other (aggregateStatus seen) now).deliveryStates other) recompute
      rw [states]
      exact awaits
  · exact current_elsewhere before same (writes.others fileId fun equal => same equal.symm) states rfl invariant

theorem recomputes (lock : Option PeerId) (unfinished : List PeerId) {R : SendError → Sender → Prop} :
    (contract fileId identity).Triple task (holds fileId task lock (.drafting transfer unfinished))
      (recomputeAggregate task transfer.fileId) (fun _ => holds fileId task lock (.ready transfer unfinished)) R := by
  refine Triple.bind (Q := fun found sender => holds fileId task lock (.drafting transfer unfinished) sender ∧
    ∃ row, found = some row ∧ row.SameRoute transfer) ?_ fun found => ?_
  · refine Triple.perform (stable lock (.drafting transfer unfinished)) fun fate before invariant held _ => ?_
    obtain ⟨row, located, route⟩ := held.1
    exact ⟨(beside_of_unmoved .refl).step invariant, held, row, located, route⟩
  cases found with
  | none => exact fun _ held => nomatch held.2.choose_spec.1
  | some row =>
      refine Triple.ite (fun direct => Triple.pure fun state held => ?_) fun group state held => ?_
      · obtain ⟨known, same, route⟩ := held.2
        cases same
        refine ⟨held.1.1, fun recompute member mine file => ?_⟩
        exact (held.1.2 recompute member mine file).2 (route.group?.symm.trans direct)
      · obtain ⟨known, same, route⟩ := held.2
        cases same
        have grouped : transfer.group? ≠ none := by
          rw [← route.group?]
          exact group
        refine Triple.bind (P := holds fileId task lock (.drafting transfer unfinished))
          (Q := fun _ => holds fileId task lock (.drafting transfer unfinished)) ?_ (fun states => ?_) state held.1
        · refine Triple.perform (stable lock (.drafting transfer unfinished)) fun fate before invariant held _ => ?_
          exact ⟨reads_step invariant, held.1.kept (.of_eq rfl), notes_drafts grouped rfl held.2⟩
        refine Triple.bind (Q := fun _ (sender : Sender) => sender.Knows transfer ∧ Wrote fileId task sender) ?_ fun _ => ?_
        · refine Triple.perform (stable lock (.drafting transfer unfinished)) fun fate before invariant held admitted => ?_
          refine ⟨aggregate_step invariant admitted, held.1.kept Database.setFileAggregate_writes.keepsRoutes, ?_⟩
          intro recompute member mine file
          rcases mem_noteRecompute.mp member with kept | rfl
          · have ours := held.2 recompute kept.1 mine file
            exact absurd ⟨mine, file.trans ours.1.symm⟩ kept.2
          · rfl
        · refine Triple.perform stable_wrote fun fate before invariant held _ => ?_
          refine ⟨commit_step invariant, held.1, fun recompute member mine file => ?_⟩
          obtain ⟨kept, unwritten⟩ := mem_commit.mp member
          exact unwritten ⟨mine, held.2 recompute kept mine file⟩

/-! ## Operations -/

/-- The statement of a group's delivery. -/
theorem delivers_group (lock : Option PeerId) (unfinished next : List PeerId) {R : SendError → Sender → Prop}
    (group : transfer.group? ≠ none) :
    (contract fileId identity).Triple task (holds fileId task lock (.drafting transfer unfinished))
      (store task (.setDelivery transfer.fileId peerId status))
      (fun _ => holds fileId task lock (.drafting transfer next)) R := by
  refine phases.stores lock (.drafting transfer unfinished) (.drafting transfer next) fun fate before invariant held _ => ?_
  refine ⟨notes_step (.of_eq rfl) rfl rfl invariant ?_, held.1.kept (.of_eq rfl), notes_drafts group rfl held.2⟩
  by_cases same : transfer.fileId = fileId
  · subst same
    exact .inr (current_changed _ rfl)
  · have states : (before.db.setFileDelivery transfer.fileId peerId status fate.now).deliveryStates fileId =
        before.db.deliveryStates fileId :=
      congrArg (List.map FileDelivery.status) (Database.getFileDeliveries_setFileDelivery fun equal => same equal.symm)
    exact current_elsewhere before same rfl states rfl invariant

/-- The row of a direct transfer is no aggregate. -/
theorem beside_direct (writes : Database.WritesStatus before.db after.db transfer.fileId status)
    (knows : before.Knows transfer) (direct : transfer.group? = none) (committed : after.committed = before.committed)
    (recomputes : after.recomputes = before.recomputes) : Beside fileId before after := by
  have states : after.db.deliveryStates fileId = before.db.deliveryStates fileId := deliveryStates_congr writes.deliveries
  refine ⟨writes.keepsRoutes, states, fun right => ?_, committed, recomputes⟩
  by_cases same : fileId = transfer.fileId
  · intro row found _ group
    obtain ⟨known, located, route⟩ := knows
    obtain ⟨written, current, still, -⟩ := writes.row known located
    rw [same] at found
    cases current.symm.trans found
    exact absurd ((still.trans route).group?.trans direct) group
  · exact aggregate_congr (writes.others fileId same) states right

theorem delivers_direct (lock : Option PeerId) (unfinished next : List PeerId) {R : SendError → Sender → Prop}
    (direct : transfer.group? = none) :
    (contract fileId identity).Triple task (holds fileId task lock (.drafting transfer unfinished))
      (store task (.setDirect transfer.fileId transfer.recipientId status))
      (fun _ => holds fileId task lock (.ready transfer next)) R := by
  refine phases.stores lock (.drafting transfer unfinished) (.ready transfer next) fun fate before invariant held _ => ?_
  have beside : Beside fileId before
      (before.execute task (.setDirect transfer.fileId transfer.recipientId status) fate.now) :=
    beside_direct Database.setFileStatusAwaiting_writes held.1 direct rfl rfl
  refine ⟨beside.step invariant, held.1.kept beside.routes, fun recompute member mine same => ?_⟩
  rw [beside.recomputes] at member
  exact (held.2 recompute member mine same).2 direct

theorem delivers (lock : Option PeerId) (unfinished next : List PeerId) {R : SendError → Sender → Prop} :
    (contract fileId identity).Triple task (holds fileId task lock (.drafting transfer unfinished))
      (setDelivery task transfer peerId status) (fun _ => holds fileId task lock (.ready transfer next)) R :=
  phases.setsDelivery lock (.drafting transfer unfinished) (.drafting transfer next) (.ready transfer next)
    (fun group => delivers_group lock unfinished next group) (fun _ => recomputes lock next) fun direct =>
      delivers_direct lock unfinished next direct

theorem saves (next : List PeerId) {R : SendError → Sender → Prop} :
    (contract fileId identity).Triple task (holds fileId task none .idle) (store task (.save transfer))
      (fun _ => holds fileId task none (.drafting transfer next)) R := by
  refine phases.stores none .idle (.drafting transfer next) fun fate before invariant free admitted => ?_
  have saved : (before.execute task (.save transfer) fate.now).db = before.db.saveFileTransfer transfer :=
    Sender.execute_frame.1
  have committed : (before.execute task (.save transfer) fate.now).committed = before.committed :=
    Sender.execute_frame.2.1
  have routes : Database.KeepsRoutes before.db (before.execute task (.save transfer) fate.now).db := by
    rw [saved]
    exact Database.saveFileTransfer_keepsRoutes admitted.1
  have states : (before.execute task (.save transfer) fate.now).db.deliveryStates fileId =
      before.db.deliveryStates fileId := by
    rw [saved]
    rfl
  have elsewhere : fileId ≠ transfer.fileId →
      (before.execute task (.save transfer) fate.now).db.getFileTransfer fileId = before.db.getFileTransfer fileId :=
    fun apart => by
      rw [saved]
      exact Database.getFileTransfer_saveFileTransfer_other apart
  have knows : (before.execute task (.save transfer) fate.now).Knows transfer := by
    refine ⟨transfer, ?_, .refl⟩
    rw [saved]
    exact Database.getFileTransfer_saveFileTransfer
  cases known : transfer.group? with
  | none =>
      have recomputes : (before.execute task (.save transfer) fate.now).recomputes = before.recomputes := by
        unfold Sender.execute Sender.note
        simp only [known]
        rfl
      have beside : Beside fileId before (before.execute task (.save transfer) fate.now) := by
        refine ⟨routes, states, fun right => ?_, committed, recomputes⟩
        by_cases same : fileId = transfer.fileId
        · intro row found _ group
          rw [same, saved] at found
          cases Database.getFileTransfer_saveFileTransfer.symm.trans found
          exact absurd known group
        · exact aggregate_congr (elsewhere same) states right
      have still : Free fileId task (before.execute task (.save transfer) fate.now) :=
        beside.kept none .idle free
      exact ⟨beside.step invariant, knows, still.drafts⟩
  | some groupId =>
      have group : transfer.group? ≠ none := by
        rw [known]
        exact fun impossible => nomatch impossible
      have recomputes : (before.execute task (.save transfer) fate.now).recomputes =
          (before.noteRecompute task transfer.fileId .changed).recomputes := by
        unfold Sender.execute Sender.note
        simp only [known]
        rfl
      have nothing : Drafts fileId task transfer before := Free.drafts free
      refine ⟨notes_step routes committed recomputes invariant ?_, knows, notes_drafts group recomputes nothing⟩
      by_cases same : transfer.fileId = fileId
      · subst same
        exact .inr (current_changed _ recomputes)
      · exact current_elsewhere before same (elsewhere fun equal => same equal.symm) states recomputes invariant

/-- A status that is written over an aggregate without reading the deliveries. -/
theorem sets (lock : Option PeerId) {R : SendError → Sender → Prop} :
    (contract fileId identity).Triple task (holds fileId task lock (.ready transfer []))
      (store task (.setStatus transfer.fileId (directRecipient transfer) status))
      (fun _ => holds fileId task lock (.ready transfer [])) R := by
  by_cases known : transfer.group? = none
  · rw [directRecipient_direct known]
    refine phases.stores lock (.ready transfer []) (.ready transfer []) fun fate before invariant held _ => ?_
    have beside : Beside fileId before
        (before.execute task (.setStatus transfer.fileId (some transfer.recipientId) status) fate.now) :=
      beside_direct Database.setFileStatus_writes held.1 known rfl rfl
    exact ⟨beside.step invariant, beside.kept lock (.ready transfer []) held⟩
  · rw [directRecipient_group known]
    refine phases.stores lock (.ready transfer []) (.ready transfer []) fun fate before invariant held admitted => ?_
    have writes : Database.WritesStatus before.db
        (before.execute task (.setStatus transfer.fileId none status) fate.now).db transfer.fileId status :=
      Database.setFileStatus_writes
    have states : (before.execute task (.setStatus transfer.fileId none status) fate.now).db.deliveryStates fileId =
        before.db.deliveryStates fileId := deliveryStates_congr writes.deliveries
    refine ⟨⟨⟨?_, invariant.committed⟩, trivial, fun _ _ => ⟨writes.keepsRoutes, fun _ member _ => member⟩⟩,
      held.1.kept writes.keepsRoutes, held.2⟩
    rw [states]
    by_cases same : transfer.fileId = fileId
    · subst same
      refine (admitted rfl).imp (fun right row found _ _ => ?_) id
      obtain ⟨current, located, -⟩ := held.1
      obtain ⟨written, replaced, -, value⟩ := writes.row current located
      cases replaced.symm.trans found
      rw [value]
      exact right.trans (congrArg aggregateStatus states.symm)
    · refine invariant.current.imp (aggregate_congr (writes.others fileId fun equal => same equal.symm) states) id

def rules (task : Nat) : Rules identity (contract fileId identity) task where
  toPhases := phases
  finds := fun _ _ _ held found => ⟨Sender.knows_of_found found, held⟩
  recognises := fun _ _ _ _ held found => ⟨Sender.knows_of_found found, held⟩
  forgets := fun _ _ _ held => held.2
  acceptsDirect := fun _ _ _ _ held found _ _ _ _ => ⟨Sender.knows_of_found found, held⟩
  acceptsGroup := fun _ _ _ _ _ held _ _ _ _ => held
  releases := fun _ _ _ held => held.2
  drafts := fun _ _ _ _ held => ⟨held.1, held.2.drafts⟩
  rereads := fun _ _ _ _ held => by
    obtain ⟨row, found, known, route⟩ := held.1.reread
    refine ⟨row, found, ⟨known, fun recompute member mine same => ?_⟩, route⟩
    obtain ⟨file, group⟩ := held.2 recompute member mine same
    rw [route.fileId, route.group?]
    exact ⟨file, group⟩
  reroutes := fun _ _ _ _ _ route held => ⟨held.1.reroute route, held.2⟩
  delivers := fun lock transfer unfinished recipientId status _ _ =>
    delivers lock unfinished (settle unfinished (addressee transfer recipientId) status)
  completes := fun peerId _ _ _ =>
    (delivers (some peerId) [] []).weaken (fun _ held => ⟨held.1, held.2.drafts⟩) (fun _ _ held => held.2) fun _ _ => id
  recomputes := fun lock _ unfinished _ => recomputes lock unfinished
  saves := fun transfer _ _ _ => saves (directRecipient transfer).toList
  marks := fun _ unfinished recipientId status _ group _ =>
    delivers_group none unfinished (settle unfinished recipientId status) group
  widens := fun _ _ _ _ _ _ held => held
  passesOver := fun transfer unfinished recipientId _ _ =>
    Triple.perform (stable none (.drafting transfer unfinished)) fun _ before invariant held _ => by
      have beside : Beside fileId before (before.closeWindow task transfer.fileId recipientId) :=
        ⟨.of_eq rfl, rfl, id, rfl, rfl⟩
      exact ⟨beside.step invariant, held⟩
  sees := fun lock transfer unfinished recipientId _ =>
    Triple.perform (stable lock (.ready transfer unfinished)) fun fate before invariant held _ => by
      have beside : Beside fileId before (if decide (statusOf before transfer recipientId = some .completed) = true then
          before.closeWindow task transfer.fileId (addressee transfer recipientId) else before) := by
        split <;> exact ⟨.of_eq rfl, rfl, id, rfl, rfl⟩
      exact ⟨beside.step invariant, beside.kept lock (.ready transfer unfinished) held⟩
  sets := fun lock _ _ _ _ => sets lock
  raises := fun _ _ _ _ _ _ admitted invalid held => fun recompute member mine same => by
    obtain ⟨file, -⟩ := held.2 recompute member mine same
    rw [admitted file] at invalid
    cases invalid
  locks := fun _ _ _ invariant held _ => ⟨Beside.step ⟨.of_eq rfl, rfl, id, rfl, rfl⟩ invariant, held⟩
  unlocks := fun _ _ _ invariant held => ⟨Beside.step ⟨.of_eq rfl, rfl, id, rfl, rfl⟩ invariant, held⟩

/-- Every operation starts and ends with nothing to compute anew. -/
theorem finishes {dumps : Json → Bytes} {encryptForRecipient : Bytes → Bytes → Json → Bytes} :
    Pool.Completes (contract fileId identity) (fun task => holds fileId task none .idle)
      (sendService identity dumps encryptForRecipient) := by
  refine ⟨fun task => stable none .idle, fun request task state _ left => ?_⟩
  refine (rules task).sendProgram (fun surroundings fate before invariant held => ?_) state left
  have beside : Beside fileId before (before.surround surroundings) := ⟨.of_eq rfl, rfl, id, rfl, rfl⟩
  exact ⟨beside.step invariant, beside.kept none .idle held⟩

end Aggregates

/-! ## Aggregates at rest -/

section

variable {crypto : FileCrypto} {identity : Identity crypto} {dumps : Json → Bytes}
  {encryptForRecipient : Bytes → Bytes → Json → Bytes} {final : Pool Sender SendFate SendPoint SendError}
  {events : List (PoolEvent SendFate SendRequest)} {fileId : String} {sender : Sender} {transfer : FileTransfer}

/-- The process does not stop while what a restart would find still has to be
computed anew. -/
def Aggregates.MayStop (fileId : String) (pool : Pool Sender SendFate SendPoint SendError) : Prop :=
  Aggregates.Aggregate fileId pool.shared.committed ∨
    ∀ recompute ∈ pool.shared.recomputes, recompute.fileId = fileId → (pool.pointAt recompute.task).isSome = false

instance Aggregates.decidableMayStop {pool : Pool Sender SendFate SendPoint SendError} :
    Decidable (Aggregates.MayStop fileId pool) := by
  unfold Aggregates.MayStop
  infer_instance

abbrev Aggregates.Settled (identity : Identity crypto) (fileId : String)
    (pool : Pool Sender SendFate SendPoint SendError) : Prop :=
  Pool.Settled (Aggregates.contract fileId identity) (fun task => Aggregates.holds fileId task none .idle) pool

/-- Only an operation that has not ended has something to compute anew. -/
theorem Aggregates.running (settled : Aggregates.Settled identity fileId final) :
    ∀ recompute ∈ final.shared.recomputes, recompute.fileId = fileId → (final.pointAt recompute.task).isSome = true := by
  intro recompute member about
  unfold Pool.pointAt
  cases found : final.tasks[recompute.task]? with
  | none => exact absurd about (settled.unstarted recompute.task (List.getElem?_eq_none_iff.mp found) recompute member rfl)
  | some task =>
      cases task with
      | suspended point ready act next => rfl
      | done value => exact absurd about (settled.tasks recompute.task _ found recompute member rfl)
      | failed error => exact absurd about (settled.tasks recompute.task _ found recompute member rfl)

theorem Aggregates.reboots (settled : Aggregates.Settled identity fileId final)
    (stops : Aggregates.MayStop fileId final) :
    Aggregates.Agreed fileId final.shared.reboot ∧
      ∀ task, Aggregates.holds fileId task none .idle final.shared.reboot := by
  have right : Aggregates.Aggregate fileId final.shared.committed := by
    rcases stops with right | idle
    · exact right
    · refine settled.invariant.committed.resolve_right fun ⟨recompute, member, same⟩ => ?_
      have active := Aggregates.running settled recompute member same
      rw [idle recompute member same] at active
      cases active
  exact ⟨⟨.inl right, .inl right⟩, fun task recompute member => nomatch member⟩

/-- When no operation is in progress, the aggregate is that of the deliveries. -/
theorem aggregate_at_rest (initial : Aggregates.Aggregate fileId sender.committed)
    (meets : Meets (Pool.step (sendService identity dumps encryptForRecipient))
      (Pool.StoppingAt (Aggregates.Guarded fileId identity) (Aggregates.MayStop fileId)) (processStart sender) events)
    (completed : run (Pool.step (sendService identity dumps encryptForRecipient)) (processStart sender) events = some final)
    (rest : ∀ task ∈ final.tasks, task.point? = none)
    (found : final.shared.db.getFileTransfer fileId = some transfer) (outbound : transfer.direction = .outbound)
    (group : transfer.group? ≠ none) :
    transfer.status = aggregateStatus (final.shared.db.deliveryStates fileId) ∧
      (transfer.status = .completed ↔ final.shared.db.deliveryStates fileId ≠ [] ∧
        ∀ status ∈ final.shared.db.deliveryStates fileId, status = .completed) := by
  have start : Aggregates.Settled identity fileId (processStart sender) :=
    ⟨⟨.inl initial, .inl initial⟩, (fun _ _ found => nomatch found), fun _ _ _ member => nomatch member⟩
  have settled := Pool.run_settled Aggregates.finishes (fun _ settled stops => Aggregates.reboots settled stops) start meets
    completed
  have right : Aggregates.Aggregate fileId final.shared.db :=
    settled.invariant.current.resolve_right fun ⟨recompute, member, awaits⟩ =>
      settled.ended rest recompute.task recompute member rfl awaits.1
  have status := right transfer found outbound group
  exact ⟨status, status ▸ aggregateStatus_completed⟩

end

/-- A document sent to Bob and Carol, who have not acknowledged it yet. -/
def sharedTransfer : FileTransfer where
  fileId := documentId
  filename := "document"
  fileSize := 64
  chunkSize := maxFileChunkSize
  totalChunks := 1
  senderId := "self"
  recipientId := ""
  groupId := some "team"
  direction := .outbound
  status := .transferring
  filePath := some ["document"]
  createdAt := 0
  completedAt := none
  receivedChunks := 0
  fileSha256 := "digest"
  caption := ""
  batchId := none
  batchIndex := none
  batchCount := none
  awaitingAckAt := none

def sharedSender : Sender :=
  let saved := ({} : Database).saveFileTransfer sharedTransfer
  { emptySender with
    committed := (saved.setFileDelivery documentId "bob" .sent 0).setFileDelivery documentId "carol" .sent 0 }

def bothAcknowledge : List (PoolEvent SendFate SendRequest) :=
  [.start (ackFrom "bob" .completed), .start (ackFrom "carol" .completed)]

theorem shared_in_turn :
    ∃ final transfer, run (Pool.step plainSender) (processStart sharedSender)
        (bothAcknowledge ++ senderTurns 0 15 ++ senderTurns 1 15) = some final ∧
      final.shared.db.getFileTransfer documentId = some transfer ∧
      transfer.status = aggregateStatus (final.shared.db.deliveryStates documentId) := by
  have checked : (run (Pool.step plainSender) (processStart sharedSender)
      (bothAcknowledge ++ senderTurns 0 15 ++ senderTurns 1 15)).any (fun final =>
        decide (∀ task ∈ final.tasks, task.point?.isNone) &&
          (final.shared.db.getFileTransfer documentId).any fun transfer =>
            decide (transfer.direction = .outbound ∧ transfer.group? ≠ none)) = true := by
    decide +kernel
  have meets : Meets (Pool.step plainSender)
      (Pool.StoppingAt (Aggregates.Guarded documentId plainIdentity) (Aggregates.MayStop documentId))
      (processStart sharedSender) (bothAcknowledge ++ senderTurns 0 15 ++ senderTurns 1 15) := by
    decide +kernel
  obtain ⟨final, completed, both⟩ := Option.any_eq_true .. |>.mp checked
  obtain ⟨ended, known⟩ := Bool.and_eq_true_iff.mp both
  obtain ⟨transfer, found, kind⟩ := Option.any_eq_true .. |>.mp known
  obtain ⟨outbound, group⟩ := of_decide_eq_true kind
  have rest : ∀ task ∈ final.tasks, task.point? = none := fun task member =>
    Option.isNone_iff_eq_none.mp (of_decide_eq_true ended task member)
  exact ⟨final, transfer, completed, found,
    (aggregate_at_rest (by decide +kernel) meets completed rest found outbound group).1⟩

/-- Bob's handler has read Carol's old status when hers runs, and writes last. -/
theorem shared_out_of_date :
    ∃ final transfer, run (Pool.step plainSender) (processStart sharedSender)
        (bothAcknowledge ++ senderTurns 0 9 ++ senderTurns 1 15 ++ senderTurns 0 6) = some final ∧
      (∀ task ∈ final.tasks, task.point? = none) ∧ final.shared.db.getFileTransfer documentId = some transfer ∧
      (∀ status ∈ final.shared.db.deliveryStates documentId, status = .completed) ∧ transfer.status = .transferring ∧
      transfer.status ≠ aggregateStatus (final.shared.db.deliveryStates documentId) := by
  have checked : (run (Pool.step plainSender) (processStart sharedSender)
      (bothAcknowledge ++ senderTurns 0 9 ++ senderTurns 1 15 ++ senderTurns 0 6)).any (fun final =>
        decide (∀ task ∈ final.tasks, task.point?.isNone) &&
          (final.shared.db.getFileTransfer documentId).any fun transfer =>
            decide ((∀ status ∈ final.shared.db.deliveryStates documentId, status = .completed) ∧
              transfer.status = .transferring ∧
              transfer.status ≠ aggregateStatus (final.shared.db.deliveryStates documentId))) = true := by
    decide +kernel
  obtain ⟨final, completed, both⟩ := Option.any_eq_true .. |>.mp checked
  obtain ⟨ended, known⟩ := Bool.and_eq_true_iff.mp both
  obtain ⟨transfer, found, stale⟩ := Option.any_eq_true .. |>.mp known
  refine ⟨final, transfer, completed, fun task member => ?_, found, of_decide_eq_true stale⟩
  exact Option.isNone_iff_eq_none.mp (of_decide_eq_true ended task member)

end MeshTalk.Deliveries
