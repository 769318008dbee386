import MeshTalk.Library.Task

namespace MeshTalk.Library

/-! # Tasks that pass through phases

What a task may do next can depend on what it has done before.  Such a history is
kept outside the shared state, as a phase of the task that each of its actions
moves on; no action reads it.
-/

structure PhaseRule (σ ι ℓ τ : Type) where
  begins : τ
  permits : τ → ℓ → Prop
  acts : ℓ → ι → σ → σ → Prop
  advance : τ → ℓ → ι → σ → τ

namespace PhaseRule

variable {σ ι ℓ ε τ ρ α β : Type} {rule : PhaseRule σ ι ℓ τ}

/-- From a phase on, the task does what its phases permit, and ends in a phase that
fits its result. -/
def Obeyed (rule : PhaseRule σ ι ℓ τ) (exit : α → τ → Prop) (failure : ε → τ → Prop) : Task σ ι ℓ ε α → τ → Prop
  | .done value, phase => exit value phase
  | .failed error, phase => failure error phase
  | .suspended point _ act next, phase =>
      rule.permits phase point ∧ ∀ input state, rule.acts point input state (act input state) ∧
        Obeyed rule exit failure (next input state) (rule.advance phase point input state)

section Obeyed

variable {task : Task σ ι ℓ ε α} {exit laxer : α → τ → Prop} {failure allowed : ε → τ → Prop} {phase : τ} {point : ℓ}

theorem Obeyed.pure {value : α} (ends : exit value phase) :
    rule.Obeyed exit failure (Pure.pure value : Task σ ι ℓ ε α) phase := ends

theorem Obeyed.weaken (obeyed : rule.Obeyed exit failure task phase) (exits : ∀ value phase, exit value phase → laxer value phase)
    (fails : ∀ error phase, failure error phase → allowed error phase) : rule.Obeyed laxer allowed task phase := by
  induction task generalizing phase with
  | done value => exact exits value phase obeyed
  | failed error => exact fails error phase obeyed
  | suspended point ready act next ih =>
      exact ⟨obeyed.1, fun input state => ⟨(obeyed.2 input state).1, ih input state (obeyed.2 input state).2⟩⟩

theorem Obeyed.bind {following : α → Task σ ι ℓ ε β} {final : β → τ → Prop}
    (leading : rule.Obeyed (fun value => rule.Obeyed final failure (following value)) failure task phase) :
    rule.Obeyed final failure (task >>= following) phase := by
  induction task generalizing phase with
  | done value => exact leading
  | failed error => exact leading
  | suspended point ready act next ih =>
      exact ⟨leading.1, fun input state => ⟨(leading.2 input state).1, ih input state (leading.2 input state).2⟩⟩

theorem Obeyed.ite {condition : Prop} [Decidable condition] {accepted rejected : Task σ ι ℓ ε α}
    (whenTrue : condition → rule.Obeyed exit failure accepted phase)
    (whenFalse : ¬ condition → rule.Obeyed exit failure rejected phase) :
    rule.Obeyed exit failure (if condition then accepted else rejected) phase := by
  by_cases holds : condition
  · rw [if_pos holds]; exact whenTrue holds
  · rw [if_neg holds]; exact whenFalse holds

theorem Obeyed.perform {handler : ι → Handler σ ε α} (permitted : rule.permits phase point)
    (acts : ∀ input state, rule.acts point input state (handler input state).2 ∧
      match (handler input state).1 with
      | .ok value => exit value (rule.advance phase point input state)
      | .error error => failure error (rule.advance phase point input state)) :
    rule.Obeyed exit failure (Task.perform point handler) phase := by
  refine ⟨permitted, fun input state => ⟨(acts input state).1, ?_⟩⟩
  have ends := (acts input state).2
  change rule.Obeyed exit failure (Task.ofOutcome (handler input state).1) _
  cases outcome : (handler input state).1 with
  | ok value => rwa [outcome] at ends
  | error error => rwa [outcome] at ends

theorem Obeyed.recover {handler : ε → Task σ ι ℓ ε α}
    (tried : rule.Obeyed exit (fun error => rule.Obeyed exit failure (handler error)) task phase) :
    rule.Obeyed exit failure (task.recover handler) phase := by
  induction task generalizing phase with
  | done value => exact tried
  | failed error => exact tried
  | suspended point ready act next ih =>
      exact ⟨tried.1, fun input state => ⟨(tried.2 input state).1, ih input state (tried.2 input state).2⟩⟩

theorem Obeyed.ensuring {cleanup : Task σ ι ℓ ε Unit}
    (tried : rule.Obeyed (fun value => rule.Obeyed (fun _ => exit value) failure cleanup)
      (fun error => rule.Obeyed (fun _ => failure error) failure cleanup) task phase) :
    rule.Obeyed exit failure (task.ensuring cleanup) phase := by
  induction task generalizing phase with
  | done value => exact Obeyed.bind (tried.weaken (fun _ _ ended => ended) fun _ _ => id)
  | failed error => exact Obeyed.bind (tried.weaken (fun _ _ ended => ended) fun _ _ => id)
  | suspended point ready act next ih =>
      exact ⟨tried.1, fun input state => ⟨(tried.2 input state).1, ih input state (tried.2 input state).2⟩⟩

end Obeyed

end PhaseRule

/-! ## Pools -/

/-- A pool with the phases its tasks are in. -/
structure PhasedPool (σ ι ℓ ε τ : Type) where
  pool : Pool σ ι ℓ ε
  phases : List τ

namespace PhasedPool

variable {σ ι ℓ ε τ ρ : Type} (rule : PhaseRule σ ι ℓ τ) (service : Service σ ι ℓ ε ρ)

/-- The phases after an event. -/
def advance (phased : PhasedPool σ ι ℓ ε τ) : PoolEvent ι ρ → List τ
  | .start _ => phased.phases ++ [rule.begins]
  | .resume index input =>
      match phased.pool.pointAt index, phased.phases[index]? with
      | some point, some phase => phased.phases.set index (rule.advance phase point input phased.pool.shared)
      | _, _ => phased.phases
  | .restart => []

def step (phased : PhasedPool σ ι ℓ ε τ) (event : PoolEvent ι ρ) : Option (PhasedPool σ ι ℓ ε τ) :=
  (phased.pool.step service event).map fun pool => { pool, phases := phased.advance rule event }

/-- Every task obeys the rule from its phase on. -/
structure Obeys (phased : PhasedPool σ ι ℓ ε τ) : Prop where
  paired : phased.phases.length = phased.pool.tasks.length
  obeyed : ∀ (index : Nat) task phase, phased.pool.tasks[index]? = some task → phased.phases[index]? = some phase →
    rule.Obeyed (fun _ _ => True) (fun _ _ => True) task phase

variable {rule service} {phased next : PhasedPool σ ι ℓ ε τ} {index : Nat} {input : ι}

/-- What the resumption of a task does. -/
theorem step_resume (obeys : phased.Obeys rule) (stepped : phased.step rule service (.resume index input) = some next) :
    ∃ point phase, phased.pool.pointAt index = some point ∧ phased.phases[index]? = some phase ∧
      rule.permits phase point ∧ rule.acts point input phased.pool.shared next.pool.shared ∧
      next.phases = phased.phases.set index (rule.advance phase point input phased.pool.shared) ∧ next.Obeys rule := by
  simp only [step, Option.map_eq_some_iff] at stepped
  obtain ⟨pool, moved, rfl⟩ := stepped
  obtain ⟨point, ready, act, further, found, -, shared, tasks⟩ := Pool.step_resume moved
  have suspended : phased.pool.pointAt index = some point := by rw [Pool.pointAt, found]; rfl
  have inside : index < phased.phases.length := by
    rw [obeys.paired]
    exact (List.getElem?_eq_some_iff.mp found).1
  obtain ⟨permitted, acts⟩ := obeys.obeyed index _ _ found (List.getElem?_eq_getElem inside)
  have phases : phased.advance rule (.resume index input : PoolEvent ι ρ) =
      phased.phases.set index (rule.advance phased.phases[index] point input phased.pool.shared) := by
    rw [advance, suspended, List.getElem?_eq_getElem inside]
  refine ⟨point, phased.phases[index], suspended, List.getElem?_eq_getElem inside, permitted, ?_, phases, ?_, ?_⟩
  · exact shared ▸ (acts input phased.pool.shared).1
  · rw [phases, List.length_set, tasks, List.length_set, obeys.paired]
  · intro other task phase held reached
    rw [tasks, List.getElem?_set] at held
    rw [phases, List.getElem?_set] at reached
    split at held
    · rename_i same
      subst same
      rw [if_pos rfl, if_pos inside] at reached
      rw [if_pos (obeys.paired ▸ inside)] at held
      cases held
      cases reached
      exact (acts input phased.pool.shared).2
    · rename_i apart
      rw [if_neg apart] at reached
      exact obeys.obeyed other task phase held reached

theorem step_start {request : ρ} (obeys : phased.Obeys rule)
    (program : rule.Obeyed (fun _ _ => True) (fun _ _ => True) (service.program request phased.pool.tasks.length) rule.begins)
    (stepped : phased.step rule service (.start request) = some next) :
    next.pool.shared = phased.pool.shared ∧ next.phases = phased.phases ++ [rule.begins] ∧ next.Obeys rule := by
  cases stepped
  refine ⟨rfl, rfl, ?_, ?_⟩
  · rw [advance, List.length_append, List.length_append, obeys.paired]
    rfl
  · intro index task phase held reached
    change (phased.phases ++ [rule.begins])[index]? = some phase at reached
    rcases Nat.lt_or_ge index phased.pool.tasks.length with inside | outside
    · rw [List.getElem?_append_left inside] at held
      rw [List.getElem?_append_left (obeys.paired ▸ inside)] at reached
      exact obeys.obeyed index task phase held reached
    · rw [List.getElem?_append_right outside] at held
      rw [List.getElem?_append_right (obeys.paired ▸ outside), obeys.paired] at reached
      cases at_ : index - phased.pool.tasks.length with
      | zero =>
          rw [at_] at held reached
          cases held
          cases reached
          exact program
      | succ more =>
          rw [at_] at held
          cases held

end PhasedPool

end MeshTalk.Library
