import MeshTalk.Library.Handler
import MeshTalk.Library.Machine

namespace MeshTalk.Library

/-! # Cooperative tasks

A coroutine is the tree of its atomic actions.  Between two of them it is
suspended at a named point and every other task may run; what the environment
decides about an action (clock readings, faults) is the input it is resumed
with.  The rules below are those of rely and guarantee: a suspended task holds
an assertion on the shared state that what the other tasks may do keeps.
-/

inductive Task (σ ι ℓ ε α : Type) : Type where
  | done (value : α)
  | failed (error : ε)
  | suspended (point : ℓ) (ready : σ → Bool) (act : ι → σ → σ) (next : ι → σ → Task σ ι ℓ ε α)

namespace Task

variable {σ ι ℓ ε α β : Type}

def bind : Task σ ι ℓ ε α → (α → Task σ ι ℓ ε β) → Task σ ι ℓ ε β
  | done value, following => following value
  | failed error, _ => failed error
  | suspended point ready act next, following =>
      suspended point ready act fun input state => (next input state).bind following

instance : Monad (Task σ ι ℓ ε) where
  pure := done
  bind := bind

/-- An atomic action that waits until the shared state admits it. -/
def acquire (point : ℓ) (ready : σ → Bool) (update : σ → σ) : Task σ ι ℓ ε Unit :=
  suspended point ready (fun _ => update) fun _ _ => done ()

def ofOutcome : Except ε α → Task σ ι ℓ ε α
  | .ok value => done value
  | .error error => failed error

/-- An atomic action: a handler run from one suspension to the next. -/
def perform (point : ℓ) (handler : ι → Handler σ ε α) : Task σ ι ℓ ε α :=
  suspended point (fun _ => true) (fun input state => (handler input state).2) fun input state =>
    ofOutcome (handler input state).1

/-- `try ... except`. -/
def recover (task : Task σ ι ℓ ε α) (handler : ε → Task σ ι ℓ ε α) : Task σ ι ℓ ε α :=
  match task with
  | done value => done value
  | failed error => handler error
  | suspended point ready act next =>
      suspended point ready act fun input state => (next input state).recover handler

/-- `try ... finally`. -/
def ensuring (task : Task σ ι ℓ ε α) (cleanup : Task σ ι ℓ ε Unit) : Task σ ι ℓ ε α :=
  match task with
  | done value => cleanup.bind fun _ => done value
  | failed error => cleanup.bind fun _ => failed error
  | suspended point ready act next =>
      suspended point ready act fun input state => (next input state).ensuring cleanup

/-- `for item in items: body`. -/
def forEach (items : List β) (body : β → Task σ ι ℓ ε Unit) : Task σ ι ℓ ε Unit :=
  match items with
  | [] => done ()
  | item :: rest => (body item).bind fun _ => forEach rest body

def point? : Task σ ι ℓ ε α → Option ℓ
  | suspended point _ _ _ => some point
  | _ => none

/-- Every point of the task is one of `points`, and its action is the one the
point stands for. -/
def Follows (effect : ℓ → ι → σ → σ) (points : ℓ → Prop) : Task σ ι ℓ ε α → Prop
  | done _ => True
  | failed _ => True
  | suspended point _ act next =>
      points point ∧ act = effect point ∧ ∀ input state, (next input state).Follows effect points

section Follows

variable {effect : ℓ → ι → σ → σ} {points wider : ℓ → Prop} {task : Task σ ι ℓ ε α} {point : ℓ}

theorem Follows.pure {value : α} : (Pure.pure value : Task σ ι ℓ ε α).Follows effect points := trivial

theorem Follows.failed {error : ε} : (Task.failed error : Task σ ι ℓ ε α).Follows effect points := trivial

theorem Follows.mono (follows : task.Follows effect points) (included : ∀ point, points point → wider point) :
    task.Follows effect wider := by
  induction task with
  | done value => trivial
  | failed error => trivial
  | suspended point ready act next ih =>
      exact ⟨included point follows.1, follows.2.1, fun input state => ih input state (follows.2.2 input state)⟩

theorem Follows.bind {following : α → Task σ ι ℓ ε β} (leading : task.Follows effect points)
    (continues : ∀ value, (following value).Follows effect points) : (task >>= following).Follows effect points := by
  induction task with
  | done value => exact continues value
  | failed error => trivial
  | suspended point ready act next ih =>
      exact ⟨leading.1, leading.2.1, fun input state => ih input state (leading.2.2 input state)⟩

theorem Follows.ite {condition : Prop} [Decidable condition] {accepted rejected : Task σ ι ℓ ε α}
    (whenTrue : accepted.Follows effect points) (whenFalse : rejected.Follows effect points) :
    (if condition then accepted else rejected).Follows effect points := by
  by_cases holds : condition
  · rw [if_pos holds]; exact whenTrue
  · rw [if_neg holds]; exact whenFalse

theorem Follows.perform {handler : ι → Handler σ ε α} (known : points point)
    (same : ∀ input state, (handler input state).2 = effect point input state) :
    (Task.perform point handler).Follows effect points := by
  refine ⟨known, funext fun input => funext fun state => same input state, fun input state => ?_⟩
  change (ofOutcome (handler input state).1).Follows effect points
  cases (handler input state).1 <;> trivial

theorem Follows.acquire {ready : σ → Bool} {update : σ → σ} (known : points point)
    (same : ∀ input, update = effect point input) :
    (Task.acquire point ready update : Task σ ι ℓ ε Unit).Follows effect points :=
  ⟨known, funext same, fun _ _ => trivial⟩

theorem Follows.recover {handler : ε → Task σ ι ℓ ε α} (tried : task.Follows effect points)
    (caught : ∀ error, (handler error).Follows effect points) : (task.recover handler).Follows effect points := by
  induction task with
  | done value => trivial
  | failed error => exact caught error
  | suspended point ready act next ih =>
      exact ⟨tried.1, tried.2.1, fun input state => ih input state (tried.2.2 input state)⟩

theorem Follows.ensuring {cleanup : Task σ ι ℓ ε Unit} (tried : task.Follows effect points)
    (cleaned : cleanup.Follows effect points) : (task.ensuring cleanup).Follows effect points := by
  induction task with
  | done value => exact Follows.bind cleaned fun _ => trivial
  | failed error => exact Follows.bind cleaned fun _ => trivial
  | suspended point ready act next ih =>
      exact ⟨tried.1, tried.2.1, fun input state => ih input state (tried.2.2 input state)⟩

theorem Follows.forEach {items : List β} {body : β → Task σ ι ℓ ε Unit}
    (each : ∀ item ∈ items, (body item).Follows effect points) : (forEach items body).Follows effect points := by
  induction items with
  | nil => trivial
  | cons item rest ih =>
      exact Follows.bind (each item (List.mem_cons_self ..)) fun _ =>
        ih fun other member => each other (List.mem_cons_of_mem _ member)

end Follows

/-- Every action of the task, whatever it is resumed with, relates the states
before and after it. -/
def Within (relation : σ → σ → Prop) : Task σ ι ℓ ε α → Prop
  | done _ => True
  | failed _ => True
  | suspended _ _ act next =>
      (∀ input state, relation state (act input state)) ∧ ∀ input state, (next input state).Within relation

section Within

variable {relation : σ → σ → Prop} {task : Task σ ι ℓ ε α} {point : ℓ}

theorem Within.pure {value : α} : (Pure.pure value : Task σ ι ℓ ε α).Within relation := trivial

theorem Within.failed {error : ε} : (Task.failed error : Task σ ι ℓ ε α).Within relation := trivial

theorem Within.bind {following : α → Task σ ι ℓ ε β} (leading : task.Within relation)
    (continues : ∀ value, (following value).Within relation) : (task >>= following).Within relation := by
  induction task with
  | done value => exact continues value
  | failed error => trivial
  | suspended point ready act next ih => exact ⟨leading.1, fun input state => ih input state (leading.2 input state)⟩

theorem Within.ite {condition : Prop} [Decidable condition] {accepted rejected : Task σ ι ℓ ε α}
    (whenTrue : accepted.Within relation) (whenFalse : rejected.Within relation) :
    (if condition then accepted else rejected).Within relation := by
  by_cases holds : condition
  · rw [if_pos holds]; exact whenTrue
  · rw [if_neg holds]; exact whenFalse

theorem Within.perform {handler : ι → Handler σ ε α} (related : ∀ input state, relation state (handler input state).2) :
    (Task.perform point handler).Within relation := by
  refine ⟨related, fun input state => ?_⟩
  change (ofOutcome (handler input state).1).Within relation
  cases (handler input state).1 <;> trivial

theorem Within.recover {handler : ε → Task σ ι ℓ ε α} (tried : task.Within relation)
    (caught : ∀ error, (handler error).Within relation) : (task.recover handler).Within relation := by
  induction task with
  | done value => trivial
  | failed error => exact caught error
  | suspended point ready act next ih => exact ⟨tried.1, fun input state => ih input state (tried.2 input state)⟩

theorem Within.ensuring {cleanup : Task σ ι ℓ ε Unit} (tried : task.Within relation)
    (cleaned : cleanup.Within relation) : (task.ensuring cleanup).Within relation := by
  induction task with
  | done value => exact Within.bind cleaned fun _ => trivial
  | failed error => exact Within.bind cleaned fun _ => trivial
  | suspended point ready act next ih => exact ⟨tried.1, fun input state => ih input state (tried.2 input state)⟩

theorem Within.forEach {items : List β} {body : β → Task σ ι ℓ ε Unit}
    (each : ∀ item, (body item).Within relation) : (forEach items body).Within relation := by
  induction items with
  | nil => trivial
  | cons item rest ih => exact Within.bind (each item) fun _ => ih

end Within

/-- As `Within`, of a task that does not raise. -/
def Steady (relation : σ → σ → Prop) : Task σ ι ℓ ε α → Prop
  | done _ => True
  | failed _ => False
  | suspended _ _ act next =>
      (∀ input state, relation state (act input state)) ∧ ∀ input state, (next input state).Steady relation

section Steady

variable {relation : σ → σ → Prop} {task : Task σ ι ℓ ε α} {point : ℓ}

theorem Steady.within (steady : task.Steady relation) : task.Within relation := by
  induction task with
  | done value => trivial
  | failed error => trivial
  | suspended point ready act next ih => exact ⟨steady.1, fun input state => ih input state (steady.2 input state)⟩

theorem Steady.pure {value : α} : (Pure.pure value : Task σ ι ℓ ε α).Steady relation := trivial

theorem Steady.bind {following : α → Task σ ι ℓ ε β} (leading : task.Steady relation)
    (continues : ∀ value, (following value).Steady relation) : (task >>= following).Steady relation := by
  induction task with
  | done value => exact continues value
  | failed error => exact leading.elim
  | suspended point ready act next ih => exact ⟨leading.1, fun input state => ih input state (leading.2 input state)⟩

theorem Steady.ite {condition : Prop} [Decidable condition] {accepted rejected : Task σ ι ℓ ε α}
    (whenTrue : accepted.Steady relation) (whenFalse : rejected.Steady relation) :
    (if condition then accepted else rejected).Steady relation := by
  by_cases holds : condition
  · rw [if_pos holds]; exact whenTrue
  · rw [if_neg holds]; exact whenFalse

theorem Steady.perform {handler : ι → Handler σ ε α} (related : ∀ input state, relation state (handler input state).2)
    (returns : ∀ input state, ∃ value, (handler input state).1 = .ok value) : (Task.perform point handler).Steady relation := by
  refine ⟨related, fun input state => ?_⟩
  obtain ⟨value, returned⟩ := returns input state
  change (ofOutcome (handler input state).1).Steady relation
  rw [returned]
  trivial

end Steady

/-- Resume a task once: the task it becomes and the state it leaves. -/
def resume : Task σ ι ℓ ε α → ι → σ → Option (Task σ ι ℓ ε α × σ)
  | suspended _ ready act next, input, state =>
      if ready state then some (next input state, act input state) else none
  | _, _, _ => none

end Task

/-- What the tasks of a program rely on and guarantee.  `rely` is what a step of
another task may do in the eyes of a task, given by its number in the pool;
`admits` is what a run grants the task that acts. -/
structure Contract (σ ι ℓ : Type) where
  invariant : σ → Prop
  rely : Nat → σ → σ → Prop
  admits : ℓ → ι → σ → Prop
  guarantees : ℓ → ι → σ → σ → Prop

namespace Contract

variable {σ ι ℓ ε α β : Type}

/-- No step of another task invalidates the assertion. -/
def Stable (contract : Contract σ ι ℓ) (self : Nat) (assertion : σ → Prop) : Prop :=
  ∀ before after, contract.invariant before → contract.invariant after → contract.rely self before after →
    assertion before → assertion after

/-- What a step owes to the run and to the other tasks. -/
structure Step (contract : Contract σ ι ℓ) (actor : Nat) (point : ℓ) (input : ι) (before after : σ) : Prop where
  invariant : contract.invariant after
  guaranteed : contract.guarantees point input before after
  relied : ∀ other, other ≠ actor → contract.rely other before after

/-- The task keeps the contract from a state in which it may be suspended, and
ends in states satisfying `exit` or `failure`. -/
def Honours (contract : Contract σ ι ℓ) (self : Nat) (exit : α → σ → Prop) (failure : ε → σ → Prop) :
    Task σ ι ℓ ε α → σ → Prop
  | .done value, state => exit value state
  | .failed error, state => failure error state
  | .suspended point ready act next, state => ∃ assertion : σ → Prop,
      assertion state ∧ contract.Stable self assertion ∧
      ∀ input before, contract.invariant before → assertion before → ready before = true →
        contract.admits point input before →
        contract.Step self point input before (act input before) ∧
          contract.Honours self exit failure (next input before) (act input before)

variable {contract : Contract σ ι ℓ} {self : Nat} {exit : α → σ → Prop} {failure : ε → σ → Prop}
  {task : Task σ ι ℓ ε α} {state : σ} {point : ℓ}

theorem Honours.pure {value : α} (ends : exit value state) :
    contract.Honours self exit failure (Pure.pure value : Task σ ι ℓ ε α) state := ends

theorem Honours.weaken {laxer : α → σ → Prop} {allowed : ε → σ → Prop}
    (honours : contract.Honours self exit failure task state)
    (exits : ∀ value state, exit value state → laxer value state)
    (fails : ∀ error state, failure error state → allowed error state) :
    contract.Honours self laxer allowed task state := by
  induction task generalizing state with
  | done value => exact exits value state honours
  | failed error => exact fails error state honours
  | suspended point ready act next ih =>
      obtain ⟨assertion, held, stable, acts⟩ := honours
      refine ⟨assertion, held, stable, fun input before kept held opened admitted => ?_⟩
      obtain ⟨step, continues⟩ := acts input before kept held opened admitted
      exact ⟨step, ih input before continues⟩

theorem Honours.bind {following : α → Task σ ι ℓ ε β} {final : β → σ → Prop}
    (leading : contract.Honours self (fun value => contract.Honours self final failure (following value)) failure task state) :
    contract.Honours self final failure (task >>= following) state := by
  induction task generalizing state with
  | done value => exact leading
  | failed error => exact leading
  | suspended point ready act next ih =>
      obtain ⟨assertion, held, stable, acts⟩ := leading
      refine ⟨assertion, held, stable, fun input before kept held opened admitted => ?_⟩
      obtain ⟨step, continues⟩ := acts input before kept held opened admitted
      exact ⟨step, ih input before continues⟩

theorem Honours.recover {handler : ε → Task σ ι ℓ ε α}
    (tried : contract.Honours self exit (fun error => contract.Honours self exit failure (handler error)) task state) :
    contract.Honours self exit failure (task.recover handler) state := by
  induction task generalizing state with
  | done value => exact tried
  | failed error => exact tried
  | suspended point ready act next ih =>
      obtain ⟨assertion, held, stable, acts⟩ := tried
      refine ⟨assertion, held, stable, fun input before kept held opened admitted => ?_⟩
      obtain ⟨step, continues⟩ := acts input before kept held opened admitted
      exact ⟨step, ih input before continues⟩

theorem Honours.ensuring {cleanup : Task σ ι ℓ ε Unit}
    (tried : contract.Honours self
      (fun value => contract.Honours self (fun _ => exit value) failure cleanup)
      (fun error => contract.Honours self (fun _ => failure error) failure cleanup) task state) :
    contract.Honours self exit failure (task.ensuring cleanup) state := by
  induction task generalizing state with
  | done value => exact Honours.bind tried
  | failed error => exact Honours.bind tried
  | suspended point ready act next ih =>
      obtain ⟨assertion, held, stable, acts⟩ := tried
      refine ⟨assertion, held, stable, fun input before kept held opened admitted => ?_⟩
      obtain ⟨step, continues⟩ := acts input before kept held opened admitted
      exact ⟨step, ih input before continues⟩

theorem Honours.acquire {ready : σ → Bool} {update : σ → σ} {exit : Unit → σ → Prop} {P : σ → Prop}
    (held : P state) (stable : contract.Stable self P)
    (acts : ∀ input before, contract.invariant before → P before → ready before = true →
      contract.admits point input before →
      contract.Step self point input before (update before) ∧ exit () (update before)) :
    contract.Honours self exit failure (Task.acquire point ready update) state :=
  ⟨P, held, stable, acts⟩

theorem Honours.perform {handler : ι → Handler σ ε α} {P : σ → Prop}
    (held : P state) (stable : contract.Stable self P)
    (acts : ∀ input before, contract.invariant before → P before → contract.admits point input before →
      contract.Step self point input before (handler input before).2 ∧
        match handler input before with
        | (.ok value, after) => exit value after
        | (.error error, after) => failure error after) :
    contract.Honours self exit failure (Task.perform point handler) state := by
  refine ⟨P, held, stable, fun input before kept held _ admitted => ?_⟩
  obtain ⟨step, ends⟩ := acts input before kept held admitted
  refine ⟨step, ?_⟩
  change contract.Honours self exit failure (Task.ofOutcome (handler input before).1) (handler input before).2
  rcases run : handler input before with ⟨outcome, after⟩
  rw [run] at ends
  cases outcome <;> exact ends

theorem Honours.forEach {items : List β} {body : β → Task σ ι ℓ ε Unit} {between : σ → Prop}
    (each : ∀ item ∈ items, ∀ state, between state →
      contract.Honours self (fun _ => between) failure (body item) state)
    (initial : between state) :
    contract.Honours self (fun _ => between) failure (Task.forEach items body) state := by
  induction items generalizing state with
  | nil => exact initial
  | cons item rest ih =>
      refine Honours.bind (Honours.weaken (each item (List.mem_cons_self ..) state initial) ?_ fun _ _ => id)
      exact fun _ reached kept => ih (fun other member => each other (List.mem_cons_of_mem _ member)) kept

/-- A task whose actions all keep one assertion. -/
theorem Honours.ofFollows {effect : ℓ → ι → σ → σ} {points : ℓ → Prop} {P : σ → Prop}
    (follows : task.Follows effect points) (held : P state) (stable : contract.Stable self P)
    (acts : ∀ point input before, points point → contract.invariant before → P before →
      contract.admits point input before →
      contract.Step self point input before (effect point input before) ∧ P (effect point input before)) :
    contract.Honours self (fun _ => P) (fun _ => P) task state := by
  induction task generalizing state with
  | done value => exact held
  | failed error => exact held
  | suspended point ready act next ih =>
      obtain ⟨known, same, further⟩ := follows
      subst same
      refine ⟨P, held, stable, fun input before kept held _ admitted => ?_⟩
      obtain ⟨step, still⟩ := acts point input before known kept held admitted
      exact ⟨step, ih input before (further input before) still⟩

/-- A task of which no action concerns the contract. -/
theorem Honours.ofWithin {relation : σ → σ → Prop} {P : σ → Prop} (within : task.Within relation) (held : P state)
    (stable : contract.Stable self P)
    (acts : ∀ point input before after, contract.invariant before → relation before after →
      contract.Step self point input before after)
    (kept : ∀ before after, relation before after → P before → P after) :
    contract.Honours self (fun _ => P) (fun _ => P) task state := by
  induction task generalizing state with
  | done value => exact held
  | failed error => exact held
  | suspended point ready act next ih =>
      refine ⟨P, held, stable, fun input before invariant held _ _ => ?_⟩
      exact ⟨acts point input before _ invariant (within.1 input before),
        ih input before (within.2 input before) (kept before _ (within.1 input before) held)⟩

/-- A task of which only the fact that it runs matters. -/
abbrev Keeps (contract : Contract σ ι ℓ) (self : Nat) (task : Task σ ι ℓ ε α) (state : σ) : Prop :=
  contract.Honours self (fun _ _ => True) (fun _ _ => True) task state

/-! ## Invariants alone

Where no point needs an assertion, a task is judged by what each of its actions
does to an invariant and by the values it passes on.
-/

/-- The contract that asks only for an invariant. -/
def ofInvariant (invariant : σ → Prop) (admits : ℓ → ι → σ → Prop) : Contract σ ι ℓ where
  invariant
  rely := fun _ _ _ => True
  admits
  guarantees := fun _ _ _ _ => True

theorem ofInvariant_stable {invariant : σ → Prop} {admits : ℓ → ι → σ → Prop} :
    (ofInvariant invariant admits).Stable self fun _ => True :=
  fun _ _ _ _ _ _ => trivial

/-- The task keeps the invariant whenever it acts and returns values satisfying `exit`. -/
def Preserves (invariant : σ → Prop) (admits : ℓ → ι → σ → Prop) (exit : α → Prop) (task : Task σ ι ℓ ε α) : Prop :=
  ∀ self state, (ofInvariant invariant admits).Honours self (fun value _ => exit value) (fun _ _ => True) task state

section Preserves

variable {invariant : σ → Prop} {admits : ℓ → ι → σ → Prop} {exit : α → Prop} {Q : β → Prop}
  {task : Task σ ι ℓ ε α} {point : ℓ}

theorem Preserves.pure {value : α} (ends : exit value) :
    Preserves invariant admits exit (Pure.pure value : Task σ ι ℓ ε α) :=
  fun _ _ => ends

theorem Preserves.failed {error : ε} : Preserves invariant admits exit (Task.failed error : Task σ ι ℓ ε α) :=
  fun _ _ => trivial

theorem Preserves.weaken {laxer : α → Prop} (preserves : Preserves invariant admits exit task)
    (exits : ∀ value, exit value → laxer value) : Preserves invariant admits laxer task :=
  fun self state => (preserves self state).weaken (fun value _ => exits value) fun _ _ => id

theorem Preserves.bind {first : Task σ ι ℓ ε β} {following : β → Task σ ι ℓ ε α}
    (leading : Preserves invariant admits Q first)
    (continues : ∀ value, Q value → Preserves invariant admits exit (following value)) :
    Preserves invariant admits exit (first >>= following) :=
  fun self state => Honours.bind ((leading self state).weaken (fun value after held => continues value held self after) fun _ _ => id)

theorem Preserves.ite {condition : Prop} [Decidable condition] {accepted rejected : Task σ ι ℓ ε α}
    (whenTrue : condition → Preserves invariant admits exit accepted)
    (whenFalse : ¬ condition → Preserves invariant admits exit rejected) :
    Preserves invariant admits exit (if condition then accepted else rejected) := by
  by_cases holds : condition
  · rw [if_pos holds]; exact whenTrue holds
  · rw [if_neg holds]; exact whenFalse holds

theorem Preserves.perform {handler : ι → Handler σ ε α}
    (acts : ∀ input, (handler input).Ensures (fun state => invariant state ∧ admits point input state)
      (fun value state => invariant state ∧ exit value) invariant) :
    Preserves invariant admits exit (Task.perform point handler) := by
  refine fun self state => Honours.perform (trivial : (fun _ => True) state) ofInvariant_stable
    fun input before kept _ admitted => ?_
  have acted := acts input before ⟨kept, admitted⟩
  rcases run : handler input before with ⟨outcome, after⟩
  rw [run] at acted
  cases outcome with
  | ok value => exact ⟨⟨acted.1, trivial, fun _ _ => trivial⟩, acted.2⟩
  | error error => exact ⟨⟨acted, trivial, fun _ _ => trivial⟩, trivial⟩

theorem Preserves.acquire {ready : σ → Bool} {update : σ → σ}
    (kept : ∀ state, invariant state → invariant (update state)) :
    Preserves invariant admits (fun _ => True) (Task.acquire point ready update : Task σ ι ℓ ε Unit) :=
  fun _ state => Honours.acquire (trivial : (fun _ => True) state) ofInvariant_stable fun _ before held _ _ _ =>
    ⟨⟨kept before held, trivial, fun _ _ => trivial⟩, trivial⟩

theorem Preserves.recover {handler : ε → Task σ ι ℓ ε α} (tried : Preserves invariant admits exit task)
    (caught : ∀ error, Preserves invariant admits exit (handler error)) :
    Preserves invariant admits exit (task.recover handler) :=
  fun self state => Honours.recover ((tried self state).weaken (fun _ _ => id) fun error after _ => caught error self after)

theorem Preserves.ofWithin {relation : σ → σ → Prop} (within : task.Within relation)
    (kept : ∀ before after, relation before after → invariant before → invariant after) :
    Preserves invariant admits (fun _ => True) task :=
  fun _ _ => Honours.ofWithin (P := fun _ => True) within trivial ofInvariant_stable
    (fun _ _ before after held related => ⟨kept before after related held, trivial, fun _ _ => trivial⟩)
    fun _ _ _ _ => trivial

theorem Preserves.ensuring {cleanup : Task σ ι ℓ ε Unit} (tried : Preserves invariant admits exit task)
    (cleaned : Preserves invariant admits (fun _ => True) cleanup) :
    Preserves invariant admits exit (task.ensuring cleanup) :=
  fun self state => Honours.ensuring ((tried self state).weaken
    (fun _ after held => (cleaned self after).weaken (fun _ _ _ => held) fun _ _ _ => trivial)
    fun _ after _ => (cleaned self after).weaken (fun _ _ _ => trivial) fun _ _ _ => trivial)

theorem Preserves.forEach {items : List β} {body : β → Task σ ι ℓ ε Unit}
    (each : ∀ item ∈ items, Preserves invariant admits (fun _ => True) (body item)) :
    Preserves invariant admits (fun _ => True) (Task.forEach items body) :=
  fun self _ => Honours.forEach (fun item member state _ => each item member self state) trivial

end Preserves

/-! ## Triples -/

/-- From every state satisfying `before` the task keeps the contract and ends in
states satisfying `exit` or `failure`. -/
def Triple (contract : Contract σ ι ℓ) (self : Nat) (before : σ → Prop) (task : Task σ ι ℓ ε α) (exit : α → σ → Prop)
    (failure : ε → σ → Prop) : Prop :=
  ∀ state, before state → contract.Honours self exit failure task state

section Triple

variable {P S : σ → Prop} {Q : α → σ → Prop} {R E : ε → σ → Prop} {following : α → Task σ ι ℓ ε β} {final : β → σ → Prop}

theorem Triple.pure {value : α} (ends : ∀ state, P state → Q value state) :
    contract.Triple self P (Pure.pure value : Task σ ι ℓ ε α) Q R :=
  ends

theorem Triple.failed {error : ε} (ends : ∀ state, P state → R error state) :
    contract.Triple self P (Task.failed error : Task σ ι ℓ ε α) Q R :=
  ends

theorem Triple.weaken {laxer : α → σ → Prop} (triple : contract.Triple self P task Q E)
    (strengthens : ∀ state, S state → P state) (exits : ∀ value state, Q value state → laxer value state)
    (fails : ∀ error state, E error state → R error state) : contract.Triple self S task laxer R :=
  fun state held => (triple state (strengthens state held)).weaken exits fails

theorem Triple.bind (leading : contract.Triple self P task Q R)
    (continues : ∀ value, contract.Triple self (Q value) (following value) final R) :
    contract.Triple self P (task >>= following) final R :=
  fun state held => Honours.bind ((leading state held).weaken continues fun _ _ => id)

theorem Triple.ite {condition : Prop} [Decidable condition] {accepted rejected : Task σ ι ℓ ε α}
    (whenTrue : condition → contract.Triple self P accepted Q R)
    (whenFalse : ¬ condition → contract.Triple self P rejected Q R) :
    contract.Triple self P (if condition then accepted else rejected) Q R := by
  by_cases holds : condition
  · rw [if_pos holds]; exact whenTrue holds
  · rw [if_neg holds]; exact whenFalse holds

theorem Triple.perform {handler : ι → Handler σ ε α} (stable : contract.Stable self P)
    (acts : ∀ input state, contract.invariant state → P state → contract.admits point input state →
      contract.Step self point input state (handler input state).2 ∧
        match handler input state with
        | (.ok value, next) => Q value next
        | (.error error, next) => R error next) :
    contract.Triple self P (Task.perform point handler) Q R :=
  fun _ held => Honours.perform held stable acts

theorem Triple.acquire {ready : σ → Bool} {update : σ → σ} {Q : Unit → σ → Prop} (stable : contract.Stable self P)
    (acts : ∀ input state, contract.invariant state → P state → ready state = true →
      contract.admits point input state → contract.Step self point input state (update state) ∧ Q () (update state)) :
    contract.Triple self P (Task.acquire point ready update) Q R :=
  fun _ held => Honours.acquire held stable acts

theorem Triple.recover {handler : ε → Task σ ι ℓ ε α} (tried : contract.Triple self P task Q E)
    (caught : ∀ error, contract.Triple self (E error) (handler error) Q R) :
    contract.Triple self P (task.recover handler) Q R :=
  fun state held => Honours.recover ((tried state held).weaken (fun _ _ => id) caught)

theorem Triple.ensuring {cleanup : Task σ ι ℓ ε Unit} {reached : α → σ → Prop}
    (tried : contract.Triple self P task reached E)
    (returned : ∀ value, contract.Triple self (reached value) cleanup (fun _ => Q value) R)
    (threw : ∀ error, contract.Triple self (E error) cleanup (fun _ => R error) R) :
    contract.Triple self P (task.ensuring cleanup) Q R :=
  fun state held => Honours.ensuring ((tried state held).weaken returned threw)

theorem Triple.forEach {items : List β} {body : β → Task σ ι ℓ ε Unit}
    (each : ∀ item ∈ items, contract.Triple self P (body item) (fun _ => P) R) :
    contract.Triple self P (Task.forEach items body) (fun _ => P) R :=
  fun _ held => Honours.forEach each held

theorem Triple.ofWithin {relation : σ → σ → Prop} (within : task.Within relation) (stable : contract.Stable self P)
    (acts : ∀ point input state next, contract.invariant state → relation state next →
      contract.Step self point input state next)
    (kept : ∀ state next, relation state next → P state → P next) :
    contract.Triple self P task (fun _ => P) (fun _ => P) :=
  fun _ held => Honours.ofWithin within held stable acts kept

theorem Triple.ofSteady {relation : σ → σ → Prop} (steady : task.Steady relation) (stable : contract.Stable self P)
    (acts : ∀ point input state next, contract.invariant state → relation state next →
      contract.Step self point input state next)
    (kept : ∀ state next, relation state next → P state → P next) :
    contract.Triple self P task (fun _ => P) R := by
  intro state held
  induction task generalizing state with
  | done value => exact held
  | failed error => exact steady.elim
  | suspended point ready act next ih =>
      refine ⟨P, held, stable, fun input state invariant held _ _ => ?_⟩
      exact ⟨acts point input state _ invariant (steady.1 input state),
        ih input state (steady.2 input state) _ (kept state _ (steady.1 input state) held)⟩

end Triple

end Contract

/-! ## Pools of tasks -/

structure Pool (σ ι ℓ ε : Type) where
  shared : σ
  tasks : List (Task σ ι ℓ ε Unit)

/-- `restart` is the end of the process and its next start: no task survives. -/
inductive PoolEvent (ι ρ : Type) where
  | start (request : ρ)
  | resume (index : Nat) (input : ι)
  | restart
deriving DecidableEq, Repr

/-- The process goes on. -/
def PoolEvent.Running : PoolEvent ι ρ → Prop
  | restart => False
  | _ => True

instance {event : PoolEvent ι ρ} : Decidable event.Running := by
  cases event <;> simp only [PoolEvent.Running] <;> infer_instance

/-- The tasks a process starts, each told its number, and what the next start of
the process makes of the state. -/
structure Service (σ ι ℓ ε ρ : Type) where
  program : ρ → Nat → Task σ ι ℓ ε Unit
  reboot : σ → σ

namespace Pool

variable {σ ι ℓ ε ρ : Type}

def step (service : Service σ ι ℓ ε ρ) (pool : Pool σ ι ℓ ε) : PoolEvent ι ρ → Option (Pool σ ι ℓ ε)
  | .start request => some { pool with tasks := pool.tasks ++ [service.program request pool.tasks.length] }
  | .resume index input => do
      let task ← pool.tasks[index]?
      let (rest, shared) ← task.resume input pool.shared
      some { shared, tasks := pool.tasks.set index rest }
  | .restart => some { shared := service.reboot pool.shared, tasks := [] }

/-- The point a task of the pool is suspended at. -/
def pointAt (pool : Pool σ ι ℓ ε) (index : Nat) : Option ℓ := pool.tasks[index]?.bind Task.point?

/-- What a run grants each of its steps. -/
def Allowed (admits : ℓ → ι → σ → Prop) (pool : Pool σ ι ℓ ε) : PoolEvent ι ρ → Prop
  | .resume index input => ∀ point ∈ pool.pointAt index, admits point input pool.shared
  | _ => True

instance [∀ point input state, Decidable (admits point input state)] {pool : Pool σ ι ℓ ε} {event : PoolEvent ι ρ} :
    Decidable (Allowed admits pool event) := by
  cases event <;> simp only [Allowed] <;> infer_instance

structure Sound (contract : Contract σ ι ℓ) (pool : Pool σ ι ℓ ε) : Prop where
  invariant : contract.invariant pool.shared
  tasks : ∀ index task, pool.tasks[index]? = some task → contract.Keeps index task pool.shared

/-- What makes a contract hold of every run of a service. -/
structure Fulfils (contract : Contract σ ι ℓ) (service : Service σ ι ℓ ε ρ) : Prop where
  starts : ∀ request self state, contract.invariant state → contract.Keeps self (service.program request self) state
  reboots : ∀ state, contract.invariant state → contract.invariant (service.reboot state)

variable {contract : Contract σ ι ℓ} {service : Service σ ι ℓ ε ρ} {pool next start final : Pool σ ι ℓ ε}
  {index : Nat} {input : ι}

theorem step_resume (stepped : pool.step service (.resume index input) = some next) :
    ∃ point ready act further, pool.tasks[index]? = some (.suspended point ready act further) ∧
      ready pool.shared = true ∧ next.shared = act input pool.shared ∧
      next.tasks = pool.tasks.set index (further input pool.shared) := by
  simp only [step, Option.bind_eq_bind, Option.bind_eq_some_iff] at stepped
  obtain ⟨task, found, ⟨rest, shared⟩, resumed, built⟩ := stepped
  cases task with
  | done value => cases resumed
  | failed error => cases resumed
  | suspended point ready act further =>
      simp only [Task.resume] at resumed
      split at resumed
      · rename_i opened
        cases resumed
        cases built
        exact ⟨point, ready, act, further, found, opened, rfl, rfl⟩
      · cases resumed

/-- A task that does not act stays where it is. -/
theorem honours_of_rely {self : Nat} {task : Task σ ι ℓ ε Unit} {before after : σ} {leaves : σ → Prop}
    (kept : contract.Honours self (fun _ => leaves) (fun _ => leaves) task before) (stable : contract.Stable self leaves)
    (invariant : contract.invariant before) (still : contract.invariant after) (relied : contract.rely self before after) :
    contract.Honours self (fun _ => leaves) (fun _ => leaves) task after := by
  cases task with
  | done value => exact stable before after invariant still relied kept
  | failed error => exact stable before after invariant still relied kept
  | suspended point ready act next =>
      obtain ⟨assertion, held, assertionStable, acts⟩ := kept
      exact ⟨assertion, assertionStable before after invariant still relied held, assertionStable, acts⟩

/-- A pool whose tasks leave something behind: `leaves` holds of a number as
long as no task has it and once its task has ended. -/
structure Settled (contract : Contract σ ι ℓ) (leaves : Nat → σ → Prop) (pool : Pool σ ι ℓ ε) : Prop where
  invariant : contract.invariant pool.shared
  tasks : ∀ index task, pool.tasks[index]? = some task →
    contract.Honours index (fun _ => leaves index) (fun _ => leaves index) task pool.shared
  unstarted : ∀ index, pool.tasks.length ≤ index → leaves index pool.shared

/-- What makes every run of a service settle. -/
structure Completes (contract : Contract σ ι ℓ) (leaves : Nat → σ → Prop) (service : Service σ ι ℓ ε ρ) : Prop where
  stable : ∀ self, contract.Stable self (leaves self)
  starts : ∀ request self state, contract.invariant state → leaves self state →
    contract.Honours self (fun _ => leaves self) (fun _ => leaves self) (service.program request self) state

variable {leaves : Nat → σ → Prop}

theorem Settled.ended (settled : Settled contract leaves pool) (all : ∀ task ∈ pool.tasks, task.point? = none)
    (index : Nat) : leaves index pool.shared := by
  cases found : pool.tasks[index]? with
  | none => exact settled.unstarted index (List.getElem?_eq_none_iff.mp found)
  | some task =>
      have honours := settled.tasks index task found
      have ended := all task (List.mem_of_getElem? found)
      cases task with
      | done value => exact honours
      | failed error => exact honours
      | suspended point ready act next => cases ended

/-- The step rule while the process runs: an allowed step keeps the pool settled
and guarantees what the contract says of the point it was taken from. -/
theorem step_settled {event : PoolEvent ι ρ} (completes : Completes contract leaves service)
    (settled : Settled contract leaves pool) (allowed : Allowed contract.admits pool event) (running : event.Running)
    (stepped : pool.step service event = some next) :
    Settled contract leaves next ∧ ∀ index input, event = .resume index input →
      ∀ point ∈ pool.pointAt index, contract.guarantees point input pool.shared next.shared := by
  cases event with
  | start request =>
      cases stepped
      refine ⟨⟨settled.invariant, fun index task found => ?_, fun index beyond => ?_⟩, fun _ _ impossible => nomatch impossible⟩
      · rcases Nat.lt_or_ge index pool.tasks.length with running | added
        · rw [List.getElem?_append_left running] at found
          exact settled.tasks index task found
        · rw [List.getElem?_append_right added] at found
          have last : index = pool.tasks.length := by
            have := (List.getElem?_eq_some_iff.mp found).1
            simp only [List.length_cons, List.length_nil] at this
            omega
          subst last
          rw [Nat.sub_self] at found
          cases found
          exact completes.starts request _ pool.shared settled.invariant (settled.unstarted _ (Nat.le_refl _))
      · rw [List.length_append] at beyond
        exact settled.unstarted index (by omega)
  | restart => cases running
  | resume index input =>
      obtain ⟨point, ready, act, further, found, opened, shared, tasks⟩ := step_resume stepped
      have acting := settled.tasks index _ found
      have current : pool.pointAt index = some point := by rw [pointAt, found]; rfl
      obtain ⟨assertion, held, -, acts⟩ := acting
      obtain ⟨acted, continues⟩ := acts input pool.shared settled.invariant held opened (allowed point current)
      rw [← shared] at acted continues
      refine ⟨⟨acted.invariant, fun position task located => ?_, fun position beyond => ?_⟩, ?_⟩
      · rw [tasks, List.getElem?_set] at located
        split at located
        · rename_i same
          subst same
          split at located
          · cases located
            exact continues
          · cases located
        · rename_i elsewhere
          exact honours_of_rely (settled.tasks position task located) (completes.stable position) settled.invariant
            acted.invariant (acted.relied position (Ne.symm elsewhere))
      · rw [tasks, List.length_set] at beyond
        have other : position ≠ index := fun same => by
          have := (List.getElem?_eq_some_iff.mp found).1
          omega
        exact completes.stable position _ _ settled.invariant acted.invariant (acted.relied position other)
          (settled.unstarted position beyond)
      · intro resumed fate same suspendedAt located
        cases same
        cases current.symm.trans located
        exact acted.guaranteed

/-- What a run whose process only stops where `mayStop` holds grants its steps. -/
def StoppingAt (admits : ℓ → ι → σ → Prop) (mayStop : Pool σ ι ℓ ε → Prop) (pool : Pool σ ι ℓ ε)
    (event : PoolEvent ι ρ) : Prop :=
  Allowed admits pool event ∧ (event = .restart → mayStop pool)

instance {mayStop : Pool σ ι ℓ ε → Prop} [∀ point input state, Decidable (admits point input state)]
    [∀ pool, Decidable (mayStop pool)] {pool : Pool σ ι ℓ ε} {event : PoolEvent ι ρ} :
    Decidable (StoppingAt admits mayStop pool event) :=
  match event with
  | .restart => decidable_of_iff (mayStop pool) ⟨fun stops => ⟨trivial, fun _ => stops⟩, fun allowed => allowed.2 rfl⟩
  | .start _ => isTrue ⟨trivial, fun impossible => nomatch impossible⟩
  | .resume index input => decidable_of_iff (Allowed (ρ := ρ) admits pool (.resume index input))
      ⟨fun allowed => ⟨allowed, fun impossible => nomatch impossible⟩, And.left⟩

/-- The run rule for settled pools: each stop is judged where it falls. -/
theorem run_settled {events : List (PoolEvent ι ρ)} {mayStop : Pool σ ι ℓ ε → Prop}
    (completes : Completes contract leaves service)
    (reboots : ∀ pool : Pool σ ι ℓ ε, Settled contract leaves pool → mayStop pool →
      contract.invariant (service.reboot pool.shared) ∧ ∀ index, leaves index (service.reboot pool.shared))
    (initial : Settled contract leaves start)
    (meets : Meets (step service) (StoppingAt contract.admits mayStop) start events)
    (completed : run (step service) start events = some final) : Settled contract leaves final := by
  refine run_invariant (Settled contract leaves) (fun pool event next settled allowed stepped => ?_) initial meets completed
  cases event with
  | restart =>
      cases stepped
      obtain ⟨invariant, left⟩ := reboots pool settled (allowed.2 rfl)
      exact ⟨invariant, (fun index task found => by cases found), fun index _ => left index⟩
  | start request => exact (step_settled completes settled allowed.1 trivial stepped).1
  | resume index input => exact (step_settled completes settled allowed.1 trivial stepped).1

theorem Sound.settled (sound : Sound contract pool) : Settled contract (fun _ _ => True) pool :=
  ⟨sound.invariant, sound.tasks, fun _ _ => trivial⟩

/-- The step rule: an allowed step keeps the pool sound and guarantees what the
contract says of the point it was taken from. -/
theorem step_sound {event : PoolEvent ι ρ} (fulfils : Fulfils contract service) (sound : Sound contract pool)
    (allowed : Allowed contract.admits pool event) (stepped : pool.step service event = some next) :
    Sound contract next ∧ ∀ index input, event = .resume index input →
      ∀ point ∈ pool.pointAt index, contract.guarantees point input pool.shared next.shared := by
  have completes : Completes contract (fun _ _ => True) service :=
    ⟨fun _ _ _ _ _ _ _ => trivial, fun request self state invariant _ => fulfils.starts request self state invariant⟩
  cases event with
  | restart =>
      cases stepped
      refine ⟨⟨fulfils.reboots _ sound.invariant, fun index task found => ?_⟩, fun _ _ impossible => nomatch impossible⟩
      cases found
  | start request =>
      obtain ⟨settled, guaranteed⟩ := step_settled completes sound.settled allowed trivial stepped
      exact ⟨⟨settled.invariant, settled.tasks⟩, guaranteed⟩
  | resume index input =>
      obtain ⟨settled, guaranteed⟩ := step_settled completes sound.settled allowed trivial stepped
      exact ⟨⟨settled.invariant, settled.tasks⟩, guaranteed⟩

/-- The run rule: every state of an allowed run is sound. -/
theorem run_sound {events : List (PoolEvent ι ρ)} (fulfils : Fulfils contract service)
    (initial : Sound contract start) (meets : Meets (step service) (Allowed contract.admits) start events)
    (completed : run (step service) start events = some final) : Sound contract final :=
  run_invariant (Sound contract)
    (fun _ _ _ sound allowed stepped => (step_sound fulfils sound allowed stepped).1) initial meets completed

/-! ### Tasks whose points tell what they do -/

/-- Every task of the pool follows the effects of its points. -/
def Obeys (effect : ℓ → ι → σ → σ) (points : ℓ → Prop) (pool : Pool σ ι ℓ ε) : Prop :=
  ∀ task ∈ pool.tasks, task.Follows effect points

/-- What an event does to the shared state, in terms of the points. -/
def Effected (service : Service σ ι ℓ ε ρ) (effect : ℓ → ι → σ → σ) (points : ℓ → Prop) (pool next : Pool σ ι ℓ ε) :
    PoolEvent ι ρ → Prop
  | .start _ => next.shared = pool.shared
  | .resume index input =>
      ∃ point, pool.pointAt index = some point ∧ points point ∧ next.shared = effect point input pool.shared
  | .restart => next.shared = service.reboot pool.shared

theorem step_obeys {effect : ℓ → ι → σ → σ} {points : ℓ → Prop} {event : PoolEvent ι ρ}
    (programs : ∀ request self, (service.program request self).Follows effect points)
    (obeys : Obeys effect points pool) (stepped : pool.step service event = some next) :
    Obeys effect points next ∧ Effected service effect points pool next event := by
  cases event with
  | start request =>
      cases stepped
      refine ⟨?_, rfl⟩
      intro task member
      rcases List.mem_append.mp member with known | added
      · exact obeys task known
      · cases List.mem_singleton.mp added
        exact programs request _
  | restart =>
      cases stepped
      refine ⟨?_, rfl⟩
      intro task member
      cases member
  | resume index input =>
      obtain ⟨point, ready, act, further, found, _, shared, tasks⟩ := step_resume stepped
      obtain ⟨known, same, follows⟩ := obeys _ (List.mem_of_getElem? found)
      refine ⟨?_, point, by rw [pointAt, found]; rfl, known, by rw [shared, same]⟩
      intro task member
      rw [tasks] at member
      rcases List.mem_or_eq_of_mem_set member with other | rfl
      · exact obeys task other
      · exact follows input pool.shared

/-- The run rule for programs whose points tell what they do: it asks nothing of
the tasks themselves. -/
theorem run_obeys {effect : ℓ → ι → σ → σ} {points : ℓ → Prop} {events : List (PoolEvent ι ρ)} (invariant : σ → Prop)
    (admits : Pool σ ι ℓ ε → PoolEvent ι ρ → Prop)
    (programs : ∀ request self, (service.program request self).Follows effect points)
    (acts : ∀ pool : Pool σ ι ℓ ε, ∀ index input point, invariant pool.shared → admits pool (.resume index input) →
      pool.pointAt index = some point → points point → invariant (effect point input pool.shared))
    (reboots : ∀ state, invariant state → invariant (service.reboot state))
    (initial : invariant start.shared ∧ Obeys effect points start) (meets : Meets (step service) admits start events)
    (completed : run (step service) start events = some final) :
    invariant final.shared ∧ Obeys effect points final := by
  refine run_invariant (fun pool => invariant pool.shared ∧ Obeys effect points pool) ?_ initial meets completed
  intro pool event next held allowed stepped
  obtain ⟨obeys, effected⟩ := step_obeys programs held.2 stepped
  refine ⟨?_, obeys⟩
  cases event with
  | start request =>
      rw [show next.shared = pool.shared from effected]
      exact held.1
  | restart =>
      rw [show next.shared = service.reboot pool.shared from effected]
      exact reboots pool.shared held.1
  | resume index input =>
      obtain ⟨point, suspended, known, shared⟩ := effected
      rw [shared]
      exact acts pool index input point held.1 allowed suspended known

theorem Fulfils.ofInvariant {invariant : σ → Prop} {admits : ℓ → ι → σ → Prop}
    (starts : ∀ request self, Contract.Preserves invariant admits (fun _ => True) (service.program request self))
    (reboots : ∀ state, invariant state → invariant (service.reboot state)) :
    Fulfils (Contract.ofInvariant invariant admits) service where
  starts := fun request self state _ => starts request self self state
  reboots := reboots

end Pool

end MeshTalk.Library
