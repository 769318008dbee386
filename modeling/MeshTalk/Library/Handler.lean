namespace MeshTalk.Library

/-! # Handlers that may raise

A handler runs from one suspension point to the next.  What it did to the state
before raising stays done, so its result pairs an outcome with the state left
behind in either case.
-/

def Handler (σ ε α : Type u) := σ → Except ε α × σ

namespace Handler

variable {σ ε α β : Type u}

instance : Monad (Handler σ ε) where
  pure value := fun state => (.ok value, state)
  bind first next := fun state =>
    match first state with
    | (.ok value, middle) => next value middle
    | (.error error, middle) => (.error error, middle)

def raise (error : ε) : Handler σ ε α := fun state => (.error error, state)

def read : Handler σ ε σ := fun state => (.ok state, state)

def change (update : σ → σ) : Handler σ ε PUnit := fun state => (.ok ⟨⟩, update state)

/-- `raise ValueError(...)` under a guard. -/
def refuse (condition : Prop) [Decidable condition] (error : ε) : Handler σ ε PUnit :=
  if condition then raise error else pure ⟨⟩

def orRaise (value : Option α) (error : ε) : Handler σ ε α :=
  match value with
  | some found => pure found
  | none => raise error

/-- `try ... finally` for the exceptional path only. -/
def onRaise (handler : Handler σ ε α) (cleanup : σ → σ) : Handler σ ε α := fun state =>
  match handler state with
  | (.ok value, final) => (.ok value, final)
  | (.error error, final) => (.error error, cleanup final)

/-- `try ... except`. -/
def recover (handler : Handler σ ε α) (rescue : ε → Handler σ ε α) : Handler σ ε α := fun state =>
  match handler state with
  | (.ok value, final) => (.ok value, final)
  | (.error error, final) => rescue error final

/-- `try ... finally`, where an error of the last part replaces one of the first. -/
def ensuring (handler : Handler σ ε α) (last : Handler σ ε PUnit.{u + 1}) : Handler σ ε α := fun state =>
  match handler state with
  | (outcome, middle) =>
      match last middle with
      | (.ok _, final) => (outcome, final)
      | (.error error, final) => (.error error, final)

/-- A loop over values read before it. -/
def forEach (items : List β) (body : β → Handler σ ε PUnit.{u + 1}) : Handler σ ε PUnit :=
  match items with
  | [] => pure ⟨⟩
  | item :: rest => do
      body item
      forEach rest body

/-- The state a caller that logs the exception and goes on is left with. -/
def finish (handler : Handler σ ε α) (state : σ) : σ := (handler state).2

/-- From every state satisfying `before`, the handler returns in a state
satisfying `after` or raises in one satisfying `raised`. -/
def Ensures (before : σ → Prop) (handler : Handler σ ε α) (after : α → σ → Prop)
    (raised : σ → Prop) : Prop :=
  ∀ state, before state →
    match handler state with
    | (.ok value, final) => after value final
    | (.error _, final) => raised final

/-- A handler that keeps an invariant whether or not it raises. -/
abbrev Keeps (invariant : σ → Prop) (handler : Handler σ ε α) : Prop :=
  Ensures invariant handler (fun _ => invariant) invariant

variable {before middle : σ → Prop} {after : β → σ → Prop} {Q : α → σ → Prop}
  {raised : σ → Prop} {handler first : Handler σ ε α} {next : α → Handler σ ε β}

@[simp] theorem pure_apply {value : α} {state : σ} :
    (pure value : Handler σ ε α) state = (.ok value, state) := rfl

theorem bind_apply {state : σ} :
    (first >>= next) state =
      match first state with
      | (.ok value, middle) => next value middle
      | (.error error, middle) => (.error error, middle) := rfl

theorem bind_assoc {γ : Type u} {following : β → Handler σ ε γ} :
    (first >>= next) >>= following = first >>= fun value => next value >>= following := by
  funext state
  rw [bind_apply, bind_apply, bind_apply]
  rcases first state with ⟨outcome, middle⟩
  cases outcome <;> rfl

theorem read_bind {following : σ → Handler σ ε β} {state : σ} : (read >>= following) state = following state state := rfl

theorem change_bind {update : σ → σ} {following : PUnit → Handler σ ε β} {state : σ} :
    (change update >>= following) state = following ⟨⟩ (update state) := rfl

theorem refuse_of {condition : Prop} [Decidable condition] {error : ε} {state : σ} (holds : condition) :
    (refuse condition error : Handler σ ε PUnit) state = (.error error, state) := by
  rw [refuse, if_pos holds]
  rfl

theorem refuse_of_not {condition : Prop} [Decidable condition] {error : ε} {state : σ} (fails : ¬ condition) :
    (refuse condition error : Handler σ ε PUnit) state = (.ok ⟨⟩, state) := by
  rw [refuse, if_neg fails]
  rfl

theorem bind_refuse_of {condition : Prop} [Decidable condition] {error : ε} {following : PUnit → Handler σ ε β} {state : σ}
    (holds : condition) : (refuse condition error >>= following) state = (.error error, state) := by
  rw [bind_apply, refuse_of holds]

theorem bind_refuse_of_not {condition : Prop} [Decidable condition] {error : ε} {following : PUnit → Handler σ ε β}
    {state : σ} (fails : ¬ condition) : (refuse condition error >>= following) state = following ⟨⟩ state := by
  rw [bind_apply, refuse_of_not fails]

theorem Ensures.always : Ensures before handler (fun _ _ => True) (fun _ => True) := by
  intro state _
  split <;> trivial

theorem Ensures.pure {after : α → σ → Prop} {value : α}
    (implied : ∀ state, before state → after value state) :
    Ensures before (Pure.pure value : Handler σ ε α) after raised :=
  fun state held => implied state held

theorem Ensures.raise {after : α → σ → Prop} {error : ε}
    (implied : ∀ state, before state → raised state) :
    Ensures before (Handler.raise error : Handler σ ε α) after raised :=
  fun state held => implied state held

theorem Ensures.bind (leading : Ensures before first Q raised)
    (following : ∀ value, Ensures (Q value) (next value) after raised) :
    Ensures before (first >>= next) after raised := by
  intro state held
  have led := leading state held
  rw [bind_apply]
  rcases run : first state with ⟨outcome, middle⟩
  rw [run] at led
  cases outcome with
  | error error => exact led
  | ok value => exact following value middle led

theorem Ensures.read {next : σ → Handler σ ε β}
    (following : ∀ seen, before seen → Ensures (· = seen) (next seen) after raised) :
    Ensures before (Handler.read >>= next) after raised :=
  fun state held => following state held state rfl

theorem Ensures.change {update : σ → σ} {Q : PUnit → σ → Prop}
    (implied : ∀ state, before state → Q ⟨⟩ (update state)) :
    Ensures before (Handler.change update : Handler σ ε PUnit) Q raised :=
  fun state held => implied state held

theorem Ensures.refuse {condition : Prop} [Decidable condition] {error : ε}
    {Q : PUnit → σ → Prop}
    (refused : ∀ state, before state → condition → raised state)
    (passed : ∀ state, before state → ¬ condition → Q ⟨⟩ state) :
    Ensures before (Handler.refuse condition error : Handler σ ε PUnit) Q raised := by
  intro state held
  unfold Handler.refuse
  by_cases holds : condition
  · rw [if_pos holds]; exact refused state held holds
  · rw [if_neg holds]; exact passed state held holds

theorem Ensures.orRaise {value : Option α} {error : ε} {Q : α → σ → Prop}
    (absent : ∀ state, before state → value = none → raised state)
    (present : ∀ state found, before state → value = some found → Q found state) :
    Ensures before (Handler.orRaise value error : Handler σ ε α) Q raised := by
  intro state held
  cases value with
  | none => exact absent state held rfl
  | some found => exact present state found held rfl

theorem Ensures.ite {condition : Prop} [Decidable condition]
    {accepted rejected : Handler σ ε β}
    (whenTrue : condition → Ensures before accepted after raised)
    (whenFalse : ¬ condition → Ensures before rejected after raised) :
    Ensures before (if condition then accepted else rejected) after raised := by
  by_cases holds : condition
  · rw [if_pos holds]; exact whenTrue holds
  · rw [if_neg holds]; exact whenFalse holds

theorem Ensures.recover {rescue : ε → Handler σ ε α} {failed : σ → Prop} (tried : Ensures before handler Q failed)
    (rescued : ∀ error, Ensures failed (rescue error) Q raised) : Ensures before (handler.recover rescue) Q raised := by
  intro state held
  have result := tried state held
  unfold Handler.recover
  rcases run : handler state with ⟨outcome, final⟩
  rw [run] at result
  cases outcome with
  | ok value => exact result
  | error error => exact rescued error final result

/-- Rule for a loop whose body reestablishes its precondition. -/
theorem Ensures.forEach {items : List α} {body : α → Handler σ ε PUnit.{u + 1}}
    (each : ∀ item ∈ items, Ensures before (body item) (fun _ => before) raised) :
    Ensures before (Handler.forEach items body) (fun _ => before) raised := by
  induction items with
  | nil => exact Ensures.pure fun _ held => held
  | cons item rest ih =>
      refine (each item (List.mem_cons_self ..)).bind fun _ => ?_
      exact ih fun other member => each other (List.mem_cons_of_mem _ member)

theorem Ensures.weaken {stronger : σ → Prop} {weaker : α → σ → Prop} {failed : σ → Prop}
    (ensured : Ensures before handler Q raised)
    (entry : ∀ state, stronger state → before state)
    (exit : ∀ value state, Q value state → weaker value state)
    (failure : ∀ state, raised state → failed state) :
    Ensures stronger handler weaker failed := by
  intro state held
  have result := ensured state (entry state held)
  rcases run : handler state with ⟨outcome, final⟩
  rw [run] at result
  cases outcome with
  | error error => exact failure final result
  | ok value => exact exit value final result

theorem Ensures.finish {invariant : σ → Prop} {start : σ}
    (ensured : Ensures before handler (fun _ => invariant) invariant) (held : before start) :
    invariant (handler.finish start) := by
  have result := ensured start held
  unfold Handler.finish
  rcases run : handler start with ⟨outcome, final⟩
  rw [run] at result
  cases outcome <;> exact result

/-! ## Handlers that keep an invariant -/

section Keeps

variable {invariant : σ → Prop} {result : Handler σ ε β}

theorem Keeps.pure {value : α} : Keeps invariant (Pure.pure value : Handler σ ε α) :=
  fun _ held => held

theorem Keeps.raise {error : ε} : Keeps invariant (Handler.raise error : Handler σ ε α) :=
  fun _ held => held

theorem Keeps.bind (leading : Keeps invariant first) (following : ∀ value, Keeps invariant (next value)) :
    Keeps invariant (first >>= next) :=
  Ensures.bind leading following

theorem Keeps.read {next : σ → Handler σ ε β}
    (following : ∀ seen, invariant seen → Keeps invariant (next seen)) :
    Keeps invariant (Handler.read >>= next) :=
  fun state held => following state held state held

theorem Keeps.change {update : σ → σ} (kept : ∀ state, invariant state → invariant (update state)) :
    Keeps invariant (Handler.change update : Handler σ ε PUnit) :=
  fun state held => kept state held

theorem Keeps.refuse {condition : Prop} [Decidable condition] {error : ε} :
    Keeps invariant (Handler.refuse condition error : Handler σ ε PUnit) :=
  Ensures.refuse (fun _ held _ => held) (fun _ held _ => held)

theorem Keeps.orRaise {value : Option α} {error : ε} :
    Keeps invariant (Handler.orRaise value error : Handler σ ε α) :=
  Ensures.orRaise (fun _ held _ => held) (fun _ _ held _ => held)

theorem Keeps.ite {condition : Prop} [Decidable condition] {accepted rejected : Handler σ ε β}
    (whenTrue : condition → Keeps invariant accepted) (whenFalse : ¬ condition → Keeps invariant rejected) :
    Keeps invariant (if condition then accepted else rejected) :=
  Ensures.ite whenTrue whenFalse

theorem Keeps.forEach {items : List α} {body : α → Handler σ ε PUnit.{u + 1}}
    (each : ∀ item ∈ items, Keeps invariant (body item)) : Keeps invariant (Handler.forEach items body) :=
  Ensures.forEach each

theorem Keeps.option {found : Option α} {present : α → Handler σ ε β} {absent : Handler σ ε β}
    (whenSome : ∀ value, found = some value → Keeps invariant (present value))
    (whenNone : found = none → Keeps invariant absent) :
    Keeps invariant (match found with | some value => present value | none => absent) := by
  cases found with
  | none => exact whenNone rfl
  | some value => exact whenSome value rfl

theorem Keeps.onRaise {cleanup : σ → σ} (keeps : Keeps invariant handler)
    (cleaned : ∀ state, invariant state → invariant (cleanup state)) :
    Keeps invariant (handler.onRaise cleanup) := by
  intro state held
  have kept := keeps state held
  unfold Handler.onRaise
  rcases run : handler state with ⟨outcome, final⟩
  rw [run] at kept
  cases outcome with
  | error error => exact cleaned final kept
  | ok value => exact kept

theorem Keeps.recover {rescue : ε → Handler σ ε α} (tried : Keeps invariant handler)
    (rescued : ∀ error, Keeps invariant (rescue error)) : Keeps invariant (handler.recover rescue) :=
  Ensures.recover tried rescued

theorem Keeps.ensuring {last : Handler σ ε PUnit.{u + 1}} (keeps : Keeps invariant handler) (ends : Keeps invariant last) :
    Keeps invariant (handler.ensuring last) := by
  intro state held
  have first := keeps state held
  unfold Handler.ensuring
  rcases tried : handler state with ⟨outcome, middle⟩
  have reached : invariant middle := by
    rw [tried] at first
    cases outcome with
    | error error => exact first
    | ok value => exact first
  have second := ends middle reached
  dsimp only
  rcases ended : last middle with ⟨closing, final⟩
  rw [ended] at second
  cases closing with
  | error error => exact second
  | ok value =>
      cases outcome with
      | error error => exact second
      | ok value => exact second

theorem Keeps.finish {start : σ} (keeps : Keeps invariant handler) (held : invariant start) :
    invariant (handler.finish start) :=
  Ensures.finish keeps held

end Keeps

end Handler

end MeshTalk.Library
