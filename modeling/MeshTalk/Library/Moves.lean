import Mathlib.Logic.Relation
import MeshTalk.Library.Handler

namespace MeshTalk.Library.Handler

/-! # Handlers that move along a preorder

What a handler does is often said by a relation between the state it finds and
the state it leaves, whether it returns or raises.  Such relations compose.
-/

variable {σ ε α β : Type u} {relation weaker : σ → σ → Prop} {state : σ}

/-- From this state the handler leaves a state related to it. -/
def Moves (relation : σ → σ → Prop) (handler : Handler σ ε α) (state : σ) : Prop := relation state (handler state).2

namespace Moves

theorem of_state {handler : Handler σ ε α} {final : σ} (left : (handler state).2 = final) (related : relation state final) :
    Moves relation handler state := by
  simpa only [Moves, left] using related

theorem mono {handler : Handler σ ε α} (moves : Moves relation handler state)
    (implied : ∀ final, relation state final → weaker state final) : Moves weaker handler state :=
  implied _ moves

theorem finish {handler : Handler σ ε α} (moves : Moves relation handler state) : relation state (handler.finish state) := moves

theorem read {next : σ → Handler σ ε α} (following : Moves relation (next state) state) :
    Moves relation (Handler.read >>= next) state := following

variable [IsPreorder σ relation]

theorem pure {value : α} : Moves relation (Pure.pure value : Handler σ ε α) state := refl_of relation state

theorem raise {error : ε} : Moves relation (Handler.raise error : Handler σ ε α) state := refl_of relation state

theorem bind {first : Handler σ ε α} {next : α → Handler σ ε β} (leading : Moves relation first state)
    (following : ∀ value middle, first state = (.ok value, middle) → Moves relation (next value) middle) :
    Moves relation (first >>= next) state := by
  cases ran : first state with
  | mk outcome middle =>
      simp only [Moves, ran] at leading
      cases outcome with
      | error error => simpa only [Moves, bind_apply, ran] using leading
      | ok value =>
          have further := following value middle ran
          simp only [Moves, bind_apply, ran]
          exact trans_of relation leading further

theorem change {update : σ → σ} {next : PUnit → Handler σ ε α} (related : relation state (update state))
    (following : Moves relation (next ⟨⟩) (update state)) : Moves relation (Handler.change update >>= next) state := by
  simp only [Moves, change_bind]
  exact trans_of relation related following

theorem refuse {condition : Prop} [Decidable condition] {error : ε} {next : PUnit → Handler σ ε α}
    (passed : ¬ condition → Moves relation (next ⟨⟩) state) : Moves relation (Handler.refuse condition error >>= next) state := by
  by_cases holds : condition
  · simp only [Moves, bind_apply, refuse_of holds]
    exact refl_of relation state
  · have further := passed holds
    simpa only [Moves, bind_apply, refuse_of_not holds] using further

theorem orRaise {value : Option α} {error : ε} {next : α → Handler σ ε β}
    (present : ∀ found, value = some found → Moves relation (next found) state) :
    Moves relation (Handler.orRaise value error >>= next) state := by
  cases value with
  | none => exact raise
  | some found => exact present found rfl

theorem forEach {items : List β} {body : β → Handler σ ε PUnit.{u + 1}}
    (each : ∀ item ∈ items, ∀ middle, Moves relation (body item) middle) :
    Moves relation (Handler.forEach items body) state := by
  induction items generalizing state with
  | nil => exact pure
  | cons item rest ih =>
      have first := each item (by simp) state
      exact first.bind fun _ middle _ => ih fun other member => each other (by simp [member])

theorem recover {handler : Handler σ ε α} {rescue : ε → Handler σ ε α} (leading : Moves relation handler state)
    (rescued : ∀ error middle, handler state = (.error error, middle) → Moves relation (rescue error) middle) :
    Moves relation (handler.recover rescue) state := by
  cases ran : handler state with
  | mk outcome middle =>
      simp only [Moves, ran] at leading
      cases outcome with
      | ok value => simpa only [Moves, Handler.recover, ran] using leading
      | error error =>
          have further := rescued error middle ran
          simp only [Moves, Handler.recover, ran]
          exact trans_of relation leading further

theorem ensuring {handler : Handler σ ε α} {last : Handler σ ε PUnit.{u + 1}} (leading : Moves relation handler state)
    (ends : ∀ middle, Moves relation last middle) : Moves relation (handler.ensuring last) state := by
  cases ran : handler state with
  | mk outcome middle =>
      have further := ends middle
      simp only [Moves, ran] at leading further
      cases ended : last middle with
      | mk result final =>
          simp only [ended] at further
          have whole := trans_of relation leading further
          cases result <;> simpa only [Moves, Handler.ensuring, ran, ended] using whole

end Moves

/-! ## A last update

Some updates are made once, as the last thing before a handler returns.
-/

/-- From this state the handler leaves one by `acts`; when it returns, it may have
gone on by `ends`. -/
def Closes (acts ends : σ → σ → Prop) (handler : Handler σ ε α) (state : σ) : Prop :=
  match handler state with
  | (.ok _, final) => ends state final
  | (.error _, final) => acts state final

namespace Closes

variable {acts ends : σ → σ → Prop} {handler : Handler σ ε α}

theorem of_moves (moves : Moves acts handler state) (implied : ∀ final, acts state final → ends state final) :
    Closes acts ends handler state := by
  cases ran : handler state with
  | mk outcome final =>
      simp only [Moves, ran] at moves
      cases outcome with
      | ok value => simpa only [Closes, ran] using implied final moves
      | error error => simpa only [Closes, ran] using moves

theorem read {next : σ → Handler σ ε α} (following : Closes acts ends (next state) state) :
    Closes acts ends (Handler.read >>= next) state := following

theorem value {change : α → β} (closes : Closes acts ends handler state) :
    Closes acts ends (handler >>= fun result => (Pure.pure (change result) : Handler σ ε β)) state := by
  cases ran : handler state with
  | mk outcome final =>
      simp only [Closes, ran] at closes
      cases outcome <;> simpa only [Closes, bind_apply, ran, pure_apply] using closes

variable [IsPreorder σ acts]

theorem after [Trans acts ends ends] {next : α → Handler σ ε β} (leading : Moves acts handler state)
    (following : ∀ value middle, handler state = (.ok value, middle) → Closes acts ends (next value) middle) :
    Closes acts ends (handler >>= next) state := by
  cases ran : handler state with
  | mk outcome middle =>
      simp only [Moves, ran] at leading
      cases outcome with
      | error error => simpa only [Closes, bind_apply, ran] using leading
      | ok value =>
          have further := following value middle ran
          simp only [Closes, bind_apply, ran] at further ⊢
          cases finished : next value middle with
          | mk outcome final =>
              simp only [finished] at further
              cases outcome with
              | ok value =>
                  have ended : ends state final := Trans.trans leading (show ends middle final from further)
                  exact ended
              | error error => exact trans_of acts leading further

theorem refuse {condition : Prop} [Decidable condition] {error : ε} {next : PUnit → Handler σ ε α}
    (passed : ¬ condition → Closes acts ends (next ⟨⟩) state) :
    Closes acts ends (Handler.refuse condition error >>= next) state := by
  by_cases holds : condition
  · simp only [Closes, bind_apply, refuse_of holds]
    exact refl_of acts state
  · simpa only [Closes, bind_apply, refuse_of_not holds] using passed holds

theorem orRaise {value : Option α} {error : ε} {next : α → Handler σ ε β}
    (present : ∀ found, value = some found → Closes acts ends (next found) state) :
    Closes acts ends (Handler.orRaise value error >>= next) state := by
  cases value with
  | none => exact refl_of acts state
  | some found => exact present found rfl

/-- What is left when errors are caught. -/
theorem recover {rescue : ε → Handler σ ε α} (closes : Closes acts ends handler state)
    (implied : ∀ first final, acts first final → ends first final)
    (rescued : ∀ error middle, handler state = (.error error, middle) → Moves acts (rescue error) middle) :
    ends state ((handler.recover rescue) state).2 := by
  cases ran : handler state with
  | mk outcome middle =>
      simp only [Closes, ran] at closes
      cases outcome with
      | ok value => simpa only [Handler.recover, ran] using closes
      | error error =>
          have further := rescued error middle ran
          simp only [Handler.recover, ran]
          exact implied _ _ (trans_of acts closes further)

end Closes

end MeshTalk.Library.Handler
