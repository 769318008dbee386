import MeshTalk.Library.Task

namespace MeshTalk.Library

/-! # One task on its own

A task with nothing running next to it, resumed with one input of the
environment after the other until it ends.  The rules are those of weakest
preconditions, over everything the environment may decide.
-/

namespace Task

variable {σ ι ℓ ε α β : Type}

/-- The outcome and the last state, if the inputs take the task exactly to its end. -/
def alone : Task σ ι ℓ ε α → List ι → σ → Option (Except ε α × σ)
  | done value, [], state => some (.ok value, state)
  | failed error, [], state => some (.error error, state)
  | suspended _ ready act next, input :: rest, state =>
      if ready state then (next input state).alone rest (act input state) else none
  | _, _, _ => none

/-- Every action of the run is admitted. -/
def Admitted (admits : ℓ → ι → σ → Prop) : Task σ ι ℓ ε α → List ι → σ → Prop
  | suspended point _ act next, input :: rest, state =>
      admits point input state ∧ (next input state).Admitted admits rest (act input state)
  | _, _, _ => True

instance Admitted.decidable (admits : ℓ → ι → σ → Prop) [∀ point input state, Decidable (admits point input state)] :
    ∀ (task : Task σ ι ℓ ε α) inputs state, Decidable (task.Admitted admits inputs state)
  | done _, _, _ => isTrue trivial
  | failed _, _, _ => isTrue trivial
  | suspended _ _ _ _, [], _ => isTrue trivial
  | suspended _ _ act next, input :: rest, state =>
      have := Admitted.decidable admits (next input state) rest (act input state)
      inferInstanceAs (Decidable (_ ∧ _))

/-- Whatever the environment decides, the task ends as `post` says if it ends.
The assertion is told whether every action of the run was admitted. -/
def Ends (admits : ℓ → ι → σ → Prop) (task : Task σ ι ℓ ε α) (state : σ) (post : Prop → Except ε α → σ → Prop) : Prop :=
  ∀ inputs outcome final, task.alone inputs state = some (outcome, final) →
    post (task.Admitted admits inputs state) outcome final

variable {admits : ℓ → ι → σ → Prop} {task : Task σ ι ℓ ε α} {following : α → Task σ ι ℓ ε β} {state : σ} {point : ℓ}

theorem Ends.pure {value : α} {post : Prop → Except ε α → σ → Prop} (ends : post True (.ok value) state) :
    Ends admits (Pure.pure value : Task σ ι ℓ ε α) state post := by
  intro inputs outcome final ended
  cases inputs with
  | nil => cases ended; exact ends
  | cons input rest => cases ended

theorem Ends.failed {error : ε} {post : Prop → Except ε α → σ → Prop} (ends : post True (.error error) state) :
    Ends admits (Task.failed error : Task σ ι ℓ ε α) state post := by
  intro inputs outcome final ended
  cases inputs with
  | nil => cases ended; exact ends
  | cons input rest => cases ended

theorem Ends.weaken {post weaker : Prop → Except ε α → σ → Prop} (ends : Ends admits task state post)
    (implied : ∀ met outcome final, post met outcome final → weaker met outcome final) : Ends admits task state weaker :=
  fun inputs outcome final ended => implied _ outcome final (ends inputs outcome final ended)

theorem Ends.suspended {ready : σ → Bool} {act : ι → σ → σ} {next : ι → σ → Task σ ι ℓ ε α}
    {post : Prop → Except ε α → σ → Prop}
    (ends : ∀ input, Ends admits (next input state) (act input state) fun met => post (admits point input state ∧ met)) :
    Ends admits (Task.suspended point ready act next) state post := by
  intro inputs outcome final ended
  cases inputs with
  | nil => cases ended
  | cons input rest =>
      simp only [alone] at ended
      split at ended
      · exact ends input rest outcome final ended
      · cases ended

theorem Ends.perform {handler : ι → Handler σ ε α} {post : Prop → Except ε α → σ → Prop}
    (acts : ∀ input, post (admits point input state) (handler input state).1 (handler input state).2) :
    Ends admits (Task.perform point handler) state post := by
  apply Ends.suspended
  intro input
  have acted := acts input
  rw [← and_true (admits point input state)] at acted
  cases outcome : (handler input state).1 with
  | ok value =>
      rw [outcome] at acted
      exact Ends.pure acted
  | error error =>
      rw [outcome] at acted
      exact Ends.failed acted

theorem Ends.ite {condition : Prop} [Decidable condition] {accepted rejected : Task σ ι ℓ ε α}
    {post : Prop → Except ε α → σ → Prop} (whenTrue : condition → Ends admits accepted state post)
    (whenFalse : ¬ condition → Ends admits rejected state post) :
    Ends admits (if condition then accepted else rejected) state post := by
  by_cases holds : condition
  · rw [if_pos holds]; exact whenTrue holds
  · rw [if_neg holds]; exact whenFalse holds

/-- A run of a program is a run of its first part, and of the rest if that returned. -/
theorem alone_bind (admits : ℓ → ι → σ → Prop) {inputs : List ι} {outcome : Except ε β} {final : σ}
    (ended : (task >>= following).alone inputs state = some (outcome, final)) :
    ∃ first rest result middle, task.alone first state = some (result, middle) ∧
      match result with
      | .ok value => (following value).alone rest middle = some (outcome, final) ∧
          ((task >>= following).Admitted admits inputs state ↔
            task.Admitted admits first state ∧ (following value).Admitted admits rest middle)
      | .error error => outcome = .error error ∧ final = middle ∧
          ((task >>= following).Admitted admits inputs state ↔ task.Admitted admits first state) := by
  induction task generalizing inputs state with
  | done value => exact ⟨[], inputs, .ok value, state, rfl, ended, (iff_of_eq (true_and _)).symm⟩
  | failed error =>
      cases inputs with
      | nil => cases ended; exact ⟨[], [], .error error, _, rfl, rfl, rfl, Iff.rfl⟩
      | cons input rest => cases ended
  | suspended point ready act next ih =>
      cases inputs with
      | nil => cases ended
      | cons input inputs =>
          change (if ready state then ((next input state) >>= following).alone inputs (act input state) else none) = _ at ended
          split at ended
          · rename_i opened
            obtain ⟨first, rest, result, middle, leading, continued⟩ := ih input state ended
            refine ⟨input :: first, rest, result, middle, by simpa only [alone, if_pos opened] using leading, ?_⟩
            have unfolded : (suspended point ready act next >>= following).Admitted admits (input :: inputs) state ↔
                admits point input state ∧ (next input state >>= following).Admitted admits inputs (act input state) :=
              Iff.rfl
            cases result with
            | ok value =>
                refine ⟨continued.1, unfolded.trans ?_⟩
                rw [continued.2, ← and_assoc]
                rfl
            | error error =>
                refine ⟨continued.1, continued.2.1, unfolded.trans ?_⟩
                rw [continued.2.2]
                rfl
          · cases ended

theorem Ends.bind {post : Prop → Except ε β → σ → Prop}
    (leading : Ends admits task state fun met outcome middle =>
      match outcome with
      | .ok value => Ends admits (following value) middle fun later => post (met ∧ later)
      | .error error => post met (.error error) middle) : Ends admits (task >>= following) state post := by
  intro inputs outcome final ended
  obtain ⟨first, rest, result, middle, led, continued⟩ := alone_bind admits ended
  have reached := leading first result middle led
  cases result with
  | ok value =>
      have ends : post _ outcome final := reached rest outcome final continued.1
      rwa [← propext continued.2] at ends
  | error error =>
      obtain ⟨rfl, rfl, same⟩ := continued
      rwa [← propext same] at reached

/-! ## An error that one kind of action raises -/

/-- Exactly the actions that are not admitted raise `error`, and nothing catches it. -/
def Surfaces (admits : ℓ → ι → σ → Prop) (error : ε) : Task σ ι ℓ ε α → Prop
  | done _ => True
  | failed raised => raised ≠ error
  | suspended point _ _ next => ∀ input state,
      (admits point input state → (next input state).Surfaces admits error) ∧
        (¬ admits point input state → next input state = failed error)

section Surfaces

variable {error : ε}

theorem Surfaces.pure {value : α} : (Pure.pure value : Task σ ι ℓ ε α).Surfaces admits error := trivial

theorem Surfaces.bind (leading : task.Surfaces admits error)
    (continues : ∀ value, (following value).Surfaces admits error) : (task >>= following).Surfaces admits error := by
  induction task with
  | done value => exact continues value
  | failed raised => exact leading
  | suspended point ready act next ih =>
      intro input state
      refine ⟨fun admitted => ih input state ((leading input state).1 admitted), fun refused => ?_⟩
      change (next input state) >>= following = failed error
      rw [(leading input state).2 refused]
      rfl

theorem Surfaces.ite {condition : Prop} [Decidable condition] {accepted rejected : Task σ ι ℓ ε α}
    (whenTrue : accepted.Surfaces admits error) (whenFalse : rejected.Surfaces admits error) :
    (if condition then accepted else rejected).Surfaces admits error := by
  by_cases holds : condition
  · rw [if_pos holds]; exact whenTrue
  · rw [if_neg holds]; exact whenFalse

theorem Surfaces.perform {handler : ι → Handler σ ε α}
    (returns : ∀ input state, admits point input state → ∃ value, (handler input state).1 = .ok value)
    (raises : ∀ input state, ¬ admits point input state → (handler input state).1 = .error error) :
    (Task.perform point handler).Surfaces admits error := by
  intro input state
  constructor
  · intro admitted
    obtain ⟨value, returned⟩ := returns input state admitted
    change (ofOutcome (handler input state).1).Surfaces admits error
    rw [returned]
    trivial
  · intro refused
    change ofOutcome (handler input state).1 = failed error
    rw [raises input state refused]
    rfl

/-- A run ends with the error if and only if one of its actions was not admitted. -/
theorem Surfaces.raised_iff (surfaces : task.Surfaces admits error) {inputs : List ι} {outcome : Except ε α} {final : σ}
    (ended : task.alone inputs state = some (outcome, final)) :
    outcome = .error error ↔ ¬ task.Admitted admits inputs state := by
  induction task generalizing inputs state with
  | done value =>
      cases inputs with
      | nil => cases ended; exact iff_of_false nofun fun refused => refused trivial
      | cons input rest => cases ended
  | failed raised =>
      cases inputs with
      | nil =>
          cases ended
          refine iff_of_false ?_ fun refused => refused trivial
          intro same
          cases same
          exact surfaces rfl
      | cons input rest => cases ended
  | suspended point ready act next ih =>
      cases inputs with
      | nil => cases ended
      | cons input rest =>
          simp only [alone] at ended
          split at ended
          · by_cases admitted : admits point input state
            · have later := ih input state ((surfaces input state).1 admitted) ended
              simp only [Admitted, admitted, true_and]
              exact later
            · rw [(surfaces input state).2 admitted] at ended
              refine iff_of_true ?_ fun all => admitted all.1
              cases rest with
              | nil => cases ended; rfl
              | cons other further => cases ended
          · cases ended

end Surfaces

end Task

end MeshTalk.Library
