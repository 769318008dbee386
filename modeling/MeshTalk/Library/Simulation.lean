import Mathlib.Data.List.Defs
import MeshTalk.Library.Machine

namespace MeshTalk.Library

/-! # Serving like another system

A system takes one step for each event and answers it.  Another one may take
several, some of them on its own, before it has answered.  The second serves like
the first where related states stay related and the answers to an event agree.
-/

/-- How an event may be answered, and what state it leaves. -/
abbrev Server (σ : Type u) (ε : Type v) (ω : Type w) := σ → ε → ω → σ → Prop

/-- The events are answered one after the other. -/
inductive Serves (serve : Server σ ε ω) : σ → List ε → List ω → σ → Prop
  | done : Serves serve state [] [] state
  | answer : serve state event reply middle → Serves serve middle rest replies final →
      Serves serve state (event :: rest) (reply :: replies) final

/-- Steps that a system takes on its own until it has nothing left to do, with
what each of them puts out. -/
inductive Settles (tick : σ → Option σ) (output : σ → List ω) : σ → List ω → σ → Prop
  | idle : tick state = none → Settles tick output state [] state
  | busy : tick state = some middle → Settles tick output middle outputs final →
      Settles tick output state (output middle ++ outputs) final

/-- The events of a run, each with what the state after it shows. -/
def shown (step : Step σ ε) (answer : σ → ω) : σ → List ε → List (ε × ω)
  | _, [] => []
  | state, event :: rest =>
      match step state event with
      | none => []
      | some next => (event, answer next) :: shown step answer next rest

variable {step : Step σ ε} {answer : σ → ω} {serve : Server τ ε υ} {tick : τ → Option τ} {output : τ → List υ}
  {allowed : σ → ε → Prop} {related : σ → τ → Prop} {agree : ε → ω → υ → Prop}

theorem Settles.unique (first : Settles tick output state outputs one) (second : Settles tick output state others two) :
    outputs = others ∧ one = two := by
  induction first generalizing others two with
  | idle rests =>
      cases second with
      | idle _ => exact ⟨rfl, rfl⟩
      | busy ticked _ => simp [rests] at ticked
  | busy ticked _ ih =>
      cases second with
      | idle rests => simp [rests] at ticked
      | busy again settles =>
          obtain rfl := Option.some.inj (ticked.symm.trans again)
          obtain ⟨same, last⟩ := ih settles
          exact ⟨by rw [same], last⟩

/-- An event is answered in one way. -/
def Determined (serve : Server τ ε υ) : Prop :=
  ∀ state event reply other one two, serve state event reply one → serve state event other two → reply = other ∧ one = two

theorem Serves.unique (determined : Determined serve)
    (first : Serves serve state events replies one) (second : Serves serve state events others two) :
    replies = others ∧ one = two := by
  induction first generalizing others two with
  | done =>
      cases second
      exact ⟨rfl, rfl⟩
  | answer replied _ ih =>
      cases second with
      | answer again serves =>
          obtain ⟨rfl, rfl⟩ := determined _ _ _ _ _ _ replied again
          obtain ⟨same, last⟩ := ih serves
          exact ⟨by rw [same], last⟩

/-- Events that the first system takes are served by the second. -/
def Simulates (step : Step σ ε) (allowed : σ → ε → Prop) (answer : σ → ω) (serve : Server τ ε υ) (related : σ → τ → Prop)
    (agree : ε → ω → υ → Prop) : Prop :=
  ∀ state other event next, related state other → allowed state event → step state event = some next →
    ∃ reply after, serve other event reply after ∧ related next after ∧ agree event (answer next) reply

/-- A run of the first system is served by the second, event by event. -/
theorem Simulates.run (simulates : Simulates step allowed answer serve related agree) (initial : related start other)
    (meets : Meets step allowed start events) (completed : run step start events = some final) :
    ∃ replies last, Serves serve other events replies last ∧ related final last ∧
      List.Forall₂ (fun told reply => agree told.1 told.2 reply) (shown step answer start events) replies := by
  induction events generalizing start other with
  | nil =>
      cases completed
      exact ⟨[], other, .done, initial, .nil⟩
  | cons event rest ih =>
      obtain ⟨next, stepped, remaining⟩ := run_cons_some completed
      obtain ⟨reply, after, served, still, agreed⟩ := simulates start other event next initial meets.1 stepped
      obtain ⟨replies, last, serves, ends, all⟩ := ih still (meets.2 next stepped) remaining
      refine ⟨reply :: replies, last, .answer served serves, ends, ?_⟩
      simp only [shown, stepped]
      exact .cons agreed all

end MeshTalk.Library
