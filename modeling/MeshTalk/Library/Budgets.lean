import Mathlib.Algebra.Order.Field.Basic
import Mathlib.Tactic.Linarith
import MeshTalk.Library.Machine

namespace MeshTalk.Library

/-! # Budgets along runs

What the steps of a run cost together is bounded by a level: time raises it at a
rate, a grant raises it at once, and each step pays for itself from it.
-/

variable {K : Type u} [Field K]

/-- What the steps of a run come to together. -/
def sumSteps {σ : Type v} {ε : Type w} (step : Step σ ε) (cost : σ → ε → σ → K) : σ → List ε → K
  | _, [] => 0
  | state, event :: rest =>
      match step state event with
      | none => 0
      | some next => cost state event next + sumSteps step cost next rest

/-- A fixed grant for each step of a kind. -/
theorem sumSteps_count {σ : Type v} {ε : Type w} {step : Step σ ε} {counted : σ → ε → Bool} {amount : K} {start : σ} {events : List ε} :
    sumSteps step (fun state event _ => if counted state event then amount else 0) start events =
      amount * countSteps step counted start events := by
  induction events generalizing start with
  | nil => simp [sumSteps, countSteps]
  | cons event rest ih =>
      cases stepped : step start event with
      | none => simp [sumSteps, countSteps, stepped]
      | some next =>
          simp only [sumSteps, countSteps, stepped, ih]
          cases counted start event <;> simp [mul_add]

variable [LinearOrder K]

structure Budget {σ : Type v} {ε : Type w} (step : Step σ ε) (clock : ε → K) (cost : σ → ε → σ → K) where
  invariant : K → σ → Prop
  level : σ → K → K
  rate : K
  grant : σ → ε → σ → K
  later : ∀ state before after, before ≤ after → invariant before state → invariant after state
  covered : ∀ state time, invariant time state → 0 ≤ level state time
  grows : ∀ state before after, before ≤ after → level state after ≤ level state before + rate * (after - before)
  keeps : ∀ state event next, invariant (clock event) state → step state event = some next → invariant (clock event) next
  pays : ∀ state event next, invariant (clock event) state → step state event = some next →
    cost state event next + level next (clock event) ≤ level state (clock event) + grant state event next

namespace Budget

variable {σ : Type v} {ε : Type w} {step : Step σ ε} {clock : ε → K} {cost : σ → ε → σ → K} {start final : σ} {events : List ε}
  {begins ends : K}

variable [IsStrictOrderedRing K]

/-- The costs and what is left at the end come from the level at the beginning, the time between and the grants. -/
theorem balance (budget : Budget step clock cost) (holds : budget.invariant begins start) (ordered : begins ≤ ends)
    (sorted : events.Pairwise fun event later => clock event ≤ clock later)
    (within : ∀ event ∈ events, begins ≤ clock event ∧ clock event ≤ ends) (completed : run step start events = some final) :
    budget.invariant ends final ∧ sumSteps step cost start events + budget.level final ends ≤
      budget.level start begins + budget.rate * (ends - begins) + sumSteps step budget.grant start events := by
  induction events generalizing start begins with
  | nil =>
      cases completed
      have grown := budget.grows final begins ends ordered
      refine ⟨budget.later final begins ends ordered holds, ?_⟩
      simpa only [sumSteps, zero_add, add_zero] using grown
  | cons event rest ih =>
      obtain ⟨next, stepped, remaining⟩ := run_cons_some completed
      obtain ⟨following, sorted⟩ := List.pairwise_cons.mp sorted
      obtain ⟨started, ended⟩ := within event (by simp)
      have current := budget.later start begins (clock event) started holds
      have paid := budget.pays start event next current stepped
      have grown := budget.grows start begins (clock event) started
      obtain ⟨kept, rest⟩ := ih (budget.keeps start event next current stepped) ended sorted
        (fun other listed => ⟨following other listed, (within other (by simp [listed])).2⟩) remaining
      refine ⟨kept, ?_⟩
      simp only [sumSteps, stepped]
      linarith [mul_sub budget.rate ends begins, mul_sub budget.rate ends (clock event), mul_sub budget.rate (clock event) begins]

theorem bounds (budget : Budget step clock cost) (holds : budget.invariant begins start) (ordered : begins ≤ ends)
    (sorted : events.Pairwise fun event later => clock event ≤ clock later)
    (within : ∀ event ∈ events, begins ≤ clock event ∧ clock event ≤ ends) (completed : run step start events = some final) :
    sumSteps step cost start events ≤
      budget.level start begins + budget.rate * (ends - begins) + sumSteps step budget.grant start events := by
  obtain ⟨kept, balanced⟩ := budget.balance holds ordered sorted within completed
  linarith [budget.covered final ends kept]

/-- An interval of the clock, after what has happened earlier. -/
structure Spans (clock : ε → K) (earlier events : List ε) (begins ends : K) : Prop where
  ordered : begins ≤ ends
  sorted : (earlier ++ events).Pairwise fun event later => clock event ≤ clock later
  before : ∀ event ∈ earlier, clock event ≤ begins
  within : ∀ event ∈ events, begins ≤ clock event ∧ clock event ≤ ends

theorem reached (budget : Budget step clock cost) (initial : ∀ time, budget.invariant time start)
    (sorted : events.Pairwise fun event later => clock event ≤ clock later) (before : ∀ event ∈ events, clock event ≤ ends)
    (completed : run step start events = some final) : budget.invariant ends final := by
  cases events with
  | nil =>
      cases completed
      exact initial ends
  | cons first rest =>
      obtain ⟨following, -⟩ := List.pairwise_cons.mp sorted
      have within : ∀ event ∈ first :: rest, clock first ≤ clock event ∧ clock event ≤ ends := by
        intro event listed
        refine ⟨?_, before event listed⟩
        rcases List.mem_cons.mp listed with rfl | later
        · exact le_rfl
        · exact following event later
      exact (budget.balance (initial _) (before first (by simp)) sorted within completed).1

/-- What is spent in an interval of a run. -/
theorem spent_within (budget : Budget step clock cost) {middle : σ} {earlier : List ε} (initial : ∀ time, budget.invariant time start)
    (spans : Spans clock earlier events begins ends) (arrived : run step start earlier = some middle)
    (completed : run step middle events = some final) : sumSteps step cost middle events ≤
      budget.level middle begins + budget.rate * (ends - begins) + sumSteps step budget.grant middle events := by
  obtain ⟨first, second, -⟩ := List.pairwise_append.mp spans.sorted
  exact budget.bounds (budget.reached initial first spans.before arrived) spans.ordered second spans.within completed

end Budget

/-! ## Token buckets -/

/-- What a bucket with so many tokens holds after it has been filled at a rate. -/
def filled (capacity rate tokens since now : K) : K := min capacity (tokens + rate * (now - since))

section

variable {capacity rate tokens since now before after : K}

theorem filled_le : filled capacity rate tokens since now ≤ capacity := min_le_left ..

theorem filled_now (fits : tokens ≤ capacity) : filled capacity rate tokens since since = tokens := by
  simp [filled, fits]

variable [IsStrictOrderedRing K]

theorem filled_nonneg (room : 0 ≤ capacity) (rising : 0 ≤ rate) (held : 0 ≤ tokens) (passed : since ≤ now) :
    0 ≤ filled capacity rate tokens since now := by
  have gained : 0 ≤ rate * (now - since) := mul_nonneg rising (sub_nonneg.mpr passed)
  exact le_min room (add_nonneg held gained)

theorem filled_mono {fewer : K} (less : fewer ≤ tokens) :
    filled capacity rate fewer since now ≤ filled capacity rate tokens since now :=
  min_le_min_left _ (by linarith)

/-- Filling gains at most what the rate gives. -/
theorem filled_grows (rising : 0 ≤ rate) (passed : before ≤ after) :
    filled capacity rate tokens since after ≤ filled capacity rate tokens since before + rate * (after - before) := by
  have gained : 0 ≤ rate * (after - before) := mul_nonneg rising (sub_nonneg.mpr passed)
  unfold filled
  rcases min_cases capacity (tokens + rate * (before - since)) with ⟨full, -⟩ | ⟨part, -⟩
  · rw [full]
    exact (min_le_left ..).trans (by linarith)
  · rw [part]
    exact (min_le_right ..).trans (by linarith [mul_sub rate after since, mul_sub rate before since, mul_sub rate after before])

end

end MeshTalk.Library
