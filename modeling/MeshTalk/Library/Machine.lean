namespace MeshTalk.Library

/-! # Runs of partial step functions

A system is a step function that is undefined where an event is not enabled.
Every choice of the environment (scheduling, faults, clock readings, received
bytes) is part of the event, so a run is determined by its list of events.
-/

abbrev Step (σ : Type u) (ε : Type v) := σ → ε → Option σ

def run (step : Step σ ε) : σ → List ε → Option σ
  | state, [] => some state
  | state, event :: rest => (step state event).bind fun next => run step next rest

/-- Every step of the run is taken from a state in which `allowed` admits it.
Steps after the point where the run gets stuck are not constrained. -/
def Meets (step : Step σ ε) (allowed : σ → ε → Prop) : σ → List ε → Prop
  | _, [] => True
  | state, event :: rest =>
      allowed state event ∧ ∀ next, step state event = some next → Meets step allowed next rest

/-- Whether a concrete run is admitted can be computed. -/
instance Meets.decidable (step : Step σ ε) (allowed : σ → ε → Prop) [∀ state event, Decidable (allowed state event)] :
    ∀ start events, Decidable (Meets step allowed start events)
  | _, [] => isTrue trivial
  | start, event :: rest =>
      match stepped : step start event with
      | none => decidable_of_iff (allowed start event)
          ⟨fun admitted => ⟨admitted, fun next found => by simp [stepped] at found⟩, And.left⟩
      | some next =>
          have := Meets.decidable step allowed next rest
          decidable_of_iff (allowed start event ∧ Meets step allowed next rest)
            ⟨fun admitted => ⟨admitted.1, fun other found => by
                cases stepped.symm.trans found
                exact admitted.2⟩,
              fun admitted => ⟨admitted.1, admitted.2 next stepped⟩⟩

def Reachable (step : Step σ ε) (start final : σ) : Prop :=
  ∃ events, run step start events = some final

variable {step : Step σ ε} {allowed : σ → ε → Prop} {start middle final : σ}
  {event : ε} {events first second : List ε}

@[simp] theorem run_nil : run step start [] = some start := rfl

theorem run_cons_some (completed : run step start (event :: events) = some final) :
    ∃ next, step start event = some next ∧ run step next events = some final :=
  Option.bind_eq_some_iff.mp completed

theorem run_append :
    run step start (first ++ second) = (run step start first).bind fun next => run step next second := by
  induction first generalizing start with
  | nil => rfl
  | cons event rest ih =>
      simp only [List.cons_append, run, Option.bind_assoc]
      exact congrArg _ (funext fun next => ih)

theorem run_append_some (completed : run step start first = some middle) :
    run step start (first ++ second) = run step middle second := by
  rw [run_append, completed, Option.bind_some]

/-- The step rule, lifted to whole runs: an invariant that admitted steps keep
holds in the state every admitted run ends in. -/
theorem run_invariant (invariant : σ → Prop)
    (preserved : ∀ state event next, invariant state → allowed state event →
      step state event = some next → invariant next)
    (initial : invariant start) (meets : Meets step allowed start events)
    (completed : run step start events = some final) : invariant final := by
  induction events generalizing start with
  | nil => cases completed; exact initial
  | cons event rest ih =>
      obtain ⟨next, stepped, remaining⟩ := run_cons_some completed
      exact ih (preserved start event next initial meets.1 stepped) (meets.2 next stepped) remaining

theorem meets_trivial (everything : ∀ state event, allowed state event) :
    Meets step allowed start events := by
  induction events generalizing start with
  | nil => trivial
  | cons event rest ih => exact ⟨everything start event, fun _ _ => ih⟩

theorem meets_of_forall {premise : ε → Prop} (each : ∀ event ∈ events, premise event) :
    Meets step (fun _ => premise) start events := by
  induction events generalizing start with
  | nil => trivial
  | cons event rest ih =>
      exact ⟨each event (List.mem_cons_self ..), fun _ _ => ih fun other member => each other (List.mem_cons_of_mem _ member)⟩

theorem Meets.mono {weaker : σ → ε → Prop} (meets : Meets step allowed start events)
    (implied : ∀ state event, allowed state event → weaker state event) :
    Meets step weaker start events := by
  induction events generalizing start with
  | nil => trivial
  | cons event rest ih =>
      exact ⟨implied start event meets.1, fun next stepped => ih (meets.2 next stepped)⟩

/-- Along a run that is taken to its end, a condition with what an invariant adds
to it yields another. -/
theorem Meets.along {weaker : σ → ε → Prop} (invariant : σ → Prop)
    (preserved : ∀ state event next, invariant state → allowed state event → step state event = some next → invariant next)
    (implied : ∀ state event next, invariant state → allowed state event → step state event = some next →
      weaker state event)
    (initial : invariant start) (meets : Meets step allowed start events)
    (completed : run step start events = some final) : Meets step weaker start events := by
  induction events generalizing start with
  | nil => trivial
  | cons event rest ih =>
      obtain ⟨next, stepped, remaining⟩ := run_cons_some completed
      refine ⟨implied start event next initial meets.1 stepped, ?_⟩
      intro other same
      cases stepped.symm.trans same
      exact ih (preserved start event next initial meets.1 stepped) (meets.2 next stepped) remaining

/-- Along a run that is taken to its end, two conditions that agree where an
invariant holds are met together. -/
theorem meets_congr {agreed : σ → ε → Prop} (invariant : σ → Prop)
    (preserved : ∀ state event next, invariant state → step state event = some next → invariant next)
    (agree : ∀ state event next, invariant state → step state event = some next → (allowed state event ↔ agreed state event))
    (initial : invariant start) (completed : run step start events = some final) :
    Meets step allowed start events ↔ Meets step agreed start events := by
  induction events generalizing start with
  | nil => rfl
  | cons event rest ih =>
      obtain ⟨next, stepped, remaining⟩ := run_cons_some completed
      have later := ih (preserved start event next initial stepped) remaining
      simp only [Meets, stepped, Option.some.injEq, forall_eq', agree start event next initial stepped, later]

/-- Where a step that is not admitted ends a property for the state it leads to,
a run goes through states with the property exactly when its steps are admitted. -/
theorem always_iff_meets {invariant good : σ → Prop} (fine : ∀ state, invariant state → good state)
    (preserved : ∀ state event next, invariant state → allowed state event → step state event = some next → invariant next)
    (lost : ∀ state event, invariant state → ¬ allowed state event → ∃ next, step state event = some next ∧ ¬ good next)
    (initial : invariant start) :
    (∀ before after state, events = before ++ after → run step start before = some state → good state) ↔
      Meets step allowed start events := by
  induction events generalizing start with
  | nil =>
      refine ⟨fun _ => trivial, fun _ before after state split reached => ?_⟩
      obtain ⟨rfl, rfl⟩ := List.append_eq_nil_iff.mp split.symm
      cases reached
      exact fine start initial
  | cons event rest ih =>
      constructor
      · intro always
        by_cases admitted : allowed start event
        · refine ⟨admitted, fun next stepped => (ih (preserved start event next initial admitted stepped)).mp ?_⟩
          intro before after state split reached
          refine always (event :: before) after state (by rw [split, List.cons_append]) ?_
          rw [run, stepped, Option.bind_some, reached]
        · obtain ⟨next, stepped, bad⟩ := lost start event initial admitted
          refine absurd (always [event] rest next rfl ?_) bad
          rw [run, stepped, Option.bind_some, run_nil]
      · intro meets before after state split reached
        cases before with
        | nil =>
            cases reached
            exact fine start initial
        | cons first before =>
            obtain ⟨rfl, later⟩ := List.cons_eq_cons.mp split
            obtain ⟨next, stepped, remaining⟩ := run_cons_some reached
            have kept := preserved start event next initial meets.1 stepped
            exact (ih kept).mpr (meets.2 next stepped) before after state later remaining

theorem reachable_invariant {invariant : σ → Prop}
    (preserved : ∀ state event next, invariant state → step state event = some next → invariant next)
    (initial : invariant start) (reached : Reachable step start final) : invariant final := by
  obtain ⟨events, completed⟩ := reached
  have everything : Meets step (fun _ _ => True) start events := meets_trivial fun _ _ => trivial
  exact run_invariant invariant (fun state event next held _ stepped => preserved state event next held stepped)
    initial everything completed

/-- An invariant that also tells what has happened so far. -/
theorem run_history {invariant : List ε → σ → Prop}
    (preserved : ∀ before state event next, invariant before state → step state event = some next →
      invariant (before ++ [event]) next)
    (initial : invariant first start) (completed : run step start events = some final) : invariant (first ++ events) final := by
  induction events generalizing first start with
  | nil =>
      cases completed
      rwa [List.append_nil]
  | cons event rest ih =>
      obtain ⟨next, stepped, remaining⟩ := run_cons_some completed
      have later := ih (preserved first start event next initial stepped) remaining
      rwa [List.append_assoc] at later

/-- A property that only the events satisfying `loses` can end either still
holds after a run or was ended by such an event of the run. -/
theorem run_retained {kept : σ → Prop} {loses : σ → ε → Prop}
    (preserved : ∀ state event next, kept state → allowed state event → ¬ loses state event →
      step state event = some next → kept next)
    (initial : kept start) (meets : Meets step allowed start events)
    (completed : run step start events = some final) :
    kept final ∨ ∃ before event after state, events = before ++ event :: after ∧
      run step start before = some state ∧ loses state event := by
  induction events generalizing start with
  | nil => cases completed; exact .inl initial
  | cons event rest ih =>
      obtain ⟨next, stepped, remaining⟩ := run_cons_some completed
      by_cases lost : loses start event
      · exact .inr ⟨[], event, rest, start, rfl, rfl, lost⟩
      · rcases ih (preserved start event next initial meets.1 lost stepped)
          (meets.2 next stepped) remaining with still | ⟨before, later, after, state, split, reached, lost⟩
        · exact .inl still
        · refine .inr ⟨event :: before, later, after, state, by rw [split]; rfl, ?_, lost⟩
          simpa only [run, stepped, Option.bind_some] using reached

/-- How many of the steps a run takes are of a kind. -/
def countSteps (step : Step σ ε) (counted : σ → ε → Bool) : σ → List ε → Nat
  | _, [] => 0
  | state, event :: rest =>
      match step state event with
      | none => 0
      | some next => (if counted state event then 1 else 0) + countSteps step counted next rest

/-- A step that is taken only while something is absent, and brings it about for
good, is taken at most once. -/
theorem countSteps_once {counted : σ → ε → Bool} {invariant present : σ → Prop}
    (preserved : ∀ state event next, invariant state → allowed state event → step state event = some next →
      invariant next ∧ (present state → present next) ∧ (counted state event = true → ¬ present state ∧ present next))
    (initial : invariant start) (meets : Meets step allowed start events) :
    countSteps step counted start events ≤ 1 ∧ (present start → countSteps step counted start events = 0) := by
  induction events generalizing start with
  | nil => exact ⟨Nat.zero_le _, fun _ => rfl⟩
  | cons event rest ih =>
      simp only [countSteps]
      cases stepped : step start event with
      | none => exact ⟨Nat.zero_le _, fun _ => rfl⟩
      | some next =>
          obtain ⟨kept, persists, once⟩ := preserved start event next initial meets.1 stepped
          obtain ⟨bound, spent⟩ := ih kept (meets.2 next stepped)
          cases kind : counted start event with
          | false => simpa using ⟨bound, fun held => spent (persists held)⟩
          | true =>
              obtain ⟨absent, appears⟩ := once kind
              simpa [spent appears] using absent

end MeshTalk.Library
