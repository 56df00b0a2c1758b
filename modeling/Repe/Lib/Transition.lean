import Mathlib.Algebra.Order.Group.Nat

/-! Runs of a transition system, and the rule that carries an invariant along them. -/

namespace Transition

variable {σ ε : Type} (step : σ → ε → Option σ)

/-- Take the steps of a schedule in order; a step that is not enabled ends the attempt. -/
def run : σ → List ε → Option σ
  | state, [] => some state
  | state, event :: events => (step state event).bind (run · events)

/-- Every step of a schedule meets a condition on the state it is taken in. -/
def Meets (guard : σ → ε → Prop) : σ → List ε → Prop
  | _, [] => True
  | state, event :: events =>
    -- Past a step that is not enabled there is nothing left to meet.
    guard state event ∧ ∀ after, step state event = some after → Meets guard after events

/-- Whether a schedule meets a decidable condition is found by running it. -/
instance decidableMeets (guard : σ → ε → Prop) [∀ state event, Decidable (guard state event)] :
    (state : σ) → (events : List ε) → Decidable (Meets step guard state events)
  | _, [] => .isTrue trivial
  | state, event :: events =>
    match reached : step state event with
    -- A step that is not enabled ends the schedule.
    | none => decidable_of_iff (guard state event) (by simp [Meets, reached])
    | some after =>
      have := decidableMeets guard after events
      decidable_of_iff (guard state event ∧ Meets step guard after events) (by simp [Meets, reached])

variable {step}

/-- One step followed by the rest of a schedule. -/
theorem run_cons {state after : σ} {event : ε} {events : List ε} :
    run step state (event :: events) = some after ↔
      ∃ between, step state event = some between ∧ run step between events = some after := by
  rw [run, Option.bind_eq_some_iff]

/-- A schedule that goes on where another one ends. -/
theorem run_append {state between : σ} {first : List ε} (second : List ε)
    (ran : run step state first = some between) :
    run step state (first ++ second) = run step between second := by
  -- Event by event, up to where the first schedule ends.
  induction first generalizing state with
  | nil =>
    cases ran
    rfl
  | cons event events ih =>
    obtain ⟨next, taken, rest⟩ := run_cons.mp ran
    rw [List.cons_append, run, taken, Option.bind_some, ih rest]

/-- A condition that every event of a schedule meets in every state is met along it. -/
theorem meets_of_forall {guard : σ → ε → Prop} {events : List ε} {state : σ}
    (always : ∀ event ∈ events, ∀ state, guard state event) : Meets step guard state events := by
  -- The condition does not depend on the state, so neither does the induction.
  induction events generalizing state with
  | nil => trivial
  | cons event events ih =>
    refine ⟨always event List.mem_cons_self state, fun after _ => ?_⟩
    exact ih fun later member => always later (List.mem_cons_of_mem _ member)

/-- Two conditions that are both met along a schedule are met together. -/
theorem meets_and {guard other : σ → ε → Prop} {events : List ε} {state : σ}
    (first : Meets step guard state events) (second : Meets step other state events) :
    Meets step (fun state event => guard state event ∧ other state event) state events := by
  -- Both conditions are met by the first event, and behind it.
  induction events generalizing state with
  | nil => trivial
  | cons event events ih =>
    exact ⟨⟨first.1, second.1⟩, fun after taken => ih (first.2 after taken) (second.2 after taken)⟩

/-- A condition is met along a schedule if it is met along its first part, and from there on. -/
theorem meets_append {guard : σ → ε → Prop} {first second : List ε} {state : σ}
    (before : Meets step guard state first)
    (later : ∀ between, run step state first = some between → Meets step guard between second) :
    Meets step guard state (first ++ second) := by
  -- The first part is used up step by step, and the second starts where it ends.
  induction first generalizing state with
  | nil => exact later state rfl
  | cons event events ih =>
    refine ⟨before.1, fun after taken => ih (before.2 after taken) fun between ran => ?_⟩
    exact later between (run_cons.mpr ⟨after, taken, ran⟩)

/-- What holds at first and is kept by every step that meets the condition holds at the end. -/
theorem invariant_of_meets {guard : σ → ε → Prop} (invariant : σ → Prop)
    (kept : ∀ state event after, invariant state → guard state event →
      step state event = some after → invariant after)
    {events : List ε} {state after : σ} (start : invariant state)
    (meets : Meets step guard state events) (ran : run step state events = some after) :
    invariant after := by
  -- Each step hands the invariant and the condition on the later steps to the next state.
  induction events generalizing state with
  | nil =>
    cases ran
    exact start
  | cons event events ih =>
    obtain ⟨between, taken, rest⟩ := run_cons.mp ran
    obtain ⟨allowed, later⟩ := meets
    exact ih (kept state event between start allowed taken) (later between taken) rest

/-- What holds at first and is kept by every step holds at the end of every run. -/
theorem invariant_of_run (invariant : σ → Prop)
    (kept : ∀ state event after, invariant state → step state event = some after → invariant after)
    {events : List ε} {state after : σ} (start : invariant state)
    (ran : run step state events = some after) : invariant after := by
  -- Each step hands the invariant to the next state.
  induction events generalizing state with
  | nil =>
    cases ran
    exact start
  | cons event events ih =>
    obtain ⟨between, taken, rest⟩ := run_cons.mp ran
    exact ih (kept state event between start taken) rest

/-- A schedule whose events all use up some of a measure is no longer than the measure. -/
theorem length_le_of_run (measure : σ → Nat) {events : List ε} {state after : σ}
    (drops : ∀ event ∈ events, ∀ state after, step state event = some after →
      measure after < measure state)
    (ran : run step state events = some after) : events.length + measure after ≤ measure state := by
  -- The first event uses up one unit, the others what is left.
  induction events generalizing state with
  | nil =>
    cases ran
    simp
  | cons event events ih =>
    obtain ⟨between, taken, rest⟩ := run_cons.mp ran
    have first := drops event List.mem_cons_self state between taken
    have others := ih (fun later member => drops later (List.mem_cons_of_mem _ member)) rest
    rw [List.length_cons]
    omega

/-- A system that uses up a measure, and can always go on until it is finished, gets there. -/
theorem finishes_of_measure (measure : σ → Nat) {finished : σ → Prop}
    (drops : ∀ state event after, step state event = some after → measure after < measure state)
    (progress : ∀ state, finished state ∨ ∃ event after, step state event = some after)
    (state : σ) : ∃ events after, run step state events = some after ∧ finished after := by
  -- By strong induction on the measure, since a step may use up more than one.
  induction size : measure state using Nat.strong_induction_on generalizing state with
  | _ size ih =>
    rcases progress state with done | ⟨event, between, taken⟩
    · exact ⟨[], state, rfl, done⟩
    · obtain ⟨events, after, ran, done⟩ :=
        ih (measure between) (size ▸ drops state event between taken) between rfl
      exact ⟨event :: events, after, run_cons.mpr ⟨between, taken, ran⟩, done⟩

end Transition
