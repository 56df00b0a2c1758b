import Mathlib.Data.List.Basic

/-! Machines that hand on what their inputs bring, until one of them is the last. -/

/-- A machine that hands on what its inputs bring, until an input stops it for good. -/
structure FeedsUntil {S E M : Type} (next : S → E → S) (out : S → List M) (brings : E → Option M)
    (stop : E → Bool) (Live Dead : S → Prop) : Prop where
  goes : ∀ {state input}, Live state → stop input = false →
    Live (next state input) ∧ out (next state input) = out state ++ (brings input).toList
  stops : ∀ {state input}, Live state → stop input = true →
    Dead (next state input) ∧ out (next state input) = out state
  stays : ∀ {state input}, Dead state →
    Dead (next state input) ∧ out (next state input) = out state

namespace FeedsUntil

variable {S E M : Type} {next : S → E → S} {out : S → List M} {brings : E → Option M}
  {stop : E → Bool} {Live Dead : S → Prop}

/-- Once stopped it hands on nothing. -/
theorem foldl_dead (feeds : FeedsUntil next out brings stop Live Dead) (inputs : List E) {state : S}
    (dead : Dead state) :
    Dead (inputs.foldl next state) ∧ out (inputs.foldl next state) = out state := by
  -- A stopped feed takes an input and is as stopped as before.
  induction inputs generalizing state with
  | nil => exact ⟨dead, rfl⟩
  | cons input inputs ih =>
    obtain ⟨again, same⟩ := feeds.stays dead
    obtain ⟨later, rest⟩ := ih again
    exact ⟨later, rest.trans same⟩

/-- It hands on what the inputs before the first stop bring. -/
theorem foldl_out (feeds : FeedsUntil next out brings stop Live Dead) (inputs : List E) {state : S}
    (live : Live state) :
    out (inputs.foldl next state) =
      out state ++ (inputs.takeWhile (!stop ·)).filterMap brings := by
  induction inputs generalizing state with
  | nil => simp
  | cons input inputs ih =>
    rw [List.foldl_cons, List.takeWhile_cons]
    cases stopped : stop input with
    | true =>
      -- The input that stops the machine brings nothing, and neither does any later one.
      obtain ⟨dead, same⟩ := feeds.stops live stopped
      rw [(feeds.foldl_dead inputs dead).2, same]
      simp
    | false =>
      obtain ⟨again, longer⟩ := feeds.goes live stopped
      rw [ih again, longer]
      cases found : brings input <;> simp [found]

/-- It is stopped exactly by an input that stops it. -/
theorem foldl_state (feeds : FeedsUntil next out brings stop Live Dead) (inputs : List E) {state : S}
    (live : Live state) :
    (inputs.any stop = false ∧ Live (inputs.foldl next state)) ∨
      (inputs.any stop = true ∧ Dead (inputs.foldl next state)) := by
  -- The state is one of the two, by whether a stop was among the inputs so far.
  induction inputs generalizing state with
  | nil => exact .inl ⟨rfl, live⟩
  | cons input inputs ih =>
    rw [List.foldl_cons, List.any_cons]
    cases stopped : stop input with
    | true => exact .inr ⟨rfl, (feeds.foldl_dead inputs (feeds.stops live stopped).1).1⟩
    | false => exact ih (feeds.goes live stopped).1

end FeedsUntil
