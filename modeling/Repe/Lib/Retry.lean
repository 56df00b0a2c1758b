import Mathlib.Data.ENat.Lattice

/-! Attempts that are made until one settles the matter, and how many that takes. -/

namespace Retry

variable {α ε : Type} (again : ε → Bool)

/-- An outcome after which nothing is tried again. -/
def Settles : Except ε α → Prop
  | .ok _ => True
  | .error error => again error = false

instance (outcome : Except ε α) : Decidable (Settles again outcome) :=
  match outcome with
  | .ok _ => .isTrue trivial
  | .error error => decEq (again error) false

/-- Counting from one, the first outcome that settles; none of them does if this is infinite. -/
noncomputable def firstSettled (outcome : Nat → Except ε α) : ℕ∞ :=
  ⨅ number ∈ {number | Settles again (outcome number)}, (number : ℕ∞) + 1

variable {again} {outcome : Nat → Except ε α}

/-- No earlier outcome settles than the one that is counted. -/
theorem lt_firstSettled {count : Nat} (unsettled : ∀ number < count, ¬Settles again (outcome number)) :
    (count : ℕ∞) + 1 ≤ firstSettled again outcome := by
  refine le_iInf₂ fun number settles => ?_
  -- An outcome that settles is not among the first ones.
  have behind : count ≤ number := by
    by_contra before
    exact unsettled number (by omega) settles
  gcongr

/-- The first outcome that settles is the one counted. -/
theorem firstSettled_eq {number : Nat} (unsettled : ∀ earlier < number, ¬Settles again (outcome earlier))
    (settles : Settles again (outcome number)) :
    firstSettled again outcome = (number : ℕ∞) + 1 :=
  le_antisymm (iInf₂_le number settles) (lt_firstSettled unsettled)

/--
Attempts that end at the first outcome that settles, or else at a limit, are as many as the smaller
of the two.
-/
theorem attempts_eq_min {last limit : Nat} (below : last < limit)
    (unsettled : ∀ earlier < last, ¬Settles again (outcome earlier))
    (stopped : Settles again (outcome last) ∨ last + 1 = limit) :
    ((last + 1 : Nat) : ℕ∞) = min (limit : ℕ∞) (firstSettled again outcome) := by
  by_cases settles : Settles again (outcome last)
  · rw [firstSettled_eq unsettled settles, ← Nat.cast_succ]
    exact (min_eq_right (by exact_mod_cast below)).symm
  · -- The limit has stopped them, with nothing settled up to it.
    have limited : last + 1 = limit := stopped.resolve_left settles
    rw [← limited]
    refine (min_eq_left ?_).symm
    rw [Nat.cast_succ]
    exact lt_firstSettled unsettled

end Retry
