import Mathlib.Data.List.Basic

/-! Pieces of a stream, each from one offset to another: runs without a gap, and what a receiver holds. -/

namespace Spans

variable {α : Type} (start stop : α → Nat)

/-- The pieces follow one another exactly, from the first offset to the last. -/
def Run (first : Nat) : List α → Nat → Prop
  | [], last => first = last
  | piece :: pieces, last => start piece = first ∧ Run (stop piece) pieces last

/-- How far a receiver that holds everything below an offset gets with some pieces. -/
def reach (held : Nat) (pieces : List α) : Nat :=
  pieces.foldl (fun held piece => max held (stop piece)) held

/-- Arriving in this order, no piece starts beyond what the receiver holds by then. -/
def Gapless (held : Nat) : List α → Prop
  | [] => True
  | piece :: pieces => start piece ≤ held ∧ Gapless (max held (stop piece)) pieces

variable {start stop} {first last held : Nat} {pieces : List α} {piece : α}

/-- A piece that starts where a run ends makes the run longer. -/
theorem Run.concat (run : Run start stop first pieces last) (follows : start piece = last) :
    Run start stop first (pieces ++ [piece]) (stop piece) := by
  induction pieces generalizing first with
  | nil => exact ⟨follows.trans run.symm, rfl⟩
  | cons head pieces ih => exact ⟨run.1, ih run.2⟩

/-- The last pieces of a run are a run to the same end. -/
theorem Run.of_suffix {tail : List α} (run : Run start stop first pieces last)
    (suffix : tail <:+ pieces) : ∃ middle, Run start stop middle tail last := by
  -- Either nothing was dropped, or the first piece was.
  induction pieces generalizing first with
  | nil =>
    rw [List.suffix_nil.mp suffix]
    exact ⟨first, run⟩
  | cons head pieces ih =>
    rcases List.suffix_cons_iff.mp suffix with whole | shorter
    · exact ⟨first, whole ▸ run⟩
    · exact ih run.2 shorter

/-- The last piece of a run stops where the run does. -/
theorem Run.getLast (run : Run start stop first pieces last)
    (final : pieces.getLast? = some piece) : stop piece = last := by
  -- Only the last piece is next to the end of the run.
  induction pieces generalizing first with
  | nil => simp at final
  | cons head pieces ih =>
    cases pieces with
    | nil =>
      simp only [List.getLast?_singleton, Option.some.injEq] at final
      rw [← final]
      exact run.2
    | cons next pieces =>
      rw [List.getLast?_cons_cons] at final
      exact ih run.2 final

section Ordered

variable (ordered : ∀ piece : α, start piece ≤ stop piece)

include ordered

/-- A run does not end before it starts. -/
theorem Run.first_le_last (run : Run start stop first pieces last) : first ≤ last := by
  -- Every piece goes forward, and the next starts where it stops.
  induction pieces generalizing first with
  | nil => exact Nat.le_of_eq run
  | cons head pieces ih =>
    have tail := ih run.2
    have opens := run.1
    have forward := ordered head
    omega

/-- No piece of a run starts before the run, and none stops after it. -/
theorem Run.within (run : Run start stop first pieces last) (member : piece ∈ pieces) :
    first ≤ start piece ∧ stop piece ≤ last := by
  -- A piece is the first one, or lies in the run behind it.
  induction pieces generalizing first with
  | nil => simp at member
  | cons head pieces ih =>
    have opens := run.1
    have forward := ordered head
    rcases List.mem_cons.mp member with same | later
    · subst same
      exact ⟨by omega, run.2.first_le_last ordered⟩
    · have tail := ih run.2 later
      exact ⟨by omega, tail.2⟩

/-- Every piece of a run is at or after an offset that the run is not before. -/
theorem Run.filter_eq_self {offset : Nat} (run : Run start stop first pieces last)
    (early : offset ≤ first) : pieces.filter (fun piece => offset ≤ start piece) = pieces := by
  rw [List.filter_eq_self]
  intro piece member
  -- A piece of the run is not before its first offset.
  have inside := (Run.within ordered run member).1
  simp only [decide_eq_true_eq]
  omega

/-- The pieces of a run at or after an offset are the last ones of the run. -/
theorem Run.filter_suffix (run : Run start stop first pieces last) (offset : Nat) :
    pieces.filter (fun piece => offset ≤ start piece) <:+ pieces := by
  induction pieces generalizing first with
  | nil => simp
  | cons head pieces ih =>
    by_cases kept : offset ≤ start head
    · -- Everything after the first piece starts even later.
      have opens := run.1
      simp only [Run.filter_eq_self ordered run (show offset ≤ first by omega), List.suffix_refl]
    · rw [List.filter_cons_of_neg (by simpa using kept)]
      exact (ih run.2).trans (List.suffix_cons _ _)

/-- A run replayed from one of its boundaries starts exactly there. -/
theorem Run.replay {offset : Nat} (run : Run start stop first pieces last)
    (boundary : offset = last ∨ ∃ piece ∈ pieces, start piece = offset) :
    Run start stop offset (pieces.filter (fun piece => offset ≤ start piece)) last := by
  -- Pieces before the boundary are dropped one by one, up to the one that starts there.
  induction pieces generalizing first with
  | nil =>
    rcases boundary with ends | ⟨_, member, _⟩
    · exact ends
    · simp at member
  | cons head pieces ih =>
    have opens := run.1
    by_cases kept : offset ≤ start head
    · -- A boundary that is not past the first piece is the start of it.
      have here : start head = offset := by
        rcases boundary with ends | ⟨piece, member, starts⟩
        · have inside := Run.first_le_last ordered run
          omega
        · have inside := (Run.within ordered run member).1
          omega
      rw [Run.filter_eq_self ordered run (by omega)]
      exact ⟨here, run.2⟩
    · rw [List.filter_cons_of_neg (by simpa using kept)]
      apply ih run.2
      rcases boundary with ends | ⟨piece, member, starts⟩
      · exact .inl ends
      · rcases List.mem_cons.mp member with same | later
        · subst same
          omega
        · exact .inr ⟨piece, later, starts⟩

end Ordered

/-- Pieces never take anything away from the receiver. -/
theorem le_reach (held : Nat) (pieces : List α) : held ≤ reach stop held pieces := by
  -- Every piece moves the reach forward or leaves it.
  induction pieces generalizing held with
  | nil => exact Nat.le_refl _
  | cons head pieces ih =>
    have tail := ih (max held (stop head))
    simp only [reach, List.foldl_cons] at tail ⊢
    omega

/-- One more piece moves the reach to its end. -/
theorem reach_concat (held : Nat) (pieces : List α) (piece : α) :
    reach stop held (pieces ++ [piece]) = max (reach stop held pieces) (stop piece) := by
  simp [reach]

/-- A piece that starts within reach can be sent after the others. -/
theorem Gapless.concat (gapless : Gapless start stop held pieces)
    (within : start piece ≤ reach stop held pieces) :
    Gapless start stop held (pieces ++ [piece]) := by
  induction pieces generalizing held with
  | nil => exact ⟨within, trivial⟩
  | cons head pieces ih => exact ⟨gapless.1, ih gapless.2 within⟩

end Spans
