import Mathlib.Data.List.DropRight
import Mathlib.Data.List.Infix
import Repe.Svs.Consumer

/-! What a trailer writer has forwarded and what it holds back, after any writes. -/

namespace Repe.Svs.TrailerHold

variable {D : Type} {trailerLen : Nat}

theorem new_eq_ok {t : Target} {digest : D} {writer : TrailerHold D} :
    new t trailerLen digest = .ok writer ↔ trailerLen ≤ t.isizeMax ∧ ⟨[], digest⟩ = writer := by
  unfold new Target.allocate
  -- The buffer can be made, or it is too large for any.
  split
  · next small => simp [small]
  · next large => simp [large]

/--
Writes one after the other: every piece for the inner writer, in order, and the writer after them.
-/
def writes (trailerLen : Nat) : TrailerHold D → List Bytes → List Bytes × TrailerHold D
  | writer, [] => ([], writer)
  | writer, buf :: bufs =>
    let (pieces, writer) := writer.write trailerLen buf
    let (later, writer) := writes trailerLen writer bufs
    (pieces ++ later, writer)

theorem writes_append (writer : TrailerHold D) (before after : List Bytes) :
    writes trailerLen writer (before ++ after) =
      let first := writes trailerLen writer before
      let second := writes trailerLen first.2 after
      (first.1 ++ second.1, second.2) := by
  induction before generalizing writer with
  | nil => rfl
  | cons buf bufs ih => simp only [List.cons_append, writes, ih, List.append_assoc]

theorem writes_flatten (writer : TrailerHold D) (bufs : List Bytes) :
    (writes trailerLen writer bufs).1.flatten ++ (writes trailerLen writer bufs).2.hold
      = writer.hold ++ bufs.flatten := by
  -- Each write keeps the equation for the bytes it is given.
  induction bufs generalizing writer with
  | nil => simp [writes]
  | cons buf bufs ih =>
    simp only [writes, List.flatten_append, List.flatten_cons, List.append_assoc]
    rw [ih, ← List.append_assoc, write_flatten, List.append_assoc]

theorem writes_hold_length (writer : TrailerHold D) (bufs : List Bytes)
    (fits : writer.hold.length ≤ trailerLen) :
    (writes trailerLen writer bufs).2.hold.length
      = min trailerLen (writer.hold.length + bufs.flatten.length) := by
  -- Write by write, from what was held before.
  induction bufs generalizing writer with
  | nil => simpa [writes] using fits
  | cons buf bufs ih =>
    have kept : (writer.write trailerLen buf).2.hold.length = _ := write_hold_length buf
    show (writes trailerLen (writer.write trailerLen buf).2 bufs).2.hold.length = _
    rw [ih _ (by omega), kept, List.flatten_cons, List.length_append]
    omega

/-- Of two lists that make up a third, the second as long as its tail, each is the part of it. -/
theorem rdrop_rtake_of_append {α : Type} {front back whole : List α} {count : Nat}
    (joined : front ++ back = whole) (length : back.length = min count whole.length) :
    front = whole.rdrop count ∧ back = whole.rtake count := by
  -- The lengths fix where the list is cut.
  have sizes : front.length = whole.length - count := by
    have total := congrArg List.length joined
    rw [List.length_append] at total
    omega
  rw [List.rdrop, List.rtake, ← sizes, ← joined, List.take_left, List.drop_left]
  exact ⟨rfl, rfl⟩

theorem hold_length_new (digest : D) (bufs : List Bytes) :
    (writes trailerLen ⟨[], digest⟩ bufs).2.hold.length = min trailerLen bufs.flatten.length := by
  rw [writes_hold_length ⟨[], digest⟩ bufs (Nat.zero_le _)]
  show min trailerLen (0 + bufs.flatten.length) = _
  rw [Nat.zero_add]

/-- A new writer has after some writes forwarded all of them but the trailer, which it holds. -/
theorem writes_new (digest : D) (bufs : List Bytes) :
    (writes trailerLen ⟨[], digest⟩ bufs).1.flatten = bufs.flatten.rdrop trailerLen ∧
      (writes trailerLen ⟨[], digest⟩ bufs).2.hold = bufs.flatten.rtake trailerLen := by
  apply rdrop_rtake_of_append
  · exact writes_flatten ⟨[], digest⟩ bufs
  · exact hold_length_new digest bufs

/-- The pieces of the writes so far, and some of those of the next, come first among all. -/
theorem pieces_front (trailerLen : Nat) (writer : TrailerHold D) (before after : List Bytes) (buf : Bytes)
    (count : Nat) :
    (writes trailerLen writer before).1
        ++ ((writes trailerLen writer before).2.write trailerLen buf).1.take count
      <+: (writes trailerLen writer (before ++ buf :: after)).1 := by
  rw [writes_append]
  simp only [writes]
  -- Both start with the pieces of the earlier writes.
  apply (List.prefix_append_right_inj _).mpr
  exact ( List.take_prefix _ _).trans (List.prefix_append _ _)

/--
A trailer writer forwards what it is given without the last bytes, and holds those back; where it can
be made at all, it starts with nothing held.

Between any two writes to the inner writer, what was forwarded is a front of that, so no byte of the
trailer is among it, whatever is written later.
-/
theorem forwards_all_but_trailer (t : Target) (trailerLen : Nat) (digest : D) (bufs : List Bytes) :
    (∀ writer, new t trailerLen digest = .ok writer ↔
        trailerLen ≤ t.isizeMax ∧ ⟨[], digest⟩ = writer) ∧
      (writes trailerLen ⟨[], digest⟩ bufs).1.flatten = bufs.flatten.rdrop trailerLen ∧
      (writes trailerLen ⟨[], digest⟩ bufs).2.hold = bufs.flatten.rtake trailerLen ∧
      (∀ trailer, (writes trailerLen ⟨[], digest⟩ bufs).2.intoTrailer trailerLen = .ok trailer ↔
        trailerLen ≤ bufs.flatten.length ∧ trailer = bufs.flatten.rtake trailerLen) ∧
      ∀ before after, bufs = before ++ after →
        (writes trailerLen ⟨[], digest⟩ before).2.hold.length ≤ trailerLen ∧
        ∀ buf later count, after = buf :: later →
          ((writes trailerLen ⟨[], digest⟩ before).1 ++
            ((writes trailerLen ⟨[], digest⟩ before).2.write trailerLen buf).1.take count).flatten
              <+: bufs.flatten.rdrop trailerLen := by
  obtain ⟨forwarded, held⟩ : _ ∧ (writes trailerLen ⟨[], digest⟩ bufs).2.hold = _ :=
    writes_new digest bufs
  refine ⟨fun _ => new_eq_ok, forwarded, held, ?_, ?_⟩
  · intro trailer
    have length : (writes trailerLen ⟨[], digest⟩ bufs).2.hold.length = _ :=
      hold_length_new digest bufs
    rw [intoTrailer]
    split
    · simp only [reduceCtorEq, false_iff]
      omega
    · rw [Except.ok.injEq, held]
      exact ⟨fun same => ⟨by omega, same.symm⟩, fun same => same.2.symm⟩
  · intro before after joined
    refine ⟨by rw [hold_length_new]; exact Nat.min_le_left _ _, ?_⟩
    intro buf later count next
    rw [← forwarded, joined, next]
    -- A front of the pieces is a front of the bytes.
    exact List.IsPrefix.flatten (pieces_front trailerLen ⟨[], digest⟩ before later buf count)

/-- A trailer of two bytes that arrives in three writes: nothing of it is forwarded on the way. -/
theorem split_trailer_is_held :
    let bufs : List Bytes := [[1, 2, 3], [4], [5, 6, 7]]
    new .release64 2 () = .ok ⟨[], ()⟩ ∧ (writes 2 ⟨[], ()⟩ bufs).1.flatten = [1, 2, 3, 4, 5] ∧
      (writes 2 ⟨[], ()⟩ bufs).2.hold = [6, 7] ∧
      ((writes 2 ⟨[], ()⟩ [[1, 2, 3]]).1 ++
        ((writes 2 ⟨[], ()⟩ [[1, 2, 3]]).2.write 2 [4]).1.take 1).flatten <+: [1, 2, 3, 4, 5] := by
  obtain ⟨created, forwarded, held, _, moments⟩ :=
    forwards_all_but_trailer .release64 2 () [[1, 2, 3], [4], [5, 6, 7]]
  -- The moment is the one behind the first write.
  exact ⟨(created _).mpr ⟨by decide, rfl⟩, forwarded, held,
    (moments [[1, 2, 3]] [[4], [5, 6, 7]] rfl).2 [4] [[5, 6, 7]] 1 rfl⟩

end Repe.Svs.TrailerHold
