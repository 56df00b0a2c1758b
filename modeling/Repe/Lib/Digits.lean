import Mathlib.Algebra.Order.Group.Nat
import Mathlib.Tactic.IntervalCases

/-! How many bytes a number takes when it is written out in digits. -/

namespace Digits

/-- Digits are ASCII characters. -/
theorem utf8Size_digitChar (digit : Nat) : digit.digitChar.utf8Size = 1 := by
  -- Sixteen digits, and one character for everything else.
  by_cases small : digit < 16
  · interval_cases digit <;> rfl
  · rw [Nat.digitChar_eq_star.mpr (Nat.not_lt.mp small)]
    rfl

/-- Every character of a written number is a digit. -/
theorem utf8Size_of_mem_toDigits {base : Nat} (positional : 1 < base) (number : Nat) :
    ∀ char ∈ Nat.toDigits base number, char.utf8Size = 1 := by
  -- The last digit comes off the end, and what is in front of it is a smaller number.
  induction number using Nat.strong_induction_on with
  | _ number ih =>
    intro char member
    rw [Nat.toDigits_eq_if positional] at member
    split at member
    · rw [List.mem_singleton.mp member]
      exact utf8Size_digitChar number
    · next large =>
      rcases List.mem_append.mp member with front | last
      · exact ih _ (Nat.div_lt_self (by omega) positional) char front
      · rw [List.mem_singleton.mp last]
        exact utf8Size_digitChar _

/-- A text of ASCII characters has one byte for each. -/
theorem utf8ByteSize_ofList {chars : List Char} (ascii : ∀ char ∈ chars, char.utf8Size = 1) :
    (String.ofList chars).utf8ByteSize = chars.length := by
  -- Each character adds its one byte.
  induction chars with
  | nil => rfl
  | cons char rest ih =>
    rw [List.forall_mem_cons] at ascii
    rw [String.ofList_cons, String.utf8ByteSize_append, String.utf8ByteSize_singleton, ascii.1,
      ih ascii.2, List.length_cons, Nat.add_comm]

/-- How many decimal digits a number is written with. -/
def width (number : Nat) : Nat := (Nat.toDigits 10 number).length

/-- A number takes as many bytes as it has digits. -/
@[simp] theorem utf8ByteSize_toString (number : Nat) : (toString number).utf8ByteSize = width number := by
  rw [Nat.toString_eq_ofList_toDigits, width]
  exact utf8ByteSize_ofList (utf8Size_of_mem_toDigits (by decide) number)

/-- A number below a power of the base has no more digits than the exponent. -/
theorem width_le {number exponent : Nat} (positive : 0 < exponent) (small : number < 10 ^ exponent) :
    width number ≤ exponent := by
  rw [width, Nat.length_toDigits_le_iff (by decide) positive]
  exact small

/-- A number has no more decimal than binary digits. -/
theorem width_le_bits {number bits : Nat} (positive : 0 < bits) (small : number < 2 ^ bits) :
    width number ≤ bits :=
  width_le positive (Nat.lt_of_lt_of_le small (Nat.pow_le_pow_left (by decide) bits))

end Digits
