import Mathlib.Algebra.Order.Group.Nat

/-! Byte strings: windows into them, and the numbers fixed-width little-endian ones spell. -/

/-- A byte string. -/
abbrev Bytes := List UInt8

/-- The bytes at one range of a buffer. -/
def window (bytes : Bytes) (start width : Nat) : Bytes :=
  (bytes.drop start).take width

/-- A window inside its buffer has the width it asks for. -/
theorem window_length {bytes : Bytes} {start width : Nat} (inside : start + width ≤ bytes.length) :
    (window bytes start width).length = width := by
  -- The drop leaves enough bytes for the whole width.
  simp only [window, List.length_take, List.length_drop]
  omega

/-- Adjacent windows join into one. -/
theorem window_append (bytes : Bytes) (start first second : Nat) :
    window bytes start first ++ window bytes (start + first) second
      = window bytes start (first + second) := by
  -- Taking a sum takes the first part and then continues behind it.
  simp only [window, List.take_add, List.drop_drop]

/-- A one-byte window holds the byte stored at its start. -/
theorem window_one {bytes : Bytes} {start : Nat} (inside : start < bytes.length) :
    window bytes start 1 = [bytes[start]] := by
  rw [window, List.drop_eq_getElem_cons inside]
  rfl

/-- A window past a leading block is a window of what follows the block. -/
theorem window_skip {front back : Bytes} {start width : Nat} (past : front.length ≤ start) :
    window (front ++ back) start width = window back (start - front.length) width := by
  -- The whole leading block is dropped.
  simp only [window, List.drop_append, List.drop_of_length_le past, List.nil_append]

/-- A window as wide as the leading block is that block. -/
theorem window_head {front back : Bytes} {width : Nat} (exactly : front.length = width) :
    window (front ++ back) 0 width = front := by
  simp [window, ← exactly]

/-- A block with something missing is shorter than the whole. -/
theorem length_lt_of_missing {part lost whole : Bytes} (split : part ++ lost = whole)
    (missing : lost ≠ []) : part.length < whole.length := by
  -- The missing part has at least one byte.
  have some : 0 < lost.length := List.length_pos_iff.mpr missing
  rw [← split, List.length_append]
  omega

/-- A cut through two joined blocks falls short of the end of the first one, or not. -/
theorem append_cut {part lost front back : Bytes} (split : part ++ lost = front ++ back) :
    (∃ left, left ≠ [] ∧ part ++ left = front) ∨
      ∃ more, part = front ++ more ∧ more ++ lost = back := by
  rcases List.append_eq_append_iff.mp split with ⟨left, rfl, rfl⟩ | ⟨more, rfl, rfl⟩
  · -- A cut exactly at the joint counts as past the first block.
    cases left with
    | nil => exact .inr ⟨[], by simp⟩
    | cons value left => exact .inl ⟨value :: left, by simp, rfl⟩
  · exact .inr ⟨more, rfl, rfl⟩

section Moving

/--
A buffer in the middle of a move towards its back, with so many of the bytes moved.

The bytes are moved one by one, the last one first.
-/
def movedBack (buf : Bytes) (dest total : Nat) : Nat → Bytes
  | 0 => buf
  | moved + 1 =>
    let before := movedBack buf dest total moved
    let next := total - (moved + 1)
    before.set (dest + next) (before.getD next 0)

/-- A move leaves the buffer's length as it is. -/
@[simp]
theorem movedBack_length (buf : Bytes) (dest total moved : Nat) :
    (movedBack buf dest total moved).length = buf.length := by
  induction moved with
  | zero => rfl
  | succ moved ih => rw [movedBack, List.length_set, ih]

/--
What is in a buffer in the middle of a move: behind the next byte the moved ones, and every other
byte as it was.
-/
theorem movedBack_getElem? {buf : Bytes} {dest total : Nat} (inside : dest + total ≤ buf.length)
    {moved : Nat} (some_ : moved ≤ total) (position : Nat) :
    (movedBack buf dest total moved)[position]? =
      if dest + (total - moved) ≤ position ∧ position < dest + total then buf[position - dest]?
      else buf[position]? := by
  -- By induction on the moved bytes, for every position.
  induction moved generalizing position with
  | zero =>
    rw [movedBack, if_neg (by omega)]
  | succ moved ih =>
    have earlier := fun position => ih (by omega) position
    -- The byte that is moved lies in front of all that was written.
    have source : (movedBack buf dest total moved)[total - (moved + 1)]? =
        buf[total - (moved + 1)]? := by
      rw [earlier, if_neg (by omega)]
    rw [movedBack, List.getElem?_set]
    by_cases here : dest + (total - (moved + 1)) = position
    · rw [if_pos here, if_pos (by rw [movedBack_length]; omega), if_pos (by omega),
        List.getD_eq_getElem?_getD, source, ← here, Nat.add_sub_cancel_left,
        List.getElem?_eq_getElem (by omega : total - (moved + 1) < buf.length), Option.getD_some]
    · rw [if_neg here, earlier]
      by_cases written : dest + (total - moved) ≤ position ∧ position < dest + total
      · rw [if_pos written, if_pos (by omega)]
      · rw [if_neg written, if_neg (by omega)]

/-- No byte is overwritten before it is moved. -/
theorem movedBack_source {buf : Bytes} {dest total : Nat} (inside : dest + total ≤ buf.length)
    {moved : Nat} (some_ : moved ≤ total) {position : Nat} (ahead : position < total - moved) :
    (movedBack buf dest total moved)[position]? = buf[position]? := by
  rw [movedBack_getElem? inside some_, if_neg (by omega)]

/-- At its end the move has put the whole range where it was to go. -/
theorem movedBack_total {buf : Bytes} {dest total : Nat} (inside : dest + total ≤ buf.length) :
    movedBack buf dest total total = buf.take dest ++ buf.take total ++ buf.drop (dest + total) := by
  apply List.ext_getElem?
  intro position
  have front : (buf.take dest).length = dest := by rw [List.length_take]; omega
  have middle : (buf.take dest ++ buf.take total).length = dest + total := by
    rw [List.length_append, front, List.length_take]
    omega
  rw [movedBack_getElem? inside (Nat.le_refl _), Nat.sub_self, Nat.add_zero]
  -- A position is in front of the range, inside it, or behind it.
  by_cases before : position < dest
  · rw [if_neg (by omega), List.append_assoc, List.getElem?_append_left (by omega),
      List.getElem?_take_of_lt before]
  · by_cases within : position < dest + total
    · rw [if_pos ⟨by omega, within⟩, List.getElem?_append_left (by omega),
        List.getElem?_append_right (by omega), front, List.getElem?_take_of_lt (by omega)]
    · rw [if_neg (by omega), List.getElem?_append_right (by omega), middle, List.getElem?_drop,
        Nat.add_sub_cancel' (by omega)]

end Moving

namespace LittleEndian

/-- The low `width` bytes of a number, least significant first. -/
def toBytes : Nat → Nat → Bytes
  -- Each step emits one base-256 digit and keeps the quotient for the digits above it.
  | 0, _ => []
  | width + 1, value => UInt8.ofNat value :: toBytes width (value / 256)

/-- The number a byte string spells, least significant byte first. -/
def ofBytes : Bytes → Nat
  | [] => 0
  -- The first byte is the lowest digit.
  | byte :: rest => byte.toNat + 256 * ofBytes rest

/-- The width of an encoding does not depend on the value encoded. -/
@[simp] theorem toBytes_length (width value : Nat) : (toBytes width value).length = width := by
  -- One digit is written for each unit of width.
  induction width generalizing value with
  | zero => rfl
  | succ width ih => simp [toBytes, ih]

/-- A byte string spells a number below the power its length allows. -/
theorem ofBytes_lt (bytes : Bytes) : ofBytes bytes < 256 ^ bytes.length := by
  -- Each further byte multiplies the bound by 256.
  induction bytes with
  | nil => simp [ofBytes]
  | cons byte rest ih =>
    have digit : byte.toNat < 256 := byte.toNat_lt
    simp only [ofBytes, List.length_cons, Nat.pow_succ]
    omega

/-- Reading an encoding back keeps exactly the digits the width has room for. -/
theorem ofBytes_toBytes (width value : Nat) : ofBytes (toBytes width value) = value % 256 ^ width := by
  -- The low digit and the quotient are recovered independently.
  induction width generalizing value with
  | zero => simp [toBytes, ofBytes, Nat.mod_one]
  | succ width ih =>
    have digit : (UInt8.ofNat value).toNat = value % 256 := UInt8.toNat_ofNat'
    rw [toBytes, ofBytes, ih, digit, Nat.pow_succ, Nat.mul_comm (256 ^ width), Nat.mod_mul]

/-- Writing a spelled number at its own length restores the bytes. -/
theorem toBytes_ofBytes (bytes : Bytes) : toBytes bytes.length (ofBytes bytes) = bytes := by
  -- The first byte comes back as the low digit, and the rest from the quotient.
  induction bytes with
  | nil => rfl
  | cons byte rest ih =>
    have digit : byte.toNat < 256 := byte.toNat_lt
    have low : UInt8.ofNat (byte.toNat + 256 * ofBytes rest) = byte := by
      apply UInt8.toNat_inj.mp
      rw [UInt8.toNat_ofNat', Nat.add_mul_mod_self_left]
      exact Nat.mod_eq_of_lt digit
    have high : (byte.toNat + 256 * ofBytes rest) / 256 = ofBytes rest := by omega
    rw [List.length_cons, ofBytes, toBytes, low, high, ih]

end LittleEndian
