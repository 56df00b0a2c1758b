import Mathlib.Tactic.IntervalCases
import Repe.Lib.Utf8

/-! Encoding of text, and that the strict decoder undoes it. -/

namespace Utf8

/-- The bytes of a text, character by character. -/
def encode (chars : List Char) : Bytes :=
  chars.flatMap String.utf8EncodeChar

@[simp] theorem encode_nil : encode [] = [] := rfl

@[simp] theorem encode_cons (char : Char) (chars : List Char) :
    encode (char :: chars) = String.utf8EncodeChar char ++ encode chars :=
  List.flatMap_cons

@[simp] theorem encode_append (first second : List Char) :
    encode (first ++ second) = encode first ++ encode second :=
  List.flatMap_append

/-- A character below 128 is its own byte. -/
theorem encodeChar_ascii {char : Char} (small : char.toNat < 128) :
    String.utf8EncodeChar char = [UInt8.ofNat char.toNat] := by
  rw [String.utf8EncodeChar.eq_1, if_pos (by simp only [Char.toNat] at small; omega)]
  rfl

/-- Every byte of any other character is at least 128. -/
theorem encodeChar_wide {char : Char} (wide : 128 ≤ char.toNat) {byte : UInt8}
    (member : byte ∈ String.utf8EncodeChar char) : 128 ≤ byte.toNat := by
  -- Each form marks all its bytes with a high bit.
  have bound : ∀ value marker : Nat, marker + value < 256 → 128 ≤ marker →
      128 ≤ (UInt8.ofNat (value + marker)).toNat := by
    intro value marker fits high
    rw [UInt8.toNat_ofNat', Nat.mod_eq_of_lt (by omega)]
    omega
  rw [String.utf8EncodeChar.eq_1, if_neg (by simp only [Char.toNat] at wide; omega)] at member
  split at member
  · simp only [List.mem_cons, List.not_mem_nil, or_false] at member
    rcases member with rfl | rfl <;> exact bound _ _ (by omega) (by omega)
  · split at member
    · simp only [List.mem_cons, List.not_mem_nil, or_false] at member
      rcases member with rfl | rfl | rfl <;> exact bound _ _ (by omega) (by omega)
    · simp only [List.mem_cons, List.not_mem_nil, or_false] at member
      rcases member with rfl | rfl | rfl | rfl <;> exact bound _ _ (by omega) (by omega)

/-- A byte below 128 stands in a text exactly where its character does. -/
theorem mem_encode_ascii {char : Char} (small : char.toNat < 128) {chars : List Char} :
    UInt8.ofNat char.toNat ∈ encode chars ↔ char ∈ chars := by
  have exact : (UInt8.ofNat char.toNat).toNat = char.toNat := by
    rw [UInt8.toNat_ofNat', Nat.mod_eq_of_lt (by omega)]
  constructor
  · intro member
    obtain ⟨other, listed, inside⟩ := List.mem_flatMap.mp member
    by_cases ascii : other.toNat < 128
    · -- Two characters below 128 with the same byte are the same.
      rw [encodeChar_ascii ascii, List.mem_singleton] at inside
      have same : char.toNat = other.toNat := by
        have bytes := congrArg UInt8.toNat inside
        rwa [exact, UInt8.toNat_ofNat', Nat.mod_eq_of_lt (by omega)] at bytes
      rw [← Char.ofNat_toNat char, same, Char.ofNat_toNat]
      exact listed
    · have wide := encodeChar_wide (by omega) inside
      omega
  · intro listed
    refine List.mem_flatMap.mpr ⟨char, listed, ?_⟩
    rw [encodeChar_ascii small]
    exact List.mem_singleton_self _

/-- A text whose first byte is below 128 starts with that byte's character. -/
theorem head_encode_ascii (char : Char) (small : char.toNat < 128) {chars : List Char}
    {bytes : Bytes} (starts : encode chars = UInt8.ofNat char.toNat :: bytes) :
    ∃ rest, chars = char :: rest := by
  cases chars with
  | nil => simp at starts
  | cons first rest =>
    -- The first byte belongs to the first character.
    have inside : UInt8.ofNat char.toNat ∈ encode [first] := by
      have nonempty : String.utf8EncodeChar first ≠ [] := by
        rw [String.utf8EncodeChar.eq_1]
        split_ifs <;> simp
      obtain ⟨byte, more, bytes_eq⟩ := List.exists_cons_of_ne_nil nonempty
      rw [encode_cons, bytes_eq, List.cons_append, List.cons.injEq] at starts
      rw [encode_cons, bytes_eq, starts.1]
      exact List.mem_cons_self
    rw [mem_encode_ascii small, List.mem_singleton] at inside
    exact ⟨rest, by rw [inside]⟩

/-- The first byte of a two-byte character. -/
theorem lead_two {value : Nat} (low : 2 ≤ value) (high : value < 32) :
    lead (UInt8.ofNat (value + 192)) = .multi ⟨value, 1, 0x80, 0xBF⟩ := by
  interval_cases value <;> rfl

/-- The first byte of a three-byte character; the ranges leave out overlong forms and surrogates. -/
theorem lead_three {value : Nat} (high : value < 16) :
    lead (UInt8.ofNat (value + 224)) =
      .multi ⟨value, 2, if value = 0 then 0xA0 else 0x80, if value = 13 then 0x9F else 0xBF⟩ := by
  interval_cases value <;> rfl

/-- The first byte of a four-byte character; the ranges leave out overlong forms and large values. -/
theorem lead_four {value : Nat} (high : value < 5) :
    lead (UInt8.ofNat (value + 240)) =
      .multi ⟨value, 3, if value = 0 then 0x90 else 0x80, if value = 4 then 0x8F else 0xBF⟩ := by
  interval_cases value <;> rfl

section Tails

variable {bits value : Nat} {low high : UInt8}

/-- A tail in range is read as six bits. -/
theorem tail_inside (small : value < 64) (above : low.toNat ≤ value + 128)
    (below : value + 128 ≤ high.toNat) :
    (low ≤ UInt8.ofNat (value + 128) ∧ UInt8.ofNat (value + 128) ≤ high) ∧
      (UInt8.ofNat (value + 128)).toNat % 64 = value := by
  -- The tail byte fits in eight bits, so nothing is cut off.
  have exact : (UInt8.ofNat (value + 128)).toNat = value + 128 := by
    rw [UInt8.toNat_ofNat', Nat.mod_eq_of_lt (by omega)]
  rw [UInt8.le_iff_toNat_le, UInt8.le_iff_toNat_le, exact]
  exact ⟨⟨above, below⟩, by omega⟩

/-- The last tail completes a character. -/
theorem strictFrom_last (bytes : Bytes) (small : value < 64) (above : low.toNat ≤ value + 128)
    (below : value + 128 ≤ high.toNat) :
    strictFrom (some ⟨bits, 1, low, high⟩) (UInt8.ofNat (value + 128) :: bytes) =
      (strictFrom none bytes).map (Char.ofNat (bits * 64 + value) :: ·) := by
  obtain ⟨inside, read⟩ := tail_inside small above below
  rw [strictFrom, if_pos inside, read, if_pos rfl]

/-- An earlier tail leaves one tail less to read. -/
theorem strictFrom_more {owed : Nat} (bytes : Bytes) (small : value < 64)
    (above : low.toNat ≤ value + 128) (below : value + 128 ≤ high.toNat) :
    strictFrom (some ⟨bits, owed + 2, low, high⟩) (UInt8.ofNat (value + 128) :: bytes) =
      strictFrom (some ⟨bits * 64 + value, owed + 1, 0x80, 0xBF⟩) bytes := by
  obtain ⟨inside, read⟩ := tail_inside small above below
  rw [strictFrom, if_pos inside, read, if_neg (show ¬ owed + 2 = 1 by omega)]
  rfl

end Tails

/-- Decoding takes an encoded character off the front of a text. -/
theorem strictFrom_encodeChar (char : Char) (bytes : Bytes) :
    strictFrom none (String.utf8EncodeChar char ++ bytes) =
      (strictFrom none bytes).map (char :: ·) := by
  -- The value of a character is no surrogate and below 0x110000.
  have valid : char.toNat < 0xD800 ∨ (0xDFFF < char.toNat ∧ char.toNat < 0x110000) := char.valid
  have tail_low : (0x80 : UInt8).toNat ≤ 128 := by decide
  have tail_high : 191 ≤ (0xBF : UInt8).toNat := by decide
  have rebuilt : ∀ value : Nat, value = char.toNat → Char.ofNat value = char := by
    intro value same
    rw [same, Char.ofNat_toNat]
  rw [String.utf8EncodeChar.eq_1]
  simp only [show char.val.toNat = char.toNat from rfl]
  generalize char.toNat = v at valid rebuilt
  split
  · -- One byte is the character itself.
    have exact : (UInt8.ofNat v).toNat = v := by
      rw [UInt8.toNat_ofNat', Nat.mod_eq_of_lt (by omega)]
    have small : UInt8.ofNat v < 0x80 := by
      rw [UInt8.lt_iff_toNat_lt, exact]
      exact Nat.lt_succ_of_le ‹v ≤ 127›
    rw [List.singleton_append, strictFrom, lead, if_pos small, exact, rebuilt v rfl]
  · split
    · -- A first byte and its only tail.
      rw [show v / 64 % 32 = v / 64 by omega, List.cons_append, strictFrom,
        lead_two (by omega) (by omega)]
      simp only [List.cons_append, List.nil_append]
      rw [strictFrom_last bytes (by omega) (tail_low.trans (by omega)) (le_trans (by omega) tail_high),
        rebuilt _ (by omega)]
    · split
      · -- The first of two tails has a narrowed range, for overlong forms and surrogates.
        have above : (if v / 4096 = 0 then 0xA0 else 0x80 : UInt8).toNat ≤ v / 64 % 64 + 128 := by
          split
          · exact show 160 ≤ _ by omega
          · exact show 128 ≤ _ by omega
        have below : v / 64 % 64 + 128 ≤ (if v / 4096 = 13 then 0x9F else 0xBF : UInt8).toNat := by
          split
          · exact show _ ≤ 159 by omega
          · exact show _ ≤ 191 by omega
        rw [show v / 4096 % 16 = v / 4096 by omega, List.cons_append, strictFrom,
          lead_three (by omega)]
        simp only [List.cons_append, List.nil_append]
        rw [strictFrom_more _ (by omega) above below, strictFrom_last bytes (by omega)
          (tail_low.trans (by omega)) (le_trans (by omega) tail_high), rebuilt _ (by omega)]
      · -- The same of three tails, for overlong forms and values past the last character.
        have above :
            (if v / 262144 = 0 then 0x90 else 0x80 : UInt8).toNat ≤ v / 4096 % 64 + 128 := by
          split
          · exact show 144 ≤ _ by omega
          · exact show 128 ≤ _ by omega
        have below :
            v / 4096 % 64 + 128 ≤ (if v / 262144 = 4 then 0x8F else 0xBF : UInt8).toNat := by
          split
          · exact show _ ≤ 143 by omega
          · exact show _ ≤ 191 by omega
        rw [show v / 262144 % 8 = v / 262144 by omega, List.cons_append, strictFrom,
          lead_four (by omega)]
        simp only [List.cons_append, List.nil_append]
        rw [strictFrom_more _ (by omega) above below, strictFrom_more _ (by omega)
          (tail_low.trans (by omega)) (le_trans (by omega) tail_high), strictFrom_last bytes
          (by omega) (tail_low.trans (by omega)) (le_trans (by omega) tail_high),
          rebuilt _ (by omega)]

/-- The strict decoder undoes the encoder. -/
theorem fromUtf8_encode (chars : List Char) : fromUtf8 (encode chars) = some chars := by
  -- Character by character, each of which the decoder takes off the front.
  induction chars with
  | nil => rfl
  | cons char chars ih =>
    rw [fromUtf8, encode_cons, strictFrom_encodeChar, ← fromUtf8, ih, Option.map_some]

/-- Texts with the same bytes are the same. -/
theorem encode_inj {first second : List Char} (same : encode first = encode second) :
    first = second := by
  have decoded := congrArg fromUtf8 same
  rw [fromUtf8_encode, fromUtf8_encode] at decoded
  exact Option.some.inj decoded

/-- Only the empty byte string is an empty text. -/
theorem strictFrom_eq_nil {part : Option Partial} {bytes : Bytes}
    (empty : strictFrom part bytes = some []) : bytes = [] := by
  induction bytes generalizing part with
  | nil => rfl
  | cons byte bytes ih =>
    -- A first byte adds a character at once, or leaves a character open that some byte closes.
    have next : ∀ part : Option Partial, part ≠ none → strictFrom part bytes ≠ some [] := by
      intro part opened nothing
      rw [ih nothing] at nothing
      cases part with
      | none => exact opened rfl
      | some part => simp [strictFrom] at nothing
    cases part with
    | none =>
      rw [strictFrom] at empty
      split at empty
      · simp at empty
      · exact absurd empty (next _ (by simp))
      · simp at empty
    | some part =>
      rw [strictFrom] at empty
      split at empty
      · split at empty
        · simp at empty
        · exact absurd empty (next _ (by simp))
      · simp at empty

/-- A text has no more characters than bytes. -/
theorem strictFrom_length {part : Option Partial} {bytes : Bytes} {chars : List Char}
    (decoded : strictFrom part bytes = some chars) : chars.length ≤ bytes.length := by
  -- Every byte completes at most one character.
  induction bytes generalizing part chars with
  | nil =>
    cases part with
    | none =>
      cases decoded
      rfl
    | some part => simp [strictFrom] at decoded
  | cons byte bytes ih =>
    cases part with
    | none =>
      rw [strictFrom] at decoded
      split at decoded
      · obtain ⟨rest, behind, rfl⟩ := Option.map_eq_some_iff.mp decoded
        simpa using ih behind
      · exact Nat.le_succ_of_le (ih decoded)
      · cases decoded
    | some part =>
      rw [strictFrom] at decoded
      split at decoded
      · split at decoded
        · obtain ⟨rest, behind, rfl⟩ := Option.map_eq_some_iff.mp decoded
          simpa using ih behind
        · exact Nat.le_succ_of_le (ih decoded)
      · cases decoded

end Utf8
