import Repe.Lib.Bytes

/-! Percent-encoding: every way to write a byte string with some bytes reserved, and its decoder. -/

namespace Percent

/-- The value of a hexadecimal digit of either case. -/
def hexNibble (byte : UInt8) : Option UInt8 :=
  if 0x30 ≤ byte ∧ byte ≤ 0x39 then some (byte - 0x30)
  else if 0x61 ≤ byte ∧ byte ≤ 0x66 then some (byte - 0x61 + 10)
  else if 0x41 ≤ byte ∧ byte ≤ 0x46 then some (byte - 0x41 + 10)
  else none

/-- Why a text does not decode. -/
inductive Fault where
  | truncated
  | invalid
  deriving DecidableEq, Repr

/-- Undo the escapes of a text. -/
def decode : Bytes → Except Fault Bytes
  | [] => .ok []
  | 0x25 :: high :: low :: rest =>
    match hexNibble high, hexNibble low with
    | some high, some low => (decode rest).map ((high <<< 4 ||| low) :: ·)
    | _, _ => .error .invalid
  | byte :: rest =>
    -- A percent sign without two bytes behind it.
    if byte = 0x25 then .error .truncated else (decode rest).map (byte :: ·)

/-- A byte string and a text that writes it; bytes that are not reserved may stand for themselves. -/
inductive Encodes (reserved : UInt8 → Prop) : Bytes → Bytes → Prop where
  | nil : Encodes reserved [] []
  | raw {byte : UInt8} {plain text : Bytes} : ¬ reserved byte → Encodes reserved plain text →
    Encodes reserved (byte :: plain) (byte :: text)
  | escape {byte high low highValue lowValue : UInt8} {plain text : Bytes} :
    hexNibble high = some highValue → hexNibble low = some lowValue →
    highValue <<< 4 ||| lowValue = byte → Encodes reserved plain text →
    Encodes reserved (byte :: plain) (0x25 :: high :: low :: text)

variable {reserved : UInt8 → Prop} {plain text : Bytes}

/-- A byte that is no percent sign stands for itself. -/
theorem decode_cons {byte : UInt8} (raw : byte ≠ 0x25) (rest : Bytes) :
    decode (byte :: rest) = (decode rest).map (byte :: ·) := by
  rw [decode.eq_3 _ _ (fun _ _ _ same => absurd same raw), if_neg raw]

/-- Every way of writing a byte string decodes to it, as long as the percent sign is reserved. -/
theorem decode_encodes (percent : reserved 0x25) (written : Encodes reserved plain text) :
    decode text = .ok plain := by
  -- By how the first byte is written.
  induction written with
  | nil => rfl
  | @raw byte _ _ free _ ih =>
    have sign : byte ≠ 0x25 := by
      intro same
      exact free (same ▸ percent)
    rw [decode_cons sign, ih]
    rfl
  | escape high low value _ ih =>
    rw [decode]
    simp only [high, low, ih, value]
    rfl

/-- A text without a percent sign decodes to itself. -/
theorem decode_raw (raw : 0x25 ∉ text) : decode text = .ok text := by
  -- No byte starts an escape.
  induction text with
  | nil => rfl
  | cons byte rest ih =>
    rw [List.mem_cons, not_or] at raw
    rw [decode_cons (Ne.symm raw.1), ih raw.2]
    rfl

/-- A reserved byte that no escape is made of stands nowhere in a text. -/
theorem notMem_of_encodes {byte : UInt8} (held : reserved byte) (sign : byte ≠ 0x25)
    (digit : hexNibble byte = none) (written : Encodes reserved plain text) : byte ∉ text := by
  induction written with
  | nil => exact List.not_mem_nil
  | raw free _ ih =>
    rw [List.mem_cons, not_or]
    exact ⟨fun same => free (same ▸ held), ih⟩
  | escape high low _ _ ih =>
    -- Neither digit is the byte, for both have a value.
    have apart : ∀ {other value : UInt8}, hexNibble other = some value → byte ≠ other := by
      intro other value known same
      rw [← same, digit] at known
      cases known
    simp only [List.mem_cons, not_or]
    exact ⟨sign, apart high, apart low, ih⟩

/-- Only the empty text decodes to nothing. -/
theorem decode_eq_nil (empty : decode text = .ok []) : text = [] := by
  -- Every branch but the first puts a byte in front of the rest.
  have added : ∀ {byte : UInt8} {rest : Except Fault Bytes}, rest.map (byte :: ·) ≠ .ok [] := by
    intro byte rest
    cases rest <;> simp [Except.map]
  rw [decode.eq_def] at empty
  split at empty
  · rfl
  · split at empty
    · exact absurd empty added
    · cases empty
  · split at empty
    · cases empty
    · exact absurd empty added

end Percent
