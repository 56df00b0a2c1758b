import Repe.Lib.Bytes

/-! Decoding of text: lossy, with one replacement character for a maximal ill-formed part, and strict. -/

namespace Utf8

/-- The bits of a character read so far, how many tails it still owes, and the range of the next one. -/
structure Partial where
  bits : Nat
  owed : Nat
  low : UInt8 := 0x80
  high : UInt8 := 0xBF
  deriving DecidableEq, Repr

/-- What the first byte of a character announces. -/
inductive Lead where
  | char (value : Char)
  | multi (start : Partial)
  | ill
  deriving DecidableEq, Repr

/-- Classify a first byte; the narrowed ranges exclude overlong forms and surrogates. -/
def lead (byte : UInt8) : Lead :=
  if byte < 0x80 then .char (Char.ofNat byte.toNat)
  else if byte < 0xC2 then .ill
  else if byte < 0xE0 then .multi { bits := byte.toNat % 32, owed := 1 }
  else if byte = 0xE0 then .multi { bits := 0, owed := 2, low := 0xA0 }
  else if byte = 0xED then .multi { bits := 13, owed := 2, high := 0x9F }
  else if byte < 0xF0 then .multi { bits := byte.toNat % 16, owed := 2 }
  else if byte = 0xF0 then .multi { bits := 0, owed := 3, low := 0x90 }
  else if byte < 0xF4 then .multi { bits := byte.toNat % 8, owed := 3 }
  else if byte = 0xF4 then .multi { bits := 4, owed := 3, high := 0x8F }
  else .ill

/-- U+FFFD. -/
def replacement : Char := Char.ofNat 0xFFFD

/-- The characters a first byte completes, and the character it leaves open. -/
def beginWith (byte : UInt8) : List Char × Option Partial :=
  match lead byte with
  | .char value => ([value], none)
  | .multi start => ([], some start)
  | .ill => ([replacement], none)

/-- Read one byte in the middle of a character, or at the start of one. -/
def feed : Option Partial → UInt8 → List Char × Option Partial
  | none, byte => beginWith byte
  | some part, byte =>
    if part.low ≤ byte ∧ byte ≤ part.high then
      -- A tail carries six bits.
      let bits := part.bits * 64 + byte.toNat % 64
      if part.owed = 1 then ([Char.ofNat bits], none)
      else ([], some { bits, owed := part.owed - 1 })
    else
      -- The cut-off character is one replacement, and the byte may start the next character.
      let (chars, rest) := beginWith byte
      (replacement :: chars, rest)

/-- Decode from the middle of a text. -/
def decodeFrom : Option Partial → Bytes → List Char
  | none, [] => []
  -- The text ended inside a character.
  | some _, [] => [replacement]
  | part, byte :: bytes =>
    let (chars, next) := feed part byte
    chars ++ decodeFrom next bytes

/-- `String::from_utf8_lossy`. -/
def fromUtf8Lossy (bytes : Bytes) : String :=
  String.ofList (decodeFrom none bytes)

/-- Decode from the middle of a text, refusing anything ill-formed. -/
def strictFrom : Option Partial → Bytes → Option (List Char)
  | none, [] => some []
  -- The text ended inside a character.
  | some _, [] => none
  | none, byte :: bytes =>
    match lead byte with
    | .char value => (strictFrom none bytes).map (value :: ·)
    | .multi start => strictFrom (some start) bytes
    | .ill => none
  | some part, byte :: bytes =>
    if part.low ≤ byte ∧ byte ≤ part.high then
      let bits := part.bits * 64 + byte.toNat % 64
      if part.owed = 1 then (strictFrom none bytes).map (Char.ofNat bits :: ·)
      else strictFrom (some { bits, owed := part.owed - 1 }) bytes
    else none

/-- `std::str::from_utf8`. -/
def fromUtf8 (bytes : Bytes) : Option (List Char) := strictFrom none bytes

example : decodeFrom none [0x68, 0xC3, 0xA9, 0xE2, 0x82, 0xAC, 0xF0, 0x9F, 0x98, 0x80]
    = ['h', 'é', '€', '😀'] := by decide

-- A character cut off by the next one, a surrogate, and a text that ends too early.
example : decodeFrom none [0xE2, 0x82, 0x41, 0xED, 0xA0, 0x80, 0xC3]
    = [replacement, 'A', replacement, replacement, replacement, replacement] := by decide

end Utf8
