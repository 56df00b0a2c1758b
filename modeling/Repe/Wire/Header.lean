import Repe.Wire.Error

/-! The fixed 48-byte header: its fields, its encoding, and the checks its decoder makes. -/

namespace Repe

open LittleEndian

structure Header where
  length : UInt64
  spec : UInt16
  version : UInt8
  notify : UInt8
  reserved : UInt32
  id : UInt64
  queryLength : UInt64
  bodyLength : UInt64
  queryFormat : UInt16
  bodyFormat : UInt16
  ec : UInt32
  deriving DecidableEq, Repr

namespace Header

/-- A header with the magic and the version set and every other field zero. -/
def new : Header where
  length := 0
  spec := repeSpec
  version := repeVersion
  notify := 0
  reserved := 0
  id := 0
  queryLength := 0
  bodyLength := 0
  queryFormat := 0
  bodyFormat := 0
  ec := 0

/-- The wire form: eleven fields at consecutive offsets, integers little-endian. -/
def encode (header : Header) : Bytes :=
  toBytes 8 header.length.toNat
    ++ toBytes 2 header.spec.toNat
    ++ [header.version]
    ++ [header.notify]
    ++ toBytes 4 header.reserved.toNat
    ++ toBytes 8 header.id.toNat
    ++ toBytes 8 header.queryLength.toNat
    ++ toBytes 8 header.bodyLength.toNat
    ++ toBytes 2 header.queryFormat.toNat
    ++ toBytes 2 header.bodyFormat.toNat
    ++ toBytes 4 header.ec.toNat

/-- `u64::from_le_bytes(input[o..o + 8].try_into().unwrap())`. -/
def u64At (input : Bytes) (o : Nat) : Exec RepeError UInt64 := do
  -- The slice panics when the field does not lie inside the buffer.
  let window ← Exec.slice input o (o + 8)
  return UInt64.ofNat (ofBytes window)

/-- `u32::from_le_bytes(input[o..o + 4].try_into().unwrap())`. -/
def u32At (input : Bytes) (o : Nat) : Exec RepeError UInt32 := do
  let window ← Exec.slice input o (o + 4)
  return UInt32.ofNat (ofBytes window)

/-- `u16::from_le_bytes(input[o..o + 2].try_into().unwrap())`. -/
def u16At (input : Bytes) (o : Nat) : Exec RepeError UInt16 := do
  let window ← Exec.slice input o (o + 2)
  return UInt16.ofNat (ofBytes window)

variable (t : Target)

/--
The framed total the two advertised lengths add up to, when it can be represented.

Both lengths come straight off the wire, so the sum is checked against `u64` and then against `usize`.
-/
def framedTotal (queryLength bodyLength : UInt64) : Option UInt64 :=
  -- The first addition that overflows ends the computation.
  ((UInt64.ofNat headerSize).checkedAdd queryLength).bind (·.checkedAdd bodyLength)
    |>.filter fun total => decide (t.Addressable total.toNat)

def decode (input : Bytes) : Exec RepeError Header := do
  if input.length < headerSize then
    .err (.invalidHeaderLength input.length)
  else
    -- The fields are read in the order they have on the wire.
    let length ← u64At input 0
    let spec ← u16At input 8
    let version ← Exec.index input 10
    let notify ← Exec.index input 11
    let reserved ← u32At input 12
    let id ← u64At input 16
    let queryLength ← u64At input 24
    let bodyLength ← u64At input 32
    let queryFormat ← u16At input 40
    let bodyFormat ← u16At input 42
    let ec ← u32At input 44
    -- A foreign protocol is reported before anything about lengths.
    if spec ≠ repeSpec then
      .err (.invalidSpec spec)
    else
      -- The reserved field is carried along, and a receiver ignores its value.
      match framedTotal t queryLength bodyLength with
      | none => .err (.frameLengthOverflow queryLength bodyLength)
      | some expected =>
        -- The advertised length must be the sum of the parts.
        if length ≠ expected then
          .err (.lengthMismatch expected length)
        else
          return { length, spec, version, notify, reserved, id, queryLength, bodyLength,
                   queryFormat, bodyFormat, ec }

end Header

end Repe
