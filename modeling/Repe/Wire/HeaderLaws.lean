import Repe.Wire.Header

/-! The header codec is a bijection between headers and 48-byte strings, and it never panics. -/

namespace Repe

open LittleEndian

namespace Header

/-- The header whose fields sit at their wire offsets, with no check made. -/
def parse (bytes : Bytes) : Header where
  length := UInt64.ofNat (ofBytes (window bytes 0 8))
  spec := UInt16.ofNat (ofBytes (window bytes 8 2))
  -- The one-byte fields are read by index, and only from buffers that are long enough.
  version := bytes.getD 10 0
  notify := bytes.getD 11 0
  reserved := UInt32.ofNat (ofBytes (window bytes 12 4))
  id := UInt64.ofNat (ofBytes (window bytes 16 8))
  queryLength := UInt64.ofNat (ofBytes (window bytes 24 8))
  bodyLength := UInt64.ofNat (ofBytes (window bytes 32 8))
  queryFormat := UInt16.ofNat (ofBytes (window bytes 40 2))
  bodyFormat := UInt16.ofNat (ofBytes (window bytes 42 2))
  ec := UInt32.ofNat (ofBytes (window bytes 44 4))

@[simp] theorem encode_length (header : Header) : header.encode.length = headerSize := by
  -- The widths of the eleven fields add up to 48.
  simp [encode, headerSize]

private theorem toBytes_u64 {bytes : Bytes} (width : bytes.length = 8) :
    toBytes 8 (UInt64.ofNat (ofBytes bytes)).toNat = bytes := by
  -- Eight bytes spell a number below 2^64, so the field keeps it.
  have bound := ofBytes_lt bytes
  rw [width] at bound
  rw [UInt64.toNat_ofNat_of_lt' bound, ← width, toBytes_ofBytes]

private theorem toBytes_u32 {bytes : Bytes} (width : bytes.length = 4) :
    toBytes 4 (UInt32.ofNat (ofBytes bytes)).toNat = bytes := by
  have bound := ofBytes_lt bytes
  rw [width] at bound
  rw [UInt32.toNat_ofNat_of_lt' bound, ← width, toBytes_ofBytes]

private theorem toBytes_u16 {bytes : Bytes} (width : bytes.length = 2) :
    toBytes 2 (UInt16.ofNat (ofBytes bytes)).toNat = bytes := by
  have bound := ofBytes_lt bytes
  rw [width] at bound
  rw [UInt16.toNat_ofNat_of_lt' bound, ← width, toBytes_ofBytes]

/-- Writing the fields read from a buffer restores its first 48 bytes. -/
theorem encode_parse {bytes : Bytes} (enough : headerSize ≤ bytes.length) :
    (parse bytes).encode = bytes.take headerSize := by
  have enough : 48 ≤ bytes.length := enough
  -- Every field is the window it was read from.
  have version : [(parse bytes).version] = window bytes 10 1 := by
    rw [window_one (by omega)]
    simp [parse, List.getElem?_eq_getElem (show 10 < bytes.length by omega)]
  have notify : [(parse bytes).notify] = window bytes 11 1 := by
    rw [window_one (by omega)]
    simp [parse, List.getElem?_eq_getElem (show 11 < bytes.length by omega)]
  rw [encode, version, notify]
  simp only [parse, toBytes_u64 (window_length (show 0 + 8 ≤ bytes.length by omega)),
    toBytes_u16 (window_length (show 8 + 2 ≤ bytes.length by omega)),
    toBytes_u32 (window_length (show 12 + 4 ≤ bytes.length by omega)),
    toBytes_u64 (window_length (show 16 + 8 ≤ bytes.length by omega)),
    toBytes_u64 (window_length (show 24 + 8 ≤ bytes.length by omega)),
    toBytes_u64 (window_length (show 32 + 8 ≤ bytes.length by omega)),
    toBytes_u16 (window_length (show 40 + 2 ≤ bytes.length by omega)),
    toBytes_u16 (window_length (show 42 + 2 ≤ bytes.length by omega)),
    toBytes_u32 (window_length (show 44 + 4 ≤ bytes.length by omega))]
  -- The windows abut, so they join into the first 48 bytes.
  rw [window_append bytes 0 8 2, window_append bytes 0 10 1, window_append bytes 0 11 1,
    window_append bytes 0 12 4, window_append bytes 0 16 8, window_append bytes 0 24 8,
    window_append bytes 0 32 8, window_append bytes 0 40 2, window_append bytes 0 42 2,
    window_append bytes 0 44 4]
  rfl

/-- Reading the fields of an encoding restores the header, whatever follows it. -/
theorem parse_encode (header : Header) (rest : Bytes) : parse (header.encode ++ rest) = header := by
  -- A field of each width is read back from its own digits.
  have u64 : ∀ x : UInt64, UInt64.ofNat (ofBytes (toBytes 8 x.toNat)) = x := by
    intro x
    have bound : x.toNat < 256 ^ 8 := x.toNat_lt
    rw [ofBytes_toBytes, Nat.mod_eq_of_lt bound, UInt64.ofNat_toNat]
  have u32 : ∀ x : UInt32, UInt32.ofNat (ofBytes (toBytes 4 x.toNat)) = x := by
    intro x
    have bound : x.toNat < 256 ^ 4 := x.toNat_lt
    rw [ofBytes_toBytes, Nat.mod_eq_of_lt bound, UInt32.ofNat_toNat]
  have u16 : ∀ x : UInt16, UInt16.ofNat (ofBytes (toBytes 2 x.toNat)) = x := by
    intro x
    have bound : x.toNat < 256 ^ 2 := x.toNat_lt
    rw [ofBytes_toBytes, Nat.mod_eq_of_lt bound, UInt16.ofNat_toNat]
  -- Each window skips the fields before it and then is literally the bytes of its own field.
  have version : (header.encode ++ rest).getD 10 0 = header.version := by
    simp [encode, List.getElem?_append]
  have notify : (header.encode ++ rest).getD 11 0 = header.notify := by
    simp [encode, List.getElem?_append]
  rw [parse, version, notify]
  simp only [encode, List.append_assoc, window_skip, window_head, toBytes_length,
    List.length_singleton, Nat.reduceLeDiff, Nat.reduceSub, u64, u32, u16]

variable (t : Target)

def total (header : Header) : Nat :=
  headerSize + header.queryLength.toNat + header.bodyLength.toNat

/-- The advertised lengths describe a frame both `u64` and this target's `usize` can count. -/
def Representable (header : Header) : Prop :=
  header.total < 2 ^ 64 ∧ t.Addressable header.total

/-- The checked sum exists exactly for representable lengths, and is then their real sum. -/
theorem framedTotal_eq (header : Header) (expected : UInt64) :
    framedTotal t header.queryLength header.bodyLength = some expected ↔
      header.Representable t ∧ expected.toNat = header.total := by
  -- The two additions are checked in turn, the first one holding whenever the second does.
  have size : (UInt64.ofNat headerSize).toNat = headerSize := rfl
  simp only [framedTotal, UInt64.checkedAdd, Representable, total, size]
  by_cases first : headerSize + header.queryLength.toNat < 2 ^ 64
  · have firstSum : (UInt64.ofNat headerSize + header.queryLength).toNat
        = headerSize + header.queryLength.toNat := UInt64.toNat_add_of_fits first
    simp only [first, if_true, Option.bind_some, firstSum]
    by_cases second : headerSize + header.queryLength.toNat + header.bodyLength.toNat < 2 ^ 64
    · have secondSum : (UInt64.ofNat headerSize + header.queryLength + header.bodyLength).toNat
          = headerSize + header.queryLength.toNat + header.bodyLength.toNat := by
        rw [UInt64.toNat_add_of_fits (by rw [firstSum]; exact second), firstSum]
      simp only [second, if_true, Option.filter_some, secondSum, decide_eq_true_eq, true_and]
      by_cases fits :
          t.Addressable (headerSize + header.queryLength.toNat + header.bodyLength.toNat)
      · simp only [fits, if_true, Option.some.injEq, true_and]
        rw [← secondSum, UInt64.toNat_inj]
        exact eq_comm
      · -- The sum fits `u64`, and this target cannot address it.
        simp [fits]
    · -- The second addition overflows.
      simp only [second, if_false, Option.filter_none, reduceCtorEq, false_and]
  · -- The first addition overflows, so the real sum does too.
    simp only [first, if_false, Option.bind_none, Option.filter_none, reduceCtorEq, false_iff,
      not_and]
    intro bounded
    omega

/-- With 48 bytes at hand every field read is in range, so decoding is only its checks. -/
theorem decode_eq {input : Bytes} (enough : headerSize ≤ input.length) :
    decode t input =
      if (parse input).spec ≠ repeSpec then .err (.invalidSpec (parse input).spec)
      else match framedTotal t (parse input).queryLength (parse input).bodyLength with
        | none => .err (.frameLengthOverflow (parse input).queryLength (parse input).bodyLength)
        | some expected =>
          if (parse input).length ≠ expected then
            .err (.lengthMismatch expected (parse input).length)
          else .ok (parse input) := by
  have enough : 48 ≤ input.length := enough
  -- Every field lies inside the buffer, so no read can fail.
  have u64 : ∀ o, o + 8 ≤ input.length →
      u64At input o = .ok (UInt64.ofNat (ofBytes (window input o 8))) := by
    intro o inside
    simp [u64At, Exec.slice_ok (Nat.le_add_right o 8) inside, window]
  have u32 : ∀ o, o + 4 ≤ input.length →
      u32At input o = .ok (UInt32.ofNat (ofBytes (window input o 4))) := by
    intro o inside
    simp [u32At, Exec.slice_ok (Nat.le_add_right o 4) inside, window]
  have u16 : ∀ o, o + 2 ≤ input.length →
      u16At input o = .ok (UInt16.ofNat (ofBytes (window input o 2))) := by
    intro o inside
    simp [u16At, Exec.slice_ok (Nat.le_add_right o 2) inside, window]
  have byte : ∀ o, o < input.length →
      (Exec.index input o : Exec RepeError UInt8) = .ok (input.getD o 0) := by
    intro o inside
    simp [Exec.index_ok inside, List.getElem?_eq_getElem inside]
  have long : ¬ input.length < headerSize := by simp only [headerSize]; omega
  simp only [decode, long, if_false, u64 0 (by omega), u16 8 (by omega), byte 10 (by omega),
    byte 11 (by omega), u32 12 (by omega), u64 16 (by omega), u64 24 (by omega),
    u64 32 (by omega), u16 40 (by omega), u16 42 (by omega), u32 44 (by omega),
    Exec.ok_bind, Exec.pure_eq, parse]
  rfl

/-- The checks a header passes: the magic, representable lengths, and their sum as `length`. -/
structure Valid (header : Header) : Prop where
  spec : header.spec = repeSpec
  representable : header.Representable t
  length : header.length.toNat = header.total

/-- Decoding returns a header exactly when the buffer holds a valid one, and returns that one. -/
theorem decode_ok {input : Bytes} {header : Header} :
    decode t input = .ok header ↔
      headerSize ≤ input.length ∧ header = parse input ∧ header.Valid t := by
  by_cases enough : headerSize ≤ input.length
  · rw [decode_eq t enough]
    constructor
    · -- Each check is on the way to the result, and was passed.
      intro decoded
      split at decoded
      · cases decoded
      · rename_i spec
        split at decoded
        · cases decoded
        · rename_i expected sum
          split at decoded
          · cases decoded
          · rename_i same
            obtain ⟨fits, value⟩ := (framedTotal_eq t (parse input) expected).mp sum
            cases decoded
            refine ⟨enough, rfl, ?_, fits, ?_⟩
            · simpa using spec
            · rw [← value, Decidable.not_not.mp same]
    · -- A valid header passes all of them.
      rintro ⟨_, rfl, valid⟩
      have sum := (framedTotal_eq t (parse input) (parse input).length).mpr
        ⟨valid.representable, valid.length⟩
      simp [valid.spec, sum]
  · -- A short buffer is refused at once.
    have short : input.length < headerSize := Nat.lt_of_not_le enough
    simp [decode, short, enough]

theorem decode_ne_panic (input : Bytes) : decode t input ≠ .panic := by
  by_cases enough : headerSize ≤ input.length
  · -- With enough bytes only the checks are left, and each of them returns.
    rw [decode_eq t enough]
    split
    · simp
    · split
      · simp
      · split <;> simp
  · simp [decode, Nat.lt_of_not_le enough]

end Header

end Repe
