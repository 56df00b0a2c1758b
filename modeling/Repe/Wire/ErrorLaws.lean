import Repe.Lib.Digits
import Repe.Wire.MessageLaws

/-! The texts of errors, counted. -/

namespace Repe

theorem utf8Bytes_length (text : String) : (utf8Bytes text).length = text.utf8ByteSize := by
  rw [utf8Bytes, Array.length_toList]
  rfl

theorem width_toNat_le (value : UInt64) : Digits.width value.toNat ≤ 20 :=
  Digits.width_le (by decide) (Nat.lt_trans value.toNat_lt (by decide))

/-- The magic of a frame is written with at most six characters. -/
theorem hexSpec_utf8ByteSize (value : UInt16) : (RepeError.hexSpec value).utf8ByteSize ≤ 6 := by
  -- Sixteen bits are four hexadecimal digits, padded to four.
  have digits : (Nat.toDigits 16 value.toNat).length ≤ 4 :=
    (Nat.length_toDigits_le_iff (by decide) (by decide)).mpr value.toNat_lt
  have ascii : ∀ char ∈ List.replicate (4 - (Nat.toDigits 16 value.toNat).length) '0' ++
      Nat.toDigits 16 value.toNat, char.utf8Size = 1 := by
    intro char member
    rcases List.mem_append.mp member with padding | digit
    · rw [List.eq_of_mem_replicate padding]
      rfl
    · exact Digits.utf8Size_of_mem_toDigits (by decide) _ char digit
  have marker : "0x".utf8ByteSize = 2 := by decide
  rw [RepeError.hexSpec, String.utf8ByteSize_append, Digits.utf8ByteSize_ofList ascii, marker,
    List.length_append, List.length_replicate]
  omega

/-- The errors of the parsers of frames, with everything in them that is written out. -/
inductive RepeError.OfFrame : RepeError → Prop
  | short {length : Nat} (short : length < headerSize) : OfFrame (.invalidHeaderLength length)
  | spec (spec : UInt16) : OfFrame (.invalidSpec spec)
  | overflow (queryLength bodyLength : UInt64) : OfFrame (.frameLengthOverflow queryLength bodyLength)
  | mismatch (expected got : UInt64) : OfFrame (.lengthMismatch expected got)
  | missing {need have_ : Nat} (counted : need < 2 ^ 64) (missing : have_ < need) :
      OfFrame (.bufferTooSmall need have_)

/-- Whatever a decoder of headers reports is such an error. -/
theorem Header.decode_ofFrame (t : Target) {input : Bytes} {error : RepeError}
    (refused : Header.decode t input = .err error) : error.OfFrame := by
  -- The checks of the decoder, in the order it makes them.
  by_cases enough : headerSize ≤ input.length
  · rw [Header.decode_eq t enough] at refused
    split at refused
    · cases refused
      exact .spec _
    · split at refused
      · cases refused
        exact .overflow _ _
      · split at refused
        · cases refused
          exact .mismatch _ _
        · cases refused
  · have short : input.length < headerSize := Nat.lt_of_not_le enough
    rw [Header.decode, if_pos short] at refused
    cases refused
    exact .short short

/-- Whatever the parser of a frame at the front of a buffer reports is such an error. -/
theorem Message.fromSlice_ofFrame (t : Target) {buf : Bytes} {error : RepeError}
    (refused : Message.fromSlice t buf = .err error) : error.OfFrame := by
  by_cases enough : headerSize ≤ buf.length
  · rw [Message.fromSlice_eq t enough] at refused
    -- The header is refused, or what it announces is missing.
    cases decoded : Header.decode t buf with
    | err other =>
      rw [decoded] at refused
      cases refused
      exact Header.decode_ofFrame t decoded
    | panic =>
      rw [decoded] at refused
      cases refused
    | ok header =>
      obtain ⟨_, _, valid⟩ := (Header.decode_ok t).mp decoded
      rw [decoded, Exec.ok_bind] at refused
      split at refused
      · next missing =>
        cases refused
        exact .missing valid.representable.1 missing
      · cases refused
  · have short : buf.length < headerSize := Nat.lt_of_not_le enough
    rw [Message.fromSlice, if_pos short] at refused
    cases refused
    exact .short short

/-- Whatever the exact parser reports is such an error. -/
theorem Message.fromSliceExact_ofFrame (t : Target) {buf : Bytes} {error : RepeError}
    (refused : Message.fromSliceExact t buf = .err error) : error.OfFrame := by
  rw [Message.fromSliceExact_eq] at refused
  -- The front is refused, or there are bytes behind it.
  cases sliced : Message.fromSlice t buf with
  | err other =>
    rw [sliced] at refused
    cases refused
    exact Message.fromSlice_ofFrame t sliced
  | panic =>
    rw [sliced] at refused
    cases refused
  | ok message =>
    rw [sliced, Exec.ok_bind] at refused
    split at refused
    · cases refused
      exact .mismatch _ _
    · cases refused

theorem MessageView.fromSliceExact_ofFrame (t : Target) {buf : Bytes} {error : RepeError}
    (refused : MessageView.fromSliceExact t buf = .err error) : error.OfFrame := by
  apply Message.fromSliceExact_ofFrame t
  rw [← MessageView.fromSliceExact_toMessage, refused]
  rfl

namespace RepeError.OfFrame

theorem code_ne_ok {error : RepeError} (ofFrame : error.OfFrame) : error.toErrorCode ≠ .ok := by
  cases ofFrame <;> simp [toErrorCode]

/-- The text of such an error is short. -/
theorem display_length {error : RepeError} (ofFrame : error.OfFrame) :
    (utf8Bytes error.display).length ≤ 120 := by
  rw [utf8Bytes_length]
  -- In each case the text is put together from a few literals and the numbers of the error.
  cases ofFrame with
  | @short length short =>
    show (toString "invalid header length: expected 48, got " ++ toString length).utf8ByteSize ≤ 120
    have width : Digits.width length ≤ 2 :=
      Digits.width_le (by decide) (Nat.lt_trans short (by decide))
    have text : (toString "invalid header length: expected 48, got ").utf8ByteSize = 40 := by decide
    rw [String.utf8ByteSize_append, Digits.utf8ByteSize_toString, text]
    omega
  | spec spec =>
    show (toString "invalid spec magic: " ++ hexSpec spec).utf8ByteSize ≤ 120
    have text : (toString "invalid spec magic: ").utf8ByteSize = 20 := by decide
    have magic := hexSpec_utf8ByteSize spec
    rw [String.utf8ByteSize_append, text]
    omega
  | overflow queryLength bodyLength =>
    show ("frame lengths are not representable: 48-byte header + query " ++
      (toString queryLength.toNat ++ toString " + body " ++ toString bodyLength.toNat)).utf8ByteSize
        ≤ 120
    have texts : "frame lengths are not representable: 48-byte header + query ".utf8ByteSize = 60 ∧
        (toString " + body ").utf8ByteSize = 8 := by decide
    have query := width_toNat_le queryLength
    have body := width_toNat_le bodyLength
    simp only [String.utf8ByteSize_append, Digits.utf8ByteSize_toString, texts]
    omega
  | mismatch expected got =>
    show (toString "header length mismatch: expected " ++ toString expected.toNat ++
      toString ", got " ++ toString got.toNat).utf8ByteSize ≤ 120
    have texts : (toString "header length mismatch: expected ").utf8ByteSize = 33 ∧
        (toString ", got ").utf8ByteSize = 6 := by decide
    have wanted := width_toNat_le expected
    have found := width_toNat_le got
    simp only [String.utf8ByteSize_append, Digits.utf8ByteSize_toString, texts]
    omega
  | @missing need have_ counted missing =>
    show (toString "buffer too small: need " ++ toString need ++ toString " bytes, have " ++
      toString have_).utf8ByteSize ≤ 120
    have texts : (toString "buffer too small: need ").utf8ByteSize = 23 ∧
        (toString " bytes, have ").utf8ByteSize = 13 := by decide
    have needed : Digits.width need ≤ 20 :=
      Digits.width_le (by decide) (Nat.lt_trans counted (by decide))
    have present : Digits.width have_ ≤ 20 :=
      Digits.width_le (by decide) (Nat.lt_trans (Nat.lt_trans missing counted) (by decide))
    simp only [String.utf8ByteSize_append, Digits.utf8ByteSize_toString, texts]
    omega

end RepeError.OfFrame

end Repe
