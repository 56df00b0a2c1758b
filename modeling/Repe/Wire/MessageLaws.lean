import Repe.Wire.HeaderLaws
import Repe.Wire.Message

/-! Parsing and framing are inverse on well-formed frames, and no buffer makes the parser panic. -/

namespace Repe

namespace Header

theorem parse_take {bytes : Bytes} (enough : headerSize ≤ bytes.length) :
    parse (bytes.take headerSize) = parse bytes := by
  -- Both headers encode to the same 48 bytes, and the encoding determines its header.
  have same : (parse (bytes.take headerSize)).encode = (parse bytes).encode := by
    rw [encode_parse enough, encode_parse (by simp [enough]), List.take_take, Nat.min_self]
  have first := parse_encode (parse (bytes.take headerSize)) []
  rw [same, parse_encode] at first
  exact first.symm

theorem decode_take (t : Target) {bytes : Bytes} (enough : headerSize ≤ bytes.length) :
    decode t (bytes.take headerSize) = decode t bytes := by
  -- Both sides are the same checks on the same fields.
  rw [decode_eq t enough, decode_eq t (by simp [enough]), parse_take enough]

end Header

namespace Message

theorem toVec_eq (message : Message) :
    message.toVec = message.header.encode ++ message.query ++ message.body := by
  -- Appending nothing is skipping the append.
  cases query : message.query <;> cases body : message.body <;> simp [toVec, query, body]

@[simp] theorem toVec_length (message : Message) :
    message.toVec.length = headerSize + message.query.length + message.body.length := by
  simp [toVec_eq, Nat.add_assoc]

theorem parse_toVec (message : Message) (rest : Bytes) :
    Header.parse (message.toVec ++ rest) = message.header := by
  rw [toVec_eq, List.append_assoc, List.append_assoc, Header.parse_encode]

variable (t : Target)

/-- A message whose header carries the magic and the real lengths of its query and body. -/
structure WellFormed (message : Message) : Prop where
  spec : message.header.spec = repeSpec
  queryLength : message.header.queryLength.toNat = message.query.length
  bodyLength : message.header.bodyLength.toNat = message.body.length
  length : message.header.length.toNat = headerSize + message.query.length + message.body.length
  /-- Its frame is a buffer this target can hold. -/
  addressable : t.Addressable message.toVec.length

instance (message : Message) : Decidable (message.WellFormed t) :=
  decidable_of_iff
    (message.header.spec = repeSpec
      ∧ message.header.queryLength.toNat = message.query.length
      ∧ message.header.bodyLength.toNat = message.body.length
      ∧ message.header.length.toNat = headerSize + message.query.length + message.body.length
      ∧ t.Addressable message.toVec.length)
    ⟨fun ⟨spec, query, body, length, addressable⟩ => ⟨spec, query, body, length, addressable⟩,
      fun ⟨spec, query, body, length, addressable⟩ => ⟨spec, query, body, length, addressable⟩⟩

theorem WellFormed.total_eq {message : Message} (wellFormed : message.WellFormed t) :
    message.toVec.length = message.header.total := by
  rw [toVec_length, Header.total, wellFormed.queryLength, wellFormed.bodyLength]

theorem WellFormed.valid {message : Message} (wellFormed : message.WellFormed t) :
    message.header.Valid t := by
  -- What the header announces is the length of the frame.
  have total : message.header.total = headerSize + message.query.length + message.body.length := by
    rw [← wellFormed.total_eq, toVec_length]
  refine ⟨wellFormed.spec, ⟨?_, ?_⟩, ?_⟩
  · rw [total, ← wellFormed.length]
    exact message.header.length.toNat_lt
  · rw [total, ← toVec_length]
    exact wellFormed.addressable
  · rw [total, wellFormed.length]

/-- A builder's message is well formed as soon as its frame can be counted and held. -/
theorem build_wellFormed (builder : MessageBuilder)
    (counted : headerSize + builder.query.length + builder.body.length < 2 ^ 64)
    (addressable : t.Addressable (headerSize + builder.query.length + builder.body.length)) :
    builder.build.WellFormed t := by
  -- Both lengths lie below the total, so no cast and no addition loses a bit.
  have size : (UInt64.ofNat headerSize).toNat = headerSize := rfl
  have query : (UInt64.ofNat builder.query.length).toNat = builder.query.length :=
    UInt64.toNat_ofNat_of_lt' (by simp only [UInt64.size]; omega)
  have body : (UInt64.ofNat builder.body.length).toNat = builder.body.length :=
    UInt64.toNat_ofNat_of_lt' (by simp only [UInt64.size]; omega)
  refine ⟨rfl, query, body, ?_, by rw [toVec_length]; exact addressable⟩
  change (UInt64.ofNat headerSize + UInt64.ofNat builder.query.length
    + UInt64.ofNat builder.body.length).toNat = headerSize + builder.query.length
    + builder.body.length
  have first : (UInt64.ofNat headerSize + UInt64.ofNat builder.query.length).toNat
      = headerSize + builder.query.length := by
    rw [UInt64.toNat_add_of_fits (by omega), size, query]
  rw [UInt64.toNat_add_of_fits (by rw [first, body]; omega), first, body]

/-- The message a valid header carves out of the buffer it heads. -/
def carve (header : Header) (buf : Bytes) : Message where
  header := header
  query := window buf headerSize header.queryLength.toNat
  body := window buf (headerSize + header.queryLength.toNat) header.bodyLength.toNat

theorem new_carve {header : Header} {buf : Bytes} (inside : header.total ≤ buf.length) :
    Message.new t header (carve header buf).query (carve header buf).body
      = .ok (carve header buf) := by
  -- Both windows lie inside the buffer, so they have the advertised lengths.
  rw [Header.total] at inside
  have query : (carve header buf).query.length = header.queryLength.toNat :=
    window_length (by omega)
  have body : (carve header buf).body.length = header.bodyLength.toNat :=
    window_length (by omega)
  simp only [Message.new, query, body, UInt64.ofNat_toNat, ne_eq, not_true_eq_false, or_self,
    if_false, Exec.pure_eq]
  rfl

private theorem sums_exact {header : Header} (valid : header.Valid t) :
    t.asUsize header.queryLength = header.queryLength.toNat ∧
      t.asUsize header.bodyLength = header.bodyLength.toNat ∧
      (t.addUsize headerSize header.queryLength.toNat : Exec RepeError Nat)
        = .ok (headerSize + header.queryLength.toNat) ∧
      (t.addUsize (headerSize + header.queryLength.toNat) header.bodyLength.toNat
          : Exec RepeError Nat)
        = .ok header.total := by
  -- The decoder bounded the whole total by `usize`, and every partial sum lies below it.
  have fits : header.total < 2 ^ t.usizeBits := valid.representable.2
  have within : ∀ count, count ≤ header.total → t.Addressable count :=
    fun count le => Nat.lt_of_le_of_lt le fits
  simp only [Header.total] at within
  refine ⟨t.asUsize_eq (within _ (by omega)), t.asUsize_eq (within _ (by omega)),
    t.addUsize_ok (within _ (by omega)), t.addUsize_ok (within _ (by omega))⟩

private theorem slices_exact {header : Header} {buf : Bytes} (inside : header.total ≤ buf.length) :
    (Exec.slice buf headerSize (headerSize + header.queryLength.toNat) : Exec RepeError Bytes)
        = .ok (carve header buf).query ∧
      (Exec.slice buf (headerSize + header.queryLength.toNat) header.total : Exec RepeError Bytes)
        = .ok (carve header buf).body := by
  -- The query ends where the body starts, and both end inside the frame.
  have bound : headerSize + header.queryLength.toNat ≤ header.total := Nat.le_add_right _ _
  constructor
  · rw [Exec.slice_ok (Nat.le_add_right _ _) (by omega), Nat.add_sub_cancel_left]
    rfl
  · rw [Exec.slice_ok bound inside, Header.total, Nat.add_sub_cancel_left]
    rfl

private theorem front_slice {buf : Bytes} (enough : headerSize ≤ buf.length) :
    (Exec.slice buf 0 headerSize : Exec RepeError Bytes) = .ok (buf.take headerSize) := by
  simpa using Exec.slice_ok (Nat.zero_le headerSize) enough

/-- After a header decodes, parsing only has to check that the buffer is long enough. -/
theorem fromSlice_eq {buf : Bytes} (enough : headerSize ≤ buf.length) :
    fromSlice t buf = Header.decode t buf >>= fun header =>
      if buf.length < header.total then .err (.bufferTooSmall header.total buf.length)
      else .ok (carve header buf) := by
  simp only [fromSlice, Nat.not_lt.mpr enough, if_false, front_slice enough, Exec.ok_bind,
    Header.decode_take t enough]
  -- What the decoder refuses, the parser refuses in the same words.
  cases decoded : Header.decode t buf with
  | err error => simp
  | panic => simp
  | ok header =>
    obtain ⟨_, _, valid⟩ := (Header.decode_ok t).mp decoded
    -- None of the four sums can overflow any more.
    obtain ⟨query, body, first, second⟩ := sums_exact t valid
    simp only [Exec.ok_bind, query, body, first, second]
    split
    · rfl
    · rename_i inside
      have inside : header.total ≤ buf.length := Nat.not_lt.mp inside
      simp only [slices_exact inside, Exec.ok_bind, new_carve t inside]

theorem resizeZero_grow {vec : Bytes} {len : Nat} (grows : vec.length ≤ len) :
    resizeZero vec len = vec ++ List.replicate (len - vec.length) 0 := by
  -- Nothing is cut off.
  rw [resizeZero, List.take_of_length_le grows]

theorem resizeZero_length {vec : Bytes} {len : Nat} (grows : vec.length ≤ len) :
    (resizeZero vec len).length = len := by
  rw [resizeZero_grow grows, List.length_append, List.length_replicate]
  omega

/-- Shifting the body back leaves a gap of the prefix's length in front of it. -/
private theorem shiftBody_gap (body : Bytes) (room : Nat) :
    ∃ gap : Bytes, gap.length = room ∧
      shiftBody (resizeZero body (room + body.length)) body.length room = .ok (gap ++ body) := by
  -- The grown buffer is the body with zeros behind it, as long as gap and body together.
  have grown := resizeZero_grow (Nat.le_add_left body.length room)
  have length := resizeZero_length (Nat.le_add_left body.length room)
  have front : (resizeZero body (room + body.length)).take body.length = body := by
    rw [grown, List.take_left]
  rw [shiftBody]
  split
  · -- The move overwrites the back of the buffer, and the front keeps old bytes.
    refine ⟨(resizeZero body (room + body.length)).take room, by simp [length], ?_⟩
    rw [copyWithin, if_pos (by omega), front, List.drop_of_length_le (by omega), List.append_nil]
  · -- An empty body is not moved, and the whole buffer is gap.
    rename_i empty
    have empty : body = [] := List.length_eq_zero_iff.mp (by omega)
    subst empty
    exact ⟨resizeZero [] (room + 0), by simpa using length, by simp⟩

/-- Building the frame inside the body's buffer gives the same bytes as building it afresh. -/
theorem intoWireBytes_eq (capacity : Nat) (message : Message)
    (addressable : t.Addressable message.toVec.length) :
    message.intoWireBytes t capacity = .ok message.toVec := by
  rw [toVec_length] at addressable
  -- The prefix alone is shorter than the frame.
  have first : t.Addressable (headerSize + message.query.length) :=
    Nat.lt_of_le_of_lt (Nat.le_add_right _ _) addressable
  simp only [intoWireBytes, t.addUsize_ok first, t.addUsize_ok addressable, Exec.ok_bind]
  split
  · -- In place: the gap in front of the shifted body takes the header, then the query.
    obtain ⟨gap, length, shift⟩ := shiftBody_gap message.body (headerSize + message.query.length)
    have header : copyFromSlice (gap ++ message.body) 0 headerSize message.header.encode
        = .ok (message.header.encode ++ (gap.drop headerSize ++ message.body)) := by
      rw [copyFromSlice, if_pos (by simp [length]; omega), List.drop_append_of_le_length (by omega)]
      simp
    rw [shift, Exec.ok_bind, header, Exec.ok_bind]
    split
    · -- Without a query the gap was the header's and nothing is left of it.
      rename_i empty
      have empty : message.query = [] := List.isEmpty_iff.mp empty
      have gone : gap.drop headerSize = [] :=
        List.drop_of_length_le (by rw [length, empty]; simp)
      rw [toVec_eq, empty, gone]
      simp
    · -- What is left of the gap is exactly the query's room.
      have rest : (gap.drop headerSize).length = message.query.length := by
        rw [List.length_drop, length]
        omega
      have cut : message.header.encode ++ (gap.drop headerSize ++ message.body)
          = message.header.encode ++ gap.drop headerSize ++ message.body := by simp
      have prefixed : (message.header.encode ++ gap.drop headerSize).length
          = headerSize + message.query.length := by
        rw [List.length_append, Header.encode_length, rest]
      rw [copyFromSlice, if_pos (by simp [rest]), List.take_left' (by simp), cut,
        List.drop_left' prefixed, toVec_eq]
  · -- Afresh: three appends, two of them skipped when there is nothing to append.
    rw [toVec_eq]
    cases query : message.query <;> cases body : message.body <;> simp

/-- A buffer parses exactly when a valid header heads it and the frame lies inside it. -/
theorem fromSlice_ok {buf : Bytes} {message : Message} :
    fromSlice t buf = .ok message ↔
      headerSize ≤ buf.length ∧ (Header.parse buf).Valid t ∧
        (Header.parse buf).total ≤ buf.length ∧ message = carve (Header.parse buf) buf := by
  by_cases enough : headerSize ≤ buf.length
  · rw [fromSlice_eq t enough, Exec.bind_eq_ok]
    constructor
    · -- A parsed buffer had a valid header and was long enough for it.
      rintro ⟨header, decoded, result⟩
      obtain ⟨_, rfl, valid⟩ := (Header.decode_ok t).mp decoded
      split at result
      · cases result
      · rename_i inside
        exact ⟨enough, valid, Nat.not_lt.mp inside, (Exec.ok.inj result).symm⟩
    · -- Conversely the decoder returns that header, and the length check passes.
      rintro ⟨_, valid, inside, rfl⟩
      exact ⟨Header.parse buf, (Header.decode_ok t).mpr ⟨enough, rfl, valid⟩,
        if_neg (Nat.not_lt.mpr inside)⟩
  · simp [fromSlice, Nat.lt_of_not_le enough, enough]

/-- A message carved from a buffer by a valid header is well formed. -/
theorem carve_wellFormed {header : Header} {buf : Bytes} (valid : header.Valid t)
    (inside : header.total ≤ buf.length) : (carve header buf).WellFormed t := by
  -- The windows have the lengths the header promises.
  have total : header.total = headerSize + header.queryLength.toNat + header.bodyLength.toNat := rfl
  have query : (carve header buf).query.length = header.queryLength.toNat :=
    window_length (by omega)
  have body : (carve header buf).body.length = header.bodyLength.toNat :=
    window_length (by omega)
  refine ⟨valid.spec, query.symm, body.symm, ?_, ?_⟩
  · rw [query, body, ← total]
    exact valid.length
  · rw [toVec_length, query, body, ← total]
    exact valid.representable.2

theorem toVec_carve {buf : Bytes} (enough : headerSize ≤ buf.length) :
    (carve (Header.parse buf) buf).toVec = buf.take (Header.parse buf).total := by
  -- Header, query, and body are adjacent windows of the same buffer.
  have front : (Header.parse buf).encode = window buf 0 headerSize := Header.encode_parse enough
  rw [toVec_eq, carve, front]
  have first := window_append buf 0 headerSize (Header.parse buf).queryLength.toNat
  have second := window_append buf 0 (headerSize + (Header.parse buf).queryLength.toNat)
    (Header.parse buf).bodyLength.toNat
  simp only [Nat.zero_add] at first second
  rw [first, second]
  rfl

/-- A frame followed by anything parses back into the message it was made from. -/
theorem fromSlice_toVec {message : Message} (wellFormed : message.WellFormed t) (rest : Bytes) :
    fromSlice t (message.toVec ++ rest) = .ok message := by
  -- The header at the front of the frame is the message's own.
  have parsed := parse_toVec message rest
  have total : message.header.total = message.toVec.length := by
    rw [toVec_length, Header.total, wellFormed.queryLength, wellFormed.bodyLength]
  have enough : headerSize ≤ (message.toVec ++ rest).length := by
    simp only [List.length_append, toVec_length]
    omega
  refine (fromSlice_ok t).mpr ⟨enough, ?_, ?_, ?_⟩
  · rw [parsed]
    exact wellFormed.valid t
  · rw [parsed, total]
    simp
  · -- The query and body windows start right after the header and after the query.
    rw [parsed, carve, wellFormed.queryLength, wellFormed.bodyLength, toVec_eq]
    simp only [List.append_assoc, window_skip, window_head, Header.encode_length,
      Nat.le_refl, Nat.le_add_right, Nat.sub_self, Nat.add_sub_cancel_left]

/-- The exact parser is the prefix parser with bytes to spare refused. -/
theorem fromSliceExact_eq (buf : Bytes) :
    fromSliceExact t buf = fromSlice t buf >>= fun message =>
      if buf.length ≠ message.toVec.length then
        .err (.lengthMismatch (UInt64.ofNat message.toVec.length) (UInt64.ofNat buf.length))
      else .ok message := by
  rw [fromSliceExact]
  cases sliced : fromSlice t buf with
  | err error => rfl
  | panic => rfl
  | ok message =>
    -- A parsed message is well formed, so the two sums over its parts are exact.
    obtain ⟨_, valid, inside, rfl⟩ := (fromSlice_ok t).mp sliced
    have whole := (carve_wellFormed t valid inside).addressable
    rw [toVec_length] at whole
    have first : t.Addressable (headerSize + (carve (Header.parse buf) buf).query.length) :=
      Nat.lt_of_le_of_lt (Nat.le_add_right _ _) whole
    simp only [Exec.ok_bind, t.addUsize_ok first, t.addUsize_ok whole, ← toVec_length]
    rfl

/-- The exact parser returns a message exactly when the buffer is that message's frame. -/
theorem fromSliceExact_ok {buf : Bytes} {message : Message} :
    fromSliceExact t buf = .ok message ↔
      fromSlice t buf = .ok message ∧ buf.length = message.toVec.length := by
  rw [fromSliceExact_eq, Exec.bind_eq_ok]
  constructor
  · -- The prefix parser returned, and the lengths were compared.
    rintro ⟨parsed, sliced, result⟩
    split at result
    · cases result
    · rename_i same
      cases result
      exact ⟨sliced, Decidable.not_not.mp same⟩
  · rintro ⟨sliced, exactly⟩
    exact ⟨message, sliced, if_neg (fun differ => differ exactly)⟩

theorem fromSliceExact_sound {buf : Bytes} {message : Message}
    (parsed : fromSliceExact t buf = .ok message) : message.WellFormed t ∧ message.toVec = buf := by
  -- The frame is the front of the buffer, and as long as the buffer.
  obtain ⟨sliced, exactly⟩ := (fromSliceExact_ok t).mp parsed
  obtain ⟨enough, valid, inside, rfl⟩ := (fromSlice_ok t).mp sliced
  refine ⟨carve_wellFormed t valid inside, ?_⟩
  have front := toVec_carve enough
  rw [front, List.length_take, Nat.min_eq_left inside] at exactly
  rw [front, ← exactly, List.take_length]

theorem fromSliceExact_complete {message : Message} (wellFormed : message.WellFormed t) :
    fromSliceExact t message.toVec = .ok message := by
  -- A frame with nothing behind it is a frame followed by nothing.
  have sliced := fromSlice_toVec t wellFormed []
  rw [List.append_nil] at sliced
  exact (fromSliceExact_ok t).mpr ⟨sliced, rfl⟩

theorem fromSlice_ne_panic (buf : Bytes) : fromSlice t buf ≠ .panic := by
  by_cases enough : headerSize ≤ buf.length
  · -- After the header only a length check is left.
    rw [fromSlice_eq t enough]
    cases decoded : Header.decode t buf with
    | err error => simp
    | panic => exact absurd decoded (Header.decode_ne_panic t buf)
    | ok header =>
      simp only [Exec.ok_bind]
      split <;> simp
  · simp [fromSlice, Nat.lt_of_not_le enough]

theorem fromSliceExact_ne_panic (buf : Bytes) : fromSliceExact t buf ≠ .panic := by
  -- One more length check follows the prefix parser.
  rw [fromSliceExact_eq]
  cases sliced : fromSlice t buf with
  | err error => simp
  | panic => exact absurd sliced (fromSlice_ne_panic t buf)
  | ok message =>
    simp only [Exec.ok_bind]
    split <;> simp

/-- Overflow checks change nothing, because no addition of the exact parser overflows. -/
theorem fromSliceExact_checks (buf : Bytes) :
    fromSliceExact { t with overflowChecks := true } buf = fromSliceExact t buf := by
  -- The rewritten parser reads the width of `usize` only, never the overflow flag.
  have decoded : ∀ input, Header.decode { t with overflowChecks := true } input
      = Header.decode t input := by
    intro input
    by_cases enough : headerSize ≤ input.length
    · rw [Header.decode_eq _ enough, Header.decode_eq t enough]
      rfl
    · simp [Header.decode, Nat.lt_of_not_le enough]
  rw [fromSliceExact_eq, fromSliceExact_eq]
  by_cases enough : headerSize ≤ buf.length
  · rw [fromSlice_eq _ enough, fromSlice_eq t enough, decoded]
  · simp [fromSlice, Nat.lt_of_not_le enough]

/-- A buffer parses exactly when its header fields describe it. -/
theorem fromSliceExact_returns (buf : Bytes) :
    (fromSliceExact t buf).Returns ↔
      headerSize ≤ buf.length ∧ (Header.parse buf).spec = repeSpec
        ∧ (Header.parse buf).total < 2 ^ 64 ∧ t.Addressable (Header.parse buf).total
        ∧ (Header.parse buf).total = (Header.parse buf).length.toNat
        ∧ (Header.parse buf).total = buf.length := by
  constructor
  · -- The conditions are read off the header that was accepted.
    rintro ⟨message, parsed⟩
    obtain ⟨sliced, exactly⟩ := (fromSliceExact_ok t).mp parsed
    obtain ⟨enough, valid, inside, rfl⟩ := (fromSlice_ok t).mp sliced
    rw [toVec_carve enough, List.length_take, Nat.min_eq_left inside] at exactly
    exact ⟨enough, valid.spec, valid.representable.1, valid.representable.2, valid.length.symm,
      exactly.symm⟩
  · -- Under the conditions the carved message is what the parser returns.
    rintro ⟨enough, spec, fits, addressable, length, exactly⟩
    refine ⟨carve (Header.parse buf) buf, (fromSliceExact_ok t).mpr ⟨?_, ?_⟩⟩
    · exact (fromSlice_ok t).mpr
        ⟨enough, ⟨spec, ⟨fits, addressable⟩, length.symm⟩, Nat.le_of_eq exactly, rfl⟩
    · rw [toVec_carve enough, exactly, List.take_length]

/--
The exact parser and the framing are inverse to each other on well-formed frames.

A buffer parses exactly when its header fields describe it, framing the result restores the buffer,
and every well-formed message survives the trip.

A build that panics on overflow behaves like one that wraps and never panics, so no addition wraps and
no slice is out of range.
-/
theorem fromSliceExact_inverse :
    (∀ buf, (fromSliceExact t buf).Returns ↔
      headerSize ≤ buf.length ∧ (Header.parse buf).spec = repeSpec
        ∧ (Header.parse buf).total < 2 ^ 64 ∧ t.Addressable (Header.parse buf).total
        ∧ (Header.parse buf).total = (Header.parse buf).length.toNat
        ∧ (Header.parse buf).total = buf.length) ∧
    (∀ buf message, fromSliceExact t buf = .ok message → message.toVec = buf) ∧
    (∀ message, message.WellFormed t → fromSliceExact t message.toVec = .ok message) ∧
    (∀ buf, fromSliceExact t buf ≠ .panic
      ∧ fromSliceExact { t with overflowChecks := true } buf = fromSliceExact t buf) :=
  ⟨fromSliceExact_returns t, fun _ _ parsed => (fromSliceExact_sound t parsed).2,
    fun _ wellFormed => fromSliceExact_complete t wellFormed,
    fun buf => ⟨fromSliceExact_ne_panic t buf, fromSliceExact_checks t buf⟩⟩

/-- The laws at work: a request with a query and a body, and an empty frame given as raw bytes. -/
theorem fromSliceExact_inverse_request :
    fromSliceExact .release64 (MessageBuilder.build { id := 7, query := [47, 97], body := [1] }).toVec
        = .ok (MessageBuilder.build { id := 7, query := [47, 97], body := [1] }) ∧
      (MessageBuilder.build { id := 9 }).toVec
        = [48, 0, 0, 0, 0, 0, 0, 0, 7, 21, 1, 0, 0, 0, 0, 0, 9, 0, 0, 0, 0, 0, 0, 0]
          ++ List.replicate 24 0 := by
  obtain ⟨_, restores, parses, _⟩ := fromSliceExact_inverse .release64
  exact ⟨parses _ (build_wellFormed _ _ (by decide) (by decide)), restores _ _ (by decide)⟩

end Message

namespace MessageView

variable (t : Target)

theorem bind_toMessage_eq_ok {borrowed : Exec RepeError MessageView} {view : MessageView} :
    (borrowed >>= fun view => .ok view.toMessage) = .ok view.toMessage ↔ borrowed = .ok view := by
  rw [Exec.bind_eq_ok]
  constructor
  · -- The view is the one with these parts.
    rintro ⟨⟨header, query, body⟩, parsed, same⟩
    obtain ⟨rfl, rfl, rfl⟩ := Message.mk.inj (Exec.ok.inj same)
    exact parsed
  · intro parsed
    exact ⟨view, parsed, rfl⟩

/-- A view that is refused is refused as the message is. -/
theorem fromSlice_toMessage (buf : Bytes) :
    (fromSlice t buf >>= fun view => .ok view.toMessage) = Message.fromSlice t buf := by
  by_cases enough : headerSize ≤ buf.length
  · rw [Message.fromSlice_eq t enough]
    simp only [fromSlice, Nat.not_lt.mpr enough, if_false, Message.front_slice enough,
      Exec.ok_bind, Header.decode_take t enough]
    -- The view makes the same checks, in the same order, and skips only the copy.
    cases decoded : Header.decode t buf with
    | err error => rfl
    | panic => rfl
    | ok header =>
      obtain ⟨_, _, valid⟩ := (Header.decode_ok t).mp decoded
      obtain ⟨query, body, first, second⟩ := Message.sums_exact t valid
      simp only [Exec.ok_bind, query, body, first, second]
      split
      · rfl
      · rename_i inside
        have inside : header.total ≤ buf.length := Nat.not_lt.mp inside
        simp only [Message.slices_exact inside, Exec.ok_bind, Exec.pure_eq]
        rfl
  · simp [fromSlice, Message.fromSlice, Nat.lt_of_not_le enough]

theorem fromSlice_ok {buf : Bytes} {view : MessageView} :
    fromSlice t buf = .ok view ↔ Message.fromSlice t buf = .ok view.toMessage := by
  rw [← fromSlice_toMessage, bind_toMessage_eq_ok]

/-- The exact parsers agree too. -/
theorem fromSliceExact_toMessage (buf : Bytes) :
    (fromSliceExact t buf >>= fun view => .ok view.toMessage) = Message.fromSliceExact t buf := by
  rw [fromSliceExact, Message.fromSliceExact, ← fromSlice_toMessage]
  cases fromSlice t buf with
  | err error => rfl
  | panic => rfl
  | ok view =>
    simp only [Exec.ok_bind, toMessage]
    -- Both sum up the lengths of the same parts.
    cases t.addUsize (ε := RepeError) headerSize view.query.length with
    | err error => rfl
    | panic => rfl
    | ok first =>
      simp only [Exec.ok_bind]
      cases t.addUsize (ε := RepeError) first view.body.length with
      | err error => rfl
      | panic => rfl
      | ok expected =>
        simp only [Exec.ok_bind]
        split <;> rfl

theorem fromSliceExact_ok {buf : Bytes} {view : MessageView} :
    fromSliceExact t buf = .ok view ↔ Message.fromSliceExact t buf = .ok view.toMessage := by
  rw [← fromSliceExact_toMessage, bind_toMessage_eq_ok]

theorem fromSliceExact_ne_panic (buf : Bytes) : fromSliceExact t buf ≠ .panic := by
  -- The owned parser would panic as well.
  intro panics
  have owned := fromSliceExact_toMessage t buf
  rw [panics] at owned
  exact Message.fromSliceExact_ne_panic t buf owned.symm

/-- The outcomes of a borrowed and an owned parser: the same refusal, or the same three parts. -/
inductive Agrees : Exec RepeError MessageView → Exec RepeError Message → Prop where
  | refused (error : RepeError) : Agrees (.err error) (.err error)
  | parsed (header : Header) (query body : Bytes) :
    Agrees (.ok ⟨header, query, body⟩) (.ok ⟨header, query, body⟩)

/-- Parsers agree if the view becomes the message, and the message's parser does not panic. -/
theorem agrees_of_toMessage {borrowed : Exec RepeError MessageView} {owned : Exec RepeError Message}
    (same : (borrowed >>= fun view => .ok view.toMessage) = owned) (returns : owned ≠ .panic) :
    Agrees borrowed owned := by
  -- The copy of a view has its parts, and a refusal skips the copy.
  subst same
  cases borrowed with
  | ok view => exact .parsed view.header view.query view.body
  | err error => exact .refused error
  | panic => exact absurd rfl returns

/--
Whatever a buffer holds, the borrowed and the owned parser have the same outcome, and so have the
two parsers that allow nothing behind the frame.
-/
theorem parsers_agree (buf : Bytes) :
    Agrees (fromSlice t buf) (Message.fromSlice t buf) ∧
      Agrees (fromSliceExact t buf) (Message.fromSliceExact t buf) := by
  -- The message made of a view is what the owned parser returns.
  constructor
  · apply agrees_of_toMessage (fromSlice_toMessage t buf)
    exact Message.fromSlice_ne_panic t buf
  · apply agrees_of_toMessage (fromSliceExact_toMessage t buf)
    exact Message.fromSliceExact_ne_panic t buf

end MessageView

end Repe
