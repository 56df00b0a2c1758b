import Repe.Client.Calls
import Repe.Server.Mount
import Repe.Wire.ErrorLaws
import Repe.Wire.MessageLaws

/-! `frame_outbound`: what the writer of a WebSocket connection hands to its socket. -/

namespace Repe

structure OutboundTooLarge where
  method : Path
  size : Nat
  limit : Nat
  deriving DecidableEq, Repr

def overLimitText (size limit : Nat) : String :=
  s!"response is {size} bytes, over the {limit} byte assumed peer frame limit; " ++
    "raise the peer's inbound limit or reduce the response"

def overLimitResponse (id : UInt64) (size limit : Nat) : Message :=
  let replacement := createErrorMessage .internalError (utf8Bytes (overLimitText size limit))
  -- Only the id changes, so the length in the header stays correct.
  { replacement with header := { replacement.header with id } }

def replacementLength (size limit : Nat) : Nat :=
  headerSize + 114 + Digits.width size + Digits.width limit

theorem overLimitText_length (size limit : Nat) :
    (utf8Bytes (overLimitText size limit)).length = 114 + Digits.width size + Digits.width limit := by
  -- The fixed parts of the text are counted, and the two numbers have their widths.
  have texts : (toString "response is ").utf8ByteSize = 12 ∧
      (toString " bytes, over the ").utf8ByteSize = 17 ∧
      (toString " byte assumed peer frame limit; ").utf8ByteSize = 32 ∧
      "raise the peer's inbound limit or reduce the response".utf8ByteSize = 53 := by decide
  rw [utf8Bytes_length]
  show (toString "response is " ++ toString size ++ toString " bytes, over the " ++ toString limit ++
    toString " byte assumed peer frame limit; " ++
    "raise the peer's inbound limit or reduce the response").utf8ByteSize = _
  simp only [String.utf8ByteSize_append, Digits.utf8ByteSize_toString, texts]
  omega

theorem overLimitResponse_id (id : UInt64) (size limit : Nat) :
    (overLimitResponse id size limit).header.id = id := rfl

theorem overLimitResponse_length (id : UInt64) (size limit : Nat) :
    (overLimitResponse id size limit).toVec.length = replacementLength size limit := by
  rw [Message.toVec_length, replacementLength]
  -- There is no query.
  show headerSize + 0 + (utf8Bytes (overLimitText size limit)).length = _
  rw [overLimitText_length]
  omega

theorem text_below_pow {bits : Nat} (wide : 16 ≤ bits) : 163 + 2 * bits < 2 ^ bits := by
  -- One more bit doubles the right side, and adds two to the left.
  induction bits, wide using Nat.le_induction with
  | base => decide
  | succ bits _ ih =>
    rw [Nat.pow_succ]
    omega

section Framing

variable (t : Target)
-- The capacity that the buffer of a body has been given.
variable (capacity : Bytes → Nat)

/-- `frame_outbound`: the frame to send, if any, and what the error hooks hear. -/
def frameOutbound (limit : Option Nat) (message : Message) :
    Exec RepeError (Option Bytes × List OutboundTooLarge) := do
  let frameLen ← t.addUsize headerSize message.query.length
  let frameLen ← t.addUsize frameLen message.body.length
  match (ClientKind.webSocket limit).checkOutbound frameLen with
  | .ok () =>
    let frame ← message.intoWireBytes t (capacity message.body)
    return (some frame, [])
  | .error (.messageTooLarge size limit) =>
    let report := { method := (Utf8.fromUtf8 message.query).getD [], size, limit }
    -- A notify has no response that could carry the error.
    if message.header.notify ≠ 0 then return (none, [report])
    else
      let replacement := overLimitResponse message.header.id size limit
      let frame ← replacement.intoWireBytes t (capacity replacement.body)
      return (some frame, [report])
  -- The check fails in no other way.
  | .error _ => .panic

theorem overLimitResponse_addressable (id : UInt64) {size limit : Nat}
    (addressable : t.Addressable size) (over_ : limit < size) :
    t.Addressable (overLimitResponse id size limit).toVec.length := by
  have wide := t.wide
  -- Numbers that fit so many bits have no more digits than that.
  have sizeWidth : Digits.width size ≤ t.usizeBits := Digits.width_le_bits (by omega) addressable
  have limitWidth : Digits.width limit ≤ t.usizeBits :=
    Digits.width_le_bits (by omega) (Nat.lt_trans over_ addressable)
  have room := text_below_pow wide
  rw [overLimitResponse_length, replacementLength]
  show headerSize + 114 + _ + _ < _
  simp only [headerSize]
  omega

/--
A frame that fits is sent as it is, a notify that does not is dropped, and a response that does not
is replaced.
-/
theorem frameOutbound_eq (limit : Option Nat) {message : Message}
    (addressable : t.Addressable message.toVec.length) :
    frameOutbound t capacity limit message =
      match limit.filter (· < message.toVec.length) with
      | none => .ok (some message.toVec, [])
      | some bound =>
        let report := ⟨(Utf8.fromUtf8 message.query).getD [], message.toVec.length, bound⟩
        if message.header.notify ≠ 0 then .ok (none, [report])
        else .ok (some (overLimitResponse message.header.id message.toVec.length bound).toVec,
          [report]) := by
  have whole := addressable
  rw [Message.toVec_length] at whole
  have first : t.Addressable (headerSize + message.query.length) :=
    Nat.lt_of_le_of_lt (Nat.le_add_right _ _) whole
  simp only [frameOutbound, t.addUsize_ok first, t.addUsize_ok whole, Exec.ok_bind,
    ← Message.toVec_length, Message.intoWireBytes_eq t _ message addressable]
  -- Without a limit nothing is checked.
  cases limit with
  | none => rfl
  | some bound =>
    by_cases over_ : bound < message.toVec.length
    · simp only [ClientKind.checkOutbound, Option.filter, over_, decide_true, if_true]
      -- Only a response is replaced.
      by_cases notify : message.header.notify = 0
      · simp only [notify, ne_eq, not_true_eq_false, if_false, Message.intoWireBytes_eq t _ _
          (overLimitResponse_addressable t message.header.id addressable over_), Exec.ok_bind]
        rfl
      · simp only [notify, ne_eq, not_false_eq_true, if_true]
        rfl
    · simp only [ClientKind.checkOutbound, Option.filter, over_, decide_false, if_false]
      rfl

/--
Every message is framed or dropped. A message that fits is framed as it is, and a response is always
answered under its id; but a refused response is replaced by one that is over the limit too, when
the limit leaves no room for the text of the replacement.
-/
theorem frameOutbound_within_limit (limit : Option Nat) {message : Message}
    (addressable : t.Addressable message.toVec.length) :
    ∃ sent reports, frameOutbound t capacity limit message = .ok (sent, reports) ∧
      ((∀ frame ∈ sent, ∀ bound ∈ limit, frame.length ≤ bound) ↔
        ∀ bound ∈ limit, message.toVec.length ≤ bound ∨ message.header.notify ≠ 0 ∨
          replacementLength message.toVec.length bound ≤ bound) ∧
      (message.header.notify = 0 →
        ∃ frame, sent = some frame ∧ (Header.parse frame).id = message.header.id) ∧
      ((∀ bound ∈ limit, message.toVec.length ≤ bound) → sent = some message.toVec) := by
  have carries : ∀ message : Message, (Header.parse message.toVec).id = message.header.id := by
    intro message
    have parsed := message.parse_toVec []
    rw [List.append_nil] at parsed
    rw [parsed]
  rw [frameOutbound_eq t capacity limit addressable]
  cases limit with
  | none => exact ⟨_, _, rfl, by simp, fun _ => ⟨_, rfl, carries message⟩, fun _ => rfl⟩
  | some bound =>
    by_cases over_ : bound < message.toVec.length
    · simp only [Option.filter, over_, decide_true, if_true]
      by_cases notify : message.header.notify = 0
      · -- The replacement has the id, and a length of its own.
        simp only [notify, ne_eq, not_true_eq_false, if_false]
        refine ⟨_, _, rfl, ?_, fun _ => ⟨_, rfl, ?_⟩, fun fits => ?_⟩
        · simp only [Option.mem_some_iff, forall_eq', overLimitResponse_length, Nat.not_le.mpr over_,
            false_or]
        · rw [carries, overLimitResponse_id]
        · exact absurd (fits bound rfl) (Nat.not_le.mpr over_)
      · -- Nothing is sent, and nothing is too long.
        simp only [notify, ne_eq, not_false_eq_true, if_true]
        refine ⟨_, _, rfl, ?_, fun zero => zero.elim, fun fits => ?_⟩
        · simp
        · exact absurd (fits bound rfl) (Nat.not_le.mpr over_)
    · simp only [Option.filter, over_, decide_false]
      refine ⟨_, _, rfl, ?_, fun _ => ⟨_, rfl, carries message⟩, fun _ => rfl⟩
      simp only [Option.mem_some_iff, forall_eq', Nat.not_lt.mp over_, true_or]

def zeros (count : Nat) : Message := MessageBuilder.build { id := 7, body := List.replicate count 0 }

theorem zeros_length (count : Nat) : (zeros count).toVec.length = headerSize + count := by
  rw [Message.toVec_length]
  show headerSize + 0 + (List.replicate count (0 : UInt8)).length = _
  rw [List.length_replicate, Nat.add_zero]

/-- A response over a limit that has room for the replacement is answered within that limit. -/
theorem roomy_limit_kept :
    ∃ frame reports, frameOutbound .release64 List.length (some 200) (zeros 200)
        = .ok (some frame, reports) ∧ frame.length ≤ 200 ∧ (Header.parse frame).id = 7 := by
  -- The frame has 248 bytes, and its replacement fewer than 200.
  have length := zeros_length 200
  obtain ⟨sent, reports, returned, within, answered, _⟩ :=
    @frameOutbound_within_limit .release64 List.length (some 200) (zeros 200)
      (by rw [length]; decide)
  obtain ⟨frame, rfl, carried⟩ := answered rfl
  refine ⟨frame, reports, returned, within.mpr ?_ frame rfl 200 rfl, carried⟩
  rw [length]
  exact fun bound same => .inr (.inr (by cases same; decide))

/-- A response of 49 bytes over a limit of 48 is replaced by a frame of 166 bytes. -/
theorem tight_limit_exceeded :
    ∃ frame reports, frameOutbound .release64 List.length (some 48) (zeros 1)
        = .ok (some frame, reports) ∧ frame.length = 166 := by
  have length := zeros_length 1
  rw [frameOutbound_eq .release64 List.length (some 48) (by rw [length]; decide), length]
  exact ⟨_, _, rfl, by rw [overLimitResponse_length]; decide⟩

end Framing

end Repe
