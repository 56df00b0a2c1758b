import Repe.Lib.Exec
import Repe.Lib.Bytes

/-! Readers that deliver a stream in pieces, and the stream of bytes and faults they deliver. -/

namespace ByteStream

variable {ε σ : Type}

/-- One thing a reader has still to deliver. -/
inductive Item (ε : Type) where
  | byte (value : UInt8)
  /-- A read that fails at this point of the stream, and can be tried again past it. -/
  | fault (error : ε)
  deriving DecidableEq, Repr

/-- The bytes among the items. -/
def bytesOf : List (Item ε) → Bytes
  | [] => []
  | .byte value :: rest => value :: bytesOf rest
  -- A failed read delivers nothing.
  | .fault _ :: rest => bytesOf rest

@[simp] theorem bytesOf_append (front back : List (Item ε)) :
    bytesOf (front ++ back) = bytesOf front ++ bytesOf back := by
  induction front with
  | nil => rfl
  | cons item front ih => cases item <;> simp [bytesOf, ih]

@[simp] theorem bytesOf_map (bytes : Bytes) : bytesOf (bytes.map (Item.byte (ε := ε))) = bytes := by
  induction bytes with
  | nil => rfl
  | cons value bytes ih => simp [bytesOf, ih]

/-- A later point of a stream has no more bytes ahead of it. -/
theorem bytesOf_suffix {after items : List (Item ε)} (suffix : after <:+ items) :
    (bytesOf after).length ≤ (bytesOf items).length := by
  obtain ⟨front, rfl⟩ := suffix
  simp

/-- A stream is a run of bytes, then its end or its first fault. -/
theorem split_at_fault (items : List (Item ε)) :
    (∃ bytes : Bytes, items = bytes.map .byte) ∨
      ∃ (bytes : Bytes) (error : ε) (rest : List (Item ε)),
        items = bytes.map .byte ++ .fault error :: rest := by
  -- The induction carries the run of bytes read so far.
  induction items with
  | nil => exact .inl ⟨[], rfl⟩
  | cons item items ih =>
    cases item with
    | fault error => exact .inr ⟨[], error, items, rfl⟩
    | byte value =>
      -- One more byte joins the run, whatever ends it.
      rcases ih with ⟨bytes, rfl⟩ | ⟨bytes, error, rest, rfl⟩
      · exact .inl ⟨value :: bytes, rfl⟩
      · exact .inr ⟨value :: bytes, error, rest, rfl⟩

/--
Take exactly `count` bytes off the front of a stream.

A fault or the end of the stream fails the call, and the bytes taken before it are gone.
-/
def takeExact (eof : ε) : Nat → Proc (List (Item ε)) ε Bytes
  | 0, items => (.ok [], items)
  -- The end of the stream does not move.
  | _ + 1, [] => (.err eof, [])
  -- A fault is reported once, and the stream goes on behind it.
  | _ + 1, .fault error :: rest => (.err error, rest)
  | count + 1, .byte value :: rest =>
    -- A byte taken before a failure is not put back.
    match takeExact eof count rest with
    | (.ok taken, after) => (.ok (value :: taken), after)
    | (.err error, after) => (.err error, after)
    | (.panic, after) => (.panic, after)

variable (eof : ε)

/-- The bytes in front of a fault or of the end are taken whole when there are enough of them. -/
theorem takeExact_bytes (bytes : Bytes) (rest : List (Item ε)) :
    takeExact eof bytes.length (bytes.map .byte ++ rest) = (.ok bytes, rest) := by
  -- One byte is taken in each step.
  induction bytes with
  | nil => rfl
  | cons value bytes ih => simp [takeExact, ih]

/-- Taking returns exactly when the stream starts with that many bytes in a row. -/
theorem takeExact_ok {count : Nat} {items after : List (Item ε)} {taken : Bytes} :
    takeExact eof count items = (.ok taken, after) ↔
      taken.length = count ∧ items = taken.map .byte ++ after := by
  constructor
  · -- Each byte counted is the next item of the stream.
    intro returned
    induction count generalizing items taken with
    | zero =>
      cases returned
      exact ⟨rfl, rfl⟩
    | succ count ih =>
      rcases items with _ | ⟨value | error, rest⟩
      · simp [takeExact] at returned
      · rw [takeExact] at returned
        rcases run : takeExact eof count rest with ⟨_ | _ | _, between⟩ <;> rw [run] at returned
        · cases returned
          obtain ⟨length, split⟩ := ih run
          exact ⟨by simp [length], by simp [split]⟩
        · cases returned
        · cases returned
      · simp [takeExact] at returned
  · rintro ⟨rfl, rfl⟩
    exact takeExact_bytes eof taken after

/-- A block of bytes in front of the stream is taken first. -/
theorem takeExact_append (bytes : Bytes) (count : Nat) (rest : List (Item ε)) :
    takeExact eof (bytes.length + count) (bytes.map .byte ++ rest)
      = (takeExact eof count >>= fun taken => pure (bytes ++ taken)) rest := by
  -- Each byte of the block is put in front of what the rest of the call returns.
  induction bytes with
  | nil =>
    rw [Proc.bind_run]
    rcases run : takeExact eof count rest with ⟨_ | _ | _, after⟩ <;> simp [run, Proc.pure_run]
  | cons value bytes ih =>
    rw [List.length_cons, Nat.succ_add, List.map_cons, List.cons_append, takeExact, ih,
      Proc.bind_run, Proc.bind_run]
    rcases run : takeExact eof count rest with ⟨_ | _ | _, after⟩ <;> simp [Proc.pure_run]

/-- The stream stops here: any further byte asked for fails with this error and leaves the rest. -/
def Stops (items : List (Item ε)) (error : ε) (rest : List (Item ε)) : Prop :=
  ∀ count, takeExact eof (count + 1) items = (.err error, rest)

/-- The end of a stream stops it with the end-of-file error. -/
theorem stops_nil : Stops eof [] eof [] := fun _ => rfl

/-- A fault stops a stream, which goes on behind it. -/
theorem stops_fault (error : ε) (rest : List (Item ε)) :
    Stops eof (.fault error :: rest) error rest := fun _ => rfl

/-- Too few bytes before the stream stops fail the call, and those bytes are lost. -/
theorem takeExact_stops {count : Nat} {bytes : Bytes} {items rest : List (Item ε)} {error : ε}
    (short : bytes.length < count) (stops : Stops eof items error rest) :
    takeExact eof count (bytes.map .byte ++ items) = (.err error, rest) := by
  -- The missing part of the count is asked for where the stream stops.
  obtain ⟨missing, rfl⟩ : ∃ missing, count = bytes.length + (missing + 1) :=
    ⟨count - bytes.length - 1, by omega⟩
  rw [takeExact_append, Proc.bind_run_err (stops missing)]

/-- Taking bytes leaves a later point of the stream. -/
theorem takeExact_suffix (count : Nat) (items : List (Item ε)) :
    (takeExact eof count items).2 <:+ items := by
  -- Every branch continues behind the item it has looked at.
  induction count generalizing items with
  | zero => exact List.suffix_refl items
  | succ count ih =>
    rcases items with _ | ⟨value | error, rest⟩
    · exact List.suffix_refl []
    · have moved := ih rest
      rw [takeExact]
      rcases run : takeExact eof count rest with ⟨_ | _ | _, after⟩ <;> rw [run] at moved <;>
        exact moved.trans (List.suffix_cons _ _)
    · exact List.suffix_cons _ _

/-- A call that only moves forward in the stream. -/
def Forward {α ε' : Type} (call : Proc (List (Item ε)) ε' α) : Prop :=
  ∀ items, (call items).2 <:+ items

namespace Forward

variable {α β ε' : Type}

/-- A call that reads nothing stays where it is. -/
theorem lift (call : Exec ε' α) : Forward (Proc.lift call : Proc (List (Item ε)) ε' α) :=
  fun items => List.suffix_refl items

/-- A sequence of forward moves is one. -/
theorem bind {first : Proc (List (Item ε)) ε' α} {next : α → Proc (List (Item ε)) ε' β}
    (head : Forward first) (tail : ∀ value, Forward (next value)) : Forward (first >>= next) := by
  -- The second call starts where the first one stopped.
  intro items
  have moved := head items
  rw [Proc.bind_run]
  rcases run : first items with ⟨value | _ | _, after⟩ <;> rw [run] at moved
  · exact (tail value after).trans moved
  · exact moved
  · exact moved

/-- How an error is reported does not change what was read. -/
theorem mapErr {wrap : ε → ε'} {call : Proc (List (Item ε)) ε α} (forward : Forward call) :
    Forward (call.mapErr wrap) := by
  -- The three outcomes leave the stream where the call left it.
  intro items
  have moved := forward items
  rw [Proc.mapErr]
  rcases run : call items with ⟨_ | _ | _, after⟩ <;> rw [run] at moved <;> exact moved

end Forward

/-- Something read from in pieces, such as a socket. -/
structure Reader (ε σ : Type) where
  /-- One read into a buffer of the given length; no bytes mean the end of the stream. -/
  read : Nat → Proc σ ε Bytes

namespace Reader

/--
The reader delivers the stream ahead of its state, cut into pieces of its own choosing.

A read into a non-empty buffer returns at least one byte and at most as many as fit, or reports the
fault in front of it, or finds the end of the stream.
-/
def Delivers (reader : Reader ε σ) (ahead : σ → List (Item ε)) : Prop :=
  ∀ len state, 0 < len →
    (∃ chunk after, chunk ≠ [] ∧ chunk.length ≤ len ∧ reader.read len state = (.ok chunk, after)
        ∧ ahead state = chunk.map .byte ++ ahead after) ∨
      (∃ error after, reader.read len state = (.err error, after)
        ∧ ahead state = .fault error :: ahead after) ∨
      (∃ after, reader.read len state = (.ok [], after) ∧ ahead state = [] ∧ ahead after = [])

end Reader

/--
Read until a buffer is full: the loop behind every `read_exact`.

Each round takes at least one byte, so a buffer is full after as many rounds as it has bytes.
-/
def fill (eof : ε) (reader : Reader ε σ) : Nat → Nat → Proc σ ε Bytes
  | 0, _ => pure []
  | rounds + 1, wanted =>
    -- A full buffer needs no further read.
    if wanted = 0 then pure []
    else do
      let chunk ← reader.read wanted
      -- An empty read before the buffer is full is the end of the stream.
      if chunk = [] then Proc.lift (.err eof)
      -- A reader that claims more than the buffer holds is indexed out of range.
      else if wanted < chunk.length then Proc.lift .panic
      else
        let rest ← fill eof reader rounds (wanted - chunk.length)
        return chunk ++ rest

/-- However a reader cuts its stream, filling a buffer takes exactly that many bytes off it. -/
theorem fill_refines {reader : Reader ε σ} {ahead : σ → List (Item ε)}
    (delivers : reader.Delivers ahead) (keep : ε → Prop) {rounds wanted : Nat}
    (enough : wanted ≤ rounds) :
    Proc.Refines keep ahead (fill eof reader rounds wanted) (takeExact eof wanted) := by
  -- The induction is on the rounds left, which bound the bytes still wanted.
  induction rounds generalizing wanted with
  | zero =>
    obtain rfl : wanted = 0 := Nat.le_zero.mp enough
    exact Proc.Refines.pure []
  | succ rounds ih =>
    rw [fill]
    split
    · rename_i done
      rw [done]
      exact Proc.Refines.pure []
    · rename_i positive
      intro state
      -- One read takes a chunk, reports a fault, or finds the end; the stream does the same.
      rcases delivers wanted state (Nat.pos_of_ne_zero positive) with
        ⟨chunk, after, some, fits, run, split⟩ | ⟨error, after, run, split⟩ | ⟨after, run, split, done⟩
      · have length : 0 < chunk.length := List.length_pos_iff.mpr some
        obtain ⟨left, rfl⟩ : ∃ left, wanted = chunk.length + left := ⟨wanted - chunk.length, by omega⟩
        have step : Proc.Refines keep ahead
            (fill eof reader rounds left >>= fun rest => pure (chunk ++ rest))
            (takeExact eof left >>= fun rest => pure (chunk ++ rest)) :=
          Proc.Refines.bind (ih (by omega)) fun _ => Proc.Refines.pure _
        rw [Proc.bind_run_ok run, split, takeExact_append]
        simp only [some, if_false, Nat.not_lt.mpr (Nat.le_add_right chunk.length left),
          Nat.add_sub_cancel_left]
        exact step after
      · -- The fault in front of the reader is the fault in front of the stream.
        obtain ⟨left, rfl⟩ := Nat.exists_eq_succ_of_ne_zero positive
        rw [Proc.bind_run_err run, split]
        exact ⟨rfl, fun _ _ => rfl⟩
      · -- An empty read means an empty stream.
        obtain ⟨left, rfl⟩ := Nat.exists_eq_succ_of_ne_zero positive
        rw [Proc.bind_run_ok run, split]
        exact ⟨rfl, fun _ _ => done⟩

/-- What the peer and the operating system do next on a socket. -/
inductive Arrival (ε : Type) where
  | data (first : UInt8) (more : Bytes)
  | fault (error : ε)
  deriving DecidableEq, Repr

/-- The items one arrival contributes to the stream. -/
def Arrival.items : Arrival ε → List (Item ε)
  | .data first more => (first :: more).map .byte
  | .fault error => [.fault error]

/-- The stream a schedule of arrivals delivers. -/
def arriving (schedule : List (Arrival ε)) : List (Item ε) :=
  schedule.flatMap Arrival.items

/-- Socket reads served from a schedule, whose end is the end of the stream. -/
def socket : Reader ε (List (Arrival ε)) where
  read
    -- A schedule that is used up is a closed connection.
    | _, [] => (.ok [], [])
    | _, .fault error :: rest => (.err error, rest)
    | len, .data first more :: rest =>
      -- A buffer shorter than what has arrived leaves the rest for the next read.
      (.ok ((first :: more).take len),
        match (first :: more).drop len with
        | [] => rest
        | next :: others => .data next others :: rest)

/-- A socket delivers its schedule. -/
theorem socket_delivers : (socket (ε := ε)).Delivers arriving := by
  intro len schedule positive
  rcases schedule with _ | ⟨⟨first, more⟩ | error, rest⟩
  · exact .inr (.inr ⟨[], rfl, rfl, rfl⟩)
  · -- What is taken and what is left over join into the data that arrived.
    obtain ⟨len, rfl⟩ := Nat.exists_eq_succ_of_ne_zero (Nat.ne_of_gt positive)
    refine .inl ⟨(first :: more).take (len + 1), _, by simp, ?_, rfl, ?_⟩
    · exact List.length_take_le _ _
    · have whole := List.take_append_drop (len + 1) (first :: more)
      cases left : (first :: more).drop (len + 1) with
      | nil =>
        rw [left, List.append_nil] at whole
        simp [arriving, Arrival.items, whole]
      | cons next others =>
        rw [left] at whole
        have mapped := congrArg (List.map (Item.byte (ε := ε))) whole
        rw [List.map_append] at mapped
        simp only [arriving, Arrival.items, List.flatMap_cons]
        rw [← mapped, List.append_assoc]
  · exact .inr (.inl ⟨error, rest, rfl, rfl⟩)

/--
`BufReader` over a reader: a read is served from the buffer, which is filled when it is empty.

A read at least as large as the buffer goes straight to the inner reader.
-/
def buffered (inner : Reader ε σ) (capacity : Nat) : Reader ε (Bytes × σ) where
  read len
    | ([], state) =>
      -- A read this large would gain nothing from the buffer.
      if capacity ≤ len then
        match inner.read len state with
        | (outcome, after) => (outcome, [], after)
      else match inner.read capacity state with
        | (.ok filled, after) => (.ok (filled.take len), filled.drop len, after)
        | (.err error, after) => (.err error, [], after)
        | (.panic, after) => (.panic, [], after)
    | (buffer, state) => (.ok (buffer.take len), buffer.drop len, state)

/-- The buffer in front of a reader is the front of the stream that reader delivers. -/
theorem buffered_delivers {inner : Reader ε σ} {ahead : σ → List (Item ε)} (capacity : Nat)
    (delivers : inner.Delivers ahead) :
    (buffered inner capacity).Delivers fun state => state.1.map .byte ++ ahead state.2 := by
  rintro len ⟨_ | ⟨first, buffer⟩, state⟩ positive
  · by_cases large : capacity ≤ len
    · -- The buffer is bypassed, and stays empty.
      rcases delivers len state positive with
        ⟨chunk, after, some, fits, run, split⟩ | ⟨error, after, run, split⟩ | ⟨after, run, split, done⟩
      · exact .inl ⟨chunk, ([], after), some, fits, by simp [buffered, large, run], by simp [split]⟩
      · exact .inr (.inl ⟨error, ([], after), by simp [buffered, large, run], by simp [split]⟩)
      · exact .inr (.inr ⟨([], after), by simp [buffered, large, run], by simp [split], by simp [done]⟩)
    · -- The buffer is filled first, and what does not fit the read stays in it.
      rcases delivers capacity state (by omega) with
        ⟨chunk, after, some, fits, run, split⟩ | ⟨error, after, run, split⟩ | ⟨after, run, split, done⟩
      · refine .inl ⟨chunk.take len, (chunk.drop len, after), ?_, List.length_take_le _ _, ?_, ?_⟩
        · simp [some, Nat.ne_of_gt positive]
        · simp [buffered, large, run]
        · simp only [List.map_nil, List.nil_append, split]
          rw [← List.append_assoc, ← List.map_append, List.take_append_drop]
      · exact .inr (.inl ⟨error, ([], after), by simp [buffered, large, run], by simp [split]⟩)
      · exact .inr (.inr ⟨([], after), by simp [buffered, large, run], by simp [split], by simp [done]⟩)
  · -- A buffer with bytes in it serves the read without touching the inner reader.
    refine .inl ⟨(first :: buffer).take len, ((first :: buffer).drop len, state), ?_,
      List.length_take_le _ _, rfl, ?_⟩
    · simp [Nat.ne_of_gt positive]
    · simp only
      rw [← List.append_assoc, ← List.map_append, List.take_append_drop]

end ByteStream
