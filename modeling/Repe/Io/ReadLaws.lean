import Repe.Io.Read
import Repe.Wire.MessageLaws

/-! Every reader takes whole frames off the stream, however the stream is cut into reads. -/

namespace Repe

open ByteStream

variable {σ : Type}

/-- The bytes ahead of a reader: what arrives on the connection, and the faults in between. -/
abbrev Incoming := List (Item IoError)

def framesOf (messages : List Message) : Bytes :=
  messages.flatMap Message.toVec

@[simp] theorem framesOf_cons (message : Message) (messages : List Message) :
    framesOf (message :: messages) = message.toVec ++ framesOf messages :=
  List.flatMap_cons

@[simp] theorem framesOf_append (front back : List Message) :
    framesOf (front ++ back) = framesOf front ++ framesOf back :=
  List.flatMap_append

/-- The stream-level `read_exact`, under the error type of the crate. -/
def exactBytes (eof : IoError) (wanted : Nat) : Proc Incoming RepeError Bytes :=
  (takeExact eof wanted).mapErr .io

section Stream

variable (t : Target) (eof : IoError)

theorem exactBytes_ok {wanted : Nat} {items after : Incoming} {taken : Bytes} :
    exactBytes eof wanted items = (.ok taken, after) ↔
      taken.length = wanted ∧ items = taken.map .byte ++ after := by
  rw [exactBytes, Proc.mapErr_run_eq_ok, takeExact_ok]

theorem exactBytes_stops {wanted : Nat} {bytes : Bytes} {items rest : Incoming} {error : IoError}
    (short : bytes.length < wanted) (stops : Stops eof items error rest) :
    exactBytes eof wanted (bytes.map .byte ++ items) = (.err (.io error), rest) := by
  rw [exactBytes, Proc.mapErr, takeExact_stops eof short stops]

theorem readPart_run {exactly : Nat → Proc σ RepeError Bytes} {wanted : Nat}
    (room : wanted ≤ t.isizeMax) :
    readPart t exactly wanted = if wanted = 0 then pure [] else exactly wanted := by
  funext state
  rw [readPart, Proc.bind_run_ok (Proc.lift_run _ _ |>.trans (by rw [t.allocate_ok room]))]

/-- A part takes its own bytes, and none when it is empty. -/
theorem readPart_ok {wanted : Nat} {items after : Incoming} {taken : Bytes} :
    readPart t (exactBytes eof) wanted items = (.ok taken, after) ↔
      wanted ≤ t.isizeMax ∧ taken.length = wanted ∧ items = taken.map .byte ++ after := by
  by_cases room : wanted ≤ t.isizeMax
  swap
  · -- Without room for it the call unwinds.
    simp [readPart, Proc.bind_run_eq_ok, Proc.lift_run, t.allocate_eq_ok, room]
  rw [readPart_run t room, and_iff_right room]
  split
  · -- Zero bytes are taken off any stream.
    rename_i empty
    rw [empty, Proc.pure_run]
    constructor
    · rintro ⟨⟩
      exact ⟨rfl, rfl⟩
    · rintro ⟨length, rfl⟩
      rw [List.length_eq_zero_iff.mp length]
      rfl
  · exact exactBytes_ok eof

theorem readPart_stops {wanted : Nat} {bytes : Bytes} {items rest : Incoming} {error : IoError}
    (room : wanted ≤ t.isizeMax) (short : bytes.length < wanted)
    (stops : Stops eof items error rest) :
    readPart t (exactBytes eof) wanted (bytes.map .byte ++ items) = (.err (.io error), rest) := by
  -- Something was wanted, so the reader is called.
  rw [readPart_run t room, if_neg (Nat.ne_of_gt (Nat.zero_lt_of_lt short))]
  exact exactBytes_stops eof short stops

theorem decode_encode {header : Header} (valid : header.Valid t) :
    Header.decode t header.encode = .ok header := by
  have parsed := Header.parse_encode header []
  rw [List.append_nil] at parsed
  exact (Header.decode_ok t).mpr ⟨by simp, parsed.symm, valid⟩

theorem encode_of_decode {bytes : Bytes} {header : Header} (width : bytes.length = headerSize)
    (decoded : Header.decode t bytes = .ok header) : header.encode = bytes ∧ header.Valid t := by
  -- The decoder looks at the 48 bytes only, and they are all there is.
  obtain ⟨enough, rfl, valid⟩ := (Header.decode_ok t).mp decoded
  exact ⟨by rw [Header.encode_parse enough, ← width, List.take_length], valid⟩

/-- A valid header's lengths fit `usize`, so casting them loses nothing. -/
theorem asUsize_lengths {header : Header} (valid : header.Valid t) :
    t.asUsize header.queryLength = header.queryLength.toNat ∧
      t.asUsize header.bodyLength = header.bodyLength.toNat := by
  -- Each length is at most the total, which the decoder has bounded.
  have fits : header.total < 2 ^ t.usizeBits := valid.representable.2
  simp only [Header.total] at fits
  exact ⟨t.asUsize_eq (show _ < _ by omega), t.asUsize_eq (show _ < _ by omega)⟩

/--
A call takes one frame off the stream and returns its message.

It returns exactly when the stream starts with a well-formed frame that it has room for, and takes that
frame and nothing more.
It reports whatever stops the stream inside a frame, and never moves back in the stream.
-/
structure ReadsFrames (room : Message → Prop) (read : Proc Incoming RepeError Message) : Prop where
  whole : ∀ {items after message}, read items = (.ok message, after) ↔
    (message.WellFormed t ∧ room message) ∧ items = message.toVec.map .byte ++ after
  -- The bytes of the frame before the stop are lost to the next call.
  inside : ∀ {message : Message} {part lost items rest error}, message.WellFormed t →
    room message → part ++ lost = message.toVec → lost ≠ [] → Stops eof items error rest →
    read (part.map .byte ++ items) = (.err (.io error), rest)
  forward : Forward read

/-- A message whose query and body are vectors: each of them has room. -/
def Message.InVectors (message : Message) : Prop :=
  message.query.length ≤ t.isizeMax ∧ message.body.length ≤ t.isizeMax

def Message.InBuffer (message : Message) : Prop := message.toVec.length ≤ t.isizeMax

instance (message : Message) : Decidable (message.InVectors t) :=
  inferInstanceAs (Decidable (_ ∧ _))

instance (message : Message) : Decidable (message.InBuffer t) := inferInstanceAs (Decidable (_ ≤ _))

theorem Message.InBuffer.inVectors {message : Message} (held : message.InBuffer t) :
    message.InVectors t := by
  rw [InBuffer, Message.toVec_length] at held
  exact ⟨by omega, by omega⟩

theorem new_ok {header : Header} {query body : Bytes} {message : Message}
    (queryLength : query.length = header.queryLength.toNat)
    (bodyLength : body.length = header.bodyLength.toNat) :
    Message.new t header query body = .ok message ↔ message = ⟨header, query, body⟩ := by
  simp [Message.new, queryLength, bodyLength, UInt64.ofNat_toNat, eq_comm]

/-- Reading header, query, and body in turn takes exactly a well-formed frame. -/
theorem readOwned_whole {items after : Incoming} {message : Message} :
    readOwned t (exactBytes eof) items = (.ok message, after) ↔
      (message.WellFormed t ∧ message.InVectors t) ∧ items = message.toVec.map .byte ++ after := by
  simp only [readOwned, Proc.bind_run_eq_ok, exactBytes_ok, readPart_ok, Proc.lift_run,
    Prod.mk.injEq]
  constructor
  · -- What was taken is the header, then the advertised number of bytes twice.
    rintro ⟨bytes, _, ⟨width, rfl⟩, header, _, ⟨decoded, rfl⟩, query, _, ⟨queryRoom, queryWidth, rfl⟩,
      body, _, ⟨bodyRoom, bodyWidth, rfl⟩, built, rfl⟩
    obtain ⟨rfl, valid⟩ := encode_of_decode t width decoded
    rw [← queryWidth] at queryRoom
    rw [← bodyWidth] at bodyRoom
    rw [(asUsize_lengths t valid).1] at queryWidth
    rw [(asUsize_lengths t valid).2] at bodyWidth
    obtain rfl := (new_ok t queryWidth bodyWidth).mp built
    refine ⟨⟨⟨valid.spec, queryWidth.symm, bodyWidth.symm, ?_, ?_⟩, queryRoom, bodyRoom⟩, ?_⟩
    · rw [valid.length, Header.total, queryWidth, bodyWidth]
    · rw [Message.toVec_length, queryWidth, bodyWidth]
      exact valid.representable.2
    · simp [Message.toVec_eq]
  · -- A frame in front of the stream answers the four reads in turn.
    rintro ⟨⟨wellFormed, held⟩, rfl⟩
    have valid := wellFormed.valid t
    have queryWidth : t.asUsize message.header.queryLength = message.query.length := by
      rw [(asUsize_lengths t valid).1, wellFormed.queryLength]
    have bodyWidth : t.asUsize message.header.bodyLength = message.body.length := by
      rw [(asUsize_lengths t valid).2, wellFormed.bodyLength]
    refine ⟨message.header.encode, _, ⟨by simp, ?_⟩, message.header, _,
      ⟨decode_encode t valid, rfl⟩, message.query, _, ⟨?_, queryWidth.symm, rfl⟩, message.body, _,
      ⟨?_, bodyWidth.symm, rfl⟩, ?_, rfl⟩
    · rw [Message.toVec_eq]
      simp only [List.map_append, List.append_assoc]
    · exact queryWidth ▸ held.1
    · exact bodyWidth ▸ held.2
    · exact (new_ok t wellFormed.queryLength.symm wellFormed.bodyLength.symm).mpr rfl

/-- Reading header, query, and body in turn reports what stops the stream inside any of them. -/
theorem readOwned_inside {message : Message} {part lost : Bytes} {items rest : Incoming}
    {error : IoError} (wellFormed : message.WellFormed t) (held : message.InVectors t)
    (split : part ++ lost = message.toVec) (missing : lost ≠ [])
    (stops : Stops eof items error rest) :
    readOwned t (exactBytes eof) (part.map .byte ++ items) = (.err (.io error), rest) := by
  -- Walk over the parts that are whole until the one where the stream stops.
  have valid := wellFormed.valid t
  rw [Message.toVec_eq, List.append_assoc] at split
  rw [readOwned]
  rcases append_cut split with ⟨left, some, front⟩ | ⟨past, rfl, behind⟩
  · -- The stream stops inside the header.
    have short := length_lt_of_missing front some
    rw [Header.encode_length] at short
    exact Proc.bind_run_err (exactBytes_stops eof short stops)
  rw [Proc.bind_run_ok ((exactBytes_ok eof).mpr ⟨Header.encode_length _, by simp; rfl⟩),
    decode_encode t valid, Proc.bind_run_ok (Proc.lift_run _ _), (asUsize_lengths t valid).1,
    (asUsize_lengths t valid).2, wellFormed.queryLength, wellFormed.bodyLength]
  rcases append_cut behind with ⟨left, some, front⟩ | ⟨inner, rfl, left⟩
  · -- The stream stops inside the query.
    exact Proc.bind_run_err
      (readPart_stops t eof held.1 (length_lt_of_missing front some) stops)
  rw [Proc.bind_run_ok ((readPart_ok t eof).mpr ⟨held.1, rfl, by simp; rfl⟩)]
  -- Something is missing, so the stream stops inside the body.
  exact Proc.bind_run_err (readPart_stops t eof held.2 (length_lt_of_missing left missing) stops)

theorem exactBytes_forward (wanted : Nat) : Forward (exactBytes eof wanted) :=
  .mapErr (takeExact_suffix eof wanted)

theorem readPart_forward (wanted : Nat) : Forward (readPart t (exactBytes eof) wanted) := by
  refine .bind (.lift _) fun _ => ?_
  -- An empty part is not read at all.
  split
  · exact .lift _
  · exact exactBytes_forward eof wanted

theorem readOwned_reads :
    ReadsFrames t eof (Message.InVectors t) (readOwned t (exactBytes eof)) where
  whole := readOwned_whole t eof
  inside := readOwned_inside t eof
  forward := .bind (exactBytes_forward eof _) fun _ => .bind (.lift _) fun _ =>
    .bind (readPart_forward t eof _) fun _ => .bind (readPart_forward t eof _) fun _ => .lift _

/-- Once a valid header is decoded, one more read completes the frame, if there is room for it. -/
theorem readInto_rest {header : Header} (valid : header.Valid t) (items : Incoming) :
    readInto t (exactBytes eof) (header.encode.map .byte ++ items)
      = (Proc.lift (t.allocate header.total) >>= fun _ =>
          exactBytes eof (header.queryLength.toNat + header.bodyLength.toNat) >>= fun rest =>
          pure (header.encode ++ rest)) items := by
  -- The sums were bounded with the total, so none of them wraps.
  have fits : header.total < 2 ^ t.usizeBits := valid.representable.2
  have total : header.total
      = headerSize + header.queryLength.toNat + header.bodyLength.toNat := rfl
  have first : t.Addressable (headerSize + header.queryLength.toNat) :=
    show _ < _ by omega
  rw [readInto, Proc.bind_run_ok ((exactBytes_ok eof).mpr ⟨Header.encode_length _, rfl⟩),
    decode_encode t valid, Proc.bind_run_ok (Proc.lift_run _ _), (asUsize_lengths t valid).1,
    (asUsize_lengths t valid).2, t.addUsize_ok first, Proc.bind_run_ok (Proc.lift_run _ _),
    t.addUsize_ok valid.representable.2, Proc.bind_run_ok (Proc.lift_run _ _), ← total]
  by_cases room : header.total ≤ t.isizeMax
  · rw [t.allocate_ok room, Proc.bind_run_ok (Proc.lift_run _ _), Proc.bind_run_ok (Proc.lift_run _ _),
      if_neg (by omega), total, Nat.add_assoc, Nat.add_sub_cancel_left]
  · -- Without room both sides unwind before the second read.
    rw [Target.allocate, if_neg room]
    rfl

theorem readInto_room {header : Header} (valid : header.Valid t) (room : header.total ≤ t.isizeMax)
    (items : Incoming) :
    readInto t (exactBytes eof) (header.encode.map .byte ++ items)
      = (exactBytes eof (header.queryLength.toNat + header.bodyLength.toNat) >>= fun rest =>
          pure (header.encode ++ rest)) items := by
  rw [readInto_rest t eof valid, t.allocate_ok room, Proc.bind_run_ok (Proc.lift_run _ _)]

/-- The buffer is what was taken off the stream, and as long as its own header says. -/
theorem readInto_ok {items after : Incoming} {buf : Bytes}
    (read : readInto t (exactBytes eof) items = (.ok buf, after)) :
    buf.length = (Header.parse buf).total ∧ buf.length ≤ t.isizeMax ∧
      items = buf.map .byte ++ after := by
  -- The buffer is the header that was decoded, followed by the one block after it.
  obtain ⟨bytes, past, taken, more⟩ := Proc.bind_run_eq_ok.mp read
  obtain ⟨header, _, lifted, _⟩ := Proc.bind_run_eq_ok.mp more
  obtain ⟨width, rfl⟩ := (exactBytes_ok eof).mp taken
  obtain ⟨rfl, valid⟩ := encode_of_decode t width (congrArg Prod.fst lifted)
  rw [readInto_rest t eof valid] at read
  obtain ⟨_, _, allocated, read⟩ := Proc.bind_run_eq_ok.mp read
  obtain ⟨given, rfl⟩ := Prod.mk.inj allocated
  have room := t.allocate_eq_ok.mp given
  obtain ⟨rest, _, taken, built⟩ := Proc.bind_run_eq_ok.mp read
  obtain ⟨restWidth, rfl⟩ := (exactBytes_ok eof).mp taken
  cases built
  have long : (header.encode ++ rest).length = header.total := by
    rw [List.length_append, Header.encode_length, restWidth, Header.total, Nat.add_assoc]
  refine ⟨?_, ?_, ?_⟩
  · rw [Header.parse_encode, long]
  · rw [long]
    exact room
  · rw [List.map_append, List.append_assoc]

theorem readView_parse {message : Message} (wellFormed : message.WellFormed t) :
    MessageView.fromSlice t message.toVec
      = .ok ⟨message.header, message.query, message.body⟩ := by
  -- The view has the parts of the owned message.
  have sliced := Message.fromSlice_toVec t wellFormed []
  rw [List.append_nil] at sliced
  exact (MessageView.fromSlice_ok t).mpr sliced

/-- Reading into a buffer takes frames off the stream, and parsing the buffer returns them. -/
theorem readInto_reads :
    ReadsFrames t eof (Message.InBuffer t) (readView t (readInto t (exactBytes eof))) where
  whole := by
    intro items after message
    constructor
    · intro returned
      simp only [readView, Proc.bind_run_eq_ok, Proc.lift_run, Proc.pure_run, Prod.mk.injEq]
        at returned
      obtain ⟨buf, _, read, view, _, ⟨parsed, rfl⟩, built, rfl⟩ := returned
      have parsed := (MessageView.fromSlice_ok t).mp parsed
      rw [Exec.ok.inj built] at parsed
      obtain ⟨whole, room, rfl⟩ := readInto_ok t eof read
      -- The buffer is as long as its header says, so the parsed message is all of it.
      obtain ⟨enough, valid, inside, rfl⟩ := (Message.fromSlice_ok t).mp parsed
      have all := Message.toVec_carve enough
      rw [← whole, List.take_length] at all
      exact ⟨⟨Message.carve_wellFormed t valid inside, show _ ≤ _ from all.symm ▸ room⟩, by rw [all]⟩
    · -- The frame is read into the buffer whole, and parsing it cannot fail.
      rintro ⟨⟨wellFormed, held⟩, rfl⟩
      have valid := wellFormed.valid t
      have read : readInto t (exactBytes eof) (message.toVec.map .byte ++ after)
          = (.ok message.toVec, after) := by
        rw [Message.toVec_eq, List.append_assoc, List.map_append, List.append_assoc,
          readInto_room t eof valid (wellFormed.total_eq t ▸ held)]
        refine Proc.bind_run_eq_ok.mpr ⟨message.query ++ message.body, after, ?_, rfl⟩
        refine (exactBytes_ok eof).mpr ⟨?_, rfl⟩
        rw [List.length_append, wellFormed.queryLength, wellFormed.bodyLength]
      rw [readView, Proc.bind_run_ok read, readView_parse t wellFormed]
      rfl
  inside := by
    intro message part lost items rest error wellFormed held split missing stops
    rw [Message.toVec_eq, List.append_assoc] at split
    refine Proc.bind_run_err ?_
    rcases append_cut split with ⟨left, some, front⟩ | ⟨past, rfl, behind⟩
    · -- The stream stops inside the header.
      have short := length_lt_of_missing front some
      rw [Header.encode_length] at short
      exact Proc.bind_run_err (exactBytes_stops eof short stops)
    · -- The stream stops inside the query and body, which are read as one block.
      rw [List.map_append, List.append_assoc,
        readInto_room t eof (wellFormed.valid t) (wellFormed.total_eq t ▸ held)]
      have short := length_lt_of_missing behind missing
      rw [List.length_append, ← wellFormed.queryLength, ← wellFormed.bodyLength] at short
      exact Proc.bind_run_err (exactBytes_stops eof short stops)
  forward := by
    refine .bind (.bind (exactBytes_forward eof _) fun _ => .bind (.lift _) fun _ =>
      .bind (.lift _) fun _ => .bind (.lift _) fun total => .bind (.lift _) fun _ => ?_) fun _ =>
        .bind (.lift _) fun _ => .lift _
    -- Neither branch of the length test moves back.
    by_cases short : total < headerSize
    · simp only [short, if_true]
      exact .lift _
    · simp only [short, if_false]
      exact .bind (exactBytes_forward eof _) fun _ => .lift _

end Stream

section Refinement

variable (t : Target) {keep : RepeError → Prop} {ahead : σ → Incoming}
  {exactly : Nat → Proc σ RepeError Bytes} {exactly' : Nat → Proc Incoming RepeError Bytes}

theorem readPart_refines
    (same : ∀ wanted, Proc.Refines keep ahead (exactly wanted) (exactly' wanted)) (len : Nat) :
    Proc.Refines keep ahead (readPart t exactly len) (readPart t exactly' len) := by
  -- Both sides skip the empty part, or both read it.
  refine .bind (.lift _) fun _ => ?_
  split
  · exact Proc.Refines.pure []
  · exact same len

theorem readOwned_refines
    (same : ∀ wanted, Proc.Refines keep ahead (exactly wanted) (exactly' wanted)) :
    Proc.Refines keep ahead (readOwned t exactly) (readOwned t exactly') :=
  .bind (same _) fun _ => .bind (.lift _) fun _ => .bind (readPart_refines t same _) fun _ =>
    .bind (readPart_refines t same _) fun _ => .lift _

/-- Reading into a buffer depends on the stream only through `read_exact`. -/
theorem readInto_refines
    (same : ∀ wanted, Proc.Refines keep ahead (exactly wanted) (exactly' wanted)) :
    Proc.Refines keep ahead (readInto t exactly) (readInto t exactly') := by
  -- Everything between the two reads leaves the state alone.
  refine .bind (same _) fun _ => .bind (.lift _) fun _ => .bind (.lift _) fun _ =>
    .bind (.lift _) fun total => .bind (.lift _) fun _ => ?_
  by_cases short : total < headerSize
  · simp only [short, if_true]
    exact .lift _
  · simp only [short, if_false]
    exact .bind (same _) fun _ => .pure _

theorem readView_refines {frame : Proc σ RepeError Bytes} {frame' : Proc Incoming RepeError Bytes}
    (same : Proc.Refines keep ahead frame frame') :
    Proc.Refines keep ahead (readView t frame) (readView t frame') :=
  .bind same fun _ => .bind (.lift _) fun _ => .pure _

theorem readExact_refines {reader : Reader IoError σ} (delivers : reader.Delivers ahead)
    (wanted : Nat) :
    Proc.Refines keep ahead (readExact reader wanted) (exactBytes .unexpectedEof wanted) :=
  .mapErr (fill_refines .unexpectedEof delivers (fun error => keep (.io error)) (Nat.le_refl wanted))
    fun _ kept => kept

end Refinement

section Runs

variable {ε α : Type} (t : Target) {eof : IoError} {room : Message → Prop}
  {read : Proc Incoming RepeError Message}

def calls (read : Proc σ ε α) : Nat → Proc σ ε (List α)
  | 0 => pure []
  | count + 1 => do
    let first ← read
    -- A failed call ends the sequence.
    let others ← calls read count
    return first :: others

/-- One call per message returns the messages of the stream in order, and leaves the rest of it. -/
theorem ReadsFrames.calls_whole (reads : ReadsFrames t eof room read) {messages : List Message}
    (held : ∀ message ∈ messages, message.WellFormed t ∧ room message) (rest : Incoming) :
    calls read messages.length ((framesOf messages).map .byte ++ rest) = (.ok messages, rest) := by
  -- Each call leaves the stream at the next frame.
  induction messages with
  | nil => rfl
  | cons message messages ih =>
    obtain ⟨first, others⟩ := List.forall_mem_cons.mp held
    refine Proc.bind_run_eq_ok.mpr
      ⟨message, (framesOf messages).map .byte ++ rest, reads.whole.mpr ⟨first, by simp⟩, ?_⟩
    exact Proc.bind_run_eq_ok.mpr ⟨messages, rest, ih others, rfl⟩

theorem calls_refines {keep : ε → Prop} {ahead : σ → Incoming} {read : Proc σ ε α}
    {read' : Proc Incoming ε α} (same : Proc.Refines keep ahead read read') (count : Nat) :
    Proc.Refines keep ahead (calls read count) (calls read' count) := by
  induction count with
  | zero => exact .pure []
  | succ count ih => exact .bind same fun _ => .bind ih fun _ => .pure _

/-- Calls of a refining reader return the first messages and consume exactly their frames. -/
theorem ReadsFrames.calls_take (reads : ReadsFrames t eof room read) {keep : RepeError → Prop}
    {ahead : σ → Incoming} {concrete : Proc σ RepeError Message}
    (refines : Proc.Refines keep ahead concrete read) {messages : List Message}
    (held : ∀ message ∈ messages, message.WellFormed t ∧ room message) {state : σ} {rest : Bytes}
    (stream : ahead state = (framesOf messages ++ rest).map .byte)
    {count : Nat} (bound : count ≤ messages.length) :
    ∃ after, calls concrete count state = (.ok (messages.take count), after) ∧
      ahead after = (framesOf (messages.drop count) ++ rest).map .byte := by
  -- Cut the messages where the calls stop; the frames behind the cut are part of the rest.
  have split : framesOf messages
      = framesOf (messages.take count) ++ framesOf (messages.drop count) := by
    rw [← framesOf_append, List.take_append_drop]
  rw [split, List.append_assoc, List.map_append] at stream
  have front : ∀ message ∈ messages.take count, message.WellFormed t ∧ room message :=
    fun message found => held message (List.mem_of_mem_take found)
  have run := reads.calls_whole t front ((framesOf (messages.drop count) ++ rest).map .byte)
  rw [List.length_take, Nat.min_eq_left bound, ← stream] at run
  obtain ⟨outcome, states⟩ := calls_refines refines count state
  rw [run] at outcome states
  refine ⟨(calls concrete count state).2, Prod.ext outcome rfl, ?_⟩
  exact states (by simp [outcome]) (by simp [outcome])

/-- A refining reader that finds the stream cut inside a frame reports the end of the file. -/
theorem ReadsFrames.cut (reads : ReadsFrames t eof room read) {keep : RepeError → Prop}
    {ahead : σ → Incoming} {concrete : Proc σ RepeError Message}
    (refines : Proc.Refines keep ahead concrete read) {last : Message} {part lost : Bytes}
    (wellFormed : last.WellFormed t) (held : room last) (split : part ++ lost = last.toVec)
    (missing : lost ≠ []) {state : σ}
    (stream : ahead state = part.map .byte) : (concrete state).1 = .err (.io eof) := by
  -- The end of the file stops the stream inside the frame.
  have stopped := reads.inside wellFormed held split missing (stops_nil eof)
  rw [List.append_nil, ← stream] at stopped
  rw [(refines state).1, stopped]

end Runs

section Main

variable (t : Target) {ahead : σ → Incoming}

/-- The four ways the crate reads a message, two of them through a buffer and a view of it. -/
def readers (reader : Reader IoError σ) (runtime : Nat → Proc σ IoError Bytes) :
    List (Proc σ RepeError Message) :=
  [readMessage t reader, readMessageAsync t runtime,
    readView t (readMessageInto t reader), readView t (readMessageIntoAsync t runtime)]

/--
All four readers take the same frames off a stream, however it is cut into reads.

One call per message returns the messages in order, each call consuming exactly its own frame.
A stream that ends strictly inside a frame fails the call for that frame with the end-of-file kind.
A frame is a vector, so none is larger than `isize::MAX`.

The runtime's `read_exact` is assumed to do what it documents: it fills the whole buffer or fails, with
that kind when the stream ends first, and nothing is said about what a failed call has consumed.
-/
theorem readers_frames {reader : Reader IoError σ} (delivers : reader.Delivers ahead)
    {runtime : Nat → Proc σ IoError Bytes} (early : IoError) (kind : early.kind = .unexpectedEof)
    (documented : ∀ wanted,
      Proc.Refines (fun _ => False) ahead (runtime wanted) (takeExact early wanted))
    {read : Proc σ RepeError Message} (chosen : read ∈ readers t reader runtime)
    (messages : List Message)
    (wellFormed : ∀ message ∈ messages, message.WellFormed t ∧ message.InBuffer t) (state : σ) :
    (∀ rest : Bytes, ahead state = (framesOf messages ++ rest).map .byte →
      ∀ count ≤ messages.length, ∃ after,
        calls read count state = (.ok (messages.take count), after) ∧
          ahead after = (framesOf (messages.drop count) ++ rest).map .byte) ∧
    (∀ (last : Message) (part lost : Bytes), last.WellFormed t → last.InBuffer t →
      part ++ lost = last.toVec → lost ≠ [] → ahead state = (framesOf messages ++ part).map .byte →
      ∃ after error, calls read messages.length state = (.ok messages, after) ∧
        (read after).1 = .err (.io error) ∧ error.kind = .unexpectedEof) := by
  -- Every reader refines a stream-level one that reads frames, for one end-of-file error.
  obtain ⟨eof, room, abstract, eofKind, roomy, reads, refines⟩ :
      ∃ eof room abstract, eof.kind = .unexpectedEof ∧ (∀ message, message.InBuffer t → room message) ∧
        ReadsFrames t eof room abstract ∧ Proc.Refines (fun _ => False) ahead read abstract := by
    have blocking : ∀ wanted, Proc.Refines (fun _ => False) ahead (readExact reader wanted)
        (exactBytes .unexpectedEof wanted) := readExact_refines delivers
    have awaited : ∀ wanted, Proc.Refines (fun _ => False) ahead ((runtime wanted).mapErr .io)
        (exactBytes early wanted) := fun wanted => .mapErr (documented wanted) fun _ kept => kept
    simp only [readers, List.mem_cons, List.not_mem_nil, or_false] at chosen
    rcases chosen with rfl | rfl | rfl | rfl
    · exact ⟨_, _, _, rfl, fun _ => Message.InBuffer.inVectors t, readOwned_reads t _,
        readOwned_refines t blocking⟩
    · exact ⟨_, _, _, kind, fun _ => Message.InBuffer.inVectors t, readOwned_reads t _,
        readOwned_refines t awaited⟩
    · exact ⟨_, _, _, rfl, fun _ => id, readInto_reads t _,
        readView_refines t (readInto_refines t blocking)⟩
    · exact ⟨_, _, _, kind, fun _ => id, readInto_reads t _,
        readView_refines t (readInto_refines t awaited)⟩
  have held : ∀ message ∈ messages, message.WellFormed t ∧ room message := fun message found =>
    ⟨(wellFormed message found).1, roomy message (wellFormed message found).2⟩
  constructor
  · intro rest stream count bound
    exact reads.calls_take t refines held stream bound
  · -- After the whole frames only the part of the last one is left.
    intro last part lost complete small split missing stream
    obtain ⟨after, run, left⟩ := reads.calls_take t refines held stream (Nat.le_refl _)
    rw [List.take_length] at run
    rw [List.drop_length] at left
    exact ⟨after, eof, run, reads.cut t refines complete (roomy last small) split missing left,
      eofKind⟩

/-- A request arriving in two pieces is read whole, and its first piece alone ends the file. -/
theorem readers_frames_two_pieces :
    (∃ after, calls (readMessage .release64 socket) 1
          [.data 49 [0, 0, 0, 0, 0, 0, 0, 7, 21],
            .data 1 ([0, 0, 0, 0, 0, 7, 0, 0, 0, 0, 0, 0, 0, 1] ++ List.replicate 23 0 ++ [47, 9])]
        = (.ok [MessageBuilder.build { id := 7, query := [47] }], after) ∧
          arriving after = [.byte 9]) ∧
      ∃ after error,
        calls (readMessageAsync .release64 fun wanted => fill .earlyEof socket wanted wanted) 0
            [.data 49 [0, 0, 0, 0, 0, 0, 0, 7, 21]] = (.ok [], after) ∧
          (readMessageAsync .release64 (fun wanted => fill .earlyEof socket wanted wanted) after).1
            = .err (.io error) ∧ error.kind = .unexpectedEof := by
  -- A runtime that loops over the socket's reads meets the documented behaviour.
  have runtime : ∀ wanted, Proc.Refines (fun _ => False) arriving
      (fill IoError.earlyEof socket wanted wanted) (takeExact IoError.earlyEof wanted) :=
    fun wanted => fill_refines _ socket_delivers _ (Nat.le_refl wanted)
  obtain ⟨whole, _⟩ := readers_frames .release64 socket_delivers _ rfl runtime
    (List.mem_cons_self) [MessageBuilder.build { id := 7, query := [47] }] (by decide)
    [.data 49 [0, 0, 0, 0, 0, 0, 0, 7, 21],
      .data 1 ([0, 0, 0, 0, 0, 7, 0, 0, 0, 0, 0, 0, 0, 1] ++ List.replicate 23 0 ++ [47, 9])]
  obtain ⟨_, cut⟩ := readers_frames .release64 socket_delivers _ rfl runtime
    (List.mem_cons_of_mem _ List.mem_cons_self) [] (by simp)
    [.data 49 [0, 0, 0, 0, 0, 0, 0, 7, 21]]
  refine ⟨whole [9] (by decide) 1 (by decide), ?_⟩
  exact cut (MessageBuilder.build { id := 7, query := [47] }) [49, 0, 0, 0, 0, 0, 0, 0, 7, 21]
    ((MessageBuilder.build { id := 7, query := [47] }).toVec.drop 10)
    (by decide) (by decide) (by decide) (by decide) (by decide)

end Main

end Repe
