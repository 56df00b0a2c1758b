import Repe.Wire.Error

/-! The producer of a value stream: a body written through a sink that cuts it into chunks. -/

namespace Repe.Svs

/-- One message of the channel from a producer to the `next` handler. -/
inductive Msg where
  | chunk (bytes : Bytes)
  | finished
  | fail (error : String)
  deriving DecidableEq, Repr

/-- The sending half of a session channel, with what went through it. -/
structure SyncSender where
  sent : List Msg
  /-- Whether the receiver still exists when this many messages were sent. -/
  accepts : Nat → Bool

namespace SyncSender

def send (tx : SyncSender) (msg : Msg) : Bool × SyncSender :=
  if tx.accepts tx.sent.length then (true, { tx with sent := tx.sent ++ [msg] }) else (false, tx)

end SyncSender

/-- `io::Error::new(BrokenPipe, ..)` of a stream whose consumer went away. -/
def streamCancelled : IoError := ⟨.brokenPipe, "svs stream cancelled"⟩

/-- A sink that batches the bytes written to it into chunks of a fixed size. -/
structure ChunkSink where
  tx : SyncSender
  buf : Bytes
  chunkBytes : Nat

namespace ChunkSink

variable (t : Target)

/-- `new`: the buffer of the first chunk is reserved at once. -/
def new (tx : SyncSender) (chunkBytes : Nat) : Exec IoError ChunkSink := do
  t.allocate chunkBytes
  return ⟨tx, [], chunkBytes⟩

/-- `send_chunk`: hand the buffered bytes to the channel, and start a new buffer. -/
def sendChunk (sink : ChunkSink) : Exec IoError Unit × ChunkSink :=
  -- The new buffer is reserved before the old one is sent.
  if sink.chunkBytes ≤ t.isizeMax then
    match sink.tx.send (.chunk sink.buf) with
    | (true, tx) => (.ok (), { sink with tx := tx, buf := [] })
    -- The buffer was taken out before the send failed.
    | (false, tx) => (.err streamCancelled, { sink with tx := tx, buf := [] })
  else (.panic, sink)

/-- `flush_remaining`: send the last, partial chunk if there is one. -/
def flushRemaining (sink : ChunkSink) : Exec IoError Unit × ChunkSink :=
  if sink.buf = [] then (.ok (), sink) else sink.sendChunk t

/-- One turn of the loop of `write`: the data that is left, or how the loop was left. -/
def writeTurn (sink : ChunkSink) (data : Bytes) : Exec IoError Bytes × ChunkSink :=
  match t.subUsize sink.chunkBytes sink.buf.length with
  | .ok space =>
    -- As much as the buffer takes.
    let take := min space data.length
    let filled := { sink with buf := sink.buf ++ data.take take }
    if sink.chunkBytes ≤ filled.buf.length then
      let (result, sent) := filled.sendChunk t
      (result >>= fun () => .ok (data.drop take), sent)
    else (.ok (data.drop take), filled)
  | .err error => (.err error, sink)
  -- More is buffered than a chunk holds, in a build that checks its arithmetic.
  | .panic => (.panic, sink)

/-- The loop of `write`; a loop that needs more turns than the fuel gives nothing. -/
def writeTurns : Nat → ChunkSink → Bytes → Option (Exec IoError Unit × ChunkSink)
  | 0, sink, data => if data = [] then some (.ok (), sink) else none
  | fuel + 1, sink, data =>
    if data = [] then some (.ok (), sink)
    else match writeTurn t sink data with
      | (.ok rest, next) => writeTurns fuel next rest
      | (.err error, next) => some (.err error, next)
      | (.panic, next) => some (.panic, next)

/-- `write`: take everything, cutting off each chunk that is full. -/
def write (fuel : Nat) (sink : ChunkSink) (data : Bytes) : Option (Exec IoError Nat × ChunkSink) :=
  (writeTurns t fuel sink data).map fun (result, after) =>
    (result >>= fun _ => .ok data.length, after)

/-- `flush`: a chunk boundary is a size decision, so a flush does nothing. -/
def flush (sink : ChunkSink) : Except IoError Unit × ChunkSink := (.ok (), sink)

end ChunkSink

/--
A body writer, as the calls it makes on its sink.

What it does next may depend on what the calls returned.
-/
inductive BodyWriter where
  | returns (result : Except IoError Unit)
  | panics
  | write (data : Bytes) (next : Except IoError Nat → BodyWriter)
  | flush (next : Except IoError Unit → BodyWriter)

namespace BodyWriter

def run (t : Target) (fuel : Nat) : BodyWriter → ChunkSink → Option (Exec IoError Unit × ChunkSink)
  | .returns (.ok ()), sink => some (.ok (), sink)
  | .returns (.error error), sink => some (.err error, sink)
  | .panics, sink => some (.panic, sink)
  | .write data next, sink =>
    match sink.write t fuel data with
    | some (.ok count, after) => (next (.ok count)).run t fuel after
    | some (.err error, after) => (next (.error error)).run t fuel after
    -- A panic of the sink goes through the body.
    | some (.panic, after) => some (.panic, after)
    | none => none
  | .flush next, sink =>
    let (result, after) := sink.flush
    (next result).run t fuel after

/-- The bytes a body writes when every call on its sink succeeds. -/
def output : BodyWriter → Bytes
  | .returns _ | .panics => []
  -- Every write reports that it took all of its data.
  | .write data next => data ++ (next (.ok data.length)).output
  | .flush next => (next (.ok ())).output

def outcome : BodyWriter → Exec IoError Unit
  | .returns (.ok ()) => .ok ()
  | .returns (.error error) => .err error
  | .panics => .panic
  | .write data next => (next (.ok data.length)).outcome
  | .flush next => (next (.ok ())).outcome

end BodyWriter

/-- `produce` without compression: run the body, then report how it ended. -/
def produce (t : Target) (fuel : Nat) (body : BodyWriter) (tx : SyncSender) (chunkBytes : Nat) :
    Option SyncSender :=
  match ChunkSink.new t tx chunkBytes with
  | .ok sink => do
    let (result, sink) ← body.run t fuel sink
    -- Only a body that returned `Ok` has its last bytes sent.
    let (result, sink) := match result with
      | .ok () => sink.flushRemaining t
      | _ => (result, sink)
    match result with
    | .ok () => return (sink.tx.send .finished).2
    | .err error => return (sink.tx.send (.fail error.message)).2
    -- Unwinding drops the sender without a terminal message.
    | .panic => return sink.tx
  -- No buffer, and so no sink for the body.
  | _ => return tx

/-- Pieces of the given size, one after another, of which only the last may be shorter. -/
structure Pieces (size : Nat) (body : Bytes) (pieces : List Bytes) : Prop where
  flatten : pieces.flatten = body
  full : ∀ piece ∈ pieces.dropLast, piece.length = size
  bounded : ∀ piece ∈ pieces, piece ≠ [] ∧ piece.length ≤ size

namespace ChunkSink

/-- A sink that has its buffers, with a live receiver and a chunk that is not full. -/
structure Settled (t : Target) (sink : ChunkSink) : Prop where
  live : ∀ count, sink.tx.accepts count = true
  small : sink.chunkBytes ≤ t.isizeMax
  -- An empty buffer is the only one where chunks hold nothing.
  rest : sink.buf = [] ∨ sink.buf.length < sink.chunkBytes

/-- What some writes did: chunks that were cut off, and what stayed in the buffer. -/
structure Wrote (t : Target) (before : ChunkSink) (data : Bytes) (chunks : List Bytes)
    (after : ChunkSink) : Prop where
  sent : after.tx.sent = before.tx.sent ++ chunks.map .chunk
  bytes : before.buf ++ data = chunks.flatten ++ after.buf
  full : ∀ chunk ∈ chunks, chunk.length = before.chunkBytes
  size : after.chunkBytes = before.chunkBytes
  still : after.Settled t

variable {t : Target} {sink : ChunkSink}

theorem Wrote.refl (still : sink.Settled t) : Wrote t sink [] [] sink :=
  ⟨by simp, by simp, by simp, rfl, still⟩

theorem Wrote.trans {first second third : ChunkSink} {data more : Bytes}
    {chunks others : List Bytes} (head : Wrote t first data chunks second)
    (tail : Wrote t second more others third) :
    Wrote t first (data ++ more) (chunks ++ others) third := by
  refine ⟨?_, ?_, ?_, tail.size.trans head.size, tail.still⟩
  · rw [tail.sent, head.sent, List.map_append, List.append_assoc]
  · -- What the first write left buffered is in front of what the second cuts up.
    rw [← List.append_assoc, head.bytes, List.append_assoc, tail.bytes, List.flatten_append,
      List.append_assoc]
  · intro chunk member
    rcases List.mem_append.mp member with early | late
    · exact head.full chunk early
    · rw [tail.full chunk late, head.size]

theorem new_eq_ok {tx : SyncSender} {chunkBytes : Nat} :
    new t tx chunkBytes = .ok sink ↔ chunkBytes ≤ t.isizeMax ∧ ⟨tx, [], chunkBytes⟩ = sink := by
  unfold new Target.allocate
  -- The buffer can be made, or it is too large for any.
  split
  · next small => simp [small]
  · next large => simp [large]

theorem sendChunk_live (live : ∀ count, sink.tx.accepts count = true)
    (small : sink.chunkBytes ≤ t.isizeMax) :
    sink.sendChunk t = (.ok (), ⟨⟨sink.tx.sent ++ [.chunk sink.buf], sink.tx.accepts⟩, [],
      sink.chunkBytes⟩) := by
  simp [sendChunk, SyncSender.send, live, small]

namespace Settled

theorem fits (settled : sink.Settled t) : sink.buf.length ≤ sink.chunkBytes := by
  -- The buffer is empty, or has room left.
  rcases settled.rest with empty | room
  · rw [empty]
    exact Nat.zero_le _
  · exact Nat.le_of_lt room

theorem writeTurn (settled : sink.Settled t) (data : Bytes) :
    sink.writeTurn t data =
      (let take := min (sink.chunkBytes - sink.buf.length) data.length
      let buf := sink.buf ++ data.take take
      (.ok (data.drop take),
        if sink.chunkBytes ≤ buf.length then
          ⟨⟨sink.tx.sent ++ [.chunk buf], sink.tx.accepts⟩, [], sink.chunkBytes⟩
        else ⟨sink.tx, buf, sink.chunkBytes⟩)) := by
  -- The free space is not negative, and a live receiver takes what is sent.
  rw [ChunkSink.writeTurn, t.subUsize_ok settled.fits]
  dsimp only
  generalize sink.buf ++ data.take _ = buf
  have sent := @sendChunk_live t ⟨sink.tx, buf, sink.chunkBytes⟩ settled.live settled.small
  split
  · rw [sent]
    rfl
  · rfl

theorem step (settled : sink.Settled t) (data : Bytes) :
    ∃ rest next, sink.writeTurn t data = (.ok rest, next) ∧ next.Settled t ∧
      next.chunkBytes = sink.chunkBytes := by
  refine ⟨_, _, settled.writeTurn data, ?_, ?_⟩
  · split
    · exact ⟨settled.live, settled.small, .inl rfl⟩
    -- What is not sent does not fill a chunk.
    · next short => exact ⟨settled.live, settled.small, .inr (Nat.lt_of_not_le short)⟩
  · split <;> rfl

/-- A turn that has something to write takes some of it, and loses none. -/
theorem turns (settled : sink.Settled t) (positive : 0 < sink.chunkBytes) {data : Bytes}
    (more : data ≠ []) :
    ∃ taken rest chunks next, data = taken ++ rest ∧ taken ≠ [] ∧
      sink.writeTurn t data = (.ok rest, next) ∧ Wrote t sink taken chunks next := by
  have filled : 0 < data.length := List.length_pos_iff.mpr more
  have room : sink.buf.length < sink.chunkBytes := by
    rcases settled.rest with empty | room
    · rw [empty]
      exact positive
    · exact room
  generalize take : min (sink.chunkBytes - sink.buf.length) data.length = count
  have length : (sink.buf ++ data.take count).length = sink.buf.length + count := by
    rw [List.length_append, List.length_take]
    omega
  have turn := settled.writeTurn data
  rw [take] at turn
  have some : data.take count ≠ [] := by
    rw [← List.length_pos_iff, List.length_take]
    omega
  by_cases full : sink.chunkBytes ≤ (sink.buf ++ data.take count).length
  · -- The chunk is exactly full, and the loop goes on with an empty buffer.
    refine ⟨data.take count, data.drop count, [sink.buf ++ data.take count], _,
      (List.take_append_drop _ _).symm, some, by simpa only [if_pos full] using turn, ?_⟩
    refine ⟨by simp, by simp, ?_, rfl, settled.live, settled.small, .inl rfl⟩
    intro chunk member
    rw [List.mem_singleton.mp member]
    omega
  · -- The data fitted into the buffer, so nothing is cut off.
    refine ⟨data.take count, data.drop count, [], _, (List.take_append_drop _ _).symm, some,
      by simpa only [if_neg full] using turn, ?_⟩
    exact ⟨by simp, by simp, by simp, rfl, settled.live, settled.small,
      .inr (Nat.lt_of_not_le full)⟩

/-- The write loop ends within as many turns as there are bytes, and loses none of them. -/
theorem writes (settled : sink.Settled t) (positive : 0 < sink.chunkBytes) {fuel : Nat} {data : Bytes}
    (enough : data.length ≤ fuel) :
    ∃ chunks after, writeTurns t fuel sink data = some (.ok (), after) ∧
      Wrote t sink data chunks after := by
  -- Every turn takes at least one byte, so the fuel covers the bytes that are left.
  induction fuel generalizing sink data with
  | zero =>
    have empty : data = [] := List.eq_nil_of_length_eq_zero (by omega)
    subst empty
    exact ⟨[], sink, rfl, .refl settled⟩
  | succ fuel ih =>
    unfold writeTurns
    by_cases empty : data = []
    · subst empty
      exact ⟨[], sink, rfl, .refl settled⟩
    · rw [if_neg empty]
      obtain ⟨taken, rest, chunks, next, rfl, some, turned, head⟩ := settled.turns positive empty
      have shorter : rest.length ≤ fuel := by
        have := List.length_pos_iff.mpr some
        rw [List.length_append] at enough
        omega
      obtain ⟨others, after, ran, tail⟩ := ih head.still (by rw [head.size]; exact positive) shorter
      exact ⟨chunks ++ others, after, by rw [turned]; exact ran, head.trans tail⟩

end Settled

end ChunkSink

/-- A body runs to its end, and its whole output went through the sink. -/
theorem BodyWriter.run_settled {t : Target} {fuel : Nat} (body : BodyWriter) {sink : ChunkSink}
    (settled : sink.Settled t) (positive : 0 < sink.chunkBytes)
    (enough : body.output.length ≤ fuel) :
    ∃ chunks after, body.run t fuel sink = some (body.outcome, after) ∧
      ChunkSink.Wrote t sink body.output chunks after := by
  -- By induction on the calls the body makes, with what each of them returns.
  induction body generalizing sink with
  | returns result =>
    cases result with
    | ok _ => exact ⟨[], sink, rfl, .refl settled⟩
    | error error => exact ⟨[], sink, rfl, .refl settled⟩
  | panics => exact ⟨[], sink, rfl, .refl settled⟩
  | write data next ih =>
    simp only [output, List.length_append] at enough
    obtain ⟨chunks, between, wrote, head⟩ := settled.writes positive
      (show data.length ≤ fuel by omega)
    obtain ⟨others, after, ran, tail⟩ := ih (.ok data.length) head.still
      (by rw [head.size]; exact positive) (by omega)
    refine ⟨chunks ++ others, after, ?_, head.trans tail⟩
    simp only [run, ChunkSink.write, wrote, Option.map_some, Exec.ok_bind]
    exact ran
  | flush next ih => exact ih (.ok ()) settled positive enough

/-- Full chunks and a rest that is not empty are the pieces of what was written. -/
theorem pieces_of_wrote {t : Target} {sink after : ChunkSink} {body : Bytes} {chunks : List Bytes}
    (wrote : ChunkSink.Wrote t sink body chunks after) (empty : sink.buf = [])
    (positive : 0 < sink.chunkBytes) :
    Pieces sink.chunkBytes body (if after.buf = [] then chunks else chunks ++ [after.buf]) := by
  have bytes := wrote.bytes
  rw [empty, List.nil_append] at bytes
  have room := wrote.still.fits
  rw [wrote.size] at room
  -- A chunk is cut off when it is full, so it has bytes.
  have filled : ∀ chunk ∈ chunks, chunk ≠ [] ∧ chunk.length ≤ sink.chunkBytes := by
    intro chunk member
    have full := wrote.full chunk member
    refine ⟨?_, by omega⟩
    intro nothing
    rw [nothing, List.length_nil] at full
    omega
  split
  · next nothing =>
    rw [nothing, List.append_nil] at bytes
    exact ⟨bytes.symm, fun chunk member =>
      wrote.full chunk ((List.dropLast_sublist _).subset member), filled⟩
  · next rest =>
    refine ⟨by simp [bytes], ?_, ?_⟩
    · intro chunk member
      rw [List.dropLast_concat] at member
      exact wrote.full chunk member
    · intro chunk member
      rcases List.mem_append.mp member with early | last
      · exact filled chunk early
      · rw [List.mem_singleton.mp last]
        exact ⟨rest, by omega⟩

/-- What a producer with a live receiver puts into its channel before the channel closes. -/
inductive Produces (size : Nat) (body : BodyWriter) : List Msg → Prop
  | finished {pieces : List Bytes} (ends : body.outcome = .ok ())
      (cut : Pieces size body.output pieces) :
      Produces size body (pieces.map .chunk ++ [.finished])
  | failed {chunks : List Bytes} {error : IoError} (ends : body.outcome = .err error) :
      Produces size body (chunks.map .chunk ++ [.fail error.message])
  | vanished {chunks : List Bytes} (ends : body.outcome = .panic) :
      Produces size body (chunks.map .chunk)

/-- With a buffer and enough fuel for its body, every producer ends, in the way its body does. -/
theorem produce_settled (t : Target) {fuel chunkBytes : Nat} (body : BodyWriter)
    (positive : 1 ≤ chunkBytes) (small : chunkBytes ≤ t.isizeMax)
    (enough : body.output.length ≤ fuel) :
    ∃ tx, produce t fuel body ⟨[], fun _ => true⟩ chunkBytes = some tx ∧
      Produces chunkBytes body tx.sent := by
  have settled : ChunkSink.Settled t ⟨⟨[], fun _ => true⟩, [], chunkBytes⟩ :=
    ⟨fun _ => rfl, small, .inl rfl⟩
  obtain ⟨chunks, sink, ran, wrote⟩ := body.run_settled settled positive enough
  have created : ChunkSink.new t ⟨[], fun _ => true⟩ chunkBytes
      = .ok ⟨⟨[], fun _ => true⟩, [], chunkBytes⟩ := ChunkSink.new_eq_ok.mpr ⟨small, rfl⟩
  have sent : sink.tx.sent = chunks.map .chunk := by simpa using wrote.sent
  have live := wrote.still.live
  simp only [produce, created, ran, Option.bind_eq_bind, Option.bind_some]
  -- The producer reports the outcome of its body, after the bytes it wrote.
  rcases ends : body.outcome with _ | error | _
  · -- The rest of the buffer is the last piece, if there is one.
    have cut := pieces_of_wrote wrote rfl positive
    by_cases nothing : sink.buf = []
    · rw [if_pos nothing] at cut
      refine ⟨_, by simp only [ChunkSink.flushRemaining, if_pos nothing]; rfl, ?_⟩
      simp only [SyncSender.send, live, if_true, sent]
      exact .finished ends cut
    · rw [if_neg nothing] at cut
      refine ⟨_, by
        simp only [ChunkSink.flushRemaining, if_neg nothing,
          ChunkSink.sendChunk_live live wrote.still.small]
        rfl, ?_⟩
      have messages := Produces.finished ends cut
      simpa [SyncSender.send, live, sent] using messages
  · refine ⟨_, rfl, ?_⟩
    simp only [SyncSender.send, live, if_true, sent]
    exact .failed ends
  · refine ⟨_, rfl, ?_⟩
    rw [sent]
    exact .vanished ends

end Repe.Svs
