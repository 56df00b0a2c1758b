import Repe.Lib.BufWriter
import Repe.Lib.Transition
import Repe.Server.Respond
import Repe.Wire.HeaderLaws

/-! The async server's connection loop, and what its write timeout does to the response stream. -/

namespace Repe

inductive ReadEnd where
  | frame (buf : Bytes)
  | failed
  | timedOut
  deriving DecidableEq, Repr

def writeBuffer : Nat := 8192

/-- What the socket does while a write or a flush is awaited. -/
structure Socket where
  /-- How many bytes it takes, one time after the other. -/
  takes : List Nat
  /-- It reports an error after that; otherwise the time runs out. -/
  fails : Bool
  deriving DecidableEq, Repr

/-- What the peer, the socket, and the timers do during one pass of the loop. -/
structure Round where
  read : ReadEnd
  write : Socket
  flush : Socket
  deriving DecidableEq, Repr

structure Connection where
  writer : BufWriter UInt8
  returned : Bool
  deriving DecidableEq, Repr

namespace Connection

def opened : Connection := ⟨.empty, false⟩

/-- The blocks of a response go to the buffered writer; those it did not accept are returned. -/
def write (conn : Connection) (blocks : List Bytes) (socket : Socket) : Connection × List Bytes :=
  let (writer, left) := conn.writer.writeAll writeBuffer false blocks socket.takes
  -- Only a write that still waits can see the error.
  ({ conn with writer := if left ≠ [] ∧ socket.fails then writer.drain else writer }, left)

def flush (conn : Connection) (socket : Socket) : Connection :=
  let writer := conn.writer.flush socket.takes
  { conn with writer := if socket.fails then writer.drain else writer }

end Connection

/-- What a pass of the loop has to do once the request is read. -/
inductive Answer where
  | ends
  | silent
  | respond (blocks : List Bytes)
  deriving DecidableEq, Repr

variable (t : Target) (routeRequestView : MessageView → Option Message)

def answer (round : Round) : Answer :=
  match round.read with
  | .failed => .ends
  | .timedOut => .ends
  | .frame buf =>
    -- The request is parsed out of the buffer it was read into.
    match MessageView.fromSlice t buf with
    | .err _ => .ends
    | .panic => .ends
    | .ok view =>
      match routeRequestView view with
      | none => .silent
      | some response =>
        match writeViewResponseAsync t response (responseEchoQuery response view.query) with
        | .err _ => .ends
        | .panic => .ends
        | .ok blocks => .respond blocks

def responseTo (round : Round) : Option Bytes :=
  match answer t routeRequestView round with
  | .respond blocks => some blocks.flatten
  | _ => none

/--
One pass of the connection loop; a loop that has returned takes no more of them.

With a write timeout both the write and the flush are awaited under it, and whatever comes of them is
dropped.
Without one an error ends the loop, and a socket that takes nothing more is waited for.
-/
def handleRound (writeTimeout : Bool) (conn : Connection) (round : Round) : Option Connection :=
  if conn.returned then none
  else match answer t routeRequestView round with
    | .ends => some { conn with returned := true }
    | .silent => some conn
    | .respond blocks =>
      let (written, left) := conn.write blocks round.write
      let flushed := written.flush round.flush
      -- `.await.ok()`: neither a timeout nor an error keeps the loop from going on.
      if writeTimeout then some flushed
      -- `?` on the write: the flush is not reached.
      else if left ≠ [] then some { written with returned := true }
      -- `?` on the flush.
      else if flushed.writer.buffer ≠ [] then some { flushed with returned := true }
      else some flushed

/--
A response is cut off only inside what the buffer has no room for.

Under a write timeout, either its frame fits into the buffered writer when its write starts, or the
socket takes enough of it for the write to end in time.
-/
def Unbroken (writeTimeout : Bool) (conn : Connection) (round : Round) : Prop :=
  ∀ blocks, writeTimeout = true → answer t routeRequestView round = .respond blocks →
    conn.writer.occupied + blocks.flatten.length ≤ writeBuffer ∨
      (conn.writer.writeAll writeBuffer false blocks round.write.takes).2 = []

section Laws

variable {t routeRequestView}

/-- A response starts with its header, which is neither empty nor as large as the buffer. -/
theorem respond_cons {round : Round} {blocks : List Bytes}
    (responds : answer t routeRequestView round = .respond blocks) :
    ∃ first rest, blocks = first :: rest ∧ first.length = headerSize := by
  unfold answer at responds
  -- The other ends of a pass write nothing.
  split at responds
  · cases responds
  · cases responds
  · split at responds
    · cases responds
    · cases responds
    · split at responds
      · cases responds
      · split at responds
        · cases responds
        · cases responds
        · next framed =>
          cases responds
          obtain ⟨length, _, written⟩ := Exec.bind_eq_ok.mp framed
          exact ⟨_, _, (Exec.ok.inj written).symm, Header.encode_length _⟩

theorem Connection.write_stream (conn : Connection) (blocks : List Bytes) (socket : Socket) :
    (conn.write blocks socket).1.writer.stream ++ (conn.write blocks socket).2.flatten
      = conn.writer.stream ++ blocks.flatten := by
  rw [← @BufWriter.writeAll_stream _ writeBuffer false conn.writer blocks socket.takes]
  -- An error drops what was flushed of the buffer, and nothing that was accepted.
  unfold write
  dsimp only
  split <;> rfl

/-- Without an error, a connection is left with what its buffered writer makes of the blocks. -/
theorem Connection.write_eq {conn : Connection} {blocks left : List Bytes} {socket : Socket}
    {writer : BufWriter UInt8} (calm : socket.fails = false)
    (wrote : conn.writer.writeAll writeBuffer false blocks socket.takes = (writer, left)) :
    conn.write blocks socket = ({ conn with writer := writer }, left) := by
  rw [write, wrote]
  simp [calm]

@[simp] theorem Connection.flush_stream (conn : Connection) (socket : Socket) :
    (conn.flush socket).writer.stream = conn.writer.stream := by
  unfold flush
  split <;> simp

theorem handleRound_respond {conn : Connection} {round : Round} {blocks : List Bytes}
    (running : conn.returned = false) (responds : answer t routeRequestView round = .respond blocks) :
    handleRound t routeRequestView true conn round =
      some ((conn.write blocks round.write).1.flush round.flush) := by
  rw [handleRound, running, responds]
  rfl

theorem write_whole {conn : Connection} {round : Round} {blocks : List Bytes}
    (unbroken : Unbroken t routeRequestView true conn round)
    (responds : answer t routeRequestView round = .respond blocks) :
    (conn.write blocks round.write).2 = [] := by
  rcases unbroken blocks rfl responds with fits | ended
  · obtain ⟨first, rest, rfl, length⟩ := respond_cons responds
    have some : first ≠ [] := by
      rw [← List.length_pos_iff, length]
      decide
    -- The frame is in the buffer before the socket is asked for anything.
    exact conn.writer.writeAll_fits _ round.write.takes
      (BufWriter.small_of_fits some (by rw [length]; decide) (by omega)) fits
  · exact ended

/-- The bytes on a connection, and those it accepted, for the responses so far. -/
structure Connection.Carries (conn : Connection) (frames : List Bytes) : Prop where
  front : conn.writer.wire <+: frames.flatten
  -- A response may have been left in the middle, but by a loop that writes no other.
  whole : conn.returned = false → conn.writer.stream = frames.flatten

theorem Connection.Carries.of_stream {conn : Connection} {frames : List Bytes}
    (stream : conn.writer.stream = frames.flatten) : conn.Carries frames :=
  ⟨stream ▸ conn.writer.wire_front, fun _ => stream⟩

/-- A pass that meets the condition adds the frame of its response, if it has one. -/
theorem handleRound_carries {writeTimeout : Bool} {conn after : Connection} {round : Round}
    {frames : List Bytes} (carries : conn.Carries frames)
    (unbroken : Unbroken t routeRequestView writeTimeout conn round)
    (taken : handleRound t routeRequestView writeTimeout conn round = some after) :
    after.Carries (frames ++ (responseTo t routeRequestView round).toList) := by
  rw [handleRound] at taken
  split at taken
  · -- A loop that has returned takes no pass.
    cases taken
  · next running =>
    have stream := carries.whole (by simpa using running)
    cases answered : answer t routeRequestView round with
    | ends | silent =>
      rw [answered] at taken
      cases taken
      simp only [responseTo, answered, Option.toList_none, List.append_nil]
      exact .of_stream stream
    | respond blocks =>
      have response : (responseTo t routeRequestView round).toList = [blocks.flatten] := by
        simp [responseTo, answered]
      have accepted := conn.write_stream blocks round.write
      rw [response]
      simp only [answered] at taken
      -- Whatever was accepted is the front of the frames.
      rw [stream] at accepted
      have front : (conn.write blocks round.write).1.writer.wire
          <+: (frames ++ [blocks.flatten]).flatten := by
        refine (BufWriter.wire_front _).trans ⟨(conn.write blocks round.write).2.flatten, ?_⟩
        simpa using accepted
      have whole (nothing : (conn.write blocks round.write).2 = []) :
          ((conn.write blocks round.write).1.flush round.flush).Carries
            (frames ++ [blocks.flatten]) := by
        apply Connection.Carries.of_stream
        simpa [nothing] using accepted
      split at taken
      · -- The loop goes on, and the condition says that nothing was left.
        next timeout =>
        cases taken
        subst timeout
        exact whole (write_whole unbroken answered)
      · split at taken
        · cases taken
          exact ⟨front, nofun⟩
        · next nothing =>
          have whole := whole (by simpa using nothing)
          split at taken
          · cases taken
            exact ⟨whole.front, nofun⟩
          · cases taken
            exact whole

/-- So does a run. -/
theorem run_carries {writeTimeout : Bool} {rounds : List Round} {conn after : Connection}
    {frames : List Bytes} (carries : conn.Carries frames)
    (meets : Transition.Meets (handleRound t routeRequestView writeTimeout)
      (Unbroken t routeRequestView writeTimeout) conn rounds)
    (ran : Transition.run (handleRound t routeRequestView writeTimeout) conn rounds = some after) :
    after.Carries (frames ++ rounds.filterMap (responseTo t routeRequestView)) := by
  -- From any connection on, so that the first pass can be taken off.
  induction rounds generalizing conn frames with
  | nil =>
    cases ran
    simpa using carries
  | cons round rounds ih =>
    obtain ⟨between, taken, rest⟩ := Transition.run_cons.mp ran
    have added := handleRound_carries carries meets.1 taken
    have carried := ih added (meets.2 between taken) rest
    cases responds : responseTo t routeRequestView round with
    | none => simpa [responds] using carried
    | some frame => simpa [responds] using carried

end Laws

/--
The connection carries the front of whole responses in request order, as long as no write that the
buffer has no room for is cut off by the write timeout.

Flushes may be cut off anywhere, and without a write timeout nothing is asked of the run.
-/
theorem timeout_stream_aligned (writeTimeout : Bool) {rounds : List Round} {conn : Connection}
    (meets : Transition.Meets (handleRound t routeRequestView writeTimeout)
      (Unbroken t routeRequestView writeTimeout) .opened rounds)
    (ran : Transition.run (handleRound t routeRequestView writeTimeout) .opened rounds = some conn) :
    conn.writer.wire <+: (rounds.filterMap (responseTo t routeRequestView)).flatten := by
  have start : Connection.opened.Carries [] := .of_stream rfl
  exact (run_carries start meets ran).front

/-- A response to the first request, with a body of so many zeros. -/
def largeResponse (count : Nat) : Message :=
  ⟨{ (MessageBuilder.build { id := 1 }).header with
      bodyLength := UInt64.ofNat count
      length := UInt64.ofNat (headerSize + count) }, [], List.replicate count 0⟩

/-- Answer the first request with a large body, and the others with none. -/
def largeFirst (view : MessageView) : Option Message :=
  some (if view.header.id = 1 then largeResponse 60000 else MessageBuilder.build { id := view.header.id })

/-- A pass that reads an empty request, with what the socket takes while its response is written. -/
def emptyRound (id : UInt64) (write flush : List Nat) : Round :=
  ⟨.frame (MessageBuilder.build { id }).toVec, ⟨write, false⟩, ⟨flush, false⟩⟩

def secondFrame : Bytes := (MessageBuilder.build { id := 2 }).toVec

/-- A flush that is cut off leaves the stream at the front of whole frames, and the next goes on. -/
theorem timeout_stream_aligned_last :
    ∃ conn, Transition.run (handleRound .release64 largeFirst true) .opened
        [emptyRound 2 [] [10], emptyRound 2 [] [70]] = some conn ∧
      conn.writer.wire = secondFrame ++ secondFrame.take 32 ∧
      conn.writer.wire <+: ([emptyRound 2 [] [10], emptyRound 2 [] [70]].filterMap
        (responseTo .release64 largeFirst)).flatten := by
  refine ⟨_, rfl, by decide, timeout_stream_aligned .release64 largeFirst true ⟨?_, ?_⟩ rfl⟩
  · -- The frame of 48 bytes fits into an empty buffer.
    intro blocks _ responds
    cases responds
    exact .inl (by decide)
  · intro between taken
    obtain rfl := Option.some.inj taken
    refine ⟨?_, fun _ _ => trivial⟩
    -- The buffer is not emptied, but still has room.
    intro blocks _ responds
    cases responds
    exact .inl (by decide)

/--
A body of 60000 bytes bypasses the buffer, so its write waits for the socket.

Cut off by the timeout after 30000 bytes of it, it is followed by the next response.
-/
theorem timeout_stream_torn :
    ∃ conn, Transition.run (handleRound .release64 largeFirst true) .opened
        [emptyRound 1 [48, 30000] [], emptyRound 2 [] [48]] = some conn ∧
      conn.writer.wire = (largeResponse 60000).header.encode ++ List.replicate 30000 0 ++ secondFrame ∧
      ¬ ∃ frames : List Bytes,
        frames.Sublist ([emptyRound 1 [48, 30000] [], emptyRound 2 [] [48]].filterMap
          (responseTo .release64 largeFirst)) ∧ conn.writer.wire <+: frames.flatten := by
  have large : answer .release64 largeFirst (emptyRound 1 [48, 30000] []) =
      .respond [(largeResponse 60000).header.encode, List.replicate 60000 0] := rfl
  have small : answer .release64 largeFirst (emptyRound 2 [] [48]) = .respond [secondFrame] := rfl
  have header : (largeResponse 60000).header.encode ≠ [] := by
    rw [← List.length_pos_iff, Header.encode_length]
    decide
  have torn : BufWriter.writeAll writeBuffer false .empty
      [(largeResponse 60000).header.encode, List.replicate 60000 0] [48, 30000] =
        (⟨(largeResponse 60000).header.encode ++ List.replicate 30000 0, [], 0⟩,
          [List.replicate 30000 0]) := by
    have cut := @BufWriter.writeAll_torn UInt8 writeBuffer 30000 false [] (List.replicate 60000 0)
      _ header (by rw [Header.encode_length]; decide) (by rw [List.length_replicate]; decide)
    rwa [List.take_replicate, List.drop_replicate, List.nil_append, Header.encode_length] at cut
  have first : handleRound .release64 largeFirst true .opened (emptyRound 1 [48, 30000] []) =
      some ⟨⟨(largeResponse 60000).header.encode ++ List.replicate 30000 0, [], 0⟩, false⟩ := by
    have wrote : Connection.opened.write _ ⟨[48, 30000], false⟩ = _ := Connection.write_eq rfl torn
    exact (handleRound_respond rfl large).trans
      (congrArg (fun left => some (left.1.flush ⟨[], false⟩)) wrote)
  have second : ∀ wire, handleRound .release64 largeFirst true ⟨⟨wire, [], 0⟩, false⟩
      (emptyRound 2 [] [48]) = some ⟨⟨wire ++ secondFrame, [], 0⟩, false⟩ := by
    intro wire
    rw [handleRound, small]
    rfl
  refine ⟨_, Transition.run_cons.mpr ⟨_, first, Transition.run_cons.mpr ⟨_, second _, rfl⟩⟩, rfl, ?_⟩
  have halves : (List.replicate 60000 0 : Bytes) = List.replicate 30000 0 ++ List.replicate 30000 0 := by
    rw [List.replicate_append_replicate]
  have largeFrame : responseTo .release64 largeFirst (emptyRound 1 [48, 30000] []) =
      some ((largeResponse 60000).header.encode ++ List.replicate 30000 0 ++ List.replicate 30000 0) := by
    simp only [responseTo, large, List.flatten_cons, List.flatten_nil, List.append_nil, halves,
      List.append_assoc]
  have smallFrame : responseTo .release64 largeFirst (emptyRound 2 [] [48]) = some secondFrame := by
    rw [responseTo, small]
    rfl
  rw [List.filterMap_cons_some largeFrame, List.filterMap_cons_some smallFrame, List.filterMap_nil]
  -- A frame starts with its length, and the body that was cut off goes on with zeros.
  refine BufWriter.not_aligned_of_torn (List.append_ne_nil_of_left_ne_nil header _) ?_
  intro more front
  exact absurd (List.cons_prefix_cons.mp (show 48 :: secondFrame.tail <+: 0 :: _ from front)).1
    (by decide)

end Repe
