import Repe.Io.Write
import Repe.Lib.BufWriter
import Repe.Lib.Transition
import Repe.Wire.MessageLaws

/-! Requests of concurrent callers on one connection, written one at a time under the writer lock. -/

namespace Repe

inductive StreamClient where
  | blocking
  | async
  deriving DecidableEq, Repr

/-- A caller of a future-based client can drop the future at any await. -/
def StreamClient.cancellable : StreamClient → Bool
  | .blocking => false
  | .async => true

/-- The blocks `write_request` hands to the buffered writer. -/
def StreamClient.write : StreamClient → Message → List Bytes
  | .blocking => writeMessage
  | .async => writeMessageAsync

/-- The buffered writer of the standard library keeps all of a large block out of its buffer. -/
def StreamClient.bypass : StreamClient → Bool
  | .blocking => true
  | .async => false

def requestBuffer : Nat := 8192

structure Holder where
  frame : Bytes
  room : Nat
  left : List Bytes
  deriving DecidableEq, Repr

structure RequestWriter where
  writer : BufWriter UInt8
  holder : Option Holder
  shut : Bool
  deriving DecidableEq, Repr

/-- What the callers, the socket, and the response loop do next. -/
inductive WriteEvent where
  | lock (request : Message)
  | take (count : Nat)
  | finish
  | fail
  | cancel
  | shutdown
  deriving DecidableEq, Repr

namespace RequestWriter

def connected : RequestWriter := ⟨.empty, none, false⟩

/-- The holder waits for the socket, with blocks to write or a buffer to flush. -/
def waits (state : RequestWriter) (holder : Holder) : Bool :=
  !(holder.left.isEmpty && state.writer.buffer.isEmpty)

/--
One step of `write_request` in some caller, or of the machinery around it.

Nothing here records that a frame was left incomplete: an error returns and a dropped future vanishes,
and both leave the lock to the next caller.
-/
def step (client : StreamClient) (state : RequestWriter) : WriteEvent → Option RequestWriter
  | .lock request =>
    if state.holder.isSome then none
    else
      let blocks := client.write request
      let (writer, left) := state.writer.settle requestBuffer blocks
      some { state with
        writer := writer
        holder := some ⟨blocks.flatten, requestBuffer - state.writer.occupied, left⟩ }
  | .take count => state.holder.bind fun holder =>
      if state.shut then none
      else
        -- With no block left this is the flush.
        let (writer, left) :=
          state.writer.advance requestBuffer client.bypass holder.left count
        some { state with writer := writer, holder := some { holder with left := left } }
  | .finish => state.holder.bind fun holder =>
      if state.waits holder then none else some { state with holder := none }
  | .fail => state.holder.bind fun holder =>
      if state.waits holder then some { state with writer := state.writer.drain, holder := none }
      else none
  | .cancel => state.holder.bind fun holder =>
      -- A future is dropped while it waits, and then without the cleanup of an error.
      if client.cancellable && state.waits holder then some { state with holder := none } else none
  -- The response loop takes the lock itself before it shuts the connection down.
  | .shutdown => if state.holder.isNone then some { state with shut := true } else none

/-- The frame of the request that takes the lock in this event, if it is one. -/
def lockedBy : WriteEvent → Option Bytes
  | .lock request => some request.toVec
  | _ => none

/--
A request is given up only where the buffer has all of it.

Either its frame fitted into the buffered writer when it took the lock, or the socket has taken enough
of it for the rest to be there.
-/
def Unbroken (state : RequestWriter) (event : WriteEvent) : Prop :=
  event = .fail ∨ event = .cancel →
    ∀ holder ∈ state.holder, holder.frame.length ≤ holder.room ∨ holder.left = []

instance (state : RequestWriter) (event : WriteEvent) : Decidable (Unbroken state event) :=
  inferInstanceAs (Decidable (_ ∨ _ → ∀ holder ∈ state.holder, _ ∨ _))

section Laws

variable {client : StreamClient} {state after : RequestWriter} {event : WriteEvent}

theorem step_lock {request : Message} (taken : step client state (.lock request) = some after) :
    state.holder = none ∧ after = { state with
      writer := (state.writer.settle requestBuffer (client.write request)).1
      holder := some ⟨(client.write request).flatten, requestBuffer - state.writer.occupied,
        (state.writer.settle requestBuffer (client.write request)).2⟩ } := by
  rw [step] at taken
  -- The lock is refused while somebody has it.
  split at taken
  · cases taken
  · next free => exact ⟨by simpa using free, (Option.some.inj taken).symm⟩

theorem write_flatten (client : StreamClient) (request : Message) :
    (client.write request).flatten = request.toVec := by
  -- Empty parts are not written at all.
  have blocks : client.write request = request.writeTo := by cases client <;> rfl
  rw [blocks, Message.writeTo, Message.toVec_eq]
  cases request.query <;> cases request.body <;> simp

theorem write_cons (client : StreamClient) (request : Message) :
    ∃ rest, client.write request = request.header.encode :: rest := by
  cases client <;> exact ⟨_, rfl⟩

/-- Everything a step can do besides taking the lock, by what becomes of the holder. -/
theorem step_cases (taken : step client state event = some after) :
    (∃ request, event = .lock request) ∨
      (lockedBy event = none ∧ ∃ holder count, state.holder = some holder ∧
        after.writer = (state.writer.advance requestBuffer client.bypass holder.left count).1 ∧
        after.holder = some { holder with
          left := (state.writer.advance requestBuffer client.bypass holder.left count).2 }) ∨
      (lockedBy event = none ∧ ∃ holder, state.holder = some holder ∧ after.holder = none ∧
        after.writer.stream = state.writer.stream ∧
        (holder.left = [] ∨ event = .fail ∨ event = .cancel)) ∨
      (lockedBy event = none ∧ after.holder = state.holder ∧ after.writer = state.writer) := by
  cases event with
  | lock request => exact .inl ⟨request, rfl⟩
  | take count =>
    obtain ⟨holder, held, moved⟩ := Option.bind_eq_some_iff.mp taken
    split at moved
    · cases moved
    · cases moved
      exact .inr (.inl ⟨rfl, holder, count, held, rfl, rfl⟩)
  | finish =>
    obtain ⟨holder, held, freed⟩ := Option.bind_eq_some_iff.mp taken
    split at freed
    · cases freed
    · next idle =>
      cases freed
      -- A request that does not wait has nothing left.
      have nothing : holder.left = [] ∧ state.writer.buffer = [] := by simpa [waits] using idle
      exact .inr (.inr (.inl ⟨rfl, holder, held, rfl, rfl, .inl nothing.1⟩))
  | fail =>
    obtain ⟨holder, held, freed⟩ := Option.bind_eq_some_iff.mp taken
    split at freed
    · cases freed
      exact .inr (.inr (.inl ⟨rfl, holder, held, rfl, rfl, .inr (.inl rfl)⟩))
    · cases freed
  | cancel =>
    obtain ⟨holder, held, freed⟩ := Option.bind_eq_some_iff.mp taken
    split at freed
    · cases freed
      exact .inr (.inr (.inl ⟨rfl, holder, held, rfl, rfl, .inr (.inr rfl)⟩))
    · cases freed
  | shutdown =>
    rw [step] at taken
    split at taken
    · cases taken
      exact .inr (.inr (.inr ⟨rfl, rfl, rfl⟩))
    · cases taken

/-- What the buffered writer accepted and what its holder still has, for the requests so far. -/
structure Carries (state : RequestWriter) (frames : List Bytes) : Prop where
  stream : state.writer.stream ++ (state.holder.elim [] Holder.left).flatten = frames.flatten
  -- A frame that fitted was accepted at once.
  fitted : ∀ holder, state.holder = some holder → holder.frame.length ≤ holder.room →
    holder.left = []

/-- A step that meets the condition adds the frame of the request that takes the lock, if one does. -/
theorem step_carries {frames : List Bytes} (carries : state.Carries frames)
    (unbroken : Unbroken state event) (taken : step client state event = some after) :
    after.Carries (frames ++ (lockedBy event).toList) := by
  have stream := carries.stream
  rcases step_cases taken with ⟨request, rfl⟩ | ⟨other, holder, count, held, wrote, kept⟩
    | ⟨other, holder, held, freed, same, cause⟩ | ⟨other, same, writer⟩
  · obtain ⟨free, rfl⟩ := step_lock taken
    have settled := @BufWriter.settle_stream _ requestBuffer state.writer (client.write request)
    rw [free, Option.elim_none, List.flatten_nil, List.append_nil] at stream
    constructor
    · show _ ++ (state.writer.settle requestBuffer (client.write request)).2.flatten = _
      rw [settled, stream, write_flatten]
      simp [lockedBy]
    · intro holder same fits
      cases same
      obtain ⟨rest, blocks⟩ := write_cons client request
      have header : request.header.encode ≠ [] := by
        rw [← List.length_pos_iff, Header.encode_length]
        decide
      have framed : 0 < (client.write request).flatten.length := by
        rw [blocks, List.flatten_cons, List.length_append, Header.encode_length]
        exact Nat.add_pos_left (by decide) _
      -- All blocks are accepted before the socket is asked for anything.
      dsimp only at fits ⊢
      have room : state.writer.occupied + (client.write request).flatten.length ≤ requestBuffer := by
        omega
      apply BufWriter.settle_fits _ _ _ room
      rw [blocks] at room ⊢
      exact BufWriter.small_of_fits header (by rw [Header.encode_length]; decide) (by omega)
  · -- The socket takes bytes in their order.
    have moved :=
      @BufWriter.advance_stream _ requestBuffer client.bypass state.writer holder.left count
    rw [held] at stream
    rw [other, Option.toList_none, List.append_nil]
    constructor
    · rw [kept, wrote]
      exact moved.trans stream
    · intro next same fits
      rw [kept] at same
      cases same
      show (state.writer.advance requestBuffer client.bypass holder.left count).2 = []
      rw [carries.fitted holder held fits, BufWriter.advance_nil]
  · -- Whoever gives the lock back has left nothing.
    have nothing : holder.left = [] := by
      rcases cause with nothing | given
      · exact nothing
      · rcases unbroken given holder held with fits | nothing
        · exact carries.fitted holder held fits
        · exact nothing
    rw [held, Option.elim_some, nothing] at stream
    rw [other, Option.toList_none, List.append_nil]
    refine ⟨?_, fun next some => ?_⟩
    · rw [freed, same]
      exact stream
    · rw [freed] at some
      cases some
  · rw [other, Option.toList_none, List.append_nil]
    refine ⟨?_, fun holder held => carries.fitted holder (same ▸ held)⟩
    rw [same, writer]
    exact stream

theorem run_carries {events : List WriteEvent} {frames : List Bytes} (carries : state.Carries frames)
    (meets : Transition.Meets (step client) Unbroken state events)
    (ran : Transition.run (step client) state events = some after) :
    after.Carries (frames ++ events.filterMap lockedBy) := by
  -- From any state on, so that the first event can be taken off.
  induction events generalizing state frames with
  | nil =>
    cases ran
    simpa using carries
  | cons event events ih =>
    obtain ⟨between, taken, rest⟩ := Transition.run_cons.mp ran
    have carried := ih (step_carries carries meets.1 taken) (meets.2 between taken) rest
    cases locked : lockedBy event with
    | none => simpa [locked] using carried
    | some frame => simpa [locked] using carried

end Laws

/--
A connection shared by concurrent callers carries the front of whole requests, as long as no request
that the buffer has no room for is given up in the middle.

A flush may fail or be dropped anywhere.
-/
theorem requests_aligned (client : StreamClient) {events : List WriteEvent} {state : RequestWriter}
    (meets : Transition.Meets (step client) Unbroken .connected events)
    (ran : Transition.run (step client) .connected events = some state) :
    state.writer.wire <+: (events.filterMap lockedBy).flatten := by
  have start : connected.Carries [] := ⟨rfl, nofun⟩
  have carried := (run_carries start meets ran).stream
  rw [List.nil_append] at carried
  -- The buffer and the holder have the rest of the frames.
  exact (BufWriter.wire_front _).trans ⟨_, carried⟩

def emptyRequest (id : UInt64) : Message := MessageBuilder.build { id }

/-- A request whose flush is given up leaves the connection at the front of whole frames. -/
theorem requests_aligned_last :
    let events : List WriteEvent := [.lock (emptyRequest 1), .take 10, .cancel,
      .lock (emptyRequest 2), .take 70]
    ∃ state, Transition.run (step .async) .connected events = some state ∧
      state.writer.wire = (emptyRequest 1).toVec ++ (emptyRequest 2).toVec.take 32 ∧
      state.writer.wire <+: (events.filterMap lockedBy).flatten := by
  exact ⟨_, rfl, by decide, requests_aligned .async (by decide) rfl⟩

def largeRequest (count : Nat) : Message :=
  ⟨{ (emptyRequest 1).header with
      bodyLength := UInt64.ofNat count
      length := UInt64.ofNat (headerSize + count) }, [], List.replicate count 0⟩

/-- A large request that is given up once the socket has half of its body, and the next one. -/
def givenUp (ending : WriteEvent) : List WriteEvent :=
  [.lock (largeRequest 60000), .take 48, .take 30000, ending, .lock (emptyRequest 2), .take 48, .finish]

/-- What the socket has before the large request is given up. -/
def half : Bytes := (largeRequest 60000).header.encode ++ List.replicate 30000 0

theorem step_lock_eq {client : StreamClient} {writer settled : BufWriter UInt8} {request : Message}
    {left : List Bytes}
    (placed : writer.settle requestBuffer (client.write request) = (settled, left)) :
    step client ⟨writer, none, false⟩ (.lock request) =
      some ⟨settled, some ⟨(client.write request).flatten, requestBuffer - writer.occupied, left⟩,
        false⟩ := by
  simp [step, placed]

theorem step_take_eq {client : StreamClient} {writer moved : BufWriter UInt8} {holder : Holder}
    {count : Nat} {left : List Bytes}
    (moves : writer.advance requestBuffer client.bypass holder.left count = (moved, left)) :
    step client ⟨writer, some holder, false⟩ (.take count) =
      some ⟨moved, some { holder with left := left }, false⟩ := by
  simp [step, moves]

/-- The large request waits for the socket until it is given up. -/
theorem run_half (client : StreamClient) :
    ∃ holder, Transition.run (step client) .connected
        [.lock (largeRequest 60000), .take 48, .take 30000] =
          some ⟨⟨half, [], 0⟩, some holder, false⟩ ∧ holder.left ≠ [] := by
  have blocks : client.write (largeRequest 60000) =
      [(largeRequest 60000).header.encode, List.replicate 60000 0] := by cases client <;> rfl
  have header : (largeRequest 60000).header.encode ≠ [] := by
    rw [← List.length_pos_iff, Header.encode_length]
    decide
  have large : requestBuffer + 30000 ≤ (List.replicate 60000 (0 : UInt8)).length := by
    rw [List.length_replicate]
    decide
  have whole := Nat.le_of_add_right_le large
  -- The header is buffered, and the body waits for it to leave.
  have placed := @BufWriter.settle_large UInt8 requestBuffer [] (List.replicate 60000 0)
    (largeRequest 60000).header.encode (by rw [Header.encode_length]; decide) whole
  rw [← blocks] at placed
  have emptied := @BufWriter.advance_emptied UInt8 requestBuffer client.bypass []
    (List.replicate 60000 0) _ header whole
  rw [Header.encode_length, List.nil_append] at emptied
  -- Then the body goes to the socket itself.
  have halved := @BufWriter.advance_large UInt8 requestBuffer 30000 client.bypass
    (largeRequest 60000).header.encode (List.replicate 60000 0) large (by decide)
  rw [List.take_replicate, List.drop_replicate] at halved
  exact ⟨_, Transition.run_cons.mpr ⟨_, step_lock_eq placed, Transition.run_cons.mpr ⟨_,
    step_take_eq emptied, Transition.run_cons.mpr ⟨_, step_take_eq halved, rfl⟩⟩⟩, nofun⟩

theorem run_next (client : StreamClient) (wire : Bytes) :
    Transition.run (step client) ⟨⟨wire, [], 0⟩, none, false⟩
        [.lock (emptyRequest 2), .take 48, .finish] =
      some ⟨⟨wire ++ (emptyRequest 2).toVec, [], 0⟩, none, false⟩ := by
  cases client <;> rfl

/-- A request that is given up in the middle, in whatever way, has the next one inside its frame. -/
theorem torn_of_given_up {client : StreamClient} {ending : WriteEvent}
    (other : lockedBy ending = none)
    (gives : ∀ wire holder, holder.left ≠ [] →
      step client ⟨⟨wire, [], 0⟩, some holder, false⟩ ending = some ⟨⟨wire, [], 0⟩, none, false⟩) :
    ∃ state, Transition.run (step client) .connected (givenUp ending) = some state ∧
      state.writer.wire = half ++ (emptyRequest 2).toVec ∧
      ¬ ∃ frames : List Bytes, frames.Sublist ((givenUp ending).filterMap lockedBy) ∧
        state.writer.wire <+: frames.flatten := by
  obtain ⟨holder, ran, waits⟩ := run_half client
  have run : Transition.run (step client) .connected (givenUp ending) =
      some ⟨⟨half ++ (emptyRequest 2).toVec, [], 0⟩, none, false⟩ :=
    (Transition.run_append _ ran).trans
      (Transition.run_cons.mpr ⟨_, gives half holder waits, run_next client half⟩)
  refine ⟨_, run, rfl, ?_⟩
  have frame : (largeRequest 60000).toVec = half ++ List.replicate 30000 0 := by
    rw [half, List.append_assoc, List.replicate_append_replicate, Message.toVec_eq]
    rfl
  have frames : (givenUp ending).filterMap lockedBy =
      [half ++ List.replicate 30000 0, (emptyRequest 2).toVec] := by
    have behind : (ending :: [.lock (emptyRequest 2), .take 48, .finish]).filterMap lockedBy =
        [(emptyRequest 2).toVec] := List.filterMap_cons_none other
    rw [← frame, ← behind]
    rfl
  rw [frames]
  -- A frame starts with its length, and the body that was given up goes on with zeros.
  have header : (largeRequest 60000).header.encode ≠ [] := by
    rw [← List.length_pos_iff, Header.encode_length]
    decide
  refine BufWriter.not_aligned_of_torn (List.append_ne_nil_of_left_ne_nil header _) ?_
  intro more front
  exact absurd (List.cons_prefix_cons.mp
    (show 48 :: (emptyRequest 2).toVec.tail <+: 0 :: _ from front)).1 (by decide)

/--
A body of 60000 bytes bypasses the buffer, so its write waits for the socket.

After an error on one client, or a dropped future on the other, the next request ends up inside the
frame of the first.
-/
theorem requests_torn :
    (∃ state, Transition.run (step .blocking) .connected (givenUp .fail) = some state ∧
      state.writer.wire = half ++ (emptyRequest 2).toVec ∧
      ¬ ∃ frames : List Bytes, frames.Sublist ((givenUp .fail).filterMap lockedBy) ∧
        state.writer.wire <+: frames.flatten) ∧
    (∃ state, Transition.run (step .async) .connected (givenUp .cancel) = some state ∧
      state.writer.wire = half ++ (emptyRequest 2).toVec ∧
      ¬ ∃ frames : List Bytes, frames.Sublist ((givenUp .cancel).filterMap lockedBy) ∧
        state.writer.wire <+: frames.flatten) := by
  -- The two clients differ in the event that gives the request up.
  refine ⟨torn_of_given_up rfl ?_, torn_of_given_up rfl ?_⟩
  · intro wire holder left
    simp [step, waits, left, BufWriter.drain]
  · intro wire holder left
    simp [step, waits, left, StreamClient.cancellable]

end RequestWriter

end Repe
