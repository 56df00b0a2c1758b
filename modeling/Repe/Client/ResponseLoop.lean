import Repe.Io.ReadLaws

/-! The blocking client's response loop, which retries a message after an interrupted read. -/

namespace Repe

open ByteStream

variable {σ : Type}

inductive LoopEnd where
  | running
  | failed (error : RepeError)
  | panicked
  deriving DecidableEq, Repr

/-- The responses a loop handed on to dispatch, in order, and how it stands. -/
structure LoopRun where
  dispatched : List Message
  ending : LoopEnd
  deriving DecidableEq, Repr

def RepeError.isInterrupted : RepeError → Bool
  | .io error => error.kind == .interrupted
  | _ => false

/--
The thread that reads responses, run for a number of rounds.

An interrupted read starts the next message, whatever the failed call had already taken.
-/
def responseLoop (read : Proc σ RepeError Message) : Nat → σ → LoopRun
  | 0, _ => ⟨[], .running⟩
  | rounds + 1, state =>
    match read state with
    | (.ok response, after) =>
      -- A response is dispatched before the next one is read.
      let later := responseLoop read rounds after
      ⟨response :: later.dispatched, later.ending⟩
    | (.err error, after) =>
      -- Nothing is put back: the next round starts where the failed read stopped.
      if error.isInterrupted then responseLoop read rounds after else ⟨[], .failed error⟩
    | (.panic, _) => ⟨[], .panicked⟩

/-- The loop reads through a buffer of the given capacity, from a socket. -/
def clientLoop (t : Target) (capacity rounds : Nat) (schedule : List (Arrival IoError)) : LoopRun :=
  responseLoop (readMessage t (buffered socket capacity)) rounds ([], schedule)

/-- The loop ends after dispatching exactly these responses, in this order. -/
def Dispatches (read : Proc σ RepeError Message) (state : σ) (frames : List Message) : Prop :=
  ∃ rounds, (responseLoop read rounds state).dispatched = frames ∧
    (responseLoop read rounds state).ending ≠ .running

/-- A loop over a refining reader runs like the loop over the stream. -/
theorem responseLoop_refines {ahead : σ → Incoming} {read : Proc σ RepeError Message}
    {read' : Proc Incoming RepeError Message}
    (refines : Proc.Refines (fun _ => True) ahead read read') (rounds : Nat) (state : σ) :
    responseLoop read rounds state = responseLoop read' rounds (ahead state) := by
  -- Outcomes agree in every round, and so do the streams the next round starts from.
  induction rounds generalizing state with
  | zero => rfl
  | succ rounds ih =>
    obtain ⟨outcome, states⟩ := refines state
    rw [responseLoop, responseLoop]
    rcases run : read state with ⟨_ | _ | _, after⟩ <;>
      rcases run' : read' (ahead state) with ⟨_ | _ | _, after'⟩ <;>
      simp only [run, run', Exec.ok.injEq, Exec.err.injEq, reduceCtorEq] at outcome states ⊢
    · -- Both loops have read the same response.
      have same := states (by simp) (by simp)
      rw [ih after, outcome, same]
    · have same := states (by simp) (by simp)
      rw [ih after, outcome, same]

section Stream

variable (t : Target) {eof : IoError} {room : Message → Prop}
  {read : Proc Incoming RepeError Message}

theorem responseLoop_frame (reads : ReadsFrames t eof room read) {message : Message}
    (held : message.WellFormed t ∧ room message) (rounds : Nat) (rest : Incoming) :
    responseLoop read (rounds + 1) (message.toVec.map .byte ++ rest)
      = ⟨message :: (responseLoop read rounds rest).dispatched,
          (responseLoop read rounds rest).ending⟩ := by
  rw [responseLoop, reads.whole.mpr ⟨held, rfl⟩]

theorem responseLoop_interrupted (reads : ReadsFrames t eof room read) {message : Message}
    (held : message.WellFormed t ∧ room message) {part lost : Bytes}
    (split : part ++ lost = message.toVec) (missing : lost ≠ []) {error : IoError}
    (kind : error.kind = .interrupted) (rounds : Nat)
    (rest : Incoming) :
    responseLoop read (rounds + 1) (part.map .byte ++ .fault error :: rest)
      = responseLoop read rounds rest := by
  -- The read fails with the fault, and the loop takes that for a reason to go on.
  have retried : (RepeError.io error).isInterrupted = true := by simp [RepeError.isInterrupted, kind]
  rw [responseLoop, reads.inside held.1 held.2 split missing (stops_fault eof error rest)]
  simp only [retried, if_true]

theorem empty_wellFormed : (MessageBuilder.build {}).WellFormed t :=
  Message.build_wellFormed t {} (by decide) (t.small_addressable (by decide))

theorem empty_toVec_ne_nil : (MessageBuilder.build {}).toVec ≠ [] := by
  -- Even an empty message has a header.
  intro empty
  have length := congrArg List.length empty
  simp [headerSize] at length

theorem responseLoop_end (reads : ReadsFrames t eof room read) (spare : room (MessageBuilder.build {}))
    (kind : eof.kind ≠ .interrupted) (rounds : Nat) :
    responseLoop read (rounds + 1) [] = ⟨[], .failed (.io eof)⟩ := by
  -- No byte of the next frame arrives, so that frame is cut before its first byte.
  have stopped : read ([] : Incoming) = (.err (.io eof), []) :=
    reads.inside (empty_wellFormed t) spare (List.nil_append _) empty_toVec_ne_nil (stops_nil eof)
  rw [responseLoop, stopped]
  simp [RepeError.isInterrupted, kind]

/-- Only bytes of the stream are dispatched: the loop cannot make up a frame. -/
theorem dispatched_length (reads : ReadsFrames t eof room read) (rounds : Nat) (items : Incoming) :
    (framesOf (responseLoop read rounds items).dispatched).length ≤ (bytesOf items).length := by
  -- The bound is on what is still ahead, so it is kept from round to round.
  induction rounds generalizing items with
  | zero => simp [responseLoop, framesOf]
  | succ rounds ih =>
    have moved := reads.forward items
    rw [responseLoop]
    rcases run : read items with ⟨_ | _ | _, after⟩ <;> rw [run] at moved <;> simp only
    · -- A dispatched frame was taken whole, and later rounds live on what is behind it.
      obtain ⟨_, taken⟩ := reads.whole.mp run
      have later := ih after
      simp only [taken, framesOf_cons, List.length_append, bytesOf_append, bytesOf_map]
      omega
    · -- A retried round dispatches nothing and does not move back.
      split
      · exact Nat.le_trans (ih after) (bytesOf_suffix moved)
      · simp [framesOf]
    · simp [framesOf]

/-- Every fault of the stream comes after a whole number of frames. -/
def AtBoundaries (frames : List Message) (items : Incoming) : Prop :=
  ∀ before error after, items = before ++ .fault error :: after →
    ∃ count, bytesOf before = framesOf (frames.take count)

/-- A stream that carries these frames goes on in one of four ways. -/
theorem next_of_frames {frames : List Message} {items : Incoming}
    (carries : bytesOf items = framesOf frames) :
    (items = [] ∧ frames = []) ∨
      (∃ error rest, items = .fault error :: rest) ∨
      (∃ message later rest, frames = message :: later ∧
        message.toVec.map .byte ++ rest = items) ∨
      (∃ message later part lost error rest, frames = message :: later ∧ part ≠ [] ∧ lost ≠ [] ∧
        part ++ lost = message.toVec ∧ part.map .byte ++ .fault error :: rest = items) := by
  cases frames with
  | nil =>
    -- No byte is left, so the next item can only be a fault.
    rcases items with _ | ⟨value | error, rest⟩
    · exact .inl ⟨rfl, rfl⟩
    · cases carries
    · exact .inr (.inl ⟨error, rest, rfl⟩)
  | cons message later =>
    rw [framesOf_cons] at carries
    rcases split_at_fault items with ⟨bytes, rfl⟩ | ⟨bytes, error, rest, rfl⟩
    · -- Without a fault the first frame is in front of the stream.
      rw [bytesOf_map] at carries
      exact .inr (.inr (.inl ⟨message, later, (framesOf later).map .byte, rfl, by simp [carries]⟩))
    · rw [bytesOf_append, bytesOf_map] at carries
      -- The first fault falls inside the first frame, before it, or behind it.
      rcases append_cut carries with ⟨lost, missing, split⟩ | ⟨more, whole, _⟩
      · cases bytes with
        | nil => exact .inr (.inl ⟨error, rest, rfl⟩)
        | cons value bytes =>
          exact .inr (.inr (.inr ⟨message, later, value :: bytes, lost, error, rest, rfl, by simp,
            missing, split, rfl⟩))
      · exact .inr (.inr (.inl ⟨message, later, more.map .byte ++ .fault error :: rest, rfl,
          by simp [whole]⟩))

/-- A leading fault is at a boundary, and only the rest of the stream matters. -/
theorem atBoundaries_fault {frames : List Message} {error : IoError} {rest : Incoming} :
    AtBoundaries frames (.fault error :: rest) ↔ AtBoundaries frames rest := by
  constructor
  · -- A fault of the rest is a fault of the whole stream.
    intro aligned before error' after split
    exact aligned (.fault error :: before) error' after (by rw [split]; rfl)
  · intro aligned before error' after split
    -- Nothing is before the leading fault itself.
    cases before with
    | nil => exact ⟨0, rfl⟩
    | cons item before =>
      obtain ⟨rfl, tail⟩ := List.cons.inj split
      exact aligned before error' after tail

/-- A leading frame is whole, and only the frames and the stream behind it matter. -/
theorem atBoundaries_frame {message : Message} {later : List Message} {rest : Incoming} :
    AtBoundaries (message :: later) (message.toVec.map .byte ++ rest) ↔ AtBoundaries later rest := by
  constructor
  · intro aligned before error after split
    -- Put the frame back in front of what is before the fault.
    obtain ⟨count, bytes⟩ := aligned (message.toVec.map .byte ++ before) error after
      (by rw [split, List.append_assoc])
    rw [bytesOf_append, bytesOf_map] at bytes
    cases count with
    | zero =>
      -- No frame at all would leave no room for the one in front.
      have length := congrArg List.length bytes
      simp only [List.length_append, Message.toVec_length, headerSize, List.take_zero, framesOf,
        List.flatMap_nil, List.length_nil] at length
      omega
    | succ count =>
      rw [List.take_succ_cons, framesOf_cons] at bytes
      exact ⟨count, List.append_cancel_left bytes⟩
  · intro aligned before error after split
    -- The fault is not among the bytes of the frame, so it lies behind them.
    rcases List.append_eq_append_iff.mp split with ⟨more, whole, tail⟩ | ⟨more, front, tail⟩
    · obtain ⟨count, bytes⟩ := aligned more error after tail
      exact ⟨count + 1, by simp [whole, bytes]⟩
    · cases more with
      | nil =>
        obtain ⟨count, bytes⟩ := aligned [] error after tail.symm
        have whole : before = message.toVec.map .byte := by simpa using front.symm
        exact ⟨count + 1, by simp [whole, ← bytes, bytesOf]⟩
      | cons item more =>
        obtain ⟨rfl, _⟩ := List.cons.inj tail
        have member : Item.fault error ∈ message.toVec.map (Item.byte (ε := IoError)) := by
          rw [front]
          simp
        simp at member

theorem not_atBoundaries_inside {message : Message} {later : List Message} {part lost : Bytes}
    {error : IoError} {rest : Incoming} (some : part ≠ []) (missing : lost ≠ [])
    (split : part ++ lost = message.toVec) :
    ¬ AtBoundaries (message :: later) (part.map .byte ++ .fault error :: rest) := by
  -- The bytes before the fault are more than no frame and less than the first one.
  intro aligned
  obtain ⟨count, bytes⟩ := aligned (part.map .byte) error rest rfl
  rw [bytesOf_map] at bytes
  cases count with
  | zero => exact some bytes
  | succ count =>
    have short := length_lt_of_missing split missing
    have length := congrArg List.length bytes
    rw [List.take_succ_cons, framesOf_cons, List.length_append] at length
    omega

/-- A first round that goes on changes nothing about what the later rounds dispatch. -/
theorem dispatches_retry {items rest : Incoming} {frames : List Message}
    (round : ∀ rounds, responseLoop read (rounds + 1) items = responseLoop read rounds rest) :
    Dispatches read items frames ↔ Dispatches read rest frames := by
  constructor
  · -- One of the rounds went into the retry.
    rintro ⟨rounds, dispatched, ended⟩
    cases rounds with
    | zero => exact absurd rfl ended
    | succ rounds =>
      rw [round] at dispatched ended
      exact ⟨rounds, dispatched, ended⟩
  · rintro ⟨rounds, dispatched, ended⟩
    exact ⟨rounds + 1, by rw [round]; exact dispatched, by rw [round]; exact ended⟩

/-- A whole frame is dispatched first. -/
theorem dispatches_frame (reads : ReadsFrames t eof room read) {message : Message}
    (held : message.WellFormed t ∧ room message) {later : List Message} {rest : Incoming} :
    Dispatches read (message.toVec.map .byte ++ rest) (message :: later) ↔
      Dispatches read rest later := by
  constructor
  · -- The first round has dispatched the frame in front.
    rintro ⟨rounds, dispatched, ended⟩
    cases rounds with
    | zero => exact absurd rfl ended
    | succ rounds =>
      rw [responseLoop_frame t reads held] at dispatched ended
      exact ⟨rounds, (List.cons.inj dispatched).2, ended⟩
  · rintro ⟨rounds, dispatched, ended⟩
    refine ⟨rounds + 1, ?_, ?_⟩ <;> rw [responseLoop_frame t reads held]
    · rw [dispatched]
    · exact ended

/--
The loop dispatches exactly the frames sent when every fault falls between two frames, and only then.

A fault inside a frame costs the bytes already taken, so fewer bytes are left than the remaining frames
need.
-/
theorem dispatches_iff (reads : ReadsFrames t eof room read) (spare : room (MessageBuilder.build {}))
    (kind : eof.kind ≠ .interrupted) {frames : List Message}
    (held : ∀ message ∈ frames, message.WellFormed t ∧ room message) {items : Incoming}
    (faults : ∀ error, .fault error ∈ items → error.kind = .interrupted)
    (carries : bytesOf items = framesOf frames) :
    Dispatches read items frames ↔ AtBoundaries frames items := by
  -- Each round leaves a shorter stream, so the argument is by induction on its length.
  induction size : items.length using Nat.strong_induction_on generalizing frames items with
  | _ size ih =>
    subst size
    rcases next_of_frames carries with
      ⟨rfl, rfl⟩ | ⟨error, rest, rfl⟩ | ⟨message, later, rest, rfl, rfl⟩
        | ⟨message, later, part, lost, error, rest, rfl, some, missing, split, rfl⟩
    · -- The stream is finished, and so are the frames.
      refine iff_of_true ⟨1, ?_, ?_⟩ ?_
      · rw [responseLoop_end t reads spare kind]
      · rw [responseLoop_end t reads spare kind]
        simp
      · intro before error after split
        simp at split
    · -- A fault at a boundary is retried and costs nothing.
      have interrupted := faults error (List.mem_cons_self)
      have retried : ∀ rounds, responseLoop read (rounds + 1) (.fault error :: rest)
          = responseLoop read rounds rest := fun rounds =>
        responseLoop_interrupted t reads ⟨empty_wellFormed t, spare⟩ (List.nil_append _)
          empty_toVec_ne_nil interrupted rounds rest
      rw [dispatches_retry retried, atBoundaries_fault]
      exact ih rest.length (by simp) held
        (fun error found => faults error (List.mem_cons_of_mem _ found)) carries rfl
    · -- A whole frame is dispatched.
      obtain ⟨first, others⟩ := List.forall_mem_cons.mp held
      rw [dispatches_frame t reads first, atBoundaries_frame]
      refine ih rest.length ?_ others
        (fun error found => faults error (List.mem_append_right _ found)) ?_ rfl
      · simp only [List.length_append, List.length_map, Message.toVec_length, headerSize]
        omega
      · rw [bytesOf_append, bytesOf_map, framesOf_cons] at carries
        exact List.append_cancel_left carries
    · -- A fault inside a frame loses bytes that the frames still to come cannot do without.
      refine iff_of_false ?_ (not_atBoundaries_inside some missing split)
      have first := held message List.mem_cons_self
      have interrupted := faults error (by simp)
      rw [dispatches_retry
        (responseLoop_interrupted t reads first split missing interrupted · rest)]
      rintro ⟨rounds, dispatched, _⟩
      have available := dispatched_length t reads rounds rest
      have taken : 0 < part.length := List.length_pos_iff.mpr some
      have sent := congrArg List.length carries
      rw [bytesOf_append, bytesOf_map, List.length_append] at sent
      simp only [bytesOf] at sent
      rw [dispatched] at available
      omega

end Stream

/--
The blocking client dispatches exactly the responses sent when, and only when, every interrupted read
happens between two of them.

The socket delivers the frames in pieces of any size, with interrupted reads anywhere, and the client
reads through a buffer of any capacity.
A response's query and body are vectors, so neither is larger than `isize::MAX`.
-/
theorem clientLoop_dispatches_iff (t : Target) (capacity : Nat) (frames : List Message)
    (wellFormed : ∀ message ∈ frames, message.WellFormed t ∧ message.InVectors t)
    (schedule : List (Arrival IoError))
    (faults : ∀ error, .fault error ∈ arriving schedule → error.kind = .interrupted)
    (carries : bytesOf (arriving schedule) = framesOf frames) :
    (∃ rounds, (clientLoop t capacity rounds schedule).dispatched = frames ∧
        (clientLoop t capacity rounds schedule).ending ≠ .running) ↔
      ∀ before error after, arriving schedule = before ++ .fault error :: after →
        ∃ count, bytesOf before = framesOf (frames.take count) := by
  -- Neither the buffer nor the pieces matter: the loop runs as it would on the stream itself.
  have refines : Proc.Refines (fun _ => True)
      (fun state : Bytes × List (Arrival IoError) => state.1.map .byte ++ arriving state.2)
      (readMessage t (buffered socket capacity)) (readOwned t (exactBytes .unexpectedEof)) :=
    readOwned_refines t (readExact_refines (buffered_delivers capacity socket_delivers))
  have same : ∀ rounds, clientLoop t capacity rounds schedule
      = responseLoop (readOwned t (exactBytes .unexpectedEof)) rounds (arriving schedule) :=
    fun rounds => responseLoop_refines refines rounds ([], schedule)
  simp only [same]
  exact dispatches_iff t (readOwned_reads t _) ⟨Nat.zero_le _, Nat.zero_le _⟩ (by decide) wellFormed
    faults carries

/-- Two empty responses with an interrupted read between them. -/
def betweenSchedule : List (Arrival IoError) :=
  [.data 48 ([0, 0, 0, 0, 0, 0, 0, 7, 21, 1] ++ List.replicate 37 0), .fault .interrupted,
    .data 48 ([0, 0, 0, 0, 0, 0, 0, 7, 21, 1] ++ List.replicate 37 0)]

/-- An interrupted read between two responses costs nothing: both are dispatched. -/
theorem clientLoop_dispatches_between :
    ∃ rounds, (clientLoop .release64 8192 rounds betweenSchedule).dispatched
        = [MessageBuilder.build {}, MessageBuilder.build {}] ∧
      (clientLoop .release64 8192 rounds betweenSchedule).ending ≠ .running := by
  have split : arriving betweenSchedule = (MessageBuilder.build {}).toVec.map .byte
      ++ .fault .interrupted :: ((MessageBuilder.build {}).toVec.map .byte ++ []) := by decide
  refine (clientLoop_dispatches_iff .release64 8192
    [MessageBuilder.build {}, MessageBuilder.build {}] (by decide) betweenSchedule ?_
    (by decide)).mpr ?_
  · -- The one fault of the schedule is the interrupted read.
    intro error found
    rw [split] at found
    simp only [List.mem_append, List.mem_map, reduceCtorEq, and_false, exists_false, false_or,
      List.mem_cons, Item.fault.injEq, List.not_mem_nil, or_self, or_false] at found
    rw [found]
    rfl
  · change AtBoundaries _ (arriving betweenSchedule)
    rw [split, atBoundaries_frame, atBoundaries_fault, atBoundaries_frame]
    intro before error after impossible
    simp at impossible

/-- Two responses, the first of them interrupted after ten of its bytes. -/
def interruptedSchedule : List (Arrival IoError) :=
  [.data 48 [0, 0, 0, 0, 0, 0, 0, 7, 21], .fault .interrupted,
    .data 1 ([0, 0, 0, 0, 0, 1] ++ List.replicate 31 0
      ++ (MessageBuilder.build { id := 2 }).toVec)]

/--
An interrupted read inside a response loses both: the bytes before it are gone, and the next header is
read from the middle of a frame.
-/
theorem clientLoop_interrupted_inside :
    bytesOf (arriving interruptedSchedule)
        = framesOf [MessageBuilder.build { id := 1 }, MessageBuilder.build { id := 2 }] ∧
      clientLoop .release64 8192 2 interruptedSchedule = ⟨[], .failed (.invalidSpec 0)⟩ ∧
      ¬ ∃ rounds, (clientLoop .release64 8192 rounds interruptedSchedule).dispatched
          = [MessageBuilder.build { id := 1 }, MessageBuilder.build { id := 2 }] ∧
        (clientLoop .release64 8192 rounds interruptedSchedule).ending ≠ .running := by
  -- The second round reads a header that starts inside the first response.
  have ends : ∀ rounds, clientLoop .release64 8192 (rounds + 2) interruptedSchedule
      = ⟨[], .failed (.invalidSpec 0)⟩ := fun _ => rfl
  refine ⟨by decide, ends 0, ?_⟩
  rintro ⟨rounds, dispatched, ended⟩
  rcases rounds with _ | _ | rounds
  · exact ended rfl
  · exact ended rfl
  · rw [ends] at dispatched
    simp at dispatched

end Repe
