import Repe.Lib.Channel
import Repe.Lib.Transition
import Repe.Svs.Produce

/-! The consumer's end of a value stream: pulls with one chunk of lookahead, over a bounded channel. -/

namespace Repe.Svs

/-- What one pull answers: a chunk and whether it is the last, or the producer's failure. -/
abbrev Answer := Except String (Bytes × Bool)

/-- The failure reported for a channel that closed without a terminal message. -/
def producerVanished : String := "svs producer ended without completing"

/-- The failure reported for a pull on a stream that has ended. -/
def alreadyFinished : String := "svs next: stream already finished"

/-- An answer after which a stream has nothing more to give. -/
def Answer.ends : Answer → Bool
  | .ok (_, last) => last
  | .error _ => true

def Answer.isLast : Answer → Bool
  | .ok (_, last) => last
  | .error _ => false

/-- The state of a session, with the messages its receiver is going to get. -/
structure Session where
  rx : List Msg
  lookahead : Option Bytes
  done : Bool
  deriving DecidableEq, Repr

namespace Session

def new (messages : List Msg) : Session := ⟨messages, none, false⟩

/-- `recv`: a channel that closed is read as a failure. -/
def recv (session : Session) : Msg × Session :=
  match session.rx with
  | [] => (.fail producerVanished, session)
  | msg :: rest => (msg, { session with rx := rest })

/-- The second half of `pull`: what follows a chunk tells whether it is the last. -/
def follow (session : Session) (current : Bytes) : Answer × Session :=
  match session.recv with
  | (.chunk next, session) => (.ok (current, false), { session with lookahead := some next })
  | (.finished, session) => (.ok (current, true), session)
  | (.fail error, session) => (.error error, session)

/-- `pull`: the next chunk, which is the last if the producer finished behind it. -/
def pull (session : Session) : Answer × Session :=
  match session.lookahead with
  | some current => { session with lookahead := none }.follow current
  | none =>
    match session.recv with
    | (.chunk current, session) => session.follow current
    -- Only a body without any bytes finishes before its first chunk.
    | (.finished, session) => (.ok ([], true), session)
    | (.fail error, session) => (.error error, session)

/-- What `NextHandler::handle` does under the lock of the session. -/
def next (session : Session) : Answer × Session :=
  if session.done then (.error alreadyFinished, session)
  else
    let (answer, session) := session.pull
    (answer, { session with done := answer.ends })

end Session

/-- The answers that pulls still give, from a lookahead and the messages behind it. -/
def drain : Option Bytes → List Msg → List Answer
  | none, [] => [.error producerVanished]
  | none, .chunk current :: rest => drain (some current) rest
  | none, .finished :: _ => [.ok ([], true)]
  | none, .fail error :: _ => [.error error]
  | some _, [] => [.error producerVanished]
  | some current, .chunk next :: rest => .ok (current, false) :: drain (some next) rest
  | some current, .finished :: _ => [.ok (current, true)]
  | some _, .fail error :: _ => [.error error]

/-- The answers that pulls on a session still give before it is done. -/
def Session.remaining (session : Session) : List Answer :=
  if session.done then [] else drain session.lookahead session.rx

theorem Session.follow_drain (session : Session) (current : Bytes) :
    drain (some current) session.rx = (session.follow current).1 ::
      (if (session.follow current).1.ends then []
        else drain (session.follow current).2.lookahead (session.follow current).2.rx) := by
  unfold follow recv
  rcases session.rx with _ | ⟨_ | _ | _, rest⟩ <;> rfl

theorem Session.pull_drain (session : Session) :
    drain session.lookahead session.rx = session.pull.1 ::
      (if session.pull.1.ends then [] else drain session.pull.2.lookahead session.pull.2.rx) := by
  -- The lookahead is the chunk in hand, or else the first message is.
  unfold pull
  cases ahead : session.lookahead with
  | some current => exact follow_drain { session with lookahead := none } current
  | none =>
    unfold recv
    rcases received : session.rx with _ | ⟨_ | _ | _, rest⟩
    · rfl
    · next current => exact follow_drain { session with rx := rest } current
    · rfl
    · rfl

theorem Session.next_remaining {session : Session} (live : session.done = false) :
    session.remaining = session.next.1 :: session.next.2.remaining := by
  simp only [remaining, next, live, Bool.false_eq_true, if_false]
  exact session.pull_drain

theorem Session.next_done {session : Session} (done : session.done = true) :
    session.next = (.error alreadyFinished, session) := by
  simp [next, done]

/-- The answers of some pulls in a row, and the session they leave. -/
def Session.nexts (session : Session) : Nat → List Answer × Session
  | 0 => ([], session)
  | count + 1 =>
    let (answers, session) := nexts session count
    (answers ++ [session.next.1], session.next.2)

/-- Pulls give the answers of a session in order, and past its end nothing but errors. -/
theorem Session.nexts_answers (session : Session) (count : Nat) :
    ∃ extra, (session.nexts count).1 ++ (session.nexts count).2.remaining =
        session.remaining ++ List.replicate extra (.error alreadyFinished) ∧
      ((session.nexts count).2.done = false → extra = 0) := by
  -- Along the pulls, what was answered and what is left make up the same list.
  induction count with
  | zero => exact ⟨0, by simp [nexts], fun _ => rfl⟩
  | succ count ih =>
    obtain ⟨extra, answers, none⟩ := ih
    simp only [nexts]
    generalize session.nexts count = reached at answers none ⊢
    obtain ⟨given, now⟩ := reached
    cases ended : now.done with
    | false =>
      rw [next_remaining ended] at answers
      refine ⟨extra, ?_, fun _ => none ended⟩
      simpa using answers
    | true =>
      have left : now.remaining = [] := by simp [remaining, ended]
      simp only [left, List.append_nil] at answers
      refine ⟨extra + 1, ?_, ?_⟩
      · simp [next_done ended, left, answers, List.replicate_succ']
      · intro live
        rw [next_done ended, ended] at live
        cases live

theorem Session.nexts_isPrefix (session : Session) (count : Nat) :
    ∃ extra, (session.nexts count).1 <+:
      session.remaining ++ List.replicate extra (.error alreadyFinished) := by
  obtain ⟨extra, answers, _⟩ := session.nexts_answers count
  exact ⟨extra, _, answers⟩

/-- The pieces of a body as pulls return them: only the final one is marked last. -/
def marked (pieces : List Bytes) : List Answer :=
  pieces.dropLast.map (fun piece => .ok (piece, false)) ++ [.ok (pieces.getLastD [], true)]

/-- The answers for a body that succeeded are its pieces. -/
theorem drain_finished (pieces : List Bytes) :
    drain none (pieces.map .chunk ++ [.finished]) = marked pieces := by
  -- The piece in hand is answered when the message behind it is known.
  have ahead : ∀ (pieces : List Bytes) (current : Bytes),
      drain (some current) (pieces.map .chunk ++ [.finished]) = marked (current :: pieces) := by
    intro pieces
    induction pieces with
    | nil =>
      intro current
      rfl
    | cons piece pieces ih =>
      intro current
      simp only [List.map_cons, List.cons_append, drain, ih]
      simp [marked]
  cases pieces with
  | nil => rfl
  | cons piece pieces => exact ahead pieces piece

/-- Without a terminal message that says so, no answer is marked last. -/
theorem drain_not_last {messages : List Msg} (unfinished : Msg.finished ∉ messages)
    (ahead : Option Bytes) : ∀ answer ∈ drain ahead messages, answer.isLast = false := by
  -- The lookahead changes along the messages, and never marks an answer itself.
  induction messages generalizing ahead with
  | nil =>
    intro answer member
    cases ahead <;> simp only [drain, List.mem_singleton] at member <;> rw [member] <;> rfl
  | cons msg rest ih =>
    have later := ih (fun member => unfinished (List.mem_cons_of_mem _ member))
    intro answer member
    cases msg with
    | chunk next =>
      cases ahead with
      | none => exact later (some next) answer member
      | some current =>
        rcases List.mem_cons.mp member with same | rest
        · rw [same]
          rfl
        · exact later (some next) answer rest
    | finished => simp at unfinished
    | fail error =>
      cases ahead <;> simp only [drain, List.mem_singleton] at member <;> rw [member] <;> rfl

def Answer.chunk : Answer → Option Bytes
  | .ok (chunk, _) => some chunk
  | .error _ => none

/-- The chunks among some messages, up to the one that ends the stream. -/
def chunksOf : List Msg → List Bytes
  | .chunk chunk :: rest => chunk :: chunksOf rest
  | _ => []

/-- The chunk sequence of a producer; a stream that finishes without any is one empty chunk. -/
def chunkSequence : List Msg → List Bytes
  | .finished :: _ => [[]]
  | messages => chunksOf messages

/-- The chunks that pulls return are a beginning of what the producer sent. -/
theorem drain_chunks (messages : List Msg) :
    (drain none messages).filterMap Answer.chunk <+: chunkSequence messages := by
  -- The chunk in hand comes before those that are still in the channel.
  have ahead : ∀ (messages : List Msg) (current : Bytes),
      (drain (some current) messages).filterMap Answer.chunk <+: current :: chunksOf messages := by
    intro messages
    induction messages with
    | nil =>
      intro current
      exact List.nil_prefix
    | cons msg rest ih =>
      intro current
      cases msg with
      | chunk next =>
        simp only [drain, List.filterMap_cons, Answer.chunk, chunksOf]
        exact (List.prefix_cons_inj current).mpr (ih next)
      | finished => simp [drain, Answer.chunk]
      | fail error => exact List.nil_prefix
  cases messages with
  | nil => exact List.nil_prefix
  | cons msg rest =>
    cases msg with
    | chunk current => exact ahead rest current
    | finished => simp [drain, Answer.chunk, chunkSequence]
    | fail error => exact List.nil_prefix

/-- At most one answer is marked last. -/
theorem drain_lasts (ahead : Option Bytes) (messages : List Msg) :
    (drain ahead messages).countP Answer.isLast ≤ 1 := by
  -- The one message that marks an answer is the last one looked at.
  induction messages generalizing ahead with
  | nil => cases ahead <;> simp [drain, Answer.isLast]
  | cons msg rest ih =>
    cases msg with
    | chunk next =>
      cases ahead with
      | none => exact ih (some next)
      | some current =>
        simp only [drain, List.countP_cons, Answer.isLast]
        simpa using ih (some next)
    | finished => cases ahead <;> simp [drain, Answer.isLast]
    | fail error => cases ahead <;> simp [drain, Answer.isLast]

theorem Session.nexts_chunks (messages : List Msg) (count : Nat) :
    ((Session.new messages).nexts count).1.filterMap Answer.chunk <+: chunkSequence messages := by
  obtain ⟨extra, answers⟩ := (Session.new messages).nexts_isPrefix count
  have chunks := answers.filterMap Answer.chunk
  -- The errors past the end of the stream carry no chunk.
  have past : (List.replicate extra (.error alreadyFinished : Answer)).filterMap Answer.chunk = [] := by
    simp [Answer.chunk]
  rw [List.filterMap_append, past, List.append_nil] at chunks
  exact chunks.trans (drain_chunks messages)

theorem Session.nexts_lasts (messages : List Msg) (count : Nat) :
    ((Session.new messages).nexts count).1.countP Answer.isLast ≤ 1 := by
  obtain ⟨extra, answers⟩ := (Session.new messages).nexts_isPrefix count
  have fewer := answers.sublist.countP_le (p := Answer.isLast)
  -- Errors past the end of the stream are not marked.
  have past : (List.replicate extra (.error alreadyFinished : Answer)).countP Answer.isLast = 0 := by
    simp [List.countP_replicate, Answer.isLast]
  rw [List.countP_append, past, Nat.add_zero] at fewer
  exact fewer.trans (drain_lasts none messages)

inductive Pull where
  | idle
  | current
  /-- Waiting for the message behind the chunk to answer with. -/
  | following (chunk : Bytes)
  deriving DecidableEq, Repr

/-- A stream: its producer and its session, with the answers given so far. -/
structure Stream where
  channel : Channel Msg
  lookahead : Option Bytes
  done : Bool
  pull : Pull
  /-- The answers, in the order the lock was taken. -/
  answers : List Answer
  deriving DecidableEq, Repr

namespace Stream

/-- A step of the producer or of a `next` request. -/
inductive Event where
  | next
  | send
  | recv
  deriving DecidableEq, Repr

def settle (stream : Stream) (answer : Answer) : Stream :=
  { stream with pull := .idle, done := answer.ends, answers := stream.answers ++ [answer] }

def receive (stream : Stream) (msg : Msg) : Stream :=
  match stream.pull, msg with
  | .idle, _ => stream
  | .current, .chunk current => { stream with pull := .following current }
  | .current, .finished => stream.settle (.ok ([], true))
  | .following current, .chunk next =>
    { stream with lookahead := some next }.settle (.ok (current, false))
  | .following current, .finished => stream.settle (.ok (current, true))
  | _, .fail error => stream.settle (.error error)

def step (stream : Stream) : Event → Option Stream
  | .next =>
    if stream.pull ≠ .idle then none
    else if stream.done then
      some { stream with answers := stream.answers ++ [.error alreadyFinished] }
    else match stream.lookahead with
      | some chunk => some { stream with lookahead := none, pull := .following chunk }
      | none => some { stream with pull := .current }
  | .send =>
    -- A pull that waits is a receiver at a channel without a buffer.
    (stream.channel.send (stream.pull ≠ .idle)).map fun channel => { stream with channel := channel }
  | .recv =>
    if stream.pull = .idle then none
    else stream.channel.recv.map fun (received, channel) =>
      { stream with channel := channel }.receive (received.getD (.fail producerVanished))

/-- A stream whose producer puts these messages into a channel of some depth. -/
def start (sessionDepth : Nat) (messages : List Msg) : Stream :=
  ⟨.new sessionDepth messages, none, false, .idle, []⟩

/-- A stream and the session whose pulls it interleaves with its producer. -/
def Matches (stream : Stream) (session : Session) : Prop :=
  match stream.pull with
  | .idle => session = ⟨stream.channel.pending, stream.lookahead, stream.done⟩
  | .current =>
    stream.lookahead = none ∧ session = ⟨stream.channel.pending, none, false⟩
  | .following chunk =>
    -- The pull is past its first receive, so it ends as its second half does.
    stream.lookahead = none ∧ session.done = false ∧
      session.pull = Session.follow ⟨stream.channel.pending, none, false⟩ chunk

/-- The answers of a stream are those of pulls in a row on the session it was opened with. -/
def Follows (messages : List Msg) (stream : Stream) : Prop :=
  ∃ count, stream.answers = ((Session.new messages).nexts count).1 ∧
    stream.Matches ((Session.new messages).nexts count).2

variable {messages : List Msg} {stream after : Stream}

/-- Only a pull that waits receives, and it is handed what comes out of the channel. -/
theorem step_recv (taken : stream.step .recv = some after) :
    ∃ received channel, stream.pull ≠ .idle ∧ stream.channel.recv = some (received, channel) ∧
      after = { stream with channel := channel }.receive
        (received.getD (.fail producerVanished)) := by
  -- Without a pull that waits there is no step.
  simp only [step] at taken
  split at taken
  · simp at taken
  · next waits =>
    obtain ⟨⟨received, channel⟩, got, rfl⟩ := Option.map_eq_some_iff.mp taken
    exact ⟨received, channel, waits, got, rfl⟩

theorem session_recv {channel left : Channel Msg} {received : Option Msg}
    (taken : channel.recv = some (received, left)) (ahead : Option Bytes) (done : Bool) :
    Session.recv ⟨channel.pending, ahead, done⟩ =
      (received.getD (.fail producerVanished), ⟨left.pending, ahead, done⟩) := by
  -- A closed channel is read as a failure by both.
  cases received with
  | none =>
    obtain ⟨empty, same⟩ := Channel.recv_none taken
    simp [Session.recv, empty, same]
  | some msg => simp [Session.recv, Channel.recv_some taken]

theorem follows_settle {count : Nat} {answer : Answer}
    (answers : stream.answers = ((Session.new messages).nexts count).1)
    (live : ((Session.new messages).nexts count).2.done = false)
    (pulled : ((Session.new messages).nexts count).2.pull =
      (answer, ⟨stream.channel.pending, stream.lookahead, false⟩)) :
    Follows messages (stream.settle answer) := by
  -- One more pull of the session gives the same answer.
  refine ⟨count + 1, ?_, ?_⟩
  · simp [settle, Session.nexts, Session.next, live, pulled, answers]
  · simp [Matches, settle, Session.nexts, Session.next, live, pulled]

/-- A message brings the pull that waits for it where the session's own pull is. -/
theorem follows_recv {channel : Channel Msg} {received : Option Msg}
    (follows : Follows messages stream) (waits : stream.pull ≠ .idle)
    (taken : stream.channel.recv = some (received, channel)) :
    Follows messages
      ({ stream with channel := channel }.receive (received.getD (.fail producerVanished))) := by
  obtain ⟨count, answers, matched⟩ := follows
  have receipt := session_recv taken none false
  generalize received.getD (.fail producerVanished) = msg at receipt ⊢
  unfold Matches at matched
  cases state : stream.pull with
  | idle => exact absurd state waits
  | current =>
    simp only [state] at matched
    obtain ⟨nothing, session⟩ := matched
    -- The session is about to do the same receive.
    cases msg with
    | chunk current =>
      refine ⟨count, by simpa [receive, state] using answers, ?_⟩
      simp [Matches, receive, session, nothing, Session.pull, receipt]
    | finished =>
      simp only [receive]
      exact follows_settle answers (by rw [session])
        (by simp [session, Session.pull, receipt, nothing])
    | fail error =>
      simp only [receive]
      exact follows_settle answers (by rw [session])
        (by simp [session, Session.pull, receipt, nothing])
  | following chunk =>
    simp only [state] at matched
    obtain ⟨nothing, live, pulled⟩ := matched
    -- The message decides whether the chunk in hand is the last.
    cases msg with
    | chunk next =>
      simp only [receive]
      exact follows_settle answers live (by simp [pulled, Session.follow, receipt])
    | finished =>
      simp only [receive]
      exact follows_settle answers live (by simp [pulled, Session.follow, receipt, nothing])
    | fail error =>
      simp only [receive]
      exact follows_settle answers live (by simp [pulled, Session.follow, receipt, nothing])

/-- Every step keeps a stream following its session. -/
theorem follows_step {event : Event} (follows : Follows messages stream)
    (taken : stream.step event = some after) : Follows messages after := by
  cases event with
  | next =>
    obtain ⟨count, answers, matched⟩ := follows
    simp only [step] at taken
    split at taken
    · simp at taken
    · next idle =>
      have idle : stream.pull = .idle := by simpa using idle
      simp only [Matches, idle] at matched
      split at taken
      · next ended =>
        -- A session that is done answers at once.
        cases taken
        refine ⟨count + 1, ?_, ?_⟩
        · simp [Session.nexts, matched, Session.next, ended, answers]
        · simp [Matches, idle, Session.nexts, matched, Session.next, ended]
      · next live =>
        have live : stream.done = false := by simpa using live
        split at taken
        · next chunk ahead =>
          cases taken
          refine ⟨count, answers, ?_⟩
          simp [Matches, matched, live, ahead, Session.pull]
        · next ahead =>
          cases taken
          refine ⟨count, answers, ?_⟩
          simp [Matches, matched, live, ahead]
  | send =>
    -- A send moves a message inside the channel, which the session does not see.
    obtain ⟨count, answers, matched⟩ := follows
    obtain ⟨channel, sent, rfl⟩ := Option.map_eq_some_iff.mp taken
    refine ⟨count, answers, ?_⟩
    simpa only [Matches, Channel.send_pending sent] using matched
  | recv =>
    obtain ⟨received, channel, waits, got, rfl⟩ := step_recv taken
    exact follows_recv follows waits got

theorem follows_run {sessionDepth : Nat} {events : List Event}
    (ran : Transition.run step (start sessionDepth messages) events = some stream) :
    Follows messages stream := by
  -- Nothing was pulled at first, and every step keeps up with the session.
  apply Transition.invariant_of_run (Follows messages) _ _ ran
  · intro state event after follows taken
    exact follows_step follows taken
  · exact ⟨0, rfl, by simp [Matches, start, Session.nexts, Session.new, Channel.pending, Channel.new]⟩

/-- The answers of a stream are a beginning of what its messages give, and errors past their end. -/
theorem answers_isPrefix {sessionDepth : Nat} {events : List Event}
    (ran : Transition.run step (start sessionDepth messages) events = some stream) :
    ∃ extra, stream.answers <+:
      drain none messages ++ List.replicate extra (.error alreadyFinished) := by
  obtain ⟨count, answers, _⟩ := follows_run ran
  rw [answers]
  exact Session.nexts_isPrefix (Session.new messages) count

def waiting (stream : Stream) : Nat := if stream.pull = .idle then 0 else 1

/-- How many steps of the producer and of the pull are left before the pull has its answer. -/
def work (stream : Stream) : Nat := stream.channel.work + stream.waiting

/-- A message answers the pull that waits for it, or is a chunk and leaves it waiting. -/
theorem receive_cases (stream : Stream) (msg : Msg) (waits : stream.pull ≠ .idle) :
    (stream.receive msg).channel = stream.channel ∧
      ((stream.receive msg).waiting = 0 ∧
          (stream.receive msg).answers.length = stream.answers.length + 1 ∨
        (∃ chunk, msg = .chunk chunk) ∧ (stream.receive msg).waiting = 1 ∧
          (stream.receive msg).answers.length = stream.answers.length) := by
  -- A first chunk is held back until the next message tells whether it is the last.
  cases state : stream.pull with
  | idle => exact absurd state waits
  | current => cases msg <;> simp [receive, state, settle, waiting]
  | following chunk => cases msg <;> simp [receive, state, settle, waiting]

/-- Every step but a new pull leaves less to do. -/
theorem work_step {event : Event} (taken : stream.step event = some after)
    (other : event ≠ .next) : after.work < stream.work := by
  cases event with
  | next => exact absurd rfl other
  | send =>
    obtain ⟨channel, sent, rfl⟩ := Option.map_eq_some_iff.mp taken
    have less := Channel.send_work sent
    simp only [work, waiting] at less ⊢
    omega
  | recv =>
    obtain ⟨received, channel, waits, got, rfl⟩ := step_recv taken
    have before : stream.waiting = 1 := by simp [waiting, waits]
    obtain ⟨same, progress⟩ := receive_cases { stream with channel := channel }
      (received.getD (.fail producerVanished)) waits
    simp only [work, same]
    cases received with
    | none =>
      -- A closed channel answers the pull.
      obtain ⟨_, closed⟩ := Channel.recv_none got
      rcases progress with ⟨answered, _⟩ | ⟨⟨chunk, impossible⟩, _⟩
      · rw [answered, before, closed]
        omega
      · cases impossible
    | some msg =>
      have less := Channel.recv_work got
      rcases progress with ⟨answered, _⟩ | ⟨_, goes, _⟩
      · omega
      · omega

theorem work_run {events : List Event} (others : ∀ event ∈ events, event ≠ .next)
    (ran : Transition.run step stream events = some after) :
    events.length + after.work ≤ stream.work :=
  Transition.length_le_of_run work
    (fun event member _ _ taken => work_step taken (others event member)) ran

theorem recv_or_send (waits : stream.pull ≠ .idle) :
    (stream.step .recv).isSome = true ∨ (stream.step .send).isSome = true := by
  have able := stream.channel.recv_or_send
  simpa [step, waits] using able

/-- One step starts a wait or answers it; a `next` is the only step that asks for an answer. -/
theorem answers_step {event : Event} (taken : stream.step event = some after) :
    after.answers.length + after.waiting =
      stream.answers.length + stream.waiting + (if event = .next then 1 else 0) := by
  -- A `next` is answered at once after the end, and else waits.
  cases event with
  | next =>
    simp only [step] at taken
    split at taken
    · simp at taken
    · next idle =>
      have idle : stream.pull = .idle := by simpa using idle
      split at taken
      · cases taken
        simp only [waiting, idle, if_true, List.length_append, List.length_singleton]
      · split at taken <;>
          (cases taken
           simp [waiting, idle])
  | send =>
    obtain ⟨channel, sent, rfl⟩ := Option.map_eq_some_iff.mp taken
    simp [waiting]
  | recv =>
    obtain ⟨received, channel, waits, got, rfl⟩ := step_recv taken
    have before : stream.waiting = 1 := by simp [waiting, waits]
    -- What is received answers the pull, or leaves it waiting with a chunk in hand.
    obtain ⟨_, progress⟩ := receive_cases { stream with channel := channel }
      (received.getD (.fail producerVanished)) waits
    simp only [reduceCtorEq, if_false] at progress ⊢
    omega

/-- Every `next` of a run has its answer, apart from the one that waits. -/
theorem answers_run {events : List Event}
    (ran : Transition.run step stream events = some after) :
    after.answers.length + after.waiting =
      stream.answers.length + stream.waiting + events.count .next := by
  -- Each step keeps the balance.
  induction events generalizing stream with
  | nil =>
    cases ran
    simp
  | cons event events ih =>
    obtain ⟨between, taken, rest⟩ := Transition.run_cons.mp ran
    have first := answers_step taken
    have later := ih rest
    rw [List.count_cons]
    simp only [beq_iff_eq]
    omega

end Stream

theorem Produces.pieces {size : Nat} {body : BodyWriter} {messages : List Msg}
    (produced : Produces size body messages) (succeeds : body.outcome = .ok ()) :
    ∃ pieces, Pieces size body.output pieces ∧ messages = pieces.map .chunk ++ [.finished] := by
  -- A producer ends as its body does.
  cases produced with
  | finished ends cut => exact ⟨_, cut, rfl⟩
  | failed ends => simp [ends] at succeeds
  | vanished ends => simp [ends] at succeeds

theorem Produces.unfinished {size : Nat} {body : BodyWriter} {messages : List Msg}
    (produced : Produces size body messages) (fails : body.outcome ≠ .ok ()) :
    Msg.finished ∉ messages := by
  -- A producer ends as its body does.
  cases produced with
  | finished ends cut => exact absurd ends fails
  | failed ends => simp
  | vanished ends => simp

/--
For every body, cut of its output into writes and flushes, chunk size that a buffer can have and
depth, in every interleaving: the pulls on a body that succeeds return its pieces, and mark the final
one; the pulls on a body that fails or unwinds mark none; and every pull gets its answer.
-/
theorem Stream.pulls_return_the_body (t : Target) (fuel chunkBytes sessionDepth : Nat)
    (body : BodyWriter) (positive : 1 ≤ chunkBytes) (small : chunkBytes ≤ t.isizeMax)
    (enough : body.output.length ≤ fuel) :
    ∃ tx, produce t fuel body ⟨[], fun _ => true⟩ chunkBytes = some tx ∧
      (body.outcome = .ok () → ∃ pieces, Pieces chunkBytes body.output pieces ∧
        ∀ events stream, Transition.run step (start sessionDepth tx.sent) events = some stream →
          ∃ extra, stream.answers <+:
            marked pieces ++ List.replicate extra (.error alreadyFinished)) ∧
      (body.outcome ≠ .ok () →
        ∀ events stream, Transition.run step (start sessionDepth tx.sent) events = some stream →
          ∀ answer ∈ stream.answers, answer.isLast = false) ∧
      (∀ events stream, Transition.run step (start sessionDepth tx.sent) events = some stream →
        stream.answers.length + stream.waiting = events.count .next ∧
        (stream.pull ≠ .idle →
          (stream.step .recv).isSome = true ∨ (stream.step .send).isSome = true) ∧
        ∀ later after, (∀ event ∈ later, event ≠ .next) →
          Transition.run step stream later = some after → later.length ≤ stream.work) := by
  obtain ⟨tx, ended, produced⟩ := produce_settled t body positive small enough
  refine ⟨tx, ended, ?_, ?_, ?_⟩
  · intro succeeds
    obtain ⟨pieces, cut, sent⟩ := produced.pieces succeeds
    refine ⟨pieces, cut, ?_⟩
    intro events stream ran
    have answers := answers_isPrefix ran
    rwa [sent, drain_finished] at answers
  · intro fails events stream ran answer member
    obtain ⟨extra, answers⟩ := answers_isPrefix ran
    -- What is past the end of the stream is an error as well.
    rcases List.mem_append.mp (answers.subset member) with given | past
    · exact drain_not_last (produced.unfinished fails) none answer given
    · rw [List.eq_of_mem_replicate past]
      rfl
  · intro events stream ran
    refine ⟨?_, recv_or_send, ?_⟩
    · simpa [start, waiting] using answers_run ran
    · intro later after others goes
      have bound := work_run others goes
      omega

/-- A body of five bytes in two writes, with a flush between them. -/
def fiveBytes : BodyWriter :=
  .write [1, 2, 3] fun _ => .flush fun _ => .write [4, 5] fun _ => .returns (.ok ())

/--
Five bytes in chunks of two through a rendezvous: three pulls return them, and a fourth finds the
stream finished.
-/
theorem Stream.pulls_of_five_bytes :
    ∃ tx stream, produce .release64 5 fiveBytes ⟨[], fun _ => true⟩ 2 = some tx ∧
      Transition.run step (start 0 tx.sent)
        [.next, .send, .recv, .send, .recv, .next, .send, .recv, .next, .send, .recv, .next] =
          some stream ∧
      stream.answers = [.ok ([1, 2], false), .ok ([3, 4], false), .ok ([5], true),
        .error alreadyFinished] ∧
      ∃ pieces, Pieces 2 [1, 2, 3, 4, 5] pieces ∧ ∃ extra, stream.answers <+:
        marked pieces ++ List.replicate extra (.error alreadyFinished) := by
  obtain ⟨tx, produced, succeeds, _⟩ :=
    pulls_return_the_body .release64 5 2 0 fiveBytes (by decide) (by decide) (show 5 ≤ 5 by decide)
  obtain ⟨pieces, cut, answers⟩ := succeeds rfl
  -- The run is evaluated for the messages this body puts into its channel.
  have sent : tx.sent = [.chunk [1, 2], .chunk [3, 4], .chunk [5], .finished] := by
    cases produced
    rfl
  have reached : ∃ stream, Transition.run step (start 0 tx.sent)
      [.next, .send, .recv, .send, .recv, .next, .send, .recv, .next, .send, .recv, .next] =
        some stream ∧
      stream.answers = [.ok ([1, 2], false), .ok ([3, 4], false), .ok ([5], true),
        .error alreadyFinished] := by
    rw [sent]
    exact ⟨_, rfl, rfl⟩
  obtain ⟨stream, ran, given⟩ := reached
  exact ⟨tx, stream, produced, ran, given, pieces, cut, answers _ stream ran⟩

/--
The same body in chunks of `isize::MAX + 1` bytes: no buffer is that large, so the producer unwinds
before the body runs, and the first pull is answered with an error.
-/
theorem Stream.chunk_beyond_every_buffer :
    fiveBytes.outcome = .ok () ∧ fiveBytes.output = [1, 2, 3, 4, 5] ∧
      ∃ tx stream, produce .release64 5 fiveBytes ⟨[], fun _ => true⟩ (2 ^ 63) = some tx ∧
        tx.sent = [] ∧ Transition.run step (start 0 tx.sent) [.next, .recv] = some stream ∧
        stream.answers = [.error producerVanished] := by
  -- The allocation is the first thing the sink does.
  refine ⟨rfl, rfl, ⟨[], fun _ => true⟩, _, ?_, rfl, rfl, rfl⟩
  rw [produce, ChunkSink.new, Target.allocate, if_neg (by decide)]
  rfl

end Repe.Svs
