import Repe.Server.RespondLaws
import Repe.Server.RouterLaws
import Repe.Server.WebSocket

/-! Every request on a WebSocket connection is answered once, whoever serves it. -/

namespace Repe

/--
A response whose stamping overflows no length: it keeps a query of its own, there is nothing to
echo, the build does not check, or the total fits.
-/
def Stampable (t : Target) (response : Message) (query : Bytes) : Prop :=
  query = [] ∨ response.query ≠ [] ∨ t.overflowChecks = false ∨
    headerSize + query.length + response.header.bodyLength.toNat < 2 ^ 64

/-- Such a response is stamped, and keeps its id. -/
theorem Stampable.stamps {t : Target} {response : Message} {query : Bytes}
    (stampable : Stampable t response query) :
    ∃ stamped, stampResponseQuery t response query = .ok stamped ∧
      stamped.header.id = response.header.id := by
  -- The checked sum is the only step of the stamping that can unwind.
  rw [stampResponseQuery]
  by_cases echoed : query.isEmpty = true ∨ ¬ response.query.isEmpty = true
  · rw [if_pos echoed]
    exact ⟨response, rfl, rfl⟩
  · rw [if_neg echoed]
    -- The first two cases of the condition are those in which nothing is echoed.
    have summed : ∃ length, framedLength t (UInt64.ofNat query.length)
        response.header.bodyLength = .ok length := by
      rcases stampable with none | own | unchecked | fits
      · simp [none] at echoed
      · simp [own] at echoed
      · rw [framedLength, t.addU64_unchecked unchecked, Exec.ok_bind, t.addU64_unchecked unchecked]
        exact ⟨_, rfl⟩
      · have small : (UInt64.ofNat query.length).toNat = query.length :=
          UInt64.toNat_ofNat_of_lt' (by simp [UInt64.size]; omega)
        exact ⟨_, (framedLength_fits t (by rw [small]; exact fits)).1⟩
    obtain ⟨length, returned⟩ := summed
    simp only [returned, Exec.ok_bind]
    exact ⟨_, rfl, rfl⟩

section Dispatch

variable {M : Type → Type} {C : Type} [Monad M] [LawfulMonad M]

/-- `dispatch_view` has the response of the reader's step, when its handler returns. -/
theorem dispatchView_eq (handler : HandlerErased M C) (view : MessageView) (ctx : C)
    (notify : Bool) :
    dispatchView handler view ctx notify =
      (fun result => if notify then none else some (inlineResponse view result)) <$>
        handler.handleView view ctx := by
  rw [dispatchView, map_eq_pure_bind]
  congr 1
  funext result
  -- The result of a notify is dropped on both sides.
  cases notify with
  | true => rfl
  | false => cases result <;> rfl

/-- `dispatch` has the response of a task's step. -/
theorem dispatch_eq (handler : HandlerErased M C) (request : Message) (ctx : C) (notify : Bool) :
    dispatch handler request ctx notify =
      (fun result => if notify then none else some (taskResponse request result)) <$>
        handler.handleWithCtx request ctx := by
  rw [dispatch, map_eq_pure_bind]
  congr 1
  funext result
  -- The result of a notify is dropped on both sides.
  cases notify with
  | true => rfl
  | false => cases result <;> rfl

end Dispatch

def Outbound.answer (number : Nat) (out : Outbound) : Option Message :=
  if out.source = .reader number ∨ out.source = .task number then some out.message else none

def Outbound.readerNumber (out : Outbound) : Option Nat :=
  match out.source with
  | .reader number => some number
  | _ => none

/--
What a stage after the handler says of the answer: a notify needs none, and every other request has
one under its id.
-/
def Stage.Answers (view : MessageView) : Stage → Prop
  | .done | .leaving => (view.header.notify == 1) = true
  | .replying response =>
    (view.header.notify == 1) = false ∧ response.header.id = view.header.id
  | .serving | .lost => False

namespace Request

/-- What was put on the channel for a request, as far as it is. -/
def Owes (request : Request) (answers : List Message) : Prop :=
  match request.stage with
  | .serving => answers = []
  | .replying response =>
    answers = [] ∧ request.notify = false ∧ response.header.id = request.view.header.id
  | .leaving | .done =>
    if request.notify then answers = []
    else ∃ response, answers = [response] ∧ response.header.id = request.view.header.id
  | .lost => False

def Open (request : Request) : Prop :=
  request.stage = .serving ∨ ∃ response, request.stage = .replying response

theorem Owes.quiet {request : Request} {answers : List Message} (owes : request.Owes answers)
    (quiet : request.notify = true) : answers = [] := by
  -- A response that waits belongs to no notify, but what is on the channel is nothing either way.
  unfold Owes at owes
  split at owes
  · exact owes
  · exact owes.1
  · rwa [if_pos quiet] at owes
  · rwa [if_pos quiet] at owes
  · cases owes

theorem Owes.ended {request : Request} {answers : List Message} (owes : request.Owes answers)
    (loud : request.notify = false) (ended : request.stage = .done ∨ request.stage = .leaving) :
    ∃ response, answers = [response] ∧ response.header.id = request.view.header.id := by
  have expected : ¬ request.notify = true := by simp [loud]
  -- In either stage the answer is on the channel.
  rcases ended with done | leaving
  · rwa [Owes, done, if_neg expected] at owes
  · rwa [Owes, leaving, if_neg expected] at owes

theorem Owes.open {request : Request} {answers : List Message} (owes : request.Owes answers)
    (opens : request.Open) : answers = [] := by
  -- In neither stage anything is on the channel yet.
  rcases opens with serving | ⟨response, replying⟩
  · rwa [Owes, serving] at owes
  · rw [Owes, replying] at owes
    exact owes.1

def Holds (request : Request) : Prop :=
  request.offReader = true ∧ (request.Open ∨ request.stage = .leaving)

theorem Holds.not_done {request : Request} (holds : request.Holds) : request.stage ≠ .done := by
  intro done
  -- A task holds its permit up to the stage in which it leaves.
  rcases holds.2 with (serving | ⟨response, replying⟩) | leaving
  · exact Stage.noConfusion (done.symm.trans serving)
  · exact Stage.noConfusion (done.symm.trans replying)
  · exact Stage.noConfusion (done.symm.trans leaving)

theorem owes_nil {view : MessageView} {offReader : Bool} {stage : Stage}
    (opens : stage = .serving ∨ stage.Answers view) :
    Request.Owes ⟨view, offReader, stage⟩ [] := by
  rcases opens with rfl | answers
  · rfl
  · -- A stage without a response is one of a notify, which owes none.
    cases stage with
    | serving => cases answers
    | lost => cases answers
    | replying response => exact ⟨rfl, answers.1, answers.2⟩
    | leaving => exact (if_pos answers).mpr rfl
    | done => exact (if_pos answers).mpr rfl

end Request

namespace WsConnection

variable {t : Target} {conn after : WsConnection} {event : WsEvent} {number other : Nat}
  {request : Request}

def answers (conn : WsConnection) (number : Nat) : List Message :=
  conn.history.filterMap (Outbound.answer number)

/-- The requests the reader answered, in the order of their responses. -/
def readerNumbers (conn : WsConnection) : List Nat := conn.history.filterMap Outbound.readerNumber

theorem answers_append {out : Outbound} (added : after.history = conn.history ++ [out])
    (number : Nat) : after.answers number = conn.answers number ++ (out.answer number).toList := by
  rw [answers, added, List.filterMap_append, answers]
  cases found : out.answer number <;> simp [found]

theorem readerNumbers_append {out : Outbound} (added : after.history = conn.history ++ [out]) :
    after.readerNumbers = conn.readerNumbers ++ out.readerNumber.toList := by
  rw [readerNumbers, added, List.filterMap_append, readerNumbers]
  cases found : out.readerNumber <;> simp [found]

theorem answers_of_history (same : after.history = conn.history) (number : Nat) :
    after.answers number = conn.answers number := by
  rw [answers, same, answers]

theorem stamped_answers {view : MessageView} {response : Message}
    (stampable : Stampable t response view.query) (loud : (view.header.notify == 1) = false)
    (same : response.header.id = view.header.id) :
    (stamped t response view.query).Answers view := by
  obtain ⟨result, returned, kept⟩ := stampable.stamps
  rw [stamped, returned]
  exact ⟨loud, kept.trans same⟩

/--
What is asked of a handler on the reader: it does not panic, and where it is asked for a response
it returns the id of its request and no response overflows the length of its frame.
-/
def InlineKeeps (t : Target) (view : MessageView) : Exec RepeError Message → Prop
  | .ok message => (view.header.notify == 1) = false →
    message.header.id = view.header.id ∧ Stampable t message view.query
  | .err error => (view.header.notify == 1) = false →
    Stampable t (createErrorResponseUnstampedView view error.toErrorCode error.display) view.query
  | .panic => False

def TaskKeeps (t : Target) (view : MessageView) : Exec RepeError Message → Prop
  | .ok message => (view.header.notify == 1) = false →
    message.header.id = view.header.id ∧ Stampable t message view.query
  | .err _ | .panic => True

/-- What is asked of a step: of its handler, or of the text of a rejection. -/
def Serves {M : Type → Type} {C : Type} [Monad M] (t : Target) (router : Router M C)
    (conn : WsConnection) : WsEvent → Prop
  | .frame (.binary payload) => ∀ view notify code message,
    MessageView.fromSliceExact t payload = .ok view →
      route router view.header view.query = .reject notify code message →
        (view.header.notify == 1) = false →
          Stampable t (createErrorResponseUnstampedView view code message) view.query
  | .inlineEnds outcome => ∀ number request, conn.reader = .busy number →
    conn.requests[number]? = some request → InlineKeeps t request.view outcome
  | .taskEnds number outcome => ∀ request, conn.requests[number]? = some request →
    TaskKeeps t request.view outcome
  | _ => True

theorem stampable_like (t : Target) (view : MessageView) (code : ErrorCode) (text : String) :
    Stampable t (createErrorResponseLike view.toMessage code text) view.query := by
  -- The error has the query of its request already.
  by_cases empty : view.query = []
  · exact .inl empty
  · exact .inr (.inl empty)

/-- What comes of a handler on the reader. -/
theorem inlineStage_answers {view : MessageView} {outcome : Exec RepeError Message}
    (keeps : InlineKeeps t view outcome) :
    (inlineStage t view (view.header.notify == 1) outcome).Answers view := by
  cases loud : view.header.notify == 1 with
  | true =>
    -- The handler of a notify may return anything, but may not unwind through the reader.
    cases outcome with
    | ok message => exact loud
    | err error => exact loud
    | panic => cases keeps
  | false =>
    cases outcome with
    | ok message => exact stamped_answers (keeps loud).2 loud (keeps loud).1
    | err error => exact stamped_answers (keeps loud) loud rfl
    | panic => cases keeps

theorem taskStage_answers {view : MessageView} {outcome : Exec RepeError Message}
    (keeps : TaskKeeps t view outcome) :
    (taskStage t view (view.header.notify == 1) outcome).Answers view := by
  cases loud : view.header.notify == 1 with
  | true => exact loud
  | false =>
    -- An error and a caught panic are answered with the request's own query, which is not stamped.
    cases outcome with
    | ok message => exact stamped_answers (keeps loud).2 loud (keeps loud).1
    | err error => exact stamped_answers (stampable_like t view _ _) loud rfl
    | panic => exact stamped_answers (stampable_like t view _ _) loud rfl

theorem stamped_waits (t : Target) (response : Message) (query : Bytes) :
    stamped t response query ≠ .done ∧ stamped t response query ≠ .leaving := by
  rw [stamped]
  split <;> exact ⟨Stage.noConfusion, Stage.noConfusion⟩

theorem taskStage_ne_done (t : Target) (view : MessageView) (notify : Bool)
    (outcome : Exec RepeError Message) : taskStage t view notify outcome ≠ .done := by
  unfold taskStage
  -- A task has yet to give its permit back.
  split
  · exact Stage.noConfusion
  · split <;> exact (stamped_waits t _ _).1

theorem inlineStage_ne_leaving (t : Target) (view : MessageView) (notify : Bool)
    (outcome : Exec RepeError Message) : inlineStage t view notify outcome ≠ .leaving := by
  -- The reader holds no permit to give back.
  unfold inlineStage
  split
  · split
    · exact Stage.noConfusion
    · exact (stamped_waits t _ _).2
  · split
    · exact Stage.noConfusion
    · exact (stamped_waits t _ _).2
  · exact Stage.noConfusion

/-- What one step does to the requests, the channel, the reader and the permits. -/
inductive Takes (conn : WsConnection) (after : WsConnection) : Prop where
  | quiet (requests : after.requests = conn.requests) (permits : after.permits = conn.permits)
      (answers : ∀ number, after.answers number = conn.answers number)
      (numbers : after.readerNumbers = conn.readerNumbers)
      (reader : after.reader = conn.reader ∨
        conn.reader = .reading ∧ ∃ result, after.reader = .returned result)
  | received (view : MessageView) (stage : Stage) (reading : conn.reader = .reading)
      (opens : stage = .serving ∨ stage.Answers view) (reads : stage ≠ .leaving)
      (requests : after.requests = conn.requests ++ [⟨view, false, stage⟩])
      (reader : after.reader = readerAt conn.requests.length stage)
      (history : after.history = conn.history) (permits : after.permits = conn.permits)
  | spawned (view : MessageView) (reading : conn.reader = .reading)
      (requests : after.requests = conn.requests ++ [⟨view, true, .serving⟩])
      (reader : after.reader = .reading) (history : after.history = conn.history)
      (permits : conn.permits = none ∧ after.permits = none ∨
        ∃ before now, conn.permits = some before ∧ after.permits = some now ∧
          before.tryAcquire conn.requests.length = some now)
  | served (number : Nat) (request : Request) (stage : Stage) (reader : conn.reader = .busy number)
      (found : conn.requests[number]? = some request) (serving : request.stage = .serving)
      (answers : stage.Answers request.view) (reads : stage ≠ .leaving)
      (requests : after.requests = (conn.setStage number stage).requests)
      (next : after.reader = readerAt number stage) (history : after.history = conn.history)
      (permits : after.permits = conn.permits)
  | sent (number : Nat) (request : Request) (response : Message)
      (reader : conn.reader = .busy number) (found : conn.requests[number]? = some request)
      (replying : request.stage = .replying response)
      (requests : after.requests = (conn.setStage number .done).requests)
      (next : after.reader = .reading)
      (history : after.history = conn.history ++ [⟨.reader number, response⟩])
      (permits : after.permits = conn.permits)
  | taskServed (number : Nat) (request : Request) (stage : Stage)
      (found : conn.requests[number]? = some request) (task : request.offReader = true)
      (serving : request.stage = .serving) (answers : stage.Answers request.view)
      (unfinished : stage ≠ .done)
      (requests : after.requests = (conn.setStage number stage).requests)
      (reader : after.reader = conn.reader) (history : after.history = conn.history)
      (permits : after.permits = conn.permits)
  | taskSent (number : Nat) (request : Request) (response : Message)
      (found : conn.requests[number]? = some request) (task : request.offReader = true)
      (replying : request.stage = .replying response)
      (requests : after.requests = (conn.setStage number .leaving).requests)
      (reader : after.reader = conn.reader)
      (history : after.history = conn.history ++ [⟨.task number, response⟩])
      (permits : after.permits = conn.permits)
  | taskLeft (number : Nat) (request : Request) (found : conn.requests[number]? = some request)
      (task : request.offReader = true) (leaving : request.stage = .leaving)
      (requests : after.requests = (conn.setStage number .done).requests)
      (reader : after.reader = conn.reader) (history : after.history = conn.history)
      (permits : after.permits = conn.permits.map (·.release number))

theorem put_eq {source : Source} {message : Message} (room : conn.put source message = some after) :
    after = { conn with queue := conn.queue ++ [⟨source, message⟩] } := by
  unfold put at room
  -- Only a full channel refuses.
  split at room
  · exact (Option.some.inj room).symm
  · cases room

theorem put_history {source : Source} {message : Message}
    (room : conn.put source message = some after) :
    after.history = conn.history ++ [⟨source, message⟩] := by
  rw [put_eq room, history, history, List.append_assoc]

variable {M : Type → Type} {C : Type} [Monad M] {router : Router M C}

theorem takes_receive (reading : conn.reader = .reading) {view : MessageView} {stage : Stage}
    (opens : stage = .serving ∨ stage.Answers view) (reads : stage ≠ .leaving) :
    Takes conn (conn.receive view stage) :=
  .received view stage reading opens reads rfl rfl rfl rfl

/-- A request for a task. -/
theorem takes_spawnOffReader (reading : conn.reader = .reading) (view : MessageView) :
    Takes conn (conn.spawnOffReader view (view.header.notify == 1)) := by
  -- Without a limit a task needs no permit; with one, it gets a permit or the reader answers.
  unfold spawnOffReader
  dsimp only
  split
  · next none_ => exact .spawned view reading rfl reading rfl (.inl ⟨none_, none_⟩)
  · next permits held =>
    split
    · next now acquired =>
      exact .spawned view reading rfl reading rfl (.inr ⟨permits, now, held, rfl, acquired⟩)
    · cases loud : view.header.notify == 1 with
      | true => exact .received view .done reading (.inr loud) Stage.noConfusion rfl rfl rfl rfl
      | false =>
        have refused : (Stage.replying (createErrorResponseLike view.toMessage .resourceExhausted
            "off-reader dispatch limit reached; retry")).Answers view := ⟨loud, rfl⟩
        exact .received view _ reading (.inr refused) Stage.noConfusion rfl rfl rfl rfl

/-- What a request does on the reader. -/
theorem takes_onRequest (reading : conn.reader = .reading) {view : MessageView}
    (stampable : ∀ notify code message,
      route router view.header view.query = .reject notify code message →
        (view.header.notify == 1) = false →
          Stampable t (createErrorResponseUnstampedView view code message) view.query) :
    Takes conn (conn.onRequest t router view) := by
  rw [onRequest]
  -- Dispatched inline or to a task, or rejected.
  rcases route_notify router view.header view.query with
    ⟨handler, path, routed⟩ | ⟨code, message, routed⟩
  · rw [routed]
    dsimp only
    split
    · exact takes_receive reading (.inl rfl) Stage.noConfusion
    · exact takes_spawnOffReader reading view
  · have fits := stampable _ code message routed
    rw [routed]
    dsimp only
    -- A rejected notify is done, and a rejected request waits for its answer to be put.
    cases loud : view.header.notify == 1 with
    | true => exact takes_receive reading (.inr loud) Stage.noConfusion
    | false =>
      have answers := stamped_answers (fits loud) loud rfl
      exact takes_receive reading (.inr answers) (stamped_waits t _ _).2

theorem takes_returned (reading : conn.reader = .reading)
    (result : Except RepeError Unit) :
    Takes conn { conn with reader := .returned result } :=
  .quiet rfl rfl (fun _ => rfl) rfl (.inr ⟨reading, result, rfl⟩)

/-- What a message does on the reader. -/
theorem takes_onFrame (reading : conn.reader = .reading) {message : WsMessage}
    (serves : Serves t router conn (.frame message)) :
    Takes conn (conn.onFrame t router message) := by
  -- A malformed frame, a text and a close end the reader; control frames are passed over.
  cases message with
  | binary payload =>
    rw [onFrame]
    cases parsed : MessageView.fromSliceExact t payload with
    | ok view =>
      refine takes_onRequest reading fun notify code message rejected => ?_
      exact serves view notify code message parsed rejected
    | err error => exact takes_returned reading _
    | panic => exact absurd parsed (MessageView.fromSliceExact_ne_panic t payload)
  | text payload => exact takes_returned reading _
  | close => exact takes_returned reading _
  | ping | pong | frame => exact .quiet rfl rfl (fun _ => rfl) rfl (.inl rfl)

/-- What is put on the channel for no request changes no answer. -/
theorem takes_push (conn : WsConnection) (message : Message) :
    Takes conn ((conn.put .peer message).getD conn) := by
  cases room : conn.put .peer message with
  | none => exact .quiet rfl rfl (fun _ => rfl) rfl (.inl rfl)
  | some after =>
    rw [Option.getD_some]
    have added := put_history room
    rw [put_eq room] at added ⊢
    -- A message of a peer has no number, so neither list is any longer.
    refine .quiet rfl rfl (fun number => ?_) ?_ (.inl rfl)
    · rw [answers_append added]
      simp [Outbound.answer]
    · rw [readerNumbers_append added]
      simp [Outbound.readerNumber]

/-- What a handler in a task does when it ends. -/
theorem takes_onTask (found : conn.requests[number]? = some request)
    (task : request.offReader = true) (serving : request.stage = .serving)
    {outcome : Exec RepeError Message} (keeps : TaskKeeps t request.view outcome) :
    Takes conn (conn.onTask t number request.view (request.view.header.notify == 1) outcome) := by
  have answers := taskStage_answers keeps
  -- A stage that answers is not lost, so the task does not unwind.
  have kept : taskStage t request.view (request.view.header.notify == 1) outcome ≠ .lost := by
    intro lost
    rw [lost] at answers
    cases answers
  have unfinished := taskStage_ne_done t request.view (request.view.header.notify == 1) outcome
  unfold onTask
  dsimp only
  rw [if_neg kept]
  split <;> exact .taskServed number request _ found task serving answers unfinished
    rfl rfl rfl rfl

/-- What the end of a handler does on the reader. -/
theorem takes_inlineEnds {outcome : Exec RepeError Message}
    (serves : Serves t router conn (.inlineEnds outcome))
    (stepped : conn.step t router (.inlineEnds outcome) = some after) : Takes conn after := by
  rw [step] at stepped
  split at stepped
  · next number busy =>
    -- The reader is busy with a request it serves itself.
    split at stepped
    · next view offReader found =>
      cases stepped
      have answers := inlineStage_answers (serves number _ busy found)
      have reads := inlineStage_ne_leaving t view (view.header.notify == 1) outcome
      exact .served number _ _ busy found rfl answers reads rfl rfl rfl rfl
    · cases stepped
  · cases stepped

/-- What the reader does when there is room for its response. -/
theorem takes_send (stepped : conn.step t router .send = some after) : Takes conn after := by
  rw [step] at stepped
  split at stepped
  · next number busy =>
    split at stepped
    · next view offReader response found =>
      -- The response is the last on the channel, and the reader reads on.
      obtain ⟨between, room, rfl⟩ := Option.map_eq_some_iff.mp stepped
      have added := put_history room
      rw [put_eq room] at added ⊢
      exact .sent number _ response busy found rfl rfl rfl added rfl
    · cases stepped
  · cases stepped

theorem takes_taskSends (stepped : conn.step t router (.taskSends number) = some after) :
    Takes conn after := by
  rw [step] at stepped
  split at stepped
  · next view response found =>
    obtain ⟨between, room, rfl⟩ := Option.map_eq_some_iff.mp stepped
    -- The response is the last one on the channel.
    have added := put_history room
    rw [put_eq room] at added ⊢
    exact .taskSent number _ response found rfl rfl rfl rfl added rfl
  · cases stepped

theorem takes_drain (stepped : conn.step t router .drain = some after) : Takes conn after := by
  rw [step] at stepped
  split at stepped
  · next first queue waiting =>
    cases stepped
    -- The message goes from the channel to the socket, and the history has both.
    have same : conn.written ++ [first] ++ queue = conn.history := by
      rw [history, waiting, List.append_assoc, List.singleton_append]
    refine .quiet rfl rfl (fun number => ?_) ?_ (.inl rfl)
    · exact congrArg (List.filterMap (Outbound.answer number)) same
    · exact congrArg (List.filterMap Outbound.readerNumber) same
  · cases stepped

/-- One step, if its handler does what is asked of it, is one of these. -/
theorem takes_of_step (serves : Serves t router conn event)
    (stepped : conn.step t router event = some after) : Takes conn after := by
  -- Each event first looks whether the reader, or the task, is where the event happens.
  cases event with
  | frame message =>
    rw [step] at stepped
    split at stepped
    · next reading =>
      cases stepped
      exact takes_onFrame reading serves
    · cases stepped
  | transportFailed error =>
    rw [step] at stepped
    split at stepped
    · next reading =>
      cases stepped
      exact takes_returned reading _
    · cases stepped
  | ended =>
    rw [step] at stepped
    split at stepped
    · next reading =>
      cases stepped
      exact takes_returned reading _
    · cases stepped
  | inlineEnds outcome => exact takes_inlineEnds serves stepped
  | send => exact takes_send stepped
  | taskEnds number outcome =>
    rw [step] at stepped
    split at stepped
    · next view found =>
      cases stepped
      exact takes_onTask found rfl rfl (serves _ found)
    · cases stepped
  | taskSends number => exact takes_taskSends stepped
  | taskLeaves number =>
    rw [step] at stepped
    split at stepped
    · next view found =>
      cases stepped
      exact .taskLeft number _ found rfl rfl rfl rfl rfl rfl
    · cases stepped
  | drain => exact takes_drain stepped
  | push message =>
    cases stepped
    exact takes_push conn message

theorem setStage_getElem (conn : WsConnection) (number : Nat) (stage : Stage) (other : Nat) :
    (conn.setStage number stage).requests[other]? =
      if number = other then conn.requests[other]?.map fun request => { request with stage }
      else conn.requests[other]? := by
  rw [setStage, List.getElem?_modify]
  split <;> simp

theorem setStage_length (conn : WsConnection) (number : Nat) (stage : Stage) :
    (conn.setStage number stage).requests.length = conn.requests.length := by
  simp [setStage]

theorem found_of_append {fresh : Request} (requests : after.requests = conn.requests ++ [fresh])
    (found : after.requests[number]? = some request) :
    conn.requests[number]? = some request ∨ number = conn.requests.length ∧ request = fresh := by
  rw [requests] at found
  -- The number is one of before, the new one, or past the end.
  rcases Nat.lt_trichotomy number conn.requests.length with before | last | past
  · rw [List.getElem?_append_left before] at found
    exact .inl found
  · subst last
    rw [List.getElem?_concat_length] at found
    exact .inr ⟨rfl, (Option.some.inj found).symm⟩
  · rw [List.getElem?_eq_none (by simp; omega)] at found
    cases found

theorem found_of_setStage {stage : Stage} {changed : Request}
    (found : conn.requests[number]? = some request)
    (requests : after.requests = (conn.setStage number stage).requests)
    (listed : after.requests[other]? = some changed) :
    (other = number ∧ changed = { request with stage }) ∨
      other ≠ number ∧ conn.requests[other]? = some changed := by
  rw [requests, setStage_getElem] at listed
  -- Only the request that has gone on is changed.
  by_cases same : number = other
  · subst same
    rw [if_pos rfl, found] at listed
    exact .inl ⟨rfl, (Option.some.inj listed).symm⟩
  · rw [if_neg same] at listed
    exact .inr ⟨Ne.symm same, listed⟩

/-- What was put on the channel for each request, in every run. -/
structure Answered (conn : WsConnection) : Prop where
  owes : ∀ {number : Nat} {request : Request}, conn.requests[number]? = some request →
    request.Owes (conn.answers number)
  fresh : ∀ {number : Nat}, conn.requests.length ≤ number → conn.answers number = []

theorem Answered.append (answered : conn.Answered) {view : MessageView} {offReader : Bool}
    {stage : Stage} (opens : stage = .serving ∨ stage.Answers view)
    (requests : after.requests = conn.requests ++ [⟨view, offReader, stage⟩])
    (history : after.history = conn.history) : after.Answered where
  owes {number request} found := by
    rw [answers_of_history history]
    -- The others owe what they owed; the new one has not been answered.
    rcases found_of_append requests found with before | ⟨rfl, rfl⟩
    · exact answered.owes before
    · rw [answered.fresh le_rfl]
      exact Request.owes_nil opens
  fresh {number} past := by
    rw [answers_of_history history]
    rw [requests, List.length_append] at past
    exact answered.fresh (Nat.le_of_add_right_le past)

/-- A request goes on to another stage, and something may be put on the channel for it. -/
theorem Answered.setStage (answered : conn.Answered) {stage : Stage}
    (found : conn.requests[number]? = some request)
    (requests : after.requests = (conn.setStage number stage).requests)
    (others : ∀ other, other ≠ number → after.answers other = conn.answers other)
    (owes : Request.Owes { request with stage } (after.answers number)) : after.Answered where
  owes {other changed} listed := by
    rcases found_of_setStage found requests listed with ⟨rfl, rfl⟩ | ⟨apart, before⟩
    · exact owes
    · rw [others other apart]
      exact answered.owes before
  fresh {other} past := by
    rw [requests, setStage_length] at past
    -- A number past the requests is not the one that goes on.
    have apart : other ≠ number := by
      rintro rfl
      rw [List.getElem?_eq_none past] at found
      cases found
    rw [others other apart]
    exact answered.fresh past

theorem answer_other {source : Source} {message : Message} (apart : other ≠ number)
    (mine : source = .reader number ∨ source = .task number) :
    Outbound.answer other ⟨source, message⟩ = none := by
  rcases mine with rfl | rfl <;> simp [Outbound.answer, apart.symm]

/-- A response that gets on the channel is the answer of its request. -/
theorem Answered.sent (answered : conn.Answered) {stage : Stage} {source : Source}
    {response : Message} (found : conn.requests[number]? = some request)
    (replying : request.stage = .replying response) (finished : stage = .done ∨ stage = .leaving)
    (mine : source = .reader number ∨ source = .task number)
    (requests : after.requests = (conn.setStage number stage).requests)
    (added : after.history = conn.history ++ [⟨source, response⟩]) : after.Answered := by
  have owed := answered.owes found
  rw [Request.Owes, replying] at owed
  obtain ⟨none, loud, same⟩ := owed
  refine answered.setStage found requests (fun other apart => ?_) ?_
  -- For the others the message is no answer; for this request it is the first.
  · rw [answers_append added, answer_other apart mine, Option.toList_none, List.append_nil]
  · have whole : after.answers number = [response] := by
      rw [answers_append added, none]
      rcases mine with rfl | rfl <;> simp [Outbound.answer]
    rw [whole, Request.Owes]
    have expected : ¬ request.notify = true := by simp [loud]
    rcases finished with rfl | rfl <;> exact (if_neg expected).mpr ⟨response, rfl, same⟩

theorem Answered.served (answered : conn.Answered) {stage : Stage}
    (found : conn.requests[number]? = some request) (serving : request.stage = .serving)
    (answers : stage.Answers request.view)
    (requests : after.requests = (conn.setStage number stage).requests)
    (history : after.history = conn.history) : after.Answered := by
  -- The handler was running, so nothing is on the channel.
  have owed := answered.owes found
  rw [Request.Owes, serving] at owed
  refine answered.setStage found requests (fun other _ => answers_of_history history other) ?_
  rw [answers_of_history history, owed]
  exact Request.owes_nil (.inr answers)

/-- Every step keeps the account. -/
theorem Answered.takes (answered : conn.Answered) (takes : Takes conn after) : after.Answered := by
  cases takes with
  | quiet requests permits answers =>
    refine ⟨fun found => ?_, fun past => ?_⟩
    · rw [answers]
      exact answered.owes (requests ▸ found)
    · rw [answers]
      exact answered.fresh (requests ▸ past)
  | received view stage reading opens reads requests reader history =>
    exact answered.append opens requests history
  | spawned view reading requests reader history => exact answered.append (.inl rfl) requests history
  | served number request stage reader found serving answers reads requests next history =>
    exact answered.served found serving answers requests history
  | sent number request response reader found replying requests next history =>
    exact answered.sent found replying (.inl rfl) (.inl rfl) requests history
  | taskServed number request stage found task serving answers unfinished requests reader history =>
    exact answered.served found serving answers requests history
  | taskSent number request response found task replying requests reader history =>
    exact answered.sent found replying (.inr rfl) (.inr rfl) requests history
  | taskLeft number request found task leaving requests reader history =>
    -- What is owed of a request that leaves is owed of one that is done.
    refine answered.setStage found requests (fun other _ => answers_of_history history other) ?_
    have owed := answered.owes found
    rw [Request.Owes, leaving] at owed
    rw [answers_of_history history]
    exact owed

/-- The reader is busy with the last request if it serves it, and its answers are in order. -/
structure Ordered (conn : WsConnection) : Prop where
  busy : ∀ {number : Nat}, conn.reader = .busy number → number + 1 = conn.requests.length ∧
    ∃ request, conn.requests[number]? = some request ∧ request.offReader = false ∧ request.Open
  idle : ∀ {number : Nat} {request : Request}, conn.requests[number]? = some request →
    request.offReader = false → request.Open → conn.reader = .busy number
  reads : ∀ {number : Nat} {request : Request}, conn.requests[number]? = some request →
    request.offReader = false → request.stage ≠ .leaving
  order : conn.readerNumbers.Pairwise (· < ·)

/-- A request the reader has answered has an answer. -/
theorem answers_ne_nil (listed : number ∈ conn.readerNumbers) : conn.answers number ≠ [] := by
  obtain ⟨out, inside, named⟩ := List.mem_filterMap.mp listed
  -- The number names the source of a message on the channel.
  have source : out.source = .reader number := by
    unfold Outbound.readerNumber at named
    split at named
    · next found =>
      cases named
      exact found
    · cases named
  have member : out.message ∈ conn.answers number :=
    List.mem_filterMap.mpr ⟨out, inside, if_pos (.inl source)⟩
  exact List.ne_nil_of_mem member

/-- Every request the reader has answered came before the one whose response waits. -/
theorem Answered.before (answered : conn.Answered) (last : number + 1 = conn.requests.length)
    (none : conn.answers number = []) (listed : other ∈ conn.readerNumbers) : other < number := by
  have answer := answers_ne_nil listed
  -- A request that has not come has no answer.
  have inside : other < conn.requests.length := by
    by_contra past
    exact answer (answered.fresh (Nat.le_of_not_lt past))
  have apart : other ≠ number := by
    rintro rfl
    exact answer none
  omega

theorem Ordered.mine (ordered : conn.Ordered) (busy : conn.reader = .busy number)
    (found : conn.requests[number]? = some request) : request.offReader = false := by
  -- The request the reader is busy with is found under its number.
  obtain ⟨_, listed, at_, mine, _⟩ := ordered.busy busy
  rw [found] at at_
  cases at_
  exact mine

theorem Ordered.closed (ordered : conn.Ordered) (reading : conn.reader = .reading)
    (found : conn.requests[number]? = some request) (mine : request.offReader = false)
    (opens : request.Open) : False := by
  -- A reader between frames serves nobody.
  have busy := ordered.idle found mine opens
  rw [reading] at busy
  cases busy

/-- The reader has a new request, or has spawned a task for it. -/
theorem Ordered.append (ordered : conn.Ordered) (reading : conn.reader = .reading)
    {fresh : Request} (requests : after.requests = conn.requests ++ [fresh])
    (history : after.history = conn.history)
    (reader : ∀ {number}, after.reader = .busy number →
      number = conn.requests.length ∧ fresh.offReader = false ∧ fresh.Open)
    (opens : fresh.offReader = false → fresh.Open → after.reader = .busy conn.requests.length)
    (reads : fresh.stage ≠ .leaving) : after.Ordered where
  busy {number} busy := by
    -- The reader is busy with the new request only.
    obtain ⟨rfl, mine, opens⟩ := reader busy
    rw [requests]
    exact ⟨by simp, fresh, List.getElem?_concat_length, mine, opens⟩
  idle {number request} found mine open_ := by
    rcases found_of_append requests found with before | ⟨rfl, rfl⟩
    · exact (ordered.closed reading before mine open_).elim
    · exact opens mine open_
  reads {number request} found mine := by
    rcases found_of_append requests found with before | ⟨rfl, rfl⟩
    · exact ordered.reads before mine
    · exact reads
  order := by
    rw [readerNumbers, history]
    exact ordered.order

/-- The reader goes on with the request it is busy with. -/
theorem Ordered.next (ordered : conn.Ordered) {stage : Stage} (busy : conn.reader = .busy number)
    (found : conn.requests[number]? = some request)
    (requests : after.requests = (conn.setStage number stage).requests)
    (reader : ∀ {other}, after.reader = .busy other →
      other = number ∧ (Request.Open { request with stage }))
    (opens : Request.Open { request with stage } → after.reader = .busy number)
    (reads : stage ≠ .leaving) (order : after.readerNumbers.Pairwise (· < ·)) :
    after.Ordered where
  busy {other} again := by
    obtain ⟨rfl, open_⟩ := reader again
    have mine := ordered.mine busy found
    rw [requests, setStage_length, setStage_getElem, if_pos rfl, found]
    exact ⟨(ordered.busy busy).1, _, rfl, mine, open_⟩
  idle {other changed} listed mine open_ := by
    rcases found_of_setStage found requests listed with ⟨rfl, rfl⟩ | ⟨apart, before⟩
    · exact opens open_
    · -- No other request is open.
      have elsewhere := ordered.idle before mine open_
      rw [busy] at elsewhere
      cases elsewhere
      exact absurd rfl apart
  reads {other changed} listed mine := by
    rcases found_of_setStage found requests listed with ⟨rfl, rfl⟩ | ⟨_, before⟩
    · exact reads
    · exact ordered.reads before mine
  order := order

/-- A task goes on with its request, which is no concern of the reader. -/
theorem Ordered.task (ordered : conn.Ordered) {stage : Stage}
    (found : conn.requests[number]? = some request) (task : request.offReader = true)
    (requests : after.requests = (conn.setStage number stage).requests)
    (reader : after.reader = conn.reader) (numbers : after.readerNumbers = conn.readerNumbers) :
    after.Ordered := by
  -- The requests of the reader are as they were.
  have kept {other : Nat} {changed : Request} (listed : after.requests[other]? = some changed)
      (mine : changed.offReader = false) : conn.requests[other]? = some changed := by
    rcases found_of_setStage found requests listed with ⟨rfl, rfl⟩ | ⟨_, before⟩
    · rw [task] at mine
      cases mine
    · exact before
  refine ⟨fun {other} busy => ?_, fun listed mine opens => ?_, fun listed mine => ?_, ?_⟩
  · rw [reader] at busy
    obtain ⟨last, listed, at_, mine, open_⟩ := ordered.busy busy
    -- The reader is busy with a request of its own.
    have apart : number ≠ other := by
      rintro rfl
      have own := ordered.mine busy found
      rw [task] at own
      cases own
    rw [requests, setStage_length, setStage_getElem, if_neg apart]
    exact ⟨last, listed, at_, mine, open_⟩
  · rw [reader]
    exact ordered.idle (kept listed mine) mine opens
  · exact ordered.reads (kept listed mine) mine
  · rw [numbers]
    exact ordered.order

theorem open_of_readerAt {view : MessageView} {offReader : Bool} {stage : Stage}
    (busy : readerAt number stage = .busy other) (reads : stage ≠ .leaving) :
    other = number ∧ Request.Open ⟨view, offReader, stage⟩ := by
  -- The reader is busy while it serves a request or has to put the answer.
  cases stage with
  | serving =>
    cases busy
    exact ⟨rfl, .inl rfl⟩
  | replying response =>
    cases busy
    exact ⟨rfl, .inr ⟨response, rfl⟩⟩
  | leaving => exact absurd rfl reads
  | done => cases busy
  | lost => cases busy

theorem readerAt_of_open {view : MessageView} {offReader : Bool} {stage : Stage}
    (opens : Request.Open ⟨view, offReader, stage⟩) : readerAt number stage = .busy number := by
  -- In both open stages the reader has the request in hand.
  rcases opens with serving | ⟨response, replying⟩
  · cases serving
    rfl
  · cases replying
    rfl

/-- Every step keeps the order. -/
theorem Ordered.takes (ordered : conn.Ordered) (answered : conn.Answered)
    (takes : Takes conn after) : after.Ordered := by
  cases takes with
  | quiet requests permits answers numbers reader =>
    -- A reader that returns was reading, and then no request of its own was open.
    refine ⟨fun busy => ?_, fun found mine opens => ?_, fun found => ordered.reads (requests ▸ found),
      numbers ▸ ordered.order⟩
    · rcases reader with same | ⟨_, result, returned⟩
      · rw [requests]
        exact ordered.busy (same ▸ busy)
      · rw [returned] at busy
        cases busy
    · rcases reader with same | ⟨reading, _⟩
      · rw [same]
        exact ordered.idle (requests ▸ found) mine opens
      · exact (ordered.closed reading (requests ▸ found) mine opens).elim
  | received view stage reading opens reads requests reader history =>
    refine ordered.append reading requests history (fun busy => ?_) (fun _ opens => ?_) reads
    · rw [reader] at busy
      have opened : _ ∧ Request.Open ⟨view, false, stage⟩ := open_of_readerAt busy reads
      exact ⟨opened.1, rfl, opened.2⟩
    · rw [reader]
      exact readerAt_of_open opens
  | spawned view reading requests reader history =>
    refine ordered.append reading requests history (fun busy => ?_) (fun mine => ?_)
      Stage.noConfusion
    · rw [reader] at busy
      cases busy
    · cases mine
  | served number request stage busy found serving answers reads requests next history =>
    refine ordered.next busy found requests (fun again => ?_) (fun opens => ?_) reads ?_
    · exact open_of_readerAt (next ▸ again) reads
    · rw [next]
      exact readerAt_of_open opens
    · rw [readerNumbers, history]
      exact ordered.order
  | sent number request response busy found replying requests next history =>
    refine ordered.next busy found requests (fun again => ?_) (fun opens => ?_)
      Stage.noConfusion ?_
    · rw [next] at again
      cases again
    · rcases opens with serving | ⟨_, waits⟩
      · cases serving
      · cases waits
    · -- The response that waited is the last one so far.
      have owed := answered.owes found
      rw [Request.Owes, replying] at owed
      rw [readerNumbers_append history, List.pairwise_append]
      refine ⟨ordered.order, List.pairwise_singleton _ _, fun other listed last single => ?_⟩
      rw [List.mem_singleton.mp single]
      exact answered.before (ordered.busy busy).1 owed.1 listed
  | taskServed number request stage found task serving answers unfinished requests reader history =>
    exact ordered.task found task requests reader (by rw [readerNumbers, history, readerNumbers])
  | taskSent number request response found task replying requests reader history =>
    refine ordered.task found task requests reader ?_
    rw [readerNumbers_append history]
    exact List.append_nil _
  | taskLeft number request found task leaving requests reader history =>
    exact ordered.task found task requests reader (by rw [readerNumbers, history, readerNumbers])

def Held (conn : WsConnection) (number : Nat) : Prop :=
  ∃ request, conn.requests[number]? = some request ∧ request.Holds

/-- Every task that has not ended holds a permit, and nobody else does. -/
structure Permitted (limit : Nat) (conn : WsConnection) : Prop where
  limited : conn.permits.map Semaphore.limit = if limit = 0 then none else some limit
  different : ∀ {permits : Semaphore Nat}, conn.permits = some permits → permits.holders.Nodup
  holders : ∀ {permits : Semaphore Nat}, conn.permits = some permits → ∀ number,
    number ∈ permits.holders ↔ conn.Held number

variable {limit : Nat}

theorem Permitted.of_requests (permitted : conn.Permitted limit)
    (permits : after.permits = conn.permits)
    (same : ∀ number, after.Held number ↔ conn.Held number) : after.Permitted limit where
  limited := permits ▸ permitted.limited
  different held := permitted.different (permits ▸ held)
  holders held number := by
    rw [same]
    exact permitted.holders (permits ▸ held) number

theorem Permitted.setStage (permitted : conn.Permitted limit) {stage : Stage}
    (found : conn.requests[number]? = some request)
    (requests : after.requests = (conn.setStage number stage).requests)
    (permits : after.permits = conn.permits)
    (same : Request.Holds { request with stage } ↔ request.Holds) : after.Permitted limit := by
  refine permitted.of_requests permits fun other => ?_
  rw [Held, Held, requests, setStage_getElem]
  -- Who holds a permit does not change.
  by_cases apart : number = other
  · subst apart
    rw [if_pos rfl, found]
    simpa using same
  · rw [if_neg apart]

theorem holds_append {fresh : Request} (requests : after.requests = conn.requests ++ [fresh])
    (number : Nat) :
    after.Held number ↔ (number = conn.requests.length ∧ fresh.Holds) ∨ conn.Held number := by
  rw [Held, Held, requests]
  -- A number before the end, the new one, or past it.
  rcases Nat.lt_trichotomy number conn.requests.length with before | last | past
  · rw [List.getElem?_append_left before]
    simp [Nat.ne_of_lt before]
  · subst last
    simp
  · rw [List.getElem?_eq_none (by simp; omega), List.getElem?_eq_none (by omega)]
    simp [Nat.ne_of_gt past]

/-- A task that is spawned gets a permit, if permits are counted. -/
theorem Permitted.spawned (permitted : conn.Permitted limit) {view : MessageView}
    (requests : after.requests = conn.requests ++ [⟨view, true, .serving⟩])
    (permits : conn.permits = none ∧ after.permits = none ∨
      ∃ before now, conn.permits = some before ∧ after.permits = some now ∧
        before.tryAcquire conn.requests.length = some now) : after.Permitted limit := by
  have holds : Request.Holds ⟨view, true, .serving⟩ := ⟨rfl, .inl (.inl rfl)⟩
  rcases permits with ⟨none_, still⟩ | ⟨before, now, held, granted, acquired⟩
  · -- Without a limit there is nothing to hold.
    refine ⟨?_, fun some_ => ?_, fun some_ => ?_⟩
    · rw [still, ← none_]
      exact permitted.limited
    · rw [still] at some_
      cases some_
    · rw [still] at some_
      cases some_
  · obtain ⟨limit_, holders⟩ := Semaphore.tryAcquire_eq acquired
    -- The number of the new request was nobody's before.
    have fresh : conn.requests.length ∉ before.holders := by
      rw [permitted.holders held]
      rintro ⟨request, found, _⟩
      rw [List.getElem?_eq_none le_rfl] at found
      cases found
    refine ⟨?_, fun some_ => ?_, fun some_ number => ?_⟩
    · rw [granted, ← permitted.limited, held]
      simp [limit_]
    · rw [granted] at some_
      cases some_
      rw [holders]
      exact List.nodup_cons.mpr ⟨fresh, permitted.different held⟩
    · rw [granted] at some_
      cases some_
      rw [holders, List.mem_cons, permitted.holders held, holds_append requests]
      simp [holds]

/-- A task that ends gives its permit back. -/
theorem Permitted.left (permitted : conn.Permitted limit)
    (found : conn.requests[number]? = some request)
    (requests : after.requests = (conn.setStage number .done).requests)
    (permits : after.permits = conn.permits.map (·.release number)) : after.Permitted limit := by
  have ended : ¬ Request.Holds { request with stage := .done } := fun holds => holds.not_done rfl
  -- There is a semaphore after the step exactly if there was one before.
  have released {before : Semaphore Nat} (held : after.permits = some before) :
      ∃ earlier, conn.permits = some earlier ∧ before = earlier.release number := by
    rw [permits] at held
    obtain ⟨earlier, found, rfl⟩ := Option.map_eq_some_iff.mp held
    exact ⟨earlier, found, rfl⟩
  refine ⟨?_, fun held => ?_, fun held other => ?_⟩
  · rw [permits, ← permitted.limited, Option.map_map]
    congr 1
    funext semaphore
    exact semaphore.release_limit number
  · obtain ⟨earlier, before, rfl⟩ := released held
    rw [Semaphore.release_holders]
    exact (permitted.different before).erase number
  · obtain ⟨earlier, before, rfl⟩ := released held
    rw [Semaphore.mem_release (permitted.different before), permitted.holders before, Held, Held,
      requests, setStage_getElem]
    -- The task that left holds nothing any more, and the others what they held.
    by_cases same : number = other
    · subst same
      rw [if_pos rfl, found]
      simp [ended]
    · rw [if_neg same]
      simp [Ne.symm same]

/-- Every step gives permits to tasks, and takes them back when they end. -/
theorem Permitted.takes (permitted : conn.Permitted limit) (ordered : conn.Ordered)
    (takes : Takes conn after) : after.Permitted limit := by
  cases takes with
  | quiet requests permits =>
    exact permitted.of_requests permits fun number => by rw [Held, requests, Held]
  | received view stage reading opens reads requests reader history permits =>
    refine permitted.of_requests permits fun number => ?_
    rw [holds_append requests]
    simp [Request.Holds]
  | spawned view reading requests reader history permits =>
    exact permitted.spawned requests permits
  | served number request stage busy found serving answers reads requests next history permits =>
    -- The request is the reader's, and holds no permit before or after.
    refine permitted.setStage found requests permits ?_
    simp [Request.Holds, ordered.mine busy found]
  | sent number request response busy found replying requests next history permits =>
    refine permitted.setStage found requests permits ?_
    simp [Request.Holds, ordered.mine busy found]
  | taskServed number request stage found task serving answers unfinished requests reader history
      permits =>
    refine permitted.setStage found requests permits
      (iff_of_true ⟨task, ?_⟩ ⟨task, .inl (.inl serving)⟩)
    -- A task is not done before it has left.
    cases stage with
    | serving => exact .inl (.inl rfl)
    | replying response => exact .inl (.inr ⟨response, rfl⟩)
    | leaving => exact .inr rfl
    | done => exact absurd rfl unfinished
    | lost => cases answers
  | taskSent number request response found task replying requests reader history permits =>
    exact permitted.setStage found requests permits
      (iff_of_true ⟨task, .inr rfl⟩ ⟨task, .inl (.inr ⟨response, replying⟩)⟩)
  | taskLeft number request found task leaving requests reader history permits =>
    exact permitted.left found requests permits

structure Sound (limit : Nat) (conn : WsConnection) : Prop where
  answered : conn.Answered
  ordered : conn.Ordered
  permitted : conn.Permitted limit

/-- A new connection has nothing to answer. -/
theorem sound_opened {capacity : Nat} (positive : 0 < capacity) (limit : Nat) :
    (opened positive limit).Sound limit where
  answered := ⟨fun found => absurd found (by simp [opened]), fun _ => rfl⟩
  ordered := by
    refine ⟨fun busy => absurd busy (by simp [opened]), fun found => absurd found (by simp [opened]),
      fun found => absurd found (by simp [opened]), List.Pairwise.nil⟩
  permitted := by
    -- A new semaphore has all of its permits.
    have nobody {permits : Semaphore Nat} (held : (opened positive limit).permits = some permits) :
        permits.holders = [] := by
      rw [opened] at held
      split at held
      · cases held
      · cases held
        rfl
    refine ⟨?_, fun held => ?_, fun held number => ?_⟩
    · rw [opened]
      split <;> rfl
    · rw [nobody held]
      exact List.nodup_nil
    · rw [nobody held]
      simp [Held, opened]

theorem sound_of_run {capacity : Nat} {positive : 0 < capacity} {events : List WsEvent}
    (serves : Transition.Meets (step t router) (Serves t router) (opened positive limit) events)
    (ran : Transition.run (step t router) (opened positive limit) events = some conn) :
    conn.Sound limit := by
  refine Transition.invariant_of_meets (Sound limit) ?_ (sound_opened positive limit) serves ran
  intro conn event after sound allowed stepped
  -- The order needs the account, and the permits need the order, of the state before.
  have takes := takes_of_step allowed stepped
  exact ⟨sound.answered.takes takes, sound.ordered.takes sound.answered takes,
    sound.permitted.takes sound.ordered takes⟩

end WsConnection

end Repe
