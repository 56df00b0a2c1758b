import Repe.Client.Subscription
import Repe.Lib.Semaphore
import Repe.Server.Responses

/-! One WebSocket connection of a server: the reader, the tasks it spawns for handlers that run off the
reader, and the bounded channel to the writer that they share. -/

namespace Repe

section Answers

variable {M : Type → Type} {C : Type}

/-- `dispatch`: call a handler on an owned request, and frame its error. -/
def dispatch [Monad M] (handler : HandlerErased M C) (request : Message) (ctx : C) (notify : Bool) :
    M (Option Message) := do
  let outcome ← handler.handleWithCtx request ctx
  -- A notify runs the handler for its effects only.
  if notify then return none
  else match outcome with
    | .ok message => return some message
    | .error error =>
      return some (createErrorResponseLike request error.toErrorCode error.display)

end Answers

/-- The response the reader has for a handler that returned. -/
def inlineResponse (view : MessageView) : HandlerResult → Message
  | .ok message => message
  | .error error => createErrorResponseUnstampedView view error.toErrorCode error.display

def taskResponse (request : Message) : HandlerResult → Message
  | .ok message => message
  | .error error => createErrorResponseLike request error.toErrorCode error.display

/-- The reports of a connection to its `on_error` hooks that concern one request. -/
inductive ConnectionError where
  | saturation (method : Path)
  | handlerPanic (method : Path)
  deriving DecidableEq, Repr

inductive Source where
  | reader (request : Nat)
  | task (request : Nat)
  | peer
  deriving DecidableEq, Repr

structure Outbound where
  source : Source
  message : Message
  deriving DecidableEq, Repr

inductive Stage where
  | serving
  | replying (response : Message)
  | leaving
  | done
  /-- Whoever served it unwound before there was a response. -/
  | lost
  deriving DecidableEq, Repr

structure Request where
  view : MessageView
  offReader : Bool
  stage : Stage

def Request.notify (request : Request) : Bool := request.view.header.notify == 1

/-- Where `reader_task` is. -/
inductive ReaderState where
  | reading
  | busy (request : Nat)
  | returned (result : Except RepeError Unit)
  | unwound

structure WsConnection where
  /-- The capacity of the outbound channel, what is on it, and what the writer took from it. -/
  capacity : Nat
  positive : 0 < capacity
  queue : List Outbound
  written : List Outbound
  permits : Option (Semaphore Nat)
  requests : List Request
  reader : ReaderState
  reports : List ConnectionError

inductive WsEvent where
  | frame (message : WsMessage)
  | transportFailed (error : RepeError)
  | ended
  | inlineEnds (outcome : Exec RepeError Message)
  | send
  | taskEnds (request : Nat) (outcome : Exec RepeError Message)
  | taskSends (request : Nat)
  | taskLeaves (request : Nat)
  | drain
  | push (message : Message)

namespace WsConnection

def history (conn : WsConnection) : List Outbound := conn.written ++ conn.queue

def opened {capacity : Nat} (positive : 0 < capacity) (limit : Nat) : WsConnection where
  capacity := capacity
  positive := positive
  queue := []
  written := []
  permits := if limit = 0 then none else some (.new limit)
  requests := []
  reader := .reading
  reports := []

def setStage (conn : WsConnection) (number : Nat) (stage : Stage) : WsConnection :=
  { conn with requests := conn.requests.modify number fun request => { request with stage } }

def put (conn : WsConnection) (source : Source) (message : Message) : Option WsConnection :=
  if conn.queue.length < conn.capacity then
    some { conn with queue := conn.queue ++ [⟨source, message⟩] }
  else none

def dropPermit (conn : WsConnection) (number : Nat) : WsConnection :=
  { conn with permits := conn.permits.map (·.release number) }

/-- The reader goes on with a request, unless it is done with it. -/
def readerAt (number : Nat) : Stage → ReaderState
  | .done => .reading
  | .lost => .unwound
  | _ => .busy number

def receive (conn : WsConnection) (view : MessageView) (stage : Stage) : WsConnection :=
  { conn with
    requests := conn.requests ++ [⟨view, false, stage⟩]
    reader := readerAt conn.requests.length stage }

variable (t : Target)

def stamped (response : Message) (query : Bytes) : Stage :=
  match stampResponseQuery t response query with
  | .ok response => .replying response
  -- An arithmetic overflow unwinds.
  | _ => .lost

def inlineStage (view : MessageView) (notify : Bool) : Exec RepeError Message → Stage
  | .ok message => if notify then .done else stamped t (inlineResponse view (.ok message)) view.query
  | .err error => if notify then .done else stamped t (inlineResponse view (.error error)) view.query
  -- Nothing catches a panic on the reader.
  | .panic => .lost

def taskStage (view : MessageView) (notify : Bool) (outcome : Exec RepeError Message) : Stage :=
  if notify then .leaving
  else match outcome with
    | .ok message => stamped t (taskResponse view.toMessage (.ok message)) view.query
    | .err error => stamped t (taskResponse view.toMessage (.error error)) view.query
    -- The panic was caught.
    | .panic =>
      stamped t (createErrorResponseLike view.toMessage .internalError "handler panicked") view.query

/-- `query_str().unwrap_or("")`. -/
def methodOf (view : MessageView) : Path := (Utf8.fromUtf8 view.query).getD []

def spawnOffReader (conn : WsConnection) (view : MessageView) (notify : Bool) : WsConnection :=
  let number := conn.requests.length
  let spawned := { conn with requests := conn.requests ++ [⟨view, true, .serving⟩] }
  match conn.permits with
  | none => spawned
  | some permits =>
    match permits.tryAcquire number with
    | some permits => { spawned with permits := some permits }
    | none =>
      let reported := { conn with reports := conn.reports ++ [ConnectionError.saturation (methodOf view)] }
      -- There is no response to refuse a notify with.
      if notify then reported.receive view .done
      else
        reported.receive view (.replying (createErrorResponseLike view.toMessage .resourceExhausted
          "off-reader dispatch limit reached; retry"))

variable {M : Type → Type} {C : Type} [Monad M] (router : Router M C)

def onRequest (conn : WsConnection) (view : MessageView) : WsConnection :=
  match route router view.header view.query with
  | .reject notify code message =>
    if notify then conn.receive view .done
    else
      let response := createErrorResponseUnstampedView view code message
      conn.receive view (stamped t response view.query)
  | .dispatch handler notify _ =>
    match handler.execution with
    | .inline => conn.receive view .serving
    | .offReader => conn.spawnOffReader view notify

/-- The reader has a message: `decode_request_payload`, and the frame in it. -/
def onFrame (conn : WsConnection) : WsMessage → WsConnection
  | .binary payload =>
    match MessageView.fromSliceExact t payload with
    | .ok view => conn.onRequest t router view
    | .err error => { conn with reader := .returned (.error error) }
    | .panic => { conn with reader := .unwound }
  | .ping | .pong | .frame => conn
  | .close => { conn with reader := .returned (.ok ()) }
  | .text _ =>
    { conn with reader := .returned (.error
        (websocketInvalidDataError "websocket transport requires binary messages")) }

def onInline (conn : WsConnection) (number : Nat) (view : MessageView) (notify : Bool)
    (outcome : Exec RepeError Message) : WsConnection :=
  let stage := inlineStage t view notify outcome
  { conn.setStage number stage with reader := readerAt number stage }

/-- A task gets on with its request, and reports a panic of its handler. -/
def onTask (conn : WsConnection) (number : Nat) (view : MessageView) (notify : Bool)
    (outcome : Exec RepeError Message) : WsConnection :=
  let stage := taskStage t view notify outcome
  let conn := conn.setStage number stage
  let conn := match outcome with
    | .panic => { conn with reports := conn.reports ++ [ConnectionError.handlerPanic (methodOf view)] }
    | _ => conn
  -- Unwinding drops the permit too.
  if stage = .lost then conn.dropPermit number else conn

def step (conn : WsConnection) : WsEvent → Option WsConnection
  | .frame message =>
    match conn.reader with
    | .reading => some (conn.onFrame t router message)
    | _ => none
  | .transportFailed error =>
    match conn.reader with
    | .reading => some { conn with reader := .returned (.error error) }
    | _ => none
  | .ended =>
    match conn.reader with
    | .reading => some { conn with reader := .returned (.ok ()) }
    | _ => none
  | .inlineEnds outcome =>
    match conn.reader with
    | .busy number =>
      match conn.requests[number]? with
      | some ⟨view, _, .serving⟩ =>
        some (conn.onInline t number view (view.header.notify == 1) outcome)
      | _ => none
    | _ => none
  | .send =>
    match conn.reader with
    | .busy number =>
      match conn.requests[number]? with
      | some ⟨_, _, .replying response⟩ =>
        (conn.put (.reader number) response).map fun conn =>
          { conn.setStage number .done with reader := .reading }
      | _ => none
    | _ => none
  | .taskEnds number outcome =>
    match conn.requests[number]? with
    | some ⟨view, true, .serving⟩ =>
      some (conn.onTask t number view (view.header.notify == 1) outcome)
    | _ => none
  | .taskSends number =>
    match conn.requests[number]? with
    | some ⟨_, true, .replying response⟩ =>
      (conn.put (.task number) response).map (·.setStage number .leaving)
    | _ => none
  | .taskLeaves number =>
    match conn.requests[number]? with
    | some ⟨_, true, .leaving⟩ => some ((conn.setStage number .done).dropPermit number)
    | _ => none
  | .drain =>
    match conn.queue with
    | first :: queue => some { conn with queue := queue, written := conn.written ++ [first] }
    | [] => none
  -- `try_send` drops what there is no room for.
  | .push message => some ((conn.put .peer message).getD conn)

end WsConnection

end Repe
