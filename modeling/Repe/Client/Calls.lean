import Mathlib.Data.List.AList
import Repe.Lib.Transition
import Repe.Wire.Message

/-! Concurrent calls on one connection: the callers, the pending map, and the response loop between them. -/

namespace Repe

inductive ClientKind where
  | blocking
  | async
  /-- `WebSocketClient`, which refuses requests over the limit it assumes of its peer. -/
  | webSocket (assumedPeerFrameLimit : Option Nat)
  deriving DecidableEq, Repr

/-- A name for one invocation of a call; the program itself only knows request ids. -/
abbrev CallId := Nat

/-- `HashMap<u64, PendingSender>`, where a sender is named by the call that holds its receiver. -/
abbrev Pending := AList fun _ : UInt64 => CallId

structure Response where
  message : Message
  number : Nat
  /-- The request the peer sent it for; no frame tells it apart from another of the same id. -/
  origin : Option CallId
  deriving DecidableEq, Repr

inductive Delivery where
  | response (response : Response)
  | fatal (error : RepeError)
  deriving DecidableEq, Repr

/-- Where a call stands between two steps that others can observe. -/
inductive Phase where
  | idle
  /-- The request is built, under the id it will be registered by. -/
  | drawn
  /-- In the pending map, on the way to the writer lock. -/
  | registered
  | writing
  | waiting
  /-- About to remove its registration and return the error. -/
  | leaving (error : RepeError)
  /-- The future was dropped, and its guard is about to remove the registration. -/
  | dropping
  | returned (result : Except RepeError Message)
  | dropped

/--
The call is registered and its outcome is still open; its future stops at awaits of these phases only.
-/
def Phase.parked : Phase → Bool
  | .registered | .writing | .waiting => true
  | _ => false

/-- One call: its request, how far it is, and the channel it waits on. -/
structure Call where
  request : Message
  /-- Made by `forward_message`, with the id its caller put in the request. -/
  forwarded : Bool
  phase : Phase
  inbox : List Delivery
  /-- The writer lock was taken for the request, so bytes of it may have left. -/
  started : Bool
  written : Bool
  answered : Bool

inductive LoopPhase where
  | reading
  /-- The registration is out of the map, and the response not yet sent. -/
  | matched (waiter : CallId) (response : Response)
  | failing (error : RepeError)
  /-- The writer is shut down, and the map still full. -/
  | draining (error : RepeError)
  /-- The map was drained, and these waiters have not been told. -/
  | sending (error : RepeError) (waiters : Pending)
  | stopped

structure ClientState where
  nextId : UInt64
  drawn : Nat
  pending : Pending
  calls : CallId → Call
  holder : Option CallId
  shut : Bool
  loop : LoopPhase
  received : List Message
  /-- The responses sent to a channel, by number, and the call each one was sent to. -/
  handed : List (Nat × CallId)

def requestTimeoutError (id : UInt64) (millis : Nat) : RepeError :=
  .io ⟨.timedOut, s!"request {id} timed out after {millis}ms"⟩

def responseChannelClosedError (id : UInt64) : RepeError :=
  .io ⟨.connectionAborted, s!"response channel closed for request {id}"⟩

def duplicateRequestIdError (id : UInt64) : RepeError :=
  .io ⟨.alreadyExists, s!"request id {id} is already pending"⟩

/-- `clone_fatal_error_for_waiter`: only an I/O error has a text to put the request id in front of. -/
def cloneFatalErrorForWaiter (error : RepeError) (id : UInt64) : RepeError :=
  match error with
  | .io source => .io ⟨source.kind, s!"request {id}: {source.message}"⟩
  | other => other

/-- `WebSocketLimits::check_outbound`; the stream clients have no such limit. -/
def ClientKind.checkOutbound (kind : ClientKind) (size : Nat) : Except RepeError Unit :=
  match kind with
  | .webSocket (some limit) => if size > limit then .error (.messageTooLarge size limit) else .ok ()
  | _ => .ok ()

def validateResponse (expected : UInt64) (response : Message) : Except RepeError Message :=
  if response.header.version ≠ repeVersion then
    .error (.versionMismatch response.header.version)
  else if response.header.id ≠ expected then
    .error (.responseIdMismatch expected response.header.id)
  else if response.header.ec ≠ ErrorCode.ok.toU32 then
    -- A code the crate does not know is reported as a parse error, with the body as its text.
    let code := (ErrorCode.tryFrom response.header.ec).getD .parseError
    .error (.serverError code (response.errorMessageUtf8.getD code.display))
  else
    .ok response

/-- What `forward_message` checks of a response; an upstream error passes through. -/
def validateForwarded (expected : UInt64) (response : Message) : Except RepeError Message :=
  if response.header.version ≠ repeVersion then
    .error (.versionMismatch response.header.version)
  else if response.header.id ≠ expected then
    .error (.responseIdMismatch expected response.header.id)
  -- The error code is the upstream's answer, and the forwarder hands it on.
  else
    .ok response

/-- Steps a call takes between its registration and its end. -/
inductive Move where
  /-- The outbound limit refuses the request before the lock is taken. -/
  | refuse
  | lockWriter
  | writeOk
  | writeFail (error : RepeError)
  | receive
  | timeout (millis : Nat)
  | closed
  /-- The future is dropped at the await it is parked on. -/
  | cancel

namespace Call

def unused : Call :=
  ⟨MessageBuilder.build {}, false, .idle, [], false, false, false⟩

def id (call : Call) : UInt64 := call.request.header.id

def validate (call : Call) (response : Message) : Except RepeError Message :=
  if call.forwarded then validateForwarded call.id response else validateResponse call.id response

/-- Put a value in the channel; once the call is over its receiver is gone and the value is lost. -/
def offer (call : Call) (delivery : Delivery) : Call :=
  match call.phase with
  -- The receiver was dropped with the call's stack frame, and the send's result is ignored.
  | .returned _ => call
  | .dropped => call
  | _ => { call with inbox := call.inbox ++ [delivery] }

def take (kind : ClientKind) (call : Call) : Option Call :=
  match call.inbox with
  | [] => none
  | .response response :: rest =>
    some { call with phase := .returned (call.validate response.message), inbox := rest }
  | .fatal error :: rest =>
    match kind with
    -- The blocking client returns at once: its registration is gone with the drained map.
    | .blocking => some { call with phase := .returned (.error error), inbox := rest }
    -- The others return before they disarm the guard, which then removes the id once more.
    | _ => some { call with phase := .leaving error, inbox := rest }

def move (kind : ClientKind) (call : Call) : Move → Option Call
  | .refuse =>
    match call.phase, kind.checkOutbound call.request.toVec.length with
    | .registered, .error error => some { call with phase := .leaving error }
    | _, _ => none
  | .lockWriter =>
    match call.phase, kind.checkOutbound call.request.toVec.length with
    | .registered, .ok () => some { call with phase := .writing, started := true }
    | _, _ => none
  | .writeOk =>
    match call.phase with
    | .writing => some { call with phase := .waiting, written := true }
    | _ => none
  | .writeFail error =>
    match call.phase with
    | .writing => some { call with phase := .leaving error }
    | _ => none
  | .receive =>
    match call.phase with
    | .waiting => call.take kind
    | _ => none
  -- The timer fires only while the channel is empty: a value that is there is received first.
  | .timeout millis =>
    match call.phase, call.inbox with
    | .waiting, [] => some { call with phase := .leaving (requestTimeoutError call.id millis) }
    | _, _ => none
  | .closed =>
    match call.phase, call.inbox with
    | .waiting, [] => some { call with phase := .leaving (responseChannelClosedError call.id) }
    | _, _ => none
  | .cancel =>
    -- A thread that is inside a call cannot be cancelled.
    if kind ≠ .blocking ∧ call.phase.parked then some { call with phase := .dropping } else none

end Call

/-- What the callers, the peer, and the response loop do next. -/
inductive Event where
  /-- A `call_*` draws an id and builds its request. -/
  | call (caller : CallId) (builder : MessageBuilder)
  /--
  `forward_message` takes the request as it is; one marked as a notify is written without a
  registration.
  -/
  | forward (caller : CallId) (request : Message)
  | notify
  | register (caller : CallId)
  | move (caller : CallId) (move : Move)
  /-- The registration is removed by id, explicitly or by the guard. -/
  | leave (caller : CallId)
  /-- The loop has read a frame, which the peer may have sent for a request, and looks its id up. -/
  | frame (message : Message) (origin : Option CallId)
  | deliver
  | fatal (error : RepeError)
  | shutdown
  | drain
  | sendFatal (id : UInt64)
  | stop

def Pending.holds (pending : Pending) (waiter : CallId) : Bool :=
  pending.entries.any fun entry => entry.2 == waiter

def LoopPhase.holds (loop : LoopPhase) (waiter : CallId) : Bool :=
  match loop with
  | .matched other _ => other == waiter
  | .sending _ waiters => waiters.holds waiter
  | _ => false

namespace ClientState

def connected : ClientState :=
  ⟨1, 0, ∅, fun _ => .unused, none, false, .reading, [], []⟩

def modify (client : ClientState) (caller : CallId) (change : Call → Call) : ClientState :=
  { client with calls := Function.update client.calls caller (change (client.calls caller)) }

def become (client : ClientState) (caller : CallId) (phase : Phase) : ClientState :=
  client.modify caller fun call => { call with phase }

/-- `next_request_id`: the counter wraps after the last id. -/
def nextRequestId (client : ClientState) : ClientState :=
  { client with nextId := client.nextId + 1, drawn := client.drawn + 1 }

def start (client : ClientState) (caller : CallId) (request : Message) (forwarded : Bool) :
    ClientState :=
  client.modify caller fun call => { call with request, forwarded, phase := .drawn }

def register (kind : ClientKind) (client : ClientState) (caller : CallId) : ClientState :=
  let id := (client.calls caller).id
  -- The blocking client inserts without looking, and drops a sender that was there.
  if kind ≠ .blocking ∧ id ∈ client.pending then
    client.become caller (.returned (.error (duplicateRequestIdError id)))
  else
    { client.become caller .registered with pending := client.pending.insert id caller }

/-- Remove whatever the map holds under the call's id, and end the call. -/
def leave (client : ClientState) (caller : CallId) (phase : Phase) : ClientState :=
  { client.become caller phase with
    pending := client.pending.erase (client.calls caller).id }

/-- The writer lock is free for the step, or the channel has no sender left for it. -/
def ready (client : ClientState) (caller : CallId) : Move → Bool
  | .lockWriter => client.holder.isNone
  -- A channel is closed once neither the map nor the loop has a sender of it.
  | .closed => !(client.pending.holds caller || client.loop.holds caller)
  | _ => true

def holderAfter (client : ClientState) (caller : CallId) : Move → Option CallId
  | .lockWriter => some caller
  | .writeOk | .writeFail _ => none
  -- Dropping a future drops the lock guard inside it.
  | .cancel => if client.holder = some caller then none else client.holder
  | _ => client.holder

/-- Record a frame, and which request the peer has answered with it. -/
def note (client : ClientState) (message : Message) (origin : Option CallId) : ClientState :=
  let client := { client with received := client.received ++ [message] }
  match origin with
  | none => client
  | some caller => client.modify caller fun call => { call with answered := true }

/-- Look a frame's id up under the map's lock, and take the registration out. -/
def correlate (client : ClientState) (response : Response) : ClientState :=
  match client.pending.lookup response.message.header.id with
  | some waiter => { client with
      pending := client.pending.erase response.message.header.id
      loop := .matched waiter response }
  | none => client

/-- Dispatch a frame; only the WebSocket client sets notifies aside first. -/
def dispatch (kind : ClientKind) (client : ClientState) (response : Response) : ClientState :=
  match kind with
  | .webSocket _ =>
    if response.message.header.notify ≠ 0 then client else client.correlate response
  | _ => client.correlate response

/-- One step of a caller or of the response loop; a step that is not possible here has no result. -/
def step (kind : ClientKind) (client : ClientState) : Event → Option ClientState
  | .call caller builder =>
    match (client.calls caller).phase with
    | .idle =>
      let request := MessageBuilder.build { builder with id := client.nextId }
      some (client.start caller request false).nextRequestId
    | _ => none
  | .forward caller request =>
    match (client.calls caller).phase with
    | .idle =>
      -- Only the async client has `forward_message`.
      if kind = .async ∧ request.header.notify ≠ 1 then some (client.start caller request true)
      else none
    | _ => none
  | .notify => some client.nextRequestId
  | .register caller =>
    match (client.calls caller).phase with
    | .drawn => some (client.register kind caller)
    | _ => none
  | .move caller move =>
    if client.ready caller move then
      ((client.calls caller).move kind move).map fun call =>
        { client.modify caller fun _ => call with holder := client.holderAfter caller move }
    else none
  | .leave caller =>
    match (client.calls caller).phase with
    | .leaving error => some (client.leave caller (.returned (.error error)))
    | .dropping => some (client.leave caller .dropped)
    | _ => none
  | .frame message origin =>
    match client.loop with
    | .reading =>
      -- The id is looked up in the same step, under the map's lock.
      let response : Response := ⟨message, client.received.length, origin⟩
      some ((client.note message origin).dispatch kind response)
    | _ => none
  | .deliver =>
    match client.loop with
    | .matched waiter response => some
        { client.modify waiter (·.offer (.response response)) with
          loop := .reading
          handed := client.handed ++ [(response.number, waiter)] }
    | _ => none
  | .fatal error =>
    match client.loop with
    | .reading => some { client with loop := .failing error }
    | _ => none
  | .shutdown =>
    match client.loop, client.holder with
    -- `fail_all_pending` waits for the writer lock before it shuts the writer down.
    | .failing error, none => some { client with loop := .draining error, shut := true }
    | _, _ => none
  | .drain =>
    match client.loop with
    -- The map is swapped for an empty one, and its lock given back.
    | .draining error => some { client with loop := .sending error client.pending, pending := ∅ }
    | _ => none
  | .sendFatal id =>
    match client.loop with
    | .sending error waiters =>
      (waiters.lookup id).map fun waiter =>
        { client.modify waiter (·.offer (.fatal (cloneFatalErrorForWaiter error id))) with
          loop := .sending error (waiters.erase id) }
    | _ => none
  | .stop =>
    match client.loop with
    | .sending _ waiters =>
      if waiters.entries.isEmpty then some { client with loop := .stopped } else none
    | _ => none

end ClientState

end Repe
