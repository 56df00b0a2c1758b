import Repe.Client.Calls

/-! A node of a `Fleet` or an `AsyncFleet`: the client it caches, the connections it has made, and the
calls that retry over them. -/

namespace Repe

/-- `is_retryable_error`, which both fleets have a copy of. -/
def isRetryableError : RepeError → Bool
  | .io source =>
    match source.kind with
    | .timedOut | .connectionRefused | .connectionReset | .connectionAborted | .notConnected
    | .unexpectedEof | .wouldBlock | .interrupted => true
    -- A broken pipe is not among them.
    | _ => false
  | _ => false

/-- `RetryPolicy`, as `validate_fleet_options` accepts it. -/
structure RetryPolicy where
  maxAttempts : Nat
  positive : 0 < maxAttempts

/-- What a call on a node asks of a client, and what it makes of the response. -/
structure NodeRequest (R : Type) where
  builder : MessageBuilder
  decode : Message → Except RepeError R

/-- The request of `call_json_with_retry`; `decodeBody` is `Message::decode_body`. -/
def callJsonRequest {R : Type} (decodeBody : Message → Except RepeError R) (method : String)
    (body : Option Bytes) : NodeRequest R where
  builder := match body with
    | some bytes =>
      { query := utf8Bytes method, queryFormat := QueryFormat.jsonPointer.toU16
        body := bytes, bodyFormat := BodyFormat.json.toU16 }
    | none =>
      { query := utf8Bytes method, queryFormat := QueryFormat.jsonPointer.toU16
        bodyFormat := BodyFormat.rawBinary.toU16 }
  decode := decodeBody

/-- The request of `call_message_with_retry`, which takes any response as it is. -/
def callMessageRequest (method : String) : NodeRequest Message :=
  callJsonRequest .ok method none

structure RetryAttempt (R : Type) where
  request : NodeRequest R
  number : Nat

structure NodeFailure where
  error : RepeError
  /-- The client it came from; there is none if connecting failed. -/
  client : Option Nat
  /-- It came of the end of the connection, and not of a response. -/
  dead : Bool

inductive NodeCall (R : Type) where
  | idle
  | connecting (attempt : RetryAttempt R)
  | connected (attempt : RetryAttempt R) (client : Nat)
  | calling (attempt : RetryAttempt R) (client : Nat) (caller : CallId)
  | failed (attempt : RetryAttempt R) (failure : NodeFailure)
  | succeeded (value : R)
  | gaveUp (failure : NodeFailure)
  | dropped

structure NodeState (R : Type) where
  /-- `NodeState::client`, by the number of the connection. -/
  cached : Option Nat
  connections : Nat
  clients : Nat → ClientState
  doomed : Nat → CallId → Bool
  calls : Nat → NodeCall R

inductive NodeEvent (R : Type) where
  | begin (call : Nat) (request : NodeRequest R)
  /-- `ensure_connected`, and what connecting comes to if it has to. -/
  | ensure (call : Nat) (outcome : Except RepeError Unit)
  | issue (call : Nat) (caller : CallId)
  | client (client : Nat) (event : Event)
  | finish (call : Nat)
  | settle (call : Nat)
  /-- `connect_all`, `reconnect_disconnected` or a health check gets a client. -/
  | connect (outcome : Except RepeError Unit)
  | invalidate
  | abandon (call : Nat)

/-- The call that a step of a client fails because the connection is at its end. -/
def ClientState.fells (client : ClientState) : Event → Option CallId
  -- The writer is shut down, or no response will come any more.
  | .move caller (.writeFail _) | .move caller (.timeout _) | .move caller .closed =>
    if client.shut then some caller else none
  -- The response loop has told the call why it stopped.
  | .move caller .receive =>
    match (client.calls caller).inbox with
    | .fatal _ :: _ => some caller
    | _ => none
  | _ => none

namespace NodeState

variable {R : Type}

def new : NodeState R :=
  ⟨none, 0, fun _ => .connected, fun _ _ => false, fun _ => .idle⟩

def become (node : NodeState R) (call : Nat) (phase : NodeCall R) : NodeState R :=
  { node with calls := Function.update node.calls call phase }

/-- `ensure_connected`: the cached client, or a new one. -/
def ensureConnected (node : NodeState R) (outcome : Except RepeError Unit) :
    Except RepeError Nat × NodeState R :=
  match node.cached with
  | some client => (.ok client, node)
  | none =>
    match outcome with
    | .error error => (.error error, node)
    | .ok () =>
      (.ok node.connections, { node with
        cached := some node.connections, connections := node.connections + 1 })

/-- `invalidate_client`, whichever client is cached by then. -/
def invalidateClient (node : NodeState R) : NodeState R := { node with cached := none }

def stepClient (kind : ClientKind) (node : NodeState R) (client : Nat) (event : Event) :
    Option (NodeState R) :=
  if client < node.connections then
    ((node.clients client).step kind event).map fun after =>
      { node with
        clients := Function.update node.clients client after
        doomed := match (node.clients client).fells event with
          | some caller => Function.update node.doomed client
              (Function.update (node.doomed client) caller true)
          | none => node.doomed }
  else none

def finished (attempt : RetryAttempt R) (client : Nat) (dead : Bool) :
    Except RepeError Message → NodeCall R
  | .error error => .failed attempt ⟨error, some client, dead⟩
  | .ok message =>
    match attempt.request.decode message with
    | .ok value => .succeeded value
    | .error error => .failed attempt ⟨error, some client, false⟩

def settle (retry : RetryPolicy) (node : NodeState R) (call : Nat) (attempt : RetryAttempt R)
    (failure : NodeFailure) : NodeState R :=
  if isRetryableError failure.error then
    if attempt.number + 1 < retry.maxAttempts then
      node.invalidateClient.become call (.connecting { attempt with number := attempt.number + 1 })
    else node.invalidateClient.become call (.gaveUp failure)
  -- Whatever else has gone wrong, the client stays.
  else node.become call (.gaveUp failure)

def step (kind : ClientKind) (retry : RetryPolicy) (node : NodeState R) :
    NodeEvent R → Option (NodeState R)
  | .begin call request =>
    match node.calls call with
    | .idle => some (node.become call (.connecting ⟨request, 0⟩))
    | _ => none
  | .ensure call outcome =>
    match node.calls call with
    | .connecting attempt =>
      match node.ensureConnected outcome with
      | (.ok client, node) => some (node.become call (.connected attempt client))
      | (.error error, node) => some (node.become call (.failed attempt ⟨error, none, false⟩))
    | _ => none
  | .issue call caller =>
    match node.calls call with
    | .connected attempt client =>
      (node.stepClient kind client (.call caller attempt.request.builder)).map fun node =>
        node.become call (.calling attempt client caller)
    | _ => none
  | .client client event => node.stepClient kind client event
  | .finish call =>
    match node.calls call with
    | .calling attempt client caller =>
      match ((node.clients client).calls caller).phase with
      | .returned result =>
        some (node.become call (finished attempt client (node.doomed client caller) result))
      | _ => none
    | _ => none
  | .settle call =>
    match node.calls call with
    | .failed attempt failure => some (node.settle retry call attempt failure)
    | _ => none
  | .connect outcome => some (node.ensureConnected outcome).2
  | .invalidate => some node.invalidateClient
  | .abandon call =>
    -- Only a future can be dropped.
    if kind = .blocking then none
    else match node.calls call with
      | .idle | .succeeded _ | .gaveUp _ | .dropped => none
      | _ => some (node.become call .dropped)

end NodeState

end Repe
