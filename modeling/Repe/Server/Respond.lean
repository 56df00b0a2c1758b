import Repe.Io.Write

/-! Framing a handler's response: four carriers, each of which patches the header its own way. -/

namespace Repe

/-- The query a borrowing writer frames a response with: the request's, unless the handler set one. -/
def responseEchoQuery (response : Message) (requestQuery : Bytes) : Bytes :=
  if response.query.isEmpty then requestQuery else response.query

variable (t : Target)

/-- Echo the request's query into a response that left its own empty. -/
def stampResponseQuery (response : Message) (requestQuery : Bytes) : Exec RepeError Message := do
  if requestQuery.isEmpty ∨ ¬ response.query.isEmpty then
    -- Nothing to echo, or the handler has set a query of its own.
    return response
  else
    let queryLength := UInt64.ofNat requestQuery.length
    -- The body length is taken from the header, whatever the body really holds.
    let length ← framedLength t queryLength response.header.bodyLength
    return { response with
      query := requestQuery
      header := { response.header with queryLength, length } }

/-- The blocking server's writer, which `Router::call_into` shares. -/
def writeViewResponse (response : Message) (query : Bytes) : Exec RepeError (List Bytes) :=
  let echo := responseEchoQuery response query
  writeMessageStreaming t response.header echo (UInt64.ofNat response.body.length) [response.body]

/-- The async server's writer, which leaves the header's body length alone. -/
def writeViewResponseAsync (response : Message) (query : Bytes) :
    Exec RepeError (List Bytes) := do
  let queryLength := UInt64.ofNat query.length
  let length ← framedLength t queryLength response.header.bodyLength
  let header := { response.header with queryLength, length }
  -- An empty query or body is not written at all.
  return [header.encode]
    ++ (if query.isEmpty then [] else [query])
    ++ (if response.body.isEmpty then [] else [response.body])

/-- What the blocking server puts on the connection for one response. -/
def respondSync (response : Message) (requestQuery : Bytes) : Exec RepeError Bytes := do
  let blocks ← writeViewResponse t response requestQuery
  return blocks.flatten

/-- What the async server puts on the connection for one response. -/
def respondAsync (response : Message) (requestQuery : Bytes) : Exec RepeError Bytes := do
  -- The connection loop picks the query, and the writer does not look at the response's.
  let blocks ← writeViewResponseAsync t response (responseEchoQuery response requestQuery)
  return blocks.flatten

/-- What the WebSocket server sends for one response, whose body buffer has the given capacity. -/
def respondWebSocket (capacity : Nat) (response : Message) (requestQuery : Bytes) :
    Exec RepeError Bytes := do
  let stamped ← stampResponseQuery t response requestQuery
  stamped.intoWireBytes t capacity

/--
Answer a request held in a buffer, into a buffer.

The result says whether there is a response at all, and the buffer's contents.
-/
def callInto (routeRequestView : MessageView → Option Message) (request : Bytes) :
    Exec RepeError (Bool × Bytes) :=
  match MessageView.fromSliceExact t request with
  | .ok view =>
    match routeRequestView view with
    | none => .ok (false, [])
    | some response => do
      let blocks ← writeViewResponse t response view.query
      return (true, blocks.flatten)
  | .err error =>
    -- Neither the id nor the notify flag of an unreadable frame is known, so it is answered with id 0.
    .ok (true, (createErrorMessage error.toErrorCode (utf8Bytes error.display)).writeTo.flatten)
  | .panic => .panic

end Repe
