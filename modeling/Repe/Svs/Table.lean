import Mathlib.Data.List.AList
import Repe.Lib.Transition
import Repe.Svs.Session
import Repe.Wire.Error

/-! The session table of a value stream producer, under concurrent `open`, `next` and `cancel`. -/

namespace Repe.Svs

def svsVersion : UInt8 := 1

inductive Compression where
  | none
  | zstd
  deriving DecidableEq, Repr

def Compression.toU8 : Compression → UInt8
  | .none => 0
  | .zstd => 1

/-- The body of the answer to an `open`. -/
structure OpenResponse where
  version : UInt8
  streamId : UInt64
  format : UInt16
  compression : UInt8
  deriving DecidableEq, Repr

abbrev ErrorReply := ErrorCode × String

/-- What the body of an `open` request decodes to, and what its resource resolves to. -/
inductive OpenRequest where
  | malformed
  | unknown (resource : String)
  /-- The resource has a body, whose producer puts these messages into its channel. -/
  | resolved (messages : List Msg)
  deriving DecidableEq, Repr

/-- An `open` request in `OpenHandler::handle`. -/
inductive OpenCall where
  | idle
  | refused (error : ErrorReply)
  /-- The id is drawn and the producer runs, but the table does not list the stream yet. -/
  | drawn (stream : Nat)
  | answered (stream : Nat) (response : OpenResponse)
  deriving DecidableEq

/-- The stream that an `open` request started. -/
def OpenCall.stream : OpenCall → Option Nat
  | .drawn stream | .answered stream _ => some stream
  | _ => none

/-- A `next` request in `NextHandler::handle`. -/
inductive NextCall where
  | idle
  | refused (error : ErrorReply)
  | found (stream : Nat) (id : UInt64)
  /-- Past the lock of the session, on the way back to the table. -/
  | pulled (stream : Nat) (id : UInt64) (answer : Answer)
  | answered (stream : Nat) (answer : Answer)
  deriving DecidableEq

/-- What the client of a `next` request is told. -/
def NextCall.reply : NextCall → Option (Except ErrorReply (Bytes × Bool))
  | .refused error => some (.error error)
  | .answered _ (.ok chunk) => some (.ok chunk)
  | .answered _ (.error error) => some (.error (.internalError, error))
  | _ => none

structure Opened where
  id : UInt64
  messages : List Msg
  session : Session
  /-- The requests that took the lock of the session, in that order, with their answers. -/
  log : List (Nat × Answer)
  inserted : Bool
  cancelled : Bool

/-- `SessionTable`, with the requests that work on it and every stream that drew an id. -/
structure SessionTable where
  nextId : UInt64
  /-- The listed streams, by their number in `streams`. -/
  sessions : AList fun _ : UInt64 => Nat
  streams : List Opened
  opens : Nat → OpenCall
  nexts : Nat → NextCall

structure OpenHandler where
  format : UInt16
  compression : Compression

/-- One atomic step of a request: its own code between two accesses to what is shared. -/
inductive TableEvent where
  /-- An `open` is decoded and resolved, and draws its id. -/
  | open (call : Nat) (request : OpenRequest)
  | insert (call : Nat)
  /-- A `next`, whose body decodes to an id or not at all, looks it up. -/
  | lookup (call : Nat) (request : Option UInt64)
  | pull (call : Nat)
  | answer (call : Nat)
  | cancel (request : Option UInt64)
  deriving DecidableEq

namespace SessionTable

/-- `SessionTable::new`. -/
def new : SessionTable := ⟨1, ∅, [], fun _ => .idle, fun _ => .idle⟩

/-- A `next` request gets on. -/
def become (table : SessionTable) (call : Nat) (next : NextCall) : SessionTable :=
  { table with nexts := Function.update table.nexts call next }

/-- An `open` request is refused. -/
def refuse (table : SessionTable) (call : Nat) (code : ErrorCode) (text : String) : SessionTable :=
  { table with opens := Function.update table.opens call (.refused (code, text)) }

/-- `OpenHandler::handle`, up to the id. -/
def openStep (table : SessionTable) (call : Nat) : OpenRequest → SessionTable
  | .malformed =>
    table.refuse call .invalidBody "svs open: expected BEVE \x7b resource: string \x7d"
  | .unknown resource =>
    table.refuse call .methodNotFound s!"svs open: unknown resource '{resource}'"
  | .resolved messages =>
    { table with
      -- `fetch_add` wraps around.
      nextId := table.nextId + 1
      streams := table.streams ++ [⟨table.nextId, messages, .new messages, [], false, false⟩]
      opens := Function.update table.opens call (.drawn table.streams.length) }

/-- The rest of `OpenHandler::handle`: list the stream under its id, and answer. -/
def insertStep (handler : OpenHandler) (table : SessionTable) (call stream : Nat)
    (opened : Opened) : SessionTable :=
  { table with
    -- Under an id that is still listed the new session replaces the old one.
    sessions := table.sessions.insert opened.id stream
    streams := table.streams.modify stream fun opened => { opened with inserted := true }
    opens := Function.update table.opens call (.answered stream
      ⟨svsVersion, opened.id, handler.format, handler.compression.toU8⟩) }

/-- `NextHandler::handle`, up to the session. -/
def lookupStep (table : SessionTable) (call : Nat) : Option UInt64 → SessionTable
  | none =>
    table.become call
      (.refused (.invalidBody, "svs next: expected BEVE \x7b stream_id: u64 \x7d"))
  | some id =>
    -- The lock of the table is held for the lookup only.
    match table.sessions.lookup id with
    | none => table.become call (.refused (.invalidQuery, s!"svs next: unknown stream_id {id}"))
    | some stream => table.become call (.found stream id)

/-- The part of `NextHandler::handle` under the lock of the session. -/
def pullStep (table : SessionTable) (call stream : Nat) (id : UInt64) (opened : Opened) :
    SessionTable :=
  { table with
    streams := table.streams.modify stream fun opened =>
      { opened with
        session := opened.session.next.2
        log := opened.log ++ [(call, opened.session.next.1)] }
  }.become call (.pulled stream id opened.session.next.1)

/-- The rest of `NextHandler::handle`: an answer that ends the stream unlists it. -/
def answerStep (table : SessionTable) (call stream : Nat) (id : UInt64) (answer : Answer) :
    SessionTable :=
  { table with
    -- By now another request may hold the session as well, and another stream the id.
    sessions := if answer.ends then table.sessions.erase id else table.sessions
  }.become call (.answered stream answer)

/-- `CancelHandler::handle`: a body that does not decode releases nothing. -/
def cancelStep (table : SessionTable) : Option UInt64 → SessionTable
  | none => table
  | some id =>
    { table with
      -- `remove` of an id that is not listed does nothing.
      sessions := table.sessions.erase id
      streams := match table.sessions.lookup id with
        | some stream =>
          table.streams.modify stream fun opened => { opened with cancelled := true }
        | none => table.streams }

def step (handler : OpenHandler) (table : SessionTable) : TableEvent → Option SessionTable
  -- Every request goes through its steps once, in order, and others in between.
  | .open call request =>
    match table.opens call with
    | .idle => some (table.openStep call request)
    | _ => none
  | .insert call =>
    match table.opens call with
    | .drawn stream => table.streams[stream]?.map (table.insertStep handler call stream)
    | _ => none
  | .lookup call request =>
    match table.nexts call with
    | .idle => some (table.lookupStep call request)
    | _ => none
  | .pull call =>
    match table.nexts call with
    | .found stream id => table.streams[stream]?.map (table.pullStep call stream id)
    | _ => none
  | .answer call =>
    match table.nexts call with
    | .pulled stream id answer => some (table.answerStep call stream id answer)
    | _ => none
  | .cancel request => some (table.cancelStep request)

def Listed (table : SessionTable) (stream : Nat) : Prop :=
  ∃ id, table.sessions.lookup id = some stream

/-- What a `next` request knows of the stream it works on. -/
def Sound (table : SessionTable) (call : Nat) : NextCall → Prop
  | .idle | .refused _ => True
  | .found stream id =>
    ∃ opened, table.streams[stream]? = some opened ∧ opened.inserted = true ∧ opened.id = id
  | .pulled stream id answer =>
    ∃ opened, table.streams[stream]? = some opened ∧ opened.inserted = true ∧ opened.id = id ∧
      (call, answer) ∈ opened.log
  | .answered stream answer =>
    -- Listed once, a stream is not listed again after it ended.
    (∃ opened, table.streams[stream]? = some opened ∧ opened.inserted = true ∧
      (call, answer) ∈ opened.log) ∧ (answer.ends = true → ¬table.Listed stream)

end SessionTable

end Repe.Svs
