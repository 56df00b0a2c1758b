import Repe.Lib.Utf8Laws
import Repe.Io.ReadLaws
import Repe.Server.CallInto
import Repe.Server.RouterLaws
import Repe.Server.TcpConnection

/-! What the TCP servers make of any bytes of a peer, and what a client gets back for its requests. -/

namespace Repe.Tcp

open ByteStream

section Requests

variable {S C : Type} (t : Target) (detached : Path → C) (router : Router (Handling S) C)

def viewOf (request : Message) : MessageView := ⟨request.header, request.query, request.body⟩

/--
What serving requests in order comes to, with the others' work on the program in between.

The replies are what their frames say, one for each request that is answered.
-/
def exchange : S → List (Pass S) → List Message → S × List Message
  | program, pass :: passes, request :: requests =>
    match routeRequestView detached router (viewOf request) (pass.others program) with
    | (.ok (some response), after) =>
      let rest := exchange after passes requests
      (rest.1, response.framed request.query :: rest.2)
    | (_, after) => exchange after passes requests
  | program, _, _ => (program, [])

/-- A reply is the router's answer to a request, at the program that the requests in front have left. -/
def Answered (program : S) (passes : List (Pass S)) (front : List Message) (request reply : Message) :
    Prop :=
  ∃ pass response after, passes[front.length]? = some pass ∧
    routeRequestView detached router (viewOf request)
      (pass.others (exchange detached router program passes front).1) = (.ok (some response), after) ∧
    reply = response.framed request.query

/-- A response that both writers make the same frame of, for the request it has the id of. -/
structure Honest (response : Message) (view : MessageView) : Prop where
  id : response.header.id = view.header.id
  spec : response.header.spec = repeSpec
  bodyLength : response.header.bodyLength.toNat = response.body.length

def frameSize (view : MessageView) : Nat := headerSize + view.query.length + view.body.length

/-- What the handlers owe the server, for requests up to a size. -/
structure Answering (limit : Nat) : Prop where
  /-- Every handler returns, with an honest response or an error, and either fits memory. -/
  returns : ∀ {path handler}, router.get path = some handler → ∀ view program,
    frameSize view ≤ limit → ∃ result after,
      handler.handleView view (detached path) program = (.ok result, after) ∧
      (∀ response, result = .ok response → Honest response view ∧ Sendable t response view.query) ∧
      ∀ error, result = .error error →
        headerSize + view.query.length + (utf8Bytes error.display).length ≤ t.isizeMax
  /-- The router's own errors repeat the query, and spell out its path. -/
  room : 5 * limit + 128 ≤ t.isizeMax

/-- A request is dispatched to the handler that its path is registered for. -/
theorem get_of_dispatch {header : Header} {query : Bytes} {handler : HandlerErased (Handling S) C}
    {notify : Bool} {path : Path} (routed : route router header query = .dispatch handler notify path) :
    router.get path = some handler := by
  -- Of all the branches one dispatches, behind the lookup of its path.
  unfold route at routed
  dsimp only at routed
  split at routed
  · cases routed
  · split at routed
    · split at routed
      · cases routed
      · next text =>
        split at routed
        · next found =>
          cases routed
          exact found
        · cases routed
    · cases routed

theorem utf8ByteSize_ofList_le (chars : List Char) :
    (String.ofList chars).utf8ByteSize ≤ 4 * chars.length := by
  -- Each character adds at most four bytes.
  induction chars with
  | nil => simp
  | cons char rest ih =>
    have := Char.utf8Size_le_four char
    rw [String.ofList_cons, String.utf8ByteSize_append, String.utf8ByteSize_singleton,
      List.length_cons]
    omega

/-- The text of a rejection is not much longer than the query. -/
theorem reject_text {header : Header} {query : Bytes} {notify : Bool} {code : ErrorCode}
    {text : String} (routed : route router header query = .reject notify code text) :
    (utf8Bytes text).length ≤ 4 * query.length + 80 := by
  rw [utf8Bytes_length]
  unfold route at routed
  dsimp only at routed
  split at routed
  · -- A version is written with at most three digits.
    cases routed
    show (toString "Unsupported REPE version " ++ toString header.version.toNat).utf8ByteSize ≤ _
    have literal : (toString "Unsupported REPE version ").utf8ByteSize = 25 := by decide
    have width : Digits.width header.version.toNat ≤ 3 :=
      Digits.width_le (by decide) (Nat.lt_trans header.version.toNat_lt (by decide))
    rw [String.utf8ByteSize_append, Digits.utf8ByteSize_toString, literal]
    omega
  · split at routed
    · split at routed
      · cases routed
        have literal : "Query must be valid UTF-8".utf8ByteSize = 25 := by decide
        omega
      · next path decoded =>
        split at routed
        · cases routed
        · cases routed
          have literal : "Method not found: ".utf8ByteSize = 18 := by decide
          have chars := Utf8.strictFrom_length decoded
          have bytes := utf8ByteSize_ofList_le path
          rw [String.utf8ByteSize_append, literal]
          omega
    · cases routed
      have literal : "Raw binary queries are not supported by this server".utf8ByteSize = 51 := by
        decide
      omega

theorem honest_error {view : MessageView} {code : ErrorCode} {text : String}
    (fits : headerSize + view.query.length + (utf8Bytes text).length ≤ t.isizeMax) :
    Honest (createErrorResponseUnstampedView view code text) view ∧
      Sendable t (createErrorResponseUnstampedView view code text) view.query := by
  -- The error repeats the id, and its length counts its own text.
  obtain ⟨counted, _⟩ := t.lt_of_le_isizeMax fits
  obtain ⟨_, same, _⟩ := framedLength_counts t counted
  exact ⟨⟨rfl, rfl, same⟩, rfl, fits⟩

/-- The router keeps silent exactly on a notify, and everything it says is honest and fits. -/
theorem Answering.routed {t : Target} {detached : Path → C} {router : Router (Handling S) C}
    {limit : Nat} (answering : Answering t detached router limit) {view : MessageView}
    (small : frameSize view ≤ limit) (program : S) :
    ∃ response after, routeRequestView detached router view program = (.ok response, after) ∧
      (response = none ↔ view.header.notify = 1) ∧
      ∀ message, response = some message → Honest message view ∧ Sendable t message view.query := by
  rcases route_notify router view.header view.query with
    ⟨handler, path, found⟩ | ⟨code, text, found⟩
  · obtain ⟨result, after, returned, honest, fits⟩ :=
      answering.returns (get_of_dispatch router found) view program small
    have dispatched : routeRequestView detached router view program
        = dispatchView handler view (detached path) (view.header.notify == 1) program := by
      rw [routeRequestView, found]
    rw [dispatchView, Proc.bind_run_ok returned] at dispatched
    cases flag : view.header.notify == 1 with
    | true =>
      -- The handler has run, and its result is dropped.
      rw [flag] at dispatched
      exact ⟨none, after, dispatched, by simpa using flag, by simp⟩
    | false =>
      rw [flag] at dispatched
      have loud : view.header.notify ≠ 1 := by simpa using flag
      cases result with
      | ok response =>
        refine ⟨some response, after, dispatched, by simp [loud], fun message same => ?_⟩
        cases same
        exact honest response rfl
      | error error =>
        refine ⟨_, after, dispatched, by simp [loud], fun message same => ?_⟩
        cases same
        exact honest_error t (fits error rfl)
  · have rejected : routeRequestView detached router view program
        = (.ok (if (view.header.notify == 1) = true then none
            else some (createErrorResponseUnstampedView view code text)), program) := by
      rw [routeRequestView, found]
      rfl
    refine ⟨_, program, rejected, ?_, fun message same => ?_⟩
    · by_cases notify : view.header.notify = 1 <;> simp [notify]
    · split at same
      · cases same
      · cases same
        apply honest_error t
        -- Neither the query nor the text is long.
        have text := reject_text router found
        have room := answering.room
        simp only [frameSize, headerSize] at small ⊢
        omega

theorem exchange_cons (program : S) (pass : Pass S) (passes : List (Pass S)) (request : Message)
    (requests : List Message) :
    exchange detached router program (pass :: passes) (request :: requests) =
      let first := exchange detached router program [pass] [request]
      let rest := exchange detached router first.1 passes requests
      (rest.1, first.2 ++ rest.2) := by
  simp only [exchange]
  split <;> simp

variable {t detached router}

/-- Every reply of an exchange answers one of its requests. -/
theorem answered_of_exchange {requests : List Message} {passes : List (Pass S)} {program : S}
    {reply : Message} (member : reply ∈ (exchange detached router program passes requests).2) :
    ∃ front request back, requests = front ++ request :: back ∧
      Answered detached router program passes front request reply := by
  induction requests generalizing passes program with
  | nil => cases passes <;> cases member
  | cons request requests ih =>
    cases passes with
    | nil => cases member
    | cons pass passes =>
      rw [exchange_cons] at member
      -- The reply is the first one, or comes out of the rest of the exchange.
      rcases List.mem_append.mp member with first | later
      · refine ⟨[], request, requests, rfl, pass, ?_⟩
        simp only [exchange] at first ⊢
        split at first
        · next response after routed =>
          exact ⟨response, after, rfl, routed, List.mem_singleton.mp first⟩
        · cases first
      · obtain ⟨front, found, back, rfl, own, response, after, here, routed, framed⟩ := ih later
        refine ⟨request :: front, found, back, rfl, own, response, after, here, ?_, framed⟩
        rw [exchange_cons]
        exact routed

end Requests

section Steps

variable {σ S C : Type} {t : Target} {ahead : σ → Incoming}

/-- A header in front of a stream announces a frame up to a limit. -/
def Announces (t : Target) (limit : Nat) (items : Incoming) : Prop :=
  ∀ (header : Header) (rest : Incoming), header.Valid t →
    items = header.encode.map .byte ++ rest → header.total ≤ limit

/-- Neither the frames of a stream nor the one it breaks off in are announced beyond a limit. -/
def Bounded (t : Target) (limit : Nat) (items : Incoming) : Prop :=
  ∀ (front : List Message) (rest : Incoming), (∀ message ∈ front, message.WellFormed t) →
    items = (framesOf front).map .byte ++ rest → Announces t limit rest

theorem Bounded.tail {limit : Nat} {items rest : Incoming} {request : Message}
    (bounded : Bounded t limit items) (wellFormed : request.WellFormed t)
    (split : items = request.toVec.map .byte ++ rest) : Bounded t limit rest := by
  intro front behind others same
  -- A front of the rest is one more frame behind the first.
  refine bounded (request :: front) behind ?_ ?_
  · simpa using ⟨wellFormed, others⟩
  · rw [split, same]
    simp

theorem Bounded.small {limit : Nat} {items : Incoming} {request : Message}
    (bounded : Bounded t limit items) (front : List Message) (rest : Incoming)
    (others : ∀ message ∈ front, message.WellFormed t)
    (wellFormed : request.WellFormed t)
    (split : items = (framesOf front).map .byte ++ (request.toVec.map .byte ++ rest)) :
    request.toVec.length ≤ limit := by
  -- Its header is in front of what is behind the others.
  rw [wellFormed.total_eq]
  refine bounded front _ others split request.header
    ((request.query ++ request.body).map .byte ++ rest) (wellFormed.valid t) ?_
  rw [Message.toVec_eq, List.append_assoc, List.map_append, List.append_assoc]

/-- What both servers have in common: they take frames off the stream, and write what was framed. -/
structure Carrier.Faithful (t : Target) (ahead : σ → Incoming) (carrier : Carrier σ) : Prop where
  /-- Reading and parsing is reading frames, for one error at the end of the stream. -/
  reads : ∃ eof abstract, eof.kind = .unexpectedEof ∧
    ReadsFrames t eof (Message.InBuffer t) abstract ∧
    Proc.Refines (fun _ => False) ahead (readView t carrier.read) abstract
  calm : ∀ state, Announces t t.isizeMax (ahead state) → (carrier.read state).1 ≠ .panic
  responds : ∀ {response : Message} {view : MessageView}, Honest response view →
    Sendable t response view.query →
      carrier.respond response view.query = .ok (response.framed view.query).toVec

/-- What fits a buffer has lengths that fit their fields, so its frame is well formed. -/
theorem framed_wellFormed {response : Message} {query : Bytes}
    (sendable : Sendable t response query) : (response.framed query).WellFormed t := by
  -- The lengths are those of vectors in memory.
  obtain ⟨counted, addressable⟩ := t.lt_of_le_isizeMax sendable.size
  obtain ⟨queryLength, bodyLength, _, sum⟩ := framedLength_counts t counted
  refine ⟨sendable.spec, queryLength, bodyLength, sum, ?_⟩
  rw [Message.toVec_length]
  exact addressable

/-- Taking bytes off a stream does not panic. -/
theorem exactBytes_ne_panic (eof : IoError) (wanted : Nat) (items : Incoming) :
    (exactBytes eof wanted items).1 ≠ .panic := by
  rw [exactBytes, Proc.mapErr]
  -- By induction on the count, which the recursion follows.
  have calm : (takeExact eof wanted items).1 ≠ .panic := by
    induction wanted generalizing items with
    | zero => simp [takeExact]
    | succ wanted ih =>
      rcases items with _ | ⟨value | error, rest⟩
      · simp [takeExact]
      · have inner := ih rest
        rw [takeExact]
        rcases run : takeExact eof wanted rest with ⟨_ | _ | _, after⟩ <;> rw [run] at inner <;>
          simp_all
      · simp [takeExact]
  rcases run : takeExact eof wanted items with ⟨_ | _ | _, after⟩ <;> rw [run] at calm <;> simp_all

/-- Reading a frame into the buffer does not panic if there is room for what its header announces. -/
theorem readInto_ne_panic (eof : IoError) {items : Incoming} (room : Announces t t.isizeMax items) :
    (readInto t (exactBytes eof) items).1 ≠ .panic := by
  cases front : exactBytes eof headerSize items with
  | mk outcome after =>
    cases outcome with
    | err error => rw [readInto, Proc.bind_run_err front]; simp
    | panic => exact absurd (congrArg Prod.fst front) (exactBytes_ne_panic eof _ _)
    | ok bytes =>
      obtain ⟨width, split⟩ := (exactBytes_ok eof).mp front
      cases decoded : Header.decode t bytes with
      | panic => exact absurd decoded (Header.decode_ne_panic t bytes)
      | err error =>
        rw [readInto, Proc.bind_run_ok front, decoded, Proc.bind_run_err (Proc.lift_run _ _)]
        simp
      | ok header =>
        -- A header that was decoded is followed by one more read.
        obtain ⟨same, valid⟩ := encode_of_decode t width decoded
        rw [← same] at split
        rw [split, readInto_room t eof valid (room header after valid split)]
        have calm := exactBytes_ne_panic eof
          (header.queryLength.toNat + header.bodyLength.toNat) after
        rw [Proc.bind_run]
        rcases run : exactBytes eof (header.queryLength.toNat + header.bodyLength.toNat) after with
          ⟨_ | _ | _, last⟩ <;> rw [run] at calm <;> simp_all [Proc.pure_run]

theorem readInto_calm {eof : IoError} {exactly : Nat → Proc σ RepeError Bytes}
    (same : ∀ wanted, Proc.Refines (fun _ => False) ahead (exactly wanted) (exactBytes eof wanted))
    (state : σ) (room : Announces t t.isizeMax (ahead state)) :
    (readInto t exactly state).1 ≠ .panic := by
  rw [(readInto_refines t same state).1]
  exact readInto_ne_panic eof room

theorem responds_framed {response : Message} {view : MessageView} (honest : Honest response view)
    (sendable : Sendable t response view.query) :
    respondSync t response view.query = .ok (response.framed view.query).toVec ∧
      respondAsync t response view.query = .ok (response.framed view.query).toVec := by
  obtain ⟨counted, _⟩ := t.lt_of_le_isizeMax sendable.size
  obtain ⟨_, _, returned, _⟩ := framedLength_counts t counted
  -- One writer counts the body itself, the other trusts the header.
  constructor
  · rw [respondSync_eq, returned, Exec.ok_bind, Message.framed_toVec]
  · rw [respondAsync_eq, eq_ofNat_of_toNat honest.bodyLength, returned, Exec.ok_bind,
      Message.framed_toVec]

theorem blocking_faithful {reader : Reader IoError σ} (delivers : reader.Delivers ahead) :
    (blocking t reader).Faithful t ahead where
  reads := ⟨_, _, rfl, readInto_reads t _, readView_refines t (readInto_refines t
    (readExact_refines delivers))⟩
  calm := readInto_calm (readExact_refines delivers)
  responds honest sendable := (responds_framed honest sendable).1

/-- The async server is faithful, if the runtime's `read_exact` does what it documents. -/
theorem awaited_faithful {runtime : Nat → Proc σ IoError Bytes} {early : IoError}
    (kind : early.kind = .unexpectedEof)
    (documented : ∀ wanted,
      Proc.Refines (fun _ => False) ahead (runtime wanted) (takeExact early wanted)) :
    (awaited t runtime).Faithful t ahead :=
  have exactly : ∀ wanted, Proc.Refines (fun _ => False) ahead ((runtime wanted).mapErr .io)
      (exactBytes early wanted) := fun wanted => .mapErr (documented wanted) fun _ kept => kept
  { reads := ⟨_, _, kind, readInto_reads t _, readView_refines t (readInto_refines t exactly)⟩
    calm := readInto_calm exactly
    responds := fun honest sendable => (responds_framed honest sendable).2 }

variable {carrier : Carrier σ} {detached : Path → C} {router : Router (Handling S) C} {limit : Nat}

/-- What one pass has done: it has served the frame in front of the stream, or it has ended the loop. -/
inductive Turned (t : Target) (ahead : σ → Incoming) (detached : Path → C)
    (router : Router (Handling S) C) (conn : Conn σ S) (pass : Pass S) (after : Conn σ S) :
    Option Ending → Prop
  /-- The request was handled, and its reply has left. -/
  | served {request : Message} (wellFormed : request.WellFormed t)
      (taken : ahead conn.reader = request.toVec.map .byte ++ ahead after.reader)
      (program : after.program = (exchange detached router conn.program [pass] [request]).1)
      (sent : after.sent
        = conn.sent ++ framesOf (exchange detached router conn.program [pass] [request]).2) :
      Turned t ahead detached router conn pass after none
  | broke {request : Message} {result : Except RepeError Unit} {rest : Incoming} (cut : Bytes)
      (wellFormed : request.WellFormed t)
      (taken : ahead conn.reader = request.toVec.map .byte ++ rest)
      (program : after.program = (exchange detached router conn.program [pass] [request]).1)
      (sent : after.sent ++ cut
        = conn.sent ++ framesOf (exchange detached router conn.program [pass] [request]).2)
      (broken : pass.broken ≠ none) :
      Turned t ahead detached router conn pass after (some (.returned result))
  | ended {result : Except RepeError Unit} (program : after.program = conn.program)
      (sent : after.sent = conn.sent)
      (cause : pass.quits = true ∨ ∀ request : Message, request.WellFormed t → ∀ rest,
        ahead conn.reader ≠ request.toVec.map .byte ++ rest) :
      Turned t ahead detached router conn pass after (some (.returned result))

theorem fromSlice_calm (buf : Bytes) : MessageView.fromSlice t buf ≠ .panic := by
  intro panics
  -- The parser agrees with the strict one, which does not panic.
  have agrees := (MessageView.parsers_agree t buf).1
  rw [panics] at agrees
  cases agrees

theorem readView_of_parsed {state reader : σ} {buf : Bytes} {view : MessageView}
    (read : carrier.read state = (.ok buf, reader))
    (parsed : MessageView.fromSlice t buf = .ok view) :
    readView t carrier.read state = (.ok view.toMessage, reader) := by
  rw [readView, Proc.bind_run_ok read, parsed]
  rfl

/-- A view that cannot be read stops the server before it has looked for a handler. -/
theorem no_frame (faithful : carrier.Faithful t ahead) {state : σ}
    (room : Announces t t.isizeMax (ahead state))
    (failed : ∀ message after, readView t carrier.read state ≠ (.ok message, after))
    (request : Message) (wellFormed : request.WellFormed t) (rest : Incoming) :
    ahead state ≠ request.toVec.map .byte ++ rest := by
  intro stream
  obtain ⟨eof, abstract, _, reads, refines⟩ := faithful.reads
  -- A frame in front of the stream would have been read.
  have held : request.InBuffer t := by
    rw [Message.InBuffer, wellFormed.total_eq]
    refine room request.header ((request.query ++ request.body).map .byte ++ rest)
      (wellFormed.valid t) ?_
    rw [stream, Message.toVec_eq, List.append_assoc, List.map_append, List.append_assoc]
  have whole := reads.whole.mpr ⟨⟨wellFormed, held⟩, stream⟩
  have outcome := (refines state).1
  rw [whole] at outcome
  exact failed request (readView t carrier.read state).2 (Prod.ext outcome rfl)

theorem frame_of_read (faithful : carrier.Faithful t ahead) {state after : σ} {message : Message}
    (read : readView t carrier.read state = (.ok message, after)) :
    message.WellFormed t ∧ ahead state = message.toVec.map .byte ++ ahead after := by
  obtain ⟨eof, abstract, _, reads, refines⟩ := faithful.reads
  obtain ⟨outcome, states⟩ := refines state
  rw [read] at outcome states
  -- The reader goes where the abstract one does, and that takes one frame.
  have same := states (by simp) (by simp)
  obtain ⟨⟨wellFormed, _⟩, taken⟩ := reads.whole.mp (Prod.ext outcome.symm same.symm)
  exact ⟨wellFormed, taken⟩

/-- The reply to a request is written whole, unless the connection breaks. -/
theorem turned_answer (faithful : carrier.Faithful t ahead)
    (answering : Answering t detached router limit) (conn : Conn σ S) {pass : Pass S} {view : MessageView}
    {state : σ} (small : frameSize view ≤ limit) (wellFormed : view.toMessage.WellFormed t)
    (taken : ahead state = view.toMessage.toVec.map .byte ++ ahead conn.reader) :
    Turned t ahead detached router { conn with reader := state } pass
      (answer carrier detached router conn pass view).1
      (answer carrier detached router conn pass view).2 := by
  obtain ⟨response, program, routed, silent, honest⟩ :=
    answering.routed small (pass.others conn.program)
  -- The specification asks the router the same question.
  have asked : routeRequestView detached router (viewOf view.toMessage) (pass.others conn.program)
      = (.ok response, program) := routed
  cases response with
  | none =>
    have done : answer carrier detached router conn pass view = ({ conn with program }, none) := by
      rw [answer, routed]
    rw [done]
    refine .served wellFormed taken ?_ ?_ <;> simp [exchange, asked, framesOf]
  | some response =>
    obtain ⟨true_, sendable⟩ := honest response rfl
    have frame := faithful.responds true_ sendable
    have replies : exchange detached router conn.program [pass] [view.toMessage]
        = (program, [response.framed view.query]) := by
      simp only [exchange, asked]
      rfl
    cases broken : pass.broken with
    | none =>
      have done : answer carrier detached router conn pass view
          = ({ conn with program, sent := conn.sent ++ (response.framed view.query).toVec }, none) := by
        simp only [answer, routed, frame, broken]
      rw [done]
      refine .served wellFormed taken ?_ ?_ <;> simp [replies, framesOf]
    | some cut =>
      have done : answer carrier detached router conn pass view
          = ({ conn with program, sent := conn.sent ++ (response.framed view.query).toVec.take cut.1 },
            some (.returned (.error (.io cut.2)))) := by
        simp only [answer, routed, frame, broken]
      rw [done]
      refine .broke ((response.framed view.query).toVec.drop cut.1) wellFormed taken
        ?_ ?_ (by simp [broken]) <;> simp [replies, framesOf]

/-- Every pass serves the frame in front of the stream, or ends the loop without a panic. -/
theorem turned_turn (faithful : carrier.Faithful t ahead) (answering : Answering t detached router limit)
    (conn : Conn σ S) (bounded : Bounded t limit (ahead conn.reader)) (pass : Pass S) :
    Turned t ahead detached router conn pass (turn t carrier detached router conn pass).1
      (turn t carrier detached router conn pass).2 := by
  have room : Announces t t.isizeMax (ahead conn.reader) := fun header rest valid split => by
    have small := bounded [] (ahead conn.reader) (by simp) (by simp [framesOf]) header rest valid split
    have spare := answering.room
    omega
  by_cases quits : pass.quits
  · rw [turn, if_pos quits]
    exact .ended rfl rfl (.inl quits)
  · cases run : carrier.read conn.reader with
    | mk outcome reader =>
      cases outcome with
      | panic => exact absurd (congrArg Prod.fst run) (faithful.calm conn.reader room)
      | err error =>
        -- Whether the peer has hung up or not, nothing was served.
        have failed : readView t carrier.read conn.reader = (.err error, reader) :=
          Proc.bind_run_err run
        simp only [turn, quits, run]
        exact .ended rfl rfl (.inr (no_frame faithful room (by simp [failed])))
      | ok buf =>
        cases parsed : MessageView.fromSlice t buf with
        | panic => exact absurd parsed (fromSlice_calm buf)
        | err error =>
          have failed : readView t carrier.read conn.reader = (.err error, reader) := by
            rw [readView, Proc.bind_run_ok run, parsed]
            rfl
          simp only [turn, quits, run, parsed]
          exact .ended rfl rfl (.inr (no_frame faithful room (by simp [failed])))
        | ok view =>
          obtain ⟨wellFormed, taken⟩ := frame_of_read faithful (readView_of_parsed run parsed)
          simp only [turn, quits, run, parsed]
          -- The frame is one of the stream's, so it is within the limit.
          have small := bounded.small [] (ahead reader) (by simp) wellFormed
            (by simpa [framesOf] using taken)
          rw [Message.toVec_length] at small
          exact turned_answer faithful answering { conn with reader } small wellFormed taken

/-- What a run of the loop has done to the program and sent, for the requests it has served. -/
structure Served (t : Target) (ahead : σ → Incoming) (detached : Path → C)
    (router : Router (Handling S) C) (conn : Conn σ S) (passes : List (Pass S)) (final : Conn σ S)
    (ending : Option Ending) (requests : List Message) (rest : Incoming) (cut : Bytes) : Prop where
  wellFormed : ∀ request ∈ requests, request.WellFormed t
  count : requests.length ≤ passes.length
  stream : ahead conn.reader = (framesOf requests).map .byte ++ rest
  /-- Each request was handled once, in the order of the stream. -/
  program : final.program = (exchange detached router conn.program passes requests).1
  /-- The replies have left in the same order, up to the one under which the connection broke. -/
  sent : final.sent ++ cut
    = conn.sent ++ framesOf (exchange detached router conn.program passes requests).2
  whole : (∀ pass ∈ passes, pass.broken = none) → cut = []
  calm : ending ≠ some .unwound
  /-- A loop that goes on has served a request in every pass. -/
  open_ : ending = none → requests.length = passes.length ∧ cut = [] ∧ ahead final.reader = rest
  /-- Left to itself, a loop goes on as long as the peer sends frames. -/
  closed : ending ≠ none → (∀ pass ∈ passes, pass.Quiet) → requests.length < passes.length ∧
    ∀ request : Message, request.WellFormed t → ∀ more, rest ≠ request.toVec.map .byte ++ more

/-- No passes have served nothing. -/
theorem Served.start (conn : Conn σ S) :
    Served t ahead detached router conn [] conn none [] (ahead conn.reader) [] where
  wellFormed := by simp
  count := Nat.le_refl 0
  stream := by simp [framesOf]
  program := rfl
  sent := by simp [exchange, framesOf]
  whole _ := rfl
  calm := by simp
  open_ _ := ⟨rfl, rfl, rfl⟩
  closed ended := absurd rfl ended

/-- A pass that has served a request comes before whatever the others do. -/
theorem Served.cons {conn between final : Conn σ S} {pass : Pass S} {passes : List (Pass S)}
    {ending : Option Ending} {request : Message} {requests : List Message} {rest : Incoming}
    {cut : Bytes} (wellFormed : request.WellFormed t)
    (taken : ahead conn.reader = request.toVec.map .byte ++ ahead between.reader)
    (program : between.program = (exchange detached router conn.program [pass] [request]).1)
    (sent : between.sent
      = conn.sent ++ framesOf (exchange detached router conn.program [pass] [request]).2)
    (others : Served t ahead detached router between passes final ending requests rest cut) :
    Served t ahead detached router conn (pass :: passes) final ending (request :: requests) rest
      cut where
  wellFormed := by
    intro other member
    -- The first request is well formed, and so are the others.
    rcases List.mem_cons.mp member with rfl | member
    · exact wellFormed
    · exact others.wellFormed other member
  count := by
    have := others.count
    simp only [List.length_cons]
    omega
  stream := by rw [taken, others.stream, framesOf_cons, List.map_append, List.append_assoc]
  program := by rw [exchange_cons, others.program, program]
  sent := by
    rw [exchange_cons, others.sent, sent, program, List.append_assoc, framesOf_append]
  whole unbroken := others.whole fun other member => unbroken other (List.mem_cons_of_mem _ member)
  calm := others.calm
  open_ going := by
    obtain ⟨count, none, left⟩ := others.open_ going
    exact ⟨by simp [count], none, left⟩
  closed ended quiet := by
    obtain ⟨fewer, missing⟩ := others.closed ended fun other member =>
      quiet other (List.mem_cons_of_mem _ member)
    exact ⟨by simpa using fewer, missing⟩

/-- Every run serves the frames in front of the stream, one in each pass, until it ends. -/
theorem served_serve (faithful : carrier.Faithful t ahead) (answering : Answering t detached router limit)
    (conn : Conn σ S) (bounded : Bounded t limit (ahead conn.reader)) (passes : List (Pass S)) :
    ∃ requests rest cut, Served t ahead detached router conn passes
      (serve t carrier detached router conn passes).1
      (serve t carrier detached router conn passes).2 requests rest cut := by
  -- By induction on the passes, each of which is a step of one of three kinds.
  induction passes generalizing conn with
  | nil => exact ⟨[], _, [], .start conn⟩
  | cons pass passes ih =>
    have turned := turned_turn faithful answering conn bounded pass
    rw [serve]
    rcases run : turn t carrier detached router conn pass with ⟨after, ending⟩
    rw [run] at turned
    cases turned with
    | served wellFormed taken program sent =>
      obtain ⟨requests, rest, cut, others⟩ := ih after (bounded.tail wellFormed taken)
      exact ⟨_ :: requests, rest, cut, others.cons wellFormed taken program sent⟩
    | broke cut wellFormed taken program sent broken =>
      rename_i request result rest
      refine ⟨[request], rest, cut, ?_, ?_, ?_, ?_, ?_, ?_, ?_, ?_, ?_⟩
      · simpa using wellFormed
      · simp
      · simpa [framesOf] using taken
      · rw [exchange_cons]
        simpa [exchange] using program
      · rw [exchange_cons]
        simpa [exchange] using sent
      · exact fun unbroken => absurd (unbroken pass List.mem_cons_self) broken
      · simp
      · simp
      · exact fun _ quiet => absurd (quiet pass List.mem_cons_self).2 broken
    | ended program sent cause =>
      refine ⟨[], ahead conn.reader, [], ?_, ?_, ?_, ?_, ?_, ?_, ?_, ?_, ?_⟩
      · simp
      · simp
      · simp [framesOf]
      · simpa [exchange] using program
      · simpa [exchange, framesOf] using sent
      · simp
      · simp
      · simp
      · intro _ quiet
        rcases cause with quits | missing
        · simp [(quiet pass List.mem_cons_self).1] at quits
        · exact ⟨by simp, missing⟩

theorem frame_unique {first second : Message} {rest rest' : Incoming} (left : first.WellFormed t)
    (right : second.WellFormed t)
    (same : first.toVec.map Item.byte ++ rest = second.toVec.map .byte ++ rest') :
    first = second ∧ rest = rest' := by
  -- Parsing the bytes would have to return both.
  have bytes := congrArg bytesOf same
  rw [bytesOf_append, bytesOf_append, bytesOf_map, bytesOf_map] at bytes
  have parsed := Message.fromSlice_toVec t left (bytesOf rest)
  rw [bytes, Message.fromSlice_toVec t right] at parsed
  cases parsed
  exact ⟨rfl, List.append_cancel_left same⟩

theorem exchange_wellFormed (answering : Answering t detached router limit)
    {requests : List Message} (small : ∀ request ∈ requests, frameSize (viewOf request) ≤ limit)
    (program : S) (passes : List (Pass S)) :
    ∀ reply ∈ (exchange detached router program passes requests).2,
      reply.WellFormed t ∧ reply.InVectors t := by
  intro reply member
  obtain ⟨front, request, back, rfl, _, response, _, _, routed, rfl⟩ := answered_of_exchange member
  -- What is answered is one of the router's honest responses.
  obtain ⟨_, _, again, _, honest⟩ := answering.routed (small request (by simp)) _
  rw [routed] at again
  cases again
  have sendable := (honest response rfl).2
  refine ⟨framed_wellFormed sendable, Message.InBuffer.inVectors t ?_⟩
  rw [Message.InBuffer, Message.toVec_length]
  exact sendable.size

/-- Frames that are in front of the bytes of other frames are the first of those. -/
theorem frames_front {fewer more : List Message} (left : ∀ message ∈ fewer, message.WellFormed t)
    (right : ∀ message ∈ more, message.WellFormed t) (front : framesOf fewer <+: framesOf more) :
    fewer <+: more := by
  induction fewer generalizing more with
  | nil => exact List.nil_prefix
  | cons first fewer ih =>
    obtain ⟨behind, same⟩ := front
    cases more with
    | nil =>
      -- No frame is empty.
      have size := congrArg List.length same
      simp only [framesOf_cons, List.length_append, Message.toVec_length, headerSize] at size
      simp [framesOf] at size
    | cons second more =>
      simp only [framesOf_cons, List.append_assoc] at same
      have items := congrArg (List.map (Item.byte (ε := IoError))) same
      simp only [List.map_append] at items
      obtain ⟨rfl, rest⟩ := frame_unique (left first List.mem_cons_self)
        (right second List.mem_cons_self) items
      refine List.cons_prefix_cons.mpr ⟨rfl, ih (fun message member => left message (.tail _ member))
        (fun message member => right message (.tail _ member)) ⟨behind, ?_⟩⟩
      have bytes := congrArg bytesOf rest
      simpa using bytes

/-- A stream that delivers short frames, or a front of their bytes, is bounded. -/
theorem bounded_of_front (written : List Message) {items : Incoming}
    (wellFormed : ∀ request ∈ written, request.WellFormed t)
    (small : ∀ request ∈ written, request.toVec.length ≤ limit)
    (front : bytesOf items <+: framesOf written) : Bounded t limit items := by
  intro before behind whole same header rest valid announced
  subst announced
  rw [same, bytesOf_append, bytesOf_append, bytesOf_map, bytesOf_map] at front
  -- The frames are the first of those that were written, and the header is that of the next.
  obtain ⟨more, rfl⟩ := frames_front whole wellFormed ((List.prefix_append _ _).trans front)
  rw [framesOf_append, List.prefix_append_right_inj] at front
  cases more with
  | nil =>
    have size := front.length_le
    simp [framesOf, headerSize] at size
  | cons next more =>
    have complete := wellFormed next (by simp)
    obtain ⟨left, split⟩ := front
    rw [framesOf_cons, List.append_assoc] at split
    have parsed := congrArg Header.parse split
    rw [Header.parse_encode, Message.parse_toVec] at parsed
    rw [parsed, ← complete.total_eq]
    exact small next (by simp)

end Steps

section Main

variable {σ S C : Type} (t : Target) {ahead : σ → Incoming} {carrier : Carrier σ}

/-- One of the two servers, on a stream that is read as documented. -/
inductive IsServer (ahead : σ → Incoming) : Carrier σ → Prop
  | blocking {reader : Reader IoError σ} (delivers : reader.Delivers ahead) :
      IsServer ahead (blocking t reader)
  | awaited {runtime : Nat → Proc σ IoError Bytes} {early : IoError}
      (kind : early.kind = .unexpectedEof) (documented : ∀ wanted,
        Proc.Refines (fun _ => False) ahead (runtime wanted) (takeExact early wanted)) :
      IsServer ahead (awaited t runtime)

variable {t}

theorem IsServer.faithful (server : IsServer t ahead carrier) : carrier.Faithful t ahead := by
  cases server with
  | blocking delivers => exact blocking_faithful delivers
  | awaited kind documented => exact awaited_faithful kind documented

variable (detached : Path → C) (router : Router (Handling S) C) (limit : Nat)

/--
Whatever a peer sends under headers that announce no more than the limit, and whenever the connection
breaks or is given up, the handlers of either TCP server see the whole frames in front of the stream,
each once and in order, and nothing else.

What has left for the peer is the replies to them in the same order, the last of them cut short at
most if the connection broke. The thread of the connection does not unwind, and a connection that is
left to itself goes on until the stream does not start with a frame. The handlers answer requests up
to the limit with honest responses, and the async server has no write timeout.
-/
theorem handlers_see_whole_frames_only (server : IsServer t ahead carrier)
    (answering : Answering t detached router limit) (conn : Conn σ S)
    (bounded : Bounded t limit (ahead conn.reader)) (passes : List (Pass S)) :
    ∃ requests rest cut, Served t ahead detached router conn passes
      (serve t carrier detached router conn passes).1
      (serve t carrier detached router conn passes).2 requests rest cut :=
  served_serve server.faithful answering conn bounded passes

/-- A handler that counts the requests it sees, and answers with the count. -/
def tally : HandlerErased (Handling Nat) Unit :=
  let count (id : UInt64) : Handling Nat HandlerResult := fun seen =>
    (.ok (.ok (MessageBuilder.build { id, body := [UInt8.ofNat seen] })), seen + 1)
  ⟨fun message => count message.header.id, fun message _ => count message.header.id,
    fun view _ => count view.header.id, .inline⟩

def tallyRouter : Router (Handling Nat) Unit := Router.new.registerFallback tally

theorem tally_answering : Answering .release64 (fun _ => ()) tallyRouter 4096 where
  returns := by
    intro path handler found view program small
    cases found
    refine ⟨_, program + 1, rfl, fun response same => ?_, fun error same => by cases same⟩
    cases same
    refine ⟨⟨rfl, rfl, rfl⟩, rfl, ?_⟩
    -- The reply repeats the query of the request, and adds one byte.
    show headerSize + view.query.length + 1 ≤ _
    have limit : 8192 ≤ Target.release64.isizeMax := by decide
    simp only [frameSize, headerSize] at small ⊢
    omega
  room := by decide

def rootRequest : Message :=
  MessageBuilder.build { id := 7, query := [47], queryFormat := QueryFormat.jsonPointer.toU16 }

def rootNotify : Message :=
  MessageBuilder.build
    { id := 8, query := [47], queryFormat := QueryFormat.jsonPointer.toU16, notify := true }

def thirdRequest : Message := MessageBuilder.build { id := 9, query := [47] }

/-- Two requests arrive in two pieces, and the peer hangs up inside a third. -/
def twoArrivals : List (Arrival IoError) :=
  [.data 49 ((framesOf [rootRequest, rootNotify]).drop 1), .data 49 [0, 0]]

theorem arrivals_bounded : Bounded .release64 4096 (arriving twoArrivals) :=
  bounded_of_front [rootRequest, rootNotify, thirdRequest] (by decide) (by decide) (by decide)

/--
The counting server sees the first request, and the connection breaks under the reply to it: three
bytes of its frame have left, and the notify behind the request was not read.
-/
theorem broken_reply_counted :
    let passes : List (Pass Nat) := [⟨id, false, some (3, .unexpectedEof)⟩, ⟨id, false, none⟩]
    let ran := serve .release64 (blocking .release64 socket) (fun _ => ()) tallyRouter
      ⟨twoArrivals, 0, []⟩ passes
    ∃ rest cut, Served .release64 arriving (fun _ => ()) tallyRouter ⟨twoArrivals, 0, []⟩ passes
        ran.1 ran.2 [rootRequest] rest cut ∧
      rest = rootNotify.toVec.map .byte ++ [49, 0, 0].map .byte ∧ cut.length = 47 := by
  intro passes ran
  obtain ⟨requests, rest, cut, served⟩ := handlers_see_whole_frames_only (fun _ => ()) tallyRouter
    4096 (.blocking socket_delivers) tally_answering ⟨twoArrivals, 0, []⟩ arrivals_bounded passes
  have counted : ran.1.program = 1 := by decide +kernel
  have left : ran.1.sent.length = 3 := by decide +kernel
  have arrived : arriving twoArrivals = rootRequest.toVec.map .byte ++
      (rootNotify.toVec.map .byte ++ [49, 0, 0].map .byte) := by decide
  have stream := arrived.symm.trans served.stream
  have program := counted.symm.trans served.program
  -- The count tells how many requests were served, and their frames which ones.
  cases requests with
  | nil => cases program
  | cons first more =>
    rw [framesOf_cons, List.map_append, List.append_assoc] at stream
    obtain ⟨rfl, behind⟩ := frame_unique (by decide) (served.wellFormed _ List.mem_cons_self) stream
    cases more with
    | nil =>
      refine ⟨rest, cut, served, behind.symm, ?_⟩
      have sent := congrArg List.length served.sent
      rw [List.length_append, left] at sent
      have reply : (framesOf (exchange (fun _ => ()) tallyRouter 0 passes [rootRequest]).2).length
          = 50 := by decide +kernel
      exact Nat.add_left_cancel (sent.trans reply)
    | cons second others =>
      rw [framesOf_cons, List.map_append, List.append_assoc] at behind
      obtain ⟨rfl, _⟩ := frame_unique (by decide)
        (served.wellFormed _ (List.mem_cons_of_mem _ List.mem_cons_self)) behind
      cases others with
      | nil => exact absurd program (by decide +kernel)
      | cons third others => exact absurd served.count (by simp [passes])

end Main

end Repe.Tcp
