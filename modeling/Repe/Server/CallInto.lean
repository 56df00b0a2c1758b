import Repe.Plugin.HostLaws
import Repe.Wire.ErrorLaws

/-! `Router::call_into`: what a buffer holds after a router was called with it. -/

namespace Repe

section Frames

variable (t : Target)

/-- A response as its frame has it: the three lengths are real, and an empty query is filled in. -/
def Message.framed (response : Message) (query : Bytes) : Message where
  header := response.header.patched
    (UInt64.ofNat (responseEchoQuery response query).length) (UInt64.ofNat response.body.length)
  query := responseEchoQuery response query
  body := response.body

theorem Message.framed_toVec (response : Message) (query : Bytes) :
    (response.framed query).toVec = framedWith response.header (UInt64.ofNat response.body.length)
      (responseEchoQuery response query) response.body := by
  rw [Message.toVec_eq]
  rfl

theorem Sendable.framed_parses {response : Message} {query frame : Bytes}
    (sendable : Sendable t response query) (framed : respondSync t response query = .ok frame) :
    Message.fromSliceExact t frame = .ok (response.framed query) := by
  -- What fits a buffer has lengths that fit their fields.
  obtain ⟨counted, addressable⟩ := t.lt_of_le_isizeMax sendable.size
  obtain ⟨queryLength, bodyLength, _, sum⟩ := framedLength_counts t counted
  rw [respondSync_frame t framed, ← Message.framed_toVec]
  apply Message.fromSliceExact_complete
  refine ⟨sendable.spec, queryLength, bodyLength, sum, ?_⟩
  rw [Message.toVec_length]
  exact addressable

structure Reports (message : Message) (id : UInt64) (query : Bytes) (code : ErrorCode)
    (text : String) : Prop where
  id : message.header.id = id
  query : message.query = query
  code : message.header.ec = code.toU32
  text : message.body = utf8Bytes text

theorem reports_framed (view : MessageView) (code : ErrorCode) (text : String) :
    Reports ((createErrorResponseUnstampedView view code text).framed view.query) view.header.id
      view.query code text := by
  exact ⟨rfl, rfl, rfl, rfl⟩

end Frames

section Routing

variable {C : Type} (router : Router Unwinding C) (view : MessageView)

structure Routes (path : Path) (handler : HandlerErased Unwinding C) : Prop where
  version : view.header.version = repeVersion
  format : QueryFormat.tryFrom view.header.queryFormat = some .jsonPointer
  text : Utf8.fromUtf8 view.query = some path
  found : router.get path = some handler

/--
A request with another version, another format of its query, a query that is no text, or a path that
nobody serves.
-/
def Unroutable : Prop :=
  view.header.version ≠ repeVersion ∨
    QueryFormat.tryFrom view.header.queryFormat ≠ some .jsonPointer ∨
    Utf8.fromUtf8 view.query = none ∨
    ∃ path, Utf8.fromUtf8 view.query = some path ∧ router.get path = none

theorem route_of_routes {path : Path} {handler : HandlerErased Unwinding C}
    (routes : Routes router view path handler) :
    route router view.header view.query = .dispatch handler (view.header.notify == 1) path := by
  -- Each check of the router passes.
  obtain ⟨version, format, text, found⟩ := routes
  simp only [route, version, ne_eq, not_true_eq_false, if_false, format, Option.getD_some, text,
    found]

/-- Every other request is rejected with an error. -/
theorem route_of_unroutable (unroutable : Unroutable router view) :
    ∃ code text, code ≠ ErrorCode.ok ∧
      route router view.header view.query = .reject (view.header.notify == 1) code text := by
  -- The checks are made in this order, and the first that fails has its own code.
  by_cases version : view.header.version = repeVersion
  · cases format : QueryFormat.tryFrom view.header.queryFormat with
    | none =>
      simp only [route, version, ne_eq, not_true_eq_false, if_false, format, Option.getD_none]
      exact ⟨_, _, by decide, rfl⟩
    | some format' =>
      cases format' with
      | rawBinary =>
        simp only [route, version, ne_eq, not_true_eq_false, if_false, format, Option.getD_some]
        exact ⟨_, _, by decide, rfl⟩
      | jsonPointer =>
        cases text : Utf8.fromUtf8 view.query with
        | none =>
          simp only [route, version, ne_eq, not_true_eq_false, if_false, format, Option.getD_some,
            text]
          exact ⟨_, _, by decide, rfl⟩
        | some path =>
          -- Only the path can be at fault.
          have missing : router.get path = none := by
            simpa [Unroutable, version, format, text] using unroutable
          simp only [route, version, ne_eq, not_true_eq_false, if_false, format, Option.getD_some,
            text, missing]
          exact ⟨_, _, by decide, rfl⟩
  · simp only [route, version, ne_eq, not_false_eq_true, if_true]
    exact ⟨_, _, by decide, rfl⟩

theorem routes_or_unroutable :
    (∃ path handler, Routes router view path handler) ∨ Unroutable router view := by
  -- The checks of the router, in the order it makes them.
  by_cases version : view.header.version = repeVersion
  · by_cases format : QueryFormat.tryFrom view.header.queryFormat = some .jsonPointer
    · cases text : Utf8.fromUtf8 view.query with
      | none => exact .inr (.inr (.inr (.inl text)))
      | some path =>
        cases found : router.get path with
        | none => exact .inr (.inr (.inr (.inr ⟨path, text, found⟩)))
        | some handler => exact .inl ⟨path, handler, version, format, text, found⟩
    · exact .inr (.inr (.inl format))
  · exact .inr (.inl version)

end Routing

section Calls

variable {C : Type} (t : Target) (detached : Path → C)

/-- `Router::call_into` on a buffer that may still hold something. -/
def Router.callIntoBuffer (router : Router Unwinding C) (request out : Bytes) :
    Unwinding (Bool × Bytes) := do
  -- The buffer is cleared first, and what is written goes behind what is left of it.
  let out := out.take 0
  let (answered, written) ← router.callInto t detached request
  return (answered, out ++ written)

theorem Router.callIntoBuffer_eq (router : Router Unwinding C) (request out : Bytes) :
    router.callIntoBuffer t detached request out = router.callInto t detached request := by
  rw [callIntoBuffer]
  cases router.callInto t detached request <;> rfl

/-- Every handler returns, and its messages carry the magic. -/
def Returning (router : Router Unwinding C) : Prop :=
  ∀ path handler, router.get path = some handler → ∀ view,
    ∃ result, handler.handleView view (detached path) = .ok result ∧
      ∀ response, result = .ok response → response.header.spec = repeSpec

def Fitting (router : Router Unwinding C) (view : MessageView) : Prop :=
  ∀ response, routeRequestView detached router view = .ok (some response) →
    headerSize + (responseEchoQuery response view.query).length + response.body.length ≤ t.isizeMax

inductive Answers (router : Router Unwinding C) (request : Bytes) : Message → Prop
  /-- A request that is no frame, under no id and with no query. -/
  | malformed {error : RepeError} {message : Message}
      (refused : MessageView.fromSliceExact t request = .err error)
      (isError : error.toErrorCode ≠ .ok)
      (reports : Reports message 0 [] error.toErrorCode error.display) : Answers router request message
  /-- A frame that is not for any handler. -/
  | rejected {view : MessageView} {code : ErrorCode} {text : String} {message : Message}
      (parsed : MessageView.fromSliceExact t request = .ok view)
      (unroutable : Unroutable router view) (isError : code ≠ .ok)
      (reports : Reports message view.header.id view.query code text) : Answers router request message
  /-- The message of a handler, with the lengths and maybe the query filled in. -/
  | served {view : MessageView} {path : Path} {handler : HandlerErased Unwinding C}
      {response : Message} (parsed : MessageView.fromSliceExact t request = .ok view)
      (routes : Routes router view path handler)
      (handled : handler.handleView view (detached path) = .ok (.ok response)) :
      Answers router request (response.framed view.query)
  | failed {view : MessageView} {path : Path} {handler : HandlerErased Unwinding C}
      {error : RepeError} {message : Message}
      (parsed : MessageView.fromSliceExact t request = .ok view)
      (routes : Routes router view path handler)
      (handled : handler.handleView view (detached path) = .ok (.error error))
      (reports : Reports message view.header.id view.query error.toErrorCode error.display) :
      Answers router request message

theorem callInto_malformed (router : Router Unwinding C) {request : Bytes} {error : RepeError}
    (refused : MessageView.fromSliceExact t request = .err error) :
    ∃ frame, router.callInto t detached request = .ok (true, frame) ∧
      Message.fromSliceExact t frame
        = .ok (createErrorMessage error.toErrorCode (utf8Bytes error.display)) := by
  refine ⟨(createErrorMessage error.toErrorCode (utf8Bytes error.display)).toVec, ?_, ?_⟩
  · simp only [Router.callInto, callInto, refused, Message.writeTo_flatten]
    rfl
  · -- The text is short enough for every target.
    have small := (MessageView.fromSliceExact_ofFrame t refused).display_length
    have short : headerSize + 0 + (utf8Bytes error.display).length < 2 ^ 16 := by
      simp only [headerSize]
      omega
    exact Message.fromSliceExact_complete t (Message.build_wellFormed t _
      (Nat.lt_trans short (by decide)) (t.small_addressable short))

/-- A response to a request carries the magic, and answers the request in its frame. -/
theorem routed_answers {router : Router Unwinding C} {request : Bytes} {view : MessageView}
    {response : Message} (parsed : MessageView.fromSliceExact t request = .ok view)
    (returning : Returning detached router)
    (routed : routeRequestView detached router view = .ok (some response)) :
    response.header.spec = repeSpec ∧
      Answers t detached router request (response.framed view.query) := by
  rcases routes_or_unroutable router view with ⟨path, handler, routes⟩ | unroutable
  · -- The handler returns a message or an error, and nothing is returned to a notify.
    obtain ⟨result, returned, spec⟩ := returning path handler routes.found view
    simp only [routeRequestView, route_of_routes router view routes, dispatchView, returned,
      Exec.ok_bind] at routed
    split at routed
    · cases routed
    · cases result with
      | ok message =>
        cases routed
        exact ⟨spec response rfl, .served parsed routes returned⟩
      | error error =>
        cases routed
        exact ⟨rfl, .failed parsed routes returned (reports_framed view _ _)⟩
  · -- A rejection is reported, again unless the request is a notify.
    obtain ⟨code, text, isError, rejected⟩ := route_of_unroutable router view unroutable
    rw [routeRequestView, rejected] at routed
    cases flag : view.header.notify == 1 with
    | true =>
      rw [flag] at routed
      cases routed
    | false =>
      rw [flag] at routed
      cases routed
      exact ⟨rfl, .rejected parsed unroutable isError (reports_framed view code text)⟩

/-- No call of a router whose handlers return unwinds before there is a response. -/
theorem routeRequestView_returns {router : Router Unwinding C} (returning : Returning detached router)
    (view : MessageView) : routeRequestView detached router view ≠ .panic := by
  intro unwound
  -- A handler returns by assumption, and a rejection calls none.
  rcases routes_or_unroutable router view with ⟨path, handler, routes⟩ | unroutable
  · obtain ⟨result, returned, _⟩ := returning path handler routes.found view
    simp only [routeRequestView, route_of_routes router view routes, dispatchView, returned,
      Exec.ok_bind] at unwound
    split at unwound
    · cases unwound
    · cases result <;> cases unwound
  · obtain ⟨code, text, _, rejected⟩ := route_of_unroutable router view unroutable
    rw [routeRequestView, rejected] at unwound
    cases unwound

/--
A call is left without an answer, and with an empty buffer, exactly for a well-formed notify. For
everything else the buffer holds one frame, and nothing else, that answers the request.
-/
theorem callInto_answers_all_but_notifies (router : Router Unwinding C) (request out : Bytes)
    (returning : Returning detached router)
    (fitting : ∀ view, MessageView.fromSliceExact t request = .ok view →
      Fitting t detached router view) :
    ∃ answered written, router.callIntoBuffer t detached request out = .ok (answered, written) ∧
      ((answered = false ∧ written = []) ↔
        ∃ view, MessageView.fromSliceExact t request = .ok view ∧ view.header.notify = 1) ∧
      ((¬ ∃ view, MessageView.fromSliceExact t request = .ok view ∧ view.header.notify = 1) →
        answered = true ∧ ∃ message, Message.fromSliceExact t written = .ok message ∧
          Answers t detached router request message) := by
  rw [Router.callIntoBuffer_eq]
  cases parsed : MessageView.fromSliceExact t request with
  | panic => exact absurd parsed (MessageView.fromSliceExact_ne_panic t request)
  | err error =>
    -- No view, so no notify either.
    obtain ⟨frame, returned, read⟩ := callInto_malformed t detached router parsed
    refine ⟨true, frame, returned, by simp, fun _ => ⟨rfl, _, read, ?_⟩⟩
    exact .malformed parsed (MessageView.fromSliceExact_ofFrame t parsed).code_ne_ok
      ⟨rfl, rfl, rfl, rfl⟩
  | ok view =>
    -- The one view there is decides whether this is a notify.
    have notifies : (∃ other, (.ok view : Exec RepeError MessageView) = .ok other ∧
        other.header.notify = 1) ↔ view.header.notify = 1 := by
      simp
    rw [notifies]
    have served := served_callInto t detached router parsed
    generalize router.callInto t detached request = outcome at served
    cases served with
    | quiet routed =>
      have notify := (routeRequestView_none_iff detached routed).mp rfl
      exact ⟨false, [], rfl, by simp [notify], fun loud => absurd notify loud⟩
    | @answered response frame routed framed =>
      have loud : ¬ view.header.notify = 1 := by
        intro notify
        cases (routeRequestView_none_iff detached routed).mpr notify
      obtain ⟨spec, answers⟩ := routed_answers t detached parsed returning routed
      have sendable : Sendable t response view.query := ⟨spec, fitting view parsed response routed⟩
      exact ⟨true, frame, rfl, by simp [loud],
        fun _ => ⟨rfl, _, sendable.framed_parses t framed, answers⟩⟩
    | unwound panics =>
      -- Neither the handler nor the writer unwinds.
      rcases panics with unwound | ⟨response, routed, stuck⟩
      · exact absurd unwound (routeRequestView_returns detached returning view)
      · obtain ⟨spec, _⟩ := routed_answers t detached parsed returning routed
        have sendable : Sendable t response view.query := ⟨spec, fitting view parsed response routed⟩
        exact absurd (sendable.framed t) stuck

/-- A router that serves every path with a message whose header claims no body. -/
def staleRouter : Router Unwinding Unit :=
  let result : Unwinding HandlerResult := .ok (.ok staleResponse)
  Router.new.registerFallback ⟨fun _ => result, fun _ _ => result, fun _ _ => result, .inline⟩

def rootRequest : Bytes :=
  (MessageBuilder.build { id := 9, query := [47], queryFormat := QueryFormat.jsonPointer.toU16 }).toVec

/-- The request is answered in a buffer that held something else. -/
theorem stale_response_is_framed :
    ∃ written message, staleRouter.callIntoBuffer .release64 (fun _ => ()) rootRequest [1, 2, 3] =
        .ok (true, written) ∧ Message.fromSliceExact .release64 written = .ok message ∧
      Answers .release64 (fun _ => ()) staleRouter rootRequest message := by
  have parsed : MessageView.fromSliceExact .release64 rootRequest =
      .ok ⟨Header.parse rootRequest, [47], []⟩ := by decide +kernel
  have returning : Returning (fun _ => ()) staleRouter := by
    intro path handler found view
    cases found
    exact ⟨_, rfl, fun response same => by cases same; rfl⟩
  -- The one response of this router fits easily.
  have fitting : ∀ view, MessageView.fromSliceExact .release64 rootRequest = .ok view →
      Fitting .release64 (fun _ => ()) staleRouter view := by
    intro view again response routed
    cases parsed.symm.trans again
    cases routed
    decide
  obtain ⟨answered, written, returned, _, answers⟩ :=
    callInto_answers_all_but_notifies .release64 (fun _ => ()) staleRouter rootRequest [1, 2, 3]
      returning fitting
  -- The request is no notify.
  have loud : ¬ ∃ view, MessageView.fromSliceExact .release64 rootRequest = .ok view ∧
      view.header.notify = 1 := by
    rintro ⟨view, again, notify⟩
    cases parsed.symm.trans again
    exact absurd notify (by decide)
  obtain ⟨rfl, message, read, answer⟩ := answers loud
  exact ⟨written, message, returned, read, answer⟩

end Calls

end Repe
