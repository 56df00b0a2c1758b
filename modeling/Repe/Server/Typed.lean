import Repe.Server.Registry
import Repe.Server.RespondLaws
import Repe.Server.WebSocket

/-! The built-in handlers with typed bodies: each has an owned and a borrowing body of its own, and the
frames of the two are the same. -/

/-- `Utf8Error::valid_up_to`: the longest front that is valid. -/
def Utf8.validUpTo (bytes : Bytes) : Nat :=
  ((List.range (bytes.length + 1)).filter fun count => (fromUtf8 (bytes.take count)).isSome).getLastD 0

namespace Repe

structure Decoder (T : Type) where
  /-- `structio::json::read_into_with`. -/
  json : List Char → Except StructioError T
  /-- `structio::beve::read_into_with`. -/
  beve : Bytes → Except StructioError T
  invalidUtf8 : Nat → StructioError

structure Encoder (R : Type) where
  /-- `structio::json::to_vec`. -/
  jsonVec : R → Bytes
  /-- `structio::json::to_string`. -/
  jsonString : R → String
  /-- `structio::to_beve`. -/
  beve : R → Bytes

structure SliceDecoder (T : Type) where
  /-- `structio::beve::read_into` a vector. -/
  read : Bytes → Except StructioError (List T)
  /-- `structio::beve_slice_ref`, which depends on where the bytes are. -/
  borrow : Nat → Bytes → Option (List T)
  /-- A slice is borrowed only where it could also have been read. -/
  faithful : ∀ address body slice, borrow address body = some slice → read body = .ok slice

/-- What a user function returns: a value, or a code and a text. -/
abbrev Outcome (R : Type) := Except (ErrorCode × String) R

section Responses

def responseHeaderBuilder (id : UInt64) (queryFormat : UInt16) : MessageBuilder :=
  { id
    -- A query format this build does not know is answered as raw binary.
    queryFormat := ((QueryFormat.tryFrom queryFormat).getD .rawBinary).toU16
    ec := ErrorCode.ok.toU32 }

variable {R : Type} (encoder : Encoder R)

def withBody (builder : MessageBuilder) (value : R) : BodyFormat → MessageBuilder
  | .json => { builder with body := encoder.jsonVec value, bodyFormat := BodyFormat.json.toU16 }
  | .utf8 =>
    { builder with body := utf8Bytes (encoder.jsonString value), bodyFormat := BodyFormat.utf8.toU16 }
  -- The same text, under another name.
  | .rawBinary =>
    { builder with body := encoder.jsonVec value, bodyFormat := BodyFormat.rawBinary.toU16 }
  | .beve => { builder with body := encoder.beve value, bodyFormat := BodyFormat.beve.toU16 }

def finishResponse (builder : MessageBuilder) (value : R) (format : BodyFormat) : Message :=
  (withBody encoder builder value format).build

def createResponse (request : Message) (value : R) (format : BodyFormat) : Message :=
  finishResponse encoder
    { responseHeaderBuilder request.header.id request.header.queryFormat with query := request.query }
    value format

def createResponseUnstamped (request : Message) (value : R) (format : BodyFormat) : Message :=
  finishResponse encoder (responseHeaderBuilder request.header.id request.header.queryFormat) value
    format

def createResponseUnstampedView (view : MessageView) (value : R) (format : BodyFormat) : Message :=
  finishResponse encoder (responseHeaderBuilder view.header.id view.header.queryFormat) value format

/-- `body_typed_slice`, given how a slice is written. -/
def bodyTypedSlice (append : List R → Bytes) (builder : MessageBuilder) (slice : List R) :
    MessageBuilder :=
  { builder with body := append slice, bodyFormat := BodyFormat.beve.toU16 }

def createTypedSliceResponseUnstamped (append : List R → Bytes) (request : Message)
    (result : List R) : Message :=
  (bodyTypedSlice append (responseHeaderBuilder request.header.id request.header.queryFormat)
    result).build

def createTypedSliceResponseUnstampedView (append : List R → Bytes) (view : MessageView)
    (result : List R) : Message :=
  (bodyTypedSlice append (responseHeaderBuilder view.header.id view.header.queryFormat) result).build

end Responses

section Decoding

variable {T : Type}

def Decoder.readJson (decoder : Decoder T) (body : Bytes) : Except RepeError T :=
  match Utf8.fromUtf8 body with
  | none => .error (.json (decoder.invalidUtf8 (Utf8.validUpTo body)))
  | some text => (decoder.json text).mapError .json

/-- `decode_typed_body`: the value of a body, or the response to a format that has none. -/
def decodeTypedBody (decoder : Decoder T) (body : Bytes) (bodyFormat : UInt16)
    (onBadFormat : Unit → Message) : Except RepeError (Except Message T) :=
  match BodyFormat.tryFrom bodyFormat with
  | some .json | some .utf8 => (decoder.readJson body).map .ok
  | some .beve => ((decoder.beve body).mapError .beve).map .ok
  -- Raw binary, and any format this build does not know.
  | _ => .ok (.error (onBadFormat ()))

def decodeTypedParam (decoder : Decoder T) (req : Message) : Except RepeError (Except Message T) :=
  decodeTypedBody decoder req.body req.header.bodyFormat fun _ =>
    createErrorResponseLike req .invalidBody "Expected JSON body"

def decodeTypedParamView (decoder : Decoder T) (view : MessageView) :
    Except RepeError (Except Message T) :=
  decodeTypedBody decoder view.body view.header.bodyFormat fun _ =>
    createErrorResponseUnstampedView view .invalidBody "Expected JSON body"

def readTypedSlice (decoder : SliceDecoder T) (body : Bytes) : Except RepeError (List T) :=
  (decoder.read body).mapError .beve

def decodeTypedSliceParam (decoder : SliceDecoder T) (req : Message) :
    Except RepeError (Except Message (List T)) :=
  match BodyFormat.tryFrom req.header.bodyFormat with
  | some .beve => (readTypedSlice decoder req.body).map .ok
  | _ => .ok (.error (createErrorResponseLike req .invalidBody "Expected BEVE typed-numeric body"))

def decodeTypedSliceParamView (decoder : SliceDecoder T) (view : MessageView) :
    Except RepeError (Except Message (List T)) :=
  match BodyFormat.tryFrom view.header.bodyFormat with
  | some .beve => (readTypedSlice decoder view.body).map .ok
  | _ =>
    .ok (.error (createErrorResponseUnstampedView view .invalidBody "Expected BEVE typed-numeric body"))

/-- `decode_typed_slice_ref_body`: borrowed where that works, and read otherwise. -/
def decodeTypedSliceRefBody (decoder : SliceDecoder T) (address : Nat) (body : Bytes) :
    Except RepeError (List T) :=
  match decoder.borrow address body with
  | some slice => .ok slice
  | none => readTypedSlice decoder body

def decodeTypedSliceRefParam (decoder : SliceDecoder T) (address : Nat) (bodyFormat : UInt16)
    (body : Bytes) (onBadFormat : Unit → Message) : Except RepeError (Except Message (List T)) :=
  match BodyFormat.tryFrom bodyFormat with
  | some .beve => (decodeTypedSliceRefBody decoder address body).map .ok
  | _ => .ok (.error (onBadFormat ()))

end Decoding

section Handlers

variable {T R C : Type}

/-- What the bodies of all the handlers have in common: decode, call, and respond. -/
def serveTyped {I O : Type} (decoded : Except RepeError (Except Message I)) (call : I → Outcome O)
    (respond : O → Message) (fail : ErrorCode → String → Message) : HandlerResult :=
  match decoded with
  | .error error => .error error
  | .ok (.error response) => .ok response
  | .ok (.ok input) =>
    match call input with
    | .ok value => .ok (respond value)
    | .error (code, text) => .ok (fail code text)

/-- A handler with an owned and a borrowing body, and no use for a context. -/
def borrowingHandler (handle : Message → HandlerResult) (handleView : MessageView → HandlerResult) :
    HandlerErased Id C where
  handle := handle
  -- The default of the trait.
  handleWithCtx req _ := handle req
  handleView view _ := handleView view
  execution := .inline

def typedHandler (decoder : Decoder T) (encoder : Encoder R) (call : T → Outcome (R × BodyFormat)) :
    HandlerErased Id C :=
  borrowingHandler
    (fun req => serveTyped (decodeTypedParam decoder req) call
      (fun out => createResponseUnstamped encoder req out.1 out.2) (createErrorResponseLike req))
    (fun view => serveTyped (decodeTypedParamView decoder view) call
      (fun out => createResponseUnstampedView encoder view out.1 out.2)
      (createErrorResponseUnstampedView view))

def typedSliceHandler (decoder : SliceDecoder T) (append : List R → Bytes)
    (call : List T → Outcome (List R)) : HandlerErased Id C :=
  borrowingHandler
    (fun req => serveTyped (decodeTypedSliceParam decoder req) call
      (createTypedSliceResponseUnstamped append req) (createErrorResponseLike req))
    (fun view => serveTyped (decodeTypedSliceParamView decoder view) call
      (createTypedSliceResponseUnstampedView append view) (createErrorResponseUnstampedView view))

/-- `TypedSliceRefHandler`; the two bodies find their bytes at addresses of their own. -/
def typedSliceRefHandler (decoder : SliceDecoder T) (append : List R → Bytes)
    (ownedAt viewedAt : Bytes → Nat) (call : List T → Outcome (List R)) : HandlerErased Id C :=
  borrowingHandler
    (fun req => serveTyped
      (decodeTypedSliceRefParam decoder (ownedAt req.body) req.header.bodyFormat req.body fun _ =>
        createErrorResponseLike req .invalidBody "Expected BEVE typed-numeric body")
      call (createTypedSliceResponseUnstamped append req) (createErrorResponseLike req))
    (fun view => serveTyped
      (decodeTypedSliceRefParam decoder (viewedAt view.body) view.header.bodyFormat view.body fun _ =>
        createErrorResponseUnstampedView view .invalidBody "Expected BEVE typed-numeric body")
      call (createTypedSliceResponseUnstampedView append view) (createErrorResponseUnstampedView view))

/-- `TypedHandlerCtx`, whose borrowing entry point is the default one. -/
def typedHandlerCtx (detached : Path → C) (decoder : Decoder T) (encoder : Encoder R)
    (call : C → T → Outcome (R × BodyFormat)) : HandlerErased Id C :=
  let handleWithCtx := fun (req : Message) (ctx : C) =>
    serveTyped (decodeTypedParam decoder req) (call ctx)
      (fun out => createResponseUnstamped encoder req out.1 out.2) (createErrorResponseLike req)
  { handle req := handleWithCtx req (detached ((Utf8.fromUtf8 req.query).getD []))
    handleWithCtx
    -- An owned message is made of the view.
    handleView view ctx := handleWithCtx view.toMessage ctx
    execution := .inline }

end Handlers

section Twins

variable (view : MessageView)

/-- A response as a builder makes it that was given no query. -/
def Unstamped (response : Message) : Prop :=
  ∃ builder : MessageBuilder, builder.query = [] ∧ response = builder.build

/-- Results of the two entry points of a handler for one request. -/
inductive Twins : HandlerResult → HandlerResult → Prop
  | value {response : Message} (unstamped : Unstamped response) : Twins (.ok response) (.ok response)
  /-- An error response, with the query of the request in the owned one only. -/
  | report (code : ErrorCode) (text : String) :
      Twins (.ok (createErrorResponseLike view.toMessage code text))
        (.ok (createErrorResponseUnstampedView view code text))
  | owned (code : ErrorCode) (text : String) :
      Twins (.ok (createErrorResponseLike view.toMessage code text))
        (.ok (createErrorResponseLike view.toMessage code text))
  | failure (error : RepeError) : Twins (.error error) (.error error)

/-- Inputs that the two entry points decode from one request. -/
inductive TwinInputs {I : Type} :
    Except RepeError (Except Message I) → Except RepeError (Except Message I) → Prop
  | input (value : I) : TwinInputs (.ok (.ok value)) (.ok (.ok value))
  | report (code : ErrorCode) (text : String) :
      TwinInputs (.ok (.error (createErrorResponseLike view.toMessage code text)))
        (.ok (.error (createErrorResponseUnstampedView view code text)))
  | failure (error : RepeError) : TwinInputs (.error error) (.error error)

theorem twins_serveTyped {I O : Type} {owned viewed : Except RepeError (Except Message I)}
    (inputs : TwinInputs view owned viewed) (call : I → Outcome O) {respond : O → Message}
    (unstamped : ∀ value, Unstamped (respond value)) :
    Twins view (serveTyped owned call respond (createErrorResponseLike view.toMessage))
      (serveTyped viewed call respond (createErrorResponseUnstampedView view)) := by
  -- Twin failures stay as they are; only an input reaches the function.
  cases inputs with
  | failure error => exact .failure error
  | report code text => exact .report code text
  | input value =>
    simp only [serveTyped]
    cases call value with
    | ok out => exact .value (unstamped out)
    | error failure => exact .report failure.1 failure.2

theorem owned_serveTyped {I O : Type} {owned viewed : Except RepeError (Except Message I)}
    (inputs : TwinInputs view owned viewed) (call : I → Outcome O) {respond : O → Message}
    (unstamped : ∀ value, Unstamped (respond value)) :
    Twins view (serveTyped owned call respond (createErrorResponseLike view.toMessage))
      (serveTyped owned call respond (createErrorResponseLike view.toMessage)) := by
  -- A report of the owned body has the query already.
  cases inputs with
  | failure error => exact .failure error
  | report code text => exact .owned code text
  | input value =>
    simp only [serveTyped]
    cases call value with
    | ok out => exact .value (unstamped out)
    | error failure => exact .owned failure.1 failure.2

theorem twinInputs_map {I : Type} (decoded : Except RepeError I) :
    TwinInputs view (decoded.map .ok) (decoded.map .ok) := by
  cases decoded with
  | error error => exact .failure error
  | ok value => exact .input value

theorem twinInputs_typed {T : Type} (decoder : Decoder T) :
    TwinInputs view (decodeTypedParam decoder view.toMessage) (decodeTypedParamView decoder view) := by
  rw [decodeTypedParam, decodeTypedParamView]
  show TwinInputs view (decodeTypedBody decoder view.body view.header.bodyFormat _) _
  -- Both bodies look at the same format.
  unfold decodeTypedBody
  split
  · exact twinInputs_map view _
  · exact twinInputs_map view _
  · exact twinInputs_map view _
  · exact .report _ _

theorem twinInputs_slice {T : Type} (decoder : SliceDecoder T) :
    TwinInputs view (decodeTypedSliceParam decoder view.toMessage)
      (decodeTypedSliceParamView decoder view) := by
  unfold decodeTypedSliceParam decodeTypedSliceParamView
  show TwinInputs view (match BodyFormat.tryFrom view.header.bodyFormat with
    | some .beve => (readTypedSlice decoder view.body).map .ok
    | _ => _) _
  -- Only BEVE carries slices.
  split
  · exact twinInputs_map view _
  · exact .report _ _

theorem decodeTypedSliceRefBody_eq {T : Type} (decoder : SliceDecoder T) (address : Nat)
    (body : Bytes) : decodeTypedSliceRefBody decoder address body = readTypedSlice decoder body := by
  rw [decodeTypedSliceRefBody]
  -- Where a slice is borrowed, reading it gives the same.
  split
  · next slice borrowed =>
    rw [readTypedSlice, decoder.faithful address body slice borrowed]
    rfl
  · rfl

theorem twinInputs_sliceRef {T : Type} (decoder : SliceDecoder T) (ownedAt viewedAt : Bytes → Nat)
    (text : String) :
    TwinInputs view
      (decodeTypedSliceRefParam decoder (ownedAt view.body) view.header.bodyFormat view.body fun _ =>
        createErrorResponseLike view.toMessage .invalidBody text)
      (decodeTypedSliceRefParam decoder (viewedAt view.body) view.header.bodyFormat view.body fun _ =>
        createErrorResponseUnstampedView view .invalidBody text) := by
  unfold decodeTypedSliceRefParam
  split
  · -- The two addresses do not matter, since both slices are as if they were read.
    rw [decodeTypedSliceRefBody_eq, decodeTypedSliceRefBody_eq]
    exact twinInputs_map view _
  · exact .report _ _

@[simp] theorem withBody_query {R : Type} (encoder : Encoder R) (builder : MessageBuilder) (value : R)
    (format : BodyFormat) : (withBody encoder builder value format).query = builder.query := by
  cases format <;> rfl

theorem unstamped_finishResponse {R : Type} (encoder : Encoder R) (id : UInt64) (queryFormat : UInt16)
    (value : R) (format : BodyFormat) :
    Unstamped (finishResponse encoder (responseHeaderBuilder id queryFormat) value format) :=
  ⟨_, withBody_query encoder _ value format, rfl⟩

end Twins

section Agreement

variable {C : Type}

inductive BuiltIn (detached : Path → C) : HandlerErased Id C → Prop
  | typed {T R : Type} (decoder : Decoder T) (encoder : Encoder R)
      (call : T → Outcome (R × BodyFormat)) : BuiltIn detached (typedHandler decoder encoder call)
  | slice {T R : Type} (decoder : SliceDecoder T) (append : List R → Bytes)
      (call : List T → Outcome (List R)) : BuiltIn detached (typedSliceHandler decoder append call)
  | sliceRef {T R : Type} (decoder : SliceDecoder T) (append : List R → Bytes)
      (ownedAt viewedAt : Bytes → Nat) (call : List T → Outcome (List R)) :
      BuiltIn detached (typedSliceRefHandler decoder append ownedAt viewedAt call)
  | typedCtx {T R : Type} (decoder : Decoder T) (encoder : Encoder R)
      (call : C → T → Outcome (R × BodyFormat)) :
      BuiltIn detached (typedHandlerCtx detached decoder encoder call)

/-- The two entry points of a built-in handler have twin results. -/
theorem BuiltIn.twins {detached : Path → C} {handler : HandlerErased Id C}
    (builtIn : BuiltIn detached handler) (view : MessageView) (ctx : C) :
    Twins view (handler.handleWithCtx view.toMessage ctx) (handler.handleView view ctx) := by
  cases builtIn with
  | typed decoder encoder call =>
    exact twins_serveTyped view (twinInputs_typed view decoder) call
      fun out => unstamped_finishResponse encoder _ _ out.1 out.2
  | slice decoder append call =>
    exact twins_serveTyped view (twinInputs_slice view decoder) call fun _ => ⟨_, rfl, rfl⟩
  | sliceRef decoder append ownedAt viewedAt call =>
    exact twins_serveTyped view (twinInputs_sliceRef view decoder ownedAt viewedAt _) call
      fun _ => ⟨_, rfl, rfl⟩
  | typedCtx decoder encoder call =>
    -- Both entry points run the owned body.
    exact owned_serveTyped view (twinInputs_typed view decoder) (call ctx)
      fun out => unstamped_finishResponse encoder _ _ out.1 out.2

variable (t : Target)

/-- A well-formed response with the query of its request is framed the same way by every writer. -/
theorem framable_of_wellFormed {response : Message} {query : Bytes}
    (wellFormed : response.WellFormed t) (echo : responseEchoQuery response query = query)
    (counted : headerSize + query.length + response.body.length < 2 ^ 64)
    (addressable : t.Addressable (headerSize + query.length + response.body.length)) :
    Framable t response query := by
  rw [← echo] at counted addressable
  exact ⟨wellFormed.spec, wellFormed.bodyLength, counted, addressable,
    .inr ⟨wellFormed.queryLength, wellFormed.length⟩⟩

theorem createErrorResponseFor_wellFormed (id : UInt64) (query : Bytes) (code : ErrorCode)
    (text : String) (counted : headerSize + query.length + (utf8Bytes text).length < 2 ^ 64)
    (addressable : t.Addressable (headerSize + query.length + (utf8Bytes text).length)) :
    (createErrorResponseFor id query code text).WellFormed t := by
  -- The lengths in the header are those of the parts.
  obtain ⟨queryLength, bodyLength, _, sum⟩ := framedLength_counts t counted
  refine ⟨rfl, queryLength, bodyLength, sum, ?_⟩
  rw [Message.toVec_length]
  exact addressable

def ownedFrame (capacity : Nat) (view : MessageView) (result : HandlerResult) : Exec RepeError Bytes :=
  respondWebSocket t capacity (taskResponse view.toMessage result) view.query

/--
The frames of the same request from the entry points, one by the owned path and two by the borrowing
writers, are one frame.
-/
def OneFrame (capacity : Nat) (view : MessageView) (owned viewed : HandlerResult) : Prop :=
  ∃ frame, ownedFrame t capacity view owned = .ok frame ∧
    respondSync t (inlineResponse view viewed) view.query = .ok frame ∧
    respondAsync t (inlineResponse view viewed) view.query = .ok frame

/-- One response without a query is one frame. -/
theorem oneFrame_value (capacity : Nat) {view : MessageView} {response : Message}
    (unstamped : Unstamped response)
    (counted : headerSize + view.query.length + response.body.length < 2 ^ 64)
    (addressable : t.Addressable (headerSize + view.query.length + response.body.length)) :
    OneFrame t capacity view (.ok response) (.ok response) := by
  obtain ⟨builder, empty, rfl⟩ := unstamped
  -- The writers fill in the query, and the message is no longer without it than with it.
  have echo : responseEchoQuery builder.build view.query = view.query := by
    rw [responseEchoQuery]
    exact if_pos (List.isEmpty_iff.mpr empty)
  have shorter : headerSize + builder.query.length + builder.body.length ≤
      headerSize + view.query.length + builder.body.length := by
    rw [empty, List.length_nil]
    omega
  have wellFormed : builder.build.WellFormed t := Message.build_wellFormed t builder
    (Nat.lt_of_le_of_lt shorter counted) (Nat.lt_of_le_of_lt shorter addressable)
  obtain ⟨sync, async, socket⟩ := @agree_of_framable t _ view.query capacity
    (framable_of_wellFormed t wellFormed echo counted addressable)
  exact ⟨_, socket, sync, async⟩

/--
An error for a request is one frame, whether its query is filled in by the handler or by a writer.
-/
theorem oneFrame_report (capacity : Nat) {view : MessageView} (code : ErrorCode) (text : String)
    (counted : headerSize + view.query.length + (utf8Bytes text).length < 2 ^ 64)
    (addressable : t.Addressable (headerSize + view.query.length + (utf8Bytes text).length)) :
    OneFrame t capacity view (.ok (createErrorResponseLike view.toMessage code text))
        (.ok (createErrorResponseLike view.toMessage code text)) ∧
      OneFrame t capacity view (.ok (createErrorResponseLike view.toMessage code text))
        (.ok (createErrorResponseUnstampedView view code text)) := by
  have echo : responseEchoQuery (createErrorResponseLike view.toMessage code text) view.query
      = view.query := by
    rw [responseEchoQuery]
    -- The query is that of the request either way.
    split <;> rfl
  have wellFormed : (createErrorResponseLike view.toMessage code text).WellFormed t :=
    createErrorResponseFor_wellFormed t view.header.id view.query code text counted addressable
  obtain ⟨sync, async, socket⟩ := @agree_of_framable t _ view.query capacity
    (framable_of_wellFormed t wellFormed echo counted addressable)
  rw [echo] at sync async socket
  have unstamped : Unstamped (createErrorResponseUnstampedView view code text) :=
    ⟨{ id := view.header.id, ec := code.toU32, body := utf8Bytes text,
       bodyFormat := BodyFormat.utf8.toU16 }, rfl, rfl⟩
  obtain ⟨frame, _, borrowed, borrowedAsync⟩ := oneFrame_value t capacity unstamped counted addressable
  -- The headers differ in lengths that are filled in once more.
  have same : frame = framedWith (createErrorResponseLike view.toMessage code text).header
      (UInt64.ofNat (utf8Bytes text).length) view.query (utf8Bytes text) := by
    obtain ⟨_, _, framed⟩ := Exec.bind_eq_ok.mp ((respondSync_eq t).symm.trans borrowed)
    exact (Exec.ok.inj framed).symm
  subst same
  exact ⟨⟨_, socket, sync, async⟩, ⟨_, socket, borrowed, borrowedAsync⟩⟩

theorem Twins.oneFrame (capacity : Nat) {view : MessageView} {owned viewed : HandlerResult}
    (twins : Twins view owned viewed)
    (counted : headerSize + view.query.length + (inlineResponse view viewed).body.length < 2 ^ 64)
    (addressable : t.Addressable
      (headerSize + view.query.length + (inlineResponse view viewed).body.length)) :
    OneFrame t capacity view owned viewed := by
  cases twins with
  | value unstamped => exact oneFrame_value t capacity unstamped counted addressable
  | report code text => exact (oneFrame_report t capacity code text counted addressable).2
  | owned code text => exact (oneFrame_report t capacity code text counted addressable).1
  | failure error =>
    -- The caller makes the error response, each path its own.
    exact (oneFrame_report t capacity error.toErrorCode error.display counted addressable).2

theorem BuiltIn.handle_eq {detached : Path → C} {handler : HandlerErased Id C}
    (builtIn : BuiltIn detached handler) (request : Message) :
    handler.handle request =
      handler.handleWithCtx request (detached ((Utf8.fromUtf8 request.query).getD [])) := by
  cases builtIn <;> rfl

/-- A query that is stamped in later could have been there from the start. -/
theorem stamp_createResponseUnstamped {R : Type} (encoder : Encoder R) (request : Message) (value : R)
    (format : BodyFormat)
    (counted : headerSize + request.query.length
      + (createResponse encoder request value format).body.length < 2 ^ 64) :
    stampResponseQuery t (createResponseUnstamped encoder request value format) request.query
      = .ok (createResponse encoder request value format) := by
  obtain ⟨_, _, returned, _⟩ := framedLength_counts t counted
  cases found : request.query with
  | nil =>
    -- There is nothing to stamp.
    rw [stampResponseQuery, if_pos (.inl rfl), createResponse, found]
    rfl
  | cons byte rest =>
    have stamped : ¬ ((byte :: rest).isEmpty = true ∨
        ¬ (createResponseUnstamped encoder request value format).query.isEmpty = true) := by
      rintro (empty | full)
      · cases empty
      · exact full (List.isEmpty_iff.mpr (withBody_query encoder _ value format))
    rw [found] at returned
    rw [stampResponseQuery, if_neg stamped, createResponse, found]
    -- The body is the same under both queries.
    cases format <;> exact congrArg (· >>= _) returned

def flagDecoder : Decoder Bool where
  json text :=
    if text = "true".toList then .ok true else if text = "false".toList then .ok false
    else .error ⟨0, "expected a flag"⟩
  beve body :=
    if body = [0x18] then .ok true else if body = [0x08] then .ok false
    else .error ⟨0, "expected a flag"⟩
  invalidUtf8 offset := ⟨offset, "invalid UTF-8"⟩

def flagEncoder : Encoder Bool where
  jsonVec flag := utf8Bytes (if flag then "true" else "false")
  jsonString flag := if flag then "true" else "false"
  beve flag := [if flag then 0x18 else 0x08]

/-- The elements of an array of `u16`, the low byte of each first. -/
def u16s : Bytes → List UInt16
  | low :: high :: rest => UInt16.ofNat (LittleEndian.ofBytes [low, high]) :: u16s rest
  | _ => []

/--
Where the elements of a BEVE array of `u16` start, and their bytes.

Behind the type byte stands the count, shifted past two bits that tell its width.
-/
def u16Payload : Bytes → Option (Nat × Bytes)
  | 0x34 :: size :: rest =>
    let width := 2 ^ (size.toNat % 4)
    let payload := (size :: rest).drop width
    let count := LittleEndian.ofBytes ((size :: rest).take width) / 4
    if width ≤ (size :: rest).length ∧ payload.length = 2 * count then some (1 + width, payload)
    else none
  | _ => none

/-- Arrays of `u16`, borrowed where their elements lie at an even address. -/
def u16Slices : SliceDecoder UInt16 where
  read body :=
    match u16Payload body with
    | some (_, payload) => .ok (u16s payload)
    | none => .error ⟨0, "expected an array of u16"⟩
  borrow address body :=
    match u16Payload body with
    | some (start, payload) => if (address + start) % 2 = 0 then some (u16s payload) else none
    | none => none
  faithful := by
    intro address body slice borrowed
    -- Both readers take the elements from the same place.
    cases found : u16Payload body with
    | none => simp [found] at borrowed
    | some span =>
      simp only [found] at borrowed
      split at borrowed
      · exact congrArg Except.ok (Option.some.inj borrowed)
      · cases borrowed

def u16Append (elements : List UInt16) : Bytes :=
  0x34 :: UInt8.ofNat (4 * elements.length) ::
    elements.flatMap fun element => LittleEndian.toBytes 2 element.toNat

def beveRequest (body : Bytes) : MessageView :=
  ⟨{ Header.new with id := 7, bodyFormat := BodyFormat.beve.toU16 }, [47], body⟩

end Agreement

end Repe
