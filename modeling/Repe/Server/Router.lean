import Repe.Server.Mount
import Repe.Server.Respond

/-! The router: registrations of routes, mounts, a fallback and middlewares, and the handlers it caches. -/

namespace Repe

inductive Execution where
  | inline
  | offReader
  deriving DecidableEq, Repr

abbrev HandlerResult := Except RepeError Message

/--
A handler with its three entry points.

`M` is whatever effects handlers have, and `C` the context a call is made in.
-/
structure HandlerErased (M : Type → Type) (C : Type) where
  handle : Message → M HandlerResult
  handleWithCtx : Message → C → M HandlerResult
  handleView : MessageView → C → M HandlerResult
  execution : Execution

/-- What a middleware is given to go on with: the rest of the pipeline, and the context if there is one. -/
structure Next (M : Type → Type) (C : Type) where
  run : Message → M HandlerResult
  ctx : Option C

/-- A middleware sees the request and decides whether to go on. -/
abbrev Middleware (M : Type → Type) (C : Type) := Message → Next M C → M HandlerResult

variable {M : Type → Type} {C : Type}

/-- `Next::run`: the first middleware with the rest behind it, or the handler at the end. -/
def nextRun (handler : HandlerErased M C) (ctx : Option C) :
    List (Middleware M C) → Message → M HandlerResult
  | first :: rest, req => first req ⟨nextRun handler ctx rest, ctx⟩
  | [], req => match ctx with
    | some ctx => handler.handleWithCtx req ctx
    | none => handler.handle req

/-- `MiddlewarePipeline`: a handler behind middlewares. -/
def middlewarePipeline (handler : HandlerErased M C) (middlewares : List (Middleware M C)) :
    HandlerErased M C where
  handle req := nextRun handler none middlewares req
  handleWithCtx req ctx := nextRun handler (some ctx) middlewares req
  -- The borrowing entry point is the default one, which makes an owned message first.
  handleView view ctx := nextRun handler (some ctx) middlewares view.toMessage
  execution := handler.execution

/-- `wrap_with_middlewares`: without middlewares the handler itself. -/
def wrapWithMiddlewares (handler : HandlerErased M C) (middlewares : List (Middleware M C)) :
    HandlerErased M C :=
  -- The borrowing entry point stays zero-copy without middlewares.
  if middlewares.isEmpty then handler else middlewarePipeline handler middlewares

/-- Whether an outcome is a miss, in either of the two ways a handler reports one. -/
def declined : HandlerResult → Bool
  | .ok response => response.header.ec == ErrorCode.methodNotFound.toU32
  | .error error => error.toErrorCode == ErrorCode.methodNotFound

/-- `MountFallthrough::or_fallback`: ask the mount, and the fallback after a miss. -/
def orFallback [Monad M] (mount fallback : HandlerErased M C)
    (dispatch : HandlerErased M C → M HandlerResult) : M HandlerResult := do
  -- Both halves are asked at the same entry point.
  let outcome ← dispatch mount
  if declined outcome then dispatch fallback else return outcome

/-- `MountFallthrough`: a mount whose misses go to the fallback. -/
def mountFallthrough [Monad M] (mount fallback : HandlerErased M C) : HandlerErased M C where
  handle req := orFallback mount fallback (·.handle req)
  handleWithCtx req ctx := orFallback mount fallback (·.handleWithCtx req ctx)
  handleView view ctx := orFallback mount fallback (·.handleView view ctx)
  -- Which half runs is known too late, so the stronger wish of the two counts.
  execution := match mount.execution, fallback.execution with
    | .inline, .inline => .inline
    | _, _ => .offReader

/-- A registered handler, and the form of it that requests are dispatched to. -/
structure RouterMapEntry (M : Type → Type) (C : Type) where
  raw : HandlerErased M C
  dispatched : HandlerErased M C

structure MountEntry (M : Type → Type) (C : Type) where
  mount : Path
  raw : HandlerErased M C
  dispatched : HandlerErased M C

structure Router (M : Type → Type) (C : Type) where
  inner : Path → Option (RouterMapEntry M C)
  structs : List (MountEntry M C)
  registries : List (MountEntry M C)
  fallback : Option (RouterMapEntry M C)
  middlewares : List (Middleware M C)
  mountFallthrough : Bool

namespace Router

def new : Router M C := ⟨fun _ => none, [], [], none, [], false⟩

variable [Monad M]

/-- A mount composed with the fallback, when fallthrough is on and there is one. -/
def composed (router : Router M C) (raw : HandlerErased M C) : HandlerErased M C :=
  match router.mountFallthrough, router.fallback with
  | true, some fallback => Repe.mountFallthrough raw fallback.raw
  | _, _ => raw

/-- `mount_dispatched`: the dispatched form of a mount. -/
def mountDispatched (router : Router M C) (raw : HandlerErased M C) : HandlerErased M C :=
  wrapWithMiddlewares (router.composed raw) router.middlewares

/-- `rebuild_mount_dispatch`: bring the dispatched form of every mount up to date. -/
def rebuildMountDispatch (router : Router M C) : Router M C :=
  let rebuild := fun entry : MountEntry M C =>
    { entry with dispatched := router.mountDispatched entry.raw }
  { router with
    registries := router.registries.map rebuild
    structs := router.structs.map rebuild }

/-- `insert_route`: register a handler at a path, in place of an earlier one. -/
def insertRoute (router : Router M C) (path : Path) (raw : HandlerErased M C) : Router M C :=
  { router with
    inner := Function.update router.inner path
      (some ⟨raw, wrapWithMiddlewares raw router.middlewares⟩) }

/-- `register_fallback`: serve the misses with a handler, in place of an earlier one. -/
def registerFallback (router : Router M C) (handler : HandlerErased M C) : Router M C :=
  { router with
    fallback := some ⟨handler, wrapWithMiddlewares handler router.middlewares⟩
  }.rebuildMountDispatch

/-- `set_mount_fallthrough`: switch the composition of mounts with the fallback. -/
def setMountFallthrough (router : Router M C) (enabled : Bool) : Router M C :=
  -- Nothing to rebuild when the flag does not change.
  if router.mountFallthrough = enabled then router
  else { router with mountFallthrough := enabled }.rebuildMountDispatch

/-- `register_middleware`: append a middleware, and wrap everything registered so far again. -/
def registerMiddleware (router : Router M C) (middleware : Middleware M C) : Router M C :=
  let middlewares := router.middlewares ++ [middleware]
  let rewrap := fun entry : RouterMapEntry M C =>
    { entry with dispatched := wrapWithMiddlewares entry.raw middlewares }
  { router with
    middlewares := middlewares
    inner := fun path => (router.inner path).map rewrap
    fallback := router.fallback.map rewrap }.rebuildMountDispatch

/-- `register_registry`: mount a registry's handler below a prefix. -/
def registerRegistry (router : Router M C) (pathPrefix : Path) (raw : HandlerErased M C) :
    Router M C :=
  { router with
    registries := router.registries ++
      [⟨Mount.normalizeMount pathPrefix, raw, router.mountDispatched raw⟩] }

/-- `register_struct_shared`: mount a struct's handler below a root. -/
def registerStruct (router : Router M C) (root : Path) (raw : HandlerErased M C) : Router M C :=
  { router with
    structs := router.structs ++ [⟨Mount.structRoot root, raw, router.mountDispatched raw⟩] }

def get (router : Router M C) (path : Path) : Option (HandlerErased M C) :=
  -- Exact routes first, then registries, then structs, and the fallback last.
  match router.inner path with
  | some entry => some entry.dispatched
  | none =>
    match router.registries.find? (Mount.covers ·.mount path) with
    | some entry => some entry.dispatched
    | none =>
      match router.structs.find? (Mount.covers ·.mount path) with
      | some entry => some entry.dispatched
      | none => router.fallback.map (·.dispatched)

end Router

/-- What validating a request and looking its path up comes to. -/
inductive RouteOutcome (M : Type → Type) (C : Type) where
  | dispatch (handler : HandlerErased M C) (notify : Bool) (path : Path)
  | reject (notify : Bool) (code : ErrorCode) (message : String)

/-- `QueryFormat::try_from`. -/
def QueryFormat.tryFrom (value : UInt16) : Option QueryFormat :=
  if value = QueryFormat.rawBinary.toU16 then some .rawBinary
  else if value = QueryFormat.jsonPointer.toU16 then some .jsonPointer
  else none

/-- `route`: check the envelope of a request and find its handler. -/
def route [Monad M] (router : Router M C) (header : Header) (query : Bytes) : RouteOutcome M C :=
  let notify := header.notify == 1
  -- The version comes before everything else in the envelope.
  if header.version ≠ repeVersion then
    .reject notify .versionMismatch s!"Unsupported REPE version {header.version}"
  else match (QueryFormat.tryFrom header.queryFormat).getD .rawBinary with
    | .jsonPointer =>
      match Utf8.fromUtf8 query with
      | none => .reject notify .invalidQuery "Query must be valid UTF-8"
      | some path =>
        match router.get path with
        | some handler => .dispatch handler notify path
        | none =>
          .reject notify .methodNotFound ("Method not found: " ++ String.ofList path)
    -- Raw binary, and any format this build does not know.
    | .rawBinary =>
      .reject notify .invalidQuery "Raw binary queries are not supported by this server"

/-- `create_error_response_unstamped_view`: an error frame with the request's id and no query. -/
def createErrorResponseUnstampedView (view : MessageView) (code : ErrorCode) (text : String) :
    Message :=
  let error := createErrorMessage code (utf8Bytes text)
  { error with header := { error.header with id := view.header.id } }

/-- `dispatch_view`: call a handler on a view, and frame its error. -/
def dispatchView [Monad M] (handler : HandlerErased M C) (view : MessageView) (ctx : C)
    (notify : Bool) : M (Option Message) := do
  let outcome ← handler.handleView view ctx
  -- A notify runs the handler for its effects only.
  if notify then return none
  else match outcome with
    | .ok message => return some message
    | .error error =>
      return some (createErrorResponseUnstampedView view error.toErrorCode error.display)

/-- `route_request_view`: answer one request without its query; `detached` builds its context. -/
def routeRequestView [Monad M] (detached : Path → C) (router : Router M C) (view : MessageView) :
    M (Option Message) :=
  match route router view.header view.query with
  | .dispatch handler notify path => dispatchView handler view (detached path) notify
  | .reject notify code message =>
    return if notify then none else some (createErrorResponseUnstampedView view code message)

end Repe
