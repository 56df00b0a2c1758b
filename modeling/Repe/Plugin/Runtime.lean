import Repe.Server.Responses

/-! `PluginRuntime`: a plugin's side of `repe_plugin_call`, from the raw request to the buffer it hands
back. -/

/-- Code that returns or unwinds, and has no error of its own. -/
abbrev Unwinding := Exec Empty

/-- `Result::expect`. -/
def Exec.expect {ε α : Type} : Exec ε α → Unwinding α
  | .ok value => .ok value
  | .err _ => .panic
  | .panic => .panic

namespace Repe

/-- `RepeBuffer`: what is readable at its pointer, and the size it states. -/
structure RepeBuffer where
  /-- Nothing is readable at a null pointer. -/
  data : Option Bytes
  size : Nat
  deriving DecidableEq, Repr

namespace RepeBuffer

def empty : RepeBuffer := ⟨some [0], 0⟩

def borrowing (bytes : Bytes) : RepeBuffer :=
  if bytes.isEmpty then empty else ⟨some bytes, bytes.length⟩

end RepeBuffer

inductive PluginError where
  | shutDown
  | tooLarge
  | nullRequest
  | aliased
  | constructorPanicked
  | handlerPanicked
  | bufferUnavailable
  deriving DecidableEq, Repr

namespace PluginError

def code : PluginError → ErrorCode
  | .tooLarge | .nullRequest | .aliased => .invalidHeader
  | .shutDown | .constructorPanicked | .handlerPanicked | .bufferUnavailable => .internalError

def text : PluginError → String
  | .shutDown => "repe plugin: repe_plugin_call after repe_plugin_shutdown"
  | .tooLarge => "repe plugin: request_size exceeds the largest addressable object"
  | .nullRequest => "repe plugin: null request pointer with a non-zero request_size"
  | .aliased => "repe plugin: the request aliases this thread's response buffer; " ++
      "a response must be copied before it is fed back in as a request"
  | .constructorPanicked => "repe plugin: router constructor panicked"
  | .handlerPanicked => "repe plugin: handler panicked while serving the request"
  | .bufferUnavailable => "repe plugin: this thread's response buffer is unavailable — either a " ++
      "reentrant repe_plugin_call, or a call made during thread teardown"

/-- The message that reports the error, which has neither an id nor a query. -/
def message (error : PluginError) : Message :=
  createErrorMessage error.code (utf8Bytes error.text)

def frame (error : PluginError) : Bytes :=
  error.message.writeTo.flatten

end PluginError

/-- The `RESPONSE` of the calling thread, as a call finds it. -/
inductive ResponseBuffer where
  | free (base capacity : Nat)
  /-- In use by a call further out on this thread. -/
  | borrowed
  /-- The thread is going away, and its locals are gone. -/
  | destroyed
  deriving DecidableEq, Repr

namespace ResponseBuffer

/-- `with_response_buffer`: do something with the buffer, or answer with `static_error_frame`. -/
def withResponseBuffer {M : Type → Type} [Monad M] (buffer : ResponseBuffer)
    (f : M RepeBuffer) : M RepeBuffer :=
  match buffer with
  | .free _ _ => f
  | .borrowed | .destroyed => return .borrowing PluginError.bufferUnavailable.frame

def errorResponse (buffer : ResponseBuffer) (error : PluginError) : RepeBuffer :=
  Id.run (buffer.withResponseBuffer (pure (.borrowing error.frame)))

/-- `aliases_response_buffer`, for a request of some length at some address. -/
def aliases (buffer : ResponseBuffer) (address length : Nat) : Bool :=
  match buffer with
  -- Against the capacity, since a response may be written up to there.
  | .free base capacity => address < base + capacity && base < address + length
  | .borrowed | .destroyed => false

end ResponseBuffer

/-- The two arguments of `repe_plugin_call`. -/
inductive RawRequest where
  | null (size : Nat)
  /-- An address with that many readable bytes. -/
  | pointing (address : Nat) (bytes : Bytes)
  deriving DecidableEq, Repr

namespace RawRequest

/-- `request_size`. -/
def size : RawRequest → Nat
  | .null size => size
  | .pointing _ bytes => bytes.length

/-- The slice the request is read through, with its address. -/
def slice (request : RawRequest) : Option (Nat × Bytes) :=
  -- The empty slice is a literal, at the address any dangling slice of bytes has.
  if request.size = 0 then some (1, [])
  else match request with
    | .null _ => none
    | .pointing address bytes => some (address, bytes)

end RawRequest

section Calls

variable {C : Type} (t : Target) (detached : Path → C)

/-- `Router::call_into`, with handlers that may unwind. -/
def Router.callInto (router : Router Unwinding C) (request : Bytes) : Unwinding (Bool × Bytes) := do
  let response ← match MessageView.fromSliceExact t request with
    | .ok view => routeRequestView detached router view
    -- Nothing is routed, and the answer is made of the error.
    | _ => pure none
  (Repe.callInto t (fun _ => response) request).expect

/-- `requested_notify`: the flag of a frame whose header can be read. -/
def requestedNotify : RawRequest → Bool
  | .null _ => false
  | .pointing _ bytes =>
    if bytes.length < headerSize ∨ t.isizeMax < bytes.length then false
    else match Header.decode t (bytes.take headerSize) with
      -- Any flag but zero, where the router asks for one.
      | .ok header => header.notify != 0
      | _ => false

structure PluginRuntime (C : Type) where
  router : Option (Router Unwinding C)
  /-- What the constructor does when it is run. -/
  build : Unwinding (Router Unwinding C)
  shutdown : Bool
  buildFailed : Bool

namespace PluginRuntime

def new (build : Unwinding (Router Unwinding C)) : PluginRuntime C := ⟨none, build, false, false⟩

/-- `get_or_build` with no other thread about: the router, and whether this call built it. -/
def getOrBuild (runtime : PluginRuntime C) :
    Option (Router Unwinding C × Bool) × PluginRuntime C :=
  match runtime.router with
  | some router => (some (router, false), runtime)
  | none =>
    if runtime.buildFailed then (none, runtime)
    else match runtime.build with
      | .ok router => (some (router, true), { runtime with router := some router })
      -- The cell is still empty after the unwind, so the failure is latched.
      | .panic => (none, { runtime with buildFailed := true })

def callUnguarded (runtime : PluginRuntime C) (buffer : ResponseBuffer) (request : RawRequest) :
    Unwinding RepeBuffer × PluginRuntime C :=
  if runtime.shutdown then (.ok (buffer.errorResponse .shutDown), runtime)
  else if t.isizeMax < request.size then (.ok (buffer.errorResponse .tooLarge), runtime)
  else match request.slice with
    | none => (.ok (buffer.errorResponse .nullRequest), runtime)
    | some (address, bytes) =>
      if buffer.aliases address bytes.length then
        (.ok (buffer.errorResponse .aliased), runtime)
      else match runtime.getOrBuild with
        | (none, runtime) => (.ok (buffer.errorResponse .constructorPanicked), runtime)
        | (some (router, _), runtime) =>
          (buffer.withResponseBuffer do
            let (answered, out) ← router.callInto t detached bytes
            -- Without a response the request was a notify.
            return if answered then .borrowing out else .empty, runtime)

def call (runtime : PluginRuntime C) (buffer : ResponseBuffer) (request : RawRequest) :
    RepeBuffer × PluginRuntime C :=
  match runtime.callUnguarded t detached buffer request with
  | (.ok response, runtime) => (response, runtime)
  | (.panic, runtime) =>
    -- The dispatch that honours the notify flag never returned.
    if requestedNotify t request then (.empty, runtime)
    -- The unwind has given the buffer back.
    else (buffer.errorResponse .handlerPanicked, runtime)

/-- The exported `repe_plugin_call`, in this state of the plugin and of the calling thread. -/
def exported (runtime : PluginRuntime C) (buffer : ResponseBuffer) (request : RawRequest) :
    RepeBuffer :=
  (runtime.call t detached buffer request).1

end PluginRuntime

end Calls

end Repe
