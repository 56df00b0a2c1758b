import Repe.Plugin.Runtime

/-! `Plugin`: a loaded plugin as a handler of its host's router. -/

namespace Repe

inductive HostError where
  | nullResponse (size : Nat)
  | responseTooLarge (size : Nat)
  deriving DecidableEq, Repr

def HostError.display : HostError → String
  | .nullResponse size => s!"repe_plugin_call returned a null data pointer with size {size}"
  | .responseTooLarge size =>
    s!"repe_plugin_call returned {size} bytes, more than this target can address"

structure Plugin where
  name : String
  rootPath : Path

namespace Plugin

/-- `claims`: whether a query names the plugin's object or something beneath it. -/
def claims (plugin : Plugin) (query : Path) : Bool :=
  match query.dropPrefix? plugin.rootPath with
  | some [] => true
  -- The separator must be there, not merely the characters of the root.
  | some rest => rest.head? = some '/'
  | none => false

variable (t : Target) (plugin : Plugin)

/-- `disclaim`: the answer for a path that the plugin does not claim. -/
def disclaim (id : UInt64) (query : Bytes) : Message :=
  createErrorResponseFor id query .methodNotFound
    ("Method not found: " ++ Utf8.fromUtf8Lossy query)

section Calls

-- The exported `repe_plugin_call`, and the address of the frame it is called with.
variable (call : RawRequest → RepeBuffer) (address : Nat)

/-- `call_into`: the response of the plugin, if it has one. -/
def callInto (request : Bytes) : Except HostError (Option Bytes) :=
  let buffer := call (.pointing address request)
  -- No size is no response, whatever the pointer is.
  if buffer.size = 0 then .ok none
  else if t.isizeMax < buffer.size then .error (.responseTooLarge buffer.size)
  else match buffer.data with
    | none => .error (.nullResponse buffer.size)
    | some data => .ok (some (data.take buffer.size))

/-- `forward`: hand a frame to the plugin, and turn what comes back into a response. -/
def forward (header : Header) (query frame : Bytes) : Unwinding Message :=
  let error := fun text => createErrorResponseFor header.id query .internalError text
  match callInto t call address frame with
  | .ok (some response) =>
    match Message.fromSlice t response with
    -- Whatever the plugin has framed is forwarded unchanged, with its id.
    | .ok message => .ok message
    | .err err => .ok (error
      s!"plugin `{plugin.name}` answered with a frame that does not parse: {err.display}")
    | .panic => .panic
  | .ok none =>
    -- The caller discards the response to a notify.
    if header.notify = 1 then .ok (MessageBuilder.build { id := header.id })
    else .ok (error s!"plugin `{plugin.name}` returned no response to a request that expects one")
  | .error err => .ok (error err.display)

def queryPath (query : Bytes) : Path := (Utf8.fromUtf8 query).getD []

def handle (req : Message) : Unwinding HandlerResult :=
  if plugin.claims (queryPath req.query) then do
    let response ← plugin.forward t call address req.header req.query req.writeTo.flatten
    return .ok response
  else return .ok (disclaim req.header.id req.query)

/-- `handle_view`, which assembles the frame from the borrowed parts. -/
def handleView (view : MessageView) : Unwinding HandlerResult :=
  if plugin.claims (queryPath view.query) then
    match writeMessageStreaming t view.header view.query (UInt64.ofNat view.body.length)
        [view.body] with
    | .ok blocks => do
      let response ← plugin.forward t call address view.header view.query blocks.flatten
      return .ok response
    | .err error => return .error error
    | .panic => .panic
  else return .ok (disclaim view.header.id view.query)

/-- A plugin as a handler; the owned entry point has no use for a context. -/
def handlerErased {C : Type} : HandlerErased Unwinding C where
  handle := plugin.handle t call address
  handleWithCtx req _ := plugin.handle t call address req
  handleView view _ := plugin.handleView t call address view
  execution := .inline

end Calls

end Plugin

end Repe
