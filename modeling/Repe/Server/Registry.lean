import Repe.Server.PointerLaws
import Repe.Server.Responses

/-! The registry: functions under the pointers they were registered at, and its mount on a router. -/

namespace Repe

/-- `BodyFormat::try_from`. -/
def BodyFormat.tryFrom (value : UInt16) : Option BodyFormat :=
  [rawBinary, beve, json, utf8].find? (·.toU16 == value)

/-- The bytes of a request's body under the format its header declared. -/
structure RequestBody where
  bytes : Bytes
  format : BodyFormat
  deriving DecidableEq, Repr

inductive RegistryError where
  | invalidPointer (pointer : Path)
  | pathNotFound (path : Path)
  | unsupportedBodyFormat (format : UInt16)
  | execution (code : ErrorCode) (message : String)
  deriving DecidableEq, Repr

namespace RegistryError

def code : RegistryError → ErrorCode
  | .invalidPointer _ | .pathNotFound _ => .methodNotFound
  | .unsupportedBodyFormat _ => .invalidBody
  | .execution code _ => code

def display : RegistryError → String
  | .invalidPointer pointer => "invalid JSON pointer `" ++ String.ofList pointer ++ "`"
  | .pathNotFound path => "path not found `" ++ String.ofList path ++ "`"
  | .unsupportedBodyFormat format => s!"registry body format `{format}` is unsupported"
  | .execution _ message => message

end RegistryError

/--
`RegistryCallable`: a function of the call's context, its parameters and the format to answer in.

`M` is whatever effects the function has; it returns the encoded body and the format that settled on.
-/
abbrev RegistryCallable (M : Type → Type) (C : Type) :=
  C → Option RequestBody → BodyFormat → M (Except (ErrorCode × String) (Bytes × BodyFormat))

structure Registry (M : Type → Type) (C : Type) where
  state : Path → Option (RegistryCallable M C)

variable {M : Type → Type} {C : Type}

/-- `canonical_key`: a valid pointer is its own key, and the root has one spelling. -/
def canonicalKey (pointer : Path) : Except RegistryError Path :=
  if JsonPointer.addressesRoot pointer then .ok ['/']
  else match JsonPointer.validateEscapes pointer with
    | .ok () => .ok pointer
    | .error _ => .error (.invalidPointer pointer)

namespace Registry

def new : Registry M C := ⟨fun _ => none⟩

/-- `register_function_arc`: put a function under a path, in place of an earlier one. -/
def registerFunction (registry : Registry M C) (path : Path) (function : RegistryCallable M C) :
    Except RegistryError (Registry M C) :=
  -- A path may be given without its leading separator.
  let normalized := if path.head? = some '/' then path else '/' :: path
  if JsonPointer.addressesRoot normalized then .error (.invalidPointer path)
  else match canonicalKey normalized with
    | .ok key => .ok ⟨Function.update registry.state key (some function)⟩
    | .error _ => .error (.invalidPointer path)

def find (registry : Registry M C) (pointer : Path) :
    Except RegistryError (RegistryCallable M C) := do
  let key ← canonicalKey pointer
  match registry.state key with
  | some function => .ok function
  | none => .error (.pathNotFound pointer)

def call [Monad M] (registry : Registry M C) (pointer : Path) (params : Option RequestBody) (ctx : C)
    (requested : BodyFormat) : M (Except RegistryError (Bytes × BodyFormat)) :=
  match registry.find pointer with
  | .error error => return .error error
  | .ok function => do
    match ← function ctx params requested with
    | .ok answer => return .ok answer
    | .error (code, message) => return .error (.execution code message)

/-- `is_function`: whether a pointer names a function; a malformed one names none. -/
def isFunction (registry : Registry M C) (pointer : Path) : Bool :=
  match canonicalKey pointer with
  | .ok key => (registry.state key).isSome
  | .error _ => false

/-- `body_of`: the parameters of a request, none for an empty body. -/
def bodyOf (request : Message) : Except RegistryError (Option RequestBody) :=
  if request.body.isEmpty then .ok none
  else match BodyFormat.tryFrom request.header.bodyFormat with
    | some format => .ok (some ⟨request.body, format⟩)
    | none => .error (.unsupportedBodyFormat request.header.bodyFormat)

end Registry

/-- `RegisteredRegistry`: a registry at its normalized mount. -/
structure RegisteredRegistry (M : Type → Type) (C : Type) where
  mount : Path
  registry : Registry M C

namespace RegisteredRegistry

/-- `RegisteredRegistry::new`. -/
def new (mount : Path) (registry : Registry M C) : RegisteredRegistry M C :=
  ⟨Mount.normalizeMount mount, registry⟩

/-- `ResponseBody::with_format`: only JSON and BEVE have a structure to mirror. -/
def responseFormat : BodyFormat → BodyFormat
  | .beve => .beve
  | _ => .json

/-- `dispatch`: answer a request out of the registry. -/
def dispatch [Monad M] (mounted : RegisteredRegistry M C) (request : Message) (ctx : C) :
    M Message :=
  let path := (Utf8.fromUtf8 request.query).getD []
  match Mount.pointerFor mounted.mount path with
  | none =>
    let text := "path is not below registry prefix: " ++ String.ofList path
    return createErrorResponseLike request .methodNotFound text
  | some pointer =>
    match Registry.bodyOf request with
    | .error error => return createErrorResponseLike request error.code error.display
    | .ok params => do
      let requested := (BodyFormat.tryFrom request.header.bodyFormat).getD .json
      match ← mounted.registry.call pointer params ctx (responseFormat requested) with
      | .ok (body, format) => return createBodyResponseUnstamped request body format
      | .error error => return createErrorResponseLike request error.code error.display

def serves (mounted : RegisteredRegistry M C) (path : Path) :
    Option (Except RegistryError (RegistryCallable M C)) :=
  (Mount.pointerFor mounted.mount path).map mounted.registry.find

end RegisteredRegistry

end Repe
