import Repe.Derive.Dispatch

/-! `MethodArgs`: the arguments of a method that takes two or more, as an array in their order or as an
object under their names, split in one pass that only notes where each of them stands. -/

namespace Repe.Derive

/--
`structio::json::Parser` or `structio::beve::Reader` over a body.

`C` is where a walk stands, and `K` how it gives a key. An error carries the position of the walk.
-/
structure Walker (C K : Type) where
  position : C → Nat
  /-- `skip_value`: where the walk stands behind a value. -/
  skipValue : C → Except StructioError C
  /-- `read_seq` and `finish`: the visitor goes over each element; the number of them is returned. -/
  readSeq : {σ : Type} → Bytes → (σ → C → Except StructioError (σ × C)) → σ →
    Except StructioError (σ × Nat)
  /-- `read_map` and `finish`: the visitor is given each key and goes over its value. -/
  readMap : {σ : Type} → Bytes → (σ → K → C → Except StructioError (σ × C)) → σ →
    Except StructioError σ

/-- `beve::Key`, as far as it is told apart. -/
inductive Key where
  | str (key : Path)
  | number
  deriving DecidableEq, Repr

/-- `header::ty`, as far as it is told apart. -/
inductive HeaderType where
  | object
  | genericArray
  | typedArray
  | extension
  | other
  deriving DecidableEq, Repr

inductive StreamError where
  | parse (error : StructioError)
  | io
  deriving DecidableEq, Repr

/-- What `MethodArgs` takes from structio beside the readers of the arguments. -/
structure Splitting (J B : Type) where
  json : Walker J Path
  beve : Walker B Key
  skipWs : Bytes → Bytes
  headerTy : UInt8 → HeaderType
  /-- `Documents::array`: the elements as documents of their own. -/
  documents : Bytes → List (Except StreamError Bytes)
  invalidUtf8 : Nat → StructioError
  unexpectedEnd : StructioError

/-- A parameter of a method: its name, its type, and how a value of it is read. -/
structure Param where
  name : Path
  type : Path
  {T : Type}
  reader : ServableRead T
  default : T
  /-- `Documents::next_value_into`, at the document of an element. -/
  nextValue : Bytes → T → Except StreamError Unit × T
  /-- An element with its header supplied is read as the document is. -/
  nextValue_ok : ∀ document value read,
    nextValue document value = (.ok (), read) ↔ reader.beve document value = (.ok (), read)

inductive ArgSource where
  | spans (spans : List (Option Bytes))
  | cursor (documents : List (Except StreamError Bytes))

structure MethodArgs where
  path : Path
  names : List Path
  format : BodyFormat
  source : ArgSource
  index : Nat

/-- The refusal of `check_arity`. -/
def arityError (path : Path) (names : List Path) (got : Nat) : StructError :=
  .arguments path ("expected " ++ toString names.length ++ " arguments, got " ++ toString got)

def checkArity (path : Path) (names : List Path) (got : Nat) : Except StructError Unit :=
  if got = names.length then .ok () else .error (arityError path names got)

def shapeError (path : Path) (names : List Path) : StructError :=
  .arguments path ("expected an array of " ++ toString names.length ++
    " arguments or an object with keys [" ++
    ", ".intercalate (names.map String.ofList) ++ "]")

section Visitors

variable {C K : Type} (walker : Walker C K) (bytes : Bytes)

def Walker.span (start stop : C) : Bytes :=
  (bytes.take (walker.position stop)).drop (walker.position start)

def Walker.pushSpan (spans : List (Option Bytes)) (start : C) :
    Except StructioError (List (Option Bytes) × C) :=
  (walker.skipValue start).map fun stop => (spans ++ [some (walker.span bytes start stop)], stop)

/-- The visitor of an object: a key that a parameter has fills its slot, the last one for good. -/
def Walker.setSpan (slot : K → Option Nat) (spans : List (Option Bytes)) (key : K) (start : C) :
    Except StructioError (List (Option Bytes) × C) :=
  (walker.skipValue start).map fun stop =>
    (match slot key with
      | some index => spans.set index (some (walker.span bytes start stop))
      -- A key no parameter has is only passed over.
      | none => spans, stop)

end Visitors

def slotOf (names : List Path) (key : Path) : Option Nat :=
  names.findIdx? (· == key)

def beveSlot (names : List Path) : Key → Option Nat
  | .str key => slotOf names key
  | .number => none

section Split

variable {J B : Type} (structio : Splitting J B) (path : Path) (names : List Path) (bytes : Bytes)

def splitJson : Except StructError (List (Option Bytes)) :=
  match Utf8.fromUtf8 bytes with
  | none => .error (.decode path (structio.invalidUtf8 (Utf8.validUpTo bytes)))
  | some _ =>
    -- The opening byte decides the shape, not whether a walk succeeds.
    match (structio.skipWs bytes).head? with
    | some 0x5B => do
      let (positional, _) ←
        (structio.json.readSeq bytes (structio.json.pushSpan bytes) []).mapError (.decode path)
      checkArity path names positional.length
      .ok positional
    | some 0x7B =>
      (structio.json.readMap bytes (structio.json.setSpan bytes (slotOf names))
        (List.replicate names.length none)).mapError (.decode path)
    | _ => .error (shapeError path names)

def splitBeve : Except StructError ArgSource :=
  match bytes.head?.map structio.headerTy with
  | some .genericArray => do
    let (positional, _) ←
      (structio.beve.readSeq bytes (structio.beve.pushSpan bytes) []).mapError (.decode path)
    checkArity path names positional.length
    .ok (.spans positional)
  | some .object =>
    ((structio.beve.readMap bytes (structio.beve.setSpan bytes (beveSlot names))
      (List.replicate names.length none)).mapError (.decode path)).map .spans
  -- The reader supplies the headers of these elements, so no span of the body is one of them.
  | some .typedArray | some .extension => do
    let (_, count) ← (structio.beve.readSeq bytes
      (fun walked start => (structio.beve.skipValue start).map (walked, ·)) ()).mapError (.decode path)
    checkArity path names count
    .ok (.cursor (structio.documents bytes))
  | _ => .error (shapeError path names)

def streamParseError : StreamError → StructioError
  | .parse error => error
  | .io => structio.unexpectedEnd

namespace MethodArgs

/-- `MethodArgs::new`. -/
def new (body : RequestBody) : Except StructError MethodArgs :=
  (match body.format with
    | .beve => splitBeve structio path names body.bytes
    | _ => (splitJson structio path names body.bytes).map .spans).map
    fun source => { path, names, format := body.format, source, index := 0 }

/-- What stands for an argument: the bytes of its slot, or `null` in JSON whatever the frame is in. -/
def slotBody (format : BodyFormat) : Option Bytes → RequestBody
  | some bytes => ⟨bytes, format⟩
  | none => ⟨jsonNull, .json⟩

/-- `next_arg`, and what is left for the arguments behind it. -/
def nextArg (args : MethodArgs) (param : Param) : Except StructError param.T × MethodArgs :=
  let name := args.names[args.index]?.getD "?".toList
  let label := args.path ++ '(' :: name ++ [')']
  let moved := { args with index := args.index + 1 }
  match args.source with
  -- A slot past the end is read as one that was left out.
  | .spans spans =>
    (param.reader.read param.default label (slotBody args.format spans[args.index]?.join), moved)
  -- The count in the header disagreed with the elements behind it.
  | .cursor [] => (.error (.decode label structio.unexpectedEnd), moved)
  | .cursor (document :: rest) =>
    let outcome : Except StreamError param.T := document.bind fun document =>
      match param.nextValue document param.default with
      | (.ok (), value) => .ok value
      | (.error error, _) => .error error
    (outcome.mapError fun error => .decode label (streamParseError structio error),
      { moved with source := .cursor rest })

end MethodArgs

end Split

/-- The arguments of a method, one of each parameter's type. -/
def Decoded : List Param → Type
  | [] => Unit
  | param :: params => param.T × Decoded params

section Bind

variable {J B : Type} (structio : Splitting J B)

def bindArgs : (params : List Param) → MethodArgs → Except StructError (Decoded params)
  | [], _ => .ok ()
  | param :: params, args =>
    -- The first argument that does not decode is the one that is reported.
    let (outcome, args) := args.nextArg structio param
    outcome.bind fun value => (bindArgs params args).map (value, ·)

/-- The code `decode_method_args` emits for two or more parameters. -/
def decodeSeveral (params : List Param) (path : Path) (body : RequestBody) :
    Except StructError (Decoded params) :=
  (MethodArgs.new structio path (params.map Param.name) body).bind (bindArgs structio params)

def severalArguments (params : List Param) : Arguments (Decoded params) :=
  .several (params.map fun param => (param.name, param.type)) (decodeSeveral structio params)

end Bind

end Repe.Derive
