import Repe.Server.Typed

/-! The bodies of struct endpoints: what a request's body reads into, and a response's body under
construction, as a value or as an object that is written key by key. -/

namespace Repe.Derive

inductive StructError where
  | invalidPath (path : Path)
  | invalidSubpath (path : Path)
  | bodyExpected (path : Path)
  | bodyUnexpected (path : Path)
  | decode (path : Path) (source : StructioError)
  | arguments (path : Path) (message : String)
  | execution (path : Path) (message : String)
  deriving DecidableEq, Repr

/-- `StructResult<()>`, of a call that can also unwind. -/
abbrev StructResult := Exec StructError Unit

def pathFromSegments (segments : List Path) : Path :=
  segments.flatMap ('/' :: ·)

def withPrefix (segment path : Path) : Path :=
  -- A child under the empty name adds nothing to a path.
  if segment.isEmpty then path
  else if path.isEmpty then '/' :: segment
  else if path.head? = some '/' then '/' :: segment ++ path
  -- A path that was given without its separator gets one.
  else '/' :: segment ++ '/' :: path

/-- `prepend_path`: every error names a path, and all of them are moved alike. -/
def prependPath (segment : Path) : StructError → StructError
  | .invalidPath path => .invalidPath (withPrefix segment path)
  | .invalidSubpath path => .invalidSubpath (withPrefix segment path)
  | .bodyExpected path => .bodyExpected (withPrefix segment path)
  | .bodyUnexpected path => .bodyUnexpected (withPrefix segment path)
  | .decode path source => .decode (withPrefix segment path) source
  | .arguments path message => .arguments (withPrefix segment path) message
  | .execution path message => .execution (withPrefix segment path) message

section Codec

/-- `ServableWrite`: what writing a value appends in either format. -/
structure ServableWrite (T : Type) where
  json : T → Bytes
  beve : T → Bytes

def ServableWrite.encode {T : Type} (writer : ServableWrite T) (format : BodyFormat) (value : T) :
    Bytes :=
  if format = .beve then writer.beve value else writer.json value

/--
`ServableRead`: a value is read over the one that is there.

A read that fails may have changed a part of it.
-/
structure ServableRead (T : Type) where
  json : List Char → T → Except StructioError Unit × T
  beve : Bytes → T → Except StructioError Unit × T
  invalidUtf8 : Nat → StructioError

variable {T : Type} (reader : ServableRead T)

/-- `read_raw_with`. -/
def ServableRead.readRaw (body : RequestBody) (value : T) : Except StructioError Unit × T :=
  match body.format with
  | .beve => reader.beve body.bytes value
  -- Every other format is read as JSON, which has to be a text.
  | _ =>
    match Utf8.fromUtf8 body.bytes with
    | some text => reader.json text value
    -- Nothing was read, so nothing was changed.
    | none => (.error (reader.invalidUtf8 (Utf8.validUpTo body.bytes)), value)

def ServableRead.readInto (path : Path) (body : RequestBody) (value : T) : StructResult × T :=
  match reader.readRaw body value with
  | (.ok (), value) => (.ok (), value)
  | (.error source, value) => (.err (.decode path source), value)

def ServableRead.read (default : T) (path : Path) (body : RequestBody) : Except StructError T :=
  match reader.readRaw body default with
  | (.ok (), value) => .ok value
  | (.error source, _) => .error (.decode path source)

/-- What the bodies take from structio beside the readers and writers of the served types. -/
structure Structio where
  /-- A text as a value, which in JSON is also how a key is written. -/
  text : ServableWrite Path
  /-- `beve::append(&())`. -/
  unit : Bytes
  /-- `header::OBJECT`. -/
  objectHeader : UInt8
  /-- `Writer::size`. -/
  size : Nat → Bytes
  /-- `Writer::write_str_body`. -/
  strBody : Path → Bytes
  /-- `Reader::try_null`, false where it fails. -/
  tryNull : Bytes → Bool

/-- The bytes of `null` in JSON. -/
def jsonNull : Bytes := [0x6E, 0x75, 0x6C, 0x6C]

/-- `u8::is_ascii_whitespace`. -/
def isAsciiWhitespace (byte : UInt8) : Bool :=
  [0x20, 0x09, 0x0A, 0x0C, 0x0D].contains byte

/-- `RequestBody::is_null`. -/
def isNull (structio : Structio) (body : RequestBody) : Bool :=
  match body.format with
  | .beve => structio.tryNull body.bytes
  -- The whitespace of JSON is ASCII, so the bytes are compared as they are.
  | _ => (body.bytes.dropWhile isAsciiWhitespace).rdropWhile isAsciiWhitespace == jsonNull

end Codec

structure ResponseBody where
  buf : Bytes
  /-- The format the request asked to be answered in. -/
  requested : BodyFormat
  format : BodyFormat
  /-- This body is a value inside an enclosing object. -/
  nested : Bool
  deriving DecidableEq, Repr

structure ObjectBody where
  buf : Bytes
  /-- The length of the buffer before the object's header, to rewind to. -/
  start : Nat
  format : BodyFormat
  first : Bool
  declared : Nat
  written : Nat
  deriving DecidableEq, Repr

variable (structio : Structio)

namespace ResponseBody

def withFormat (buf : Bytes) (requested : BodyFormat) : ResponseBody :=
  { buf, requested := RegisteredRegistry.responseFormat requested, format := .json, nested := false }

def write {T : Type} (writer : ServableWrite T) (out : ResponseBody) (value : T) : ResponseBody :=
  if out.requested = .beve then
    { out with buf := out.buf ++ writer.beve value, format := .beve }
  -- A body says JSON until something else is written.
  else { out with buf := out.buf ++ writer.json value }

def writeNull (out : ResponseBody) : ResponseBody :=
  if out.requested = .beve then { out with buf := out.buf ++ structio.unit, format := .beve }
  else { out with buf := out.buf ++ jsonNull }

/-- `write_typed_slice`: BEVE whatever was asked for, except inside an object. -/
def writeTypedSlice {T : Type} (slice : ServableWrite T) (out : ResponseBody) (value : T) :
    ResponseBody :=
  if out.nested then out.write slice value
  -- By itself the slice settles the format of the frame.
  else { out with buf := out.buf ++ slice.beve value, format := .beve }

def objectFormat (out : ResponseBody) : BodyFormat :=
  if out.nested then out.format else out.requested

def objectOpening (entries : Nat) : BodyFormat → Bytes
  | .beve => structio.objectHeader :: structio.size entries
  | _ => [0x7B]

def object (out : ResponseBody) (entries : Nat) : ObjectBody :=
  { buf := out.buf ++ objectOpening structio entries out.objectFormat
    -- An entry that fails goes back to here, past the opening.
    start := out.buf.length
    format := out.objectFormat
    first := true
    declared := entries
    written := 0 }

/-- A body once the object it lent its buffer to is done with it. -/
def reclaim (out : ResponseBody) (obj : ObjectBody) : ResponseBody :=
  { out with buf := obj.buf, format := obj.format }

end ResponseBody

namespace ObjectBody

def keyBytes (obj : ObjectBody) (name : Path) : Bytes :=
  match obj.format with
  -- The count in the header has said how many to expect, so nothing separates the members.
  | .beve => structio.strBody name
  | _ => (if obj.first then [] else [0x2C]) ++ structio.text.json name ++ [0x3A]

/-- `key`: write a member's key and open its value position. -/
def key (obj : ObjectBody) (name : Path) : ObjectBody :=
  { obj with
    buf := obj.buf ++ obj.keyBytes structio name
    -- Only a comma looks at this again.
    first := if obj.format = .beve then obj.first else false
    written := obj.written + 1 }

def valueBody (obj : ObjectBody) : ResponseBody :=
  { buf := obj.buf, requested := obj.format, format := obj.format, nested := true }

def entry {T : Type} (writer : ServableWrite T) (obj : ObjectBody) (name : Path) (value : T) :
    ObjectBody :=
  let opened := obj.key structio name
  -- The value is written in the format of the object, whatever was asked for.
  { opened with buf := (opened.valueBody.write writer value).buf }

/-- `finish`: the closed object, or nothing where the counts disagree and it panics. -/
def finish (obj : ObjectBody) : Option ObjectBody :=
  if obj.written = obj.declared then
    -- In BEVE the header has said where the object ends.
    some { obj with buf := if obj.format = .beve then obj.buf else obj.buf ++ [0x7D] }
  else none

end ObjectBody

/-- What a dispatch leaves: its body, the user functions it called, and what it returned. -/
structure Reply (R : Type) where
  out : ResponseBody
  /-- The names of the user functions, in the order of the calls. -/
  calls : List Path
  returned : R

section Front

def ResponseBody.after (front : Bytes) (out : ResponseBody) : ResponseBody :=
  { out with buf := front ++ out.buf }

def ObjectBody.after (front : Bytes) (obj : ObjectBody) : ObjectBody :=
  { obj with buf := front ++ obj.buf, start := front.length + obj.start }

def Reply.after {R : Type} (front : Bytes) (reply : Reply R) : Reply R :=
  { reply with out := reply.out.after front }

variable (front : Bytes) (out : ResponseBody) (obj : ObjectBody)

@[simp] theorem ResponseBody.write_after {T : Type} (writer : ServableWrite T) (value : T) :
    (out.after front).write writer value = (out.write writer value).after front := by
  simp only [write, after, List.append_assoc]
  split <;> rfl

@[simp] theorem ResponseBody.writeNull_after :
    (out.after front).writeNull structio = (out.writeNull structio).after front := by
  simp only [writeNull, after, List.append_assoc]
  split <;> rfl

@[simp] theorem ResponseBody.writeTypedSlice_after {T : Type} (slice : ServableWrite T) (value : T) :
    (out.after front).writeTypedSlice slice value = (out.writeTypedSlice slice value).after front := by
  rw [writeTypedSlice, writeTypedSlice, write_after]
  simp only [after, List.append_assoc]
  split <;> rfl

@[simp] theorem ResponseBody.object_after (entries : Nat) :
    (out.after front).object structio entries = (out.object structio entries).after front := by
  simp only [object, after, ObjectBody.after, objectFormat, List.append_assoc, List.length_append]
  rfl

@[simp] theorem ObjectBody.key_after (name : Path) :
    (obj.after front).key structio name = (obj.key structio name).after front := by
  simp only [key, after, keyBytes, List.append_assoc]
  rfl

@[simp] theorem ObjectBody.valueBody_after :
    (obj.after front).valueBody = obj.valueBody.after front := rfl

@[simp] theorem ObjectBody.entry_after {T : Type} (writer : ServableWrite T) (name : Path)
    (value : T) :
    (obj.after front).entry structio writer name value
      = (obj.entry structio writer name value).after front := by
  simp only [entry, key_after, valueBody_after, ResponseBody.write_after]
  rfl

@[simp] theorem ObjectBody.finish_after :
    (obj.after front).finish = obj.finish.map (ObjectBody.after front) := by
  by_cases counted : obj.written = obj.declared
  · -- The closing brace comes after everything.
    have same : (obj.after front).written = (obj.after front).declared := counted
    rw [finish, finish, if_pos counted, if_pos same, Option.map_some]
    simp only [after, apply_ite (front ++ ·), List.append_assoc]
  · have differ : ¬ (obj.after front).written = (obj.after front).declared := counted
    rw [finish, finish, if_neg counted, if_neg differ, Option.map_none]

end Front

/--
`RepeStruct`: how a type answers requests under either borrow.

`S` is what a value of the type holds. User functions that are called through `&self` change none of
it, so the shared attempt has nothing to hand back but its reply.
-/
structure RepeStruct (S : Type) where
  repeHandleInto : S → List Path → Option RequestBody → ResponseBody → S × Reply StructResult
  /-- Nothing is returned where the attempt declines. -/
  repeSharedInto : S → List Path → Option RequestBody → ResponseBody → Reply (Option StructResult)
  repeListingDeclines : S → Bool
  /-- `REPE_SHARED_SERVES_BODIES`, a hint whether to attempt a request that carries a body. -/
  repeSharedServesBodies : Bool
  /-- The buffer is private to the body: an implementation appends to it and sees nothing of it. -/
  handle_after : ∀ front s segments body out, repeHandleInto s segments body (out.after front) =
    (repeHandleInto s segments body out).map id (Reply.after front)
  shared_after : ∀ front s segments body out, repeSharedInto s segments body (out.after front) =
    (repeSharedInto s segments body out).after front

end Repe.Derive
