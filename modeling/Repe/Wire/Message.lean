import Repe.Lib.Utf8
import Repe.Wire.Header

/-! Messages and borrowed views: framing them into bytes, and parsing bytes back into them. -/

namespace Repe

/-- A header with the query and body it frames. Nothing ties the three together. -/
structure Message where
  header : Header
  query : Bytes
  body : Bytes
  deriving DecidableEq, Repr

/-- A parsed frame whose query and body are slices of the buffer it was read from. -/
structure MessageView where
  header : Header
  query : Bytes
  body : Bytes
  deriving DecidableEq, Repr

/-- `vec.resize(len, 0)`. -/
def resizeZero (vec : Bytes) (len : Nat) : Bytes :=
  vec.take len ++ List.replicate (len - vec.length) 0

/-- `buf.copy_within(0..count, dest)`, which moves the whole range even where it overlaps itself. -/
def copyWithin (buf : Bytes) (count dest : Nat) : Exec RepeError Bytes :=
  if count ≤ buf.length ∧ dest + count ≤ buf.length then
    .ok (buf.take dest ++ buf.take count ++ buf.drop (dest + count))
  else .panic

/-- `buf[lo..hi].copy_from_slice(src)`, which panics unless the lengths agree. -/
def copyFromSlice (buf : Bytes) (lo hi : Nat) (src : Bytes) : Exec RepeError Bytes :=
  if lo ≤ hi ∧ hi ≤ buf.length ∧ src.length = hi - lo then
    .ok (buf.take lo ++ src ++ buf.drop hi)
  else .panic

/-- Move a body that is not empty from the front of its buffer to the back. -/
def shiftBody (buf : Bytes) (bodyLen prefixLen : Nat) : Exec RepeError Bytes :=
  if 0 < bodyLen then copyWithin buf bodyLen prefixLen else .ok buf

namespace Message

/-- A message from its parts, refused when the header advertises other lengths. -/
def new (t : Target) (header : Header) (query body : Bytes) : Exec RepeError Message := do
  if header.queryLength ≠ UInt64.ofNat query.length
      ∨ header.bodyLength ≠ UInt64.ofNat body.length then
    -- The advertised total saturates, because a report of a bad header must not itself overflow.
    let got ← t.addU64 (UInt64.ofNat headerSize) (UInt64.ofNat query.length)
    let got ← t.addU64 got (UInt64.ofNat body.length)
    .err (.lengthMismatch
      (((UInt64.ofNat headerSize).saturatingAdd header.queryLength).saturatingAdd
        header.bodyLength) got)
  else
    return { header, query, body }

def toVec (message : Message) : Bytes :=
  message.header.encode
    -- An empty part is not appended at all.
    ++ (if message.query.isEmpty then [] else message.query)
    ++ (if message.body.isEmpty then [] else message.body)

variable (t : Target)

/--
The serialized message, built inside the body's allocation when that has room for the prefix.

The capacity is that of the body's buffer, which is at least the body's length.
-/
def intoWireBytes (capacity : Nat) (message : Message) : Exec RepeError Bytes := do
  let prefixLen ← t.addUsize headerSize message.query.length
  let bodyLen := message.body.length
  let total ← t.addUsize prefixLen bodyLen
  if total ≤ capacity then
    -- Grow in place, shift the body to the back, then overwrite the front with the prefix.
    let buf := resizeZero message.body total
    let buf ← shiftBody buf bodyLen prefixLen
    let buf ← copyFromSlice buf 0 headerSize message.header.encode
    if message.query.isEmpty then pure buf
    else copyFromSlice buf headerSize prefixLen message.query
  else
    -- Without the room, a fresh buffer is filled from the front.
    return message.header.encode
      ++ (if message.query.isEmpty then [] else message.query)
      ++ (if 0 < bodyLen then message.body else [])

/-- Parse the frame at the front of a buffer, ignoring what follows it. -/
def fromSlice (buf : Bytes) : Exec RepeError Message := do
  if buf.length < headerSize then
    .err (.invalidHeaderLength buf.length)
  else
    -- The header is decoded from its own 48 bytes.
    let front ← Exec.slice buf 0 headerSize
    let header ← Header.decode t front
    let expected ← t.addUsize headerSize (t.asUsize header.queryLength)
    let expected ← t.addUsize expected (t.asUsize header.bodyLength)
    -- Bytes past the frame are allowed here.
    if buf.length < expected then
      .err (.bufferTooSmall expected buf.length)
    else
      -- The offsets are computed once more for the slices.
      let queryEnd ← t.addUsize headerSize (t.asUsize header.queryLength)
      let query ← Exec.slice buf headerSize queryEnd
      let o ← t.addUsize headerSize (t.asUsize header.queryLength)
      let bodyEnd ← t.addUsize o (t.asUsize header.bodyLength)
      let body ← Exec.slice buf o bodyEnd
      Message.new t header query body

/-- Parse a buffer that must hold one frame and nothing after it. -/
def fromSliceExact (buf : Bytes) : Exec RepeError Message := do
  let message ← fromSlice t buf
  -- The frame length is summed up again, from the parts that were parsed.
  let expected ← t.addUsize headerSize message.query.length
  let expected ← t.addUsize expected message.body.length
  if buf.length ≠ expected then
    .err (.lengthMismatch (UInt64.ofNat expected) (UInt64.ofNat buf.length))
  else
    return message

def isError (message : Message) : Bool :=
  message.header.ec != ErrorCode.ok.toU32

/-- The text of an error response, whatever bytes its body holds. -/
def errorMessageUtf8 (message : Message) : Option String :=
  if message.isError then some (Utf8.fromUtf8Lossy message.body) else none

end Message

/-- What a message is assembled from before its lengths are filled in. -/
structure MessageBuilder where
  id : UInt64 := 0
  query : Bytes := []
  body : Bytes := []
  queryFormat : UInt16 := 0
  bodyFormat : UInt16 := 0
  notify : Bool := false
  ec : UInt32 := 0
  deriving DecidableEq, Repr

namespace MessageBuilder

/-- The message a builder stands for, with the lengths its parts really have. -/
def build (builder : MessageBuilder) : Message where
  header :=
    { Header.new with
      id := builder.id
      queryLength := UInt64.ofNat builder.query.length
      bodyLength := UInt64.ofNat builder.body.length
      -- Two buffers that share one address space keep this sum below the width of `u64`.
      length := UInt64.ofNat headerSize + UInt64.ofNat builder.query.length
        + UInt64.ofNat builder.body.length
      queryFormat :=
        if builder.queryFormat = 0 then QueryFormat.rawBinary.toU16 else builder.queryFormat
      bodyFormat :=
        if builder.bodyFormat = 0 then BodyFormat.rawBinary.toU16 else builder.bodyFormat
      notify := if builder.notify then 1 else 0
      ec := builder.ec }
  query := builder.query
  body := builder.body

end MessageBuilder

/-- A query-less message that reports an error code and a text. -/
def createErrorMessage (code : ErrorCode) (text : Bytes) : Message :=
  MessageBuilder.build { ec := code.toU32, body := text, bodyFormat := BodyFormat.utf8.toU16 }

namespace MessageView

variable (t : Target)

def fromSlice (buf : Bytes) : Exec RepeError MessageView := do
  if buf.length < headerSize then
    .err (.invalidHeaderLength buf.length)
  else
    let front ← Exec.slice buf 0 headerSize
    let header ← Header.decode t front
    let expected ← t.addUsize headerSize (t.asUsize header.queryLength)
    let expected ← t.addUsize expected (t.asUsize header.bodyLength)
    if buf.length < expected then
      .err (.bufferTooSmall expected buf.length)
    else
      let qEnd ← t.addUsize headerSize (t.asUsize header.queryLength)
      let bEnd ← t.addUsize qEnd (t.asUsize header.bodyLength)
      let query ← Exec.slice buf headerSize qEnd
      let body ← Exec.slice buf qEnd bEnd
      return { header, query, body }

/-- Parse a view of a buffer that must hold one frame and nothing after it. -/
def fromSliceExact (buf : Bytes) : Exec RepeError MessageView := do
  let view ← fromSlice t buf
  let expected ← t.addUsize headerSize view.query.length
  let expected ← t.addUsize expected view.body.length
  if buf.length ≠ expected then
    .err (.lengthMismatch (UInt64.ofNat expected) (UInt64.ofNat buf.length))
  else
    return view

def toMessage (view : MessageView) : Message :=
  { header := view.header, query := view.query, body := view.body }

end MessageView

end Repe
