import Repe.Lib.ByteStream
import Repe.Wire.Message

/-! Reading one message off a stream: into owned buffers, or whole into a reused one. -/

namespace Repe

open ByteStream

variable {σ : Type}

/-- Fill a buffer from a reader, where an interrupted read fails the call like any other error. -/
def readExact (reader : Reader IoError σ) (wanted : Nat) : Proc σ RepeError Bytes :=
  (fill .unexpectedEof reader wanted wanted).mapErr .io

section Framing

variable (t : Target) (exactly : Nat → Proc σ RepeError Bytes)

def readPart (len : Nat) : Proc σ RepeError Bytes := do
  Proc.lift (t.allocate len)
  -- The source does not call the reader for an empty part.
  if len = 0 then pure [] else exactly len

/-- Read header, query, and body, each into a buffer of its own. -/
def readOwned : Proc σ RepeError Message := do
  let hdrBuf ← exactly headerSize
  -- A header that is refused costs the stream its 48 bytes and nothing more.
  let header ← Proc.lift (Header.decode t hdrBuf)
  let query ← readPart t exactly (t.asUsize header.queryLength)
  let body ← readPart t exactly (t.asUsize header.bodyLength)
  Proc.lift (Message.new t header query body)

/--
Read a whole frame into one buffer.

The buffer is cleared first, so its contents are a result of the call and not an input to it.
-/
def readInto : Proc σ RepeError Bytes := do
  let front ← exactly headerSize
  let header ← Proc.lift (Header.decode t front)
  -- The lengths were checked by the decoder, and are summed up again here.
  let total ← Proc.lift (t.addUsize headerSize (t.asUsize header.queryLength))
  let total ← Proc.lift (t.addUsize total (t.asUsize header.bodyLength))
  -- The buffer grows to the announced size before any of it has arrived.
  Proc.lift (t.allocate total)
  -- The rest of the buffer starts past the header, which a wrapped total would not reach.
  if total < headerSize then Proc.lift .panic
  else
    let rest ← exactly (total - headerSize)
    return front ++ rest

end Framing

section Readers

variable (t : Target)

def readMessage (reader : Reader IoError σ) : Proc σ RepeError Message :=
  readOwned t (readExact reader)

def readMessageInto (reader : Reader IoError σ) : Proc σ RepeError Bytes :=
  readInto t (readExact reader)

/-- Read of one message through the runtime's own `read_exact`. -/
def readMessageAsync (runtime : Nat → Proc σ IoError Bytes) : Proc σ RepeError Message :=
  readOwned t fun wanted => (runtime wanted).mapErr .io

/-- Read of one frame through the runtime's own `read_exact`. -/
def readMessageIntoAsync (runtime : Nat → Proc σ IoError Bytes) : Proc σ RepeError Bytes :=
  readInto t fun wanted => (runtime wanted).mapErr .io

/-- Parse what was read into a buffer, and copy it out of the buffer. -/
def readView (frame : Proc σ RepeError Bytes) : Proc σ RepeError Message := do
  let buf ← frame
  -- The view borrows the buffer, and the copy outlives it.
  let view ← Proc.lift (MessageView.fromSlice t buf)
  return view.toMessage

end Readers

end Repe
