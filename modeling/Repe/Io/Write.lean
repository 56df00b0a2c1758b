import Repe.Wire.Message

/-! Writing one message to a sink: the blocks handed to `write_all`, in order. -/

namespace Repe

/-- The blocks a message is written as; an empty query or body is not written at all. -/
def Message.writeTo (message : Message) : List Bytes :=
  [message.header.encode]
    ++ (if message.query.isEmpty then [] else [message.query])
    ++ (if message.body.isEmpty then [] else [message.body])

def writeMessage (message : Message) : List Bytes :=
  message.writeTo

def writeMessageAsync (message : Message) : List Bytes :=
  message.writeTo

/-- `HEADER_SIZE as u64 + query_length + body_length`, with no check of its own. -/
def framedLength (t : Target) (queryLength bodyLength : UInt64) : Exec RepeError UInt64 := do
  -- The two sums wrap or panic like any other of the target.
  let length ← t.addU64 (UInt64.ofNat headerSize) queryLength
  t.addU64 length bodyLength

/--
Write a message whose body is produced by a callback instead of being owned.

All three length fields are overwritten, so whatever the header held before does not matter.
-/
def writeMessageStreaming (t : Target) (header : Header) (query : Bytes) (bodyLen : UInt64)
    (body : List Bytes) : Exec RepeError (List Bytes) := do
  let queryLength := UInt64.ofNat query.length
  let length ← framedLength t queryLength bodyLen
  let header := { header with queryLength, bodyLength := bodyLen, length }
  -- The callback's blocks follow, and nobody counts them.
  return [header.encode] ++ (if query.isEmpty then [] else [query]) ++ body

end Repe
