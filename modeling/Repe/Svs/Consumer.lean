import Mathlib.Data.List.Basic
import Repe.Lib.Disk
import Repe.Lib.Exec
import Repe.Wire.Error

/-! The receiver of a value stream: the replies it pulls, the reader over them, and what consumes it. -/

namespace Repe.Svs

/-- What the server answers to a `next`. -/
inductive Reply where
  /-- A chunk, with the query that carries the `last` flag. -/
  | chunk (query body : Bytes)
  | error (code : ErrorCode) (message : String)
  deriving DecidableEq, Repr

/-- The `last` flag of a reply. -/
def isLast (query : Bytes) : Bool := query.head? == some 1

def Reply.ends : Reply → Bool
  | .chunk query _ => isLast query
  | .error .. => true

inductive Exchange where
  | next (reply : Reply)
  /-- A `next` that got no reply, because the connection is gone. -/
  | lost
  | cancel (reason : String)
  deriving DecidableEq, Repr

structure Link where
  replies : List Reply
  broken : RepeError
  trace : List Exchange
  deriving DecidableEq, Repr

/-- `cancel_stream`, best effort. -/
def Link.cancel (link : Link) (reason : String) : Link :=
  { link with trace := link.trace ++ [.cancel reason] }

/-- One `next` call: a chunk with its flag, or the error of the call. -/
def Link.next (link : Link) : Except RepeError (Bytes × Bool) × Link :=
  match link.replies with
  -- A call on a broken connection gets no reply.
  | [] => (.error link.broken, { link with trace := link.trace ++ [.lost] })
  | reply :: later =>
    let link := { link with replies := later, trace := link.trace ++ [.next reply] }
    match reply with
    | .chunk query body => (.ok (body, isLast query), link)
    | .error code message => (.error (.serverError code message), link)

/-- `ChunkReader`: a reader that issues `next` calls on demand. -/
structure ChunkReader where
  link : Link
  /-- `buf[pos..]`. -/
  rest : Bytes
  finished : Bool
  lastSeen : Bool
  deriving DecidableEq, Repr

namespace ChunkReader

/-- `ChunkReader::new`. -/
def new (link : Link) : ChunkReader := ⟨link, [], false, false⟩

/-- `fetch`, as often as the reply is an empty chunk that is not the last, and then the read. -/
def fetch (reader : ChunkReader) (size : Nat) : List Reply → Except IoError Bytes × ChunkReader
  | [] =>
    (.error ⟨.other, reader.link.broken.display⟩,
      { reader with link := { reader.link with
          replies := [], trace := reader.link.trace ++ [.lost] } })
  | reply :: later =>
    -- Whatever the reply is, it was read off the connection.
    let link := { reader.link with
      replies := later, trace := reader.link.trace ++ [.next reply] }
    match reply with
    | .error code message =>
      (.error ⟨.other, (RepeError.serverError code message).display⟩, { reader with link := link })
    | .chunk query body =>
      let reader := { reader with
        link := link
        finished := reader.finished || isLast query
        lastSeen := reader.lastSeen || isLast query }
      if body ≠ [] then (.ok (body.take size), { reader with rest := body.drop size })
      -- A final chunk may be empty; the next round of the loop reports the end.
      else if isLast query then (.ok [], reader)
      else fetch reader size later

/-- `read`: bytes of the chunk in hand, else of the next one, else the end of the stream. -/
def read (reader : ChunkReader) (size : Nat) : Except IoError Bytes × ChunkReader :=
  -- `pos < buf.len()`.
  if reader.rest ≠ [] then
    (.ok (reader.rest.take size), { reader with rest := reader.rest.drop size })
  else if reader.finished then (.ok [], reader)
  else reader.fetch size reader.link.replies

end ChunkReader

/-- A path: the directory it is in, and its file name if it ends in one. -/
structure DiskPath where
  parent : List String
  fileName : Option String
  deriving DecidableEq, Repr

def tempSibling (path : DiskPath) : DiskPath :=
  { path with fileName := some (path.fileName.getD "" ++ ".svspart") }

theorem tempSibling_ne (path : DiskPath) : tempSibling path ≠ path := by
  obtain ⟨parent, fileName⟩ := path
  intro same
  injection same with _ names
  cases fileName with
  | none => simp at names
  | some name =>
    -- The suffix makes the name longer.
    have lengths := congrArg String.length (Option.some.inj names)
    simp only [Option.getD_some, String.length_append] at lengths
    have suffix : ".svspart".length = 8 := rfl
    omega

abbrev LocalDisk := Disk DiskPath IoError

inductive Action (σ V : Type) where
  | read (size : Nat) (resume : Except IoError Bytes → σ)
  | disk (op : DiskOp DiskPath) (resume : Except IoError Unit → σ)
  | done (result : Exec RepeError V)

/-- The code that reads a stream: a decoder, a copy to a file, a closure of the caller. -/
structure Consumer (V : Type) where
  State : Type
  start : State
  act : State → Action State V

/-- A consumer on the thread of the pull, with the fuel it may take. -/
def Consumer.run {V : Type} (consumer : Consumer V) :
    Nat → consumer.State → ChunkReader → LocalDisk →
      Option (Exec RepeError V × ChunkReader × LocalDisk)
  | 0, _, _, _ => none
  | fuel + 1, state, reader, disk =>
    match consumer.act state with
    | .done result => some (result, reader, disk)
    | .read size resume =>
      let (got, reader) := reader.read size
      consumer.run fuel (resume got) reader disk
    | .disk op resume =>
      let (got, disk) := disk.perform op
      consumer.run fuel (resume got) reader disk

/-- A writer on a file: which pieces of what it is given reach the file, and what else they feed. -/
structure Writer (σ : Type) where
  /-- How many bytes at the end of the stream are not for the file. -/
  trailerLen : Nat
  held : σ → Bytes
  /-- One `write`: the pieces it passes on to the file, in order. -/
  split : σ → Bytes → List Bytes × σ
  /-- What is done with a piece once it is written. -/
  digest : σ → Bytes → Except IoError σ
  close : σ → Except IoError Unit
  /-- No byte is lost, doubled or moved. -/
  split_flatten : ∀ writer bytes,
    (split writer bytes).1.flatten ++ held (split writer bytes).2 = held writer ++ bytes
  /-- As much is held back as there is, up to the length of the trailer. -/
  split_length : ∀ writer bytes, (held writer).length ≤ trailerLen →
    (held (split writer bytes).2).length = min trailerLen ((held writer).length + bytes.length)
  split_short : ∀ writer bytes, (split writer bytes).1.length ≤ 2
  digest_held : ∀ writer piece after, digest writer piece = .ok after → held after = held writer
  close_ok : ∀ writer, close writer = .ok () ↔ trailerLen ≤ (held writer).length

def fileWriter : Writer Nat where
  trailerLen := 0
  held _ := []
  -- `io::copy` counts what it has read once all of it is written.
  split copied bytes := ([bytes], copied + bytes.length)
  digest copied _ := .ok copied
  close _ := .ok ()
  split_flatten := by simp
  split_length := by simp
  split_short := by simp
  digest_held := by simp
  close_ok := by simp

/-- `TeeWriter`: every byte goes to the file and then to a digest. -/
def teeWriter {D : Type} (writeAll : D → Bytes → Except IoError D) : Writer D where
  trailerLen := 0
  held _ := []
  split digest bytes := ([bytes], digest)
  digest := writeAll
  close _ := .ok ()
  split_flatten := by simp
  split_length := by simp
  split_short := by simp
  digest_held := by simp
  close_ok := by simp

/-- `TrailerHold` on a `TeeWriter`: the bytes held back, and the digest of the others. -/
structure TrailerHold (D : Type) where
  hold : Bytes
  digest : D
  deriving DecidableEq, Repr

namespace TrailerHold

variable {D : Type}

/-- `TrailerHold::new`, which reserves room for the trailer. -/
def new (t : Target) (trailerLen : Nat) (digest : D) : Exec IoError (TrailerHold D) := do
  t.allocate trailerLen
  return ⟨[], digest⟩

/--
`TrailerHold::write`: the pieces for the inner writer, and the new tail; an empty piece is not
written at all.
-/
def write (trailerLen : Nat) (writer : TrailerHold D) (buf : Bytes) :
    List Bytes × TrailerHold D :=
  if trailerLen ≤ buf.length then
    -- Every held byte is older than the last bytes of the stream now.
    let split := buf.length - trailerLen
    ([writer.hold, buf.take split].filter (· ≠ []), { writer with hold := buf.drop split })
  else
    let hold := writer.hold ++ buf
    -- The buffer is too short to replace the hold, so the oldest bytes make room.
    let overflow := hold.length - trailerLen
    ([hold.take overflow].filter (· ≠ []), { writer with hold := hold.drop overflow })

/-- `into_trailer`: the bytes held back; a stream that is shorter than the trailer has none. -/
def intoTrailer (trailerLen : Nat) (writer : TrailerHold D) : Except IoError Bytes :=
  if writer.hold.length < trailerLen then
    .error ⟨.unexpectedEof, s!"svs: stream of {writer.hold.length} logical byte(s) is shorter than "
      ++ s!"the {trailerLen}-byte trailer"⟩
  else .ok writer.hold

theorem write_flatten (trailerLen : Nat) (writer : TrailerHold D) (buf : Bytes) :
    (writer.write trailerLen buf).1.flatten ++ (writer.write trailerLen buf).2.hold
      = writer.hold ++ buf := by
  unfold write
  -- Either all that was held goes out, or the oldest part of it.
  split
  · simp only [List.flatten_filter_ne_nil, List.flatten_cons, List.flatten_nil, List.append_nil,
      List.append_assoc, List.take_append_drop]
  · simp only [List.flatten_filter_ne_nil, List.flatten_cons, List.flatten_nil, List.append_nil,
      List.take_append_drop]

theorem write_hold_length {trailerLen : Nat} {writer : TrailerHold D} (buf : Bytes) :
    (writer.write trailerLen buf).2.hold.length
      = min trailerLen (writer.hold.length + buf.length) := by
  unfold write
  -- A long write replaces the hold, a short one pushes its oldest bytes out.
  split
  · simp only [List.length_drop]
    omega
  · simp only [List.length_drop, List.length_append]
    omega

end TrailerHold

def trailerWriter {D : Type} (writeAll : D → Bytes → Except IoError D) (trailerLen : Nat) :
    Writer (TrailerHold D) where
  trailerLen := trailerLen
  held := TrailerHold.hold
  split := TrailerHold.write trailerLen
  digest writer piece := (writeAll writer.digest piece).map fun digest => { writer with digest }
  close writer := (writer.intoTrailer trailerLen).map fun _ => ()
  split_flatten := TrailerHold.write_flatten trailerLen
  split_length _ bytes _ := TrailerHold.write_hold_length bytes
  split_short := by
    intro writer bytes
    unfold TrailerHold.write
    split
    · exact List.length_filter_le _ _
    · exact (List.length_filter_le _ _).trans (by simp)
  digest_held := by
    intro writer piece after fed
    cases wrote : writeAll writer.digest piece with
    | error error => simp [wrote, Except.map] at fed
    | ok digest =>
      simp only [wrote, Except.map, Except.ok.injEq] at fed
      rw [← fed]
  close_ok := by
    intro writer
    unfold TrailerHold.intoTrailer
    split
    · simp only [Except.map, reduceCtorEq, false_iff]
      omega
    · simp only [Except.map, true_iff]
      omega

/-- The buffer of `io::copy`. -/
def copyBuffer : Nat := 8192

/-- `io::copy` from the stream to a file, through a writer. -/
inductive CopyPhase (σ : Type) where
  | reading (writer : σ)
  /-- A piece of one read is to be written, and others behind it. -/
  | writing (piece : Bytes) (pieces : List Bytes) (writer : σ)
  | copied (writer : σ)
  | failed (error : IoError)

namespace CopyPhase

variable {σ τ V : Type}

def proceed (pieces : List Bytes) (writer : σ) : CopyPhase σ :=
  match pieces with
  | [] => .reading writer
  | piece :: pieces => .writing piece pieces writer

def afterRead (writer : Writer σ) (state : σ) : Except IoError Bytes → CopyPhase σ
  | .error error => .failed error
  | .ok [] => .copied state
  -- One `write_all` on the writer, which may pass on several pieces.
  | .ok bytes => proceed (writer.split state bytes).1 (writer.split state bytes).2

def afterWrite (writer : Writer σ) (state : σ) (piece : Bytes) (pieces : List Bytes) :
    Except IoError Unit → CopyPhase σ
  | .error error => .failed error
  -- The file has the piece before the digest sees it.
  | .ok () =>
    match writer.digest state piece with
    | .error error => .failed error
    | .ok state => proceed pieces state

end CopyPhase

/-- `io::copy` alone, into a file that is open. -/
def copyTo {σ : Type} (path : DiskPath) (writer : Writer σ) (start : σ) : Consumer σ where
  State := CopyPhase σ
  start := .reading start
  act
    -- A copy reads and writes in turns until a read gets nothing.
    | .reading state => .read copyBuffer (CopyPhase.afterRead writer state)
    | .writing piece pieces state =>
      .disk (.write path piece) (CopyPhase.afterWrite writer state piece pieces)
    | .copied state => .done (.ok state)
    | .failed error => .done (.err (.io error))

/-- The closure of the pulls that write a file: a guarded temporary file, the copy, and its end. -/
inductive SavePhase (σ : Type) where
  | creating
  | copying (copy : CopyPhase σ)
  | syncing (writer : σ)
  | dropping (error : RepeError)
  | ended (result : Except RepeError σ)

namespace SavePhase

variable {σ : Type}

def afterCreate (start : σ) : Except IoError Unit → SavePhase σ
  | .error error => .ended (.error (.io error))
  | .ok () => .copying (.reading start)

/-- After `flush`. -/
def afterFlush (state : σ) : Except IoError Unit → SavePhase σ
  | .error error => .dropping (.io error)
  | .ok () => .syncing state

/-- After `sync_all`. -/
def afterSync (state : σ) : Except IoError Unit → SavePhase σ
  | .error error => .dropping (.io error)
  | .ok () => .ended (.ok state)

end SavePhase

/-- Create a temporary file, copy the stream to it, flush and sync it. -/
def saveTo {σ : Type} (path : DiskPath) (writer : Writer σ) (start : σ) : Consumer σ where
  State := SavePhase σ
  start := .creating
  act
    -- Nothing is there to drop when the file cannot be created.
    | .creating => .disk (.create path) (SavePhase.afterCreate start)
    | .copying (.reading state) =>
      .read copyBuffer fun got => .copying (CopyPhase.afterRead writer state got)
    | .copying (.writing piece pieces state) =>
      .disk (.write path piece) fun got =>
        .copying (CopyPhase.afterWrite writer state piece pieces got)
    -- Every failure from here on drops the guard.
    | .copying (.failed error) => .disk (.remove path) fun _ => .ended (.error (.io error))
    | .copying (.copied state) =>
      -- `into_trailer`, for the writers that hold one back.
      match writer.close state with
      | .error error => .disk (.remove path) fun _ => .ended (.error (.io error))
      | .ok () => .disk (.flush path) (SavePhase.afterFlush state)
    | .syncing state => .disk (.sync path) (SavePhase.afterSync state)
    | .dropping error => .disk (.remove path) fun _ => .ended (.error error)
    | .ended (.ok state) => .done (.ok state)
    | .ended (.error error) => .done (.err error)

/-- A decompressor, by what each byte of a stream makes it do. -/
structure Inflater where
  State : Type
  start : State
  /-- What one more byte decompresses to; corrupt input is an error. -/
  feed : State → UInt8 → Except IoError (Bytes × State)
  /-- The content has ended, and no more of the stream is read. -/
  complete : State → Bool
  finish : State → Except IoError Unit

/-- Bytes that are not compressed, whose end is the end of the stream. -/
def Inflater.plain : Inflater where
  State := Unit
  start := ()
  feed _ byte := .ok ([byte], ())
  complete _ := false
  finish _ := .ok ()

inductive Intake (σ : Type) where
  | taking (content : Bytes) (state : σ)
  | whole (content : Bytes)
  | failed (error : IoError)

namespace Inflater

/-- Decompress the bytes of one read, up to the end of the content. -/
def intake (inflater : Inflater) (content : Bytes) (state : inflater.State) :
    Bytes → Intake inflater.State
  | [] => .taking content state
  | byte :: bytes =>
    if inflater.complete state then .taking content state
    else match inflater.feed state byte with
      | .ok (more, state) => inflater.intake (content ++ more) state bytes
      | .error error => .failed error

def afterRead (inflater : Inflater) (content : Bytes) (state : inflater.State) :
    Except IoError Bytes → Intake inflater.State
  | .error error => .failed error
  | .ok [] =>
    match inflater.finish state with
    | .ok () => .whole content
    | .error error => .failed error
  | .ok bytes => inflater.intake content state bytes

theorem afterRead_ok {inflater : Inflater} {content : Bytes} {state : inflater.State} {bytes : Bytes}
    (some : bytes ≠ []) :
    inflater.afterRead content state (.ok bytes) = inflater.intake content state bytes := by
  cases bytes with
  | nil => exact absurd rfl some
  | cons => rfl

end Inflater

/--
`read_one_value`: the content is gathered as a whole before any of it is decoded.

The decompressor works through what it has before it reads on.
-/
def readOneValue {V : Type} (inflater : Inflater) (decode : Bytes → Except RepeError V) :
    Consumer V where
  State := Intake inflater.State
  start := .taking [] inflater.start
  act
    | .taking content state =>
      if inflater.complete state then .done (.ofExcept (decode content))
      else .read copyBuffer (inflater.afterRead content state)
    | .whole content => .done (.ofExcept (decode content))
    -- `decode_stream` passes a failed read on as it is.
    | .failed error => .done (.err (.io error))

end Repe.Svs
