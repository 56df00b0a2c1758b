import Repe.Svs.Consumer
import Repe.Svs.Table

/-! The blocking pulls: open a stream, check its tags, and consume it on the calling thread. -/

namespace Repe.Svs

/-- `Compression::from_u8`. -/
def Compression.fromU8 (tag : UInt8) : Option Compression :=
  if tag = 0 then some .none else if tag = 1 then some .zstd else Option.none

def invalidData (message : String) : RepeError := .io ⟨.invalidData, message⟩

/-- What a client needs of the answer to its `open`. -/
structure OpenInfo where
  streamId : UInt64
  format : UInt16
  compression : Compression
  deriving DecidableEq, Repr

/-- `parse_open_response`, on what the body of the answer decodes to. -/
def parseOpenResponse (body : Except RepeError OpenResponse) : Except RepeError OpenInfo := do
  let response ← body
  -- The caller has not sent anything for this stream yet.
  if response.version ≠ svsVersion then
    throw (invalidData
      s!"svs open: server contract version {response.version} != supported {svsVersion}")
  match Compression.fromU8 response.compression with
  | some compression => return ⟨response.streamId, response.format, compression⟩
  | none => throw (invalidData s!"svs open: unknown compression tag {response.compression}")

inductive StreamOutput where
  | beveZstdFile (path : DiskPath)
  | beveFile (path : DiskPath)
  | value
  | rawFile (path : DiskPath)
  deriving DecidableEq, Repr

/-- `check_output`: the tags of the stream allow the output. -/
def checkOutput (out : StreamOutput) (info : OpenInfo) : Except RepeError Unit :=
  match out with
  | .beveZstdFile _ =>
    if info.compression ≠ .zstd then
      .error (invalidData "svs: .beve.zst output needs a zstd-compressed stream")
    else .ok ()
  | .beveFile _ =>
    if info.compression ≠ .zstd then
      .error (invalidData "svs: .beve output needs a zstd-compressed stream")
    else if info.format ≠ BodyFormat.beve.toU16 then
      .error (invalidData s!"svs: .beve output needs format=BEVE, got format {info.format}")
    else .ok ()
  | .value =>
    if info.format ≠ BodyFormat.beve.toU16 then
      .error (invalidData s!"svs: value decode needs format=BEVE, got format {info.format}")
    else .ok ()
  | .rawFile _ => .ok ()

def requireBeve (info : OpenInfo) : Except RepeError Unit :=
  if info.format ≠ BodyFormat.beve.toU16 then
    .error (invalidData s!"svs: bulk slice decode needs format=BEVE, got format {info.format}")
  else .ok ()

structure Codec where
  /-- What reads the stream when a consumer reads what it decompresses to. -/
  decoding : {V : Type} → Consumer V → Consumer V
  /-- What the stream decompresses to when all of it is wanted. -/
  inflater : Inflater

/-- The consumer of the chunks, for a consumer of the logical content. -/
def Codec.reading {V : Type} (zstd : Codec) (compression : Compression) (consumer : Consumer V) :
    Consumer V :=
  match compression with
  | .none => consumer
  | .zstd => zstd.decoding consumer

def Codec.inflating (zstd : Codec) : Compression → Inflater
  | .none => .plain
  | .zstd => zstd.inflater

structure Receiver where
  link : Link
  disk : LocalDisk

abbrev Ending (V : Type) := Exec RepeError V × Receiver

namespace Receiver

variable {V σ : Type}

/-- `TempFile::commit`. -/
def commit (disk : LocalDisk) (temp path : DiskPath) : Exec RepeError Unit × LocalDisk :=
  match disk.perform (.rename temp path) with
  | (.ok (), disk) => (.ok (), disk)
  -- The handle is closed already, so the drop of the guard would leave the file.
  | (.error error, disk) => (.err (.io error), (disk.perform (.remove temp)).2)

/-- The failure of `write_file`: release the stream, and drop the guard of the file. -/
def abort (link : Link) (disk : LocalDisk) (temp : DiskPath) (error : RepeError) :
    Ending Unit :=
  (.err error, ⟨link.cancel "receiver aborted", (disk.perform (.remove temp)).2⟩)

/-- The end of `write_file`, once the stream was copied. -/
def finishFile (reader : ChunkReader) (disk : LocalDisk) (temp path : DiskPath) :
    Ending Unit :=
  -- The fill loop returned without the terminating chunk: a truncated transfer.
  if reader.lastSeen = false then
    abort reader.link disk temp
      (.io ⟨.unexpectedEof, "svs: stream ended without a final chunk"⟩)
  else
    match disk.perform (.flush temp) with
    | (.error error, disk) => abort reader.link disk temp (.io error)
    | (.ok (), disk) =>
      match disk.perform (.sync temp) with
      | (.error error, disk) => abort reader.link disk temp (.io error)
      | (.ok (), disk) =>
        -- The stream has ended, so there is nothing to cancel.
        let (result, disk) := commit disk temp path
        (result, ⟨reader.link, disk⟩)

/-- `write_file` after its closure has filled the temporary file. -/
def afterFill (path : DiskPath) :
    Exec RepeError V × ChunkReader × LocalDisk → Ending Unit
  | (.ok _, reader, disk) => finishFile reader disk (tempSibling path) path
  | (.err error, reader, disk) => abort reader.link disk (tempSibling path) error
  -- Unwinding drops the guard, and nothing else.
  | (.panic, reader, disk) =>
    (.panic, ⟨reader.link, (disk.perform (.remove (tempSibling path))).2⟩)

/-- `write_file`: fill a temporary file, and put it in place once the stream has ended. -/
def writeFile (fuel : Nat) (receiver : Receiver) (path : DiskPath) (fill : Consumer V) :
    Option (Ending Unit) :=
  match receiver.disk.perform (.create (tempSibling path)) with
  -- `TempFile::create(&tmp_path)?` leaves before the cleanup of the failures below.
  | (.error error, disk) => some (.err (.io error), { receiver with disk := disk })
  | (.ok (), disk) =>
    (fill.run fuel fill.start (.new receiver.link) disk).map (afterFill path)

/-- The `Value` output of `pull_stream`: only a value that was decoded releases the stream. -/
def decodeValue (fuel : Nat) (receiver : Receiver) (decode : Consumer V) :
    Option (Ending (Option V)) :=
  (decode.run fuel decode.start (.new receiver.link) receiver.disk).map fun
    | (.ok value, reader, disk) =>
      (.ok (some value), ⟨reader.link.cancel "value fully decoded", disk⟩)
    -- `read_one_value(..)?` leaves before the cancel.
    | (.err error, reader, disk) => (.err error, ⟨reader.link, disk⟩)
    | (.panic, reader, disk) => (.panic, ⟨reader.link, disk⟩)

def dropValue (ending : Option (Ending V)) : Option (Ending Unit) :=
  ending.map fun (result, receiver) => (result >>= fun _ => .ok (), receiver)

/-- The file outputs of `pull_stream` return no value. -/
def withoutValue (ending : Option (Ending Unit)) : Option (Ending (Option V)) :=
  ending.map fun (result, receiver) => (result >>= fun () => .ok none, receiver)

/-- `io::copy` of the chunks into the temporary sibling of a file. -/
def copyChunks (path : DiskPath) : Consumer Nat := copyTo (tempSibling path) fileWriter 0

/-- `pull_stream`, from the answer to its `open`. -/
def pullStream (fuel : Nat) (zstd : Codec) (opened : Except RepeError OpenResponse)
    (out : StreamOutput) (decode : Bytes → Except RepeError V) (receiver : Receiver) :
    Option (Ending (Option V)) :=
  match parseOpenResponse opened with
  | .error error => some (.err error, receiver)
  | .ok info =>
    match checkOutput out info with
    | .error error =>
      some (.err error,
        { receiver with link := receiver.link.cancel "output incompatible with stream tags" })
    | .ok () =>
      match out with
      -- The compressed bytes are the file.
      | .beveZstdFile path => withoutValue (receiver.writeFile fuel path (copyChunks path))
      | .beveFile path =>
        withoutValue (receiver.writeFile fuel path (zstd.decoding (copyChunks path)))
      | .value => receiver.decodeValue fuel (readOneValue (zstd.inflating info.compression) decode)
      | .rawFile path =>
        withoutValue (receiver.writeFile fuel path (zstd.reading info.compression (copyChunks path)))

def pullToFile (fuel : Nat) (zstd : Codec) (opened : Except RepeError OpenResponse)
    (path : DiskPath) (decode : Bytes → Except RepeError Unit) (receiver : Receiver) :
    Option (Ending Unit) :=
  dropValue (pullStream fuel zstd opened (.rawFile path) decode receiver)

/-- Consume an opened stream and release it, however the consumer returned. -/
def consumeAndCancel (fuel : Nat) (receiver : Receiver) (reason : String) (consumer : Consumer V) :
    Option (Ending V) :=
  (consumer.run fuel consumer.start (.new receiver.link) receiver.disk).map fun
    | (.panic, reader, disk) => (.panic, ⟨reader.link, disk⟩)
    | (result, reader, disk) => (result, ⟨reader.link.cancel reason, disk⟩)

def pullConsume (fuel : Nat) (zstd : Codec) (opened : Except RepeError OpenResponse)
    (consume : Consumer V) (receiver : Receiver) : Option (Ending V) :=
  match parseOpenResponse opened with
  | .error error => some (.err error, receiver)
  | .ok info =>
    receiver.consumeAndCancel fuel "consume complete" (zstd.reading info.compression consume)

/-- The slice pulls, which differ in their decoder and in the reason of their release. -/
def pullSlice (reason : String) (fuel : Nat) (zstd : Codec)
    (opened : Except RepeError OpenResponse) (decode : Consumer V) (receiver : Receiver) :
    Option (Ending V) :=
  match parseOpenResponse opened with
  | .error error => some (.err error, receiver)
  | .ok info =>
    match requireBeve info with
    | .error error =>
      some (.err error,
        { receiver with link := receiver.link.cancel "format incompatible with bulk decode" })
    | .ok () => receiver.consumeAndCancel fuel reason (zstd.reading info.compression decode)

def pullTypedSlice (fuel : Nat) (zstd : Codec) (opened : Except RepeError OpenResponse)
    (decode : Consumer V) (receiver : Receiver) : Option (Ending V) :=
  pullSlice "bulk typed slice complete" fuel zstd opened decode receiver

def pullComplexSlice (fuel : Nat) (zstd : Codec) (opened : Except RepeError OpenResponse)
    (decode : Consumer V) (receiver : Receiver) : Option (Ending V) :=
  pullSlice "bulk complex slice complete" fuel zstd opened decode receiver

/-- The end of the pulls that verify: an accepted file is put in place, and another is dropped. -/
def publish (disk : LocalDisk) (path : DiskPath) (verdict : Except RepeError Unit) :
    Exec RepeError Unit × LocalDisk :=
  match verdict with
  -- `verify(..)?` drops the guard.
  | .error error => (.err error, (disk.perform (.remove (tempSibling path))).2)
  | .ok () => commit disk (tempSibling path) path

/-- A pull of a file after its closure has returned the guard, or dropped it. -/
def afterSave (path : DiskPath) (verify : σ → Except RepeError Unit) : Ending σ → Ending σ
  | (.ok state, receiver) =>
    let (result, disk) := publish receiver.disk path (verify state)
    (result >>= fun () => .ok state, { receiver with disk := disk })
  | (.err error, receiver) => (.err error, receiver)
  | (.panic, receiver) => (.panic, receiver)

/-- A blocking pull of a file through a writer, with a check before it is put in place. -/
def pullToFileThrough (fuel : Nat) (zstd : Codec) (opened : Except RepeError OpenResponse)
    (path : DiskPath) (writer : Writer σ) (start : σ) (verify : σ → Except RepeError Unit)
    (receiver : Receiver) : Option (Ending σ) :=
  (pullConsume fuel zstd opened (saveTo (tempSibling path) writer start) receiver).map
    (afterSave path verify)

def pullToFileTrailerVerified {D : Type} (fuel : Nat) (zstd : Codec)
    (opened : Except RepeError OpenResponse) (path : DiskPath) (trailerLen : Nat)
    (writeAll : D → Bytes → Except IoError D) (digest : D)
    (verify : D → Bytes → Except RepeError Unit) (receiver : Receiver) : Option (Ending Unit) :=
  dropValue (pullToFileThrough fuel zstd opened path (trailerWriter writeAll trailerLen) ⟨[], digest⟩
    (fun state => verify state.digest state.hold) receiver)

end Receiver

end Repe.Svs
