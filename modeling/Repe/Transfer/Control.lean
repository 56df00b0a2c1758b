import Repe.Lib.Bytes
import Repe.Lib.Mutex

/-! The control of one streamed transfer: credit window, acknowledgements, replay ring and peer slot. -/

namespace Repe

/-- A build of the crate: its target, and whether debug assertions are compiled in. -/
structure Build extends Target where
  /-- `debug_assert!` is checked. -/
  debugAssertions : Bool

namespace Build

def release : Build := ⟨.release64, false⟩

/-- A 64-bit debug build, which checks arithmetic and assertions. -/
def debug : Build := ⟨{ Target.release64 with overflowChecks := true }, true⟩

end Build

structure RingChunk where
  offset : UInt64
  dataLen : UInt64
  last : Bool
  /-- The wire body, which may be longer than the data it carries. -/
  bodyBytes : Bytes
  deriving DecidableEq, Repr

/-- `c.offset + c.data_len`, the logical end of a chunk. -/
def RingChunk.endOffset {ε : Type} (t : Target) (chunk : RingChunk) : Exec ε UInt64 :=
  t.addU64 chunk.offset chunk.dataLen

/-- The bodies emitted last for the current file, bounded in wire bytes. -/
structure ReplayRing where
  chunks : List RingChunk
  /-- Wire bytes of the retained chunks. -/
  bytesHeld : UInt64
  /-- Wire bytes the ring may hold. -/
  capacityBytes : UInt64
  deriving DecidableEq, Repr

namespace ReplayRing

variable {ε : Type}

def new (capacityBytes : UInt64) : ReplayRing := ⟨[], 0, capacityBytes⟩

/-- The eviction loop of `push`: drop the oldest chunk while too many bytes are held. -/
def evict (capacityBytes : UInt64) : List RingChunk → UInt64 → ReplayRing
  | front :: next :: rest, bytesHeld =>
    if bytesHeld > capacityBytes then
      evict capacityBytes (next :: rest)
        (bytesHeld.saturatingSub (UInt64.ofNat front.bodyBytes.length))
    else ⟨front :: next :: rest, bytesHeld, capacityBytes⟩
  -- A single oversized chunk stays as the only entry.
  | chunks, bytesHeld => ⟨chunks, bytesHeld, capacityBytes⟩

/-- `highest_end_offset`: the trailing edge of the ring. -/
def highestEndOffset (t : Target) (ring : ReplayRing) : Exec ε (Option UInt64) :=
  match ring.chunks.getLast? with
  | none => .ok none
  | some back => do return some (← back.endOffset t)

/-- The `debug_assert!` of `push`: successive chunks abut in logical bytes. -/
def debugAssertAbuts (b : Build) (ring : ReplayRing) (offset : UInt64) : Exec ε Unit :=
  -- A release build does not even compute the trailing edge.
  if b.debugAssertions then do
    let edge ← ring.highestEndOffset b.toTarget
    if edge = none ∨ edge = some offset then .ok () else .panic
  else .ok ()

/-- `push`: retain one emitted body, evicting the oldest ones beyond the capacity. -/
def push (b : Build) (ring : ReplayRing) (offset dataLen : UInt64) (last : Bool)
    (bodyBytes : Bytes) : Exec ε ReplayRing := do
  ring.debugAssertAbuts b offset
  let wireLen := UInt64.ofNat bodyBytes.length
  return evict ring.capacityBytes (ring.chunks ++ [⟨offset, dataLen, last, bodyBytes⟩])
    (ring.bytesHeld.saturatingAdd wireLen)

def clear (ring : ReplayRing) : ReplayRing := { ring with chunks := [], bytesHeld := 0 }

/-- `covers`: whether a resume at this offset can be served. -/
def covers (t : Target) (ring : ReplayRing) (offset : UInt64) : Exec ε Bool :=
  -- With nothing emitted only the start of the file is covered.
  if ring.chunks = [] then .ok (offset == 0)
  else if ring.chunks.any (·.offset == offset) then .ok true
  else do return (← ring.highestEndOffset t) == some offset

/-- `replay_from`: the retained chunks at or after an offset. -/
def replayFrom (ring : ReplayRing) (offset : UInt64) : List RingChunk :=
  ring.chunks.filter (offset ≤ ·.offset)

end ReplayRing

/-- A resume that was accepted and that the producer has not consumed. -/
structure PendingResume where
  resumeAtOffset : UInt64
  deriving DecidableEq, Repr

/-- Why `wait_for_credit` returned without granting credit. -/
inductive CreditError where
  | cancelled (reason : String)
  | timeout
  deriving DecidableEq, Repr

/-- What `wait_for_reconnect` returned. -/
inductive ReconnectOutcome where
  | resumeReady (pending : PendingResume)
  | cancelled (reason : String)
  | timeout
  deriving DecidableEq, Repr

/-- Why `request_resume` refused a resume. -/
inductive ResumeRejection where
  | wrongFileIndex (requested current : UInt32)
  | outOfWindow
  | cancelled
  deriving DecidableEq, Repr

/-- What the lock of a transfer control guards; `P` is the type of peer handles. -/
structure TransferControl (P : Type) where
  windowBytes : UInt64
  sentOffset : UInt64
  ackedOffset : UInt64
  currentFileIndex : UInt32
  cancelled : Option String
  lastChunkAt : Nat
  lastAckAt : Nat
  replay : ReplayRing
  peer : Option P
  pendingResume : Option PendingResume
  deriving DecidableEq, Repr

namespace TransferControl

variable {P ε : Type}

/-- `with_replay_capacity`: a control that has sent nothing, created at `now`. -/
def withReplayCapacity (windowBytes replayCapacityBytes : UInt64) (now : Nat) :
    TransferControl P where
  windowBytes := windowBytes
  sentOffset := 0
  ackedOffset := 0
  currentFileIndex := 0
  cancelled := none
  lastChunkAt := now
  lastAckAt := now
  replay := .new replayCapacityBytes
  peer := none
  pendingResume := none

/-- `set_peer`: install the peer the producer sends to. -/
def setPeer (control : TransferControl P) (peer : P) : TransferControl P :=
  { control with peer := some peer }

def pushReplay (b : Build) (control : TransferControl P) (offset dataLen : UInt64) (last : Bool)
    (bodyBytes : Bytes) : Exec ε (TransferControl P) := do
  return { control with replay := ← control.replay.push b offset dataLen last bodyBytes }

/-- `replay_chunks_from`: the chunks to send again after a resume. -/
def replayChunksFrom (control : TransferControl P) (offset : UInt64) : List RingChunk :=
  control.replay.replayFrom offset

/-- The checks of `request_resume`, in its order. -/
def admitResume (t : Target) (control : TransferControl P) (fileIndex : UInt32)
    (lastReceivedOffset : UInt64) : Exec ResumeRejection Unit :=
  if control.cancelled.isSome then .err .cancelled
  else if fileIndex ≠ control.currentFileIndex then
    .err (.wrongFileIndex fileIndex control.currentFileIndex)
  else do
    let covered ← control.replay.covers t lastReceivedOffset
    if covered then .ok () else .err .outOfWindow

def stageResume (control : TransferControl P) (newPeer : P) (lastReceivedOffset : UInt64)
    (now : Nat) : TransferControl P :=
  { control with
    peer := some newPeer
    pendingResume := some ⟨lastReceivedOffset⟩
    -- The watchdog must not fire right after a long disconnect.
    lastChunkAt := now
    lastAckAt := now
    -- The receiver confirmed everything before the resume point.
    ackedOffset :=
      if control.ackedOffset < lastReceivedOffset ∧ lastReceivedOffset ≤ control.sentOffset then
        lastReceivedOffset
      else control.ackedOffset }

/-- `request_resume`: check a resume, and on success swap the peer and stage the offset. -/
def requestResume (t : Target) (newPeer : P) (fileIndex : UInt32) (lastReceivedOffset : UInt64)
    (now : Nat) : Proc (TransferControl P) ResumeRejection UInt64 := fun control =>
  match control.admitResume t fileIndex lastReceivedOffset with
  | .ok () => (.ok lastReceivedOffset, control.stageResume newPeer lastReceivedOffset now)
  | .err rejection => (.err rejection, control)
  | .panic => (.panic, control)

/--
One turn of the loop of `wait_for_reconnect`, taken at `now`.

Without an outcome the loop sleeps on the condition variable and takes another turn later.
-/
def waitForReconnect (control : TransferControl P) (deadline now : Nat) :
    Option ReconnectOutcome × TransferControl P :=
  match control.cancelled, control.pendingResume with
  -- A cancel hides a staged resume.
  | some reason, _ => (some (.cancelled reason), control)
  | none, some pending => (some (.resumeReady pending), { control with pendingResume := none })
  | none, none => (if deadline ≤ now then some .timeout else none, control)

def inFlight (control : TransferControl P) : UInt64 :=
  control.sentOffset.saturatingSub control.ackedOffset

/--
One turn of the loop of `wait_for_credit`, taken at `now`.

Without a value the loop sleeps on the condition variable and takes another turn later.
-/
def waitForCredit (t : Target) (control : TransferControl P) (chunkLen : UInt64)
    (deadline now : Nat) : Exec CreditError (Option Unit) :=
  match control.cancelled with
  | some reason => .err (.cancelled reason)
  | none =>
    -- The sum is not even formed when nothing is in flight.
    if control.inFlight = 0 then .ok (some ())
    else do
      let wanted ← t.addU64 control.inFlight chunkLen
      if wanted ≤ control.windowBytes then .ok (some ())
      else if deadline ≤ now then .err .timeout
      else .ok none

def recordSent (control : TransferControl P) (newOffset : UInt64) (now : Nat) :
    TransferControl P :=
  { control with
    sentOffset := if control.sentOffset < newOffset then newOffset else control.sentOffset
    lastChunkAt := now }

/-- `record_ack`: raise the acknowledged offset, capped to what was recorded as sent. -/
def recordAck (control : TransferControl P) (fileIndex : UInt32) (receivedThroughOffset : UInt64)
    (now : Nat) : TransferControl P :=
  let capped := min receivedThroughOffset control.sentOffset
  { control with
    lastAckAt := now
    ackedOffset :=
      if fileIndex = control.currentFileIndex ∧ control.ackedOffset < capped then capped
      else control.ackedOffset }

def cancel (control : TransferControl P) (reason : String) : TransferControl P :=
  { control with cancelled := control.cancelled.or (some reason) }

/-- `advance_to_file`: start the next file with fresh offsets and an empty ring. -/
def advanceToFile (control : TransferControl P) (nextFileIndex : UInt32) (now : Nat) :
    TransferControl P :=
  { control with
    currentFileIndex := nextFileIndex
    sentOffset := 0
    ackedOffset := 0
    replay := control.replay.clear
    -- A staged resume was for the file that ends here.
    pendingResume := none
    lastChunkAt := now
    lastAckAt := now }

end TransferControl

/-- A call on the control, or one turn of a waiting call, with the time it reads. -/
inductive TransferOp (P : Type) where
  | setPeer (peer : P)
  | pushReplay (offset dataLen : UInt64) (last : Bool) (bodyBytes : Bytes)
  | waitForCredit (chunkLen : UInt64) (deadline now : Nat)
  | recordSent (newOffset : UInt64) (now : Nat)
  | recordAck (fileIndex : UInt32) (receivedThroughOffset : UInt64) (now : Nat)
  | requestResume (newPeer : P) (fileIndex : UInt32) (lastReceivedOffset : UInt64) (now : Nat)
  | waitForReconnect (deadline now : Nat)
  | advanceToFile (nextFileIndex : UInt32) (now : Nat)
  | cancel (reason : String)
  deriving DecidableEq, Repr

/-- What a call on the control, or one turn of a waiting call, ended with. -/
inductive TransferReply where
  | done
  | granted
  | noCredit (error : CreditError)
  | resumed (offset : UInt64)
  | rejected (rejection : ResumeRejection)
  | reconnect (outcome : ReconnectOutcome)
  | waits
  | panicked
  deriving DecidableEq, Repr

namespace TransferOp

variable {P : Type}

/-- The critical section of one call or turn, with its result read as a reply. -/
def critical (b : Build) : TransferOp P → Proc (TransferControl P) Empty TransferReply
  | .setPeer peer, control => (.ok .done, control.setPeer peer)
  | .pushReplay offset dataLen last bodyBytes, control =>
    match (control.pushReplay b offset dataLen last bodyBytes : Exec Empty _) with
    | .ok after => (.ok .done, after)
    -- The assertion fails before the ring is touched.
    | _ => (.panic, control)
  | .waitForCredit chunkLen deadline now, control =>
    match control.waitForCredit b.toTarget chunkLen deadline now with
    | .ok (some ()) => (.ok .granted, control)
    | .ok none => (.ok .waits, control)
    | .err error => (.ok (.noCredit error), control)
    | .panic => (.panic, control)
  | .recordSent newOffset now, control => (.ok .done, control.recordSent newOffset now)
  | .recordAck fileIndex receivedThroughOffset now, control =>
    (.ok .done, control.recordAck fileIndex receivedThroughOffset now)
  | .requestResume newPeer fileIndex lastReceivedOffset now, control =>
    match TransferControl.requestResume b.toTarget newPeer fileIndex lastReceivedOffset now control with
    | (.ok offset, after) => (.ok (.resumed offset), after)
    | (.err rejection, after) => (.ok (.rejected rejection), after)
    | (.panic, after) => (.panic, after)
  | .waitForReconnect deadline now, control =>
    match control.waitForReconnect deadline now with
    | (some outcome, after) => (.ok (.reconnect outcome), after)
    | (none, after) => (.ok .waits, after)
  | .advanceToFile nextFileIndex now, control =>
    (.ok .done, control.advanceToFile nextFileIndex now)
  | .cancel reason, control => (.ok .done, control.cancel reason)

def perform (b : Build) (op : TransferOp P) (mutex : Mutex (TransferControl P)) :
    TransferReply × Mutex (TransferControl P) :=
  match Mutex.withLock (op.critical b) mutex with
  | (.ok reply, after) => (reply, after)
  | (_, after) => (.panicked, after)

end TransferOp

structure TransferEntry (P : Type) where
  op : TransferOp P
  reply : TransferReply
  fileIndex : UInt32
  deriving DecidableEq, Repr

/-- A transfer: its control, and the calls performed on it so far. -/
structure Transfer (P : Type) where
  mutex : Mutex (TransferControl P)
  /-- The calls performed, newest first. -/
  log : List (TransferEntry P)
  deriving DecidableEq, Repr

namespace Transfer

variable {P : Type}

def start (windowBytes replayCapacityBytes : UInt64) (now : Nat) : Transfer P :=
  ⟨.new (.withReplayCapacity windowBytes replayCapacityBytes now), []⟩

def control (transfer : Transfer P) : TransferControl P := transfer.mutex.value

def step (b : Build) (transfer : Transfer P) (op : TransferOp P) : Transfer P :=
  let result := op.perform b transfer.mutex
  ⟨result.2, ⟨op, result.1, transfer.control.currentFileIndex⟩ :: transfer.log⟩

/-- Calls performed in some order, whichever threads make them. -/
def runs (b : Build) (transfer : Transfer P) (ops : List (TransferOp P)) : Transfer P :=
  ops.foldl (step b) transfer

end Transfer

end Repe
