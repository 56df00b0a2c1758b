import Repe.Lib.Transition
import Repe.Svs.Pull

/-! The pulls of the async clients: a loop of `next` calls feeds a bounded channel, which a blocking
task drains. -/

namespace Repe.Svs

def asyncPullDepth : Nat := 4

/-- Where `pull_loop_async` is. -/
inductive LoopState where
  | asking
  | sending (body : Bytes) (last : Bool)
  | returned (result : Except RepeError Unit)
  deriving DecidableEq, Repr

inductive TaskState (σ V : Type) where
  /-- In the consumer, with the rest of a chunk in its `ChannelReader`. -/
  | running (rest : Bytes) (state : σ)
  | returned (result : Exec RepeError V)

/-- The two halves of `run_pull`, and what they share. -/
structure AsyncPull {V : Type} (consumer : Consumer V) where
  receiver : Receiver
  queue : List Bytes
  loop : LoopState
  task : TaskState consumer.State V

inductive AsyncEvent where
  | ask
  | send
  | consume
  deriving DecidableEq, Repr

namespace AsyncPull

variable {V σ : Type} {consumer : Consumer V}

/-- Both halves as `run_pull` starts them. -/
def start (consumer : Consumer V) (receiver : Receiver) : AsyncPull consumer :=
  ⟨receiver, [], .asking, .running [] consumer.start⟩

/-- What the loop does with the reply to a `next`. -/
def afterNext : Except RepeError (Bytes × Bool) → LoopState
  -- The error of a `next` ends the loop.
  | .error error => .returned (.error error)
  | .ok (body, last) =>
    -- An empty chunk is not sent.
    if body ≠ [] then .sending body last
    else if last then .returned (.ok ())
    else .asking

/-- `pull_loop_async`, from a reply to the next `next`. -/
def send (pull : AsyncPull consumer) (body : Bytes) (last : Bool) : Option (AsyncPull consumer) :=
  match pull.task with
  -- The decoder is done and dropped the receiver; nothing is left to feed.
  | .returned _ => some { pull with loop := .returned (.ok ()) }
  | .running _ _ =>
    -- A full channel holds the loop up.
    if pull.queue.length < asyncPullDepth then
      some { pull with
        queue := pull.queue ++ [body]
        loop := if last then .returned (.ok ()) else .asking }
    else none

/-- `ChannelReader::read`, which waits for a chunk unless the sender is gone. -/
def read (pull : AsyncPull consumer) (rest : Bytes) (state : consumer.State) (size : Nat)
    (resume : Except IoError Bytes → consumer.State) : Option (AsyncPull consumer) :=
  -- Bytes of the chunk in hand.
  if rest ≠ [] then
    some { pull with task := .running (rest.drop size) (resume (.ok (rest.take size))) }
  else
    match pull.queue with
    -- One more round of the loop reads from the chunk.
    | chunk :: queue => some { pull with queue := queue, task := .running chunk state }
    | [] =>
      match pull.loop with
      | .returned _ => some { pull with task := .running [] (resume (.ok [])) }
      | _ => none

def step (pull : AsyncPull consumer) : AsyncEvent → Option (AsyncPull consumer)
  | .ask =>
    match pull.loop with
    | .asking =>
      let (got, link) := pull.receiver.link.next
      some { pull with receiver := { pull.receiver with link := link }, loop := afterNext got }
    | _ => none
  | .send =>
    match pull.loop with
    | .sending body last => pull.send body last
    | _ => none
  | .consume =>
    match pull.task with
    | .returned _ => none
    | .running rest state =>
      match consumer.act state with
      -- What the task has not read is lost with the receiver of the channel.
      | .done result => some { pull with task := .returned result, queue := [] }
      | .disk op resume =>
        let (got, disk) := pull.receiver.disk.perform op
        some { pull with
          receiver := { pull.receiver with disk := disk }, task := .running rest (resume got) }
      | .read size resume => pull.read rest state size resume

/--
What `run_pull` does with the results: release the stream, and put a failure of the pull first. A
value that is not handed on is dropped.
-/
def conclude (drops : V → List (DiskOp DiskPath)) (joinError : String) (receiver : Receiver)
    (pulled : Except RepeError Unit) (consumed : Exec RepeError V) : Ending V :=
  let receiver := { receiver with link := receiver.link.cancel "pull complete" }
  match pulled, consumed with
  -- `pull_res?` comes first, so the value of the task is dropped.
  | .error error, .ok value =>
    (.err error, { receiver with
      disk := (drops value).foldl (fun disk op => (disk.perform op).2) receiver.disk })
  | .error error, _ => (.err error, receiver)
  -- A task that unwound is a join error.
  | .ok (), .panic => (.err (.io ⟨.other, s!"svs consume task failed: {joinError}"⟩), receiver)
  | .ok (), consumed => (consumed, receiver)

/-- The end of `run_pull`, once both halves have returned. -/
def finish (drops : V → List (DiskOp DiskPath)) (joinError : String) (pull : AsyncPull consumer) :
    Option (Ending V) :=
  match pull.loop, pull.task with
  | .returned pulled, .returned consumed =>
    some (conclude drops joinError pull.receiver pulled consumed)
  | _, _ => none

end AsyncPull

namespace Receiver

variable {V σ : Type}

/-- `run_pull` along a schedule of its two halves. -/
def runPull (schedule : List AsyncEvent) (drops : V → List (DiskOp DiskPath)) (joinError : String)
    (consumer : Consumer V) (receiver : Receiver) : Option (Ending V) :=
  (Transition.run AsyncPull.step (AsyncPull.start consumer receiver) schedule).bind
    (AsyncPull.finish drops joinError)

def pullBeveAsync (schedule : List AsyncEvent) (drops : V → List (DiskOp DiskPath))
    (joinError : String) (zstd : Codec) (opened : Except RepeError OpenResponse)
    (decode : Consumer V) (receiver : Receiver) : Option (Ending V) :=
  match parseOpenResponse opened with
  | .error error => some (.err error, receiver)
  | .ok info =>
    match requireBeve info with
    | .error error =>
      some (.err error, { receiver with link := receiver.link.cancel "format incompatible" })
    | .ok () =>
      receiver.runPull schedule drops joinError (zstd.reading info.compression decode)

def pullConsumeAsync (schedule : List AsyncEvent) (drops : V → List (DiskOp DiskPath))
    (joinError : String) (zstd : Codec) (opened : Except RepeError OpenResponse)
    (consume : Consumer V) (receiver : Receiver) : Option (Ending V) :=
  match parseOpenResponse opened with
  | .error error => some (.err error, receiver)
  | .ok info => receiver.runPull schedule drops joinError (zstd.reading info.compression consume)

/-- An async pull of a file through a writer, with a check before it is put in place. -/
def pullToFileThroughAsync (schedule : List AsyncEvent) (joinError : String) (zstd : Codec)
    (opened : Except RepeError OpenResponse) (path : DiskPath) (writer : Writer σ) (start : σ)
    (verify : σ → Except RepeError Unit) (receiver : Receiver) : Option (Ending σ) :=
  -- A guard that is dropped removes its file.
  (pullConsumeAsync schedule (fun _ => [.remove (tempSibling path)]) joinError zstd opened
    (saveTo (tempSibling path) writer start) receiver).map (afterSave path verify)

/-- `pull_to_file_async`, which returns the count of the bytes written. -/
def pullToFileAsync (schedule : List AsyncEvent) (joinError : String) (zstd : Codec)
    (opened : Except RepeError OpenResponse) (path : DiskPath) (receiver : Receiver) :
    Option (Ending Nat) :=
  pullToFileThroughAsync schedule joinError zstd opened path fileWriter 0 (fun _ => .ok ()) receiver

def pullToFileVerifiedAsync {D : Type} (schedule : List AsyncEvent) (joinError : String)
    (zstd : Codec) (opened : Except RepeError OpenResponse) (path : DiskPath)
    (writeAll : D → Bytes → Except IoError D) (digest : D) (verify : D → Except RepeError Unit)
    (receiver : Receiver) : Option (Ending Unit) :=
  dropValue (pullToFileThroughAsync schedule joinError zstd opened path (teeWriter writeAll) digest
    verify receiver)

def pullToFileTrailerVerifiedAsync {D : Type} (schedule : List AsyncEvent) (joinError : String)
    (zstd : Codec) (opened : Except RepeError OpenResponse) (path : DiskPath) (trailerLen : Nat)
    (writeAll : D → Bytes → Except IoError D) (digest : D)
    (verify : D → Bytes → Except RepeError Unit) (receiver : Receiver) : Option (Ending Unit) :=
  dropValue (pullToFileThroughAsync schedule joinError zstd opened path
    (trailerWriter writeAll trailerLen) ⟨[], digest⟩
    (fun state => verify state.digest state.hold) receiver)

end Receiver

end Repe.Svs
