import Repe.Svs.AsyncCommit

/-! The pulls to a file return, and each of them is atomic. -/

namespace Repe.Svs

/--
A measure of what a consumer has still to do, by the number of reads that are to come: every
operation uses some of it up, and what follows the end of the stream does not depend on them.
-/
structure Consumer.Drops {V : Type} (consumer : Consumer V)
    (cost : consumer.State → Nat → Nat) : Prop where
  disk : ∀ {state op resume}, consumer.act state = .disk op resume →
    ∀ got count, cost (resume got) count < cost state count
  size : ∀ {state size resume}, consumer.act state = .read size resume → size = copyBuffer
  bytes : ∀ {state size resume}, consumer.act state = .read size resume →
    ∀ cut count, cut ≠ [] → cost (resume (.ok cut)) count < cost state (count + 1)
  eof : ∀ {state size resume}, consumer.act state = .read size resume →
    ∀ count other, cost (resume (.ok [])) other < cost state count
  broken : ∀ {state size resume}, consumer.act state = .read size resume →
    ∀ error count other, cost (resume (.error error)) other < cost state count

namespace CopyPhase

variable {σ : Type} {writer : Writer σ} {state : σ} {pieces : List Bytes}

def weight (count : Nat) : CopyPhase σ → Nat
  -- After the last bytes there are five steps at most: the end, flush, sync, removal and return.
  | .reading _ => 3 * count + 5
  -- One read is passed on in two pieces at most.
  | .writing _ pieces _ => 3 * count + 6 + pieces.length
  | .copied _ => 4
  | .failed _ => 2

theorem proceed_weight (count : Nat) :
    (proceed pieces state).weight count = 3 * count + 5 + pieces.length := by
  -- The pieces of one read are what is left before the next one.
  cases pieces with
  | nil => rfl
  | cons piece pieces =>
    simp only [proceed, weight, List.length_cons]
    omega

theorem afterRead_weight {cut : Bytes} (count : Nat) (filled : cut ≠ []) :
    (afterRead writer state (.ok cut)).weight count < (reading state).weight (count + 1) := by
  cases cut with
  | nil => exact absurd rfl filled
  | cons byte bytes =>
    -- One read is passed on in two pieces at most, which cost less than the read saves.
    have short := writer.split_short state (byte :: bytes)
    rw [afterRead, proceed_weight, weight]
    · omega
    · simp

theorem afterRead_eof_weight (writer : Writer σ) (state : σ) (count other : Nat) :
    (afterRead writer state (.ok [])).weight other < (reading state).weight count := by
  simp only [afterRead, weight]
  omega

theorem afterRead_error_weight (writer : Writer σ) (state : σ) (error : IoError)
    (count other : Nat) :
    (afterRead writer state (.error error)).weight other < (reading state).weight count := by
  simp only [afterRead, weight]
  omega

theorem afterWrite_weight {piece : Bytes} (got : Except IoError Unit) (count : Nat) :
    (afterWrite writer state piece pieces got).weight count <
      (writing piece pieces state).weight count := by
  -- One piece fewer, or the end of the copy.
  cases got with
  | error error =>
    simp only [afterWrite, weight]
    omega
  | ok _ =>
    simp only [afterWrite]
    cases writer.digest state piece with
    | error error =>
      simp only [weight]
      omega
    | ok next =>
      rw [proceed_weight, weight]
      omega

end CopyPhase

def SavePhase.weight {σ : Type} (count : Nat) : SavePhase σ → Nat
  -- One step more than the copy it starts.
  | .creating => 3 * count + 6
  | .copying copy => copy.weight count
  | .syncing _ => 3
  | .dropping _ => 2
  | .ended _ => 1

section Weights

variable {σ : Type} (temp : DiskPath) (writer : Writer σ) (start : σ)

/-- `io::copy` gets on with every step. -/
theorem copyTo_drops :
    (copyTo temp writer start).Drops fun phase count => CopyPhase.weight count phase := by
  -- Only one phase reads, and only one writes.
  have reads : ∀ {phase : CopyPhase σ} {size : Nat} {resume : Except IoError Bytes → CopyPhase σ},
      (copyTo temp writer start).act phase = .read size resume →
        size = copyBuffer ∧ ∃ state, phase = .reading state ∧
          resume = CopyPhase.afterRead writer state := by
    intro phase size resume acts
    cases phase <;> cases acts
    exact ⟨rfl, _, rfl, rfl⟩
  refine ⟨?_, fun acts => (reads acts).1, ?_, ?_, ?_⟩
  · intro phase op resume acts got count
    cases phase <;> cases acts
    exact CopyPhase.afterWrite_weight got count
  · intro phase size resume acts cut count filled
    obtain ⟨_, state, rfl, rfl⟩ := reads acts
    exact CopyPhase.afterRead_weight count filled
  · intro phase size resume acts count other
    obtain ⟨_, state, rfl, rfl⟩ := reads acts
    exact CopyPhase.afterRead_eof_weight writer state count other
  · intro phase size resume acts error count other
    obtain ⟨_, state, rfl, rfl⟩ := reads acts
    exact CopyPhase.afterRead_error_weight writer state error count other

/-- An operation of the closure that saves a stream gets it on. -/
theorem saveTo_weight {phase : SavePhase σ} {op : DiskOp DiskPath}
    {resume : Except IoError Unit → SavePhase σ}
    (acts : (saveTo temp writer start).act phase = .disk op resume) (got : Except IoError Unit)
    (count : Nat) : (resume got).weight count < phase.weight count := by
  -- The weights go down along the order of the phases.
  cases phase with
  | creating =>
    cases acts
    cases got <;> simp [SavePhase.afterCreate, SavePhase.weight, CopyPhase.weight]
  | copying copy =>
    cases copy with
    | reading state => cases acts
    | writing piece pieces state =>
      cases acts
      exact CopyPhase.afterWrite_weight got count
    | failed error =>
      cases acts
      simp [SavePhase.weight, CopyPhase.weight]
    | copied state =>
      simp only [saveTo] at acts
      split at acts <;> cases acts
      · simp [SavePhase.weight, CopyPhase.weight]
      · cases got <;> simp [SavePhase.afterFlush, SavePhase.weight, CopyPhase.weight]
  | syncing state =>
    cases acts
    cases got <;> simp [SavePhase.afterSync, SavePhase.weight]
  | dropping error =>
    cases acts
    simp [SavePhase.weight]
  | ended result => cases result <;> cases acts

theorem saveTo_drops :
    (saveTo temp writer start).Drops fun phase count => SavePhase.weight count phase := by
  refine ⟨saveTo_weight temp writer start, fun acts => (saveTo_reads acts).1, ?_, ?_, ?_⟩
  · -- A read is one of the copy inside.
    intro phase size resume acts cut count filled
    obtain ⟨_, state, rfl, rfl⟩ := saveTo_reads acts
    exact CopyPhase.afterRead_weight count filled
  · intro phase size resume acts count other
    obtain ⟨_, state, rfl, rfl⟩ := saveTo_reads acts
    exact CopyPhase.afterRead_eof_weight writer state count other
  · intro phase size resume acts error count other
    obtain ⟨_, state, rfl, rfl⟩ := saveTo_reads acts
    exact CopyPhase.afterRead_error_weight writer state error count other

end Weights

section Returns

variable {V : Type} {consumer : Consumer V} {cost : consumer.State → Nat → Nat}

/-- A blocking consumer that gets on with every step returns. -/
theorem Consumer.Drops.run_returns (drops : consumer.Drops cost) {fuel : Nat}
    {state : consumer.State} {reader : ChunkReader} {disk : LocalDisk} (steady : reader.Steady)
    (enough : cost state reader.ahead.1.length < fuel) :
    ∃ ended, consumer.run fuel state reader disk = some ended := by
  -- Every step takes one unit of fuel and at least one of the cost.
  induction fuel generalizing state reader disk with
  | zero => omega
  | succ fuel ih =>
    unfold Consumer.run
    split
    · exact ⟨_, rfl⟩
    · next size resume acts =>
      obtain rfl := drops.size acts
      have finds := reader.read_finds steady
      generalize reader.read copyBuffer = found at finds
      generalize reader.ahead = future at finds enough
      -- Only a read that gets bytes leaves reads that are still counted.
      cases finds with
      | @bytes cut rest after next filled steady left =>
        have less := drops.bytes acts cut rest.length filled
        rw [next, List.length_cons] at enough
        have goes : cost (resume (.ok cut)) after.ahead.1.length < fuel := by
          rw [left]
          exact Nat.lt_of_lt_of_le less (Nat.le_of_lt_succ enough)
        exact ih steady goes
      | @eof after _ _ steady _ _ =>
        have less := drops.eof acts future.1.length after.ahead.1.length
        have goes : cost (resume (.ok [])) after.ahead.1.length < fuel := by omega
        exact ih steady goes
      | @broken error after _ _ steady =>
        have less := drops.broken acts error future.1.length after.ahead.1.length
        have goes : cost (resume (.error error)) after.ahead.1.length < fuel := by omega
        exact ih steady goes
    · next op resume acts =>
      have less := drops.disk acts (disk.perform op).1 reader.ahead.1.length
      have goes : cost (resume (disk.perform op).1) reader.ahead.1.length < fuel := by omega
      exact ih steady goes

theorem Consumer.Drops.returns (drops : consumer.Drops cost) (link : Link) (disk : LocalDisk) :
    ∃ fuel ended, consumer.run fuel consumer.start (.new link) disk = some ended :=
  ⟨_, drops.run_returns rfl (Nat.lt_succ_self _)⟩

/-- What `pull_loop_async` has still to do. -/
def LoopState.weight (replies : Nat) : LoopState → Nat
  -- A reply is asked for, sent and received from the channel.
  | .asking => 4 * replies + 1
  | .sending _ _ => 4 * replies + 3
  | .returned _ => 0

def TaskState.weight (cost : consumer.State → Nat → Nat) (queue : List Bytes)
    (left : List Bytes) : TaskState consumer.State V → Nat
  | .running rest state => cost state (cuts rest ++ queue.flatMap cuts ++ left).length + 1
  | .returned _ => 0

def AsyncPull.weight (cost : consumer.State → Nat → Nat) (pull : AsyncPull consumer) : Nat :=
  pull.loop.weight pull.receiver.link.replies.length + pull.queue.length +
    pull.task.weight cost pull.queue (pull.loop.ahead pull.receiver.link.replies)

/-- The loop uses up a reply. -/
theorem afterNext_weight (link : Link) :
    (AsyncPull.afterNext link.next.1).weight link.next.2.replies.length <
      LoopState.asking.weight link.replies.length := by
  -- A reply is used up, or the loop returns.
  unfold Link.next
  cases link.replies with
  | nil => simp [AsyncPull.afterNext, LoopState.weight]
  | cons reply later =>
    cases reply with
    | error code message => simp [AsyncPull.afterNext, LoopState.weight]
    | chunk query body =>
      simp only [AsyncPull.afterNext]
      split
      · simp only [LoopState.weight, List.length_cons]
        omega
      · split
        · simp [LoopState.weight]
        · simp [LoopState.weight]

variable {pull after : AsyncPull consumer}

theorem TaskState.weight_move (cost : consumer.State → Nat → Nat)
    {queue queue' left left' : List Bytes} (task : TaskState consumer.State V)
    (same : queue'.flatMap cuts ++ left' = queue.flatMap cuts ++ left) :
    task.weight cost queue' left' = task.weight cost queue left := by
  -- The chunks only move from one list to the other.
  cases task with
  | returned result => rfl
  | running rest state => rw [weight, weight, List.append_assoc, same, ← List.append_assoc]

/-- The reply to a `next` gets an async pull on. -/
theorem ask_drops (taken : pull.step .ask = some after) : after.weight cost < pull.weight cost := by
  simp only [AsyncPull.step] at taken
  split at taken
  · next asking =>
    cases taken
    -- The loop has less to do, and the task as much as before.
    have less := afterNext_weight pull.receiver.link
    have same := (ahead_afterNext pull.receiver.link).1
    have task := pull.task.weight_move cost
      (congrArg (pull.queue.flatMap cuts ++ ·) same)
    have asks : LoopState.asking.ahead pull.receiver.link.replies =
        (ahead pull.receiver.link.replies).1 := rfl
    simp only [AsyncPull.weight, asking, task, asks]
    omega
  · simp at taken

/-- So does a chunk that is put into the channel. -/
theorem send_drops (taken : pull.step .send = some after) :
    after.weight cost < pull.weight cost := by
  simp only [AsyncPull.step] at taken
  split at taken
  · next body last sending =>
    unfold AsyncPull.send at taken
    split at taken
    · next result returned =>
      cases taken
      -- The loop finds the channel closed, and returns.
      simp [AsyncPull.weight, sending, returned, LoopState.weight, TaskState.weight]
    · split at taken
      · cases taken
        have task := pull.task.weight_move cost
          (ahead_sent pull.queue body last pull.receiver.link.replies)
        simp only [AsyncPull.weight, sending, task, List.length_append, List.length_singleton]
        -- The chunk costs one step in the channel, and the send saved two.
        cases last <;> simp only [LoopState.weight, if_true, Bool.false_eq_true, if_false] <;> omega
      · simp at taken
  · simp at taken

/-- And what the task does. -/
theorem consume_drops (drops : consumer.Drops cost) (taken : pull.step .consume = some after) :
    after.weight cost < pull.weight cost := by
  simp only [AsyncPull.step] at taken
  split at taken
  · simp at taken
  · next rest state running =>
    split at taken
    · next result acts =>
      cases taken
      simp only [AsyncPull.weight, running, TaskState.weight, List.length_nil]
      omega
    · next op resume acts =>
      cases taken
      have less := drops.disk acts (pull.receiver.disk.perform op).1
        (cuts rest ++ pull.queue.flatMap cuts ++
          pull.loop.ahead pull.receiver.link.replies).length
      simp only [AsyncPull.weight, running, TaskState.weight]
      omega
    · next size resume acts =>
      obtain rfl := drops.size acts
      unfold AsyncPull.read at taken
      split at taken
      · next filled =>
        cases taken
        have less := drops.bytes acts (rest.take copyBuffer) (cuts (rest.drop copyBuffer) ++
          pull.queue.flatMap cuts ++ pull.loop.ahead pull.receiver.link.replies).length
          (take_ne_nil filled)
        simp only [AsyncPull.weight, running, TaskState.weight, cuts_cons filled, List.cons_append,
          List.length_cons]
        omega
      · next empty =>
        have empty : rest = [] := by simpa using empty
        split at taken
        · next chunk queue channel =>
          cases taken
          -- A chunk that is received leaves the channel shorter by one.
          simp [AsyncPull.weight, running, TaskState.weight, channel, empty]
        · next channel =>
          split at taken
          · next result returned =>
            cases taken
            simp only [AsyncPull.weight, running, TaskState.weight]
            have less := drops.eof acts
              (cuts rest ++ pull.queue.flatMap cuts ++
                pull.loop.ahead pull.receiver.link.replies).length
              (cuts [] ++ pull.queue.flatMap cuts ++
                pull.loop.ahead pull.receiver.link.replies).length
            omega
          · simp at taken

theorem step_drops (drops : consumer.Drops cost) (event : AsyncEvent)
    (taken : pull.step event = some after) : after.weight cost < pull.weight cost := by
  -- One lemma for each kind of step.
  cases event with
  | ask => exact ask_drops taken
  | send => exact send_drops taken
  | consume => exact consume_drops drops taken

/-- An async pull can go on until both of its halves have returned. -/
theorem finished_or_enabled (drops : V → List (DiskOp DiskPath)) (joinError : String)
    (pull : AsyncPull consumer) :
    (∃ ending, pull.finish drops joinError = some ending) ∨
      ∃ event after, pull.step event = some after := by
  -- A task that runs is only held up by an empty channel whose sender is alive.
  have consumes : ∀ rest state, pull.task = .running rest state →
      (pull.queue ≠ [] ∨ ∃ result, pull.loop = .returned result) →
        ∃ after, pull.step .consume = some after := by
    intro rest state running free
    simp only [AsyncPull.step, running]
    split
    · exact ⟨_, rfl⟩
    · exact ⟨_, rfl⟩
    · unfold AsyncPull.read
      split
      · exact ⟨_, rfl⟩
      · cases channel : pull.queue with
        | cons chunk queue => exact ⟨_, rfl⟩
        | nil =>
          rcases free with filled | ⟨result, returned⟩
          · exact absurd channel filled
          · simp only [returned]
            exact ⟨_, rfl⟩
  cases loop : pull.loop with
  | asking =>
    refine .inr ⟨.ask, ?_⟩
    simp [AsyncPull.step, loop]
  | sending body last =>
    cases task : pull.task with
    | returned result =>
      refine .inr ⟨.send, ?_⟩
      simp [AsyncPull.step, loop, AsyncPull.send, task]
    | running rest state =>
      by_cases room : pull.queue.length < asyncPullDepth
      · refine .inr ⟨.send, ?_⟩
        simp [AsyncPull.step, loop, AsyncPull.send, task, room]
      · have filled : pull.queue ≠ [] := by
          intro empty
          simp [empty, asyncPullDepth] at room
        exact .inr ⟨.consume, consumes rest state task (.inl filled)⟩
  | returned pulled =>
    cases task : pull.task with
    | returned result =>
      refine .inl ?_
      simp [AsyncPull.finish, loop, task]
    | running rest state => exact .inr ⟨.consume, consumes rest state task (.inr ⟨pulled, loop⟩)⟩

/-- Every schedule of `run_pull` is bounded, and leads to an end. -/
theorem Consumer.Drops.runPull_returns (gets_on : consumer.Drops cost)
    (drops : V → List (DiskOp DiskPath)) (joinError : String) (receiver : Receiver) :
    ∃ bound, ∀ schedule pull,
      Transition.run AsyncPull.step (AsyncPull.start consumer receiver) schedule = some pull →
        schedule.length ≤ bound ∧
          ∃ later ending, receiver.runPull (schedule ++ later) drops joinError consumer =
            some ending := by
  -- The bound is what the pull has to do at first.
  refine ⟨(AsyncPull.start consumer receiver).weight cost, ?_⟩
  intro schedule pull ran
  constructor
  · have bound := Transition.length_le_of_run (AsyncPull.weight cost)
      (fun event _ _ _ => step_drops gets_on event) ran
    omega
  · obtain ⟨later, after, goes, ending, ends⟩ := Transition.finishes_of_measure
      (AsyncPull.weight cost) (fun _ event _ => step_drops gets_on event)
      (finished_or_enabled drops joinError) pull
    refine ⟨later, ending, ?_⟩
    rw [Receiver.runPull, Transition.run_append later ran, goes, Option.bind_some, ends]

end Returns

/-- A blocking call returns, and however it does, a guarantee is kept. -/
structure Returns {V : Type} (call : Nat → Option (Ending V)) (guarantee : Ending V → Prop) :
    Prop where
  returns : ∃ fuel ending, call fuel = some ending
  kept : ∀ fuel ending, call fuel = some ending → guarantee ending

/-- An async call returns however its two halves take turns, and a guarantee is kept. -/
structure ReturnsAsync {V W : Type} (consumer : Consumer W) (receiver : Receiver)
    (call : List AsyncEvent → Option (Ending V)) (guarantee : Ending V → Prop) : Prop where
  /-- No schedule goes on for ever, and every one leads to an end. -/
  returns : ∃ bound, ∀ schedule pull,
    Transition.run AsyncPull.step (AsyncPull.start consumer receiver) schedule = some pull →
      schedule.length ≤ bound ∧ ∃ later ending, call (schedule ++ later) = some ending
  kept : ∀ schedule ending, call schedule = some ending → guarantee ending

/-- The guarantee of a pull that returns a value when it put the file in place. -/
def Guarantee {σ V : Type} (path : DiskPath) (writer : Writer σ) (start : σ)
    (verify : σ → Except RepeError Unit) (before : Receiver) (ending : Ending V) : Prop :=
  Atomic path writer start verify before (∃ value, ending.1 = .ok value) ending.2.disk

/-- A consumer on a stream returns, and its result and the disk it leaves meet a condition. -/
structure Consumer.Yields {V : Type} (consumer : Consumer V) (link : Link) (disk : LocalDisk)
    (condition : Exec RepeError V → LocalDisk → Prop) : Prop where
  returns : ∃ fuel ended, consumer.run fuel consumer.start (.new link) disk = some ended
  kept : ∀ {fuel result reader left},
    consumer.run fuel consumer.start (.new link) disk = some (result, reader, left) →
      condition result left

def Consumer.YieldsAsync {V : Type} (consumer : Consumer V) (link : Link) (disk : LocalDisk)
    (drops : V → List (DiskOp DiskPath)) (joinError : String)
    (condition : Exec RepeError V → LocalDisk → Prop) : Prop :=
  ReturnsAsync consumer ⟨link, disk⟩
    (fun schedule => Receiver.runPull schedule drops joinError consumer ⟨link, disk⟩)
    fun ending => condition ending.1 ending.2.disk

/--
The decompressor is the inverse of the encoder on a stream: what a consumer comes to on the content, it
comes to through the decompressor as well.

How far the stream is read is left open, so the decompressor may stop before the last chunk.
-/
structure Codec.Inverts (zstd : Codec) (link content : Link) : Prop where
  runs : ∀ {V : Type} {consumer : Consumer V} {disk condition},
    consumer.Yields content disk condition → (zstd.decoding consumer).Yields link disk condition
  tasks : ∀ {V : Type} {consumer : Consumer V} {disk drops joinError condition},
    consumer.YieldsAsync content disk drops joinError condition →
      (zstd.decoding consumer).YieldsAsync link disk drops joinError condition

/-- The content of a stream: its chunks, or what they decompress to. -/
inductive Codec.Carries (zstd : Codec) (link : Link) : Compression → Link → Prop
  | plain : zstd.Carries link .none link
  | packed {content : Link} (inverts : zstd.Inverts link content) : zstd.Carries link .zstd content

section Guarantees

variable {σ V : Type} {path : DiskPath} {writer : Writer σ} {start : σ}
  {verify : σ → Except RepeError Unit} {before : Receiver}
  {zstd : Codec} {link content : Link} {compression : Compression} {disk : LocalDisk}

theorem Codec.Carries.runs {consumer : Consumer V} {condition : Exec RepeError V → LocalDisk → Prop}
    (carries : zstd.Carries link compression content)
    (yields : consumer.Yields content disk condition) :
    (zstd.reading compression consumer).Yields link disk condition := by
  cases carries with
  | plain => exact yields
  | packed inverts => exact inverts.runs yields

theorem Codec.Carries.tasks {consumer : Consumer V} {drops : V → List (DiskOp DiskPath)}
    {joinError : String} {condition : Exec RepeError V → LocalDisk → Prop}
    (carries : zstd.Carries link compression content)
    (yields : consumer.YieldsAsync content disk drops joinError condition) :
    (zstd.reading compression consumer).YieldsAsync link disk drops joinError condition := by
  cases carries with
  | plain => exact yields
  | packed inverts => exact inverts.tasks yields

/-- The chunks are copied as the content would be; only a decompressor may miss the last one. -/
theorem Codec.Carries.copies {fuel : Nat} {filled : Exec RepeError Nat} {reader : ChunkReader}
    {left : LocalDisk} (carries : zstd.Carries link compression content)
    (ran : (zstd.reading compression (Receiver.copyChunks path)).run fuel
      (zstd.reading compression (Receiver.copyChunks path)).start (.new link) disk =
        some (filled, reader, left)) :
    ∃ fuel other, (Receiver.copyChunks path).run fuel (.reading 0) (.new content) disk =
        some (filled, other, left) ∧
      (other.lastSeen = true → reader.lastSeen = true ∨ compression = .zstd) := by
  cases carries with
  | plain => exact ⟨fuel, reader, ran, .inl⟩
  | packed inverts =>
    -- The condition is that the content is copied like this.
    have yields : (Receiver.copyChunks path).Yields content disk fun filled left => ∃ fuel other,
        (Receiver.copyChunks path).run fuel (.reading 0) (.new content) disk =
          some (filled, other, left) :=
      ⟨(copyTo_drops _ _ _).returns content disk, fun ran => ⟨_, _, ran⟩⟩
    obtain ⟨fuel, other, copied⟩ := (inverts.runs yields).kept ran
    exact ⟨fuel, other, copied, fun _ => .inr rfl⟩

theorem Guarantee.dropValue {call : Option (Ending V)} {ending : Ending Unit}
    (kept : ∀ ending, call = some ending → Guarantee path writer start verify before ending)
    (ended : Receiver.dropValue call = some ending) :
    Guarantee path writer start verify before ending := by
  obtain ⟨⟨result, receiver⟩, called, rfl⟩ := Option.map_eq_some_iff.mp ended
  refine (kept _ called).congr ?_
  cases result <;> simp

/-- `pull_to_file` returns and is atomic; a stream that was not read to its last chunk is dropped. -/
theorem pullToFile_returns (carries : zstd.Carries link compression content) (id : UInt64)
    (format : UInt16) (decode : Bytes → Except RepeError Unit) (fresh : disk.failed = []) :
    Returns (fun fuel => Receiver.pullToFile fuel zstd (openedStream compression id format) path decode
      ⟨link, disk⟩) fun ending => Guarantee path fileWriter 0 (fun _ => .ok ()) ⟨content, disk⟩ ending ∨
        compression = .zstd ∧ Truncated path ⟨content, disk⟩ ending := by
  simp only [Receiver.pullToFile, Receiver.pullStream, parse_openedStream, checkOutput]
  constructor
  · simp only [Receiver.dropValue, Receiver.withoutValue, Receiver.writeFile]
    -- Without a temporary file the pull returns at once.
    rcases disk.perform (.create (tempSibling path)) with ⟨_ | _, disk⟩
    · exact ⟨0, _, rfl⟩
    · have yields : (Receiver.copyChunks path).Yields content disk fun _ _ => True :=
        ⟨(copyTo_drops _ _ _).returns content disk, fun _ => trivial⟩
      obtain ⟨fuel, ended, ran⟩ := (carries.runs yields).returns
      exact ⟨fuel, _, by simp only [ran, Option.map_some]; rfl⟩
  · intro fuel ending ended
    obtain ⟨⟨result, receiver⟩, pulled, rfl⟩ := Option.map_eq_some_iff.mp ended
    obtain ⟨⟨wrote, receiver'⟩, written, same⟩ := Option.map_eq_some_iff.mp pulled
    cases same
    rcases writeFile_atomic ⟨content, disk⟩ _ fresh carries.copies written with
      atomic | ⟨packed, refused, kept, cleared⟩
    · refine .inl (atomic.congr ?_)
      cases wrote <;> simp
    · cases refused
      exact .inr ⟨packed, rfl, kept, cleared⟩

/-- A blocking pull through a writer returns and is atomic. -/
theorem pullToFileThrough_returns (carries : zstd.Carries link compression content) (id : UInt64)
    (format : UInt16) (nothing : writer.held start = []) (fresh : disk.failed = []) :
    Returns (fun fuel => Receiver.dropValue (Receiver.pullToFileThrough fuel zstd
      (openedStream compression id format) path writer start verify ⟨link, disk⟩))
      (Guarantee path writer start verify ⟨content, disk⟩) := by
  have yields : (saveTo (tempSibling path) writer start).Yields content disk fun result left =>
      ∀ other, Guarantee path writer start verify ⟨content, disk⟩
        (Receiver.afterSave path verify (result, ⟨other, left⟩)) :=
    ⟨(saveTo_drops _ _ _).returns content disk, fun ran => saveTo_atomic nothing fresh ran⟩
  obtain ⟨⟨fuel, ended, ran⟩, kept⟩ := carries.runs yields
  simp only [Receiver.pullToFileThrough, Receiver.pullConsume, parse_openedStream]
  constructor
  · exact ⟨fuel, _, by simp only [Receiver.consumeAndCancel, ran, Option.map_some]; rfl⟩
  · refine fun fuel ending => Guarantee.dropValue fun ending ended => ?_
    obtain ⟨⟨saved, receiver⟩, consumed, rfl⟩ := Option.map_eq_some_iff.mp ended
    obtain ⟨⟨result, reader, disk⟩, ran, same⟩ := Option.map_eq_some_iff.mp consumed
    -- The stream is released on the way, which the file does not notice.
    cases result <;> cases same <;> exact kept ran _

/-- An async pull through a writer does so however its halves take turns. -/
theorem pullToFileThroughAsync_returns (carries : zstd.Carries link compression content)
    (joinError : String) (id : UInt64) (format : UInt16) (nothing : writer.held start = [])
    (fresh : disk.failed = []) :
    ReturnsAsync (zstd.reading compression (saveTo (tempSibling path) writer start)) ⟨link, disk⟩
      (fun schedule => Receiver.pullToFileThroughAsync schedule joinError zstd
        (openedStream compression id format) path writer start verify ⟨link, disk⟩)
      (Guarantee path writer start verify ⟨content, disk⟩) := by
  have yields : (saveTo (tempSibling path) writer start).YieldsAsync content disk
      (fun _ => [.remove (tempSibling path)]) joinError fun result left =>
        ∀ other, Guarantee path writer start verify ⟨content, disk⟩
          (Receiver.afterSave path verify (result, ⟨other, left⟩)) := by
    refine ⟨(saveTo_drops _ _ _).runPull_returns _ _ _, fun schedule ending ended other => ?_⟩
    -- What is done with the file does not depend on the connection.
    have atomic : Guarantee path writer start verify ⟨content, disk⟩
        (Receiver.afterSave path verify ending) := runPull_atomic nothing fresh ended
    obtain ⟨result, receiver⟩ := ending
    cases result <;> exact atomic
  obtain ⟨⟨bound, bounded⟩, kept⟩ := carries.tasks yields
  simp only [Receiver.pullToFileThroughAsync, Receiver.pullConsumeAsync, parse_openedStream]
  refine ⟨⟨bound, fun schedule pull ran => ?_⟩, fun schedule ending ended => ?_⟩
  · obtain ⟨short, later, ending, ended⟩ := bounded schedule pull ran
    exact ⟨short, later, by simp [ended]⟩
  · obtain ⟨⟨result, receiver⟩, ran, rfl⟩ := Option.map_eq_some_iff.mp ended
    exact kept schedule _ ran receiver.link

theorem ReturnsAsync.dropValue {W : Type} {consumer : Consumer W} {receiver : Receiver}
    {call : List AsyncEvent → Option (Ending V)}
    (returns : ReturnsAsync consumer receiver call (Guarantee path writer start verify before)) :
    ReturnsAsync consumer receiver (fun schedule => Receiver.dropValue (call schedule))
      (Guarantee path writer start verify before) := by
  -- The schedule is that of the call inside.
  obtain ⟨bound, bounded⟩ := returns.returns
  refine ⟨⟨bound, ?_⟩, fun schedule _ => Guarantee.dropValue (returns.kept schedule)⟩
  intro schedule pull ran
  obtain ⟨short, later, ending, ended⟩ := bounded schedule pull ran
  refine ⟨short, later, ?_⟩
  simp [Receiver.dropValue, ended]

end Guarantees

/--
Each pull to a file, for all replies of the server and all faults of the disk, and for the async ones in
every interleaving, returns, and the file is then replaced by the complete content, or is what it was.

The content is the chunks, or what they decompress to if the decompressor is the inverse of the encoder.
Where that stops before the last chunk, `pull_to_file` fails and the file is what it was.
-/
theorem Receiver.pulls_to_file_are_atomic {D : Type} (zstd : Codec) (id : UInt64) (format : UInt16)
    (path : DiskPath) (decode : Bytes → Except RepeError Unit) (joinError : String) (trailerLen : Nat)
    (writeAll : D → Bytes → Except IoError D) (digest : D) (verify : D → Except RepeError Unit)
    (verifyTrailer : D → Bytes → Except RepeError Unit) {link content : Link}
    {compression : Compression} (carries : zstd.Carries link compression content)
    (files : DiskPath → Option Bytes) (faults : List (Option (IoError × Nat))) :
    let before : Receiver := ⟨link, files, faults, []⟩
    let logical : Receiver := ⟨content, files, faults, []⟩
    let opened := openedStream compression id format
    let trailer := trailerWriter writeAll trailerLen
    let verdict := fun state : TrailerHold D => verifyTrailer state.digest state.hold
    Returns (fun fuel => pullToFile fuel zstd opened path decode before)
        (fun ending => Guarantee path fileWriter 0 (fun _ => .ok ()) logical ending ∨
          compression = .zstd ∧ Truncated path logical ending) ∧
      Returns (fun fuel => pullToFileTrailerVerified fuel zstd opened path trailerLen writeAll digest
          verifyTrailer before)
        (Guarantee path trailer ⟨[], digest⟩ verdict logical) ∧
      ReturnsAsync (zstd.reading compression (saveTo (tempSibling path) fileWriter 0)) before
        (fun schedule => pullToFileAsync schedule joinError zstd opened path before)
        (Guarantee path fileWriter 0 (fun _ => .ok ()) logical) ∧
      ReturnsAsync (zstd.reading compression (saveTo (tempSibling path) (teeWriter writeAll) digest))
        before
        (fun schedule => pullToFileVerifiedAsync schedule joinError zstd opened path writeAll digest
          verify before)
        (Guarantee path (teeWriter writeAll) digest verify logical) ∧
      ReturnsAsync (zstd.reading compression (saveTo (tempSibling path) trailer ⟨[], digest⟩)) before
        (fun schedule => pullToFileTrailerVerifiedAsync schedule joinError zstd opened path trailerLen
          writeAll digest verifyTrailer before)
        (Guarantee path trailer ⟨[], digest⟩ verdict logical) := by
  intro before logical opened trailer verdict
  -- The async pulls and the trailer-verified one are the same pull, through three writers.
  exact ⟨pullToFile_returns carries id format decode rfl,
    pullToFileThrough_returns carries id format rfl rfl,
    pullToFileThroughAsync_returns carries joinError id format rfl rfl,
    (pullToFileThroughAsync_returns carries joinError id format rfl rfl).dropValue,
    (pullToFileThroughAsync_returns carries joinError id format rfl rfl).dropValue⟩

/-- A stream of one byte is put in place of what was there; its decompressor is the identity. -/
theorem Receiver.one_byte_replaces_the_file :
    let path : DiskPath := ⟨["srv"], some "out"⟩
    let before : Receiver :=
      ⟨⟨[.chunk [1] [7]], .io ⟨.other, "gone"⟩, []⟩, ⟨fun _ => some [0], [], []⟩⟩
    ∃ ending, pullToFile 20 ⟨fun consumer => consumer, .plain⟩ (openedStream .zstd 1 0) path
          (fun _ => .ok ()) before = some ending ∧
      Guarantee path fileWriter 0 (fun _ => .ok ()) before ending ∧
      ending.1 = .ok () ∧ ending.2.disk.files path = some [7] := by
  intro path before
  have ran : ∃ ending, pullToFile 20 ⟨fun consumer => consumer, .plain⟩ (openedStream .zstd 1 0) path
      (fun _ => .ok ()) before = some ending ∧ ending.1 = .ok () ∧
      ending.2.disk.files path = some [7] := ⟨_, rfl, rfl, rfl⟩
  obtain ⟨ending, ended, returned, file⟩ := ran
  -- The identity is the inverse of itself.
  have inverts : Codec.Inverts ⟨fun consumer => consumer, .plain⟩ before.link before.link :=
    ⟨fun yields => yields, fun yields => yields⟩
  have pulls := pulls_to_file_are_atomic _ 1 0 path (fun _ => .ok ()) "" 0 (fun _ _ => .ok ()) ()
    (fun _ => .ok ()) (fun _ _ => .ok ()) (.packed inverts) (fun _ => some [0]) []
  rcases pulls.1.kept 20 ending ended with kept | ⟨_, truncated⟩
  · exact ⟨ending, ended, kept, returned, file⟩
  · rw [truncated.refused] at returned
    cases returned

/-- A disk on which the file cannot be synced, and then cannot be removed. -/
def stubborn (error : IoError) : LocalDisk :=
  ⟨fun _ => none, [none, none, none, some (error, 0), some (error, 0)], []⟩

/-- A removal that fails goes unnoticed, and leaves the temporary file. -/
theorem Receiver.failed_pull_leaves_its_temporary_file :
    ∃ ending,
      pullToFile 20 ⟨fun consumer => consumer, .plain⟩ (openedStream .none 1 0) ⟨["srv"], some "out"⟩
          (fun _ => .ok ())
          ⟨⟨[.chunk [1] [7]], .io ⟨.other, "gone"⟩, []⟩, stubborn ⟨.other, "full"⟩⟩ = some ending ∧
        ending.1 = .err (.io ⟨.other, "full"⟩) ∧
        ending.2.disk.files (tempSibling ⟨["srv"], some "out"⟩) = some [7] :=
  ⟨_, rfl, rfl, rfl⟩

end Repe.Svs
