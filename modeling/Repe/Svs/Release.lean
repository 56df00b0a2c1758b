import Repe.Svs.AsyncPull

/-! Which pulls leave no session parked on the server, and which do. -/

namespace Repe.Svs

def Exchange.releases : Exchange → Bool
  | .next reply => reply.ends
  -- Without a reply the server may still hold the session.
  | .lost => false
  | .cancel _ => true

/-- The client saw the stream end, by its last chunk or an error, or cancelled it. -/
def Released (trace : List Exchange) : Prop :=
  ∃ exchange ∈ trace, exchange.releases = true

/-- Whether a stream was released can be read off its exchanges. -/
instance (trace : List Exchange) : Decidable (Released trace) :=
  inferInstanceAs (Decidable (∃ exchange ∈ trace, exchange.releases = true))

theorem Released.append {trace : List Exchange} (released : Released trace)
    (more : List Exchange) : Released (trace ++ more) := by
  obtain ⟨exchange, member, ends⟩ := released
  exact ⟨exchange, List.mem_append_left _ member, ends⟩

theorem not_released_concat {trace : List Exchange} {exchange : Exchange}
    (parked : ¬Released trace) (keeps : exchange.releases = false) :
    ¬Released (trace ++ [exchange]) := by
  rintro ⟨other, member, ends⟩
  -- The exchange that releases is an earlier one, or the last.
  rcases List.mem_append.mp member with early | last
  · exact parked ⟨other, early, ends⟩
  · rw [List.mem_singleton.mp last, keeps] at ends
    cases ends

theorem released_cancel (link : Link) (reason : String) : Released (link.cancel reason).trace :=
  ⟨.cancel reason, List.mem_concat_self, rfl⟩

def ChunkReader.Honest (reader : ChunkReader) : Prop :=
  reader.lastSeen = true → Released reader.link.trace

/-- A fetch keeps a reader honest. -/
theorem ChunkReader.honest_fetch {reader : ChunkReader} (size : Nat) (replies : List Reply)
    (honest : reader.Honest) : (reader.fetch size replies).2.Honest := by
  -- Every reply that is read is put on the trace, and the last chunk is one of them.
  induction replies generalizing reader with
  | nil =>
    intro seen
    exact (honest seen).append _
  | cons reply later ih =>
    cases reply with
    | error code message =>
      intro seen
      exact (honest seen).append _
    | chunk query body =>
      -- The flag is raised by the reply that is put on the trace.
      have raised : ∀ rest, ChunkReader.Honest
          { link := { reader.link with
              replies := later, trace := reader.link.trace ++ [.next (.chunk query body)] }
            rest := rest
            finished := reader.finished || isLast query
            lastSeen := reader.lastSeen || isLast query } := by
        intro rest seen
        rcases Bool.or_eq_true_iff.mp seen with before | now
        · exact (honest before).append _
        · exact ⟨_, List.mem_concat_self, now⟩
      unfold fetch
      dsimp only
      split
      · exact raised _
      · split
        · exact raised _
        · exact ih (raised _)

theorem ChunkReader.honest_read {reader : ChunkReader} (size : Nat) (honest : reader.Honest) :
    (reader.read size).2.Honest := by
  -- Only a fetch talks to the server.
  unfold read
  split
  · exact honest
  · split
    · exact honest
    · exact honest_fetch size _ honest

theorem Consumer.run_keeps {V : Type} (consumer : Consumer V) (Kept : ChunkReader → Prop)
    (reads : ∀ {reader : ChunkReader} (size : Nat), Kept reader → Kept (reader.read size).2)
    {fuel : Nat} {state : consumer.State} {reader after : ChunkReader} {disk left : LocalDisk}
    {result : Exec RepeError V} (kept : Kept reader)
    (ran : consumer.run fuel state reader disk = some (result, after, left)) : Kept after := by
  -- By induction on the actions, of which only a read changes the reader.
  induction fuel generalizing state reader disk with
  | zero => simp [run] at ran
  | succ fuel ih =>
    unfold run at ran
    split at ran
    · cases ran
      exact kept
    · exact ih (reads _ kept) ran
    · exact ih kept ran

namespace Receiver

variable {V σ : Type}

theorem not_released_of_fresh {trace : List Exchange} (fresh : trace = []) : ¬Released trace := by
  rintro ⟨exchange, member, _⟩
  rw [fresh] at member
  cases member

/-- Once the stream was copied, `write_file` saw it end or cancels it. -/
theorem finishFile_released {reader : ChunkReader} (disk : LocalDisk) (temp path : DiskPath)
    (honest : reader.Honest) : Released (finishFile reader disk temp path).2.link.trace := by
  unfold finishFile
  split
  -- Each early exit goes through the cancel; the last exit has seen the last chunk.
  · exact released_cancel _ _
  · next seen =>
    have seen : reader.lastSeen = true := by simpa using seen
    split
    · exact released_cancel _ _
    · split
      · exact released_cancel _ _
      · exact honest seen

/-- `write_file` releases its stream, unless the temporary file cannot be created. -/
theorem writeFile_released {fuel : Nat} {receiver : Receiver} {path : DiskPath}
    {fill : Consumer V} {ending : Ending Unit} (fresh : receiver.link.trace = [])
    (ended : receiver.writeFile fuel path fill = some ending) (returned : ending.1 ≠ .panic) :
    Released ending.2.link.trace ↔ receiver.disk.failsNext = false := by
  have creation : (∃ error, (receiver.disk.perform (.create (tempSibling path))).1 =
      .error error) ↔ receiver.disk.failsNext = true := Disk.perform_fails
  unfold writeFile at ended
  rcases created : receiver.disk.perform (.create (tempSibling path)) with ⟨result, disk⟩
  rw [created] at ended creation
  cases result with
  | error error =>
    -- The guard is never made, and the stream is left as it is.
    cases ended
    have fails := creation.mp ⟨error, rfl⟩
    simp only [fails, Bool.true_eq_false, iff_false]
    exact not_released_of_fresh fresh
  | ok _ =>
    have creates : receiver.disk.failsNext = false := by
      apply Bool.eq_false_iff.mpr
      intro fails
      obtain ⟨error, impossible⟩ := creation.mpr fails
      cases impossible
    simp only [creates, iff_true]
    obtain ⟨⟨filled, reader, disk⟩, ran, rfl⟩ := Option.map_eq_some_iff.mp ended
    -- The guard is there, so every failure ends in the cleanup.
    have honest := fill.run_keeps ChunkReader.Honest ChunkReader.honest_read
      (show (ChunkReader.new receiver.link).Honest from nofun) ran
    cases filled with
    | panic => exact absurd rfl returned
    | err error => exact released_cancel _ _
    | ok value => exact finishFile_released _ _ _ honest

theorem consumeAndCancel_released {fuel : Nat} {receiver : Receiver} {reason : String}
    {consumer : Consumer V} {ending : Ending V}
    (ended : receiver.consumeAndCancel fuel reason consumer = some ending)
    (returned : ending.1 ≠ .panic) : Released ending.2.link.trace := by
  obtain ⟨⟨result, reader, disk⟩, _, rfl⟩ := Option.map_eq_some_iff.mp ended
  -- A consumer that returns is followed by a cancellation.
  cases result with
  | panic => exact absurd rfl returned
  | ok value => exact released_cancel _ _
  | err error => exact released_cancel _ _

/-- `run_pull` cancels its stream, however its two halves ended. -/
theorem runPull_released {schedule : List AsyncEvent} {drops : V → List (DiskOp DiskPath)}
    {joinError : String} {consumer : Consumer V} {receiver : Receiver} {ending : Ending V}
    (ended : receiver.runPull schedule drops joinError consumer = some ending) :
    Released ending.2.link.trace := by
  obtain ⟨pull, _, finished⟩ := Option.bind_eq_some_iff.mp ended
  unfold AsyncPull.finish at finished
  split at finished
  · cases finished
    unfold AsyncPull.conclude
    -- The cancel comes before the results are looked at.
    split <;> exact released_cancel _ _
  · simp at finished

end Receiver

/-- The bytes of the chunks in front of the reply that ends the stream. -/
def frontBytes : List Reply → Bytes
  | .chunk query body :: later => if isLast query then [] else body ++ frontBytes later
  | _ => []

namespace ChunkReader

/-- The bytes a reader still gives before it sees its stream end. -/
def pending (reader : ChunkReader) : Bytes := reader.rest ++ frontBytes reader.link.replies

/-- A reader in front of the end of its stream, which is still to come. -/
structure Ahead (reader : ChunkReader) : Prop where
  parked : ¬Released reader.link.trace
  unfinished : reader.finished = false
  comes : ∃ reply ∈ reader.link.replies, reply.ends = true

/-- A read gives the next bytes in front of the end, or sees the end once there are none. -/
inductive Reads (bytes : Bytes) (got : Except IoError Bytes) (after : ChunkReader) : Prop where
  | piece {front : Bytes} (read : got = .ok front) (some : front ≠ [])
    (split : bytes = front ++ after.pending) (ahead : after.Ahead)
  | ended (none : bytes = []) (released : Released after.link.trace)

/-- What a fetch comes to, by the replies it goes through. -/
theorem reads_fetch {reader : ChunkReader} {size : Nat} (positive : 0 < size) {replies : List Reply}
    (parked : ¬Released reader.link.trace) (unfinished : reader.finished = false)
    (comes : ∃ reply ∈ replies, reply.ends = true) :
    Reads (frontBytes replies) (reader.fetch size replies).1 (reader.fetch size replies).2 := by
  -- By induction on the replies: empty chunks are skipped until one has bytes or is the end.
  induction replies generalizing reader with
  | nil =>
    obtain ⟨reply, member, _⟩ := comes
    cases member
  | cons reply later ih =>
    cases reply with
    | error code message => exact .ended rfl ⟨_, List.mem_concat_self, rfl⟩
    | chunk query body =>
      cases last : isLast query with
      | true =>
        -- The last chunk is the end, whether it has bytes or not.
        have ends : (Exchange.next (.chunk query body)).releases = true := last
        refine .ended (if_pos last) ⟨.next (.chunk query body), ?_, ends⟩
        simp only [fetch, last, if_true]
        split <;> exact List.mem_concat_self
      | false =>
        have keeps : (Exchange.next (.chunk query body)).releases = false := last
        have more : ∃ reply ∈ later, reply.ends = true := by
          obtain ⟨reply, member, ends⟩ := comes
          rcases List.mem_cons.mp member with rfl | member
          · rw [show Reply.ends (.chunk query body) = false from last] at ends
            cases ends
          · exact ⟨reply, member, ends⟩
        have still := not_released_concat parked keeps
        have front : frontBytes (.chunk query body :: later) = body ++ frontBytes later :=
          if_neg (by rw [last]; decide)
        rw [front]
        simp only [fetch, last, unfinished, Bool.or_false, Bool.false_eq_true, if_false]
        by_cases empty : body = []
        · subst empty
          simp only [ne_eq, not_true_eq_false, if_false, List.nil_append]
          exact ih still rfl more
        · rw [if_pos empty]
          refine .piece rfl ?_ ?_ ⟨still, rfl, more⟩
          · rw [ne_eq, List.take_eq_nil_iff, not_or]
            exact ⟨Nat.ne_of_gt positive, empty⟩
          · rw [pending, ← List.append_assoc, List.take_append_drop]

/-- What a read comes to, in front of the end. -/
theorem reads_read {reader : ChunkReader} {size : Nat} (positive : 0 < size) (ahead : reader.Ahead) :
    Reads reader.pending (reader.read size).1 (reader.read size).2 := by
  unfold read
  split
  · next more =>
    -- The chunk in hand is not used up.
    refine .piece rfl ?_ ?_ ⟨ahead.parked, ahead.unfinished, ahead.comes⟩
    · rw [ne_eq, List.take_eq_nil_iff, not_or]
      exact ⟨Nat.ne_of_gt positive, more⟩
    · simp only [pending, ← List.append_assoc, List.take_append_drop]
  · next empty =>
    rw [if_neg (by rw [ahead.unfinished]; decide)]
    have empty : reader.rest = [] := by simpa using empty
    rw [pending, empty]
    exact reads_fetch positive ahead.parked ahead.unfinished ahead.comes

/-- A fetch takes nothing off the trace. -/
theorem released_fetch {reader : ChunkReader} (size : Nat) (replies : List Reply)
    (released : Released reader.link.trace) :
    Released (reader.fetch size replies).2.link.trace := by
  -- A fetch adds an exchange for each reply it takes.
  induction replies generalizing reader with
  | nil => exact released.append _
  | cons reply later ih =>
    cases reply with
    | error code message => exact released.append _
    | chunk query body =>
      unfold fetch
      dsimp only
      split
      · exact released.append _
      · split
        · exact released.append _
        · exact ih (released.append _)

theorem released_read {reader : ChunkReader} (size : Nat) (released : Released reader.link.trace) :
    Released (reader.read size).2.link.trace := by
  -- Only a fetch adds to the trace.
  unfold read
  split
  · exact released
  · split
    · exact released
    · exact released_fetch size _ released

end ChunkReader

namespace Inflater

variable {V : Type} (inflater : Inflater) (decode : Bytes → Except RepeError V)

def resume : Intake inflater.State → Bytes → Intake inflater.State
  | .taking content state, bytes => inflater.intake content state bytes
  | ended, _ => ended

theorem intake_append (content : Bytes) (state : inflater.State) (front back : Bytes) :
    inflater.intake content state (front ++ back) =
      inflater.resume (inflater.intake content state front) back := by
  induction front generalizing content state with
  | nil => rfl
  | cons byte front ih =>
    rw [List.cons_append, intake, intake]
    split
    · next complete =>
      -- Nothing is taken once the content has ended.
      cases back <;> simp [resume, intake, complete]
    · split
      · exact ih _ _
      · rfl

/-- What a value comes to without any more bytes, if it comes to anything. -/
def outcome : Intake inflater.State → Option (Except RepeError V)
  | .taking content state => if inflater.complete state then some (decode content) else none
  | .whole content => some (decode content)
  | .failed error => some (.error (.io error))

/-- No fault is found in these bytes: the content goes on behind them, or is that of a value. -/
def Sound (bytes : Bytes) : Prop :=
  ∀ error, inflater.outcome decode (inflater.intake [] inflater.start bytes) ≠ some (.error error)

theorem plain_sound (bytes : Bytes) : plain.Sound decode bytes := by
  -- The intake goes on to the end of the bytes, whatever they are.
  have goes : ∀ content, ∃ taken, plain.intake content () bytes = .taking taken () := by
    induction bytes with
    | nil => exact fun content => ⟨content, rfl⟩
    | cons byte bytes ih => exact fun content => ih (content ++ [byte])
  intro error
  obtain ⟨taken, same⟩ := goes []
  show plain.outcome decode (plain.intake [] () bytes) ≠ _
  rw [same]
  exact nofun

variable {inflater decode}

/--
A value is decided by the bytes in front of the end, without the end being seen, or else its reader
sees the end.
-/
theorem readOneValue_run {fuel : Nat} {intake : (readOneValue inflater decode).State}
    {reader after : ChunkReader} {disk left : LocalDisk} {result : Exec RepeError V}
    (ahead : reader.Ahead)
    (ran : (readOneValue inflater decode).run fuel intake reader disk = some (result, after, left)) :
    (∀ early, inflater.outcome decode (inflater.resume intake reader.pending) = some early →
        result = .ofExcept early ∧ ¬Released after.link.trace) ∧
      (inflater.outcome decode (inflater.resume intake reader.pending) = none →
        Released after.link.trace) := by
  -- By induction on the reads; each takes the next bytes off those in front of the end.
  induction fuel generalizing intake reader disk with
  | zero => cases ran
  | succ fuel ih =>
    unfold Consumer.run at ran
    cases intake with
    | whole content | failed error =>
      cases ran
      refine ⟨fun early decided => ⟨congrArg Exec.ofExcept (Option.some.inj decided),
        ahead.parked⟩, nofun⟩
    | taking content state =>
      by_cases complete : inflater.complete state = true
      · -- The content has ended, whatever is still to come.
        have stays : inflater.resume (.taking content state) reader.pending
            = .taking content state := by
          cases reader.pending <;> simp [resume, Inflater.intake, complete]
        have decodes : (readOneValue inflater decode).act (.taking content state)
            = .done (.ofExcept (decode content)) := if_pos complete
        rw [decodes] at ran
        cases ran
        rw [stays, outcome, if_pos complete]
        exact ⟨fun early decided => ⟨congrArg Exec.ofExcept (Option.some.inj decided),
          ahead.parked⟩, nofun⟩
      · have reads := ChunkReader.reads_read (show 0 < copyBuffer by decide) ahead
        have wants : (readOneValue inflater decode).act (.taking content state)
            = .read copyBuffer (inflater.afterRead content state) := if_neg complete
        rw [wants] at ran
        cases reads with
        | ended nothing released =>
          rw [nothing, resume, Inflater.intake, outcome, if_neg complete]
          refine ⟨nofun, fun _ => ?_⟩
          exact Consumer.run_keeps _ (fun reader => Released reader.link.trace)
            ChunkReader.released_read released ran
        | piece read some split ahead =>
          -- What these bytes come to is resumed with the others.
          rw [split, resume, intake_append, ← afterRead_ok some, ← read]
          exact ih ahead ran

end Inflater

namespace Receiver

/-- The `Value` output releases its stream, unless a fault is found in front of the end. -/
theorem decodeValue_released {V : Type} {fuel : Nat} {receiver : Receiver} {inflater : Inflater}
    {decode : Bytes → Except RepeError V} {ending : Ending (Option V)}
    (fresh : receiver.link.trace = [])
    (usable : ∃ reply ∈ receiver.link.replies, reply.ends = true)
    (ended : receiver.decodeValue fuel (readOneValue inflater decode) = some ending) :
    Released ending.2.link.trace ↔ inflater.Sound decode (frontBytes receiver.link.replies) := by
  obtain ⟨⟨decoded, reader, disk⟩, ran, rfl⟩ := Option.map_eq_some_iff.mp ended
  obtain ⟨early, late⟩ := Inflater.readOneValue_run
    ⟨not_released_of_fresh fresh, rfl, usable⟩ ran
  show _ ↔ ∀ error, inflater.outcome decode (inflater.resume (.taking [] inflater.start)
    (ChunkReader.new receiver.link).pending) ≠ some (.error error)
  rcases decided : inflater.outcome decode (inflater.resume (.taking [] inflater.start)
      (ChunkReader.new receiver.link).pending) with _ | _ | value
  · -- The end was seen, whether or not a value came of it.
    have released := late decided
    refine iff_of_true ?_ nofun
    cases decoded with
    | ok value => exact released_cancel _ _
    | err error => exact released
    | panic => exact released
  · -- `read_one_value(..)?` leaves without a cancel.
    obtain ⟨rfl, parked⟩ := early _ decided
    exact iff_of_false parked fun sound => sound _ rfl
  · obtain ⟨rfl, _⟩ := early _ decided
    exact iff_of_true (released_cancel _ _) nofun

end Receiver

/-- The pulls a client can make of a stream, under the names of the source. -/
inductive Entry : Type 1 where
  /-- `pull_stream`, and with it `pull_value` and the blocking pulls to a file. -/
  | stream {V : Type} (out : StreamOutput) (decode : Bytes → Except RepeError V)
  | consume {V : Type} (consumer : Consumer V)
  | typedSlice {V : Type} (decode : Consumer V)
  | complexSlice {V : Type} (decode : Consumer V)
  | toFileTrailerVerified {D : Type} (path : DiskPath) (trailerLen : Nat)
      (writeAll : D → Bytes → Except IoError D) (digest : D)
      (verify : D → Bytes → Except RepeError Unit)
  | beveAsync {V : Type} (drops : V → List (DiskOp DiskPath)) (decode : Consumer V)
  /-- `pull_consume_async`, and with it `pull_to_vec_async`. -/
  | consumeAsync {V : Type} (drops : V → List (DiskOp DiskPath)) (consumer : Consumer V)
  | toFileAsync (path : DiskPath)
  | toFileVerifiedAsync {D : Type} (path : DiskPath) (writeAll : D → Bytes → Except IoError D)
      (digest : D) (verify : D → Except RepeError Unit)
  | toFileTrailerVerifiedAsync {D : Type} (path : DiskPath) (trailerLen : Nat)
      (writeAll : D → Bytes → Except IoError D) (digest : D)
      (verify : D → Bytes → Except RepeError Unit)

namespace Entry

open Receiver

/-- What is left to chance in a pull: the fuel of a blocking one, the schedule of an async one. -/
structure Chance where
  fuel : Nat
  schedule : List AsyncEvent
  joinError : String

/-- Make the pull, from the answer to its `open`. -/
def run (entry : Entry) (chance : Chance) (zstd : Codec) (opened : Except RepeError OpenResponse)
    (receiver : Receiver) : Option (Ending Unit) :=
  match entry with
  | .stream out decode => dropValue (pullStream chance.fuel zstd opened out decode receiver)
  | .consume consumer => dropValue (pullConsume chance.fuel zstd opened consumer receiver)
  | .typedSlice decode => dropValue (pullTypedSlice chance.fuel zstd opened decode receiver)
  | .complexSlice decode => dropValue (pullComplexSlice chance.fuel zstd opened decode receiver)
  | .toFileTrailerVerified path trailerLen writeAll digest verify =>
    pullToFileTrailerVerified chance.fuel zstd opened path trailerLen writeAll digest verify
      receiver
  | .beveAsync drops decode =>
    dropValue (pullBeveAsync chance.schedule drops chance.joinError zstd opened decode receiver)
  | .consumeAsync drops consumer =>
    dropValue (pullConsumeAsync chance.schedule drops chance.joinError zstd opened consumer receiver)
  | .toFileAsync path =>
    dropValue (pullToFileAsync chance.schedule chance.joinError zstd opened path receiver)
  | .toFileVerifiedAsync path writeAll digest verify =>
    pullToFileVerifiedAsync chance.schedule chance.joinError zstd opened path writeAll digest verify
      receiver
  | .toFileTrailerVerifiedAsync path trailerLen writeAll digest verify =>
    pullToFileTrailerVerifiedAsync chance.schedule chance.joinError zstd opened path trailerLen
      writeAll digest verify receiver

/--
For a stream with these tags, a file output can create its temporary file, and no fault is found in
the compressed bytes of a value before the end of the stream is seen.
-/
def Affords (entry : Entry) (zstd : Codec) (info : OpenInfo) (receiver : Receiver) : Prop :=
  match entry with
  -- Only `pull_stream` has exits of its own past the tags.
  | .stream out decode =>
    checkOutput out info = .ok () →
      match out with
      | .value =>
        info.compression = .zstd → zstd.inflater.Sound decode (frontBytes receiver.link.replies)
      | _ => receiver.disk.failsNext = false
  | _ => True

/-- The tags of the stream are supported, and the pull affords a stream with these tags. -/
def Releases (entry : Entry) (zstd : Codec)
    (opened : Except RepeError OpenResponse) (receiver : Receiver) : Prop :=
  ∃ response compression, opened = .ok response ∧ response.version = svsVersion ∧
    Compression.fromU8 response.compression = some compression ∧
    entry.Affords zstd ⟨response.streamId, response.format, compression⟩ receiver

variable {entry : Entry} {chance : Chance} {zstd : Codec} {opened : Except RepeError OpenResponse}
  {receiver : Receiver} {ending : Ending Unit} {info : OpenInfo}

/-- On an answer that the client accepts, only the pull itself is left to decide. -/
theorem releases_iff_affords (parsed : parseOpenResponse opened = .ok info) :
    entry.Releases zstd opened receiver ↔ entry.Affords zstd info receiver := by
  cases opened with
  | error error => cases parsed
  | ok response =>
    simp only [parseOpenResponse, bind, Except.bind, pure, Except.pure] at parsed
    split at parsed
    · cases parsed
    · next version =>
      have version : response.version = svsVersion := by simpa using version
      split at parsed
      · next compression known =>
        cases parsed
        refine ⟨?_, fun affords => ⟨response, compression, rfl, version, known, affords⟩⟩
        -- The tags of an accepted answer are determined by it.
        rintro ⟨other, tag, same, _, also, affords⟩
        cases same
        rw [known] at also
        cases also
        exact affords
      · cases parsed

theorem parse_error {error : RepeError} (refused : parseOpenResponse opened = .error error) :
    ¬entry.Releases zstd opened receiver := by
  rintro ⟨response, compression, rfl, version, known, _⟩
  simp [parseOpenResponse, bind, Except.bind, pure, Except.pure, version, known] at refused

/-- A pull that refuses the answer to its `open` does nothing else. -/
theorem run_refused {error : RepeError} (refused : parseOpenResponse opened = .error error)
    (ended : entry.run chance zstd opened receiver = some ending) : ending.2 = receiver := by
  -- Every pull starts with `parse_open_response(..)?`.
  cases entry <;>
    simp only [run, pullStream, pullConsume, pullTypedSlice, pullComplexSlice, pullSlice,
      pullToFileTrailerVerified, pullToFileThrough, pullBeveAsync, pullConsumeAsync,
      pullToFileAsync, pullToFileVerifiedAsync, pullToFileTrailerVerifiedAsync,
      pullToFileThroughAsync, refused, dropValue, Option.map_some, Option.some.injEq] at ended <;>
    rw [← ended] <;> rfl

theorem of_dropValue {V : Type} {call : Option (Ending V)} (ended : dropValue call = some ending)
    (returned : ending.1 ≠ .panic) :
    ∃ inner, call = some inner ∧ inner.1 ≠ .panic ∧ inner.2 = ending.2 := by
  obtain ⟨⟨result, left⟩, called, rfl⟩ := Option.map_eq_some_iff.mp ended
  refine ⟨(result, left), called, ?_, rfl⟩
  -- A panic inside would be one outside.
  rintro rfl
  exact returned rfl

theorem of_afterSave {σ : Type} {path : DiskPath} {verify : σ → Except RepeError Unit}
    {call : Option (Ending σ)} {after : Ending σ} (ended : call.map (afterSave path verify) = some after)
    (returned : after.1 ≠ .panic) :
    ∃ inner, call = some inner ∧ inner.1 ≠ .panic ∧ inner.2.link = after.2.link := by
  obtain ⟨⟨result, left⟩, called, rfl⟩ := Option.map_eq_some_iff.mp ended
  -- What is done with the file does not touch the connection.
  refine ⟨(result, left), called, ?_, ?_⟩
  · rintro rfl
    exact returned rfl
  · cases result <;> rfl

theorem withoutValue_released {V : Type} {fuel : Nat} {path : DiskPath} {fill : Consumer V}
    {W : Type} {after : Ending (Option W)} (fresh : receiver.link.trace = [])
    (ended : withoutValue (receiver.writeFile fuel path fill) = some after)
    (returned : after.1 ≠ .panic) :
    Released after.2.link.trace ↔ receiver.disk.failsNext = false := by
  obtain ⟨⟨result, left⟩, wrote, rfl⟩ := Option.map_eq_some_iff.mp ended
  refine writeFile_released fresh wrote ?_
  -- A panic inside would be one outside.
  rintro rfl
  exact returned rfl

/-- `pull_stream` on an answer it accepts. -/
theorem stream_released {V : Type} {out : StreamOutput} {decode : Bytes → Except RepeError V}
    {after : Ending (Option V)} (fresh : receiver.link.trace = [])
    (usable : ∃ reply ∈ receiver.link.replies, reply.ends = true)
    (parsed : parseOpenResponse opened = .ok info)
    (ended : pullStream chance.fuel zstd opened out decode receiver = some after)
    (returned : after.1 ≠ .panic) :
    Released after.2.link.trace ↔ (stream out decode).Affords zstd info receiver := by
  simp only [pullStream, parsed] at ended
  cases check : checkOutput out info with
  | error error =>
    -- Tags that do not allow the output are answered with a cancel.
    rw [check] at ended
    cases ended
    refine iff_of_true (released_cancel _ _) ?_
    intro passes
    rw [check] at passes
    cases passes
  | ok _ =>
    rw [check] at ended
    cases out with
    | value =>
      rw [decodeValue_released fresh usable ended]
      simp only [Affords, check, forall_const]
      -- Bytes that are not compressed have no fault to find.
      cases info.compression with
      | none => simp [Codec.inflating, Inflater.plain_sound]
      | zstd => simp [Codec.inflating]
    | beveZstdFile path | beveFile path | rawFile path =>
      rw [withoutValue_released fresh ended returned]
      exact ⟨fun holds _ => holds, fun affords => affords check⟩

theorem consume_released {V : Type} {fuel : Nat} {consumer : Consumer V} {after : Ending V}
    (parsed : parseOpenResponse opened = .ok info)
    (ended : pullConsume fuel zstd opened consumer receiver = some after)
    (returned : after.1 ≠ .panic) : Released after.2.link.trace := by
  simp only [pullConsume, parsed] at ended
  exact consumeAndCancel_released ended returned

theorem slice_released {V : Type} {reason : String} {fuel : Nat} {decode : Consumer V}
    {after : Ending V} (parsed : parseOpenResponse opened = .ok info)
    (ended : pullSlice reason fuel zstd opened decode receiver = some after)
    (returned : after.1 ≠ .panic) : Released after.2.link.trace := by
  simp only [pullSlice, parsed] at ended
  -- A format that is refused is cancelled at once.
  split at ended
  · cases ended
    exact released_cancel _ _
  · exact consumeAndCancel_released ended returned

theorem consumeAsync_released {V : Type} {drops : V → List (DiskOp DiskPath)}
    {consumer : Consumer V} {after : Ending V} (parsed : parseOpenResponse opened = .ok info)
    (ended : pullConsumeAsync chance.schedule drops chance.joinError zstd opened consumer receiver =
      some after) : Released after.2.link.trace := by
  simp only [pullConsumeAsync, parsed] at ended
  exact runPull_released ended

theorem beveAsync_released {V : Type} {drops : V → List (DiskOp DiskPath)} {decode : Consumer V}
    {after : Ending V} (parsed : parseOpenResponse opened = .ok info)
    (ended : pullBeveAsync chance.schedule drops chance.joinError zstd opened decode receiver =
      some after) : Released after.2.link.trace := by
  simp only [pullBeveAsync, parsed] at ended
  -- A format that is refused is cancelled at once.
  split at ended
  · cases ended
    exact released_cancel _ _
  · exact runPull_released ended

theorem fileAsync_released {σ : Type} {path : DiskPath} {writer : Writer σ} {start : σ}
    {verify : σ → Except RepeError Unit} {after : Ending σ}
    (parsed : parseOpenResponse opened = .ok info)
    (ended : pullToFileThroughAsync chance.schedule chance.joinError zstd opened path writer start
      verify receiver = some after) (returned : after.1 ≠ .panic) :
    Released after.2.link.trace := by
  obtain ⟨inner, called, _, same⟩ := of_afterSave ended returned
  rw [← same]
  exact consumeAsync_released parsed called

/-- Every pull but `pull_stream`, on an answer it accepts. -/
theorem others_released (parsed : parseOpenResponse opened = .ok info)
    (other : ∀ {V : Type} (out : StreamOutput) (decode : Bytes → Except RepeError V),
      entry ≠ .stream out decode)
    (ended : entry.run chance zstd opened receiver = some ending) (returned : ending.1 ≠ .panic) :
    Released ending.2.link.trace := by
  -- By how each of them ends: by a cancellation after its consumer, or in `run_pull`.
  cases entry with
  | stream out decode => exact absurd rfl (other out decode)
  | consume consumer =>
    obtain ⟨inner, called, safe, same⟩ := of_dropValue ended returned
    exact same ▸ consume_released parsed called safe
  | typedSlice decode | complexSlice decode =>
    obtain ⟨inner, called, safe, same⟩ := of_dropValue ended returned
    exact same ▸ slice_released parsed called safe
  | toFileTrailerVerified path trailerLen writeAll digest verify =>
    obtain ⟨saved, called, safe, same⟩ := of_dropValue ended returned
    obtain ⟨inner, consumed, unwound, link⟩ := of_afterSave called safe
    have released := consume_released parsed consumed unwound
    rw [link, same] at released
    exact released
  | beveAsync drops decode =>
    obtain ⟨inner, called, _, same⟩ := of_dropValue ended returned
    exact same ▸ beveAsync_released parsed called
  | consumeAsync drops consumer =>
    obtain ⟨inner, called, _, same⟩ := of_dropValue ended returned
    exact same ▸ consumeAsync_released parsed called
  | toFileAsync path | toFileVerifiedAsync path writeAll digest verify
  | toFileTrailerVerifiedAsync path trailerLen writeAll digest verify =>
    obtain ⟨inner, called, safe, same⟩ := of_dropValue ended returned
    exact same ▸ fileAsync_released parsed called safe

/--
On a connection that stays usable up to the end of the stream, a pull that returns has seen its stream
end or cancelled it, exactly when the tags of the stream are supported, a file output can create its
temporary file, and no fault is found in a compressed value before the end of the stream.
-/
theorem released_iff_releases (entry : Entry) (chance : Chance) (zstd : Codec)
    (opened : Except RepeError OpenResponse) (receiver : Receiver)
    (fresh : receiver.link.trace = [])
    (usable : ∃ reply ∈ receiver.link.replies, reply.ends = true)
    (ended : entry.run chance zstd opened receiver = some ending) (returned : ending.1 ≠ .panic) :
    Released ending.2.link.trace ↔ entry.Releases zstd opened receiver := by
  -- Before its tags are accepted no pull sends anything; afterwards it is up to the pull.
  cases parsed : parseOpenResponse opened with
  | error error =>
    rw [run_refused parsed ended]
    exact iff_of_false (not_released_of_fresh fresh) (parse_error parsed)
  | ok info =>
    rw [releases_iff_affords parsed]
    cases entry with
    | stream out decode =>
      obtain ⟨inner, called, safe, same⟩ := of_dropValue ended returned
      rw [← same]
      exact stream_released fresh usable parsed called safe
    | _ =>
      refine iff_of_true (others_released parsed ?_ ended returned) trivial
      intro _ _ _ same
      cases same

/-- The first check of a zstd decompressor: its input starts with the magic number of a frame. -/
def magicNumber : Inflater where
  State := Bytes
  start := []
  feed seen byte :=
    let seen := seen ++ [byte]
    if seen <+: [0x28, 0xB5, 0x2F, 0xFD] ∨ 4 < seen.length then .ok ([], seen)
    else .error ⟨.invalidData, "unknown frame descriptor"⟩
  complete _ := false
  finish _ := .ok ()

/-- A stream of two chunks, and a disk whose next operation may fail. -/
def twoChunks (faults : List (Option (IoError × Nat))) : Receiver :=
  ⟨⟨[.chunk [0] [0, 0, 0, 0], .chunk [1] [8]], invalidData "connection closed", []⟩,
    ⟨fun _ => none, faults, []⟩⟩

/-- A pull to a file ends with the last chunk, and is released. -/
theorem file_pull_released :
    let pull := stream (.rawFile ⟨[], some "a"⟩) fun _ => .ok ()
    ∃ ending, pull.run ⟨9, [], ""⟩ ⟨id, magicNumber⟩ (.ok ⟨1, 5, 1, 0⟩) (twoChunks []) = some ending ∧
      (Released ending.2.link.trace ↔
        pull.Releases ⟨id, magicNumber⟩ (.ok ⟨1, 5, 1, 0⟩) (twoChunks [])) ∧
      Released ending.2.link.trace := by
  intro pull
  -- The run is evaluated, with its trace.
  have ended : ∃ ending, pull.run ⟨9, [], ""⟩ ⟨id, magicNumber⟩ (.ok ⟨1, 5, 1, 0⟩) (twoChunks []) =
      some ending ∧ ending.1 = .ok () ∧
      ending.2.link.trace = [.next (.chunk [0] [0, 0, 0, 0]), .next (.chunk [1] [8])] :=
    ⟨_, rfl, rfl, rfl⟩
  obtain ⟨ending, ran, result, trace⟩ := ended
  refine ⟨ending, ran, ?_, ?_⟩
  · exact released_iff_releases _ _ _ _ _ rfl ⟨_, List.mem_cons_of_mem _ (List.mem_singleton_self _),
      rfl⟩ ran (by rw [result]; exact nofun)
  · rw [trace]
    decide

/--
Three pulls that return on a connection in order, and leave their stream as it is: the version of the
server is not supported, the temporary file cannot be created, the first of two chunks of a compressed
value is no zstd frame.
-/
theorem pulls_that_leave_sessions_parked :
    (∃ ending, (consume (Receiver.copyChunks ⟨[], some "a"⟩)).run ⟨9, [], ""⟩ ⟨id, magicNumber⟩
        (.ok ⟨2, 5, 1, 0⟩) (twoChunks []) = some ending ∧
      ending.1 ≠ .panic ∧ .lost ∉ ending.2.link.trace ∧ ¬Released ending.2.link.trace) ∧
    (∃ ending, (stream (.rawFile ⟨[], some "a"⟩) fun _ => .ok ()).run ⟨9, [], ""⟩ ⟨id, magicNumber⟩
        (.ok ⟨1, 5, 1, 0⟩) (twoChunks [some (⟨.other, "no space"⟩, 0)]) = some ending ∧
      ending.1 ≠ .panic ∧ .lost ∉ ending.2.link.trace ∧ ¬Released ending.2.link.trace) ∧
    (∃ ending, (stream .value fun _ => .ok ()).run ⟨9, [], ""⟩ ⟨id, magicNumber⟩
        (.ok ⟨1, 5, 1, 1⟩) (twoChunks []) = some ending ∧
      ending.1 ≠ .panic ∧ .lost ∉ ending.2.link.trace ∧ ¬Released ending.2.link.trace) := by
  refine ⟨⟨_, rfl, nofun, ?_, ?_⟩, ⟨_, rfl, nofun, ?_, ?_⟩, ⟨_, rfl, nofun, ?_, ?_⟩⟩
  all_goals decide

end Entry

end Repe.Svs
