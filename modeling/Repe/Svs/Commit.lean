import Repe.Svs.AsyncPull
import Repe.Svs.CopyLaws

/-! The pulls to a file: the destination is replaced by the complete content, or left as it was. -/

namespace Repe.Svs

/--
What a pull to a file guarantees, however the stream and the disk behave: whether it put the file in
place, and the disk it leaves.
-/
structure Atomic {σ : Type} (path : DiskPath) (writer : Writer σ) (start : σ)
    (verify : σ → Except RepeError Unit) (before : Receiver) (placed : Prop) (after : LocalDisk) :
    Prop where
  /--
  The file is put in place exactly when the last chunk was reached without an error, the stream
  carries its trailer, the digest took all of it, the verifier accepted, and no operation failed.
  -/
  placed_iff : placed ↔
    ∃ bodies state, completeBodies before.link.replies = some bodies ∧
      writer.trailerLen ≤ bodies.flatten.length ∧
      writer.feed start (bodies.flatMap cuts) = .ok state ∧ verify state = .ok () ∧
      ∀ op ∈ after.failed, op.isRemove = true
  content : ∀ bodies, placed → completeBodies before.link.replies = some bodies →
    after.files path =
        some (bodies.flatten.take (bodies.flatten.length - writer.trailerLen)) ∧
      after.files (tempSibling path) = none
  unchanged : ¬placed → after.files path = before.disk.files path ∧
    Cleared (tempSibling path) (before.disk.files (tempSibling path)) after
  others : ∀ other, other ≠ path → other ≠ tempSibling path →
    after.files other = before.disk.files other

namespace Writer

variable {σ : Type} {writer : Writer σ}

theorem feedPieces_held {state final : σ} {pieces : List Bytes}
    (fed : writer.feedPieces state pieces = .ok final) : writer.held final = writer.held state := by
  -- The digest leaves alone what is held back, piece by piece.
  induction pieces generalizing state with
  | nil =>
    cases fed
    rfl
  | cons piece pieces ih =>
    simp only [feedPieces] at fed
    split at fed
    · cases fed
    · next next digested => rw [ih fed, writer.digest_held state piece next digested]

/-- After a whole stream, as much is held back as there is, up to the length of the trailer. -/
theorem feed_held {state final : σ} {reads : List Bytes} (count : Nat)
    (held : (writer.held state).length = min writer.trailerLen count)
    (fed : writer.feed state reads = .ok final) :
    (writer.held final).length = min writer.trailerLen (count + reads.flatten.length) := by
  -- The count is what was fed so far.
  induction reads generalizing state count with
  | nil =>
    cases fed
    simpa using held
  | cons cut rest ih =>
    simp only [feed] at fed
    split at fed
    · cases fed
    · next next pieces =>
      have split := writer.split_length state cut (by omega)
      rw [← feedPieces_held pieces] at split
      have tail := ih (count + cut.length) (by omega) fed
      rw [tail, List.flatten_cons, List.length_append]
      omega

theorem close_iff {start final : σ} {reads : List Bytes} (nothing : writer.held start = [])
    (fed : writer.feed start reads = .ok final) :
    writer.close final = .ok () ↔ writer.trailerLen ≤ reads.flatten.length := by
  -- Nothing is held before the first read.
  have held := feed_held 0 (by simp [nothing]) fed
  rw [writer.close_ok]
  omega

end Writer

theorem flatMap_cuts_flatten (bodies : List Bytes) : (bodies.flatMap cuts).flatten = bodies.flatten := by
  induction bodies with
  | nil => rfl
  | cons body bodies ih => simp [List.flatMap_cons, cuts_flatten, ih]

section Ends

variable {σ : Type} {path : DiskPath} {writer : Writer σ} {start state : σ}
  {verify : σ → Except RepeError Unit} {before : Receiver} {disk after : LocalDisk} {placed : Prop}

def Kept (temp : DiskPath) (before disk : LocalDisk) : Prop :=
  ∀ other, other ≠ temp → disk.files other = before.files other

theorem Kept.perform {temp : DiskPath} {before disk : LocalDisk} {op : DiskOp DiskPath}
    (kept : Kept temp before disk) (only : ∀ touched ∈ op.touched, touched = temp) :
    Kept temp before (disk.perform op).2 := by
  intro other differs
  rw [Disk.perform_untouched (fun touched => differs (only other touched)), kept other differs]

theorem atomic_of_refused (failed : ¬placed)
    (refused : ¬∃ bodies state, completeBodies before.link.replies = some bodies ∧
      writer.trailerLen ≤ bodies.flatten.length ∧
      writer.feed start (bodies.flatMap cuts) = .ok state ∧ verify state = .ok () ∧
      ∀ op ∈ after.failed, op.isRemove = true)
    (kept : Kept (tempSibling path) before.disk after)
    (cleared : Cleared (tempSibling path) (before.disk.files (tempSibling path)) after) :
    Atomic path writer start verify before placed after := by
  -- Both sides of the condition fail, so only the files are left to look at.
  refine ⟨iff_of_false failed refused, fun _ ok => absurd ok failed, ?_, ?_⟩
  · intro _
    exact ⟨kept path (tempSibling_ne path).symm, cleared⟩
  · intro other _ differs
    exact kept other differs

theorem atomic_of_spoiled (nothing : writer.held start = []) (failed : ¬placed)
    (spoiled : Spoiled writer start (ahead before.link.replies).1 (ahead before.link.replies).2
      after)
    (kept : Kept (tempSibling path) before.disk after)
    (cleared : Cleared (tempSibling path) (before.disk.files (tempSibling path)) after) :
    Atomic path writer start verify before placed after := by
  refine atomic_of_refused failed ?_ kept cleared
  rintro ⟨bodies, final, complete, long, fed, accepted, harmless⟩
  rw [ahead_complete complete] at spoiled
  -- Each reason to drop the file is ruled out by one of the conditions.
  rcases spoiled with ⟨op, member, other⟩ | refused | broken
  · rw [harmless op member] at other
    cases other
  · refine refused final fed ((Writer.close_iff nothing fed).mpr ?_)
    rwa [flatMap_cuts_flatten]
  · cases broken

theorem complete_of_clean {replies : List Reply} (clean : (ahead replies).2 = true) :
    ∃ bodies, completeBodies replies = some bodies := by
  -- A stream that is not complete breaks.
  cases complete : completeBodies replies with
  | none =>
    rw [ahead_broken complete] at clean
    cases clean
  | some bodies => exact ⟨bodies, rfl⟩

/-- A complete temporary file, as `commit` finds it. -/
structure Ready (path : DiskPath) (writer : Writer σ) (start state : σ) (before : Receiver)
    (disk : LocalDisk) : Prop where
  live : Live (tempSibling path) writer start (ahead before.link.replies).1 [] state disk []
  closed : writer.close state = .ok ()
  clean : (ahead before.link.replies).2 = true
  kept : Kept (tempSibling path) before.disk disk

theorem Ready.file (ready : Ready path writer start state before disk) {bodies : List Bytes}
    (complete : completeBodies before.link.replies = some bodies) :
    disk.files (tempSibling path) =
        some (bodies.flatten.take (bodies.flatten.length - writer.trailerLen)) ∧
      writer.trailerLen ≤ bodies.flatten.length := by
  obtain ⟨written, file, sum⟩ := ready.live.file
  have held := ready.live.held
  have long := (writer.close_ok state).mp ready.closed
  rw [ahead_complete complete] at sum held
  simp only [flatMap_cuts_flatten, List.flatten_nil, List.append_nil, List.length_nil,
    Nat.sub_zero] at sum held
  -- The held bytes are the last ones of the stream, and as many as the trailer has.
  have lengths := congrArg List.length sum
  rw [List.length_append] at lengths
  refine ⟨?_, by omega⟩
  rw [file, ← sum, List.take_left' (by rw [List.length_append]; omega)]

theorem atomic_of_failed (nothing : writer.held start = []) (failed : ¬placed)
    (harmed : ∃ op ∈ disk.failed, op.isRemove = false)
    (kept : Kept (tempSibling path) before.disk disk) :
    Atomic path writer start verify before placed
      (disk.perform (.remove (tempSibling path))).2 := by
  -- The file that was begun is removed.
  refine atomic_of_spoiled nothing failed (Spoiled.perform (.inl harmed)) (kept.perform ?_)
    (cleared_remove _ _ _)
  simp [DiskOp.touched]

theorem Ready.rejected (ready : Ready path writer start state before disk) (failed : ¬placed)
    (rejects : verify state ≠ .ok ()) :
    Atomic path writer start verify before placed
      (disk.perform (.remove (tempSibling path))).2 := by
  refine atomic_of_refused failed ?_ (ready.kept.perform (by simp [DiskOp.touched]))
    (cleared_remove _ _ _)
  rintro ⟨bodies, final, complete, _, fed, accepted, _⟩
  -- The digest of the whole stream is what the verifier was given.
  have same := ready.live.finished
  rw [ahead_complete complete, fed] at same
  cases same
  exact rejects accepted

/-- `commit` of a file that is ready and accepted. -/
theorem Ready.commit (ready : Ready path writer start state before disk)
    (nothing : writer.held start = []) (accepts : verify state = .ok ()) :
    Atomic path writer start verify before
      ((Receiver.commit disk (tempSibling path) path).1 = .ok ())
      (Receiver.commit disk (tempSibling path) path).2 := by
  have distinct := tempSibling_ne path
  unfold Receiver.commit
  rcases performed : disk.perform (.rename (tempSibling path) path) with ⟨got, after⟩
  cases got with
  | error error =>
    -- A rename that fails changes nothing, and the guard removes the file itself.
    obtain ⟨⟨written, files⟩, failed⟩ := Disk.perform_error performed
    refine atomic_of_failed nothing (by simp) ⟨_, by rw [failed]; exact List.mem_concat_self, rfl⟩ ?_
    intro other differs
    rw [files]
    exact ready.kept other differs
  | ok _ =>
    obtain ⟨files, failed⟩ := Disk.perform_ok performed
    -- A rename that succeeds moves the complete content in one step.
    obtain ⟨bodies, complete⟩ := complete_of_clean ready.clean
    have fed := ready.live.finished
    rw [ahead_complete complete] at fed
    refine ⟨iff_of_true rfl ⟨bodies, state, complete, (ready.file complete).2, fed, accepts, ?_⟩,
      ?_, fun out => absurd rfl out, ?_⟩
    · simp [failed, ready.live.unharmed]
    · intro bodies _ complete
      rw [files]
      refine ⟨?_, by simp [Disk.apply]⟩
      simp only [Disk.apply, Function.update_of_ne distinct.symm, Function.update_self]
      exact (ready.file complete).1
    · intro other differs apart
      rw [files]
      simp only [Disk.apply, Function.update_of_ne apart, Function.update_of_ne differs]
      exact ready.kept other apart

theorem Ready.publish (ready : Ready path writer start state before disk)
    (nothing : writer.held start = []) :
    Atomic path writer start verify before
      ((Receiver.publish disk path (verify state)).1 = .ok ())
      (Receiver.publish disk path (verify state)).2 := by
  unfold Receiver.publish
  -- The verdict decides between the two.
  cases verdict : verify state with
  | error error => exact ready.rejected (by simp) (by simp [verdict])
  | ok _ => exact ready.commit nothing verdict

end Ends

def Consumer.Within {V : Type} (temp : DiskPath) (consumer : Consumer V) : Prop :=
  ∀ state op resume, consumer.act state = .disk op resume → ∀ touched ∈ op.touched, touched = temp

theorem copyTo_within {σ : Type} (temp : DiskPath) (writer : Writer σ) (start : σ) :
    (copyTo temp writer start).Within temp := by
  intro state op resume acts
  cases state <;> cases acts
  simp [DiskOp.touched]

/-- So does the closure that saves a stream. -/
theorem saveTo_within {σ : Type} (temp : DiskPath) (writer : Writer σ) (start : σ) :
    (saveTo temp writer start).Within temp := by
  intro phase op resume acts
  -- Every operation of the closure is on the temporary file.
  cases phase with
  | copying copy =>
    cases copy with
    | copied state =>
      simp only [saveTo] at acts
      split at acts <;> cases acts <;> simp [DiskOp.touched]
    | reading state => cases acts
    | _ =>
      cases acts
      simp [DiskOp.touched]
  | ended result => cases result <;> cases acts
  | _ =>
    cases acts
    simp [DiskOp.touched]

section Blocking

variable {σ V : Type} {temp : DiskPath} {writer : Writer σ} {start : σ} {total : List Bytes}
  {clean : Bool} {fuel : Nat} {reader after : ChunkReader} {disk left : LocalDisk}

/-- A blocking consumer that touches one file leaves the others alone. -/
theorem Consumer.kept_run {consumer : Consumer V} {before : LocalDisk} {state : consumer.State}
    {result : Exec RepeError V} (within_ : consumer.Within temp) (kept : Kept temp before disk)
    (ran : consumer.run fuel state reader disk = some (result, after, left)) :
    Kept temp before left := by
  -- Reads do not touch the disk, and operations only the one file.
  induction fuel generalizing state reader disk with
  | zero => simp [run] at ran
  | succ fuel ih =>
    unfold run at ran
    split at ran
    · cases ran
      exact kept
    · exact ih kept ran
    · next op resume acts => exact ih (kept.perform (within_ state op resume acts)) ran

/-- A blocking copy of a stream ends with a complete file, or has a reason to fail. -/
theorem copyTo_run {phase : CopyPhase σ} {future : List Bytes} {result : Exec RepeError σ}
    (inv : CopyInv temp writer start total clean (clean = true) future disk phase)
    (steady : reader.Steady) (look : reader.ahead = (future, clean))
    (seen : ∀ state, phase = .copied state → reader.lastSeen = true)
    (ran : (copyTo temp writer start).run fuel phase reader disk = some (result, after, left)) :
    (∃ state, result = .ok state ∧ Live temp writer start total [] state left [] ∧ clean = true ∧
        after.lastSeen = true) ∨
      ∃ error, result = .err error ∧ Spoiled writer start total clean left := by
  -- The invariant is carried from step to step; what is ahead of the reader is what is to come.
  induction fuel generalizing phase reader disk future with
  | zero => simp [Consumer.run] at ran
  | succ fuel ih =>
    cases phase with
    | copied state =>
      cases ran
      exact .inl ⟨state, rfl, inv.1, inv.2.1, seen state rfl⟩
    | failed error =>
      cases ran
      exact .inr ⟨_, rfl, inv⟩
    | writing piece pieces state =>
      have next : CopyInv temp writer start total clean (clean = true) future
          (disk.perform (.write temp piece)).2 (.afterWrite writer state piece pieces
            (disk.perform (.write temp piece)).1) := copyInv_write inv rfl
      exact ih next steady look (fun _ ends => absurd ends CopyPhase.afterWrite_ne_copied) ran
    | reading state =>
      -- A read finds bytes, the end or a break, by what is ahead.
      have finds := reader.read_finds steady
      rw [look] at finds
      simp only [Consumer.run, copyTo] at ran
      generalize reader.read copyBuffer = found at finds ran
      cases finds with
      | bytes next filled steady left =>
        cases next
        refine ih (copyInv_read inv filled) steady left ?_ ran
        intro _ ends
        exact absurd ends (CopyPhase.afterRead_ne_copied filled)
      | eof none ends steady last left =>
        cases none
        have next : CopyInv temp writer start total clean (clean = true) [] disk (.copied state) :=
          ⟨inv, ends, rfl⟩
        exact ih next steady (by rw [left, show clean = true from ends]) (fun _ _ => last) ran
      | broken none breaks steady =>
        -- The copy fails at once.
        cases fuel with
        | zero => simp [Consumer.run] at ran
        | succ fuel =>
          cases ran
          exact .inr ⟨_, rfl, .inr (.inr breaks)⟩

/-- A blocking save of a stream ends with a complete file, or has a reason to fail. -/
theorem saveTo_run {phase : (saveTo temp writer start).State} {future : List Bytes} {old : Option Bytes}
    {result : Exec RepeError σ} (nothing : writer.held start = [])
    (inv : SaveInv temp writer start total clean (clean = true) old future disk phase)
    (steady : reader.Steady) (look : SavePhase.reads phase = true → reader.ahead = (future, clean))
    (ran : (saveTo temp writer start).run fuel phase reader disk = some (result, after, left)) :
    (∃ state, result = .ok state ∧ Live temp writer start total [] state left [] ∧ clean = true ∧
        writer.close state = .ok ()) ∨
      ∃ error, result = .err error ∧ Spoiled writer start total clean left ∧
        Cleared temp old left := by
  -- The closure ends by itself, so every case but the first goes on.
  induction fuel generalizing phase reader disk future with
  | zero => simp [Consumer.run] at ran
  | succ fuel ih =>
    unfold Consumer.run at ran
    split at ran
    · next ended acts =>
      cases ran
      exact saveInv_done inv acts
    · next size resume acts =>
      obtain ⟨rfl, state, rfl, rfl⟩ := saveTo_reads acts
      have finds := reader.read_finds steady
      rw [look rfl] at finds
      generalize reader.read copyBuffer = found at finds ran
      cases finds with
      | @bytes cut rest _ same filled steady left =>
        cases same
        have next : SaveInv temp writer start total clean (clean = true) old rest disk
            (.copying (.afterRead writer state (.ok cut))) := copyInv_read inv filled
        exact ih next steady (fun _ => left) ran
      | eof none ends steady last left =>
        cases none
        have next : SaveInv temp writer start total clean (clean = true) old [] disk
            (.copying (.copied state)) := ⟨inv, ends, rfl⟩
        exact ih next steady nofun ran
      -- What is ahead of a broken reader does not matter, since nothing reads it any more.
      | broken none breaks steady =>
        have next : ∀ error, SaveInv temp writer start total clean (clean = true) old future disk
            (.copying (.failed error)) := fun _ => .inr (.inr breaks)
        exact ih (next _) steady nofun ran
    · next op resume acts =>
      exact ih (saveInv_disk nothing inv acts rfl) steady
        (fun reads => look (saveTo_reads_of_disk acts reads)) ran

theorem ChunkReader.ahead_new (link : Link) :
    (ChunkReader.new link).ahead = ((Svs.ahead link.replies).1, (Svs.ahead link.replies).2) := by
  simp [ChunkReader.ahead, ChunkReader.new]

theorem kept_after {op : DiskOp DiskPath} {before : LocalDisk} {got : Except IoError Unit}
    (kept : Kept temp before disk) (performed : disk.perform op = (got, left))
    (only : ∀ touched ∈ op.touched, touched = temp) : Kept temp before left := by
  have step := kept.perform only
  rwa [performed] at step

theorem harmed_of_error {op : DiskOp DiskPath} {error : IoError}
    (performed : disk.perform op = (.error error, left)) (other : op.isRemove = false) :
    ∃ op ∈ left.failed, op.isRemove = false :=
  ⟨op, by rw [(Disk.perform_error performed).2]; exact List.mem_concat_self, other⟩

theorem cleared_uncreated {error : IoError}
    (performed : disk.perform (.create temp) = (.error error, left)) :
    Cleared temp (disk.files temp) left := by
  obtain ⟨⟨written, files⟩, failed⟩ := Disk.perform_error performed
  -- The failed creation is on record, and it left nothing behind.
  refine .inr (.inr ⟨?_, ?_⟩)
  · rw [failed]
    exact List.mem_concat_self
  · rw [files]
    rfl

/-- The end of `write_file` on a file that is ready. -/
theorem finishFile_atomic {path : DiskPath} {before : Receiver} {copied : Nat}
    (ready : Ready path fileWriter 0 copied before disk) (seen : reader.lastSeen = true) :
    Atomic path fileWriter 0 (fun _ => .ok ()) before
      ((Receiver.finishFile reader disk (tempSibling path) path).1 = .ok ())
      (Receiver.finishFile reader disk (tempSibling path) path).2.disk := by
  have nothing : fileWriter.held 0 = [] := rfl
  -- Flush and sync fail like a write does; only their effect on the file is none.
  rcases flushed : disk.perform (.flush (tempSibling path)) with ⟨got, disk'⟩
  have kept := kept_after ready.kept flushed (by simp [DiskOp.touched])
  cases got with
  | error error =>
    simp only [Receiver.finishFile, seen, Bool.true_eq_false, if_false, flushed]
    exact atomic_of_failed nothing (by simp [Receiver.abort]) (harmed_of_error flushed rfl) kept
  | ok _ =>
    have live := ready.live.quiet flushed rfl
    rcases synced : disk'.perform (.sync (tempSibling path)) with ⟨got, disk''⟩
    have kept := kept_after kept synced (by simp [DiskOp.touched])
    cases got with
    | error error =>
      simp only [Receiver.finishFile, seen, Bool.true_eq_false, if_false, flushed, synced]
      exact atomic_of_failed nothing (by simp [Receiver.abort]) (harmed_of_error synced rfl) kept
    | ok _ =>
      simp only [Receiver.finishFile, seen, Bool.true_eq_false, if_false, flushed, synced]
      have done : Ready path fileWriter 0 copied before disk'' :=
        ⟨live.quiet synced rfl, rfl, ready.clean, kept⟩
      exact done.commit nothing rfl

/-- A stream that was not read up to its last chunk, as `write_file` leaves it: nothing is replaced. -/
structure Truncated (path : DiskPath) (before : Receiver) (ending : Ending Unit) : Prop where
  refused : ending.1 = .err (.io ⟨.unexpectedEof, "svs: stream ended without a final chunk"⟩)
  kept : Kept (tempSibling path) before.disk ending.2.disk
  cleared : Cleared (tempSibling path) (before.disk.files (tempSibling path)) ending.2.disk

/--
`write_file` replaces its destination by the whole content, or leaves it.

What fills the file does as a copy of the content does, which a decompressor hands on. If that may stop
early, the check of the last chunk is what keeps a truncated file from being put in place.
-/
theorem writeFile_atomic {path : DiskPath} (before : Receiver) {link : Link} {ending : Ending Unit}
    {fill : Consumer Nat} (early : Prop) (fresh : before.disk.failed = [])
    (copies : ∀ {fuel disk filled reader left},
      fill.run fuel fill.start (.new link) disk = some (filled, reader, left) →
        ∃ fuel other, (Receiver.copyChunks path).run fuel (.reading 0) (.new before.link) disk =
          some (filled, other, left) ∧ (other.lastSeen = true → reader.lastSeen = true ∨ early))
    (ended : Receiver.writeFile fuel ⟨link, before.disk⟩ path fill = some ending) :
    Atomic path fileWriter 0 (fun _ => .ok ()) before (ending.1 = .ok ()) ending.2.disk ∨
      early ∧ Truncated path before ending := by
  have start : Kept (tempSibling path) before.disk before.disk := fun _ _ => rfl
  unfold Receiver.writeFile at ended
  dsimp only at ended
  -- Without a temporary file there is no pull.
  rcases created : before.disk.perform (.create (tempSibling path)) with ⟨got, disk⟩
  rw [created] at ended
  have kept := kept_after start created (by simp [DiskOp.touched])
  cases got with
  | error error =>
    cases ended
    exact .inl (atomic_of_spoiled rfl (by simp) (.inl (harmed_of_error created rfl)) kept
      (cleared_uncreated created))
  | ok _ =>
    obtain ⟨⟨filled, reader, disk'⟩, ran, rfl⟩ := Option.map_eq_some_iff.mp ended
    obtain ⟨_, other, ran, last⟩ := copies ran
    have kept := Consumer.kept_run (copyTo_within _ _ _) kept ran
    have inv : CopyInv (tempSibling path) fileWriter 0 (ahead before.link.replies).1
        (ahead before.link.replies).2 ((ahead before.link.replies).2 = true)
        (ahead before.link.replies).1 disk (.reading 0) := live_created fresh rfl created
    have steady : (ChunkReader.new before.link).Steady := rfl
    -- The copy is complete and ready for the end, or has a reason to fail.
    rcases copyTo_run inv steady (ChunkReader.ahead_new before.link) (by simp) ran with
      ⟨copied, rfl, live, clean, seen⟩ | ⟨error, rfl, spoiled⟩
    · rcases flag : reader.lastSeen with _ | _
      · refine .inr ⟨(last seen).resolve_left (by simp [flag]), ?_⟩
        simp only [Receiver.afterFill, Receiver.finishFile, flag, if_true]
        exact ⟨rfl, kept.perform (by simp [DiskOp.touched]), cleared_remove _ _ _⟩
      · exact .inl (finishFile_atomic ⟨live, rfl, clean, kept⟩ flag)
    · refine .inl (atomic_of_spoiled rfl ?_ spoiled.perform (kept.perform ?_) (cleared_remove _ _ _))
      · simp [Receiver.afterFill, Receiver.abort]
      · simp [DiskOp.touched]

/-- The answer to an `open` of a stream with a compression. -/
def openedStream (compression : Compression) (id : UInt64) (format : UInt16) :
    Except RepeError OpenResponse :=
  .ok ⟨svsVersion, id, format, compression.toU8⟩

theorem parse_openedStream (compression : Compression) (id : UInt64) (format : UInt16) :
    parseOpenResponse (openedStream compression id format) = .ok ⟨id, format, compression⟩ := by
  cases compression <;> rfl

theorem Atomic.congr {path : DiskPath} {verify : σ → Except RepeError Unit} {before : Receiver}
    {placed other : Prop} (atomic : Atomic path writer start verify before placed disk)
    (same : placed ↔ other) : Atomic path writer start verify before other disk := by
  rwa [← propext same]

theorem placed_iff_returned {path : DiskPath} {verify : σ → Except RepeError Unit}
    (receiver : Receiver) (state : σ) :
    (Receiver.publish receiver.disk path (verify state)).1 = .ok () ↔
      ∃ value, (Receiver.afterSave path verify (.ok state, receiver)).1 = .ok value := by
  simp only [Receiver.afterSave]
  -- Only the result of the end matters.
  generalize Receiver.publish receiver.disk path (verify state) = published
  obtain ⟨result, disk⟩ := published
  cases result <;> simp

/-- A save of a stream, and what is done with the file it returns, is atomic. -/
theorem saveTo_atomic {path : DiskPath} {verify : σ → Except RepeError Unit} {before : Receiver}
    {result : Exec RepeError σ} (nothing : writer.held start = []) (fresh : before.disk.failed = [])
    (ran : (saveTo (tempSibling path) writer start).run fuel .creating (.new before.link) before.disk =
      some (result, after, left)) (link : Link) :
    Atomic path writer start verify before
      (∃ value, (Receiver.afterSave path verify (result, ⟨link, left⟩)).1 = .ok value)
      (Receiver.afterSave path verify (result, ⟨link, left⟩)).2.disk := by
  have kept := Consumer.kept_run (saveTo_within _ _ _) (fun _ _ => rfl) ran
  have inv : SaveInv (tempSibling path) writer start (ahead before.link.replies).1
      (ahead before.link.replies).2 ((ahead before.link.replies).2 = true)
      (before.disk.files (tempSibling path)) (ahead before.link.replies).1 before.disk .creating :=
    ⟨rfl, fresh, rfl⟩
  have steady : (ChunkReader.new before.link).Steady := rfl
  -- The closure hands back a guard, or has removed its file.
  rcases saveTo_run nothing inv steady (fun _ => ChunkReader.ahead_new before.link) ran with
    ⟨state, rfl, live, clean, closed⟩ | ⟨error, rfl, spoiled, cleared⟩
  · have ready : Ready path writer start state before left := ⟨live, closed, clean, kept⟩
    exact (ready.publish nothing).congr (placed_iff_returned ⟨link, left⟩ state)
  · exact atomic_of_spoiled nothing (by simp [Receiver.afterSave]) spoiled kept cleared

end Blocking

end Repe.Svs
