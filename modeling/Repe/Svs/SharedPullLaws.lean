import Repe.Svs.CopyLaws
import Repe.Svs.SharedPull

/-! What pulls to the same destination leave there: the whole content of one of them, as long as no
two of them use the temporary file at the same time. -/

namespace Repe.Svs

section Alone

variable {form : FileForm} {path temp : DiskPath} {disk : LocalDisk} {heard : Except RepeError Unit}

theorem Rest.commit_run : (Rest.commit temp path).run heard disk = Receiver.commit disk temp path := by
  simp only [Rest.commit, Rest.run, Receiver.commit]
  rcases disk.perform (.rename temp path) with ⟨error | _, after⟩ <;> rfl

theorem Rest.publish_run (verdict : Except RepeError Unit) :
    (Rest.publish (tempSibling path) path verdict).run heard disk =
      Receiver.publish disk path verdict := by
  cases verdict with
  | error error => rfl
  | ok _ => exact Rest.commit_run

theorem FileForm.sync_run (next : Rest) :
    (form.sync temp next).run heard disk =
      match disk.perform (.flush temp) with
      | (.error error, after) => (form.failed (.io error)).run heard (after.perform (.remove temp)).2
      | (.ok (), flushed) =>
        match flushed.perform (.sync temp) with
        | (.error error, after) =>
          (form.failed (.io error)).run heard (after.perform (.remove temp)).2
        | (.ok (), after) => next.run heard after := by
  simp only [FileForm.sync, Rest.run]
  -- Either operation can fail, and both failures end alike.
  rcases disk.perform (.flush temp) with ⟨error | _, flushed⟩
  · rfl
  · simp only [Rest.run]
    rcases flushed.perform (.sync temp) with ⟨error | _, after⟩ <;> rfl

/--
The rest of a pull by `write_file` is the one of a pull that runs by itself, if what it hears is
whether the last chunk was seen.
-/
theorem FileForm.rest_writeFile (copied : Nat) (reader : ChunkReader) (disk : LocalDisk) :
    (FileForm.toFile.rest path copied).run
        (if reader.lastSeen = false then
          .error (.io ⟨.unexpectedEof, "svs: stream ended without a final chunk"⟩) else .ok ()) disk =
      ((Receiver.finishFile reader disk (tempSibling path) path).1,
        (Receiver.finishFile reader disk (tempSibling path) path).2.disk) := by
  unfold Receiver.finishFile
  cases reader.lastSeen with
  -- Without its last chunk the file is dropped before anything is flushed.
  | false => rfl
  | true =>
    simp only [Bool.true_eq_false, if_false, FileForm.rest, FileForm.entry, Rest.run,
      FileForm.sync_run, Rest.commit_run]
    rcases disk.perform (.flush (tempSibling path)) with ⟨error | _, flushed⟩
    · rfl
    · simp only
      rcases flushed.perform (.sync (tempSibling path)) with ⟨error | _, after⟩ <;> rfl

/-- What a pull whose closure failed reports is what its other half makes of the failure. -/
theorem FileForm.failed_run (joinError : String) (link : Link) (error : RepeError)
    (closure : form.entry ≠ .writeFile) (alone : form.entry = .pullConsume → heard = .ok ()) :
    let ending := Receiver.afterSave path form.verify (AsyncPull.conclude
      (fun _ => [.remove (tempSibling path)]) joinError ⟨link, disk⟩ heard (.err error))
    (form.failed error).run heard disk = (ending.1 >>= fun _ => .ok (), ending.2.disk) := by
  unfold FileForm.failed
  -- The blocking pull is alone, and the async one hears from its other half.
  cases entry : form.entry with
  | writeFile => exact absurd entry closure
  | pullConsume =>
    rw [alone entry]
    rfl
  | pullConsumeAsync => cases heard <;> rfl

/--
The rest of the other pulls is that of their closure, what the other half makes of its result, and
the check on the file.
-/
theorem FileForm.rest_closure (fuel : Nat) (joinError : String) (state : form.State)
    (reader : ChunkReader) (disk : LocalDisk) (closure : form.entry ≠ .writeFile)
    (alone : form.entry = .pullConsume → heard = .ok ()) :
    ∃ saved after, (saveTo (tempSibling path) form.writer form.start).run (fuel + 4)
        (.copying (.copied state)) reader disk = some (saved, reader, after) ∧
      let ending := Receiver.afterSave path form.verify (AsyncPull.conclude
        (fun _ => [.remove (tempSibling path)]) joinError ⟨reader.link, after⟩ heard saved)
      (form.rest path state).run heard disk = (ending.1 >>= fun _ => .ok (), ending.2.disk) := by
  -- What follows a file that is complete is the same for both entries.
  obtain ⟨next, shape, handed⟩ : ∃ next, form.rest path state =
      form.close (tempSibling path) state next ∧ ∀ after : LocalDisk,
        let ending := Receiver.afterSave path form.verify (AsyncPull.conclude
          (fun _ => [.remove (tempSibling path)]) joinError ⟨reader.link, after⟩ heard (.ok state))
        next.run heard after = (ending.1 >>= fun _ => .ok (), ending.2.disk) := by
    unfold FileForm.rest
    cases entry : form.entry with
    | writeFile => exact absurd entry closure
    | pullConsume =>
      refine ⟨_, rfl, fun after => ?_⟩
      rw [alone entry, Rest.publish_run]
      simp only [AsyncPull.conclude, Receiver.afterSave]
      rcases Receiver.publish after path (form.verify state) with ⟨_ | _ | _, left⟩ <;> rfl
    | pullConsumeAsync =>
      refine ⟨_, rfl, fun after => ?_⟩
      cases heard with
      | error error => rfl
      | ok _ =>
        simp only [Rest.run, Rest.publish_run, AsyncPull.conclude, Receiver.afterSave]
        rcases Receiver.publish after path (form.verify state) with ⟨_ | _ | _, left⟩ <;> rfl
  -- Before that the closure can fail at the trailer, the flush and the sync, with one report.
  rw [shape, FileForm.close]
  simp only [Consumer.run, saveTo]
  cases form.writer.close state with
  | error error => exact ⟨_, _, rfl, FileForm.failed_run joinError reader.link _ closure alone⟩
  | ok _ =>
    simp only [FileForm.sync_run]
    rcases disk.perform (.flush (tempSibling path)) with ⟨error | _, flushed⟩
    · exact ⟨_, _, rfl, FileForm.failed_run joinError reader.link _ closure alone⟩
    · simp only [SavePhase.afterFlush]
      rcases flushed.perform (.sync (tempSibling path)) with ⟨error | _, after⟩
      · exact ⟨_, _, rfl, FileForm.failed_run joinError reader.link _ closure alone⟩
      · exact ⟨_, _, rfl, handed after⟩

end Alone

/-- The rest of a pull that reports a failure, and does not touch a file any more. -/
def Rest.Fails : Rest → Prop
  | .done result => result ≠ .ok ()
  | .report resume => ∀ outcome, resume outcome ≠ .ok ()
  | _ => False

/--
The rest of a pull puts its file in place only if it is ready, reports success only then, and
otherwise removes it at most.
-/
inductive Rest.Careful (path : DiskPath) (ready : Prop) : Rest → Prop where
  | over_ {rest : Rest} (fails : rest.Fails) : Careful path ready rest
  | drop {last : Rest} (fails : last.Fails) : Careful path ready (.drop (tempSibling path) last)
  | commit (whole : ready) : Careful path ready (.commit (tempSibling path) path)
  | quiet {op : DiskOp DiskPath} {resume : Except IoError Unit → Rest} (still : op.touched = [])
      (next : ∀ got, Careful path ready (resume got)) : Careful path ready (.work op resume)
  | wait {resume : Except RepeError Unit → Rest}
      (next : ∀ outcome, Careful path ready (resume outcome)) : Careful path ready (.wait resume)

section Endings

variable {form : FileForm} {path : DiskPath} {ready : Prop}

theorem FileForm.failed_fails (error : RepeError) : (form.failed error).Fails := by
  unfold FileForm.failed
  -- In each form what follows a failure is to report one.
  split
  · exact nofun
  · exact nofun
  · intro outcome
    cases outcome <;> exact nofun

theorem Rest.careful_publish (whole : ready) (verdict : Except RepeError Unit) :
    Rest.Careful path ready (.publish (tempSibling path) path verdict) := by
  cases verdict with
  | error error => exact .drop nofun
  | ok _ => exact .commit whole

theorem FileForm.careful_sync {next : Rest} (careful : next.Careful path ready) :
    (form.sync (tempSibling path) next).Careful path ready := by
  refine .quiet rfl fun flushed => ?_
  -- A failed flush or sync drops the file.
  cases flushed with
  | error error => exact .drop (FileForm.failed_fails _)
  | ok _ =>
    refine .quiet rfl fun synced => ?_
    cases synced with
    | error error => exact .drop (FileForm.failed_fails _)
    | ok _ => exact careful

/-- The rest of a pull is careful if its file is ready whenever its writer has the trailer. -/
theorem FileForm.careful_rest (state : form.State)
    (whole : form.writer.trailerLen ≤ (form.writer.held state).length → ready) :
    (form.rest path state).Careful path ready := by
  -- Before the file is synced, the closures check that the trailer is there.
  have closes : ∀ next : Rest, (ready → next.Careful path ready) →
      (form.close (tempSibling path) state next).Careful path ready := by
    intro next careful
    unfold FileForm.close
    split
    · exact .drop (FileForm.failed_fails _)
    · next closed =>
      exact FileForm.careful_sync (careful (whole ((form.writer.close_ok state).mp closed)))
  unfold FileForm.rest
  cases entry : form.entry with
  | writeFile =>
    refine .wait fun outcome => ?_
    cases outcome with
    | error error => exact .drop nofun
    | ok _ =>
      -- There is no trailer in a plain file.
      cases form with
      | toFile => exact FileForm.careful_sync (.commit (whole (Nat.zero_le _)))
      | _ => cases entry
  | pullConsume => exact closes _ fun ready => Rest.careful_publish ready _
  | pullConsumeAsync =>
    refine closes _ fun ready => .wait fun outcome => ?_
    cases outcome with
    | error error => exact .drop nofun
    | ok _ => exact Rest.careful_publish ready _

theorem Rest.Fails.not_succeeded {rest : Rest} (fails : rest.Fails) : rest ≠ .done (.ok ()) := by
  intro succeeded
  subst succeeded
  exact fails rfl

theorem Rest.Careful.not_succeeded {rest : Rest} (careful : rest.Careful path ready) :
    rest ≠ .done (.ok ()) := by
  intro succeeded
  subst succeeded
  -- A careful rest that is over has failed.
  cases careful with
  | over_ fails => exact fails.not_succeeded rfl

end Endings

section Copies

variable {form : FileForm} {path : DiskPath} {fs : FileSystem DiskPath} {state : form.State}
  {reads : List Bytes}

/-- The copy of a pull that has read this much, as far as the file system under it goes. -/
def Copied (form : FileForm) (path : DiskPath) (fs : FileSystem DiskPath) (reads : List Bytes) :
    CopyPhase form.State → Prop :=
  CopyInv (tempSibling path) form.writer form.start reads false True [] ⟨fs.read, [], []⟩

/-- A copy depends on what is read, and not on which disk it is read from. -/
theorem copied_of_files {disk : LocalDisk} {copy : CopyPhase form.State}
    (inv : CopyInv (tempSibling path) form.writer form.start reads false True [] disk copy)
    (same : disk.files = fs.read) : Copied form path fs reads copy := by
  -- Every part of the invariant is about the files, or about what was read.
  have moves : ∀ {pieces state}, Live (tempSibling path) form.writer form.start reads pieces state
      disk [] → Live (tempSibling path) form.writer form.start reads pieces state
        ⟨fs.read, [], []⟩ [] := by
    intro pieces state live
    exact ⟨live.fed, same ▸ live.file, live.held, rfl⟩
  cases copy with
  | reading state => exact moves inv
  | writing piece pieces state => exact moves inv
  | copied state => exact ⟨moves inv.1, inv.2⟩
  | failed error => exact .inr (.inr rfl)

theorem Writer.feed_append {σ : Type} (writer : Writer σ) (state : σ) (first second : List Bytes) :
    writer.feed state (first ++ second) =
      match writer.feed state first with
      | .error error => .error error
      | .ok state => writer.feed state second := by
  -- Read by read; an error ends both.
  induction first generalizing state with
  | nil => rfl
  | cons cut rest ih =>
    simp only [List.cons_append, Writer.feed]
    split
    · rfl
    · exact ih _

theorem Live.extend {temp : DiskPath} {disk : LocalDisk} {cut : Bytes}
    (live : Live temp form.writer form.start reads [] state disk []) :
    Live temp form.writer form.start (reads ++ [cut]) [] state disk [cut] := by
  -- What is ahead and what is behind together are the reads, with the new one at the end.
  obtain ⟨written, file, sum⟩ := live.file
  refine ⟨?_, ⟨written, file, ?_⟩, ?_, live.unharmed⟩
  · rw [Writer.feed_append, live.finished]
    rfl
  · simp only [List.flatten_nil, List.append_nil] at sum ⊢
    rw [sum, List.flatten_append]
  · have held := live.held
    simp only [List.flatten_nil, List.length_nil, Nat.sub_zero] at held
    simp [held]

theorem copied_read (got : Except IoError Bytes)
    (copied : Copied form path fs reads (.reading state)) :
    Copied form path fs (reads ++ SharedPulls.readBytes got)
      (CopyPhase.afterRead form.writer state got) := by
  cases got with
  | error error => exact .inr (.inr rfl)
  | ok bytes =>
    cases bytes with
    -- The stream is at its end, and nothing is left to write.
    | nil =>
      simp only [SharedPulls.readBytes, if_true, List.append_nil]
      exact ⟨copied, trivial, rfl⟩
    | cons byte bytes =>
      simp only [SharedPulls.readBytes, reduceCtorEq, if_false]
      exact copyInv_read (Live.extend copied) nofun

theorem content_of_live
    (live : Live (tempSibling path) form.writer form.start reads [] state ⟨fs.read, [], []⟩ [])
    (long : form.writer.trailerLen ≤ (form.writer.held state).length) :
    fs.read (tempSibling path) = some (form.content reads) := by
  obtain ⟨written, file, sum⟩ := live.file
  have held := live.held
  simp only [List.flatten_nil, List.append_nil, List.length_nil, Nat.sub_zero] at sum held
  -- The held bytes are the last ones, and as many as the trailer has.
  have lengths := congrArg List.length sum
  rw [List.length_append] at lengths
  rw [FileForm.content, ← sum, List.take_left' (by rw [List.length_append]; omega)]
  exact file

end Copies

namespace SharedPulls

variable {ι : Type} [DecidableEq ι] {forms : ι → FileForm} {missing : IoError} {path : DiskPath}
  {shared after : SharedPulls forms}

def Sound (path : DiskPath) (fs : FileSystem DiskPath) (form : FileForm)
    (puller : Puller form.State) : Prop :=
  match puller.stage with
  | .creating => puller.reads = []
  | .copying copy => (∃ handle, puller.handle = some handle ∧ fs.Owns (tempSibling path) handle) ∧
    Copied form path fs puller.reads copy
  | .ending rest => rest = .done (.ok ()) ∨
    rest.Careful path (fs.read (tempSibling path) = some (form.content puller.reads))

/-- What holds in every state of a run in which no pull disturbs another one. -/
structure Whole (path : DiskPath) (shared : SharedPulls forms) : Prop where
  single : ∀ pull other, (shared.pulls pull).stage.busy = true →
    (shared.pulls other).stage.busy = true → other = pull
  sound : ∀ pull, Sound path shared.fs (forms pull) (shared.pulls pull)
  succeeded : ∀ pull, shared.Succeeded pull ↔ pull ∈ shared.commits
  placed : ∀ pull, shared.commits.getLast? = some pull →
    shared.fs.read path = some (shared.content pull)

/-- A pull that does not use the temporary file does not care what becomes of it. -/
theorem Sound.of_idle {fs fs' : FileSystem DiskPath} {form : FileForm} {puller : Puller form.State}
    (sound : Sound path fs form puller) (idle : puller.stage.busy = false) :
    Sound path fs' form puller := by
  unfold Sound at sound ⊢
  split at sound
  · exact sound
  · next copying =>
    rw [copying] at idle
    cases idle
  · next rest ending =>
    rw [ending] at idle
    rcases sound with done | careful
    · exact .inl done
    · refine .inr ?_
      -- Only what has been reported is not in use.
      cases careful with
      | over_ fails => exact .over_ fails
      | drop fails => cases idle
      | commit whole => cases idle
      | quiet still next => cases idle
      | wait next => cases idle

theorem sound_ofCopy {fs : FileSystem DiskPath} {form : FileForm} {copy : CopyPhase form.State}
    {handle : Handle} {reads : List Bytes} (owns : fs.Owns (tempSibling path) handle)
    (copied : Copied form path fs reads copy) :
    Sound path fs form ⟨.ofCopy path copy, some handle, reads⟩ := by
  -- The copy goes on with its handle, or the file is complete, or it is dropped.
  cases copy with
  | reading state => exact ⟨⟨handle, rfl, owns⟩, copied⟩
  | writing piece pieces state => exact ⟨⟨handle, rfl, owns⟩, copied⟩
  | copied state =>
    exact .inr (FileForm.careful_rest state fun long => content_of_live copied.1 long)
  | failed error => exact .inr (.drop (FileForm.failed_fails _))

/-- The pulls after one of them got on, which nobody disturbed. -/
theorem Whole.pulls_after (whole : shared.Whole path) {pull : ι}
    {puller : Puller (forms pull).State} {fs : FileSystem DiskPath} (commits : List ι)
    (alone : ∀ other, other ≠ pull → (shared.pulls other).stage.busy = false ∨
      (fs = shared.fs ∧ puller.stage.busy = false))
    (sound : Sound path fs (forms pull) puller) :
    let after : SharedPulls forms := ⟨fs, Function.update shared.pulls pull puller, commits⟩
    (∀ pull other, (after.pulls pull).stage.busy = true →
        (after.pulls other).stage.busy = true → other = pull) ∧
      ∀ pull, Sound path after.fs (forms pull) (after.pulls pull) := by
  intro after
  have own : after.pulls pull = puller := Function.update_self ..
  have others : ∀ other, other ≠ pull → after.pulls other = shared.pulls other :=
    fun other differs => Function.update_of_ne differs ..
  have idle : ∀ other, other ≠ pull → puller.stage.busy = true →
      (shared.pulls other).stage.busy = false := by
    intro other differs busy
    rcases alone other differs with idle | ⟨_, idle⟩
    · exact idle
    · rw [idle] at busy
      cases busy
  refine ⟨?_, ?_⟩
  · -- If the pull that got on is busy, then it is the only one.
    intro first second one two
    by_cases same : first = pull <;> by_cases also : second = pull
    · rw [same, also]
    · subst same
      rw [own] at one
      rw [others second also, idle second also one] at two
      cases two
    · subst also
      rw [own] at two
      rw [others first same, idle first same two] at one
      cases one
    · rw [others first same] at one
      rw [others second also] at two
      exact whole.single first second one two
  · intro other
    by_cases same : other = pull
    · subst same
      rw [own]
      exact sound
    · rw [others other same]
      -- Another pull does not use the file, or the files are what they were.
      rcases alone other same with idle | ⟨kept, _⟩
      · exact (whole.sound other).of_idle idle
      · show Sound path fs _ _
        rw [kept]
        exact whole.sound other

/-- A pull gets on without putting a file in place. -/
theorem Whole.keep (whole : shared.Whole path) {pull : ι} {puller : Puller (forms pull).State}
    {fs : FileSystem DiskPath} (before : ¬shared.Succeeded pull)
    (alone : ∀ other, other ≠ pull → (shared.pulls other).stage.busy = false ∨
      (fs = shared.fs ∧ puller.stage.busy = false))
    (sound : Sound path fs (forms pull) puller) (still : puller.stage ≠ .ending (.done (.ok ())))
    (kept : fs.read path = shared.fs.read path) :
    Whole path ⟨fs, Function.update shared.pulls pull puller, shared.commits⟩ := by
  obtain ⟨single, sounds⟩ := whole.pulls_after shared.commits alone sound
  refine ⟨single, sounds, ?_, ?_⟩
  · intro other
    by_cases same : other = pull
    · subst same
      rw [← whole.succeeded other]
      simp only [Succeeded, Function.update_self]
      exact iff_of_false still before
    · rw [← whole.succeeded other]
      simp only [Succeeded, Function.update_of_ne same]
  · -- The last pull in place is another one, and so is its content.
    intro last found
    have committed : last ∈ shared.commits := List.mem_of_getLast? found
    have differs : last ≠ pull := by
      intro same
      exact before (same ▸ (whole.succeeded last).mpr committed)
    simp only [content, Function.update_of_ne differs]
    exact kept.trans (whole.placed last found)

/-- A pull puts its file in place. -/
theorem Whole.place (whole : shared.Whole path) {pull : ι} {puller : Puller (forms pull).State}
    {fs : FileSystem DiskPath}
    (alone : ∀ other, other ≠ pull → (shared.pulls other).stage.busy = false ∨
      (fs = shared.fs ∧ puller.stage.busy = false))
    (done : puller.stage = .ending (.done (.ok ())))
    (holds : fs.read path = some ((forms pull).content puller.reads)) :
    Whole path ⟨fs, Function.update shared.pulls pull puller, shared.commits ++ [pull]⟩ := by
  have sound : Sound path fs (forms pull) puller := by
    simp only [Sound, done]
    exact .inl trivial
  obtain ⟨single, sounds⟩ := whole.pulls_after (shared.commits ++ [pull]) alone sound
  refine ⟨single, sounds, ?_, ?_⟩
  · intro other
    rw [List.mem_append, List.mem_singleton, ← whole.succeeded other]
    -- The pull that has just committed has succeeded; for the others nothing changes.
    by_cases same : other = pull
    · subst same
      simp [Succeeded, done]
    · simp [Succeeded, same]
  · intro last found
    rw [List.getLast?_concat] at found
    cases found
    simpa only [content, Function.update_self] using holds

/-- What a step does to the destination: nothing, unless it puts a file in place. -/
def Moved (path : DiskPath) (shared after : SharedPulls forms) : Prop :=
  (after.commits = shared.commits ∧ after.fs.read path = shared.fs.read path) ∨
    ∃ pull, after.commits = shared.commits ++ [pull]

omit [DecidableEq ι] in
theorem Whole.alone (whole : shared.Whole path) {pull other : ι}
    (busy : (shared.pulls pull).stage.busy = true) (differs : other ≠ pull) :
    (shared.pulls other).stage.busy = false := by
  cases also : (shared.pulls other).stage.busy with
  | false => rfl
  | true => exact absurd (whole.single pull other busy also) differs

/-- A copy or its end uses the temporary file, and has not succeeded. -/
theorem busy_ofCopy {form : FileForm} (copy : CopyPhase form.State) :
    (Stage.ofCopy path copy).busy = true ∧ Stage.ofCopy path copy ≠ .ending (.done (.ok ())) := by
  cases copy with
  | reading state => exact ⟨rfl, nofun⟩
  | writing piece pieces state => exact ⟨rfl, nofun⟩
  | failed error => exact ⟨rfl, nofun⟩
  | copied state =>
    -- What follows a copy starts with an operation, or waits.
    have starts : (Stage.ending (form.rest path state) : Stage form.State).busy = true := by
      unfold FileForm.rest FileForm.close
      cases form.entry with
      | writeFile => rfl
      | pullConsume => cases form.writer.close state <;> rfl
      | pullConsumeAsync => cases form.writer.close state <;> rfl
    refine ⟨starts, ?_⟩
    intro done
    have idle : (Stage.ofCopy path (.copied state) : Stage form.State).busy = false := by
      rw [done]
      rfl
    rw [show Stage.ofCopy path (.copied state) = .ending (form.rest path state) from rfl,
      starts] at idle
    cases idle

/-- A read gets a copy on. -/
theorem whole_read {pull : ι} {copy : CopyPhase (forms pull).State} {size : Nat}
    {resume : Except IoError Bytes → CopyPhase (forms pull).State} (got : Except IoError Bytes)
    (whole : shared.Whole path) (copying : (shared.pulls pull).stage = .copying copy)
    (acts : ((forms pull).copy path).act copy = .read size resume) :
    Whole path (shared.become pull { shared.pulls pull with
      stage := .ofCopy path (resume got)
      reads := (shared.pulls pull).reads ++ readBytes got }) := by
  have sound := whole.sound pull
  simp only [Sound, copying] at sound
  obtain ⟨⟨handle, holds, owns⟩, copied⟩ := sound
  -- Only a copy that is about to read does so.
  cases copy with
  | reading state =>
    cases acts
    refine whole.keep ?_ ?_ ?_ (busy_ofCopy _).2 rfl
    · simp [Succeeded, copying]
    · intro other differs
      exact .inl (whole.alone (by rw [copying]; rfl) differs)
    · simp only [holds]
      exact sound_ofCopy owns (copied_read got copied)
  | writing piece pieces state => cases acts
  | copied state => cases acts
  | failed error => cases acts

/-- The creation of the temporary file, while no other pull uses it. -/
theorem whole_create {pull : ι} (fault : Option (IoError × Nat)) (whole : shared.Whole path)
    (creating : (shared.pulls pull).stage = .creating)
    (alone : ∀ other, (shared.pulls other).stage.busy = false) :
    Whole path (shared.perform missing pull (.create (tempSibling path)) fault Stage.ofCreate) ∧
      Moved path shared
        (shared.perform missing pull (.create (tempSibling path)) fault Stage.ofCreate) := by
  have before : ¬shared.Succeeded pull := by simp [Succeeded, creating]
  have sound := whole.sound pull
  simp only [Sound, creating] at sound
  rcases fault with _ | ⟨error, written⟩
  · -- The creation reaches no name but the temporary one.
    have kept : (shared.fs.create (tempSibling path)).2.read path = shared.fs.read path := by
      rw [FileSystem.read_create, Function.update_of_ne (tempSibling_ne path).symm]
    refine ⟨whole.keep before (fun other _ => .inl (alone other)) ?_ nofun kept, .inl ⟨rfl, kept⟩⟩
    refine ⟨⟨_, rfl, FileSystem.owns_create ..⟩, ?_⟩
    rw [sound]
    -- Nothing was read, and nothing is in the file.
    have clean : (⟨shared.fs.read, [none], []⟩ : LocalDisk).failed = [] := rfl
    refine copied_of_files (live_created clean ?_ rfl) ?_
    · cases forms pull <;> rfl
    · exact (FileSystem.perform_create missing none none).2
  · -- A creation that fails ends the pull, and leaves the files as they were.
    refine ⟨whole.keep before (fun other _ => .inl (alone other)) ?_ ?_ rfl, .inl ⟨rfl, rfl⟩⟩
    · exact .inr (.over_ (FileForm.failed_fails _))
    · intro done
      exact (FileForm.failed_fails _).not_succeeded (Stage.ending.inj done)

/-- A write gets a copy on. -/
theorem whole_write {pull : ι} {copy : CopyPhase (forms pull).State} {op : DiskOp DiskPath}
    {resume : Except IoError Unit → CopyPhase (forms pull).State} (fault : Option (IoError × Nat))
    (whole : shared.Whole path) (copying : (shared.pulls pull).stage = .copying copy)
    (acts : ((forms pull).copy path).act copy = .disk op resume) :
    Whole path (shared.perform missing pull op fault fun got => .ofCopy path (resume got)) ∧
      Moved path shared
        (shared.perform missing pull op fault fun got => .ofCopy path (resume got)) := by
  have sound := whole.sound pull
  simp only [Sound, copying] at sound
  obtain ⟨⟨handle, holds, owns⟩, copied⟩ := sound
  cases copy with
  | writing piece pieces state =>
    cases acts
    -- The pull owns its file, so the write is what it is on a disk of its own.
    obtain ⟨same, files⟩ := @FileSystem.perform_owned _ _ _ _ _ (.write (tempSibling path) piece)
      missing fault owns nofun
    have kept : (shared.fs.perform missing (.write (tempSibling path) piece) fault
        (some handle)).2.2.read path = shared.fs.read path := by
      rw [← files, Disk.perform_untouched]
      simpa [DiskOp.touched] using (tempSibling_ne path).symm
    have quiet : places (.write (tempSibling path) piece) (shared.fs.perform missing
        (.write (tempSibling path) piece) fault (some handle)).1 = false := rfl
    obtain ⟨later, opened, owner⟩ : ∃ later, (shared.fs.perform missing
        (.write (tempSibling path) piece) fault (some handle)).2.1 = some later ∧
        (shared.fs.perform missing (.write (tempSibling path) piece) fault
          (some handle)).2.2.Owns (tempSibling path) later := by
      rcases fault with _ | ⟨error, written⟩
      · exact ⟨_, rfl, FileSystem.owns_write piece owns⟩
      · exact ⟨_, rfl, FileSystem.owns_write (piece.take written) owns⟩
    simp only [perform, holds, quiet, Bool.false_eq_true, if_false, opened]
    refine ⟨whole.keep ?_ ?_ ?_ (busy_ofCopy _).2 kept, .inl ⟨rfl, kept⟩⟩
    · simp [Succeeded, copying]
    · intro other differs
      exact .inl (whole.alone (by rw [copying]; rfl) differs)
    · refine sound_ofCopy owner ?_
      rw [← same]
      have live : Live (tempSibling path) (forms pull).writer (forms pull).start
          (shared.pulls pull).reads (piece :: pieces) state ⟨shared.fs.read, [fault], []⟩ [] :=
        ⟨copied.fed, copied.file, copied.held, rfl⟩
      exact copied_of_files (copyInv_write live rfl) files
  | reading state => cases acts
  | copied state => cases acts
  | failed error => cases acts

/-- What follows a copy gets on. -/
theorem whole_end {pull : ι} {op : DiskOp DiskPath} {resume : Except IoError Unit → Rest}
    (fault : Option (IoError × Nat)) (whole : shared.Whole path)
    (ending : (shared.pulls pull).stage = .ending (.work op resume)) :
    Whole path (shared.perform missing pull op fault fun got => .ending (resume got)) ∧
      Moved path shared (shared.perform missing pull op fault fun got => .ending (resume got)) := by
  have before : ¬shared.Succeeded pull := by simp [Succeeded, ending]
  have alone : ∀ other, other ≠ pull → (shared.pulls other).stage.busy = false :=
    fun other differs => whole.alone (by rw [ending]; rfl) differs
  have sound := whole.sound pull
  simp only [Sound, ending] at sound
  rcases sound with done | careful
  · cases done
  -- An operation of a careful end is the removal, a flush or a sync, or the rename.
  · generalize rest : Rest.work op resume = shape at careful
    cases careful with
    | over_ fails =>
      subst rest
      exact fails.elim
    | wait next => cases rest
    | drop fails =>
      cases rest
      have kept : (shared.fs.perform missing (.remove (tempSibling path)) fault
          (shared.pulls pull).handle).2.2.read path = shared.fs.read path :=
        FileSystem.read_remove missing fault _ (tempSibling_ne path).symm
      refine ⟨whole.keep before (fun other differs => .inl (alone other differs))
        (.inr (.over_ fails)) ?_ kept, .inl ⟨rfl, kept⟩⟩
      intro done
      exact fails.not_succeeded (Stage.ending.inj done)
    | quiet still next =>
      cases rest
      have same : (shared.fs.perform missing op fault (shared.pulls pull).handle).2.2 = shared.fs :=
        FileSystem.perform_quiet missing fault _ still
      have quiet : ∀ got, places op got = false := by
        intro got
        cases op <;> first | rfl | cases still
      simp only [perform, same, quiet, Bool.false_eq_true, if_false]
      refine ⟨whole.keep before (fun other differs => .inl (alone other differs))
        (.inr (next _)) ?_ rfl, .inl ⟨rfl, rfl⟩⟩
      intro done
      exact (next _).not_succeeded (Stage.ending.inj done)
    | commit ready =>
      cases rest
      rcases fault with _ | ⟨error, written⟩
      · -- The file is there, so it can be moved.
        obtain ⟨file, named, holds⟩ := Option.map_eq_some_iff.mp ready
        have moved := FileSystem.read_move named (tempSibling_ne path)
        simp only [perform, FileSystem.perform_rename missing _ named, places, if_true]
        refine ⟨whole.place (fun other differs => .inl (alone other differs)) rfl ?_, .inr ⟨_, rfl⟩⟩
        rw [moved, Function.update_of_ne (tempSibling_ne path).symm, Function.update_self]
        exact ready
      · -- A rename that fails leaves the file to be removed.
        refine ⟨whole.keep before (fun other differs => .inl (alone other differs))
          (.inr (.drop (by rintro ⟨⟩))) (by rintro ⟨⟩) rfl, .inl ⟨rfl, rfl⟩⟩

/-- Every step of a run in which no pull disturbs another one keeps the files whole. -/
theorem whole_step {event : PullEvent ι} (whole : shared.Whole path) (alone : shared.Alone event)
    (taken : shared.step missing path event = some after) :
    after.Whole path ∧ Moved path shared after := by
  cases event with
  | read pull got =>
    simp only [step] at taken
    split at taken
    · next copy copying =>
      split at taken
      · next size resume acts =>
        cases taken
        exact ⟨whole_read got whole copying acts, .inl ⟨rfl, rfl⟩⟩
      · cases taken
    · cases taken
  | work pull fault =>
    -- Which operation it is depends on the stage.
    obtain ⟨⟨op, next⟩, works, rfl⟩ := Option.map_eq_some_iff.mp taken
    cases stage : (shared.pulls pull).stage with
    | creating =>
      rw [stage] at works
      cases works
      exact whole_create fault whole stage (alone (by rw [stage]; rfl))
    | copying copy =>
      rw [stage] at works
      simp only [Stage.work] at works
      split at works
      · next acts =>
        cases works
        exact whole_write fault whole stage acts
      · cases works
    | ending rest =>
      rw [stage] at works
      cases rest with
      | work op resume =>
        cases works
        exact whole_end fault whole stage
      | done result => cases works
      | report resume => cases works
      | wait resume => cases works
  | hear pull outcome =>
    have sound := whole.sound pull
    simp only [step] at taken
    split at taken
    · next resume ending =>
      cases taken
      simp only [Sound, ending] at sound
      rcases sound with done | careful
      · cases done
      · cases careful with
        | over_ fails => exact fails.elim
        | wait next =>
          refine ⟨whole.keep ?_ ?_ (.inr (next outcome)) ?_ rfl, .inl ⟨rfl, rfl⟩⟩
          · simp [Succeeded, ending]
          · intro other differs
            exact .inl (whole.alone (by rw [ending]; rfl) differs)
          · intro done
            exact (next outcome).not_succeeded (Stage.ending.inj done)
    · -- The report of a pull that is over may come while another one is busy.
      next resume ending =>
      cases taken
      simp only [Sound, ending] at sound
      rcases sound with done | careful
      · cases done
      · cases careful with
        | over_ fails =>
          have refuses : (Rest.done (resume outcome)).Fails := fails outcome
          refine ⟨whole.keep ?_ ?_ (.inr (.over_ refuses)) ?_ rfl, .inl ⟨rfl, rfl⟩⟩
          · simp [Succeeded, ending]
          · intro other differs
            exact .inr ⟨rfl, rfl⟩
          · intro done
            exact refuses.not_succeeded (Stage.ending.inj done)
    · cases taken

/-- The files are whole in every state of a run in which no pull disturbs another one. -/
theorem whole_run {fs : FileSystem DiskPath} {events : List (PullEvent ι)}
    (alone : Transition.Meets (step missing path) Alone (start forms fs) events)
    (ran : Transition.run (step missing path) (start forms fs) events = some shared) :
    shared.Whole path := by
  refine Transition.invariant_of_meets (Whole path) ?_ ?_ alone ran
  · intro state event later whole alone taken
    exact (whole_step whole alone taken).1
  · -- At first no pull has done anything.
    refine ⟨nofun, fun _ => rfl, fun pull => ?_, nofun⟩
    exact iff_of_false nofun (List.not_mem_nil)

/--
In every run in which no pull creates the temporary file while another one uses it, exactly the
pulls that put a file in place report success, the destination holds the complete content of the
last of them, and it changes only when a pull puts its own complete content there.
-/
theorem pulls_commit_whole_files (forms : ι → FileForm) (missing : IoError) (path : DiskPath)
    (fs : FileSystem DiskPath) {events : List (PullEvent ι)} {shared : SharedPulls forms}
    (alone : Transition.Meets (step missing path) Alone (start forms fs) events)
    (ran : Transition.run (step missing path) (start forms fs) events = some shared) :
    (∀ pull, shared.Succeeded pull ↔ pull ∈ shared.commits) ∧
      (∀ pull, shared.commits.getLast? = some pull →
        shared.fs.read path = some (shared.content pull)) ∧
      ∀ event after, shared.Alone event → shared.step missing path event = some after →
        (after.commits = shared.commits ∧ after.fs.read path = shared.fs.read path) ∨
          ∃ pull, after.commits = shared.commits ++ [pull] ∧ after.Succeeded pull ∧
            after.fs.read path = some (after.content pull) := by
  have whole := whole_run alone ran
  refine ⟨whole.succeeded, whole.placed, ?_⟩
  intro event after alone taken
  -- A step leaves the destination alone, or is a commit.
  obtain ⟨later, kept | ⟨pull, committed⟩⟩ := whole_step whole alone taken
  · exact .inl kept
  · refine .inr ⟨pull, committed, ?_, ?_⟩
    · rw [later.succeeded, committed]
      exact List.mem_concat_self
    · apply later.placed
      rw [committed, List.getLast?_concat]

def noFiles : FileSystem DiskPath := ⟨fun _ => none, fun _ => [], 0, nofun, nofun⟩

def outFile : DiskPath := ⟨["srv"], some "out"⟩

def twoForms (pull : Fin 2) : FileForm := if pull = 0 then .toFile else .async

def copyOne (pull : Fin 2) (bytes : Bytes) : List (PullEvent (Fin 2)) :=
  [.work pull none, .read pull (.ok bytes), .work pull none]

/-- The end of the blocking pull: the last chunk was seen, and the file is synced and moved. -/
def endBlocking : List (PullEvent (Fin 2)) :=
  [.read 0 (.ok []), .hear 0 (.ok ()), .work 0 none, .work 0 none, .work 0 none]

/-- The end of the async pull: the file is synced, the loop has returned, and the file is moved. -/
def endAsync : List (PullEvent (Fin 2)) :=
  [.read 1 (.ok []), .work 1 none, .work 1 none, .hear 1 (.ok ()), .work 1 none]

def notFound : IoError := ⟨.other, "No such file or directory (os error 2)"⟩

/-- Two pulls one after the other each put their own content in place. -/
theorem pulls_in_turn_commit :
    ∃ shared, Transition.run (step notFound outFile) (start twoForms noFiles)
        (copyOne 0 [1, 2] ++ endBlocking ++ copyOne 1 [9] ++ endAsync) = some shared ∧
      shared.commits = [0, 1] ∧ shared.fs.read outFile = some (shared.content 1) := by
  have alone : Transition.Meets (step notFound outFile) Alone (start twoForms noFiles)
      (copyOne 0 [1, 2] ++ endBlocking ++ copyOne 1 [9] ++ endAsync) := by decide
  -- The run is evaluated, and then the theorem applied to it.
  obtain ⟨shared, ran, commits⟩ := Option.map_eq_some_iff.mp (show
    (Transition.run (step notFound outFile) (start twoForms noFiles)
      (copyOne 0 [1, 2] ++ endBlocking ++ copyOne 1 [9] ++ endAsync)).map
        (fun shared => shared.commits) = some [0, 1] by decide)
  have whole := pulls_commit_whole_files twoForms notFound outFile noFiles alone ran
  refine ⟨shared, ran, commits, whole.2.1 1 ?_⟩
  rw [commits]
  rfl

/--
Two pulls at the same time: the one that started later empties the file of the other, which reports
success with nothing in place, and then the later one writes to the file that is in place.
-/
theorem pulls_at_once_mix :
    ∃ shared after, Transition.run (step notFound outFile) (start twoForms noFiles)
        (copyOne 0 [1, 2] ++ [.work 1 none] ++ endBlocking) = some shared ∧
      shared.Succeeded 0 ∧ shared.content 0 = [1, 2] ∧ shared.fs.read outFile = some [] ∧
      Transition.run (step notFound outFile) shared [.read 1 (.ok [9]), .work 1 none] = some after ∧
      after.commits = shared.commits ∧ after.fs.read outFile = some [9] :=
  ⟨_, _, rfl, rfl, rfl, rfl, rfl, rfl, rfl⟩

end SharedPulls

end Repe.Svs
