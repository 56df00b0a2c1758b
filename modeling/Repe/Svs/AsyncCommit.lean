import Repe.Svs.Commit

/-! The async pulls to a file, in every interleaving of their two halves. -/

namespace Repe.Svs

/-- The reads that the loop will still feed into the channel. -/
def LoopState.ahead (loop : LoopState) (replies : List Reply) : List Bytes :=
  match loop with
  -- Every reply is still to be asked for.
  | .asking => (Svs.ahead replies).1
  -- The loop returns after the last chunk, whatever else the server would say.
  | .sending body last => cuts body ++ if last then [] else (Svs.ahead replies).1
  | .returned _ => []

def LoopState.clean (loop : LoopState) (replies : List Reply) : Bool :=
  match loop with
  | .asking => (Svs.ahead replies).2
  | .sending _ last => last || (Svs.ahead replies).2
  | .returned (.ok _) => true
  | .returned (.error _) => false

/-- A reply moves what it holds from the connection into the loop. -/
theorem ahead_afterNext (link : Link) :
    (AsyncPull.afterNext link.next.1).ahead link.next.2.replies = (ahead link.replies).1 ∧
      (AsyncPull.afterNext link.next.1).clean link.next.2.replies = (ahead link.replies).2 := by
  -- Each reply is one case of the loop.
  unfold Link.next
  cases link.replies with
  | nil => exact ⟨rfl, rfl⟩
  | cons reply later =>
    cases reply with
    | error code message => exact ⟨rfl, rfl⟩
    | chunk query body =>
      simp only [AsyncPull.afterNext, ahead]
      by_cases empty : body = []
      · subst empty
        cases isLast query <;> simp [LoopState.ahead, LoopState.clean]
      · cases isLast query <;> simp [empty, LoopState.ahead, LoopState.clean]

theorem ahead_sent (queue : List Bytes) (body : Bytes) (last : Bool) (replies : List Reply) :
    (queue ++ [body]).flatMap cuts ++
        LoopState.ahead (if last then .returned (.ok ()) else .asking) replies =
      queue.flatMap cuts ++ (LoopState.sending body last).ahead replies := by
  cases last <;> simp [LoopState.ahead]

section Interleaved

variable {σ : Type} {temp : DiskPath} {writer : Writer σ} {start : σ} {total : List Bytes}
  {clean : Bool} {old : Option Bytes} {before : LocalDisk}

/-- Knowing more at the end of the stream. -/
theorem SaveInv.mono {eof eof' : Prop} {future : List Bytes} {disk : LocalDisk}
    {phase : SavePhase σ} (more : eof → eof')
    (inv : SaveInv temp writer start total clean eof old future disk phase) :
    SaveInv temp writer start total clean eof' old future disk phase := by
  -- Only three phases say what is known at the end of the stream.
  cases phase with
  | creating => exact inv
  | copying copy =>
    cases copy with
    | copied state => exact ⟨inv.1, more inv.2.1, inv.2.2⟩
    | _ => exact inv
  | syncing state => exact ⟨inv.1, more inv.2.1, inv.2.2⟩
  | dropping error => exact inv
  | ended result =>
    cases result with
    | ok state => exact ⟨inv.1, more inv.2.1, inv.2.2⟩
    | error error => exact inv

variable (temp writer start total clean old before)

/-- What holds of the task, by what the loop has still to give. -/
def TaskInv (loop : LoopState) (replies : List Reply) (queue : List Bytes) (disk : LocalDisk) :
    TaskState (SavePhase σ) σ → Prop
  | .running rest phase =>
    SaveInv temp writer start total clean (∃ result, loop = .returned result) old
        (cuts rest ++ queue.flatMap cuts ++ loop.ahead replies) disk phase ∧
      loop.clean replies = clean
  | .returned (.ok state) =>
    Live temp writer start total [] state disk [] ∧ writer.close state = .ok () ∧
      (∃ result, loop = .returned result) ∧ loop.clean replies = clean
  | .returned (.err _) => Spoiled writer start total clean disk ∧ Cleared temp old disk
  | .returned .panic => False

structure PullInv (pull : AsyncPull (saveTo temp writer start)) : Prop where
  kept : Kept temp before pull.receiver.disk
  task : TaskInv temp writer start total clean old pull.loop pull.receiver.link.replies pull.queue
    pull.receiver.disk pull.task

variable {temp writer start total clean old before} {pull after : AsyncPull (saveTo temp writer start)}

/-- A step of the loop keeps what holds of the task, if it only moves what is to come. -/
theorem TaskInv.move {loop loop' : LoopState} {replies replies' : List Reply}
    {queue queue' : List Bytes} {disk : LocalDisk} {task : TaskState (SavePhase σ) σ}
    (inv : TaskInv temp writer start total clean old loop replies queue disk task)
    (going : ∀ result, loop ≠ .returned result)
    (same : queue'.flatMap cuts ++ loop'.ahead replies' =
      queue.flatMap cuts ++ loop.ahead replies)
    (ends : loop'.clean replies' = loop.clean replies) :
    TaskInv temp writer start total clean old loop' replies' queue' disk task := by
  -- A running task reads what is to come, in whichever half that is.
  cases task with
  | running rest phase =>
    obtain ⟨saves, clean⟩ := inv
    refine ⟨?_, ends.trans clean⟩
    rw [List.append_assoc, same, ← List.append_assoc]
    exact saves.mono fun ⟨result, returned⟩ => absurd returned (going result)
  | returned result =>
    cases result with
    | ok state => exact absurd inv.2.2.1.choose_spec (going _)
    | err error => exact inv
    | panic => exact inv

/-- The loop keeps what holds. -/
theorem pullInv_ask (inv : PullInv temp writer start total clean old before pull)
    (taken : pull.step .ask = some after) :
    PullInv temp writer start total clean old before after := by
  simp only [AsyncPull.step] at taken
  split at taken
  · next asking =>
    cases taken
    obtain ⟨reads, ends⟩ := ahead_afterNext pull.receiver.link
    -- The reply moves from the connection into the loop.
    refine ⟨inv.kept, inv.task.move ?_ ?_ ?_⟩
    · simp [asking]
    · rw [reads, asking]
      rfl
    · rw [ends, asking]
      rfl
  · simp at taken

/-- So does a send. -/
theorem pullInv_send (inv : PullInv temp writer start total clean old before pull)
    (taken : pull.step .send = some after) :
    PullInv temp writer start total clean old before after := by
  simp only [AsyncPull.step] at taken
  split at taken
  · next body last sending =>
    unfold AsyncPull.send at taken
    split at taken
    · next result returned =>
      cases taken
      refine ⟨inv.kept, ?_⟩
      have task := inv.task
      rw [returned] at task ⊢
      -- Without a receiver nothing is to come, and the task had a reason to fail.
      cases result with
      | ok state =>
        obtain ⟨_, _, ⟨result, ended⟩, _⟩ := task
        rw [sending] at ended
        cases ended
      | err error => exact task
      | panic => exact task
    · split at taken
      · cases taken
        -- The chunk moves from the loop into the channel.
        refine ⟨inv.kept, inv.task.move ?_ ?_ ?_⟩
        · simp [sending]
        · rw [sending]
          exact ahead_sent _ body last _
        · rw [sending]
          cases last <;> simp [LoopState.clean]
      · simp at taken
  · simp at taken

/-- A read of the task takes the first of the reads that are to come. -/
theorem pullInv_read {rest : Bytes} {state : σ}
    (inv : PullInv temp writer start total clean old before pull)
    (running : pull.task = .running rest (.copying (.reading state)))
    (taken : pull.read rest (.copying (.reading state)) copyBuffer
      (fun got => .copying (CopyPhase.afterRead writer state got)) = some after) :
    PullInv temp writer start total clean old before after := by
  have task := inv.task
  rw [running] at task
  obtain ⟨saves, ends⟩ := task
  unfold AsyncPull.read at taken
  split at taken
  · next filled =>
    cases taken
    refine ⟨inv.kept, ?_, ends⟩
    rw [cuts_cons filled] at saves
    exact copyInv_read saves (take_ne_nil filled)
  · next empty =>
    have empty : rest = [] := by simpa using empty
    subst empty
    split at taken
    · next chunk queue channel =>
      -- The chunk is the one in hand now.
      cases taken
      refine ⟨inv.kept, ?_, ends⟩
      rw [channel] at saves
      simpa using saves
    · next channel =>
      split at taken
      · next result returned =>
        cases taken
        refine ⟨inv.kept, ?_, ends⟩
        -- An empty channel without a sender is the end of the stream.
        simp only [channel, returned, LoopState.ahead, cuts_nil, List.flatMap_nil,
          List.append_nil] at saves ⊢
        exact ⟨saves, ⟨result, rfl⟩, rfl⟩
      · simp at taken

/-- The task keeps what holds. -/
theorem pullInv_consume (nothing : writer.held start = [])
    (inv : PullInv temp writer start total clean old before pull)
    (taken : pull.step .consume = some after) :
    PullInv temp writer start total clean old before after := by
  simp only [AsyncPull.step] at taken
  split at taken
  · simp at taken
  · next rest phase running =>
    have task := inv.task
    rw [running] at task
    obtain ⟨saves, ends⟩ := task
    split at taken
    · next result acts =>
      cases taken
      refine ⟨inv.kept, ?_⟩
      -- The task returns, and drops what is left in the channel.
      rcases saveInv_done saves acts with ⟨state, rfl, live, eof, closed⟩ | ⟨error, rfl, reason⟩
      · exact ⟨live, closed, eof, ends⟩
      · exact reason
    · next op resume acts =>
      cases taken
      refine ⟨inv.kept.perform (saveTo_within _ _ _ phase op resume acts), ?_, ends⟩
      exact saveInv_disk nothing saves acts rfl
    · next size resume acts =>
      obtain ⟨rfl, state, rfl, rfl⟩ := saveTo_reads acts
      exact pullInv_read inv running taken

/-- In every state that the two halves can reach, the invariant holds. -/
theorem pullInv_run {schedule : List AsyncEvent} {receiver : Receiver}
    (nothing : writer.held start = []) (fresh : receiver.disk.failed = [])
    (ran : Transition.run AsyncPull.step (AsyncPull.start (saveTo temp writer start) receiver)
      schedule = some pull) :
    PullInv temp writer start (ahead receiver.link.replies).1 (ahead receiver.link.replies).2
      (receiver.disk.files temp) receiver.disk pull := by
  apply Transition.invariant_of_run (PullInv temp writer start (ahead receiver.link.replies).1
    (ahead receiver.link.replies).2 (receiver.disk.files temp) receiver.disk) _ _ ran
  · intro pull event after inv taken
    cases event with
    | ask => exact pullInv_ask inv taken
    | send => exact pullInv_send inv taken
    | consume => exact pullInv_consume nothing inv taken
  · -- At first nothing was done to the disk, and all of the stream is to come.
    refine ⟨fun _ _ => rfl, ⟨?_, fresh, rfl⟩, rfl⟩
    simp [LoopState.ahead, AsyncPull.start]

end Interleaved

/-- So is an async one, in every interleaving. -/
theorem runPull_atomic {σ : Type} {writer : Writer σ} {start : σ} {schedule : List AsyncEvent}
    {joinError : String} {path : DiskPath} {verify : σ → Except RepeError Unit} {before : Receiver}
    {ending : Ending σ} (nothing : writer.held start = []) (fresh : before.disk.failed = [])
    (ended : Receiver.runPull schedule (fun _ => [.remove (tempSibling path)]) joinError
      (saveTo (tempSibling path) writer start) before = some ending) :
    Atomic path writer start verify before
      (∃ value, (Receiver.afterSave path verify ending).1 = .ok value)
      (Receiver.afterSave path verify ending).2.disk := by
  obtain ⟨pull, ran, finished⟩ := Option.bind_eq_some_iff.mp ended
  obtain ⟨kept, task⟩ := pullInv_run nothing fresh ran
  -- Both halves have returned; their results decide between them.
  unfold AsyncPull.finish at finished
  split at finished
  · next pulled result returned done =>
    rw [returned, done] at task
    cases result with
    | panic => exact task.elim
    | err error =>
      -- The closure cleaned up after itself.
      obtain ⟨spoiled, cleared⟩ := task
      cases pulled <;> cases finished <;>
        exact atomic_of_spoiled nothing (by simp [Receiver.afterSave, AsyncPull.conclude]) spoiled
          kept cleared
    | ok state =>
      obtain ⟨live, closed, _, clean⟩ := task
      cases pulled with
      | error error =>
        -- The guard is dropped with the value that is not handed on.
        cases finished
        refine atomic_of_spoiled nothing (by simp [Receiver.afterSave, AsyncPull.conclude]) ?_
          (kept.perform ?_) (cleared_remove _ _ _)
        · exact Spoiled.perform (.inr (.inr clean.symm))
        · simp [DiskOp.touched]
      | ok _ =>
        cases finished
        -- Both halves succeeded, so the file is complete.
        have ready : Ready path writer start state before pull.receiver.disk :=
          ⟨live, closed, clean.symm, kept⟩
        exact (ready.publish nothing).congr (placed_iff_returned _ state)
  · simp at finished

end Repe.Svs
