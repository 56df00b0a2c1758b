import Repe.Transfer.Control

/-! What every interleaving of calls on one transfer control keeps. -/

namespace Repe

variable {P : Type}

/-- The replies with which a transfer goes on; a cancelled transfer gives none of them. -/
def TransferReply.advances : TransferReply → Bool
  | .granted | .resumed _ | .reconnect (.resumeReady _) => true
  | _ => false

/-- What one performed call or turn can do to the control, with the reply it gives. -/
inductive TransferOp.Effect (b : Build) (control : TransferControl P) :
    TransferOp P → TransferReply → TransferControl P → Prop
  /-- A refusal, a timeout, a turn that sleeps, and an unwinding call all leave the control alone. -/
  | refuses {op : TransferOp P} {reply : TransferReply} (stuck : reply.advances = false)
      (ended : reply ≠ .done) : Effect b control op reply control
  | setPeer (peer : P) : Effect b control (.setPeer peer) .done (control.setPeer peer)
  | pushReplay {offset dataLen : UInt64} {last : Bool} {bodyBytes : Bytes} {replay : ReplayRing}
      (pushed : (control.replay.push b offset dataLen last bodyBytes : Exec Empty _) = .ok replay) :
      Effect b control (.pushReplay offset dataLen last bodyBytes) .done
        { control with replay := replay }
  | grants {chunkLen : UInt64} {deadline now : Nat} (live : control.cancelled = none)
      (credit : control.waitForCredit b.toTarget chunkLen deadline now = .ok (some ())) :
      Effect b control (.waitForCredit chunkLen deadline now) .granted control
  | recordSent (newOffset : UInt64) (now : Nat) :
      Effect b control (.recordSent newOffset now) .done (control.recordSent newOffset now)
  | recordAck (fileIndex : UInt32) (receivedThroughOffset : UInt64) (now : Nat) :
      Effect b control (.recordAck fileIndex receivedThroughOffset now) .done
        (control.recordAck fileIndex receivedThroughOffset now)
  /-- An accepted resume was for the current file of a live transfer. -/
  | resumes (newPeer : P) {lastReceivedOffset : UInt64} (now : Nat)
      (live : control.cancelled = none)
      (covered : (control.replay.covers b.toTarget lastReceivedOffset :
        Exec ResumeRejection Bool) = .ok true) :
      Effect b control (.requestResume newPeer control.currentFileIndex lastReceivedOffset now)
        (.resumed lastReceivedOffset) (control.stageResume newPeer lastReceivedOffset now)
  /-- A delivered resume was the staged one, which is consumed. -/
  | delivers {deadline now : Nat} {pending : PendingResume} (live : control.cancelled = none)
      (staged : control.pendingResume = some pending) :
      Effect b control (.waitForReconnect deadline now) (.reconnect (.resumeReady pending))
        { control with pendingResume := none }
  | advanceToFile (nextFileIndex : UInt32) (now : Nat) :
      Effect b control (.advanceToFile nextFileIndex now) .done
        (control.advanceToFile nextFileIndex now)
  | cancel (reason : String) : Effect b control (.cancel reason) .done (control.cancel reason)

namespace TransferControl

/-- An admitted resume is for the current file of a live transfer, at an offset the ring covers. -/
theorem admitResume_ok {t : Target} {control : TransferControl P} {fileIndex : UInt32}
    {lastReceivedOffset : UInt64}
    (admitted : control.admitResume t fileIndex lastReceivedOffset = .ok ()) :
    control.cancelled = none ∧ fileIndex = control.currentFileIndex ∧
      (control.replay.covers t lastReceivedOffset : Exec ResumeRejection Bool) = .ok true := by
  -- The three checks are made in this order, and each failure returns.
  unfold admitResume at admitted
  split at admitted
  · simp at admitted
  · next live =>
    split at admitted
    · simp at admitted
    · next file =>
      obtain ⟨covered, found, verdict⟩ := Exec.bind_eq_ok.mp admitted
      cases covered
      · simp at verdict
      · exact ⟨by simpa using live, by simpa using file, found⟩

end TransferControl

namespace TransferOp

/-- Every critical section has one of the effects, or unwinds before it writes anything. -/
theorem critical_effect (b : Build) (op : TransferOp P) (control : TransferControl P) :
    (∃ reply, (op.critical b control).1 = .ok reply ∧
      Effect b control op reply (op.critical b control).2) ∨
      op.critical b control = (.panic, control) := by
  cases op with
  | setPeer peer => exact .inl ⟨_, rfl, .setPeer peer⟩
  | pushReplay offset dataLen last bodyBytes =>
    simp only [critical, TransferControl.pushReplay]
    rcases pushed : (control.replay.push b offset dataLen last bodyBytes : Exec Empty _)
      with replay | error | _
    · exact .inl ⟨_, rfl, .pushReplay pushed⟩
    · exact .inr rfl
    · exact .inr rfl
  | waitForCredit chunkLen deadline now =>
    simp only [critical]
    rcases turn : control.waitForCredit b.toTarget chunkLen deadline now with granted | error | _
    · cases granted with
      | none => exact .inl ⟨_, rfl, .refuses rfl (by simp)⟩
      | some granted =>
        -- A cancelled transfer answers with its reason, so this one is live.
        refine .inl ⟨_, rfl, .grants ?_ turn⟩
        cases cancelled : control.cancelled with
        | none => rfl
        | some reason => simp [TransferControl.waitForCredit, cancelled] at turn
    · exact .inl ⟨_, rfl, .refuses rfl (by simp)⟩
    · exact .inr rfl
  | recordSent newOffset now => exact .inl ⟨_, rfl, .recordSent newOffset now⟩
  | recordAck fileIndex through now => exact .inl ⟨_, rfl, .recordAck fileIndex through now⟩
  | requestResume newPeer fileIndex lastReceivedOffset now =>
    simp only [critical, TransferControl.requestResume]
    rcases admitted : control.admitResume b.toTarget fileIndex lastReceivedOffset
      with _ | rejection | _
    · obtain ⟨live, file, covered⟩ := TransferControl.admitResume_ok admitted
      subst file
      exact .inl ⟨_, rfl, .resumes newPeer now live covered⟩
    · exact .inl ⟨_, rfl, .refuses rfl (by simp)⟩
    · exact .inr rfl
  | waitForReconnect deadline now =>
    simp only [critical, TransferControl.waitForReconnect]
    cases cancelled : control.cancelled with
    | some reason => exact .inl ⟨_, rfl, .refuses rfl (by simp)⟩
    | none =>
      cases staged : control.pendingResume with
      | some pending =>
        exact .inl ⟨_, rfl, by simpa only [cancelled] using Effect.delivers cancelled staged⟩
      | none =>
        by_cases late : deadline ≤ now
        · simp only [if_pos late]
          exact .inl ⟨_, rfl, .refuses rfl (by simp)⟩
        · simp only [if_neg late]
          exact .inl ⟨_, rfl, .refuses rfl (by simp)⟩
  | advanceToFile nextFileIndex now => exact .inl ⟨_, rfl, .advanceToFile nextFileIndex now⟩
  | cancel reason => exact .inl ⟨_, rfl, .cancel reason⟩

/-- Every performed call has one of the effects. -/
theorem perform_effect (b : Build) (op : TransferOp P) (mutex : Mutex (TransferControl P)) :
    Effect b mutex.value op (op.perform b mutex).1 (op.perform b mutex).2.value := by
  -- The lock either lets the critical section run to its end, or unwinds and keeps the value.
  unfold perform
  rcases ran : Mutex.withLock (op.critical b) mutex with ⟨reply | error | _, after⟩
  · obtain ⟨inside, _, _⟩ := Mutex.withLock_ok ran
    rcases critical_effect b op mutex.value with ⟨reply', replied, effect⟩ | unwound
    · rw [inside] at replied effect
      cases replied
      exact effect
    · rw [inside] at unwound
      simp at unwound
  · exact error.elim
  · have kept : after.value = mutex.value := by
      apply Mutex.withLock_panic ?_ ran
      intro value left unwound
      rcases critical_effect b op value with ⟨reply, replied, _⟩ | panics
      · simp [unwound] at replied
      · rw [panics] at unwound
        cases unwound
        rfl
    rw [kept]
    exact .refuses rfl (by simp)

theorem perform_unpoisoned {b : Build} {op : TransferOp P} {mutex : Mutex (TransferControl P)}
    (ends : (op.perform b mutex).1 ≠ .panicked) :
    mutex.poisoned = false ∧ (op.perform b mutex).2.poisoned = false := by
  unfold perform at ends ⊢
  -- A call that unwinds is the only one to poison the lock, or to find it poisoned.
  rcases ran : Mutex.withLock (op.critical b) mutex with ⟨reply | error | _, after⟩
  · exact (Mutex.withLock_ok ran).2
  · exact error.elim
  · simp [ran] at ends

namespace Effect

variable {b : Build} {control after : TransferControl P} {op : TransferOp P}
  {reply : TransferReply}

/-- No call acknowledges more than was sent. -/
theorem acked_le_sent (effect : Effect b control op reply after)
    (capped : control.ackedOffset ≤ control.sentOffset) :
    after.ackedOffset ≤ after.sentOffset := by
  -- Only a record of bytes sent, an acknowledgement, a resume and a new file write an offset.
  cases effect with
  | recordSent newOffset now =>
    simp only [TransferControl.recordSent]
    split
    · next grows => exact UInt64.le_trans capped (UInt64.le_of_lt grows)
    · exact capped
  | recordAck fileIndex through now =>
    simp only [TransferControl.recordAck]
    split
    · exact Std.min_le_right
    · exact capped
  | resumes newPeer now live covered =>
    simp only [TransferControl.stageResume]
    split
    · next inside => exact inside.2
    · exact capped
  | advanceToFile nextFileIndex now => exact UInt64.le_refl _
  | _ => exact capped

/-- Within one file neither offset ever goes back. -/
theorem offsets_grow (effect : Effect b control op reply after)
    (sameFile : ∀ nextFileIndex now, op ≠ .advanceToFile nextFileIndex now) :
    control.sentOffset ≤ after.sentOffset ∧ control.ackedOffset ≤ after.ackedOffset := by
  -- Three effects write an offset, each only where it grows.
  cases effect with
  | recordSent newOffset now =>
    refine ⟨?_, UInt64.le_refl _⟩
    simp only [TransferControl.recordSent]
    split
    · next grows => exact UInt64.le_of_lt grows
    · exact UInt64.le_refl _
  | recordAck fileIndex through now =>
    refine ⟨UInt64.le_refl _, ?_⟩
    simp only [TransferControl.recordAck]
    split
    · next grows => exact UInt64.le_of_lt grows.2
    · exact UInt64.le_refl _
  | resumes newPeer now live covered =>
    refine ⟨UInt64.le_refl _, ?_⟩
    simp only [TransferControl.stageResume]
    split
    · next inside => exact UInt64.le_of_lt inside.1
    · exact UInt64.le_refl _
  | advanceToFile nextFileIndex now => exact absurd rfl (sameFile nextFileIndex now)
  | _ => exact ⟨UInt64.le_refl _, UInt64.le_refl _⟩

theorem cancelled_stays (effect : Effect b control op reply after) {reason : String}
    (cancelled : control.cancelled = some reason) :
    after.cancelled = some reason ∧ reply.advances = false := by
  -- The three replies with which a transfer goes on are given to a live transfer only.
  cases effect with
  | refuses stuck ended => exact ⟨cancelled, stuck⟩
  | grants live _ => simp [live] at cancelled
  | resumes _ _ live _ => simp [live] at cancelled
  | delivers live _ => simp [live] at cancelled
  | cancel later => exact ⟨by simp [TransferControl.cancel, cancelled], rfl⟩
  | _ => exact ⟨cancelled, rfl⟩

theorem rejected_keeps (effect : Effect b control op reply after) {rejection : ResumeRejection}
    (rejected : reply = .rejected rejection) : after = control := by
  subst rejected
  cases effect
  rfl

end Effect

end TransferOp

namespace TransferEntry

def Accepts (entry : TransferEntry P) (fileIndex : UInt32) (offset : UInt64) : Prop :=
  ∃ newPeer now, entry.op = .requestResume newPeer fileIndex offset now ∧
    entry.reply = .resumed offset

/-- The call filled or emptied the resume slot: an accepted resume, a delivered one, or a new file. -/
def touchesResume (entry : TransferEntry P) : Bool :=
  match entry.op, entry.reply with
  | .advanceToFile _ _, .done => true
  | _, .resumed _ | _, .reconnect (.resumeReady _) => true
  | _, _ => false

/-- In a log, newest first, the last call that touched the resume slot accepted this resume. -/
def Stages (log : List (TransferEntry P)) (fileIndex : UInt32) (offset : UInt64) : Prop :=
  ∃ between accepted earlier, log = between ++ accepted :: earlier ∧
    accepted.Accepts fileIndex offset ∧ ∀ entry ∈ between, entry.touchesResume = false

theorem Stages.cons {log : List (TransferEntry P)} {fileIndex : UInt32} {offset : UInt64}
    (stages : Stages log fileIndex offset) {entry : TransferEntry P}
    (quiet : entry.touchesResume = false) : Stages (entry :: log) fileIndex offset := by
  obtain ⟨between, accepted, earlier, split, accepts, untouched⟩ := stages
  refine ⟨entry :: between, accepted, earlier, by rw [split, List.cons_append], accepts, ?_⟩
  intro other member
  -- The new call is quiet, and so are those before it.
  rcases List.mem_cons.mp member with same | older
  · exact same ▸ quiet
  · exact untouched other older

end TransferEntry

namespace TransferOp

/-- A staged resume was accepted by this very call, or was staged before and left alone. -/
theorem Effect.staged {b : Build} {control after : TransferControl P} {op : TransferOp P}
    {reply : TransferReply} (effect : Effect b control op reply after) {pending : PendingResume}
    (staged : after.pendingResume = some pending) :
    (TransferEntry.mk op reply control.currentFileIndex).Accepts after.currentFileIndex
        pending.resumeAtOffset ∨
      control.pendingResume = some pending ∧ after.currentFileIndex = control.currentFileIndex ∧
        (TransferEntry.mk op reply control.currentFileIndex).touchesResume = false := by
  cases effect with
  | refuses stuck ended =>
    -- The three replies that touch the slot are excluded, whatever the call was.
    refine .inr ⟨staged, rfl, ?_⟩
    cases reply with
    | done => exact absurd rfl ended
    | resumed offset => cases stuck
    | reconnect outcome =>
      cases outcome with
      | resumeReady pending => cases stuck
      | _ => cases op <;> rfl
    | _ => cases op <;> rfl
  | resumes newPeer now live covered =>
    left
    simp only [TransferControl.stageResume, Option.some.injEq] at staged
    exact ⟨newPeer, now, by rw [← staged]; rfl, by rw [← staged]⟩
  | delivers live found => simp at staged
  | advanceToFile nextFileIndex now => simp [TransferControl.advanceToFile] at staged
  | _ => exact .inr ⟨staged, rfl, rfl⟩

end TransferOp

namespace Transfer

variable {b : Build}

/-- Every resume that was delivered, or can still be, is the last one that was accepted. -/
structure Delivers (transfer : Transfer P) : Prop where
  /-- The staged resume was accepted for the current file, and nothing touched the slot since. -/
  staged : ∀ pending, transfer.control.pendingResume = some pending →
    TransferEntry.Stages transfer.log transfer.control.currentFileIndex pending.resumeAtOffset
  /-- A delivered resume was staged for the file that was current at its delivery. -/
  delivered : ∀ newer entry older pending, transfer.log = newer ++ entry :: older →
    entry.reply = .reconnect (.resumeReady pending) →
    TransferEntry.Stages older entry.fileIndex pending.resumeAtOffset

/-- Every call keeps account of the resumes. -/
theorem Delivers.step {transfer : Transfer P} (kept : transfer.Delivers) (op : TransferOp P) :
    (transfer.step b op).Delivers := by
  have effect := op.perform_effect b transfer.mutex
  constructor
  · intro pending staged
    rcases effect.staged staged with accepts | ⟨before, file, quiet⟩
    · exact ⟨[], _, transfer.log, rfl, accepts, by simp⟩
    · have stages := (kept.staged pending before).cons quiet
      simpa only [Transfer.step, Transfer.control, file] using stages
  · intro newer entry older pending split ready
    cases newer with
    | nil =>
      -- The delivery is this very call, which emptied the slot.
      simp only [Transfer.step, List.nil_append, List.cons.injEq] at split
      obtain ⟨this, rest⟩ := split
      subst this rest
      simp only at ready
      rw [ready] at effect
      generalize (op.perform b transfer.mutex).2.value = left at effect
      cases effect with
      | refuses stuck ended => simp [TransferReply.advances] at stuck
      | delivers live staged => exact kept.staged pending staged
    | cons newest newer =>
      simp only [Transfer.step, List.cons_append, List.cons.injEq] at split
      exact kept.delivered newer entry older pending split.2 ready

theorem runs_induction (invariant : Transfer P → Prop)
    (kept : ∀ transfer op, invariant transfer → invariant (transfer.step b op))
    {transfer : Transfer P} (start : invariant transfer) (ops : List (TransferOp P)) :
    invariant (transfer.runs b ops) := by
  induction ops generalizing transfer with
  | nil => exact start
  | cons op ops ih => exact ih (kept transfer op start)

/-- A resume that is refused leaves the lock and everything behind it as they were. -/
theorem rejected_unchanged {op : TransferOp P} {mutex after : Mutex (TransferControl P)}
    {rejection : ResumeRejection} (rejected : op.perform b mutex = (.rejected rejection, after)) :
    after = mutex := by
  have effect := op.perform_effect b mutex
  have ends : (op.perform b mutex).1 ≠ .panicked := by simp [rejected]
  obtain ⟨before, later⟩ := TransferOp.perform_unpoisoned ends
  simp only [rejected] at effect later
  have value := effect.rejected_keeps rfl
  -- A lock is its value and its flag.
  cases after
  cases mutex
  simp_all

theorem runs_offsets_grow {ops : List (TransferOp P)}
    (sameFile : ∀ nextFileIndex now, TransferOp.advanceToFile nextFileIndex now ∉ ops)
    (transfer : Transfer P) :
    transfer.control.sentOffset ≤ (transfer.runs b ops).control.sentOffset ∧
      transfer.control.ackedOffset ≤ (transfer.runs b ops).control.ackedOffset := by
  -- Each call grows the offsets, and the rest of the calls grow them further.
  induction ops generalizing transfer with
  | nil => exact ⟨UInt64.le_refl _, UInt64.le_refl _⟩
  | cons op ops ih =>
    have head := (op.perform_effect b transfer.mutex).offsets_grow (by
      intro nextFileIndex now same
      exact sameFile nextFileIndex now (by simp [same]))
    have tail := ih (fun nextFileIndex now member =>
      sameFile nextFileIndex now (List.mem_cons_of_mem _ member)) (transfer.step b op)
    exact ⟨UInt64.le_trans head.1 tail.1, UInt64.le_trans head.2 tail.2⟩

/-- After a cancel the reason stays, and no later call makes the transfer go on. -/
theorem runs_cancelled {transfer : Transfer P} {reason : String}
    (cancelled : transfer.control.cancelled = some reason) (ops : List (TransferOp P)) :
    (transfer.runs b ops).control.cancelled = some reason ∧
      ∃ since, (transfer.runs b ops).log = since ++ transfer.log ∧
        ∀ entry ∈ since, entry.reply.advances = false := by
  apply runs_induction fun later : Transfer P => later.control.cancelled = some reason ∧
    ∃ since, later.log = since ++ transfer.log ∧ ∀ entry ∈ since, entry.reply.advances = false
  · intro later op kept
    obtain ⟨stays, since, log, stuck⟩ := kept
    obtain ⟨still, refused⟩ := (op.perform_effect b later.mutex).cancelled_stays stays
    -- The new entry is the refusal, in front of those that were refused before it.
    refine ⟨still, _ :: since, by rw [List.cons_append, ← log]; rfl, ?_⟩
    intro entry member
    rcases List.mem_cons.mp member with same | older
    · rw [same]
      exact refused
    · exact stuck entry older
  · exact ⟨cancelled, [], by simp⟩

/--
Whatever calls threads make on a control, in whatever order:
- no more is acknowledged than was sent,
- within a file the offsets never go back,
- the first cancel is final and stops credit, resumes and their delivery,
- a refused resume changes nothing,
- a delivered resume is the last one accepted, for the file current at its delivery, and nothing
  else was accepted or delivered in between, so no resume is delivered twice.
-/
theorem control_safe_in_every_interleaving (b : Build) (windowBytes replayCapacityBytes : UInt64)
    (now : Nat) (ops more : List (TransferOp P)) :
    let reached := (start windowBytes replayCapacityBytes now).runs b ops
    let later := reached.runs b more
    reached.control.ackedOffset ≤ reached.control.sentOffset ∧
      ((∀ nextFileIndex now, .advanceToFile nextFileIndex now ∉ more) →
        reached.control.sentOffset ≤ later.control.sentOffset ∧
          reached.control.ackedOffset ≤ later.control.ackedOffset) ∧
      (∀ reason, reached.control.cancelled = some reason →
        later.control.cancelled = some reason ∧
          ∃ since, later.log = since ++ reached.log ∧
            ∀ entry ∈ since, entry.reply.advances = false) ∧
      (∀ newPeer fileIndex offset now rejection after,
        (TransferOp.requestResume newPeer fileIndex offset now).perform b reached.mutex =
          (.rejected rejection, after) → after = reached.mutex) ∧
      ∀ newer entry older pending, reached.log = newer ++ entry :: older →
        entry.reply = .reconnect (.resumeReady pending) →
        TransferEntry.Stages older entry.fileIndex pending.resumeAtOffset := by
  refine ⟨?_, fun sameFile => runs_offsets_grow sameFile _,
    fun reason cancelled => runs_cancelled cancelled more,
    fun _ _ _ _ _ _ rejected => rejected_unchanged rejected, ?_⟩
  · -- The cap is kept by every call.
    apply runs_induction fun transfer =>
      transfer.control.ackedOffset ≤ transfer.control.sentOffset
    · intro transfer op capped
      exact (op.perform_effect b transfer.mutex).acked_le_sent capped
    · exact UInt64.le_refl _
  · -- A new control has nothing staged and nothing delivered.
    have fresh : (start windowBytes replayCapacityBytes now : Transfer P).Delivers := by
      constructor
      · intro pending staged
        simp [start, control, Mutex.new, TransferControl.withReplayCapacity] at staged
      · intro newer entry older pending split
        simp [start] at split
    exact (runs_induction Delivers (fun _ op kept => kept.step op) fresh ops).delivered

end Transfer

end Repe
