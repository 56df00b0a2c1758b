import Repe.Svs.Consumer

/-! What a copy of a stream to a temporary file has written at each of its steps. -/

namespace Repe.Svs

/-- The chunks of a stream that gets to its last one without an error before it. -/
def completeBodies : List Reply → Option (List Bytes)
  | [] => none
  | .error _ _ :: _ => none
  | .chunk query body :: later =>
    -- Nothing behind the last chunk belongs to the stream.
    if isLast query then some [body] else (completeBodies later).map (body :: ·)

/-- A chunk as `io::copy` reads it, one buffer at a time. -/
def cuts (body : Bytes) : List Bytes :=
  if body = [] then [] else body.take copyBuffer :: cuts (body.drop copyBuffer)
termination_by body.length
decreasing_by
  have filled : 0 < body.length := List.length_pos_iff.mpr ‹_›
  simp only [List.length_drop, copyBuffer]
  omega

@[simp] theorem cuts_nil : cuts [] = [] := by
  rw [cuts]
  simp

theorem cuts_cons {body : Bytes} (filled : body ≠ []) :
    cuts body = body.take copyBuffer :: cuts (body.drop copyBuffer) := by
  rw [cuts, if_neg filled]

theorem take_ne_nil {body : Bytes} (filled : body ≠ []) : body.take copyBuffer ≠ [] := by
  intro empty
  -- The buffer of a copy has room for something.
  rcases List.take_eq_nil_iff.mp empty with none | none
  · simp [copyBuffer] at none
  · exact filled none

theorem cuts_flatten (body : Bytes) : (cuts body).flatten = body := by
  -- Each read makes the chunk shorter by what it takes.
  induction length : body.length using Nat.strong_induction_on generalizing body with
  | _ size ih =>
    by_cases empty : body = []
    · simp [empty]
    · have filled := List.length_pos_iff.mpr empty
      rw [cuts_cons empty, List.flatten_cons,
        ih (body.drop copyBuffer).length (by simp only [List.length_drop, copyBuffer]; omega) _ rfl,
        List.take_append_drop]

/-- The reads a stream still allows before it ends or breaks, and whether it ends. -/
def ahead : List Reply → List Bytes × Bool
  | [] => ([], false)
  | .error _ _ :: _ => ([], false)
  | .chunk query body :: later =>
    -- An empty chunk has no reads, so it does not count.
    if isLast query then (cuts body, true) else (cuts body ++ (ahead later).1, (ahead later).2)

/-- The reads of a complete stream are those of its chunks. -/
theorem ahead_complete {replies : List Reply} {bodies : List Bytes}
    (complete : completeBodies replies = some bodies) :
    ahead replies = (bodies.flatMap cuts, true) := by
  -- By induction on the replies, up to the last chunk.
  induction replies generalizing bodies with
  | nil => simp [completeBodies] at complete
  | cons reply later ih =>
    cases reply with
    | error code message => simp [completeBodies] at complete
    | chunk query body =>
      simp only [completeBodies] at complete
      unfold ahead
      split at complete
      · next last =>
        cases complete
        simp [last]
      · next goes =>
        obtain ⟨rest, tail, rfl⟩ := Option.map_eq_some_iff.mp complete
        simp [goes, ih tail]

/-- A stream that is not complete breaks. -/
theorem ahead_broken {replies : List Reply} (broken : completeBodies replies = none) :
    (ahead replies).2 = false := by
  -- An error breaks the stream at once, and a chunk that is not the last leaves the rest.
  induction replies with
  | nil => rfl
  | cons reply later ih =>
    cases reply with
    | error code message => rfl
    | chunk query body =>
      simp only [completeBodies] at broken
      unfold ahead
      split at broken
      · simp at broken
      · next goes =>
        simp only [goes, Bool.false_eq_true, if_false]
        exact ih (Option.map_eq_none_iff.mp broken)

namespace Writer

variable {σ : Type} (writer : Writer σ)

/-- The pieces of one read, fed to the digest one after another. -/
def feedPieces (state : σ) : List Bytes → Except IoError σ
  | [] => .ok state
  | piece :: pieces =>
    match writer.digest state piece with
    | .error error => .error error
    | .ok state => feedPieces state pieces

def feed (state : σ) : List Bytes → Except IoError σ
  | [] => .ok state
  | cut :: rest =>
    -- The writer splits the read first, and the digest sees what goes to the file.
    match writer.feedPieces (writer.split state cut).2 (writer.split state cut).1 with
    | .error error => .error error
    | .ok state => feed state rest

def resume (state : σ) (pieces future : List Bytes) : Except IoError σ :=
  match writer.feedPieces state pieces with
  | .error error => .error error
  | .ok state => writer.feed state future

end Writer

section Invariant

variable {σ : Type} (temp : DiskPath) (writer : Writer σ) (start : σ) (total : List Bytes)

/--
A copy that has no reason to fail so far: what was fed and what is to come make up the stream, and
so do the file, what waits to be written, what is held back and what is to come.
-/
structure Live (pieces : List Bytes) (state : σ) (disk : LocalDisk) (future : List Bytes) : Prop where
  fed : writer.resume state pieces future = writer.feed start total
  file : ∃ written, disk.files temp = some written ∧
    written ++ pieces.flatten ++ writer.held state ++ future.flatten = total.flatten
  held : (writer.held state).length =
    min writer.trailerLen (total.flatten.length - future.flatten.length)
  unharmed : disk.failed = []

def Spoiled (clean : Bool) (disk : LocalDisk) : Prop :=
  (∃ op ∈ disk.failed, op.isRemove = false) ∨
    (∀ state, writer.feed start total = .ok state → writer.close state ≠ .ok ()) ∨ clean = false

/-- What holds at each step of a copy; `eof` is what is known once the end was reported. -/
def CopyInv (clean : Bool) (eof : Prop) (future : List Bytes) (disk : LocalDisk) :
    CopyPhase σ → Prop
  | .reading state => Live temp writer start total [] state disk future
  | .writing piece pieces state => Live temp writer start total (piece :: pieces) state disk future
  | .copied state => Live temp writer start total [] state disk [] ∧ eof ∧ future = []
  | .failed _ => Spoiled writer start total clean disk

variable {temp writer start total} {clean : Bool} {eof : Prop} {pieces future : List Bytes}
  {state : σ} {disk after : LocalDisk} {piece cut : Bytes}

theorem spoiled_of_failed {op : DiskOp DiskPath} (failed : after.failed = disk.failed ++ [op])
    (other : op.isRemove = false) : Spoiled writer start total clean after :=
  .inl ⟨op, by rw [failed]; exact List.mem_concat_self, other⟩

theorem copyInv_proceed (live : Live temp writer start total pieces state disk future) :
    CopyInv temp writer start total clean eof future disk (.proceed pieces state) := by
  cases pieces with
  | nil => exact live
  | cons piece pieces => exact live

theorem CopyPhase.proceed_ne_copied {final : σ} :
    CopyPhase.proceed pieces state ≠ .copied final := by
  cases pieces <;> exact nofun

theorem CopyPhase.afterWrite_ne_copied {got : Except IoError Unit} {final : σ} :
    CopyPhase.afterWrite writer state piece pieces got ≠ .copied final := by
  -- A copy fails, or goes on with the next piece or the next read.
  cases got with
  | error error => exact nofun
  | ok _ =>
    unfold afterWrite
    cases writer.digest state piece with
    | error error => exact nofun
    | ok next => exact proceed_ne_copied

theorem CopyPhase.afterRead_ne_copied {final : σ} (filled : cut ≠ []) :
    CopyPhase.afterRead writer state (.ok cut) ≠ .copied final := by
  cases cut with
  | nil => exact absurd rfl filled
  | cons byte bytes => exact proceed_ne_copied

/-- A read takes what is to come into the pieces and what is held back. -/
theorem Live.read (live : Live temp writer start total [] state disk (cut :: future)) :
    Live temp writer start total (writer.split state cut).1 (writer.split state cut).2 disk
      future := by
  have bytes := writer.split_flatten state cut
  have held := live.held
  -- No more is ever held back than the trailer takes.
  have fits : (writer.held state).length ≤ writer.trailerLen := by omega
  have kept := writer.split_length state cut fits
  refine ⟨live.fed, ?_, ?_, live.unharmed⟩
  -- The bytes of the read are the pieces and what is held back now.
  · obtain ⟨written, file, sum⟩ := live.file
    refine ⟨written, file, ?_⟩
    rw [← sum, List.append_assoc written, bytes]
    simp
  · obtain ⟨written, _, sum⟩ := live.file
    have lengths := congrArg List.length sum
    simp only [List.length_append, List.flatten_cons, List.flatten_nil, List.length_nil] at lengths held
    omega

theorem copyInv_read (live : Live temp writer start total [] state disk (cut :: future))
    (filled : cut ≠ []) :
    CopyInv temp writer start total clean eof future disk (.afterRead writer state (.ok cut)) := by
  cases cut with
  | nil => exact absurd rfl filled
  | cons byte bytes => exact copyInv_proceed live.read

/-- A piece that is written moves from what waits to the file. -/
theorem copyInv_write {got : Except IoError Unit}
    (live : Live temp writer start total (piece :: pieces) state disk future)
    (performed : disk.perform (.write temp piece) = (got, after)) :
    CopyInv temp writer start total clean eof future after
      (.afterWrite writer state piece pieces got) := by
  cases got with
  -- A write that fails spoils the file, however much of it was written.
  | error error => exact spoiled_of_failed (Disk.perform_error performed).2 rfl
  | ok _ =>
    obtain ⟨files, failed⟩ := Disk.perform_ok performed
    have fed := live.fed
    simp only [Writer.resume, Writer.feedPieces] at fed
    unfold CopyPhase.afterWrite
    cases digested : writer.digest state piece with
    | error error =>
      -- The whole stream is rejected by the digest at this piece.
      rw [digested] at fed
      refine .inr (.inl ?_)
      intro final accepted
      rw [← fed] at accepted
      cases accepted
    | ok next =>
      rw [digested] at fed
      -- What is held back is no concern of the digest.
      have same := writer.digest_held state piece next digested
      refine copyInv_proceed ⟨fed, ?_, ?_, failed.trans live.unharmed⟩
      · obtain ⟨written, file, sum⟩ := live.file
        refine ⟨written ++ piece, ?_, ?_⟩
        · rw [files]
          simp [Disk.apply, file]
        · rw [same, ← sum]
          simp
      · rw [same]
        exact live.held

theorem Spoiled.perform {op : DiskOp DiskPath} (spoiled : Spoiled writer start total clean disk) :
    Spoiled writer start total clean (disk.perform op).2 := by
  rcases spoiled with ⟨bad, member, other⟩ | rest
  · refine .inl ⟨bad, ?_, other⟩
    -- The record of failures only grows.
    rcases performed : disk.perform op with ⟨got, after⟩
    cases got with
    | ok _ => exact (Disk.perform_ok performed).2 ▸ member
    | error error => exact (Disk.perform_error performed).2 ▸ List.mem_append_left _ member
  · exact .inr rest

/-- No temporary file is left, unless it could not be removed or was never made. -/
def Cleared (temp : DiskPath) (old : Option Bytes) (disk : LocalDisk) : Prop :=
  disk.files temp = none ∨ .remove temp ∈ disk.failed ∨
    (.create temp ∈ disk.failed ∧ disk.files temp = old)

theorem cleared_remove (temp : DiskPath) (old : Option Bytes) (disk : LocalDisk) :
    Cleared temp old (disk.perform (.remove temp)).2 := by
  rcases performed : disk.perform (.remove temp) with ⟨got, after⟩
  cases got with
  | ok _ =>
    refine .inl ?_
    rw [(Disk.perform_ok performed).1]
    simp [Disk.apply]
  | error error =>
    -- A removal that fails is on record, and excuses what it leaves.
    refine .inr (.inl ?_)
    rw [(Disk.perform_error performed).2]
    exact List.mem_concat_self

variable (temp writer start total)

/-- What holds at each step of the closure that saves a stream. -/
def SaveInv (clean : Bool) (eof : Prop) (old : Option Bytes) (future : List Bytes)
    (disk : LocalDisk) : SavePhase σ → Prop
  | .creating => future = total ∧ disk.failed = [] ∧ disk.files temp = old
  | .copying copy => CopyInv temp writer start total clean eof future disk copy
  | .syncing state =>
    Live temp writer start total [] state disk [] ∧ eof ∧ writer.close state = .ok ()
  | .dropping _ => Spoiled writer start total clean disk
  | .ended (.ok state) =>
    Live temp writer start total [] state disk [] ∧ eof ∧ writer.close state = .ok ()
  | .ended (.error _) => Spoiled writer start total clean disk ∧ Cleared temp old disk

variable {temp writer start total} {old : Option Bytes} {phase : SavePhase σ}

theorem Live.quiet {op : DiskOp DiskPath} (live : Live temp writer start total pieces state disk future)
    (performed : disk.perform op = (.ok (), after)) (same : Disk.apply op disk.files = disk.files) :
    Live temp writer start total pieces state after future := by
  obtain ⟨files, failed⟩ := Disk.perform_ok performed
  exact ⟨live.fed, by rw [files, same]; exact live.file, live.held, failed.trans live.unharmed⟩

theorem Live.finished (live : Live temp writer start total [] state disk []) :
    writer.feed start total = .ok state := live.fed.symm

theorem live_created (fresh : disk.failed = []) (nothing : writer.held start = [])
    (performed : disk.perform (.create temp) = (.ok (), after)) :
    Live temp writer start total [] start after total := by
  obtain ⟨files, failed⟩ := Disk.perform_ok performed
  -- The file is there and empty, and nothing is held back.
  refine ⟨rfl, ⟨[], ?_, ?_⟩, ?_, failed.trans fresh⟩
  · rw [files]
    simp [Disk.apply]
  · simp [nothing]
  · simp [nothing]

/-- An operation of the closure keeps what holds. -/
theorem saveInv_disk {op : DiskOp DiskPath} {resume : Except IoError Unit → SavePhase σ}
    {got : Except IoError Unit} (nothing : writer.held start = [])
    (inv : SaveInv temp writer start total clean eof old future disk phase)
    (acts : (saveTo temp writer start).act phase = .disk op resume)
    (performed : disk.perform op = (got, after)) :
    SaveInv temp writer start total clean eof old future after (resume got) := by
  -- A removal ends the closure with the error it is about.
  have dropped : ∀ error, Spoiled writer start total clean disk →
      disk.perform (.remove temp) = (got, after) →
      SaveInv temp writer start total clean eof old future after (.ended (.error error)) := by
    intro error spoiled removed
    have left : after = (disk.perform (.remove temp)).2 := by rw [removed]
    exact ⟨left ▸ spoiled.perform, left ▸ cleared_remove temp old disk⟩
  -- One case for each point at which the closure touches the disk.
  cases phase with
  | creating =>
    cases acts
    obtain ⟨rfl, fresh, before⟩ := inv
    cases got with
    | ok _ => exact live_created fresh nothing performed
    | error error =>
      -- A file that was never created is as it was.
      obtain ⟨⟨written, files⟩, failed⟩ := Disk.perform_error performed
      refine ⟨spoiled_of_failed failed rfl, .inr (.inr ⟨?_, ?_⟩)⟩
      · rw [failed]
        exact List.mem_concat_self
      · rw [files]
        exact before
  | copying copy =>
    cases copy with
    | reading state => cases acts
    | writing piece pieces state =>
      cases acts
      exact copyInv_write inv performed
    | failed error =>
      cases acts
      exact dropped _ inv performed
    | copied state =>
      obtain ⟨live, ended, _⟩ := inv
      simp only [saveTo] at acts
      -- A stream shorter than its trailer is dropped like a failed one.
      cases closed : writer.close state with
      | error error =>
        rw [closed] at acts
        cases acts
        refine dropped _ (.inr (.inl ?_)) performed
        intro final accepted
        rw [live.finished] at accepted
        cases accepted
        simp [closed]
      | ok _ =>
        rw [closed] at acts
        cases acts
        cases got with
        | ok _ => exact ⟨live.quiet performed rfl, ended, closed⟩
        | error error => exact spoiled_of_failed (Disk.perform_error performed).2 rfl
  | syncing state =>
    cases acts
    obtain ⟨live, ended, closed⟩ := inv
    cases got with
    | ok _ => exact ⟨live.quiet performed rfl, ended, closed⟩
    | error error => exact spoiled_of_failed (Disk.perform_error performed).2 rfl
  | dropping error =>
    cases acts
    exact dropped _ inv performed
  | ended result =>
    cases result with
    | ok state => cases acts
    | error error => cases acts

/-- The closure reads only while it copies. -/
theorem saveTo_reads {size : Nat} {resume : Except IoError Bytes → SavePhase σ}
    (acts : (saveTo temp writer start).act phase = .read size resume) :
    size = copyBuffer ∧ ∃ state, phase = .copying (.reading state) ∧
      resume = fun got => .copying (CopyPhase.afterRead writer state got) := by
  -- Every other phase is about the disk, or is the end.
  cases phase with
  | copying copy =>
    cases copy with
    | reading state =>
      cases acts
      exact ⟨rfl, state, rfl, rfl⟩
    | copied state =>
      simp only [saveTo] at acts
      split at acts <;> cases acts
    | _ => cases acts
  | ended result => cases result <;> cases acts
  | _ => cases acts

def SavePhase.reads : SavePhase σ → Bool
  | .creating | .copying (.reading _) | .copying (.writing _ _ _) => true
  | _ => false

/-- An operation does not make the closure read again. -/
theorem saveTo_reads_of_disk {op : DiskOp DiskPath} {resume : Except IoError Unit → SavePhase σ}
    {got : Except IoError Unit} (acts : (saveTo temp writer start).act phase = .disk op resume)
    (reads : (resume got).reads = true) : phase.reads = true := by
  -- Once the copy has ended no phase reads.
  cases phase with
  | creating => rfl
  | copying copy =>
    cases copy with
    | reading state => rfl
    | writing piece pieces state => rfl
    | failed error =>
      cases acts
      exact reads
    | copied state =>
      simp only [saveTo] at acts
      split at acts <;> cases acts
      · exact reads
      · cases got <;> exact reads
  | syncing state =>
    cases acts
    cases got <;> exact reads
  | dropping error =>
    cases acts
    exact reads
  | ended result => cases result <;> cases acts

/-- What the closure hands back. -/
theorem saveInv_done {result : Exec RepeError σ}
    (inv : SaveInv temp writer start total clean eof old future disk phase)
    (acts : (saveTo temp writer start).act phase = .done result) :
    (∃ state, result = .ok state ∧ Live temp writer start total [] state disk [] ∧ eof ∧
        writer.close state = .ok ()) ∨
      ∃ error, result = .err error ∧ Spoiled writer start total clean disk ∧
        Cleared temp old disk := by
  -- Only the last phase is the end.
  cases phase with
  | copying copy =>
    cases copy with
    | copied state =>
      simp only [saveTo] at acts
      split at acts <;> cases acts
    | _ => cases acts
  | ended result =>
    cases result with
    | ok state =>
      cases acts
      exact .inl ⟨state, rfl, inv⟩
    | error error =>
      cases acts
      exact .inr ⟨error, rfl, inv⟩
  | _ => cases acts

end Invariant

namespace ChunkReader

/-- The reads a reader still allows, and whether the stream ends behind them. -/
def ahead (reader : ChunkReader) : List Bytes × Bool :=
  if reader.finished then (cuts reader.rest, true)
  else (cuts reader.rest ++ (Svs.ahead reader.link.replies).1,
    (Svs.ahead reader.link.replies).2)

/-- A reader on its way, which calls a stream finished when it saw the last chunk. -/
def Steady (reader : ChunkReader) : Prop := reader.finished = reader.lastSeen

inductive Finds (future : List Bytes) (clean : Bool) :
    Except IoError Bytes × ChunkReader → Prop
  | bytes {cut : Bytes} {rest : List Bytes} {after : ChunkReader} (next : future = cut :: rest)
      (filled : cut ≠ []) (steady : after.Steady) (left : after.ahead = (rest, clean)) :
      Finds future clean (.ok cut, after)
  | eof {after : ChunkReader} (none : future = []) (ends : clean = true) (steady : after.Steady)
      (seen : after.lastSeen = true) (left : after.ahead = ([], true)) :
      Finds future clean (.ok [], after)
  | broken {error : IoError} {after : ChunkReader} (none : future = []) (breaks : clean = false)
      (steady : after.Steady) : Finds future clean (.error error, after)

/-- A fetch finds what the replies hold. -/
theorem fetch_finds {reader : ChunkReader} (replies : List Reply) (steady : reader.Steady)
    (goes : reader.finished = false) (nothing : reader.rest = []) :
    Finds (Svs.ahead replies).1 (Svs.ahead replies).2 (reader.fetch copyBuffer replies) := by
  induction replies generalizing reader with
  | nil => exact .broken rfl rfl steady
  | cons reply later ih =>
    cases reply with
    | error code message => exact .broken rfl rfl steady
    | chunk query body =>
      -- Empty chunks are skipped by the recursion; any other reply ends the fetch.
      unfold fetch
      dsimp only
      by_cases empty : body = []
      · subst empty
        simp only [ne_eq, not_true_eq_false, if_false, Svs.ahead, cuts_nil, List.nil_append]
        cases last : isLast query with
        | true =>
          simp only [if_true, Bool.or_true]
          exact .eof rfl rfl rfl rfl (by simp [ahead, nothing])
        | false =>
          simp only [Bool.false_eq_true, if_false, Bool.or_false]
          exact ih steady goes nothing
      · simp only [ne_eq, empty, not_false_eq_true, if_true, Svs.ahead, cuts_cons empty]
        cases last : isLast query with
        | true =>
          simp only [if_true, Bool.or_true]
          exact .bytes rfl (take_ne_nil empty) rfl rfl
        | false =>
          simp only [Bool.false_eq_true, if_false, Bool.or_false]
          exact .bytes rfl (take_ne_nil empty) steady (by simp [ahead, goes])

/-- A read finds what is ahead. -/
theorem read_finds {reader : ChunkReader} (steady : reader.Steady) :
    Finds reader.ahead.1 reader.ahead.2 (reader.read copyBuffer) := by
  unfold read
  -- Bytes in hand come first, then the end, then the next reply.
  by_cases empty : reader.rest = []
  · simp only [ne_eq, empty, not_true_eq_false, if_false, ahead, cuts_nil, List.nil_append]
    cases goes : reader.finished with
    | true =>
      simp only [if_true]
      exact .eof rfl rfl steady (steady ▸ goes) (by simp [ahead, goes, empty])
    | false =>
      simp only [Bool.false_eq_true, if_false]
      exact fetch_finds _ steady goes empty
  · simp only [ne_eq, empty, not_false_eq_true, if_true]
    unfold ahead
    split
    · next done =>
      rw [cuts_cons empty]
      exact .bytes rfl (take_ne_nil empty) steady (by simp [ahead, done])
    · next goes =>
      rw [cuts_cons empty]
      exact .bytes rfl (take_ne_nil empty) steady (by simp [ahead, goes])

end ChunkReader

end Repe.Svs
