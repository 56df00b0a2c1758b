import Mathlib.Data.Fintype.Basic
import Repe.Lib.FileSystem
import Repe.Svs.AsyncPull

/-! Pulls to the same destination that run at the same time, on one file system. -/

namespace Repe.Svs

inductive Rest where
  | done (result : Exec RepeError Unit)
  /-- The file is gone, and what is reported depends on what the other half of the pull says. -/
  | report (resume : Except RepeError Unit → Exec RepeError Unit)
  | work (op : DiskOp DiskPath) (resume : Except IoError Unit → Rest)
  /-- The file is complete, and what happens to it depends on what the other half says. -/
  | wait (resume : Except RepeError Unit → Rest)

namespace Rest

/-- The guard of the file is dropped, and something is reported. -/
def drop (temp : DiskPath) (last : Rest) : Rest := .work (.remove temp) fun _ => last

/-- `TempFile::commit`. -/
def commit (temp path : DiskPath) : Rest :=
  .work (.rename temp path) fun
    | .ok () => .done (.ok ())
    -- The handle is closed, so the file is removed here.
    | .error error => drop temp (.done (.err (.io error)))

/-- `verify(..)?`, and the commit behind it. -/
def publish (temp path : DiskPath) : Except RepeError Unit → Rest
  | .error error => drop temp (.done (.err error))
  | .ok () => commit temp path

def run (heard : Except RepeError Unit) : Rest → LocalDisk → Exec RepeError Unit × LocalDisk
  | .done result, disk => (result, disk)
  | .report resume, disk => (resume heard, disk)
  | .work op resume, disk => (resume (disk.perform op).1).run heard (disk.perform op).2
  | .wait resume, disk => (resume heard).run heard disk

end Rest

inductive PullEntry where
  | writeFile
  | pullConsume
  | pullConsumeAsync

inductive FileForm where
  /-- `pull_to_file` and the other file outputs of `pull_stream`, by way of `write_file`. -/
  | toFile
  | trailerVerified {D : Type} (trailerLen : Nat) (writeAll : D → Bytes → Except IoError D)
      (digest : D) (verify : D → Bytes → Except RepeError Unit)
  | async
  | verifiedAsync {D : Type} (writeAll : D → Bytes → Except IoError D) (digest : D)
      (verify : D → Except RepeError Unit)
  | trailerVerifiedAsync {D : Type} (trailerLen : Nat) (writeAll : D → Bytes → Except IoError D)
      (digest : D) (verify : D → Bytes → Except RepeError Unit)

namespace FileForm

def entry : FileForm → PullEntry
  | .toFile => .writeFile
  | .trailerVerified .. => .pullConsume
  | .async | .verifiedAsync .. | .trailerVerifiedAsync .. => .pullConsumeAsync

def State : FileForm → Type
  | .toFile | .async => Nat
  | @trailerVerified D .. | @trailerVerifiedAsync D .. => TrailerHold D
  | @verifiedAsync D .. => D

def writer : (form : FileForm) → Writer form.State
  | .toFile | .async => fileWriter
  | .trailerVerified trailerLen writeAll .. | .trailerVerifiedAsync trailerLen writeAll .. =>
    trailerWriter writeAll trailerLen
  | .verifiedAsync writeAll .. => teeWriter writeAll

def start : (form : FileForm) → form.State
  | .toFile | .async => (0 : Nat)
  | .trailerVerified _ _ digest _ | .trailerVerifiedAsync _ _ digest _ => ⟨[], digest⟩
  | .verifiedAsync _ digest _ => digest

def verify : (form : FileForm) → form.State → Except RepeError Unit
  | .toFile, _ | .async, _ => .ok ()
  | .trailerVerified _ _ _ verify, state | .trailerVerifiedAsync _ _ _ verify, state =>
    verify state.digest state.hold
  | .verifiedAsync _ _ verify, state => verify state

/-- What a pull reports whose copy failed, once its file is gone. -/
def failed (form : FileForm) (error : RepeError) : Rest :=
  match form.entry with
  | .writeFile | .pullConsume => .done (.err error)
  -- `pull_res?` comes before the result of the closure.
  | .pullConsumeAsync => .report fun
    | .error first => .err first
    | .ok () => .err error

/-- `flush` and `sync_all`, each of which can fail. -/
def sync (form : FileForm) (temp : DiskPath) (next : Rest) : Rest :=
  .work (.flush temp) fun
    | .error error => .drop temp (form.failed (.io error))
    | .ok () => .work (.sync temp) fun
      | .error error => .drop temp (form.failed (.io error))
      | .ok () => next

/-- The end of the closure of the pulls that have one, and what follows it. -/
def close (form : FileForm) (temp : DiskPath) (state : form.State) (next : Rest) : Rest :=
  match form.writer.close state with
  | .error error => .drop temp (form.failed (.io error))
  | .ok () => form.sync temp next

def rest (form : FileForm) (path : DiskPath) (state : form.State) : Rest :=
  let temp := tempSibling path
  match form.entry with
  -- `last_seen` is what `write_file` asks for, before anything else.
  | .writeFile => .wait fun
    | .error error => .drop temp (.done (.err error))
    | .ok () => form.sync temp (.commit temp path)
  | .pullConsume => form.close temp state (.publish temp path (form.verify state))
  -- The result of the loop comes before the value of the closure, which owns the guard.
  | .pullConsumeAsync =>
    form.close temp state <| .wait fun
      | .error error => .drop temp (.done (.err error))
      | .ok () => .publish temp path (form.verify state)

def copy (form : FileForm) (path : DiskPath) : Consumer form.State :=
  copyTo (tempSibling path) form.writer form.start

/-- What is to be found at the destination, of all that was read. -/
def content (form : FileForm) (reads : List Bytes) : Bytes :=
  reads.flatten.take (reads.flatten.length - form.writer.trailerLen)

end FileForm

inductive Stage (σ : Type) where
  | creating
  | copying (copy : CopyPhase σ)
  | ending (rest : Rest)

namespace Stage

variable {form : FileForm}

/-- The pull has its temporary file open, or is still to move or remove it. -/
def busy {σ : Type} : Stage σ → Bool
  | .creating | .ending (.done _) | .ending (.report _) => false
  | .copying _ | .ending (.work _ _) | .ending (.wait _) => true

def creates {σ : Type} : Stage σ → Bool
  | .creating => true
  | _ => false

def ofCopy (path : DiskPath) (copy : CopyPhase form.State) : Stage form.State :=
  match (form.copy path).act copy with
  | .done (.ok state) => .ending (form.rest path state)
  | .done (.err error) => .ending (.drop (tempSibling path) (form.failed error))
  | .done .panic => .ending (.drop (tempSibling path) (.done .panic))
  | _ => .copying copy

def ofCreate : Except IoError Unit → Stage form.State
  -- There is no guard yet that could be dropped.
  | .error error => .ending (form.failed (.io error))
  | .ok () => .copying (.reading form.start)

/-- The operation that a pull is about to perform, and how it goes on. -/
def work (path : DiskPath) :
    Stage form.State → Option (DiskOp DiskPath × (Except IoError Unit → Stage form.State))
  | .creating => some (.create (tempSibling path), ofCreate)
  | .copying copy =>
    match (form.copy path).act copy with
    | .disk op resume => some (op, fun got => ofCopy path (resume got))
    | _ => none
  | .ending (.work op resume) => some (op, fun got => .ending (resume got))
  | .ending _ => none

end Stage

/-- A pull with its own handle, and what it has read so far. -/
structure Puller (σ : Type) where
  stage : Stage σ
  handle : Option Handle
  reads : List Bytes

inductive PullEvent (ι : Type) where
  | read (pull : ι) (got : Except IoError Bytes)
  | work (pull : ι) (fault : Option (IoError × Nat))
  | hear (pull : ι) (outcome : Except RepeError Unit)

/-- Pulls to one destination, and the file system under them. -/
structure SharedPulls {ι : Type} (forms : ι → FileForm) where
  fs : FileSystem DiskPath
  pulls : (pull : ι) → Puller (forms pull).State
  commits : List ι

namespace SharedPulls

variable {ι : Type} [DecidableEq ι] {forms : ι → FileForm}

def start (forms : ι → FileForm) (fs : FileSystem DiskPath) : SharedPulls forms :=
  ⟨fs, fun _ => ⟨.creating, none, []⟩, []⟩

def become (shared : SharedPulls forms) (pull : ι) (after : Puller (forms pull).State) :
    SharedPulls forms :=
  { shared with pulls := Function.update shared.pulls pull after }

def places : DiskOp DiskPath → Except IoError Unit → Bool
  | .rename _ _, .ok () => true
  | _, _ => false

def perform (missing : IoError) (shared : SharedPulls forms) (pull : ι) (op : DiskOp DiskPath)
    (fault : Option (IoError × Nat)) (next : Except IoError Unit → Stage (forms pull).State) :
    SharedPulls forms :=
  let (got, handle, fs) := shared.fs.perform missing op fault (shared.pulls pull).handle
  { fs
    pulls := Function.update shared.pulls pull ⟨next got, handle, (shared.pulls pull).reads⟩
    commits := if places op got then shared.commits ++ [pull] else shared.commits }

def readBytes : Except IoError Bytes → List Bytes
  | .ok bytes => if bytes = [] then [] else [bytes]
  | .error _ => []

def step (missing : IoError) (path : DiskPath) (shared : SharedPulls forms) :
    PullEvent ι → Option (SharedPulls forms)
  | .read pull got =>
    match (shared.pulls pull).stage with
    | .copying copy =>
      match ((forms pull).copy path).act copy with
      | .read _ resume =>
        some (shared.become pull { shared.pulls pull with
          stage := .ofCopy path (resume got)
          reads := (shared.pulls pull).reads ++ readBytes got })
      | _ => none
    | _ => none
  | .work pull fault =>
    ((shared.pulls pull).stage.work path).map fun (op, next) =>
      shared.perform missing pull op fault next
  | .hear pull outcome =>
    match (shared.pulls pull).stage with
    | .ending (.wait resume) =>
      some (shared.become pull { shared.pulls pull with stage := .ending (resume outcome) })
    | .ending (.report resume) =>
      some (shared.become pull { shared.pulls pull with stage := .ending (.done (resume outcome)) })
    | _ => none

def Succeeded (shared : SharedPulls forms) (pull : ι) : Prop :=
  (shared.pulls pull).stage = .ending (.done (.ok ()))

def content (shared : SharedPulls forms) (pull : ι) : Bytes :=
  (forms pull).content (shared.pulls pull).reads

/-- No pull creates the temporary file while another one uses it. -/
def Alone (shared : SharedPulls forms) : PullEvent ι → Prop
  | .work pull _ => (shared.pulls pull).stage.creates = true →
    ∀ other, (shared.pulls other).stage.busy = false
  | _ => True

/-- Among finitely many pulls, it can be checked whether one is alone. -/
instance [Fintype ι] (shared : SharedPulls forms) (event : PullEvent ι) :
    Decidable (shared.Alone event) := by
  cases event <;> unfold Alone <;> infer_instance

end SharedPulls

end Repe.Svs
