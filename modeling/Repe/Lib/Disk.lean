import Repe.Lib.Bytes

/-! Files on a disk whose operations can fail, with one decision for each operation. -/

/-- The operations on files. -/
inductive DiskOp (π : Type) where
  | create (path : π)
  | write (path : π) (bytes : Bytes)
  | flush (path : π)
  | sync (path : π)
  /-- Put a file in the place of another one, in one step. -/
  | rename (source target : π)
  | remove (path : π)
  deriving DecidableEq, Repr

/-- The operation is a removal. -/
def DiskOp.isRemove {π : Type} : DiskOp π → Bool
  | .remove _ => true
  | _ => false

/-- The paths whose files an operation can change. -/
def DiskOp.touched {π : Type} : DiskOp π → List π
  | .create path | .write path _ | .remove path => [path]
  | .flush _ | .sync _ => []
  | .rename source target => [source, target]

/-- The files, and what is going to go wrong. -/
structure Disk (π ε : Type) where
  files : π → Option Bytes
  /-- For each operation to come, the error it fails with and how much of a write gets done. -/
  faults : List (Option (ε × Nat))
  failed : List (DiskOp π)

namespace Disk

variable {π ε : Type} [DecidableEq π] {op : DiskOp π} {disk after : Disk π ε}

/-- What an operation does to the files when it succeeds. -/
def apply (op : DiskOp π) (files : π → Option Bytes) : π → Option Bytes :=
  match op with
  | .create path => Function.update files path (some [])
  | .write path bytes => Function.update files path ((files path).map (· ++ bytes))
  | .flush _ | .sync _ => files
  | .rename source target =>
    -- The target is replaced and the source is gone, with nothing in between.
    Function.update (Function.update files target (files source)) source none
  | .remove path => Function.update files path none

/-- What an operation leaves behind when it fails: of a write, maybe its first bytes. -/
def applyPartly (op : DiskOp π) (written : Nat) (files : π → Option Bytes) : π → Option Bytes :=
  match op with
  | .write path bytes => apply (.write path (bytes.take written)) files
  | _ => files

/-- Perform one operation; beyond the faults that were planned, everything succeeds. -/
def perform (op : DiskOp π) (disk : Disk π ε) : Except ε Unit × Disk π ε :=
  match disk.faults with
  -- Each operation uses up one decision.
  | some (error, written) :: faults =>
    (.error error, ⟨applyPartly op written disk.files, faults, disk.failed ++ [op]⟩)
  | none :: faults => (.ok (), ⟨apply op disk.files, faults, disk.failed⟩)
  | [] => (.ok (), ⟨apply op disk.files, [], disk.failed⟩)

/-- The next operation is going to fail. -/
def failsNext (disk : Disk π ε) : Bool :=
  match disk.faults with
  | some _ :: _ => true
  | _ => false

/-- An operation that succeeds has its effect. -/
theorem perform_ok (done : disk.perform op = (.ok (), after)) :
    after.files = apply op disk.files ∧ after.failed = disk.failed := by
  unfold perform at done
  -- There is no fault left, or none for this operation.
  split at done <;> simp only [Prod.mk.injEq, reduceCtorEq, false_and, true_and] at done
  · subst done
    exact ⟨rfl, rfl⟩
  · subst done
    exact ⟨rfl, rfl⟩

/-- An operation that fails is on record. -/
theorem perform_error {error : ε} (done : disk.perform op = (.error error, after)) :
    (∃ written, after.files = applyPartly op written disk.files) ∧
      after.failed = disk.failed ++ [op] := by
  unfold perform at done
  -- Only a fault makes an operation fail.
  split at done <;> simp only [Prod.mk.injEq, reduceCtorEq, false_and] at done
  · obtain ⟨_, rfl⟩ := done
    exact ⟨⟨_, rfl⟩, rfl⟩

/-- Whether an operation fails is decided before it starts. -/
theorem perform_fails : (∃ error, (disk.perform op).1 = .error error) ↔ disk.failsNext = true := by
  unfold perform failsNext
  split <;> simp_all

/-- An operation leaves the other files alone, whether it succeeds or not. -/
theorem perform_untouched {path : π} (other : path ∉ op.touched) :
    (disk.perform op).2.files path = disk.files path := by
  -- Every effect is an update at a path the operation names.
  have frame : ∀ op : DiskOp π, path ∉ op.touched → apply op disk.files path = disk.files path := by
    intro op other
    cases op <;> simp_all [apply, DiskOp.touched]
  have partly : ∀ written, applyPartly op written disk.files path = disk.files path := by
    intro written
    cases op with
    | write target bytes => exact frame (.write target (bytes.take written)) other
    | _ => rfl
  unfold perform
  split
  · exact partly _
  · exact frame op other
  · exact frame op other

end Disk
