import Mathlib.Logic.Function.Basic
import Repe.Lib.Disk

/-! Files under names that can move, and the handles that keep them open: what several programs do to
one file system, and when one of them can work as if it were alone. -/

/-- The files of a system: a name leads to a number, and a number to what is in the file. -/
structure FileSystem (π : Type) where
  names : π → Option Nat
  contents : Nat → Bytes
  /-- No file from this number on was ever made. -/
  fresh : Nat
  named_lt : ∀ path file, names path = some file → file < fresh
  /-- No file has two names. -/
  apart : ∀ first second file, names first = some file → names second = some file → first = second

/-- An open file, and where the next write goes. -/
structure Handle where
  file : Nat
  offset : Nat
  deriving DecidableEq, Repr

/-- The name that an operation starts from. -/
def DiskOp.subject {π : Type} : DiskOp π → π
  | .create path | .write path _ | .flush path | .sync path | .remove path => path
  | .rename source _ => source

/-- A write at some place of a file. -/
def overwrite (old : Bytes) (offset : Nat) (bytes : Bytes) : Bytes :=
  if bytes = [] then old
  -- Behind the end of the file, the gap is filled with zeros.
  else
    old.take offset ++ List.replicate (offset - old.length) 0 ++ bytes ++
      old.drop (offset + bytes.length)

/-- A write at the end of a file adds to it. -/
theorem overwrite_end (old bytes : Bytes) : overwrite old old.length bytes = old ++ bytes := by
  unfold overwrite
  -- Nothing is written, or it is written behind all there is.
  split
  · next empty => rw [empty, List.append_nil]
  · simp

namespace FileSystem

variable {π ε : Type} [DecidableEq π] {fs : FileSystem π} {path : π} {handle : Handle} {op : DiskOp π}

/-- What is read under a name. -/
def read (fs : FileSystem π) (path : π) : Option Bytes := (fs.names path).map fs.contents

/-- Other contents under the same names. -/
def fill (fs : FileSystem π) (file : Nat) (bytes : Bytes) : FileSystem π :=
  { fs with contents := Function.update fs.contents file bytes }

/-- A new file under a name that leads nowhere. -/
def add (fs : FileSystem π) (path : π) : FileSystem π where
  names := Function.update fs.names path (some fs.fresh)
  contents := Function.update fs.contents fs.fresh []
  fresh := fs.fresh + 1
  named_lt := by
    intro other file named
    rw [Function.update_apply] at named
    split at named
    · cases named
      exact Nat.lt_succ_self _
    · exact Nat.lt_succ_of_lt (fs.named_lt other file named)
  apart := by
    intro first second file one two
    rw [Function.update_apply] at one two
    -- The number of the new file was never used.
    split at one <;> split at two
    · next same also => rw [same, also]
    · cases one
      exact absurd (fs.named_lt second _ two) (Nat.lt_irrefl _)
    · cases two
      exact absurd (fs.named_lt first _ one) (Nat.lt_irrefl _)
    · exact fs.apart first second file one two

/-- Open a file for writing: one that exists is emptied, and otherwise it is made. -/
def create (fs : FileSystem π) (path : π) : Handle × FileSystem π :=
  match fs.names path with
  | some file => (⟨file, 0⟩, fs.fill file [])
  | none => (⟨fs.fresh, 0⟩, fs.add path)

/-- Write through a handle, whatever name its file has by now. -/
def write (fs : FileSystem π) (handle : Handle) (bytes : Bytes) : FileSystem π :=
  fs.fill handle.file (overwrite (fs.contents handle.file) handle.offset bytes)

/-- A name leads nowhere any more. -/
def unlink (fs : FileSystem π) (path : π) : FileSystem π where
  names := Function.update fs.names path none
  contents := fs.contents
  fresh := fs.fresh
  named_lt := by
    intro other file named
    rw [Function.update_apply] at named
    split at named
    · cases named
    · exact fs.named_lt other file named
  apart := by
    intro first second file one two
    rw [Function.update_apply] at one two
    split at one
    · cases one
    · split at two
      · cases two
      · exact fs.apart first second file one two

/-- A name leads to the file of another one, which leads nowhere any more. -/
def move (fs : FileSystem π) (source target : π) (file : Nat)
    (named : fs.names source = some file) : FileSystem π where
  names := Function.update (Function.update fs.names source none) target (some file)
  contents := fs.contents
  fresh := fs.fresh
  named_lt := by
    intro other number found
    rw [Function.update_apply] at found
    split at found
    · cases found
      exact fs.named_lt source file named
    · exact (fs.unlink source).named_lt other number found
  apart := by
    intro first second number one two
    rw [Function.update_apply] at one two
    -- The source was the only name of the file, and it is given up.
    have others : ∀ other, Function.update fs.names source none other ≠ some file := by
      intro other found
      rw [Function.update_apply] at found
      split at found
      · cases found
      · next differs => exact differs (fs.apart other source file found named)
    split at one <;> split at two
    · next same also => rw [same, also]
    · cases one
      exact absurd two (others second)
    · cases two
      exact absurd one (others first)
    · exact (fs.unlink source).apart first second number one two

/--
One operation of a program, with its handle: an error that was planned, how much of a write is done
before it, and the error for a name that leads nowhere.
-/
def perform (missing : ε) (op : DiskOp π) (fault : Option (ε × Nat)) (handle : Option Handle)
    (fs : FileSystem π) : Except ε Unit × Option Handle × FileSystem π :=
  match op, fault with
  | .create path, none => (.ok (), some (fs.create path).1, (fs.create path).2)
  | .write _ bytes, none =>
    match handle with
    | some handle =>
      (.ok (), some ⟨handle.file, handle.offset + bytes.length⟩, fs.write handle bytes)
    | none => (.error missing, none, fs)
  | .write _ bytes, some (error, written) =>
    match handle with
    | some handle =>
      (.error error, some ⟨handle.file, handle.offset + (bytes.take written).length⟩,
        fs.write handle (bytes.take written))
    | none => (.error error, none, fs)
  | .flush _, none | .sync _, none => (.ok (), handle, fs)
  -- A file is closed before it is moved or removed.
  | .rename source target, none =>
    match named : fs.names source with
    | some file => (.ok (), none, fs.move source target file named)
    | none => (.error missing, none, fs)
  | .remove path, none =>
    match fs.names path with
    | some _ => (.ok (), none, fs.unlink path)
    | none => (.error missing, none, fs)
  | .rename _ _, some (error, _) | .remove _, some (error, _) => (.error error, none, fs)
  | .create _, some (error, _) | .flush _, some (error, _) | .sync _, some (error, _) =>
    (.error error, handle, fs)

/-- The handle is at the end of the file that a name leads to. -/
def Owns (fs : FileSystem π) (path : π) (handle : Handle) : Prop :=
  fs.names path = some handle.file ∧ handle.offset = (fs.contents handle.file).length

/-- What is read after a file was filled under its name. -/
theorem read_fill {file : Nat} (bytes : Bytes) (named : fs.names path = some file) :
    (fs.fill file bytes).read = Function.update fs.read path (some bytes) := by
  funext other
  rw [Function.update_apply]
  split
  · next same =>
    subst same
    simp [read, fill, named]
  · next differs =>
    -- Another name leads to another file.
    cases found : fs.names other with
    | none => simp [read, fill, found]
    | some number =>
      have apart : number ≠ file := by
        intro same
        exact differs (fs.apart other path file (same ▸ found) named)
      simp [read, fill, found, apart]

/-- What is read after a file was created. -/
theorem read_create (fs : FileSystem π) (path : π) :
    (fs.create path).2.read = Function.update fs.read path (some []) := by
  unfold create
  -- A name that leads to a file is emptied; any other gets a file of its own.
  split
  · next file named => exact read_fill [] named
  · next absent =>
    funext other
    rw [Function.update_apply]
    split
    · next same =>
      subst same
      simp [read, add]
    · next differs =>
      -- A file with a name is older than the new one.
      cases found : fs.names other with
      | none => simp [read, add, differs, found]
      | some number =>
        have older := fs.named_lt other number found
        simp [read, add, differs, found, older.ne]

/-- Whoever creates a file owns it. -/
theorem owns_create (fs : FileSystem π) (path : π) :
    (fs.create path).2.Owns path (fs.create path).1 := by
  unfold create
  -- The file has no bytes, so its end is where the handle is.
  split
  · next file named => exact ⟨named, by simp [fill]⟩
  · exact ⟨by simp [add], by simp [add]⟩

/-- An owner's write adds to what is read under the name. -/
theorem read_write (bytes : Bytes) (owns : fs.Owns path handle) :
    (fs.write handle bytes).read =
      Function.update fs.read path ((fs.read path).map (· ++ bytes)) := by
  obtain ⟨named, atEnd⟩ := owns
  rw [write, atEnd, overwrite_end, read_fill _ named]
  simp [read, named]

omit [DecidableEq π] in
/-- An owner stays one through a write. -/
theorem owns_write (bytes : Bytes) (owns : fs.Owns path handle) :
    (fs.write handle bytes).Owns path ⟨handle.file, handle.offset + bytes.length⟩ := by
  obtain ⟨named, atEnd⟩ := owns
  refine ⟨named, ?_⟩
  -- The handle was at the end of the file, and is again.
  rw [write, atEnd, overwrite_end]
  simp [fill]

/-- What is read after a name was given up. -/
theorem read_unlink (fs : FileSystem π) (path : π) :
    (fs.unlink path).read = Function.update fs.read path none := by
  funext other
  rw [Function.update_apply]
  -- Only this name leads nowhere now.
  split
  · next same => simp [read, unlink, same]
  · next differs => simp [read, unlink, differs]

/-- What is read after a file was moved. -/
theorem read_move {source target : π} {file : Nat} (named : fs.names source = some file)
    (differ : source ≠ target) :
    (fs.move source target file named).read =
      Function.update (Function.update fs.read target (fs.read source)) source none := by
  funext other
  simp only [read, move, Function.update_apply]
  -- The target leads to the file, and the source leads nowhere.
  split
  · next same =>
    subst same
    simp [differ.symm, named]
  · split <;> rfl

/-- A file that a name leads to can be moved. -/
theorem perform_rename {source target : π} {file : Nat} (missing : ε) (open_ : Option Handle)
    (named : fs.names source = some file) :
    fs.perform missing (.rename source target) none open_ =
      (.ok (), none, fs.move source target file named) := by
  simp only [perform]
  -- The name that is moved is found.
  split
  · next other found =>
    rw [named] at found
    cases found
    rfl
  · next absent =>
    rw [named] at absent
    cases absent

/-- A removal leaves the other files alone, even if it fails. -/
theorem read_remove {other : π} (missing : ε) (fault : Option (ε × Nat)) (open_ : Option Handle)
    (differs : other ≠ path) :
    (fs.perform missing (.remove path) fault open_).2.2.read other = fs.read other := by
  -- A removal that fails does nothing at all.
  rcases fault with _ | ⟨error, written⟩
  · simp only [perform]
    split
    · rw [read_unlink, Function.update_of_ne differs]
    · rfl
  · rfl

/-- An operation that touches no file leaves them all alone. -/
theorem perform_quiet (missing : ε) (fault : Option (ε × Nat)) (open_ : Option Handle)
    (still : op.touched = []) : (fs.perform missing op fault open_).2.2 = fs := by
  -- The other operations touch a file.
  cases op with
  | flush path => rcases fault with _ | ⟨error, written⟩ <;> rfl
  | sync path => rcases fault with _ | ⟨error, written⟩ <;> rfl
  | create path => cases still
  | write path bytes => cases still
  | rename source target => cases still
  | remove path => cases still

/-- The creation of a file is what it is on a disk of one's own. -/
theorem perform_create (missing : ε) (fault : Option (ε × Nat)) (open_ : Option Handle) :
    ((⟨fs.read, [fault], []⟩ : Disk π ε).perform (.create path)).1 =
        (fs.perform missing (.create path) fault open_).1 ∧
      ((⟨fs.read, [fault], []⟩ : Disk π ε).perform (.create path)).2.files =
        (fs.perform missing (.create path) fault open_).2.2.read := by
  rcases fault with _ | ⟨error, written⟩
  · exact ⟨rfl, (read_create fs path).symm⟩
  · exact ⟨rfl, rfl⟩

/-- For the owner of a file, every operation on it is what it is on a disk of one's own. -/
theorem perform_owned (missing : ε) (fault : Option (ε × Nat)) (owns : fs.Owns op.subject handle)
    (differ : ∀ source target, op = .rename source target → source ≠ target) :
    ((⟨fs.read, [fault], []⟩ : Disk π ε).perform op).1 =
        (fs.perform missing op fault (some handle)).1 ∧
      ((⟨fs.read, [fault], []⟩ : Disk π ε).perform op).2.files =
        (fs.perform missing op fault (some handle)).2.2.read := by
  -- A failure only matters to a write, of which it leaves a part.
  rcases fault with _ | ⟨error, written⟩
  · cases op with
    | create path => exact perform_create missing none _
    | write path bytes => exact ⟨rfl, (read_write bytes owns).symm⟩
    | flush path => exact ⟨rfl, rfl⟩
    | sync path => exact ⟨rfl, rfl⟩
    | rename source target =>
      have named : fs.names source = some handle.file := owns.1
      rw [perform_rename missing _ named]
      exact ⟨rfl, (read_move named (differ source target rfl)).symm⟩
    | remove path =>
      have named : fs.names path = some handle.file := owns.1
      simp only [Disk.perform, perform, named, true_and]
      exact (read_unlink fs path).symm
  · cases op with
    | write path bytes => exact ⟨rfl, (read_write (bytes.take written) owns).symm⟩
    | _ => exact ⟨rfl, rfl⟩

end FileSystem
