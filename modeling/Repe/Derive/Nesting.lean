import Repe.Derive.Document
import Repe.Lib.Percent

/-! Listings inside listings: what a nest of objects leaves in the one buffer it is written to, where
all of it is written and where some entry fails or declines. -/

namespace Repe.Derive

namespace ObjectBody

variable (structio : Structio)

/-- A key and a value that a callee writes, as `entry_with` and `entry_try_with` have it. -/
def entryReturning (borrow : Borrow) (obj : ObjectBody) (name : Path)
    (f : ResponseBody → ResponseBody × borrow.Return) : ObjectBody × borrow.Return :=
  let opened := obj.key structio name
  let (out, outcome) := f opened.valueBody
  -- The whole object is rewound, past its opening.
  let buf := if borrow.rewinds outcome then out.buf.take opened.start else out.buf
  ({ opened with buf }, outcome)

def entryWith (obj : ObjectBody) (name : Path) (f : ResponseBody → ResponseBody × StructResult) :
    ObjectBody × StructResult :=
  obj.entryReturning structio .exclusive name f

def entryTryWith (obj : ObjectBody) (name : Path)
    (f : ResponseBody → ResponseBody × Option StructResult) : ObjectBody × Option StructResult :=
  obj.entryReturning structio .shared name f

end ObjectBody

/-- The entries of a generated listing are written so. -/
theorem Progress.entryWith_eq {S : Type} (structio : Structio) (borrow : Borrow)
    (progress : Progress S) (name : Path) (produce : S → ResponseBody → S × Reply borrow.Return) :
    progress.entryWith structio borrow name produce =
      (let called := produce progress.self_ (progress.obj.key structio name).valueBody
      let (obj, outcome) := progress.obj.entryReturning structio borrow name fun out =>
        ((produce progress.self_ out).2.out, (produce progress.self_ out).2.returned)
      let after : Progress S := ⟨called.1, obj, progress.calls ++ called.2.calls⟩
      if borrow.produced outcome then .ok after else .error (after, outcome)) := rfl

variable {structio : Structio} {V : Type}

structure Leaf (readers : Readers structio V) where
  document : Document V
  json : Bytes
  beve : Bytes
  json_encodes : readers.Encodes .json json document
  beve_encodes : readers.Encodes .beve beve document

def Leaf.writer {readers : Readers structio V} : ServableWrite (Leaf readers) := ⟨Leaf.json, Leaf.beve⟩

theorem Leaf.encodes {readers : Readers structio V} (leaf : Leaf readers) (format : BodyFormat) :
    readers.Encodes format (Leaf.writer.encode format leaf) leaf.document := by
  cases format with
  | beve => exact leaf.beve_encodes
  | _ => exact leaf.json_encodes

mutual

/-- What writes into a body: a value, something that does not come to its end, or a listing. -/
inductive Node (readers : Readers structio V) where
  | value (leaf : Leaf readers)
  | fails (written : Bytes) (error : StructError)
  | declines (written : Bytes)
  | listing (declared : Nat) (entries : Entries readers)

inductive Entries (readers : Readers structio V) where
  | done
  | entry (name : Path) (leaf : Leaf readers) (rest : Entries readers)
  /-- The callee's result is an error where it failed or declined; which one is up to the listing. -/
  | entryWith (name : Path) (refuse : Option StructError → StructError) (node : Node readers)
    (rest : Entries readers)
  | entryTryWith (name : Path) (relabel : StructError → StructError) (node : Node readers)
    (rest : Entries readers)

end

def settle (refuse : Option StructError → StructError) : Option StructResult → StructResult
  | none => .err (refuse none)
  | some (.ok ()) => .ok ()
  | some (.err error) => .err (refuse (some error))
  | some .panic => .panic

variable {readers : Readers structio V}

mutual

def Node.run : Node readers → ResponseBody → ResponseBody × Option StructResult
  | .value leaf, out => (out.write Leaf.writer leaf, some (.ok ()))
  | .fails written error, out => ({ out with buf := out.buf ++ written }, some (.err error))
  | .declines written, out => ({ out with buf := out.buf ++ written }, none)
  | .listing declared entries, out =>
    match entries.run (out.object structio declared) with
    | (obj, some (.ok ())) =>
      match obj.finish with
      | some closed => (out.reclaim closed, some (.ok ()))
      | none => (out.reclaim obj, some .panic)
    -- What stopped an entry is handed on.
    | (obj, outcome) => (out.reclaim obj, outcome)

/-- Write the entries of a listing, up to one that fails or declines. -/
def Entries.run : Entries readers → ObjectBody → ObjectBody × Option StructResult
  | .done, obj => (obj, some (.ok ()))
  | .entry name leaf rest, obj => rest.run (obj.entry structio Leaf.writer name leaf)
  | .entryWith name refuse node rest, obj =>
    match obj.entryWith structio name (fun out => (node.run out).map id (settle refuse)) with
    | (obj, .ok ()) => rest.run obj
    | (obj, failed) => (obj, some failed)
  | .entryTryWith name relabel node rest, obj =>
    match obj.entryTryWith structio name
      (fun out => (node.run out).map id (Option.map (Exec.mapErr relabel))) with
    | (obj, some (.ok ())) => rest.run obj
    | (obj, outcome) => (obj, outcome)

end

mutual

def Node.stops : Node readers → Bool
  | .value _ => false
  | .fails _ _ => true
  | .declines _ => true
  | .listing _ entries => entries.stops

def Entries.stops : Entries readers → Bool
  | .done => false
  | .entry _ _ rest => rest.stops
  | .entryWith _ _ node rest => node.stops || rest.stops
  | .entryTryWith _ _ node rest => node.stops || rest.stops

end

mutual

def Node.document : Node readers → Document V
  | .value leaf => leaf.document
  -- Nothing of these stays.
  | .fails _ _ => .object []
  | .declines _ => .object []
  | .listing _ entries => .object entries.documents

def Entries.documents : Entries readers → List (Path × Document V)
  | .done => []
  | .entry name leaf rest => (name, leaf.document) :: rest.documents
  | .entryWith name _ node rest => (name, node.document) :: rest.documents
  | .entryTryWith name _ node rest => (name, node.document) :: rest.documents

end

mutual

/-- Every listing that is run and does not fail declares the number of its entries. -/
def Node.Counted : Node readers → Prop
  | .value _ => True
  | .fails _ _ => True
  | .declines _ => True
  | .listing declared entries =>
    entries.Counted ∧ (entries.stops = false → declared = entries.documents.length)

/-- The listings among the entries; behind one that fails nothing is run. -/
def Entries.Counted : Entries readers → Prop
  | .done => True
  | .entry _ _ rest => rest.Counted
  | .entryWith _ _ node rest => node.Counted ∧ (node.stops = false → rest.Counted)
  | .entryTryWith _ _ node rest => node.Counted ∧ (node.stops = false → rest.Counted)

end

section Leaves

variable {out : ResponseBody} {count : Nat} {before : List (Path × Bytes)} {obj : ObjectBody}

/-- An object that holds these members, and knows where it began. -/
structure ObjectBody.Stands (structio : Structio) (out : ResponseBody) (count : Nat)
    (entries : List (Path × Bytes)) (obj : ObjectBody) : Prop
    extends obj.Holds structio out count entries where
  start : obj.start = out.buf.length

theorem ResponseBody.stands_object (out : ResponseBody) (count : Nat) :
    (out.object structio count).Stands structio out count [] :=
  ⟨out.holds_object count, rfl⟩

namespace ObjectBody.Stands

variable {borrow : Borrow} {f : ResponseBody → ResponseBody × borrow.Return} {name : Path}
  {bytes : Bytes}

theorem kept (stands : obj.Stands structio out count before)
    (stays : borrow.rewinds (f (obj.key structio name).valueBody).2 = false)
    (wrote : (f (obj.key structio name).valueBody).1.buf = (obj.key structio name).buf ++ bytes) :
    (obj.entryReturning structio borrow name f).1.Stands structio out count
      (before ++ [(name, bytes)]) := by
  have more := stands.key name bytes
  simp only [entryReturning, stays, wrote]
  exact ⟨more, stands.start⟩

theorem rewound (stands : obj.Stands structio out count before)
    (rewinds : borrow.rewinds (f (obj.key structio name).valueBody).2 = true)
    (wrote : (f (obj.key structio name).valueBody).1.buf = (obj.key structio name).buf ++ bytes) :
    (obj.entryReturning structio borrow name f).1.buf = out.buf := by
  -- The key remembers where the object started, and the buffer is cut there.
  have began : (obj.key structio name).start = out.buf.length := stands.start
  have opened : (obj.key structio name).buf = obj.buf ++ obj.keyBytes structio name := rfl
  simp only [entryReturning, rewinds, wrote, began, opened, stands.buf, if_true, List.append_assoc]
  exact List.take_left

end ObjectBody.Stands

/-- Members with their keys and the documents they are read as, as far as memory can hold them. -/
def WrittenAs (readers : Readers structio V) (format : BodyFormat) :
    List (Path × Bytes) → List (Path × Document V) → Prop :=
  List.Forall₂ fun entry member =>
    entry.1 = member.1 ∧ (entry.2.length < 2 ^ 63 → readers.Encodes format entry.2 member.2)

inductive Node.Leaves (node : Node readers) (out : ResponseBody) :
    ResponseBody × Option StructResult → Prop where
  | stopped {after : ResponseBody} {outcome : Option StructResult} {written : Bytes}
    (stops : node.stops = true) (rewinds : Borrow.shared.rewinds outcome = true)
    (buf : after.buf = out.buf ++ written) : Leaves node out (after, outcome)
  | wrote {after : ResponseBody} {bytes : Bytes} (runs : node.stops = false)
    (buf : after.buf = out.buf ++ bytes)
    (encodes : bytes.length < 2 ^ 63 → readers.Encodes out.format bytes node.document) :
    Leaves node out (after, some (.ok ()))

/-- What writing entries leaves of the object they are written to. -/
inductive Entries.Leaves (entries : Entries readers) (out : ResponseBody) (count : Nat)
    (before : List (Path × Bytes)) : ObjectBody × Option StructResult → Prop where
  | stopped {after : ObjectBody} {outcome : Option StructResult} (stops : entries.stops = true)
    (rewinds : Borrow.shared.rewinds outcome = true) (buf : after.buf = out.buf) :
    Leaves entries out count before (after, outcome)
  | wrote {after : ObjectBody} {written : List (Path × Bytes)} (runs : entries.stops = false)
    (holds : after.Holds structio out count (before ++ written))
    (named : WrittenAs readers out.objectFormat written entries.documents) :
    Leaves entries out count before (after, some (.ok ()))

theorem Entries.Leaves.cons {entries rest : Entries readers} {name : Path} {bytes : Bytes}
    {document : Document V} {result : ObjectBody × Option StructResult}
    (leaves : rest.Leaves out count (before ++ [(name, bytes)]) result)
    (stops : entries.stops = rest.stops)
    (documents : entries.documents = (name, document) :: rest.documents)
    (encodes : bytes.length < 2 ^ 63 → readers.Encodes out.objectFormat bytes document) :
    entries.Leaves out count before result := by
  -- A stop of the others is one of all; else the entry is in front of theirs.
  cases leaves with
  | stopped later rewinds buf => exact .stopped (stops.trans later) rewinds buf
  | @wrote _ written runs holds named =>
    rw [List.append_assoc, List.singleton_append] at holds
    have named : WrittenAs readers out.objectFormat ((name, bytes) :: written) entries.documents := by
      rw [documents]
      exact .cons ⟨rfl, encodes⟩ named
    exact .wrote (stops.trans runs) holds named

/-- An object that memory can hold is read as the entries that were written. -/
theorem WrittenAs.encodes {format : BodyFormat} {written : List (Path × Bytes)}
    {documents : List (Path × Document V)} (named : WrittenAs readers format written documents)
    (held : (objectBytes structio written format).length < 2 ^ 63) :
    readers.Encodes format (objectBytes structio written format) (.object documents) := by
  have inside : (members structio written format).length < 2 ^ 63 := by
    rw [objectBytes, List.length_append, List.length_append] at held
    omega
  have encodes : readers.EncodesAll format written documents := by
    -- No value is longer than the object it is in.
    have short : ∀ entry ∈ written, entry.2.length < 2 ^ 63 := fun entry member =>
      (Readers.length_le_members structio format member).trans_lt inside
    exact ((List.forall₂_and_left _ _).mpr ⟨short, named⟩).imp
      fun entry member written => ⟨written.2.1, written.2.2 written.1⟩
  apply Readers.encodes_object encodes
  rintro rfl
  have long := Readers.two_mul_length_le_members encodes
  omega

/-- A listing: all of its object, or nothing. -/
theorem Entries.Leaves.listing {entries : Entries readers}
    (leaves : entries.Leaves out count [] (entries.run (out.object structio count)))
    (counted : entries.stops = false → count = entries.documents.length) :
    (entries.stops = true ∧ ((Node.listing count entries).run out).1.buf = out.buf ∧
      Borrow.shared.rewinds ((Node.listing count entries).run out).2 = true) ∨
    (entries.stops = false ∧ ((Node.listing count entries).run out).2 = some (.ok ()) ∧
      ∃ bytes, ((Node.listing count entries).run out).1.buf = out.buf ++ bytes ∧
        (bytes.length < 2 ^ 63 →
          readers.Encodes out.objectFormat bytes (.object entries.documents))) := by
  rw [Node.run]
  generalize entries.run (out.object structio count) = result at leaves
  cases leaves with
  | @stopped _ outcome stops rewinds buf =>
    refine .inl ⟨stops, ?_⟩
    -- What rewinds is an error or a decline, and neither closes the object.
    rcases outcome with _ | _ | _ | _
    · exact ⟨buf, rfl⟩
    · cases rewinds
    · exact ⟨buf, rfl⟩
    · cases rewinds
  | @wrote after written runs holds named =>
    refine .inr ⟨runs, ?_⟩
    have declared : count = written.length := (counted runs).trans named.length_eq.symm
    subst declared
    obtain ⟨closed, finished, whole⟩ := holds.finish
    simp only [finished, whole, true_and]
    exact ⟨_, rfl, named.encodes⟩

/--
An entry whose value a node writes: one more member, or the buffer as it was before the object.

`give` is how the callee hands the node's outcome on.
-/
theorem Node.Leaves.entry {borrow : Borrow} {node : Node readers} {name : Path}
    {give : Option StructResult → borrow.Return}
    (leaves : node.Leaves (obj.key structio name).valueBody
      (node.run (obj.key structio name).valueBody))
    (stands : obj.Stands structio out count before)
    (hands : ∀ outcome, Borrow.shared.rewinds outcome = true → borrow.rewinds (give outcome) = true)
    (stays : borrow.rewinds (give (some (.ok ()))) = false) {after : ObjectBody}
    {returned : borrow.Return} (went : obj.entryReturning structio borrow name
      (fun out => (node.run out).map id give) = (after, returned)) :
    (node.stops = true ∧ after.buf = out.buf ∧ borrow.rewinds returned = true) ∨
    (node.stops = false ∧ returned = give (some (.ok ())) ∧
      ∃ bytes, after.Stands structio out count (before ++ [(name, bytes)]) ∧
        (bytes.length < 2 ^ 63 → readers.Encodes out.objectFormat bytes node.document)) := by
  -- The callee's body begins where the key ends, and what it returns decides whether that stays.
  have obj_eq := congrArg Prod.fst went
  have returned_eq := congrArg Prod.snd went
  subst obj_eq returned_eq
  rcases ran : node.run (obj.key structio name).valueBody with ⟨body, outcome⟩
  rw [ran] at leaves
  have given : ((node.run (obj.key structio name).valueBody).map id give) = (body, give outcome) := by
    rw [ran]
    rfl
  cases leaves with
  | @stopped _ _ written stops rewinds buf =>
    have wrote : ((node.run (obj.key structio name).valueBody).map id give).1.buf =
        (obj.key structio name).buf ++ written := by
      rw [given]
      exact buf
    have rewound : borrow.rewinds ((node.run (obj.key structio name).valueBody).map id give).2
        = true := by
      rw [given]
      exact hands outcome rewinds
    exact .inl ⟨stops, stands.rewound rewound wrote, rewound⟩
  | @wrote _ bytes runs buf encodes =>
    refine .inr ⟨runs, congrArg Prod.snd given, bytes, stands.kept ?_ ?_, ?_⟩
    · rw [given]
      exact stays
    · rw [given]
      exact buf
    · rw [← stands.format]
      exact encodes

mutual

/-- What is left of a body, for every node. -/
theorem Node.leaves : ∀ (node : Node readers), node.Counted → ∀ (out : ResponseBody),
    out.requested = out.format → node.Leaves out (node.run out)
  | .value leaf, _, out, settled => by
    have encodes := leaf.encodes out.format
    -- The format that was asked for is the settled one, so the value is written in it.
    have buf : (out.write Leaf.writer leaf).buf = out.buf ++ Leaf.writer.encode out.format leaf := by
      rw [ResponseBody.write, ServableWrite.encode, settled]
      split <;> rfl
    rw [Node.run]
    exact .wrote rfl buf fun _ => encodes
  | .fails written error, _, out, _ => by
    rw [Node.run]
    exact .stopped rfl rfl rfl
  | .declines written, _, out, _ => by
    rw [Node.run]
    exact .stopped rfl rfl rfl
  | .listing declared entries, counted, out, settled => by
    rw [Node.Counted] at counted
    have format : out.objectFormat = out.format := by
      rw [ResponseBody.objectFormat, settled, ite_self]
    have leaves := (entries.leaves counted.1 (out.stands_object declared)).listing counted.2
    rw [format] at leaves
    -- Inside another object a listing is a value like any other.
    rcases ran : (Node.listing declared entries).run out with ⟨after, outcome⟩
    rw [ran] at leaves
    obtain ⟨stops, buf, rewinds⟩ | ⟨runs, rfl, bytes, buf, encodes⟩ := leaves
    · exact .stopped stops rewinds (buf.trans (List.append_nil _).symm)
    · exact .wrote runs buf encodes

/-- What is left of an object, for every list of entries. -/
theorem Entries.leaves : ∀ (entries : Entries readers), entries.Counted →
    ∀ {out : ResponseBody} {count : Nat} {before : List (Path × Bytes)} {obj : ObjectBody},
      obj.Stands structio out count before → entries.Leaves out count before (entries.run obj)
  | .done, _, _, _, _, _, stands => by
    rw [Entries.run]
    exact .wrote rfl (by rw [List.append_nil]; exact stands.toHolds) .nil
  | .entry name leaf rest, counted, out, count, before, obj, stands => by
    rw [Entries.Counted] at counted
    rw [Entries.run]
    have more : (obj.entry structio Leaf.writer name leaf).Stands structio out count _ :=
      ⟨stands.entry Leaf.writer name leaf, stands.start⟩
    refine (rest.leaves counted more).cons ?_ ?_ fun _ => leaf.encodes out.objectFormat
    · rw [Entries.stops]
    · rw [Entries.documents]
  | .entryWith name refuse node rest, counted, out, count, before, obj, stands => by
    rw [Entries.Counted] at counted
    have value := node.leaves counted.1 (obj.key structio name).valueBody rfl
    rcases went : obj.entryWith structio name (fun out => (node.run out).map id (settle refuse))
      with ⟨after, returned⟩
    rw [Entries.run, went]
    obtain ⟨stops, buf, rewinds⟩ | ⟨runs, rfl, bytes, stands, encodes⟩ :=
      value.entry stands (by rintro (_ | _ | _ | _) <;> simp [Borrow.rewinds, settle]) rfl went
    · have stops : (Entries.entryWith name refuse node rest).stops = true := by
        rw [Entries.stops, stops, Bool.true_or]
      -- The listing hands an error on, whether the value failed or declined.
      cases returned with
      | err error => exact .stopped stops rfl buf
      | ok | panic => cases rewinds
    · refine (rest.leaves (counted.2 runs) stands).cons ?_ ?_ encodes
      · rw [Entries.stops, runs, Bool.false_or]
      · rw [Entries.documents]
  | .entryTryWith name relabel node rest, counted, out, count, before, obj, stands => by
    rw [Entries.Counted] at counted
    have value := node.leaves counted.1 (obj.key structio name).valueBody rfl
    rcases went : obj.entryTryWith structio name
      (fun out => (node.run out).map id (Option.map (Exec.mapErr relabel))) with ⟨after, returned⟩
    rw [Entries.run, went]
    obtain ⟨stops, buf, rewinds⟩ | ⟨runs, rfl, bytes, stands, encodes⟩ :=
      value.entry stands
        (by rintro (_ | _ | _ | _) <;> simp [Borrow.rewinds, Exec.mapErr]) rfl went
    · have stops : (Entries.entryTryWith name relabel node rest).stops = true := by
        rw [Entries.stops, stops, Bool.true_or]
      -- Here a decline is handed on as such.
      rcases returned with _ | _ | _ | _
      · exact .stopped stops rfl buf
      · cases rewinds
      · exact .stopped stops rfl buf
      · cases rewinds
    · refine (rest.leaves (counted.2 runs) stands).cons ?_ ?_ encodes
      · rw [Entries.stops, runs, Bool.false_or]
      · rw [Entries.documents]

end

end Leaves

/--
A nest of listings, of any depth and width, in one buffer.

Where an entry fails or declines the buffer is what it was before the outermost object. Otherwise one
object was appended, which is read as the entries that were written, with their keys and in order at
every level, as far as a buffer can be that long.
-/
theorem nested_listings_all_or_nothing {structio : Structio} {V : Type} {readers : Readers structio V}
    (declared : Nat) (entries : Entries readers) (out : ResponseBody)
    (counted : (Node.listing declared entries).Counted) :
    (entries.stops = true →
      ((Node.listing declared entries).run out).1.buf = out.buf ∧
        ((Node.listing declared entries).run out).2 ≠ some (.ok ())) ∧
    (entries.stops = false →
      ((Node.listing declared entries).run out).1.buf.length < 2 ^ 63 →
      ((Node.listing declared entries).run out).2 = some (.ok ()) ∧
        ∃ bytes, ((Node.listing declared entries).run out).1.buf = out.buf ++ bytes ∧
          readers.decode out.objectFormat bytes = some (.object entries.documents)) := by
  rw [Node.Counted] at counted
  have leaves := (entries.leaves counted.1 (out.stands_object declared)).listing counted.2
  constructor
  · -- Whatever rewinds the outermost object is not an `Ok(())`.
    intro stops
    obtain ⟨_, buf, rewinds⟩ | ⟨runs, _⟩ := leaves
    · refine ⟨buf, fun ok => ?_⟩
      rw [ok] at rewinds
      cases rewinds
    · rw [stops] at runs
      cases runs
  · intro runs held
    obtain ⟨stops, _⟩ | ⟨_, ok, bytes, buf, encodes⟩ := leaves
    · rw [runs] at stops
      cases stops
    · rw [buf, List.length_append] at held
      exact ⟨ok, bytes, buf, (encodes (by omega)).decode⟩

section Sample

/-- Read a count of the longest form, as many ones and a zero. -/
def readOnes : Bytes → Option (Nat × Bytes)
  | 1 :: rest => (readOnes rest).map fun (count, rest) => (count + 1, rest)
  | 0 :: rest => some (0, rest)
  | _ => none

theorem readOnes_replicate (count : Nat) (rest : Bytes) :
    readOnes (List.replicate count 1 ++ 0 :: rest) = some (count, rest) := by
  -- One byte of all ones is read for each unit.
  induction count with
  | zero => rfl
  | succ count ih =>
    rw [List.replicate_succ, List.cons_append, readOnes, ih]
    rfl

def readCount : Bytes → Option (Nat × Bytes)
  | [] => none
  | first :: rest =>
    if first = 1 ∧ rest.head? = some 0 then readOnes rest.tail
    else
      let width := 2 ^ (first.toNat % 4)
      some (LittleEndian.ofBytes ((first :: rest).take width) / 4, (first :: rest).drop width)

/-- A count of one of the four widths is read back. -/
theorem readCount_toBytes {kind count : Nat} (below : kind < 4) (fits : 4 * count + kind < 256 ^ 2 ^ kind)
    (apart : kind = 1 → 64 ≤ count) (rest : Bytes) :
    readCount (LittleEndian.toBytes (2 ^ kind) (4 * count + kind) ++ rest) = some (count, rest) := by
  obtain ⟨width, wide⟩ := Nat.exists_eq_succ_of_ne_zero (Nat.two_pow_pos kind).ne'
  have written : LittleEndian.toBytes (2 ^ kind) (4 * count + kind) = UInt8.ofNat (4 * count + kind) ::
      LittleEndian.toBytes width ((4 * count + kind) / 256) := by
    rw [wide]
    rfl
  have first : (UInt8.ofNat (4 * count + kind)).toNat = (4 * count + kind) % 256 := UInt8.toNat_ofNat'
  have low : (UInt8.ofNat (4 * count + kind)).toNat % 4 = kind := by omega
  rw [written, List.cons_append, readCount, if_neg]
  · rw [low, ← List.cons_append, ← written]
    dsimp only
    rw [List.take_left' (LittleEndian.toBytes_length ..),
      List.drop_left' (LittleEndian.toBytes_length ..), LittleEndian.ofBytes_toBytes,
      Nat.mod_eq_of_lt fits]
    congr 2
    omega
  -- Two bytes are taken for a count only where one does not do, so the second is not zero.
  · rintro ⟨one, zero⟩
    have odd : (4 * count + kind) % 256 = 1 := by rw [← first, one]; rfl
    have two : kind = 1 := by omega
    subst two
    obtain rfl : width = 1 := by omega
    have second : (UInt8.ofNat ((4 * count + 1) / 256)).toNat = (4 * count + 1) / 256 % 256 :=
      UInt8.toNat_ofNat'
    rw [Option.some.inj zero] at second
    have large := apart rfl
    have none : (4 * count + 1) / 256 % 256 = 0 := second.symm
    omega

/-- A count is read back. -/
theorem readCount_beveCount (count : Nat) (rest : Bytes) :
    readCount (beveCount count ++ rest) = some (count, rest) := by
  -- By the width that the count needs.
  unfold beveCount
  split
  · exact @readCount_toBytes 0 count (by decide) (by omega) (by simp) rest
  split
  · exact @readCount_toBytes 1 count (by decide) (by omega) (by omega) rest
  split
  · exact @readCount_toBytes 2 count (by decide) (by omega) (by simp) rest
  split
  · exact @readCount_toBytes 3 count (by decide) (by omega) (by simp) rest
  · rw [List.append_assoc, List.append_assoc]
    exact readOnes_replicate count rest

def readSized (bytes : Bytes) : Option (Path × Bytes) :=
  (readCount bytes).bind fun (count, rest) =>
    (Utf8.fromUtf8 (rest.take count)).map fun text => (text, rest.drop count)

theorem readSized_beveText (text : Path) (rest : Bytes) :
    readSized (beveText text ++ rest) = some (text, rest) := by
  rw [readSized, beveText, List.append_assoc, readCount_beveCount]
  simp only [Option.bind_some, List.take_left, List.drop_left, Utf8.fromUtf8_encode, Option.map_some]

/-- The next byte of a JSON string, nothing at the quote that ends it. -/
def unescape : Bytes → Option (Option UInt8 × Bytes)
  | 0x5C :: 0x75 :: _ :: _ :: high :: low :: rest =>
    (Percent.hexNibble high).bind fun high =>
      (Percent.hexNibble low).map fun low => (some (high <<< 4 ||| low), rest)
  | 0x5C :: byte :: rest => some (some byte, rest)
  | 0x22 :: rest => some (none, rest)
  | byte :: rest => some (some byte, rest)
  | [] => none

theorem hexNibble_hexDigit : ∀ value < 32,
    Percent.hexNibble (hexDigit (UInt8.ofNat value >>> 4)) = some (UInt8.ofNat value >>> 4) ∧
      Percent.hexNibble (hexDigit (UInt8.ofNat value &&& 0xF)) = some (UInt8.ofNat value &&& 0xF) ∧
      (UInt8.ofNat value >>> 4) <<< 4 ||| (UInt8.ofNat value &&& 0xF) = UInt8.ofNat value := by
  decide

/-- A byte is read back. -/
theorem unescape_jsonEscape (byte : UInt8) (rest : Bytes) :
    unescape (jsonEscape byte ++ rest) = some (some byte, rest) := by
  unfold jsonEscape
  split
  · -- A quote and a backslash are escaped by a backslash.
    next special => rcases special with rfl | rfl <;> rfl
  · next plain =>
    split
    · -- A control character is written with two digits, which are read back.
      next control =>
      have small : byte.toNat < 32 := control
      obtain ⟨high, low, whole⟩ := hexNibble_hexDigit byte.toNat small
      rw [UInt8.ofNat_toNat] at high low whole
      show (Percent.hexNibble (hexDigit (byte >>> 4))).bind _ = _
      rw [high, Option.bind_some, low, Option.map_some, whole]
      rfl
    · rw [not_or] at plain
      simp [unescape, plain]

def readQuoted : Nat → Bytes → Option (Bytes × Bytes)
  | 0, _ => none
  | fuel + 1, bytes =>
    match unescape bytes with
    | some (some byte, rest) => (readQuoted fuel rest).map fun (text, rest) => (byte :: text, rest)
    | some (none, rest) => some ([], rest)
    | none => none

theorem readQuoted_escaped {text : Bytes} {fuel : Nat} (enough : text.length < fuel) (rest : Bytes) :
    readQuoted fuel (text.flatMap jsonEscape ++ 0x22 :: rest) = some (text, rest) := by
  -- Every byte of the text costs one unit of fuel.
  induction text generalizing fuel with
  | nil =>
    obtain ⟨fuel, rfl⟩ := Nat.exists_eq_succ_of_ne_zero (Nat.ne_zero_of_lt enough)
    rfl
  | cons byte text ih =>
    obtain ⟨fuel, rfl⟩ := Nat.exists_eq_succ_of_ne_zero (Nat.ne_zero_of_lt enough)
    rw [List.flatMap_cons, List.append_assoc, readQuoted, unescape_jsonEscape]
    simp only [ih (Nat.lt_of_succ_lt_succ enough), Option.map_some]

theorem length_le_escaped (text : Bytes) : text.length ≤ (text.flatMap jsonEscape).length := by
  induction text with
  | nil => exact le_rfl
  | cons byte text ih =>
    -- An escape has one byte at least.
    have one : 1 ≤ (jsonEscape byte).length := by
      unfold jsonEscape
      split_ifs <;> simp
    rw [List.flatMap_cons, List.length_append, List.length_cons]
    omega

/-- Read such bodies, whose other values are digits and numbers of one byte. -/
def byteReaders : Readers jsonBeve UInt8 where
  jsonKey
    | 0x22 :: rest => (readQuoted (rest.length + 1) rest).bind fun (bytes, rest) =>
      (Utf8.fromUtf8 bytes).map fun text => (text, rest)
    | _ => none
  beveKey := readSized
  beveSize := readCount
  jsonOther
    | digit :: rest => some (digit - 0x30, rest)
    | [] => none
  beveOther
    | 0x11 :: byte :: rest => some (byte, rest)
    | _ => none
  jsonKey_text name rest := by
    have enough : (Utf8.encode name).length <
        ((Utf8.encode name).flatMap jsonEscape ++ 0x22 :: rest).length + 1 := by
      have shorter := length_le_escaped (Utf8.encode name)
      rw [List.length_append]
      omega
    have read := readQuoted_escaped enough rest
    simp only [jsonBeve, List.cons_append, List.append_assoc, List.nil_append, read,
      Option.bind_some, Utf8.fromUtf8_encode, Option.map_some]
  text_quoted _ := rfl
  beveKey_strBody := readSized_beveText
  beveSize_size count rest _ := readCount_beveCount count rest

def one : Leaf byteReaders where
  document := .other 1
  json := [0x31]
  beve := [0x11, 1]
  json_encodes fuel rest enough _ := by
    cases fuel with
    | zero => exact absurd enough (Nat.not_lt_zero _)
    | succ fuel => rfl
  beve_encodes fuel rest enough _ := by
    cases fuel with
    | zero => exact absurd enough (Nat.not_lt_zero _)
    | succ fuel => rfl

def twoLevels : Entries byteReaders :=
  .entry "a".toList one <| .entryTryWith "b".toList id
    (.listing 1 (.entry "c".toList one .done)) .done

def declinedBehind : Entries byteReaders :=
  .entry "a".toList one <| .entryTryWith "b".toList id
    (.listing 2 (.entry "c".toList one (.entryTryWith "d".toList id (.declines [0x7B]) .done))) .done

/-- Two levels are read back in BEVE, and a decline at the second leaves nothing of the first. -/
theorem two_levels_read_back :
    (∃ bytes, ((Node.listing 2 twoLevels).run (.withFormat [7] .beve)).1.buf = [7] ++ bytes ∧
      byteReaders.decode .beve bytes = some (.object [("a".toList, .other 1),
        ("b".toList, .object [("c".toList, .other 1)])])) ∧
    ((Node.listing 2 declinedBehind).run (.withFormat [7] .json)).1.buf = [7] := by
  constructor
  · -- The declared counts are those of the entries.
    have counted : (Node.listing 2 twoLevels).Counted := by
      simp [Node.Counted, Entries.Counted, Entries.stops, Node.stops, Entries.documents, twoLevels]
    have read := (nested_listings_all_or_nothing 2 twoLevels (.withFormat [7] .beve) counted).2 rfl
      (by decide +kernel)
    exact read.2
  · have counted : (Node.listing 2 declinedBehind).Counted := by
      simp [Node.Counted, Entries.Counted, Entries.stops, Node.stops, declinedBehind]
    exact ((nested_listings_all_or_nothing 2 declinedBehind (.withFormat [7] .json) counted).1 rfl).1

end Sample

end Repe.Derive
