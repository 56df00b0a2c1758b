import Mathlib.Data.List.DropRight

/-! Where a struct, a registry and a REST gateway place the same mount string. -/

namespace Repe

abbrev Path := List Char

namespace Mount

def absolute (mount : Path) : Path :=
  if mount.head? = some '/' then mount else '/' :: mount

/-- `normalize_mount`: absolute, no trailing separator, empty for the root. -/
def normalizeMount (mount : Path) : Path :=
  if mount = [] ∨ mount = ['/'] then []
  -- All separators trim to nothing, which is the root.
  else (absolute mount).rdropWhile (· == '/')

/-- `RegisteredStruct::new`: the root of a mounted struct. -/
def structRoot (mount : Path) : Path :=
  if mount = [] ∨ mount = ['/'] then [] else absolute mount

/-- `RegisteredStruct::relative_pointer`: what a mounted struct sees of a path. -/
def relativePointer (root path : Path) : Option Path :=
  if root = [] then some path
  else if path = root then some []
  else match path.dropPrefix? root with
    | some remainder => if remainder.head? = some '/' then some remainder else none
    | none => none

/-- `RegisteredRegistry::pointer_for`: what a mounted registry sees of a path. -/
def pointerFor (mount path : Path) : Option Path :=
  if mount = [] then if path = [] then some ['/'] else some path
  else if path = mount then some ['/']
  else match path.dropPrefix? mount with
    | some rest => if rest.head? = some '/' then some rest else none
    | none => none

/-- `RestGateway::strip_mount`: what a mounted gateway sees of a path. -/
def stripMount (mount path : Path) : Option Path :=
  if mount = [] then some path
  else match path.dropPrefix? mount with
    -- The mount has to end on a segment boundary or at the end of the path.
    | some rest => if rest = [] ∨ rest.head? = some '/' then some rest else none
    | none => none

/-- `matches`: whether the router sends a path to a mounted struct or registry. -/
def covers (mount path : Path) : Bool :=
  if mount = [] then true
  else if path = mount then true
  else match path.dropPrefix? mount with
    | some rest => rest.head? = some '/'
    | none => false

/-- An empty remainder and a single separator both name the root of a mount. -/
def rooted (remainder : Path) : Path :=
  if remainder = [] then ['/'] else remainder

/-- The three mounts agree on whether a path is below them, and on what is left of it there. -/
def Agree (mount path : Path) : Prop :=
  (relativePointer (structRoot mount) path).map rooted =
      (pointerFor (normalizeMount mount) path).map rooted ∧
    (pointerFor (normalizeMount mount) path).map rooted =
      (stripMount (normalizeMount mount) path).map rooted

instance (mount path : Path) : Decidable (Agree mount path) :=
  inferInstanceAs (Decidable (_ ∧ _))

def Opens (remainder : Path) : Prop :=
  remainder = [] ∨ remainder.head? = some '/'

instance (remainder : Path) : Decidable (Opens remainder) :=
  inferInstanceAs (Decidable (_ ∨ _))

/-- What is left of a path below a base, read as a rooted path. -/
def remainderBelow (base path : Path) : Option Path :=
  if base = [] then some (rooted path)
  else match path.dropPrefix? base with
    | some rest => if Opens rest then some (rooted rest) else none
    | none => none

theorem dropPrefix_eq_some {base path rest : Path} :
    path.dropPrefix? base = some rest ↔ path = base ++ rest := by
  -- The library asks for a front that is equal to the base.
  rw [List.dropPrefix?_eq_some_iff]
  constructor
  · intro found
    obtain ⟨front, split, same⟩ := found
    rw [split, beq_iff_eq.mp same]
  · intro split
    exact ⟨base, split, by simp⟩

theorem dropPrefix_eq_nil {base path : Path} :
    path.dropPrefix? base = some [] ↔ path = base := by
  rw [dropPrefix_eq_some, List.append_nil]

/-- What is left below a base that is not the root. -/
theorem remainderBelow_eq_some {base path remainder : Path} (nested : base ≠ []) :
    remainderBelow base path = some remainder ↔
      ∃ rest, path = base ++ rest ∧ Opens rest ∧ rooted rest = remainder := by
  rw [remainderBelow, if_neg nested]
  constructor
  · -- The base is in front of the path, and what is behind it opens.
    intro found
    split at found
    · next rest dropped =>
      split at found
      · next opens => exact ⟨rest, dropPrefix_eq_some.mp dropped, opens, Option.some.inj found⟩
      · simp at found
    · simp at found
  · intro below
    obtain ⟨rest, split, opens, same⟩ := below
    rw [dropPrefix_eq_some.mpr split]
    simp only [if_pos opens, same]

/-- A struct sees the rooted remainder below its root. -/
theorem relativePointer_rooted (root path : Path) :
    (relativePointer root path).map rooted = remainderBelow root path := by
  unfold relativePointer remainderBelow
  by_cases atRoot : root = []
  · simp [atRoot]
  · rw [if_neg atRoot, if_neg atRoot]
    by_cases whole : path = root
    · rw [if_pos whole, dropPrefix_eq_nil.mpr whole]
      simp [Opens]
    · rw [if_neg whole]
      cases dropped : path.dropPrefix? root with
      | none => rfl
      | some rest =>
        -- The empty remainder was handled by the comparison before.
        have filled : rest ≠ [] := by
          intro empty
          exact whole (dropPrefix_eq_nil.mp (empty ▸ dropped))
        by_cases separated : rest.head? = some '/'
        · simp [Opens, separated]
        · simp [Opens, separated, filled]

theorem pointerFor_rooted (mount path : Path) :
    (pointerFor mount path).map rooted = remainderBelow mount path := by
  rw [← relativePointer_rooted]
  unfold pointerFor relativePointer
  -- The two differ only in how they spell an empty remainder.
  by_cases atRoot : mount = []
  · by_cases empty : path = [] <;> simp [atRoot, empty, rooted]
  · rw [if_neg atRoot, if_neg atRoot]
    by_cases whole : path = mount
    · simp [whole, rooted]
    · rw [if_neg whole, if_neg whole]

/-- A gateway sees the rooted remainder below its mount. -/
theorem stripMount_rooted (mount path : Path) :
    (stripMount mount path).map rooted = remainderBelow mount path := by
  unfold stripMount remainderBelow
  -- At the root nothing is dropped; else both look at what is behind the mount.
  by_cases atRoot : mount = []
  · simp [atRoot]
  · rw [if_neg atRoot, if_neg atRoot]
    cases path.dropPrefix? mount with
    | none => rfl
    | some rest =>
      by_cases opens : Opens rest
      · simp only [if_pos opens, if_pos (show rest = [] ∨ rest.head? = some '/' from opens),
          Option.map_some]
      · simp only [if_neg opens, if_neg (show ¬(rest = [] ∨ rest.head? = some '/') from opens),
          Option.map_none]

theorem agree_iff_remainder (mount path : Path) :
    Agree mount path ↔
      remainderBelow (structRoot mount) path = remainderBelow (normalizeMount mount) path := by
  rw [Agree, relativePointer_rooted, pointerFor_rooted, stripMount_rooted]
  simp

def base (mount : Path) : Path := (absolute mount).rdropWhile (· == '/')

/-- A path is the base itself, or continues it with a new segment. -/
def Under (base path : Path) : Prop := path = base ∨ base ++ ['/'] <+: path

instance (base path : Path) : Decidable (Under base path) :=
  inferInstanceAs (Decidable (_ ∨ _))

/--
The mount strings and paths on which the three mounts agree.

A mount without a trailing separator is read alike by all three.
With one, a struct keeps it: paths outside the base are outside all the same, and the base followed
by a single separator is the root of all three.
-/
def ReadAlike (mount path : Path) : Prop :=
  mount = [] ∨ mount = ['/'] ∨ mount.getLast? ≠ some '/' ∨
    (base mount ≠ [] ∧ (¬Under (base mount) path ∨
      (absolute mount = base mount ++ ['/'] ∧ path = absolute mount)))

instance (mount path : Path) : Decidable (ReadAlike mount path) :=
  inferInstanceAs (Decidable (_ ∨ _ ∨ _ ∨ _ ∧ _))

/-- A mount that does not end in a separator has no trailing ones to trim. -/
theorem base_of_no_trailing {mount : Path} (named : mount ≠ [])
    (ends : mount.getLast? ≠ some '/') : base mount = absolute mount := by
  unfold base
  rw [List.rdropWhile_eq_self_iff]
  intro filled
  -- The leading separator goes in front, so the last character is the same.
  have last : (absolute mount).getLast? = mount.getLast? := by
    unfold absolute
    split
    · rfl
    · obtain ⟨first, rest, same⟩ := List.exists_cons_of_ne_nil named
      rw [same, List.getLast?_cons_cons]
  rw [List.getLast?_eq_some_getLast filled] at last
  intro separator
  apply ends
  rw [← last, beq_iff_eq.mp separator]

theorem absolute_eq (mount : Path) :
    ∃ count, absolute mount = base mount ++ List.replicate count '/' := by
  refine ⟨((absolute mount).rtakeWhile (· == '/')).length, ?_⟩
  -- What is cut off the end consists of separators only.
  have separators : (absolute mount).rtakeWhile (· == '/') =
      List.replicate ((absolute mount).rtakeWhile (· == '/')).length '/' := by
    rw [List.eq_replicate_iff]
    refine ⟨rfl, ?_⟩
    intro char member
    have separator := List.mem_rtakeWhile_imp member
    exact beq_iff_eq.mp separator
  rw [← separators]
  exact List.rdropWhile_append_rtakeWhile.symm

/-- A mount that ends in a separator has at least one to trim. -/
theorem absolute_of_trailing {mount : Path} (ends : mount.getLast? = some '/') :
    ∃ count, absolute mount = base mount ++ List.replicate (count + 1) '/' := by
  obtain ⟨count, split⟩ := absolute_eq mount
  cases count with
  | succ count => exact ⟨count, split⟩
  | zero =>
    -- With nothing to trim the last character would not be a separator.
    rw [List.replicate_zero, List.append_nil] at split
    have last : (absolute mount).getLast? = some '/' := by
      unfold absolute
      split
      · exact ends
      · cases mount with
        | nil => simp at ends
        | cons first rest => rw [List.getLast?_cons_cons, ends]
    have filled : absolute mount ≠ [] := by
      intro empty
      simp [empty] at last
    have trimmed := List.rdropWhile_eq_self_iff.mp split.symm filled
    rw [List.getLast?_eq_some_getLast filled, Option.some.injEq] at last
    simp [last] at trimmed

/-- A path is under a base exactly when something is left of it there. -/
theorem under_iff {base path : Path} :
    Under base path ↔ ∃ rest, path = base ++ rest ∧ Opens rest := by
  constructor
  · intro under
    -- What is left is nothing, or starts with the separator.
    rcases under with whole | ⟨rest, split⟩
    · exact ⟨[], by simp [whole], .inl rfl⟩
    · exact ⟨'/' :: rest, by rw [← split]; simp, .inr rfl⟩
  · intro below
    obtain ⟨rest, split, opens⟩ := below
    rcases opens with empty | separated
    · left
      rw [split, empty, List.append_nil]
    · right
      obtain ⟨tail, same⟩ := List.head?_eq_some_iff.mp separated
      exact ⟨tail, by rw [split, same]; simp⟩

/-- Separators behind a base that is not the root never change what is left, except for one case. -/
theorem remainderBelow_trailing {base path : Path} (nested : base ≠ []) (count : Nat) :
    remainderBelow (base ++ List.replicate (count + 1) '/') path = remainderBelow base path ↔
      ¬Under base path ∨ (count = 0 ∧ path = base ++ ['/']) := by
  have longer : base ++ List.replicate (count + 1) '/' ≠ [] := by simp
  constructor
  · intro same
    by_cases under : Under base path
    · right
      -- Below the base something is left, so something is left below the longer base.
      obtain ⟨rest, split, opens⟩ := under_iff.mp under
      rw [(remainderBelow_eq_some nested).mpr ⟨rest, split, opens, rfl⟩,
        remainderBelow_eq_some longer] at same
      obtain ⟨shorter, split', opens', same⟩ := same
      have tail : rest = List.replicate (count + 1) '/' ++ shorter := by
        rw [split, List.append_assoc] at split'
        exact List.append_cancel_left split'
      -- The two remainders differ in length, unless both of them name the root.
      unfold rooted at same
      rw [if_neg (by simp [tail, List.replicate_succ] : ¬rest = [])] at same
      split at same
      · next empty =>
        have length := congrArg List.length same
        rw [tail, empty] at length
        simp only [List.append_nil, List.length_singleton, List.length_replicate] at length
        have none : count = 0 := by omega
        refine ⟨none, ?_⟩
        rw [split, tail, empty, none]
        rfl
      · have length := congrArg List.length same
        rw [tail] at length
        simp only [List.length_append, List.length_replicate] at length
        omega
    · exact .inl under
  · intro condition
    rcases condition with outside | ⟨single, exactly⟩
    · -- Below the longer base is below the base.
      have nothing : remainderBelow base path = none := by
        rw [Option.eq_none_iff_forall_ne_some]
        intro remainder found
        obtain ⟨rest, split, opens, _⟩ := (remainderBelow_eq_some nested).mp found
        exact outside (under_iff.mpr ⟨rest, split, opens⟩)
      rw [nothing, Option.eq_none_iff_forall_ne_some]
      intro remainder found
      obtain ⟨rest, split, opens, _⟩ := (remainderBelow_eq_some longer).mp found
      apply outside
      apply under_iff.mpr
      refine ⟨List.replicate (count + 1) '/' ++ rest, by rw [split, List.append_assoc], .inr ?_⟩
      simp [List.replicate_succ]
    · have left : remainderBelow base path = some ['/'] :=
        (remainderBelow_eq_some nested).mpr ⟨['/'], exactly, .inr rfl, rfl⟩
      rw [left, remainderBelow_eq_some longer]
      exact ⟨[], by simp [exactly, single], .inl rfl, rfl⟩

/-- A struct mounted at several separators never agrees with a root mount. -/
theorem remainderBelow_separators (count : Nat) (path : Path) :
    remainderBelow (List.replicate (count + 2) '/') path ≠ remainderBelow [] path := by
  intro same
  have separators : List.replicate (count + 2) '/' ≠ ([] : Path) := by
    simp [List.replicate_succ]
  have all : remainderBelow [] path = some (rooted path) := by simp [remainderBelow]
  rw [all, remainderBelow_eq_some separators] at same
  obtain ⟨rest, split, opens, same⟩ := same
  -- The path is longer than what is left of it, and too long to be the root.
  have filled : path ≠ [] := by simp [split, List.replicate_succ]
  have length := congrArg List.length split
  simp only [List.length_append, List.length_replicate] at length
  unfold rooted at same
  rw [if_neg filled] at same
  split at same
  · have short := congrArg List.length same
    simp only [List.length_singleton] at short
    omega
  · have short := congrArg List.length same
    omega

/-- A mount that is all separators has no base, and is longer than one separator. -/
theorem absolute_of_base_nil {mount : Path} (named : mount ≠ []) (nested : mount ≠ ['/'])
    (separators : base mount = []) : ∃ count, absolute mount = List.replicate (count + 2) '/' := by
  obtain ⟨count, split⟩ := absolute_eq mount
  rw [separators, List.nil_append] at split
  -- One separator or none is the empty mount or the root.
  have long : 2 ≤ count := by
    unfold absolute at split
    split at split
    · rcases count with _ | _ | count
      · exact absurd split named
      · exact absurd split nested
      · omega
    · next relative =>
      have filled := List.exists_cons_of_ne_nil named
      obtain ⟨first, rest, same⟩ := filled
      rw [same] at split relative
      rcases count with _ | _ | count
      · simp at split
      · simp at split
      · omega
  exact ⟨count - 2, by rw [split]; congr 1; omega⟩

/--
A struct, a registry and a REST gateway mounted at one string agree on a path exactly when the
string has no trailing separator to disagree about, or the path does not touch it.
-/
theorem mounts_agree_iff (mount path : Path) : Agree mount path ↔ ReadAlike mount path := by
  rw [agree_iff_remainder]
  by_cases atRoot : mount = [] ∨ mount = ['/']
  · simp only [structRoot, normalizeMount, if_pos atRoot, true_iff]
    rcases atRoot with empty | single
    · exact .inl empty
    · exact .inr (.inl single)
  · obtain ⟨named, nested⟩ := not_or.mp atRoot
    simp only [structRoot, normalizeMount, if_neg atRoot]
    by_cases ends : mount.getLast? = some '/'
    · -- The struct keeps the separators that the other two trim.
      have alike : ReadAlike mount path ↔ base mount ≠ [] ∧ (¬Under (base mount) path ∨
          (absolute mount = base mount ++ ['/'] ∧ path = absolute mount)) := by
        simp [ReadAlike, named, nested, ends]
      rw [alike]
      change remainderBelow (absolute mount) path = remainderBelow (base mount) path ↔ _
      by_cases separators : base mount = []
      · obtain ⟨count, all⟩ := absolute_of_base_nil named nested separators
        rw [all, separators]
        simp [remainderBelow_separators]
      · obtain ⟨count, split⟩ := absolute_of_trailing ends
        rw [split, remainderBelow_trailing separators]
        constructor
        · intro condition
          refine ⟨separators, condition.imp_right fun single => ?_⟩
          rw [single.1]
          exact ⟨rfl, single.2⟩
        · intro condition
          refine condition.2.imp_right fun single => ?_
          have length := congrArg List.length single.1
          simp only [List.length_append, List.length_replicate, List.length_singleton] at length
          exact ⟨by omega, single.2.trans single.1⟩
    · have alike : ReadAlike mount path := .inr (.inr (.inl ends))
      have same : (absolute mount).rdropWhile (· == '/') = absolute mount :=
        base_of_no_trailing named ends
      simp [alike, same]

/--
A mount with a trailing separator is one place for a registry and a gateway, and another for a struct.
-/
theorem mounts_disagree_on_trailing_separator :
    ¬Agree "/api/".toList "/api/x".toList ∧
      relativePointer (structRoot "/api/".toList) "/api/x".toList = none ∧
      pointerFor (normalizeMount "/api/".toList) "/api/x".toList = some "/x".toList ∧
      stripMount (normalizeMount "/api/".toList) "/api/x".toList = some "/x".toList := by
  decide +kernel

end Mount

end Repe
