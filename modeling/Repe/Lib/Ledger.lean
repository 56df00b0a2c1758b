import Mathlib.Data.List.Nodup

/-! A ledger of who owns which key: each key once, in the order the present owners got them. -/

/-- Keys with their owners, oldest first; no key has two owners. -/
structure Ledger (K I : Type) where
  entries : List (K × I)
  unique : (entries.map Prod.fst).Nodup

namespace Ledger

variable {K I : Type} {ledger : Ledger K I} {key other : K} {owner second : I}

/-- Nothing is owned. -/
def empty : Ledger K I := ⟨[], List.nodup_nil⟩

/-- A key has one owner. -/
theorem owner_unique (first : (key, owner) ∈ ledger.entries)
    (again : (key, second) ∈ ledger.entries) : owner = second := by
  have same := List.inj_on_of_nodup_map ledger.unique first again rfl
  exact (Prod.mk.inj same).2

section Owners

variable [DecidableEq I]

/-- The keys of an owner, in the order it got them. -/
def keysOf (ledger : Ledger K I) (owner : I) : List K :=
  (ledger.entries.filter (·.2 = owner)).map Prod.fst

/-- Take all its keys from an owner. -/
def release (ledger : Ledger K I) (owner : I) : Ledger K I where
  entries := ledger.entries.filter (·.2 ≠ owner)
  unique := ledger.unique.sublist (List.filter_sublist.map _)

/-- The keys of an owner are its entries. -/
theorem mem_keysOf : key ∈ ledger.keysOf owner ↔ (key, owner) ∈ ledger.entries := by
  simp [keysOf]

/-- Nobody owns a key twice. -/
theorem nodup_keysOf (ledger : Ledger K I) (owner : I) : (ledger.keysOf owner).Nodup :=
  ledger.unique.sublist (List.filter_sublist.map _)

/-- Only what the owner had is gone. -/
theorem mem_release : (key, second) ∈ (ledger.release owner).entries ↔
    second ≠ owner ∧ (key, second) ∈ ledger.entries := by
  simp [release, and_comm]

/-- Released keys are gone from their owner. -/
theorem keysOf_release (ledger : Ledger K I) (owner : I) :
    (ledger.release owner).keysOf owner = [] := by
  rw [List.eq_nil_iff_forall_not_mem]
  intro key member
  exact (mem_release.mp (mem_keysOf.mp member)).1 rfl

/-- Another owner keeps its keys. -/
theorem keysOf_release_of_ne (apart : second ≠ owner) :
    (ledger.release owner).keysOf second = ledger.keysOf second := by
  rw [keysOf, release, List.filter_filter, keysOf]
  congr 1
  -- An entry of the other owner is not one of those that are dropped.
  refine List.filter_congr fun entry _ => ?_
  by_cases held : entry.2 = second <;> simp [held, apart]

end Owners

section Assign

variable [DecidableEq K] [DecidableEq I]

/-- Give a key to an owner; what it owns already keeps its place. -/
def assign (ledger : Ledger K I) (key : K) (owner : I) : Ledger K I :=
  if (key, owner) ∈ ledger.entries then ledger
  else
    -- The key leaves its old place, and comes last.
    { entries := ledger.entries.filter (·.1 ≠ key) ++ [(key, owner)]
      unique := by
        rw [List.map_append, List.nodup_append]
        refine ⟨ledger.unique.sublist (List.filter_sublist.map _), List.nodup_singleton _, ?_⟩
        intro kept listed other single
        obtain ⟨entry, inside, rfl⟩ := List.mem_map.mp listed
        have different := (List.mem_filter.mp inside).2
        rw [List.map_singleton, List.mem_singleton] at single
        simpa [single] using different }

/-- A key its owner has already is assigned to no effect. -/
theorem assign_of_mem (owned : (key, owner) ∈ ledger.entries) : ledger.assign key owner = ledger :=
  if_pos owned

/-- An assigned key belongs to its new owner, and every other key to whom it did. -/
theorem mem_assign : (other, second) ∈ (ledger.assign key owner).entries ↔
    (other = key ∧ second = owner) ∨ (other ≠ key ∧ (other, second) ∈ ledger.entries) := by
  rw [assign]
  split
  · -- Nothing was changed, and nobody but the owner has the key.
    next owned =>
    constructor
    · intro inside
      by_cases same : other = key
      · subst same
        exact .inl ⟨rfl, owner_unique inside owned⟩
      · exact .inr ⟨same, inside⟩
    · intro cases
      rcases cases with ⟨rfl, rfl⟩ | ⟨_, inside⟩
      · exact owned
      · exact inside
  · simp only [List.mem_append, List.mem_filter, List.mem_singleton, Prod.mk.injEq,
      decide_eq_true_eq]
    tauto

/-- Without a key that is not its own an owner has what it had. -/
theorem filter_keysOf (absent : (key, owner) ∉ ledger.entries) :
    (ledger.keysOf owner).filter (· ≠ key) = ledger.keysOf owner := by
  rw [List.filter_eq_self]
  intro other member
  -- The key is not listed under this owner.
  have different : other ≠ key := by
    rintro rfl
    exact absent (mem_keysOf.mp member)
  simpa using different

/-- Every other owner keeps its keys but the assigned one. -/
theorem keysOf_assign_of_ne (apart : second ≠ owner) :
    (ledger.assign key owner).keysOf second = (ledger.keysOf second).filter (· ≠ key) := by
  rw [assign]
  split
  · -- The key is its owner's already, so nobody else has it.
    next owned =>
    have absent : (key, second) ∉ ledger.entries := fun held => apart (owner_unique held owned)
    rw [filter_keysOf absent]
  · rw [keysOf, keysOf, List.filter_append, List.filter_cons_of_neg (by simpa using apart.symm),
      List.filter_nil, List.append_nil, List.filter_map, List.filter_filter, List.filter_filter]
    congr 1
    refine List.filter_congr fun entry _ => ?_
    simp [Bool.and_comm]

/-- A key the owner did not have comes behind those it had. -/
theorem keysOf_assign (fresh : (key, owner) ∉ ledger.entries) :
    (ledger.assign key owner).keysOf owner = ledger.keysOf owner ++ [key] := by
  rw [assign, if_neg fresh, keysOf, keysOf, List.filter_append, List.filter_cons_of_pos (by simp),
    List.filter_nil, List.map_append, List.map_singleton, List.filter_filter]
  congr 2
  -- None of the owner's entries is under the key.
  refine List.filter_congr fun entry member => ?_
  by_cases held : entry.2 = owner
  · have different : entry.1 ≠ key := by
      intro same
      exact fresh (same ▸ held ▸ member)
    simp [held, different]
  · simp [held]

end Assign

end Ledger
