import Mathlib.Data.List.Perm.Subperm

/-! A counting semaphore whose permits are known by their holders. -/

/-- The permits that are left, and who holds the others. -/
structure Semaphore (I : Type) where
  limit : Nat
  available : Nat
  holders : List I
  /-- No permit is lost, and none is made up. -/
  balanced : available + holders.length = limit

namespace Semaphore

variable {I : Type} {semaphore taken : Semaphore I} {holder other : I}

/-- All permits are there. -/
def new (limit : Nat) : Semaphore I := ⟨limit, limit, [], rfl⟩

/-- Take a permit, if one is left. -/
def tryAcquire (semaphore : Semaphore I) (holder : I) : Option (Semaphore I) :=
  match left : semaphore.available with
  -- A try does not wait for a permit to come back.
  | 0 => none
  | rest + 1 =>
    some
      { limit := semaphore.limit
        available := rest
        holders := holder :: semaphore.holders
        balanced := by
          have balanced := semaphore.balanced
          rw [List.length_cons]
          omega }

/-- What a permit that was taken changes. -/
theorem tryAcquire_eq (acquired : semaphore.tryAcquire holder = some taken) :
    taken.limit = semaphore.limit ∧ taken.holders = holder :: semaphore.holders := by
  unfold tryAcquire at acquired
  -- A permit is taken only if there is one.
  split at acquired
  · cases acquired
  · cases acquired
    exact ⟨rfl, rfl⟩

/-- Holders that are all different are no more than there are permits. -/
theorem length_le_limit {holders : List I} (different : holders.Nodup)
    (hold : ∀ holder ∈ holders, holder ∈ semaphore.holders) : holders.length ≤ semaphore.limit := by
  -- A list without repetitions is no longer than any list that has all of it.
  have fits : holders.length ≤ semaphore.holders.length :=
    (List.Nodup.subperm different hold).length_le
  have balanced := semaphore.balanced
  omega

section Release

variable [DecidableEq I]

/-- Give a permit back. -/
def release (semaphore : Semaphore I) (holder : I) : Semaphore I :=
  if held : holder ∈ semaphore.holders then
    { limit := semaphore.limit
      available := semaphore.available + 1
      holders := semaphore.holders.erase holder
      -- The holder that is erased was there, so the list is shorter by one.
      balanced := by
        have balanced := semaphore.balanced
        have positive := List.length_pos_of_mem held
        rw [List.length_erase_of_mem held]
        omega }
  else semaphore

/-- Giving a permit back does not change how many there are. -/
@[simp] theorem release_limit (semaphore : Semaphore I) (holder : I) :
    (semaphore.release holder).limit = semaphore.limit := by
  rw [release]
  split <;> rfl

/-- What is left after a permit was given back. -/
theorem release_holders (semaphore : Semaphore I) (holder : I) :
    (semaphore.release holder).holders = semaphore.holders.erase holder := by
  rw [release]
  -- Somebody who holds none gives nothing back.
  split
  · rfl
  · next absent => rw [List.erase_of_not_mem absent]

/-- Only the one holder gives its permit back. -/
theorem mem_release (different : semaphore.holders.Nodup) :
    other ∈ (semaphore.release holder).holders ↔ other ≠ holder ∧ other ∈ semaphore.holders := by
  rw [release_holders, different.mem_erase_iff]

end Release

end Semaphore
