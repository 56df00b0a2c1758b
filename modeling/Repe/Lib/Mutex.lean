import Repe.Lib.Exec

/-! A lock around a value, and what a panic inside its critical section leaves behind. -/

/-- A value behind a lock. -/
structure Mutex (σ : Type) where
  value : σ
  /-- A critical section unwound while it held the lock. -/
  poisoned : Bool
  deriving DecidableEq, Repr

namespace Mutex

variable {σ ε α : Type}

/-- A lock that nobody has held yet. -/
def new (value : σ) : Mutex σ := ⟨value, false⟩

/-- `lock().expect(..)` followed by a critical section. -/
def withLock (body : Proc σ ε α) : Proc (Mutex σ) ε α := fun mutex =>
  -- The caller unwraps the guard, so a poisoned lock unwinds every later caller.
  if mutex.poisoned then (.panic, mutex)
  else match body mutex.value with
    | (.ok value, after) => (.ok value, ⟨after, false⟩)
    | (.err error, after) => (.err error, ⟨after, false⟩)
    | (.panic, after) => (.panic, ⟨after, true⟩)

/-- A critical section that returns ran on an unpoisoned lock, and leaves it unpoisoned. -/
theorem withLock_ok {body : Proc σ ε α} {mutex after : Mutex σ} {value : α}
    (returned : withLock body mutex = (.ok value, after)) :
    body mutex.value = (.ok value, after.value) ∧ mutex.poisoned = false ∧
      after.poisoned = false := by
  -- A poisoned lock and a section that unwinds both end in a panic.
  unfold withLock at returned
  split at returned
  · simp at returned
  · next clean =>
    rcases ran : body mutex.value with ⟨_ | _ | _, left⟩ <;> simp only [ran] at returned
    · cases returned
      simpa using clean
    · simp at returned
    · simp at returned

/-- A critical section whose panics leave the value alone keeps it whenever the caller unwinds. -/
theorem withLock_panic {body : Proc σ ε α} {mutex after : Mutex σ}
    (early : ∀ value left, body value = (.panic, left) → left = value)
    (unwound : withLock body mutex = (.panic, after)) : after.value = mutex.value := by
  -- Either the section never ran, or it unwound before it wrote anything.
  unfold withLock at unwound
  split at unwound
  · cases unwound
    rfl
  · rcases ran : body mutex.value with ⟨_ | _ | _, left⟩ <;> simp only [ran] at unwound
    · simp at unwound
    · simp at unwound
    · cases unwound
      exact early mutex.value left ran

end Mutex
