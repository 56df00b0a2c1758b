import Mathlib.Algebra.Order.Group.Nat

/-! Calls that return, report an error, or panic, the errors they can report, and the machine arithmetic
that can panic. -/

/-- The ways a call of fallible code ends. -/
inductive Exec (ε α : Type) where
  | ok (value : α)
  | err (error : ε)
  /-- The call unwound: a slice out of range, a checked overflow, a failed `unwrap`. -/
  | panic
  deriving DecidableEq, Repr

namespace Exec

variable {ε α β : Type}

instance : Monad (Exec ε) where
  pure := .ok
  bind call next := match call with
    | .ok value => next value
    -- An error or a panic skips everything after it.
    | .err error => .err error
    | .panic => .panic

@[simp] theorem pure_eq (value : α) : (pure value : Exec ε α) = .ok value := rfl

@[simp] theorem ok_bind (value : α) (next : α → Exec ε β) :
    (Exec.ok value >>= next) = next value := rfl

@[simp] theorem err_bind (error : ε) (next : α → Exec ε β) :
    (Exec.err error >>= next) = .err error := rfl

@[simp] theorem panic_bind (next : α → Exec ε β) :
    ((Exec.panic : Exec ε α) >>= next) = .panic := rfl

/-- A sequence returns exactly when both of its halves do. -/
theorem bind_eq_ok {call : Exec ε α} {next : α → Exec ε β} {result : β} :
    (call >>= next) = .ok result ↔ ∃ value, call = .ok value ∧ next value = .ok result := by
  -- Only a returned value reaches the second half.
  cases call <;> simp

/-- `map_err`: another error in place of the one a call reported. -/
def mapErr {φ : Type} (change : ε → φ) : Exec ε α → Exec φ α
  | .ok value => .ok value
  | .err error => .err (change error)
  | .panic => .panic

/-- A call that cannot panic. -/
def ofExcept : Except ε α → Exec ε α
  | .ok value => .ok value
  | .error error => .err error

/-- The call handed back a value. -/
def Returns (call : Exec ε α) : Prop :=
  ∃ value, call = .ok value

/-- A call does not panic, and whatever error it reports meets a condition. -/
def FailsOnly (holds : ε → Prop) : Exec ε α → Prop
  | .ok _ => True
  | .err error => holds error
  | .panic => False

theorem FailsOnly.mono {holds other : ε → Prop} {call : Exec ε α} (fails : call.FailsOnly holds)
    (weaker : ∀ error, holds error → other error) : call.FailsOnly other := by
  -- A panic meets no condition, before as after.
  cases call with
  | ok value => trivial
  | err error => exact weaker error fails
  | panic => exact fails

/-- A call that did not return a value reported an error that meets the condition. -/
theorem FailsOnly.exists_err {holds : ε → Prop} {call : Exec ε α} (fails : call.FailsOnly holds)
    (failed : ∀ value, call ≠ .ok value) : ∃ error, call = .err error ∧ holds error := by
  -- It returned no value, and a panic is excluded.
  cases call with
  | ok value => exact absurd rfl (failed value)
  | err error => exact ⟨error, rfl, fails⟩
  | panic => exact absurd fails not_false

/-- An error that is put in place of another meets what the other's condition gives. -/
theorem FailsOnly.mapErr {φ : Type} {holds : ε → Prop} {other : φ → Prop} {change : ε → φ}
    {call : Exec ε α} (fails : call.FailsOnly holds)
    (changed : ∀ error, holds error → other (change error)) : (call.mapErr change).FailsOnly other := by
  -- Values and panics go through as they are.
  cases call with
  | ok value => trivial
  | err error => exact changed error fails
  | panic => exact fails

/-- `buf[lo..hi]`, which panics unless the bounds are ordered and inside the buffer. -/
def slice (buf : List α) (lo hi : Nat) : Exec ε (List α) :=
  -- The bounds are checked before anything is read.
  if lo ≤ hi ∧ hi ≤ buf.length then .ok ((buf.drop lo).take (hi - lo)) else .panic

/-- A slice inside its buffer is the window it names. -/
theorem slice_ok {buf : List α} {lo hi : Nat} (ordered : lo ≤ hi) (inside : hi ≤ buf.length) :
    (slice buf lo hi : Exec ε (List α)) = .ok ((buf.drop lo).take (hi - lo)) := by
  simp [slice, ordered, inside]

/-- `buf[at]`, which panics past the end of the buffer. -/
def index (buf : List α) (at_ : Nat) : Exec ε α :=
  match buf[at_]? with
  | some value => .ok value
  | none => .panic

/-- An index inside its buffer reads the element stored there. -/
theorem index_ok {buf : List α} {at_ : Nat} (inside : at_ < buf.length) :
    (index buf at_ : Exec ε α) = .ok buf[at_] := by
  simp [index, List.getElem?_eq_getElem inside]

end Exec

namespace Except

variable {ε φ α β : Type}

/-- Whatever error a call reports meets a condition. -/
def FailsOnly (holds : ε → Prop) (call : Except ε α) : Prop :=
  ∀ error, call = .error error → holds error

theorem failsOnly_ok {holds : ε → Prop} (value : α) : (.ok value : Except ε α).FailsOnly holds := by
  rintro error ⟨⟩

theorem failsOnly_error {holds : ε → Prop} {error : ε} (met : holds error) :
    (.error error : Except ε α).FailsOnly holds := by
  rintro other ⟨⟩
  exact met

variable {holds : ε → Prop} {call : Except ε α}

/-- A call that fails only so fails only in a weaker way. -/
theorem FailsOnly.mono {other : ε → Prop} (fails : call.FailsOnly holds)
    (weaker : ∀ error, holds error → other error) : call.FailsOnly other :=
  fun error failed => weaker error (fails error failed)

/-- A sequence fails as its first half does, or as its second. -/
theorem FailsOnly.bind {next : α → Except ε β} (fails : call.FailsOnly holds)
    (later : ∀ value, (next value).FailsOnly holds) : (call.bind next).FailsOnly holds := by
  cases call with
  | ok value => exact later value
  | error error => exact failsOnly_error (fails error rfl)

/-- What is done with a value cannot fail. -/
theorem FailsOnly.map (fails : call.FailsOnly holds) (change : α → β) :
    (call.map change).FailsOnly holds := by
  cases call with
  | ok value => exact failsOnly_ok _
  | error error => exact failsOnly_error (fails error rfl)

/-- A value that was changed comes from a value. -/
theorem map_eq_ok {change : α → β} {result : β} :
    call.map change = .ok result ↔ ∃ value, call = .ok value ∧ change value = result := by
  cases call <;> simp [Except.map]

/-- An error that is put in place of any other. -/
theorem failsOnly_mapError {change : φ → ε} (met : ∀ error, holds (change error))
    (call : Except φ α) : (call.mapError change).FailsOnly holds := by
  cases call with
  | ok value => exact failsOnly_ok value
  | error error => exact failsOnly_error (met error)

/-- A fold that fails is stopped by one of its items. -/
theorem exists_of_foldlM_error {σ : Type} {ι : Type*} {step : σ → ι → Except ε σ} {items : List ι}
    {init : σ} {error : ε} (stopped : items.foldlM step init = .error error) :
    ∃ item ∈ items, ∃ before, step before item = .error error := by
  -- By induction on the items, up to the first whose step fails.
  induction items generalizing init with
  | nil => cases stopped
  | cons item rest ih =>
    rw [List.foldlM_cons] at stopped
    cases first : step init item with
    | ok next =>
      rw [first] at stopped
      obtain ⟨later, member, before, failed⟩ := ih stopped
      exact ⟨later, List.mem_cons_of_mem _ member, before, failed⟩
    | error reported =>
      rw [first] at stopped
      cases stopped
      exact ⟨item, List.mem_cons_self, init, first⟩

end Except

/-- What a build fixes: the width of `usize`, and whether arithmetic is checked for overflow. -/
structure Target where
  usizeBits : Nat
  /-- Debug builds panic on overflow, release builds wrap. -/
  overflowChecks : Bool
  /-- The language promises that a `usize` holds at least every `u16`. -/
  wide : 16 ≤ usizeBits

namespace Target

variable {ε : Type} (t : Target)

/-- A 64-bit release build. -/
def release64 : Target := ⟨64, false, by decide⟩

/-- A count that a `usize` of this target can hold. -/
def Addressable (count : Nat) : Prop :=
  count < 2 ^ t.usizeBits

instance (count : Nat) : Decidable (t.Addressable count) :=
  inferInstanceAs (Decidable (_ < _))

/-- `a + b` at type `usize`. -/
def addUsize (a b : Nat) : Exec ε Nat :=
  if a + b < 2 ^ t.usizeBits then .ok (a + b)
  -- An overflow is a panic or a wrap, depending on the build.
  else if t.overflowChecks then .panic
  else .ok ((a + b) % 2 ^ t.usizeBits)

/-- `a + b` at type `u64`. -/
def addU64 (a b : UInt64) : Exec ε UInt64 :=
  if a.toNat + b.toNat < 2 ^ 64 then .ok (a + b)
  -- The machine sum already wraps at 64 bits.
  else if t.overflowChecks then .panic
  else .ok (a + b)

/-- `a - b` at type `usize`. -/
def subUsize (a b : Nat) : Exec ε Nat :=
  if b ≤ a then .ok (a - b)
  -- An underflow too is a panic or a wrap.
  else if t.overflowChecks then .panic
  else .ok (a + 2 ^ t.usizeBits - b)

/-- `isize::MAX`, on a target whose `usize` is no wider than a `u64`. -/
def isizeMax : Nat := 2 ^ (min t.usizeBits 64 - 1) - 1

/-- The room a vector asks for, which is a panic beyond `isize::MAX` bytes. -/
def allocate (count : Nat) : Exec ε Unit :=
  if count ≤ t.isizeMax then .ok () else .panic

/-- `x as usize`, keeping the low bits. -/
def asUsize (x : UInt64) : Nat :=
  x.toNat % 2 ^ t.usizeBits

/-- Every bound the language gives for a `u16` also bounds a `usize`. -/
theorem small_addressable {count : Nat} (small : count < 2 ^ 16) : t.Addressable count :=
  Nat.lt_of_lt_of_le small (Nat.pow_le_pow_right (by decide) t.wide)

/-- A sum that fits is returned exactly. -/
theorem addUsize_ok {a b : Nat} (fits : t.Addressable (a + b)) :
    (t.addUsize a b : Exec ε Nat) = .ok (a + b) :=
  if_pos fits

/-- A sum that fits is returned exactly. -/
theorem addU64_ok {a b : UInt64} (fits : a.toNat + b.toNat < 2 ^ 64) :
    (t.addU64 a b : Exec ε UInt64) = .ok (a + b) :=
  if_pos fits

/-- A difference that is not negative is returned exactly. -/
theorem subUsize_ok {a b : Nat} (ordered : b ≤ a) : (t.subUsize a b : Exec ε Nat) = .ok (a - b) :=
  if_pos ordered

/-- A sum that nobody checks is returned, wrapped or not. -/
theorem addU64_unchecked (unchecked : t.overflowChecks = false) (a b : UInt64) :
    (t.addU64 a b : Exec ε UInt64) = .ok (a + b) := by
  rw [addU64, unchecked]
  split <;> rfl

/-- Whatever an addition returns is the machine sum, wrapped or not. -/
theorem addU64_value {a b sum : UInt64} (returned : (t.addU64 a b : Exec ε UInt64) = .ok sum) :
    sum = a + b := by
  -- The two branches that return give the same machine sum.
  rw [addU64] at returned
  split at returned
  · exact (Exec.ok.inj returned).symm
  · split at returned
    · cases returned
    · exact (Exec.ok.inj returned).symm

/-- Room that an object can have is given. -/
theorem allocate_ok {count : Nat} (small : count ≤ t.isizeMax) :
    (t.allocate count : Exec ε Unit) = .ok () :=
  if_pos small

/-- Room is given to nothing larger. -/
theorem allocate_eq_ok {count : Nat} :
    (t.allocate count : Exec ε Unit) = .ok () ↔ count ≤ t.isizeMax := by
  simp [allocate]

/-- No object is so large that its length overflows a `u64` or a `usize`. -/
theorem lt_of_le_isizeMax {count : Nat} (small : count ≤ t.isizeMax) :
    count < 2 ^ 64 ∧ t.Addressable count := by
  -- Half of the smaller of the two ranges fits into both.
  have counted : 2 ^ (min t.usizeBits 64 - 1) ≤ 2 ^ 63 :=
    Nat.pow_le_pow_right (by decide) (by omega)
  have addressable : 2 ^ (min t.usizeBits 64 - 1) ≤ 2 ^ t.usizeBits :=
    Nat.pow_le_pow_right (by decide) (by omega)
  have positive : 0 < 2 ^ (min t.usizeBits 64 - 1) := Nat.two_pow_pos _
  rw [isizeMax] at small
  constructor
  · omega
  · exact Nat.lt_of_le_of_lt small (by omega)

/-- A value this target can hold survives the cast. -/
theorem asUsize_eq {x : UInt64} (fits : t.Addressable x.toNat) : t.asUsize x = x.toNat :=
  Nat.mod_eq_of_lt fits

end Target

/-- `a.checked_add(b)` at type `u64`. -/
def UInt64.checkedAdd (a b : UInt64) : Option UInt64 :=
  if a.toNat + b.toNat < 2 ^ 64 then some (a + b) else none

/-- `a.saturating_add(b)` at type `u64`. -/
def UInt64.saturatingAdd (a b : UInt64) : UInt64 :=
  if a.toNat + b.toNat < 2 ^ 64 then a + b else UInt64.ofNat (2 ^ 64 - 1)

/-- `a.saturating_sub(b)` at type `u64`. -/
def UInt64.saturatingSub (a b : UInt64) : UInt64 :=
  if b ≤ a then a - b else 0

/-- A saturating difference is the truncated difference of natural numbers. -/
theorem UInt64.toNat_saturatingSub (a b : UInt64) :
    (a.saturatingSub b).toNat = a.toNat - b.toNat := by
  -- Below zero both sides stop at zero.
  unfold UInt64.saturatingSub
  split
  · next ordered => exact UInt64.toNat_sub_of_le _ _ ordered
  · next above =>
    rw [UInt64.le_iff_toNat_le] at above
    simp only [UInt64.toNat_zero]
    omega

/-- An addition below the width of the type is the natural-number sum. -/
theorem UInt64.toNat_add_of_fits {a b : UInt64} (fits : a.toNat + b.toNat < 2 ^ 64) :
    (a + b).toNat = a.toNat + b.toNat := by
  rw [UInt64.toNat_add, Nat.mod_eq_of_lt fits]

/-- A saturating sum below the width of the type is the natural-number sum. -/
theorem UInt64.toNat_saturatingAdd_of_fits {a b : UInt64} (fits : a.toNat + b.toNat < 2 ^ 64) :
    (a.saturatingAdd b).toNat = a.toNat + b.toNat := by
  rw [UInt64.saturatingAdd, if_pos fits, UInt64.toNat_add_of_fits fits]

/-- A call that works on a state, which is also known after an error. -/
def Proc (σ ε α : Type) := σ → Exec ε α × σ

namespace Proc

variable {σ τ ε ε' α β : Type}

instance : Monad (Proc σ ε) where
  pure value := fun state => (.ok value, state)
  bind call next := fun state => match call state with
    | (.ok value, after) => next value after
    -- The state reached by a failed call is kept for whoever looks at it next.
    | (.err error, after) => (.err error, after)
    | (.panic, after) => (.panic, after)

/-- A computation that leaves the state alone. -/
def lift (call : Exec ε α) : Proc σ ε α := fun state => (call, state)

/-- `map_err`, with which `?` turns a callee's error into the caller's. -/
def mapErr (wrap : ε → ε') (call : Proc σ ε α) : Proc σ ε' α := fun state =>
  match call state with
  | (.ok value, after) => (.ok value, after)
  | (.err error, after) => (.err (wrap error), after)
  | (.panic, after) => (.panic, after)

theorem bind_run (call : Proc σ ε α) (next : α → Proc σ ε β) (state : σ) :
    (call >>= next) state = match call state with
      | (.ok value, after) => next value after
      | (.err error, after) => (.err error, after)
      | (.panic, after) => (.panic, after) :=
  rfl

theorem pure_run (value : α) (state : σ) : (pure value : Proc σ ε α) state = (.ok value, state) :=
  rfl

theorem lift_run (call : Exec ε α) (state : σ) : (lift call : Proc σ ε α) state = (call, state) :=
  rfl

/-- After a call that returns, the next one runs on the state it left. -/
theorem bind_run_ok {call : Proc σ ε α} {next : α → Proc σ ε β} {state after : σ} {value : α}
    (returned : call state = (.ok value, after)) : (call >>= next) state = next value after := by
  rw [bind_run, returned]

/-- After a call that fails, nothing runs. -/
theorem bind_run_err {call : Proc σ ε α} {next : α → Proc σ ε β} {state after : σ} {error : ε}
    (failed : call state = (.err error, after)) : (call >>= next) state = (.err error, after) := by
  rw [bind_run, failed]

/-- A sequence returns exactly when both of its halves do. -/
theorem bind_run_eq_ok {call : Proc σ ε α} {next : α → Proc σ ε β} {state after : σ} {result : β} :
    (call >>= next) state = (.ok result, after) ↔
      ∃ value between, call state = (.ok value, between) ∧
        next value between = (.ok result, after) := by
  -- Only the first case of the outcome goes on to the second half.
  rw [bind_run]
  rcases call state with ⟨value | _ | _, between⟩
  · constructor
    · exact fun returned => ⟨value, between, rfl, returned⟩
    · rintro ⟨_, _, ⟨⟩, returned⟩
      exact returned
  · simp
  · simp

/-- A wrapped error changes nothing about a call that returns. -/
theorem mapErr_run_eq_ok {wrap : ε → ε'} {call : Proc σ ε α} {state after : σ} {value : α} :
    mapErr wrap call state = (.ok value, after) ↔ call state = (.ok value, after) := by
  -- The wrapper touches the error case only.
  rw [mapErr]
  rcases call state with ⟨_ | _ | _, between⟩ <;> simp

/--
A call on a concrete state does what an abstract call does on its abstraction.

The outcomes agree on every state.
The states agree after a return and after the errors that are kept track of.
-/
def Refines (keep : ε → Prop) (abstraction : σ → τ) (concrete : Proc σ ε α)
    (abstract : Proc τ ε α) : Prop :=
  ∀ state, (concrete state).1 = (abstract (abstraction state)).1 ∧
    ((∀ error, (concrete state).1 = .err error → keep error) → (concrete state).1 ≠ .panic →
      abstraction (concrete state).2 = (abstract (abstraction state)).2)

namespace Refines

variable {keep : ε → Prop} {abstraction : σ → τ}

/-- Returning a value refines returning it. -/
theorem pure (value : α) :
    Refines keep abstraction (Pure.pure value : Proc σ ε α) (Pure.pure value : Proc τ ε α) :=
  fun _ => ⟨rfl, fun _ _ => rfl⟩

/-- A computation that leaves the state alone refines itself. -/
theorem lift (call : Exec ε α) :
    Refines keep abstraction (Proc.lift call : Proc σ ε α) (Proc.lift call : Proc τ ε α) :=
  fun _ => ⟨rfl, fun _ _ => rfl⟩

/-- Refinement passes through sequencing. -/
theorem bind {first : Proc σ ε α} {first' : Proc τ ε α} {next : α → Proc σ ε β}
    {next' : α → Proc τ ε β} (head : Refines keep abstraction first first')
    (tail : ∀ value, Refines keep abstraction (next value) (next' value)) :
    Refines keep abstraction (first >>= next) (first' >>= next') := by
  -- The outcomes of the first halves agree, so both sequences end here or both go on.
  intro state
  obtain ⟨outcome, states⟩ := head state
  rw [bind_run, bind_run]
  rcases run : first state with ⟨_ | _ | _, after⟩ <;>
    rcases run' : first' (abstraction state) with ⟨_ | _ | _, after'⟩ <;>
    simp only [run, run', Exec.ok.injEq, Exec.err.injEq, reduceCtorEq] at outcome states ⊢
  · -- The first halves agree on their value and on the state the second halves start from.
    have same : abstraction after = after' :=
      states (fun _ impossible => absurd impossible (by simp)) (by simp)
    rw [← outcome, ← same]
    exact tail _ after
  · exact ⟨outcome, fun keeps _ => states keeps (by simp)⟩
  · exact ⟨trivial, fun _ noPanic => absurd rfl noPanic⟩

/-- A wrapped error is kept track of when the error inside it is. -/
theorem mapErr {wrap : ε → ε'} {keep' : ε' → Prop} {concrete : Proc σ ε α}
    {abstract : Proc τ ε α} (refines : Refines keep abstraction concrete abstract)
    (kept : ∀ error, keep' (wrap error) → keep error) :
    Refines keep' abstraction (concrete.mapErr wrap) (abstract.mapErr wrap) := by
  intro state
  obtain ⟨outcome, states⟩ := refines state
  rw [Proc.mapErr, Proc.mapErr]
  -- Both calls end in the same way, by what is known of their outcomes.
  rcases run : concrete state with ⟨_ | _ | _, after⟩ <;>
    rcases run' : abstract (abstraction state) with ⟨_ | _ | _, after'⟩ <;>
    simp only [run, run', Exec.ok.injEq, Exec.err.injEq, reduceCtorEq] at outcome states ⊢
  · exact ⟨outcome, fun _ _ => states (by simp) (by simp)⟩
  · refine ⟨congrArg wrap outcome, fun keeps _ => states (fun error same => ?_) (by simp)⟩
    exact same ▸ kept _ (keeps _ rfl)
  · exact ⟨trivial, fun _ noPanic => absurd rfl noPanic⟩

end Refines

end Proc
