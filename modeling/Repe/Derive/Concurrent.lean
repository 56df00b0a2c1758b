import Repe.Derive.Registered
import Repe.Lib.Linearize
import Mathlib.Data.Fintype.Basic

/-! Requests that are at a mounted struct at the same time: the guards they wait for, and why their
answers are those of one request after the other. -/

namespace Repe.Derive

open Linearize

/-- What a request asks of a struct, once it is known to ask something. -/
structure Dispatch where
  path : Path
  segments : List Path
  body : Option RequestBody
  format : BodyFormat

namespace RegisteredStruct

variable {S : Type} (registered : RegisteredStruct S)

/-- `handle` up to the first lock: the dispatch of a request, or the response that refuses it. -/
def prepare (request : Message) : Except Message Dispatch :=
  let path := queryPath request
  match Mount.relativePointer registered.root path with
  | none => .error (createErrorResponseLike request .methodNotFound (outsideText path))
  | some relative =>
    match structBodyFormat request with
    | none =>
      .error (createErrorResponseLike request .invalidBody
        (formatText path request.header.bodyFormat))
    | some format =>
      match withSegments relative id with
      | .ok segments => .ok ⟨path, segments, structBody request format, format⟩
      | .error _ => .error (createErrorResponseLike request .methodNotFound (malformedText path))

/-- A request that is refused is refused under every lock. -/
theorem handle_of_refused {request response : Message} (locked : Mutex S)
    (refused : registered.prepare request = .error response) :
    registered.handle locked request = (.ok response, locked) := by
  unfold prepare at refused
  dsimp only at refused
  -- The three refusals, in the order they are looked for.
  split at refused
  · next outside =>
    cases refused
    simp only [handle, outside]
  · next relative below =>
    split at refused
    · next unknown =>
      cases refused
      simp only [handle, below, unknown]
    · next format known =>
      split at refused
      · cases refused
      · next split =>
        cases refused
        simp only [handle, below, known]
        rw [withSegments_map, split]
        rfl

/-- Every other request is dispatched. -/
theorem handle_of_prepared {request : Message} {dispatch : Dispatch} (locked : Mutex S)
    (prepared : registered.prepare request = .ok dispatch) :
    registered.handle locked request =
      registered.handleSegments locked dispatch.path dispatch.body dispatch.format request
        dispatch.segments := by
  -- A request that was prepared has passed the path, the format and the segments.
  unfold prepare at prepared
  dsimp only at prepared
  split at prepared
  · cases prepared
  · next relative below =>
    split at prepared
    · cases prepared
    · next format known =>
      split at prepared
      · next segments split =>
        cases prepared
        exact handle_segments below known split locked
      · cases prepared

def attempts (dispatch : Dispatch) : Bool :=
  registered.kind.shared && (dispatch.body.isNone || registered.served.repeSharedServesBodies)

/-- The attempt under a shared guard: the response, or the buffer that is left for the exclusive one. -/
def attempt (seen : Mutex S) (dispatch : Dispatch) (request : Message) :
    Exec RepeError Message ⊕ Bytes :=
  match registered.kind.withRead seen fun s =>
    sharedStructSegments registered.served s dispatch.segments dispatch.body dispatch.format []
      request with
  | some (.ok (some response, _)) => .inl response
  | some (.ok (none, buf)) => .inr buf
  | some (.error error) => .inl (.ok (lockErrorResponse request dispatch.path error))
  | none => .inr []

def Agreeing : Prop :=
  ∀ s segments body out, Agrees s out (registered.served.repeSharedInto s segments body out)
    (registered.served.repeHandleInto s segments body out)

/-- A panic under the exclusive guard leaves no poison behind. -/
def Clean : Prop :=
  registered.kind.poisons = true → ∀ s segments body out,
    (registered.served.repeHandleInto s segments body out).2.returned ≠ .panic

variable {registered}

/-- The attempt, and the exclusive dispatch where it declines or is not made. -/
theorem handleSegments_eq (locked : Mutex S) (dispatch : Dispatch) (request : Message) :
    registered.handleSegments locked dispatch.path dispatch.body dispatch.format request
        dispatch.segments =
      if registered.attempts dispatch then
        match registered.attempt locked dispatch request with
        | .inl response => (response, locked)
        | .inr buf => registered.handleExclusive locked dispatch.path dispatch.segments dispatch.body
            dispatch.format buf request
      else registered.handleExclusive locked dispatch.path dispatch.segments dispatch.body
        dispatch.format [] request := by
  unfold handleSegments attempts attempt
  -- Without a shared mode, and with a body nobody can answer, there is no attempt.
  cases mode : registered.kind.shared
  · simp only [LockKind.withRead, mode, Bool.false_eq_true, if_false, ite_self, Bool.false_and]
  · cases dispatch.body.isNone || registered.served.repeSharedServesBodies
    · rfl
    · simp only [if_true, Bool.and_true]
      cases registered.kind.withRead locked _ with
      | none => rfl
      | some read =>
        cases read with
        | error error => rfl
        | ok found =>
          obtain ⟨answer, buf⟩ := found
          cases answer <;> rfl

/-- A struct that declines leaves an empty buffer. -/
theorem buf_of_declined {seen : Mutex S} {dispatch : Dispatch} {request : Message} {buf : Bytes}
    (declined : registered.attempt seen dispatch request = .inr buf) : buf = [] := by
  unfold attempt at declined
  split at declined <;> cases declined
  · next found =>
    -- Whatever the struct wrote before it declined has been cleared.
    unfold LockKind.withRead at found
    split at found
    · split at found
      · cases found
      · simp only [sharedStructSegments] at found
        split at found <;> cases found
        rfl
    · cases found
  · rfl

/--
A guard that is dropped with nothing written back leaves the lock as it was, unless a panic poisons
it.
-/
theorem release_unmoved {kind : LockKind} {result : StructResult}
    (returns : kind.poisons = true → result ≠ .panic) (locked : Mutex S) (request : Message)
    (buf : Bytes) (format : BodyFormat) :
    kind.release locked locked.value (finishStructResponse request buf format result matches .panic)
      = locked := by
  unfold LockKind.release
  -- A guard whose lock poisons sees the panic, which is excluded.
  cases poisons : kind.poisons with
  | false => simp only [Bool.false_and, Bool.or_false]
  | true =>
    cases result with
    | ok value => simp only [finishStructResponse, Bool.and_false, Bool.or_false]
    | err error => simp only [finishStructResponse, Bool.and_false, Bool.or_false]
    | panic => exact absurd rfl (returns poisons)

/--
What a struct answers under a shared guard it also answers under the exclusive one, and leaves
everything as it was.
-/
theorem handleExclusive_of_answered (agreeing : registered.Agreeing) (clean : registered.Clean)
    {locked : Mutex S} {dispatch : Dispatch} {request : Message} {response : Exec RepeError Message}
    (answered : registered.attempt locked dispatch request = .inl response) :
    registered.handleExclusive locked dispatch.path dispatch.segments dispatch.body dispatch.format []
      request = (response, locked) := by
  unfold attempt LockKind.withRead at answered
  unfold handleExclusive LockKind.lock
  cases mode : registered.kind.shared with
  | false =>
    rw [mode] at answered
    cases answered
  | true =>
    rw [mode] at answered
    by_cases held : (registered.kind.poisons && locked.poisoned) = true
    · -- Either guard reports the poison.
      simp only [if_true, held] at answered ⊢
      cases answered
      rfl
    · simp only [if_true, held, if_false, Bool.false_eq_true, sharedStructSegments,
        dispatchStructSegments] at answered ⊢
      have agree := agreeing locked.value dispatch.segments dispatch.body
        (.withFormat [] dispatch.format)
      have returns := fun poisons => clean poisons locked.value dispatch.segments dispatch.body
        (.withFormat [] dispatch.format)
      unfold Agrees at agree
      split at agree
      · next declined =>
        rw [declined] at answered
        cases answered
      · next result found =>
        obtain ⟨same, written, kept⟩ := agree
        rw [found] at answered
        cases answered
        rw [same] at returns
        rw [same, written, kept]
        exact congrArg (Prod.mk _) (release_unmoved returns locked request _ _)

/-- The exclusive dispatch is what `handle` does on the same lock, with or without an attempt first. -/
theorem handleExclusive_eq (agreeing : registered.Agreeing) (clean : registered.Clean)
    (locked : Mutex S) (dispatch : Dispatch) (request : Message) :
    registered.handleExclusive locked dispatch.path dispatch.segments dispatch.body dispatch.format []
        request =
      registered.handleSegments locked dispatch.path dispatch.body dispatch.format request
        dispatch.segments := by
  rw [handleSegments_eq]
  split
  · -- An answer is what the exclusive dispatch gives; a decline leaves the buffer.
    cases attempted : registered.attempt locked dispatch request with
    | inl response => exact handleExclusive_of_answered agreeing clean attempted
    | inr buf =>
      cases buf_of_declined attempted
      rfl
  · rfl

end RegisteredStruct

/-- Where a request is on its way through `handle`. -/
inductive Stage (S : Type) where
  | idle
  | wantsShared (dispatch : Dispatch)
  /-- It holds a shared guard, on what was behind the lock when it got it. -/
  | sharing (dispatch : Dispatch) (seen : Mutex S)
  | wantsExclusive (dispatch : Dispatch) (buf : Bytes)
  /-- It holds the exclusive guard, on what was behind the lock when it got it. -/
  | owning (dispatch : Dispatch) (buf : Bytes) (seen : Mutex S)
  | answered (response : Exec RepeError Message)
  | returned

namespace Stage

variable {S : Type}

def shares : Stage S → Bool
  | .sharing _ _ => true
  | _ => false

def owns : Stage S → Bool
  | .owning _ _ _ => true
  | _ => false

end Stage

structure Serving (S ι : Type) where
  locked : Mutex S
  stages : ι → Stage S
  record : Record ι (Exec RepeError Message)

namespace Serving

variable {S ι : Type}

def idle (locked : Mutex S) : Serving S ι := ⟨locked, fun _ => .idle, .empty⟩

variable [DecidableEq ι]

def move (state : Serving S ι) (i : ι) (stage : Stage S) : Serving S ι :=
  { state with stages := Function.update state.stages i stage }

variable [Fintype ι] (registered : RegisteredStruct S) (requests : ι → Message)

/--
One step of one request.

A guard is taken in one step and dropped in a later one, so others move while it is held. What is read
through it is what was behind the lock when it was taken, and what is written through it is there when it
is dropped.
-/
def step (state : Serving S ι) (i : ι) : Option (Serving S ι) :=
  let request := requests i
  match state.stages i with
  | .idle =>
    let record := state.record.invoke i
    some (match registered.prepare request with
      -- A request that asks nothing of the struct never sees the lock.
      | .error response =>
        { state.move i (.answered (.ok response)) with record := record.take i (.ok response) }
      | .ok dispatch =>
        let stage := if registered.attempts dispatch then Stage.wantsShared dispatch
          else .wantsExclusive dispatch []
        { state.move i stage with record })
  | .wantsShared dispatch =>
    -- Any number of shared guards, as long as nobody owns the lock.
    if ∀ j, (state.stages j).owns = false then
      some (state.move i (.sharing dispatch state.locked))
    else none
  | .sharing dispatch seen =>
    some (match registered.attempt seen dispatch request with
      | .inl response =>
        { state.move i (.answered response) with record := state.record.take i response }
      -- The shared guard is dropped before the exclusive one is asked for.
      | .inr buf => state.move i (.wantsExclusive dispatch buf))
  | .wantsExclusive dispatch buf =>
    if ∀ j, (state.stages j).owns = false ∧ (state.stages j).shares = false then
      some (state.move i (.owning dispatch buf state.locked))
    else none
  | .owning dispatch buf seen =>
    let (response, after) := registered.handleExclusive seen dispatch.path dispatch.segments
      dispatch.body dispatch.format buf request
    some { state.move i (.answered response) with
      locked := after
      record := state.record.take i response }
  | .answered response =>
    some { state.move i .returned with record := state.record.respond i response }
  | .returned => none

inductive Moves (state : Serving S ι) (i : ι) : Serving S ι → Prop where
  | refused {response : Message} (stage : state.stages i = .idle)
      (prepared : registered.prepare (requests i) = .error response) :
      Moves state i { state.move i (.answered (.ok response)) with
        record := (state.record.invoke i).take i (.ok response) }
  | arrivedShared {dispatch : Dispatch} (stage : state.stages i = .idle)
      (prepared : registered.prepare (requests i) = .ok dispatch)
      (attempted : registered.attempts dispatch = true) :
      Moves state i { state.move i (.wantsShared dispatch) with record := state.record.invoke i }
  | arrivedExclusive {dispatch : Dispatch} (stage : state.stages i = .idle)
      (prepared : registered.prepare (requests i) = .ok dispatch)
      (direct : registered.attempts dispatch = false) :
      Moves state i { state.move i (.wantsExclusive dispatch []) with record := state.record.invoke i }
  | shared {dispatch : Dispatch} (stage : state.stages i = .wantsShared dispatch)
      (unowned : ∀ j, (state.stages j).owns = false) :
      Moves state i (state.move i (.sharing dispatch state.locked))
  | attempted {dispatch : Dispatch} {seen : Mutex S} {response : Exec RepeError Message}
      (stage : state.stages i = .sharing dispatch seen)
      (answer : registered.attempt seen dispatch (requests i) = .inl response) :
      Moves state i { state.move i (.answered response) with record := state.record.take i response }
  | declined {dispatch : Dispatch} {seen : Mutex S} {buf : Bytes}
      (stage : state.stages i = .sharing dispatch seen)
      (answer : registered.attempt seen dispatch (requests i) = .inr buf) :
      Moves state i (state.move i (.wantsExclusive dispatch buf))
  | owned {dispatch : Dispatch} {buf : Bytes} (stage : state.stages i = .wantsExclusive dispatch buf)
      (free : ∀ j, (state.stages j).owns = false ∧ (state.stages j).shares = false) :
      Moves state i (state.move i (.owning dispatch buf state.locked))
  | dispatched {dispatch : Dispatch} {buf : Bytes} {seen after : Mutex S}
      {response : Exec RepeError Message} (stage : state.stages i = .owning dispatch buf seen)
      (answer : registered.handleExclusive seen dispatch.path dispatch.segments dispatch.body
        dispatch.format buf (requests i) = (response, after)) :
      Moves state i { state.move i (.answered response) with
        locked := after
        record := state.record.take i response }
  | responded {response : Exec RepeError Message} (stage : state.stages i = .answered response) :
      Moves state i { state.move i .returned with record := state.record.respond i response }

variable {registered requests}

theorem moves_of_step {state after : Serving S ι} {i : ι}
    (stepped : step registered requests state i = some after) :
    Moves registered requests state i after := by
  unfold step at stepped
  dsimp only at stepped
  -- One move for each stage, in the order of the stages.
  split at stepped
  · next stage =>
    cases stepped
    cases prepared : registered.prepare (requests i) with
    | error response => exact .refused stage prepared
    | ok dispatch =>
      dsimp only
      cases tried : registered.attempts dispatch with
      | true => exact .arrivedShared stage prepared tried
      | false => exact .arrivedExclusive stage prepared tried
  · next stage =>
    split at stepped <;> cases stepped
    next unowned => exact .shared stage unowned
  · next stage =>
    cases stepped
    split
    · next answer => exact .attempted stage answer
    · next answer => exact .declined stage answer
  · next stage =>
    split at stepped <;> cases stepped
    next free => exact .owned stage free
  · next stage =>
    cases stepped
    exact .dispatched stage rfl
  · next stage =>
    cases stepped
    exact .responded stage
  · cases stepped

def Fits (registered : RegisteredStruct S) (request : Message) (locked : Mutex S)
    (record : Record ι (Exec RepeError Message)) (i : ι) : Stage S → Prop
  | .idle => Event.invoked i ∉ record.history
  | .wantsShared dispatch => Pending dispatch ∧ registered.attempts dispatch = true
  | .sharing dispatch seen =>
    Pending dispatch ∧ registered.attempts dispatch = true ∧ seen = locked
  | .wantsExclusive dispatch buf => Pending dispatch ∧ buf = []
  | .owning dispatch buf seen => Pending dispatch ∧ buf = [] ∧ seen = locked
  | .answered response => (i, response) ∈ record.effects
  | .returned => True
where
  /-- It has been invoked, and has not taken effect yet. -/
  Pending (dispatch : Dispatch) : Prop :=
    Event.invoked i ∈ record.history ∧ i ∉ record.taken ∧
      registered.prepare request = .ok dispatch

structure SameFor (i : ι) (record other : Record ι (Exec RepeError Message)) : Prop where
  invoked : Event.invoked i ∈ other.history ↔ Event.invoked i ∈ record.history
  taken : i ∈ other.taken ↔ i ∈ record.taken
  effects : ∀ response, (i, response) ∈ record.effects → (i, response) ∈ other.effects

omit [DecidableEq ι] [Fintype ι] in
theorem sameFor_invoke {i j : ι} (other : i ≠ j) (record : Record ι (Exec RepeError Message)) :
    SameFor i record (record.invoke j) := by
  refine ⟨?_, Iff.rfl, fun _ member => member⟩
  simp [Record.invoke, other]

omit [DecidableEq ι] [Fintype ι] in
theorem sameFor_take {i j : ι} (other : i ≠ j) (record : Record ι (Exec RepeError Message))
    (response : Exec RepeError Message) : SameFor i record (record.take j response) := by
  refine ⟨Iff.rfl, ?_, fun _ member => List.mem_append_left _ member⟩
  simp [Record.take, Record.taken, other]

omit [DecidableEq ι] [Fintype ι] in
theorem sameFor_respond (i j : ι) (record : Record ι (Exec RepeError Message))
    (response : Exec RepeError Message) : SameFor i record (record.respond j response) := by
  refine ⟨?_, Iff.rfl, fun _ member => member⟩
  simp [Record.respond]

omit [DecidableEq ι] [Fintype ι] in
theorem SameFor.trans {i : ι} {first second third : Record ι (Exec RepeError Message)}
    (before : SameFor i first second) (after : SameFor i second third) : SameFor i first third :=
  ⟨after.invoked.trans before.invoked, after.taken.trans before.taken,
    fun response member => after.effects response (before.effects response member)⟩

omit [DecidableEq ι] [Fintype ι] in
/-- What is known of a request stays so while others move, if the lock does under no guard of it. -/
theorem Fits.of_sameFor {request : Message} {locked after : Mutex S}
    {record other : Record ι (Exec RepeError Message)} {i : ι} {stage : Stage S}
    (fits : Fits registered request locked record i stage) (same : SameFor i record other)
    (kept : after = locked ∨ stage.owns = false ∧ stage.shares = false) :
    Fits registered request after other i stage := by
  -- A stage is about the record, and under a guard about the lock too.
  have pending : ∀ dispatch, Fits.Pending registered request record i dispatch →
      Fits.Pending registered request other i dispatch :=
    fun dispatch known =>
      ⟨same.invoked.mpr known.1, fun taken => known.2.1 (same.taken.mp taken), known.2.2⟩
  cases stage with
  | idle => exact fun invoked => fits (same.invoked.mp invoked)
  | wantsShared dispatch => exact ⟨pending _ fits.1, fits.2⟩
  | sharing dispatch seen =>
    rcases kept with rfl | ⟨-, shares⟩
    · exact ⟨pending _ fits.1, fits.2⟩
    · cases shares
  | wantsExclusive dispatch buf => exact ⟨pending _ fits.1, fits.2⟩
  | owning dispatch buf seen =>
    rcases kept with rfl | ⟨owns, -⟩
    · exact ⟨pending _ fits.1, fits.2⟩
    · cases owns
  | answered response => exact same.effects response fits
  | returned => trivial

structure Sound (registered : RegisteredStruct S) (requests : ι → Message) (start : Mutex S)
    (state : Serving S ι) : Prop where
  linearized : Linearized (fun locked i => registered.handle locked (requests i)) start state.locked
    state.record
  fits : ∀ i, Fits registered (requests i) state.locked state.record i (state.stages i)
  /-- Whoever owns the lock is the only one with a guard. -/
  alone : ∀ i j, i ≠ j → (state.stages i).owns = true →
    (state.stages j).owns = false ∧ (state.stages j).shares = false

omit [Fintype ι] in
/-- One request moves, and the rest of the state with it as far as the others allow. -/
theorem Sound.moved {start : Mutex S} {state : Serving S ι} (sound : Sound registered requests start state)
    {i : ι} {stage : Stage S} {locked : Mutex S} {record : Record ι (Exec RepeError Message)}
    (linearized : Linearized (fun locked i => registered.handle locked (requests i)) start locked record)
    (fits : Fits registered (requests i) locked record i stage)
    (same : ∀ j, j ≠ i → SameFor j state.record record)
    (kept : locked = state.locked ∨ (state.stages i).owns = true)
    (owner : stage.owns = true → ∀ j, (state.stages j).owns = false ∧ (state.stages j).shares = false)
    (sharer : stage.shares = true → ∀ j, (state.stages j).owns = false) :
    Sound registered requests start ⟨locked, Function.update state.stages i stage, record⟩ := by
  refine ⟨linearized, fun j => ?_, fun j k differ owns => ?_⟩
  · by_cases moved : j = i
    · subst moved
      simpa using fits
    · simp only [Function.update_of_ne moved]
      -- The lock is left alone, or the mover owned it and nobody else has a guard.
      refine (sound.fits j).of_sameFor (same j moved) (kept.imp id fun owned => ?_)
      exact sound.alone i j (Ne.symm moved) owned
  · by_cases first : j = i
    · subst first
      simp only [Function.update_self] at owns
      simpa only [Function.update_of_ne (Ne.symm differ)] using owner owns k
    · simp only [Function.update_of_ne first] at owns
      by_cases second : k = i
      · subst second
        simp only [Function.update_self]
        -- An owner next to the mover keeps it from getting a guard.
        constructor
        · cases taken : stage.owns with
          | false => rfl
          | true => exact absurd owns (by simp [(owner taken j).1])
        · cases taken : stage.shares with
          | false => rfl
          | true => exact absurd owns (by simp [sharer taken j])
      · simpa only [Function.update_of_ne second] using sound.alone j k differ owns

/-- Every step of every request keeps that. -/
theorem Sound.step (agreeing : registered.Agreeing) (clean : registered.Clean) {start : Mutex S}
    {state after : Serving S ι} {i : ι} (sound : Sound registered requests start state)
    (stepped : step registered requests state i = some after) :
    Sound registered requests start after := by
  have known := sound.fits i
  cases moves_of_step stepped with
  | refused stage prepared =>
    rw [stage] at known
    -- The refusal takes effect at once, since it is the same whatever is behind the lock.
    have invoked := sound.linearized.invoke known
    have fresh : i ∉ state.record.taken := fun taken => known (sound.linearized.invoked i taken)
    have member : Event.invoked i ∈ (state.record.invoke i).history := by simp [Record.invoke]
    refine sound.moved
      (invoked.take member fresh (registered.handle_of_refused state.locked prepared)) ?_
      (fun j other => (sameFor_invoke other _).trans (sameFor_take other _ _)) (.inl rfl)
      (by rintro ⟨⟩) (by rintro ⟨⟩)
    exact List.mem_append_right _ (List.mem_singleton.mpr rfl)
  | @arrivedShared dispatch stage prepared attempted =>
    rw [stage] at known
    have fresh : i ∉ state.record.taken := fun taken => known (sound.linearized.invoked i taken)
    refine sound.moved (sound.linearized.invoke known) ⟨⟨?_, fresh, prepared⟩, attempted⟩
      (fun j other => sameFor_invoke other _) (.inl rfl) (by rintro ⟨⟩) (by rintro ⟨⟩)
    simp [Record.invoke]
  | @arrivedExclusive dispatch stage prepared direct =>
    rw [stage] at known
    have fresh : i ∉ state.record.taken := fun taken => known (sound.linearized.invoked i taken)
    refine sound.moved (sound.linearized.invoke known) ⟨⟨?_, fresh, prepared⟩, rfl⟩
      (fun j other => sameFor_invoke other _) (.inl rfl) (by rintro ⟨⟩) (by rintro ⟨⟩)
    simp [Record.invoke]
  | shared stage unowned =>
    rw [stage] at known
    exact sound.moved sound.linearized ⟨known.1, known.2, rfl⟩
      (fun j _ => ⟨Iff.rfl, Iff.rfl, fun _ member => member⟩) (.inl rfl) (by rintro ⟨⟩)
      fun _ => unowned
  | @attempted dispatch seen response stage answer =>
    rw [stage] at known
    obtain ⟨⟨invoked, fresh, prepared⟩, tried, rfl⟩ := known
    -- What was seen under the guard is still behind the lock.
    have applied : registered.handle state.locked (requests i) = (response, state.locked) := by
      rw [registered.handle_of_prepared _ prepared, RegisteredStruct.handleSegments_eq, if_pos tried,
        answer]
    exact sound.moved (sound.linearized.take invoked fresh applied)
      (List.mem_append_right _ (List.mem_singleton.mpr rfl)) (fun j other => sameFor_take other _ _)
      (.inl rfl) (by rintro ⟨⟩) (by rintro ⟨⟩)
  | declined stage answer =>
    rw [stage] at known
    exact sound.moved sound.linearized ⟨known.1, RegisteredStruct.buf_of_declined answer⟩
      (fun j _ => ⟨Iff.rfl, Iff.rfl, fun _ member => member⟩) (.inl rfl) (by rintro ⟨⟩) (by rintro ⟨⟩)
  | owned stage free =>
    rw [stage] at known
    exact sound.moved sound.linearized ⟨known.1, known.2, rfl⟩
      (fun j _ => ⟨Iff.rfl, Iff.rfl, fun _ member => member⟩) (.inl rfl) (fun _ => free) (by rintro ⟨⟩)
  | @dispatched dispatch buf seen locked response stage answer =>
    rw [stage] at known
    obtain ⟨⟨invoked, fresh, prepared⟩, rfl, rfl⟩ := known
    -- The dispatch takes effect on what the guard has kept as it was.
    have applied : registered.handle state.locked (requests i) = (response, locked) := by
      rw [registered.handle_of_prepared _ prepared,
        ← RegisteredStruct.handleExclusive_eq agreeing clean, answer]
    exact sound.moved (sound.linearized.take invoked fresh applied)
      (List.mem_append_right _ (List.mem_singleton.mpr rfl)) (fun j other => sameFor_take other _ _)
      (.inr (by rw [stage]; rfl)) (by rintro ⟨⟩) (by rintro ⟨⟩)
  | responded stage =>
    rw [stage] at known
    exact sound.moved (sound.linearized.respond known) trivial
      (fun j other => sameFor_respond j i _ _) (.inl rfl) (by rintro ⟨⟩) (by rintro ⟨⟩)

omit [DecidableEq ι] [Fintype ι] in
theorem sound_idle (start : Mutex S) : Sound registered requests start (idle start) :=
  ⟨.empty start, fun _ => List.not_mem_nil, fun _ _ _ owns => by cases owns⟩

/--
Requests that are at a mounted struct at the same time get the answers of one request after the other.

There is one order of the requests, namely that in which they took effect, in which `handle` gives every
request the response its caller got and leaves what is behind the lock. A request that was answered before
another arrived comes before it. This needs that the two borrows of the struct agree: a request whose shared
attempt was declined is dispatched on a struct that others may have changed since, where the attempt would
not have been declined.
-/
theorem concurrent_requests_linearizable (agreeing : registered.Agreeing) (clean : registered.Clean)
    (requests : ι → Message) (start : Mutex S) {schedule : List ι} {state : Serving S ι}
    (ran : Transition.run (step registered requests) (idle start) schedule = some state) :
    Linearized (fun locked i => registered.handle locked (requests i)) start state.locked
      state.record :=
  (Transition.invariant_of_run (Sound registered requests start)
    (fun _ _ _ sound stepped => sound.step agreeing clean stepped) (sound_idle start) ran).linearized

section Gauge

/-- A gauge behind the `RwLock` of the standard library. -/
def gaugeMount : RegisteredStruct Nat := ⟨"/gauge".toList, .gauge, .rwLock true⟩

def readAndWrite : Fin 2 → Message
  | 0 => MessageBuilder.build { id := 1, query := utf8Bytes "/gauge" }
  | 1 => MessageBuilder.build
      { id := 2, query := utf8Bytes "/gauge", body := [49, 50], bodyFormat := BodyFormat.json.toU16 }

/-- The write arrives while the read holds its guard, and waits for it. -/
def readBeforeWrite : List (Fin 2) :=
  let read : Fin 2 := ⟨0, Nat.zero_lt_two⟩
  let write : Fin 2 := ⟨1, Nat.one_lt_two⟩
  [read, read, write, read, write, write, write, read]

/-- The read is answered first, and with the value from before the write. -/
theorem read_and_write_linearizable :
    ∃ state, Transition.run (step gaugeMount readAndWrite) (idle ⟨5, false⟩) readBeforeWrite =
        some state ∧
      Linearized (fun locked i => gaugeMount.handle locked (readAndWrite i)) ⟨5, false⟩ state.locked
        state.record := by
  -- Reads are answered alike, and writes are declined under the shared guard.
  have agreeing : gaugeMount.Agreeing := by
    intro s segments body out
    cases body with
    | none => exact ⟨rfl, rfl, rfl⟩
    | some body => exact ⟨rfl, rfl⟩
  -- No function of the gauge panics.
  have clean : gaugeMount.Clean := by
    intro _ s segments body out
    cases body with
    | none => rintro ⟨⟩
    | some body => rintro ⟨⟩
  have runs : (Transition.run (step gaugeMount readAndWrite) (idle ⟨5, false⟩)
      readBeforeWrite).isSome = true := by decide +kernel
  obtain ⟨state, ran⟩ := Option.isSome_iff_exists.mp runs
  exact ⟨state, ran, concurrent_requests_linearizable agreeing clean readAndWrite ⟨5, false⟩ ran⟩

end Gauge

end Serving

end Repe.Derive
