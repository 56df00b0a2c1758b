import Repe.Derive.Obligations
import Repe.Lib.Mutex
import Repe.Server.Segments

/-! A struct that is mounted behind a lock: the attempt under a shared guard, the dispatch under an
exclusive one, and the response that either makes. -/

namespace Repe.Derive

namespace StructError

/-- `StructError::code`. -/
def code : StructError → ErrorCode
  | .invalidPath _ | .invalidSubpath _ => .methodNotFound
  | .bodyExpected _ | .bodyUnexpected _ => .invalidBody
  | .decode _ _ | .arguments _ _ => .invalidBody
  | .execution _ _ => .parseError

def display : StructError → String
  | .invalidPath path => "invalid path `" ++ String.ofList path ++ "`"
  | .invalidSubpath path => "unexpected additional path segments at `" ++ String.ofList path ++ "`"
  | .bodyExpected path => "body required for `" ++ String.ofList path ++ "`"
  | .bodyUnexpected path => "body not allowed for `" ++ String.ofList path ++ "`"
  | .decode path source =>
    "could not decode body for `" ++ String.ofList path ++ "`: " ++ source.message
  | .arguments path message =>
    "invalid arguments for `" ++ String.ofList path ++ "`: " ++ message
  | .execution path message => "method `" ++ String.ofList path ++ "` failed: " ++ message

end StructError

inductive LockError where
  | poisoned (message : String)
  | other (message : String)
  deriving DecidableEq, Repr

/-- A type of lock that implements `Lockable`. -/
structure LockKind where
  shared : Bool
  poisons : Bool
  deriving DecidableEq, Repr

namespace LockKind

/--
The `Mutex` of the standard library, which poisons, and those of tokio and parking_lot, which do
not.
-/
def mutex (poisons : Bool) : LockKind := ⟨false, poisons⟩

def rwLock (poisons : Bool) : LockKind := ⟨true, poisons⟩

variable {S R : Type} (kind : LockKind)

/-- The `Display` text of a `PoisonError`, which all guards share. -/
def poisonText : String := "poisoned lock: another task failed inside"

/-- `lock`: what the exclusive guard gives access to. -/
def lock (locked : Mutex S) : Except LockError S :=
  if kind.poisons && locked.poisoned then .error (.poisoned poisonText) else .ok locked.value

/-- `with_read`: run a function under a shared guard, or nothing if there is no shared mode. -/
def withRead (locked : Mutex S) (f : S → R) : Option (Except LockError R) :=
  if kind.shared then
    some (if kind.poisons && locked.poisoned then .error (.poisoned poisonText)
      else .ok (f locked.value))
  else none

def release (locked : Mutex S) (value : S) (unwound : Bool) : Mutex S :=
  ⟨value, locked.poisoned || kind.poisons && unwound⟩

end LockKind

section Handle

variable {S : Type}

def lockErrorResponse (request : Message) (path : Path) (error : LockError) : Message :=
  let detail := match error with
    | .poisoned message =>
      "struct handler `" ++ String.ofList path ++ "` lock poisoned: " ++ message
    | .other message => "struct handler `" ++ String.ofList path ++ "` lock error: " ++ message
  createErrorResponseLike request .parseError detail

/-- `finish_struct_response`, unless the dispatch unwound. -/
def finishStructResponse (request : Message) (buf : Bytes) (format : BodyFormat) :
    StructResult → Exec RepeError Message
  | .ok () => .ok (createBodyResponseUnstamped request buf format)
  | .err error => .ok (createErrorResponseLike request error.code error.display)
  | .panic => .panic

/-- `dispatch_struct_segments`: the response, and the struct it leaves. -/
def dispatchStructSegments (served : RepeStruct S) (s : S) (segments : List Path)
    (body : Option RequestBody) (requested : BodyFormat) (buf : Bytes) (request : Message) :
    Exec RepeError Message × S :=
  let (after, reply) := served.repeHandleInto s segments body (.withFormat buf requested)
  (finishStructResponse request reply.out.buf reply.out.format reply.returned, after)

/-- `shared_struct_segments`: the response, unless the struct declined, and the buffer it leaves. -/
def sharedStructSegments (served : RepeStruct S) (s : S) (segments : List Path)
    (body : Option RequestBody) (requested : BodyFormat) (buf : Bytes) (request : Message) :
    Option (Exec RepeError Message) × Bytes :=
  let reply := served.repeSharedInto s segments body (.withFormat buf requested)
  match reply.returned with
  -- What a struct has written before it declined is cleared.
  | none => (none, [])
  | some result => (some (finishStructResponse request reply.out.buf reply.out.format result), [])

/-- The format a request's body is read in, if a struct reads such. -/
def structBodyFormat (request : Message) : Option BodyFormat :=
  match BodyFormat.tryFrom request.header.bodyFormat with
  | some .json => some .json
  | some .utf8 => some .utf8
  | some .beve => some .beve
  -- An empty frame is a read, and has no body to have a format.
  | _ => if request.body.isEmpty then some .json else none

def structBody (request : Message) (format : BodyFormat) : Option RequestBody :=
  if request.body.isEmpty then none else some ⟨request.body, format⟩

/-- The path of a request; a query that is not a text is taken as the root. -/
def queryPath (request : Message) : Path := (Utf8.fromUtf8 request.query).getD []

/-- `RegisteredStruct`: a struct below a root, behind a lock. -/
structure RegisteredStruct (S : Type) where
  root : Path
  served : RepeStruct S
  kind : LockKind

def outsideText (path : Path) : String := "path is not below struct root: " ++ String.ofList path

def formatText (path : Path) (format : UInt16) : String :=
  "struct handler `" ++ String.ofList path ++ "` requires JSON or BEVE body, got format "
    ++ toString format

def malformedText (path : Path) : String := "malformed JSON Pointer: " ++ String.ofList path

namespace RegisteredStruct

def handleExclusive (registered : RegisteredStruct S) (locked : Mutex S) (path : Path)
    (segments : List Path) (body : Option RequestBody) (format : BodyFormat) (buf : Bytes)
    (request : Message) : Exec RepeError Message × Mutex S :=
  match registered.kind.lock locked with
  | .error error => (.ok (lockErrorResponse request path error), locked)
  | .ok value =>
    let (response, after) :=
      dispatchStructSegments registered.served value segments body format buf request
    (response, registered.kind.release locked after (response matches .panic))

def handleSegments (registered : RegisteredStruct S) (locked : Mutex S) (path : Path)
    (body : Option RequestBody) (format : BodyFormat) (request : Message) (segments : List Path) :
    Exec RepeError Message × Mutex S :=
  -- A body is not offered to a struct that cannot answer one without its exclusive borrow.
  if body.isNone || registered.served.repeSharedServesBodies then
    match registered.kind.withRead locked fun s =>
      sharedStructSegments registered.served s segments body format [] request with
    -- A panic under a shared guard unwinds from here and poisons nothing.
    | some (.ok (some response, _)) => (response, locked)
    | some (.ok (none, buf)) =>
      registered.handleExclusive locked path segments body format buf request
    | some (.error error) => (.ok (lockErrorResponse request path error), locked)
    | none => registered.handleExclusive locked path segments body format [] request
  else registered.handleExclusive locked path segments body format [] request

def handle (registered : RegisteredStruct S) (locked : Mutex S) (request : Message) :
    Exec RepeError Message × Mutex S :=
  let path := queryPath request
  match Mount.relativePointer registered.root path with
  | none => (.ok (createErrorResponseLike request .methodNotFound (outsideText path)), locked)
  | some relative =>
    match structBodyFormat request with
    | none =>
      (.ok (createErrorResponseLike request .invalidBody
        (formatText path request.header.bodyFormat)), locked)
    | some format =>
      match withSegments relative
        (registered.handleSegments locked path (structBody request format) format request) with
      | .ok handled => handled
      -- Nothing is dispatched, because no segments at all would name the whole struct.
      | .error _ =>
        (.ok (createErrorResponseLike request .methodNotFound (malformedText path)), locked)

end RegisteredStruct

end Handle

section Laws

variable {S : Type}

theorem withSegments_map {R : Type} (relative : Path) (f : List Path → R) :
    withSegments relative f = (withSegments relative id).map f := by
  -- What is done with the segments comes behind every branch.
  unfold withSegments
  split
  · cases JsonPointer.parse relative <;> rfl
  · split
    · rfl
    · split
      · rfl
      · rfl

namespace RegisteredStruct

variable {registered : RegisteredStruct S}

theorem handle_segments {request : Message} {relative : Path} {format : BodyFormat}
    {segments : List Path}
    (below : Mount.relativePointer registered.root (queryPath request) = some relative)
    (known : structBodyFormat request = some format)
    (split : withSegments relative id = .ok segments) (locked : Mutex S) :
    registered.handle locked request =
      registered.handleSegments locked (queryPath request)
        (structBody request format) format request segments := by
  simp only [handle, below, known]
  rw [withSegments_map, split]
  rfl

/-- Every other request is refused by what it says itself, with the lock left alone. -/
theorem handle_refuses {root : Path} {request : Message}
    (refused : ∀ relative format segments,
      Mount.relativePointer root (queryPath request) = some relative →
      structBodyFormat request = some format → withSegments relative id ≠ .ok segments) :
    ∃ code text, code ≠ ErrorCode.ok ∧ ∀ (served : RepeStruct S) (kind : LockKind) (locked : Mutex S),
      (⟨root, served, kind⟩ : RegisteredStruct S).handle locked request
        = (.ok (createErrorResponseLike request code text), locked) := by
  -- The three refusals, in the order they are looked for.
  cases below : Mount.relativePointer root (queryPath request) with
  | none =>
    refine ⟨.methodNotFound, outsideText (queryPath request), by decide, fun served kind locked => ?_⟩
    simp only [handle, below]
  | some relative =>
    cases known : structBodyFormat request with
    | none =>
      refine ⟨.invalidBody, formatText (queryPath request) request.header.bodyFormat, by decide,
      fun served kind locked => ?_⟩
      simp only [handle, below, known]
    | some format =>
      cases split : withSegments relative id with
      | ok segments => exact absurd split (refused relative format segments below known)
      | error malformed =>
        refine ⟨.methodNotFound, malformedText (queryPath request), by decide, fun served kind locked => ?_⟩
        simp only [handle, below, known]
        rw [withSegments_map, split]
        rfl

theorem handleSegments_mutex (root path : Path) (served : RepeStruct S) (poisons : Bool)
    (locked : Mutex S) (body : Option RequestBody) (format : BodyFormat) (request : Message)
    (segments : List Path) :
    (⟨root, served, .mutex poisons⟩ : RegisteredStruct S).handleSegments locked path body format
        request segments =
      (⟨root, served, .mutex poisons⟩ : RegisteredStruct S).handleExclusive locked path segments
        body format [] request := by
  simp only [handleSegments, LockKind.withRead, LockKind.mutex, Bool.false_eq_true, if_false,
    ite_self]

theorem handleSegments_declined {root path : Path} {served : RepeStruct S} {poisons : Bool}
    {locked : Mutex S} {body : Option RequestBody} {format : BodyFormat} {request : Message}
    {segments : List Path}
    (declined : (served.repeSharedInto locked.value segments body
      (.withFormat [] format)).returned = none) :
    (⟨root, served, .rwLock poisons⟩ : RegisteredStruct S).handleSegments locked path body format
        request segments =
      (⟨root, served, .mutex poisons⟩ : RegisteredStruct S).handleSegments locked path body format
        request segments := by
  rw [handleSegments_mutex]
  simp only [handleSegments, LockKind.withRead, LockKind.rwLock, if_true]
  split
  · by_cases held : (poisons && locked.poisoned) = true
    · -- Either guard reports the poison, in the same words.
      simp only [held, if_true, handleExclusive, LockKind.lock, LockKind.mutex]
    · simp only [held, Bool.false_eq_true, if_false, sharedStructSegments, declined]
      rfl
  · rfl

/-- What a struct answers under a shared guard is what it answers under an exclusive one. -/
theorem handleSegments_answered {root path : Path} {served : RepeStruct S} {poisons : Bool}
    {locked : Mutex S} {body : Option RequestBody} {format : BodyFormat} {request : Message}
    {segments : List Path} {result : StructResult} (obliged : served.Obliged)
    (unmoved : served.Unmoved)
    (answered : (served.repeSharedInto locked.value segments body
      (.withFormat [] format)).returned = some result) :
    let shared := (⟨root, served, .rwLock poisons⟩ : RegisteredStruct S).handleSegments locked path
      body format request segments
    let exclusive := (⟨root, served, .mutex poisons⟩ : RegisteredStruct S).handleSegments locked
      path body format request segments
    shared.1 = exclusive.1 ∧ shared.2.value = exclusive.2.value := by
  obtain ⟨same, written⟩ := obliged.answers _ _ _ _ _ answered
  have kept := unmoved locked.value segments body (.withFormat [] format)
    (by rw [answered]; rfl)
  dsimp only
  rw [handleSegments_mutex]
  simp only [handleSegments, LockKind.withRead, LockKind.rwLock, if_true]
  split
  · by_cases held : (poisons && locked.poisoned) = true
    · simp only [held, if_true, handleExclusive, LockKind.lock, LockKind.mutex, and_self]
    · -- The exclusive dispatch finishes the same body with the same result, and writes nothing back.
      simp only [held, Bool.false_eq_true, if_false, sharedStructSegments, answered, handleExclusive,
        LockKind.lock, LockKind.mutex, dispatchStructSegments, same, written, kept, LockKind.release,
        and_self]
  · exact ⟨rfl, rfl⟩

end RegisteredStruct

/--
A struct behind a lock with a shared mode answers as it does behind one without.

The struct has to meet the obligations of the trait for that. If it declines the shared attempt it
need not even do that, and a pointer that cannot be split into segments is refused without the lock.
-/
theorem rwlock_answers_as_mutex (root : Path) (served : RepeStruct S) (poisons : Bool)
    (locked : Mutex S) (request : Message) :
    let behindRwLock := (⟨root, served, .rwLock poisons⟩ : RegisteredStruct S).handle locked request
    let behindMutex := (⟨root, served, .mutex poisons⟩ : RegisteredStruct S).handle locked request
    (served.Obliged → served.Unmoved →
      behindRwLock.1 = behindMutex.1 ∧ behindRwLock.2.value = behindMutex.2.value) ∧
    (∀ relative format segments,
      Mount.relativePointer root (queryPath request) = some relative →
      structBodyFormat request = some format → withSegments relative id = .ok segments →
      (served.repeSharedInto locked.value segments (structBody request format)
        (.withFormat [] format)).returned = none → behindRwLock = behindMutex) ∧
    (∀ relative, Mount.relativePointer root (queryPath request) = some relative →
      withSegments relative id = .error ⟨⟩ →
      ∃ code text, code ≠ ErrorCode.ok ∧
        ∀ (served : RepeStruct S) (kind : LockKind) (locked : Mutex S),
          (⟨root, served, kind⟩ : RegisteredStruct S).handle locked request
            = (.ok (createErrorResponseLike request code text), locked)) := by
  refine ⟨fun obliged unmoved => ?_, ?_, ?_⟩
  · by_cases splits : ∃ relative format segments,
        Mount.relativePointer root (queryPath request) = some relative ∧
        structBodyFormat request = some format ∧ withSegments relative id = .ok segments
    · obtain ⟨relative, format, segments, below, known, split⟩ := splits
      rw [RegisteredStruct.handle_segments below known split,
        RegisteredStruct.handle_segments below known split]
      cases answered : (served.repeSharedInto locked.value segments (structBody request format)
          (.withFormat [] format)).returned with
      | none =>
        rw [RegisteredStruct.handleSegments_declined answered]
        exact ⟨rfl, rfl⟩
      | some result => exact RegisteredStruct.handleSegments_answered obliged unmoved answered
    · -- Nothing of the refusal depends on the lock.
      obtain ⟨code, text, _, refused⟩ := RegisteredStruct.handle_refuses (S := S)
        fun relative format segments below known split =>
          splits ⟨relative, format, segments, below, known, split⟩
      rw [refused, refused]
      exact ⟨rfl, rfl⟩
  · intro relative format segments below known split declined
    rw [RegisteredStruct.handle_segments below known split,
      RegisteredStruct.handle_segments below known split]
    exact RegisteredStruct.handleSegments_declined declined
  · intro relative below malformed
    apply RegisteredStruct.handle_refuses
    intro other format segments same known split
    rw [below] at same
    cases same
    rw [malformed] at split
    cases split

/-- A read of a gauge, behind either lock of the standard library. -/
theorem gauge_read_behind_either_lock :
    let request := MessageBuilder.build { id := 1, query := utf8Bytes "/gauge" }
    RepeStruct.gauge.Obliged ∧ RepeStruct.gauge.Unmoved ∧
      ((⟨"/gauge".toList, .gauge, .rwLock true⟩ : RegisteredStruct Nat).handle ⟨5, false⟩ request).1 =
        ((⟨"/gauge".toList, .gauge, .mutex true⟩ : RegisteredStruct Nat).handle ⟨5, false⟩ request).1 :=
  ⟨RepeStruct.gauge_obliged, RepeStruct.gauge_unmoved,
    ((rwlock_answers_as_mutex "/gauge".toList .gauge true ⟨5, false⟩
      (MessageBuilder.build { id := 1, query := utf8Bytes "/gauge" })).1
      RepeStruct.gauge_obliged RepeStruct.gauge_unmoved).1⟩

end Laws

end Repe.Derive
