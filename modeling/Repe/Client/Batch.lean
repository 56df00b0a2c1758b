import Repe.Lib.Mutex
import Repe.Lib.Transition
import Repe.Wire.Error

/-! The batch of the blocking client: workers that take requests off a shared queue and put what their
calls return into a shared vector. -/

namespace Repe.Batch

variable {T R : Type}

def maxBatchWorkers : Nat := 64

/-- `batch_worker_count`, with the parallelism if the system can tell it. -/
def batchWorkerCount (parallelism : Option Nat) (requestCount : Nat) : Nat :=
  if requestCount = 0 then 0
  else
    -- Whether the product saturates makes no difference below the bound.
    let cap := max 1 (min (parallelism.getD 1 * 4) maxBatchWorkers)
    min requestCount cap

def batchWorkerPanicError : RepeError := .io ⟨.other, "batch worker panicked"⟩

def batchWorkerMissingResultError : RepeError := .io ⟨.other, "batch worker missing result"⟩

inductive Worker (T R : Type) where
  | idle
  | holding (index : Nat) (path : String) (body : T)
  /-- In `call_typed_json_with_optional_timeout`. -/
  | calling (index : Nat)
  | returned (index : Nat) (result : Except RepeError R)
  | ended
  | panicked

namespace Worker

def index? : Worker T R → Option Nat
  | .holding index _ _ | .calling index | .returned index _ => some index
  | .idle | .ended | .panicked => none

def isDone : Worker T R → Bool
  | .ended | .panicked => true
  | _ => false

def isPanicked : Worker T R → Bool
  | .panicked => true
  | _ => false

end Worker

structure State (T R : Type) where
  workQueue : Mutex (List (Nat × String × T))
  results : Mutex (List (Option (Except RepeError R)))
  workers : Nat → Worker T R
  workerCount : Nat
  issued : List (Nat × String × T)
  /-- What calls returned, in order, with the requests they were issued for. -/
  outcomes : List (Nat × Except RepeError R)

inductive Event (R : Type) where
  | pop (worker : Nat)
  | issue (worker : Nat)
  | finish (worker : Nat) (result : Except RepeError R)
  | store (worker : Nat)
  | panic (worker : Nat)

def numbered (requests : List (String × T)) : List (Nat × String × T) :=
  requests.mapIdx fun index (path, body) => (index, path, body)

namespace State

def start (parallelism : Option Nat) (requests : List (String × T)) : State T R where
  workQueue := .new (numbered requests)
  results := .new (List.replicate requests.length none)
  workers _ := .idle
  workerCount := batchWorkerCount parallelism requests.length
  issued := []
  outcomes := []

def become (state : State T R) (worker : Nat) (phase : Worker T R) : State T R :=
  { state with workers := Function.update state.workers worker phase }

/-- `queue.pop_front()`, on a lock that is taken even if it is poisoned. -/
def popFront (state : State T R) (worker : Nat) : State T R :=
  match state.workQueue.value with
  | [] => state.become worker .ended
  | (index, path, body) :: rest =>
    { state with workQueue := { state.workQueue with value := rest } }.become worker
      (.holding index path body)

/-- `out[index] = Some(result)`, on a lock that is taken even if it is poisoned. -/
def storeResult (state : State T R) (worker index : Nat) (result : Except RepeError R) : State T R :=
  if index < state.results.value.length then
    { state with results :=
        { state.results with value := state.results.value.set index (some result) } }.become worker
      .idle
  -- An index out of range panics under the lock.
  else { state with results := { state.results with poisoned := true } }.become worker .panicked

def stepWorker (state : State T R) : Event R → Option (State T R)
  | .pop worker =>
    match state.workers worker with
    | .idle => some (state.popFront worker)
    | _ => none
  | .issue worker =>
    match state.workers worker with
    | .holding index path body =>
      some ({ state with issued := state.issued ++ [(index, path, body)] }.become worker
        (.calling index))
    | _ => none
  | .finish worker result =>
    match state.workers worker with
    | .calling index =>
      some ({ state with outcomes := state.outcomes ++ [(index, result)] }.become worker
        (.returned index result))
    | _ => none
  | .store worker =>
    match state.workers worker with
    | .returned index result => some (state.storeResult worker index result)
    | _ => none
  | .panic worker =>
    match state.workers worker with
    | .ended | .panicked => none
    -- The guard of the results may be held by now.
    | .returned _ _ =>
      some ({ state with results := { state.results with poisoned := true } }.become worker .panicked)
    -- A call can panic, and so can dropping the body of the request before.
    | _ => some (state.become worker .panicked)

end State

def Event.worker : Event R → Nat
  | .pop worker | .issue worker | .finish worker _ | .store worker | .panic worker => worker

namespace State

def step (state : State T R) (event : Event R) : Option (State T R) :=
  if event.worker < state.workerCount then state.stepWorker event else none

def finished (state : State T R) : Bool :=
  (List.range state.workerCount).all fun worker => (state.workers worker).isDone

def panicked (state : State T R) : Bool :=
  (List.range state.workerCount).any fun worker => (state.workers worker).isPanicked

/-- `batch_json_inner`, once all threads are joined. -/
def batchJsonInner (requests : List (String × T)) (state : State T R) :
    Option (List (Except RepeError R)) :=
  -- Nothing is spawned for an empty list.
  if requests.isEmpty then some []
  else if state.finished then
    some (state.results.value.map fun entry => match entry with
      | some result => result
      | none =>
        if state.panicked then .error batchWorkerPanicError
        else .error batchWorkerMissingResultError)
  else none

end State

end Repe.Batch
