import Repe.Lib.Transition
import Repe.Plugin.Runtime

/-! `PluginRuntime::get_or_build` on any number of threads: the cell the router is built in, the latch of
a failed constructor, and the order in which threads look at them. -/

/-- `OnceLock`: a cell that one initializer at a time works on, and that keeps the first value. -/
inductive OnceLock (V : Type) where
  | empty
  /-- A thread runs its initializer, and all others wait for it. -/
  | initializing (thread : Nat)
  | filled (value : V)
  deriving DecidableEq, Repr

def OnceLock.get {V : Type} : OnceLock V → Option V
  | .filled value => some value
  | .empty | .initializing _ => none

namespace Repe

inductive RepeResult where
  | ok
  | initFailed
  | alreadyInitialized
  deriving DecidableEq, Repr

inductive PluginOp where
  | init
  | call
  deriving DecidableEq, Repr

inductive Got (R : Type) where
  /-- The plugin was shut down when the operation started. -/
  | turnedAway
  | router (router : R) (builtHere : Bool)
  | failed
  deriving DecidableEq, Repr

/-- The result of an `init`. -/
def Got.initResult {R : Type} : Got R → RepeResult
  | .turnedAway => .initFailed
  | .router _ true => .ok
  | .router _ false => .alreadyInitialized
  | .failed => .initFailed

/-- An operation, and how many others had returned when it started. -/
structure Begun where
  op : PluginOp
  since : Nat
  deriving DecidableEq, Repr

structure OpOutcome (R : Type) where
  begun : Begun
  got : Got R
  deriving DecidableEq, Repr

inductive BuildPhase where
  | idle
  | looking (begun : Begun)
  | checking (begun : Begun)
  | entering (begun : Begun)
  | building (begun : Begun)
  /-- Its constructor has unwound, and it is about to look into the cell again. -/
  | unwound (begun : Begun)
  | latching (begun : Begun)
  deriving DecidableEq, Repr

/-- What the threads share, where each of them is, and what has come of their operations. -/
structure BuildState (R : Type) where
  cell : OnceLock R
  buildFailed : Bool
  shutdown : Bool
  phase : Nat → BuildPhase
  /-- How often the constructor was entered. -/
  runs : Nat
  log : List (OpOutcome R)

inductive BuildEvent (R : Type) where
  | start (thread : Nat) (op : PluginOp)
  | shutdown
  | advance (thread : Nat)
  | finish (thread : Nat) (result : Option R)
  deriving DecidableEq, Repr

namespace BuildState

variable {R : Type}

/-- `PluginRuntime::new`. -/
def new : BuildState R := ⟨.empty, false, false, fun _ => .idle, 0, []⟩

def moved (state : BuildState R) (thread : Nat) (phase : BuildPhase) : BuildState R :=
  { state with phase := Function.update state.phase thread phase }

def returned (state : BuildState R) (thread : Nat) (begun : Begun) (got : Got R) : BuildState R :=
  { state with
    phase := Function.update state.phase thread .idle
    log := state.log ++ [⟨begun, got⟩] }

/-- The next access of a thread, unless it waits for another one or for the constructor. -/
def advance (state : BuildState R) (thread : Nat) : Option (BuildState R) :=
  match state.phase thread with
  | .idle | .building _ => none
  | .looking begun =>
    match state.cell.get with
    | some router => some (state.returned thread begun (.router router false))
    | none => some (state.moved thread (.checking begun))
  | .checking begun =>
    if state.buildFailed then some (state.returned thread begun .failed)
    else some (state.moved thread (.entering begun))
  | .entering begun =>
    match state.cell with
    | .filled router => some (state.returned thread begun (.router router false))
    -- An unwound initializer leaves the cell empty, and the next one in line takes over.
    | .empty => some ({ state with cell := .initializing thread, runs := state.runs + 1
        }.moved thread (.building begun))
    | .initializing _ => none
  | .unwound begun =>
    match state.cell.get with
    | some router => some (state.returned thread begun (.router router false))
    | none => some (state.moved thread (.latching begun))
  | .latching begun => some ({ state with buildFailed := true }.returned thread begun .failed)

def step (state : BuildState R) : BuildEvent R → Option (BuildState R)
  | .start thread op =>
    match state.phase thread with
    | .idle =>
      let begun : Begun := ⟨op, state.log.length⟩
      if state.shutdown then some (state.returned thread begun .turnedAway)
      else some (state.moved thread (.looking begun))
    | _ => none
  | .shutdown => some { state with shutdown := true }
  | .advance thread => state.advance thread
  | .finish thread result =>
    match state.phase thread with
    | .building begun =>
      match result with
      | some router =>
        some ({ state with cell := .filled router }.returned thread begun (.router router true))
      | none => some ({ state with cell := .empty }.moved thread (.unwound begun))
    | _ => none

end BuildState

end Repe
