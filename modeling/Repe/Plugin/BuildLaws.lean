import Repe.Plugin.Build

/-! How often a plugin's constructor runs, and who gets the router it makes. -/

namespace Repe

namespace BuildState

variable {R : Type}

inductive Moves (state : BuildState R) : BuildEvent R → BuildState R → Prop
  | shutDown : Moves state .shutdown { state with shutdown := true }
  | turnedAway {thread : Nat} {op : PluginOp} (idle : state.phase thread = .idle)
      (shut : state.shutdown = true) :
      Moves state (.start thread op) (state.returned thread ⟨op, state.log.length⟩ .turnedAway)
  | started {thread : Nat} {op : PluginOp} (idle : state.phase thread = .idle) :
      Moves state (.start thread op) (state.moved thread (.looking ⟨op, state.log.length⟩))
  /-- Three times a thread looks into the cell, and each time a router is what it gets. -/
  | found {thread : Nat} {begun : Begun} {router : R}
      (at_ : state.phase thread = .looking begun ∨ state.phase thread = .entering begun ∨
        state.phase thread = .unwound begun)
      (filled : state.cell = .filled router) :
      Moves state (.advance thread) (state.returned thread begun (.router router false))
  | missed {thread : Nat} {begun : Begun} (looking : state.phase thread = .looking begun)
      (unfilled : state.cell.get = none) :
      Moves state (.advance thread) (state.moved thread (.checking begun))
  | stopped {thread : Nat} {begun : Begun} (checking : state.phase thread = .checking begun)
      (latched : state.buildFailed = true) :
      Moves state (.advance thread) (state.returned thread begun .failed)
  | passed {thread : Nat} {begun : Begun} (checking : state.phase thread = .checking begun)
      (unlatched : state.buildFailed = false) :
      Moves state (.advance thread) (state.moved thread (.entering begun))
  | entered {thread : Nat} {begun : Begun} (entering : state.phase thread = .entering begun)
      (empty : state.cell = .empty) :
      Moves state (.advance thread) ({ state with
        cell := .initializing thread, runs := state.runs + 1 }.moved thread (.building begun))
  | turned {thread : Nat} {begun : Begun} (unwound : state.phase thread = .unwound begun)
      (unfilled : state.cell.get = none) :
      Moves state (.advance thread) (state.moved thread (.latching begun))
  | latched {thread : Nat} {begun : Begun} (latching : state.phase thread = .latching begun) :
      Moves state (.advance thread)
        ({ state with buildFailed := true }.returned thread begun .failed)
  | built {thread : Nat} {begun : Begun} {router : R}
      (building : state.phase thread = .building begun) :
      Moves state (.finish thread (some router))
        ({ state with cell := .filled router }.returned thread begun (.router router true))
  | unwound {thread : Nat} {begun : Begun} (building : state.phase thread = .building begun) :
      Moves state (.finish thread none)
        ({ state with cell := .empty }.moved thread (.unwound begun))

theorem filled_of_get {cell : OnceLock R} {router : R} (got : cell.get = some router) :
    cell = .filled router := by
  -- A cell gives out a value only once it is filled.
  cases cell with
  | empty => cases got
  | initializing thread => cases got
  | filled value =>
    cases got
    rfl

/-- Every step is one of these. -/
theorem moves_of_step {state after : BuildState R} {event : BuildEvent R}
    (taken : state.step event = some after) : Moves state event after := by
  -- The places of a thread are split in the order it goes through them.
  cases event with
  | shutdown =>
    cases taken
    exact .shutDown
  | start thread op =>
    simp only [step] at taken
    split at taken
    · rename_i idle
      split at taken
      · rename_i shut
        cases taken
        exact .turnedAway idle shut
      · cases taken
        exact .started idle
    · cases taken
  | finish thread result =>
    simp only [step] at taken
    split at taken
    · rename_i begun building
      cases result with
      | some router =>
        cases taken
        exact .built building
      | none =>
        cases taken
        exact .unwound building
    · cases taken
  | advance thread =>
    simp only [step, advance] at taken
    split at taken
    · cases taken
    · cases taken
    · rename_i begun looking
      split at taken
      · rename_i router got
        cases taken
        exact .found (.inl looking) (filled_of_get got)
      · rename_i unfilled
        cases taken
        exact .missed looking unfilled
    · rename_i begun checking
      split at taken
      · rename_i latched
        cases taken
        exact .stopped checking latched
      · rename_i unlatched
        cases taken
        exact .passed checking (Bool.eq_false_of_not_eq_true unlatched)
    · rename_i begun entering
      split at taken
      · rename_i router filled
        cases taken
        exact .found (.inr (.inl entering)) filled
      · rename_i empty
        cases taken
        exact .entered entering empty
      · cases taken
    · rename_i begun unwound
      split at taken
      · rename_i router got
        cases taken
        exact .found (.inr (.inr unwound)) (filled_of_get got)
      · rename_i unfilled
        cases taken
        exact .turned unwound unfilled
    · rename_i begun latching
      cases taken
      exact .latched latching

section Fields

variable (state : BuildState R) (thread : Nat) (phase : BuildPhase) (begun : Begun) (got : Got R)
  (other : Nat)

@[simp, grind =] theorem moved_phase : (state.moved thread phase).phase other
    = if other = thread then phase else state.phase other := Function.update_apply ..

@[simp, grind =] theorem moved_cell : (state.moved thread phase).cell = state.cell := rfl

@[simp, grind =] theorem moved_log : (state.moved thread phase).log = state.log := rfl

@[simp, grind =] theorem moved_runs : (state.moved thread phase).runs = state.runs := rfl

@[simp, grind =] theorem moved_buildFailed :
    (state.moved thread phase).buildFailed = state.buildFailed := rfl

@[simp, grind =] theorem moved_shutdown :
    (state.moved thread phase).shutdown = state.shutdown := rfl

@[simp, grind =] theorem returned_phase : (state.returned thread begun got).phase other
    = if other = thread then .idle else state.phase other := Function.update_apply ..

@[simp, grind =] theorem returned_cell : (state.returned thread begun got).cell = state.cell := rfl

@[simp, grind =] theorem returned_log :
    (state.returned thread begun got).log = state.log ++ [⟨begun, got⟩] := rfl

@[simp, grind =] theorem returned_runs : (state.returned thread begun got).runs = state.runs := rfl

@[simp, grind =] theorem returned_buildFailed :
    (state.returned thread begun got).buildFailed = state.buildFailed := rfl

@[simp, grind =] theorem returned_shutdown :
    (state.returned thread begun got).shutdown = state.shutdown := rfl

end Fields

end BuildState

def BuildPhase.begun : BuildPhase → Option Begun
  | .idle => none
  | .looking begun | .checking begun | .entering begun | .building begun | .unwound begun
  | .latching begun => some begun

def BuildPhase.looked : BuildPhase → Bool
  | .idle | .looking _ => false
  | .checking _ | .entering _ | .building _ | .unwound _ | .latching _ => true

def BuildPhase.passed : BuildPhase → Bool
  | .idle | .looking _ | .checking _ => false
  | .entering _ | .building _ | .unwound _ | .latching _ => true

/-- The constructor of a thread has unwound, and the latch is not set yet. -/
def BuildPhase.unlatched : BuildPhase → Bool
  | .unwound _ | .latching _ => true
  | .idle | .looking _ | .checking _ | .entering _ | .building _ => false

def OpOutcome.builtHere {R : Type} (outcome : OpOutcome R) : Bool :=
  match outcome.got with
  | .router _ here => here
  | .turnedAway | .failed => false

namespace BuildState

variable {R : Type} {state after : BuildState R} {event : BuildEvent R}

def Held (state : BuildState R) : Prop :=
  ∀ thread begun, state.phase thread = .building begun → state.cell = .initializing thread

theorem Held.moves (held : state.Held) (moves : Moves state event after) : after.Held := by
  intro thread begun building
  have holder := held thread
  cases moves with
  -- Only its holder gives the cell away, and that leaves the constructor.
  | built holds =>
    have := held _ _ holds
    grind
  | unwound holds =>
    have := held _ _ holds
    grind
  | _ => grind

def Agrees (state : BuildState R) : Prop :=
  ∀ outcome ∈ state.log, ∀ router here, outcome.got = .router router here →
    state.cell = .filled router

theorem Agrees.moves (agrees : state.Agrees) (held : state.Held)
    (moves : Moves state event after) : after.Agrees := by
  intro outcome listed router here got
  have before := agrees outcome
  cases moves with
  -- While somebody is in the constructor nobody has got a router yet.
  | built holds =>
    have := held _ _ holds
    grind
  | unwound holds =>
    have := held _ _ holds
    grind
  | _ => grind

theorem Agrees.none_built (agrees : state.Agrees) (unfilled : ∀ router, state.cell ≠ .filled router) :
    state.log.filter OpOutcome.builtHere = [] := by
  rw [List.filter_eq_nil_iff]
  intro outcome listed here
  -- Whoever got a router got the one in the cell, and there is none.
  cases got : outcome.got with
  | router router here => exact unfilled router (agrees outcome listed router here got)
  | turnedAway => simp [OpOutcome.builtHere, got] at here
  | failed => simp [OpOutcome.builtHere, got] at here

def BuiltOnce (state : BuildState R) : Prop :=
  (state.log.filter OpOutcome.builtHere).length ≤ 1

theorem BuiltOnce.moves (once : state.BuiltOnce) (agrees : state.Agrees) (held : state.Held)
    (moves : Moves state event after) : after.BuiltOnce := by
  unfold BuiltOnce at once ⊢
  cases moves with
  | built holds =>
    -- The builder holds the cell, so nobody has got a router before.
    have busy := held _ _ holds
    have none := agrees.none_built (fun router => by simp [busy])
    rw [returned_log, List.filter_append, none, List.nil_append]
    exact List.length_filter_le _ _
  | _ => simpa [List.filter_append, OpOutcome.builtHere] using once

/-- Somebody had got a router when so many operations had returned. -/
def Observed (state : BuildState R) (since : Nat) (router : R) : Prop :=
  ∃ outcome ∈ state.log.take since, ∃ here, outcome.got = .router router here

theorem Agrees.observed (agrees : state.Agrees) {since : Nat} {router : R}
    (observed : state.Observed since router) : state.cell = .filled router := by
  obtain ⟨outcome, listed, here, got⟩ := observed
  exact agrees outcome (List.mem_of_mem_take listed) router here got

/--
An operation that started when a router had been observed gets it, unless the plugin was shut down.
-/
structure Recorded (state : BuildState R) : Prop where
  begun : ∀ thread begun, (state.phase thread).begun = some begun → begun.since ≤ state.log.length
  /-- Whoever has looked into the cell and found no router started before one was observed. -/
  early : ∀ thread begun, (state.phase thread).begun = some begun → (state.phase thread).looked →
    ∀ router, ¬ state.Observed begun.since router
  ended : ∀ outcome ∈ state.log, outcome.begun.since ≤ state.log.length
  served : ∀ outcome ∈ state.log, ∀ router, state.Observed outcome.begun.since router →
    outcome.got = .router router false ∨ (outcome.got = .turnedAway ∧ state.shutdown = true)

theorem observed_append {outcome : OpOutcome R} {since : Nat} {router : R}
    (grown : after.log = state.log ++ [outcome]) (started : since ≤ state.log.length) :
    after.Observed since router ↔ state.Observed since router := by
  unfold Observed
  rw [grown, List.take_append_of_le_length started]

section Records

-- What a step changes beside the thread and the log does not concern the record.
variable {base : BuildState R} {thread : Nat}

/-- A thread that goes on keeps the record. -/
theorem Recorded.moved (recorded : state.Recorded) (log : base.log = state.log)
    (shut : base.shutdown = state.shutdown) (phases : base.phase = state.phase) {phase : BuildPhase}
    {begun : Begun} (at_ : phase.begun = some begun) (since : begun.since ≤ state.log.length)
    (early : phase.looked → ∀ router, ¬ state.Observed begun.since router) :
    (base.moved thread phase).Recorded := by
  have same : ∀ since router, (base.moved thread phase).Observed since router ↔
      state.Observed since router := by
    intro since router
    unfold Observed
    rw [moved_log, log]
  -- The thread itself, and every other one.
  refine ⟨?_, ?_, by rw [moved_log, log]; exact recorded.ended, ?_⟩
  · intro other started
    rw [moved_phase, moved_log, log, phases]
    split
    · rw [at_]
      rintro ⟨⟩
      exact since
    · exact recorded.begun other started
  · intro other started
    rw [moved_phase, phases]
    simp only [same]
    split
    · rw [at_]
      rintro ⟨⟩
      exact early
    · exact recorded.early other started
  · rw [moved_log, moved_shutdown, log, shut]
    simp only [same]
    exact recorded.served

/-- An operation that returns what it should keeps the record. -/
theorem Recorded.returned (recorded : state.Recorded) (log : base.log = state.log)
    (shut : base.shutdown = state.shutdown) (phases : base.phase = state.phase) {begun : Begun}
    {got : Got R} (since : begun.since ≤ state.log.length)
    (served : ∀ router, state.Observed begun.since router →
      got = .router router false ∨ (got = .turnedAway ∧ state.shutdown = true)) :
    (base.returned thread begun got).Recorded := by
  have grown : (base.returned thread begun got).log = state.log ++ [⟨begun, got⟩] := by
    rw [returned_log, log]
  have length : state.log.length ≤ (base.returned thread begun got).log.length := by
    rw [grown, List.length_append]
    exact Nat.le_add_right _ _
  -- The thread is idle again, and its outcome is the last one in the log.
  refine ⟨?_, ?_, ?_, ?_⟩
  · intro other started
    rw [returned_phase, phases]
    split
    · rintro ⟨⟩
    · intro at_
      exact Nat.le_trans (recorded.begun other started at_) length
  · intro other started
    rw [returned_phase, phases]
    split
    · rintro ⟨⟩
    · intro at_ looked router
      rw [observed_append grown (recorded.begun other started at_)]
      exact recorded.early other started at_ looked router
  · intro outcome listed
    rw [grown, List.mem_append, List.mem_singleton] at listed
    rcases listed with old | rfl
    · exact Nat.le_trans (recorded.ended outcome old) length
    · exact Nat.le_trans since length
  · intro outcome listed router
    rw [grown, List.mem_append, List.mem_singleton] at listed
    rw [returned_shutdown, shut]
    rcases listed with old | rfl
    · rw [observed_append grown (recorded.ended outcome old)]
      exact recorded.served outcome old router
    · rw [observed_append grown since]
      exact served router

end Records

/-- A step keeps the record. -/
theorem Recorded.moves (recorded : state.Recorded) (agrees : state.Agrees)
    (moves : Moves state event after) : after.Recorded := by
  -- A cell without a router has not been observed with one.
  have unseen : state.cell.get = none → ∀ since router, ¬ state.Observed since router := by
    intro unfilled since router observed
    rw [agrees.observed observed] at unfilled
    cases unfilled
  have since : ∀ {thread phase begun}, state.phase thread = phase → phase.begun = some begun →
      begun.since ≤ state.log.length := by
    intro thread phase begun at_
    subst at_
    exact recorded.begun thread begun
  have early : ∀ {thread phase begun}, state.phase thread = phase → phase.begun = some begun →
      phase.looked → ∀ router, ¬ state.Observed begun.since router := by
    intro thread phase begun at_
    subst at_
    exact recorded.early thread begun
  cases moves with
  | shutDown =>
    refine ⟨recorded.begun, recorded.early, recorded.ended, ?_⟩
    intro outcome listed router observed
    rcases recorded.served outcome listed router observed with same | ⟨away, _⟩
    · exact .inl same
    · exact .inr ⟨away, rfl⟩
  | turnedAway idle shut =>
    exact recorded.returned (by rfl) (by rfl) (by rfl) (Nat.le_refl _) fun _ _ => .inr ⟨rfl, shut⟩
  | started idle =>
    exact recorded.moved (by rfl) (by rfl) (by rfl) (by rfl) (Nat.le_refl _)
      fun looked => Bool.noConfusion looked
  | @found thread begun router at_ filled =>
    have since : begun.since ≤ state.log.length := by
      rcases at_ with at_ | at_ | at_ <;> exact since at_ rfl
    refine recorded.returned (by rfl) (by rfl) (by rfl) since fun other observed => ?_
    -- What was observed is what is found.
    have same := agrees.observed observed
    rw [filled] at same
    cases same
    exact .inl rfl
  | missed looking unfilled =>
    exact recorded.moved (by rfl) (by rfl) (by rfl) (by rfl) (since looking rfl)
      fun _ => unseen unfilled _
  | stopped checking latched =>
    exact recorded.returned (by rfl) (by rfl) (by rfl) (since checking rfl)
      fun router observed => absurd observed (early checking rfl rfl router)
  | passed checking unlatched =>
    exact recorded.moved (by rfl) (by rfl) (by rfl) (by rfl) (since checking rfl)
      fun _ => early checking rfl rfl
  | entered entering empty =>
    exact recorded.moved (by rfl) (by rfl) (by rfl) (by rfl) (since entering rfl)
      fun _ => early entering rfl rfl
  | turned unwound unfilled =>
    exact recorded.moved (by rfl) (by rfl) (by rfl) (by rfl) (since unwound rfl)
      fun _ => early unwound rfl rfl
  | latched latching =>
    exact recorded.returned (by rfl) (by rfl) (by rfl) (since latching rfl)
      fun router observed => absurd observed (early latching rfl rfl router)
  | built building =>
    exact recorded.returned (by rfl) (by rfl) (by rfl) (since building rfl)
      fun router observed => absurd observed (early building rfl rfl router)
  | unwound building =>
    exact recorded.moved (by rfl) (by rfl) (by rfl) (by rfl) (since building rfl)
      fun _ => early building rfl rfl

/--
The constructor ran once at most; and once it has unwound, nobody is about to enter it, and the
latch is set or about to be.
-/
structure RanOnce (state : BuildState R) : Prop where
  runs : state.runs ≤ 1
  spent : state.runs = 1 → state.cell = .empty →
    (∀ thread begun, state.phase thread ≠ .entering begun) ∧
      (state.buildFailed = true ∨ ∃ thread, (state.phase thread).unlatched)

/--
Nobody is past the latch when another thread's constructor unwinds, and nobody passes the latch
before it is set.
-/
def LatchHolds (state : BuildState R) : BuildEvent R → Prop
  | .finish thread none => ∀ other, other ≠ thread → ¬ (state.phase other).passed
  | .advance thread => ∀ begun, state.phase thread = .checking begun →
      ∀ other, ¬ (state.phase other).unlatched
  | .start _ _ | .shutdown | .finish _ (some _) => True

theorem nobody_enters (nobody : ∀ thread begun, state.phase thread ≠ .entering begun) {thread : Nat}
    {next : BuildPhase} (leaves : ∀ begun, next ≠ .entering begun) (other : Nat) (begun : Begun) :
    Function.update state.phase thread next other ≠ .entering begun := by
  rw [Function.update_apply]
  -- The thread that moves is not entering afterwards.
  split
  · exact leaves begun
  · exact nobody other begun

/-- A thread that is not about to set the latch goes on, but not to the constructor. -/
theorem RanOnce.quiet (once : state.RanOnce) {thread : Nat} {phase next : BuildPhase}
    (at_ : state.phase thread = phase) (before : phase.unlatched = false)
    (phases : after.phase = Function.update state.phase thread next)
    (leaves : ∀ begun, next ≠ .entering begun) (runs : after.runs = state.runs)
    (cell : after.cell = state.cell) (failed : after.buildFailed = state.buildFailed) :
    after.RanOnce := by
  obtain ⟨most, spent⟩ := once
  rw [← runs] at most spent
  rw [← cell, ← failed] at spent
  refine ⟨most, fun ran empty => ?_⟩
  obtain ⟨nobody, latch⟩ := spent ran empty
  constructor
  · rw [phases]
    exact nobody_enters nobody leaves
  · -- Whoever is about to set the latch still is.
    refine latch.imp_right fun ⟨other, about⟩ => ⟨other, ?_⟩
    have apart : other ≠ thread := by
      rintro rfl
      rw [at_, before] at about
      cases about
    rwa [phases, Function.update_of_ne apart]

theorem RanOnce.moved (once : state.RanOnce) {thread : Nat} {phase next : BuildPhase}
    (at_ : state.phase thread = phase) (before : phase.unlatched = false)
    (leaves : ∀ begun, next ≠ .entering begun) : (state.moved thread next).RanOnce :=
  once.quiet at_ before rfl leaves rfl rfl rfl

theorem RanOnce.returned (once : state.RanOnce) {thread : Nat} {phase : BuildPhase} {begun : Begun}
    {got : Got R} (at_ : state.phase thread = phase) (before : phase.unlatched = false) :
    (state.returned thread begun got).RanOnce :=
  once.quiet at_ before rfl (fun _ => BuildPhase.noConfusion) rfl rfl rfl

/-- A step that meets the condition does not run the constructor again. -/
theorem RanOnce.moves (once : state.RanOnce) (latch : LatchHolds state event)
    (moves : Moves state event after) : after.RanOnce := by
  have runs := once.runs
  have spent := once.spent
  cases moves with
  | entered entering empty =>
    -- If it had run before, nobody would be about to enter it.
    refine ⟨?_, fun _ cell => ?_⟩
    · have fresh : state.runs ≠ 1 := fun ran => (spent ran empty).1 _ _ entering
      simp only [moved_runs]
      omega
    · cases cell
  | passed checking unlatched =>
    refine ⟨runs, fun ran cell => ?_⟩
    -- The latch is not set, so somebody would have to be about to.
    rcases (spent ran cell).2 with set | ⟨other, about⟩
    · rw [unlatched] at set
      cases set
    · exact absurd about (latch _ checking other)
  | @unwound thread begun building =>
    -- This thread is about to set the latch, and no other is past it.
    refine ⟨runs, fun _ _ => ⟨?_, .inr ⟨thread, by simp [BuildPhase.unlatched]⟩⟩⟩
    intro other started
    rw [moved_phase]
    split
    · exact BuildPhase.noConfusion
    · rename_i apart
      intro entering
      exact latch other apart (by rw [entering]; rfl)
  | built building =>
    refine ⟨runs, fun _ cell => ?_⟩
    cases cell
  | shutDown => exact ⟨runs, spent⟩
  | turnedAway idle shut => exact once.returned idle rfl
  | started idle => exact once.moved idle rfl fun _ => BuildPhase.noConfusion
  | missed looking unfilled => exact once.moved looking rfl fun _ => BuildPhase.noConfusion
  | stopped checking latched => exact once.returned checking rfl
  | found at_ filled =>
    refine ⟨runs, fun _ cell => ?_⟩
    rw [returned_cell, filled] at cell
    cases cell
  | @turned thread begun unwound unfilled =>
    refine ⟨runs, fun ran cell => ⟨?_, .inr ⟨thread, by simp [BuildPhase.unlatched]⟩⟩⟩
    exact nobody_enters (spent ran cell).1 fun _ => BuildPhase.noConfusion
  | latched latching =>
    refine ⟨runs, fun ran cell => ⟨?_, .inl rfl⟩⟩
    exact nobody_enters (spent ran cell).1 fun _ => BuildPhase.noConfusion

structure Consistent (state : BuildState R) : Prop where
  held : state.Held
  agrees : state.Agrees
  builtOnce : state.BuiltOnce
  recorded : state.Recorded

theorem Consistent.step (consistent : state.Consistent) (taken : state.step event = some after) :
    after.Consistent := by
  -- Each part is kept by what a step can do, in this order.
  have moves := moves_of_step taken
  exact ⟨consistent.held.moves moves, consistent.agrees.moves consistent.held moves,
    consistent.builtOnce.moves consistent.agrees consistent.held moves,
    consistent.recorded.moves consistent.agrees moves⟩

theorem consistent_new : (new : BuildState R).Consistent where
  held := by simp [Held, new]
  agrees := by simp [Agrees, new]
  builtOnce := by simp [BuiltOnce, new]
  recorded := ⟨by simp [new, BuildPhase.begun], by simp [new, BuildPhase.begun], by simp [new],
    by simp [new]⟩

theorem consistent_of_run {events : List (BuildEvent R)}
    (ran : Transition.run step new events = some after) : after.Consistent :=
  Transition.invariant_of_run Consistent (fun _ _ _ => Consistent.step) consistent_new ran

/--
In every run one `init` at most reports `Ok`, and an operation that starts when somebody has observed a
router is served by that router unless the plugin was shut down.
The constructor runs once at most in every run in which nobody is past the latch when another thread's
constructor unwinds, and nobody passes the latch between such an unwind and the latch it sets.
-/
theorem plugin_is_built_once {events : List (BuildEvent R)}
    (ran : Transition.run step new events = some after) :
    (after.log.filter fun outcome => outcome.begun.op = .init ∧ outcome.got.initResult = .ok).length
        ≤ 1 ∧
      (∀ outcome ∈ after.log, ∀ router, after.Observed outcome.begun.since router →
        outcome.got = .router router false ∨
          (outcome.got = .turnedAway ∧ after.shutdown = true)) ∧
      (Transition.Meets step LatchHolds new events → after.runs ≤ 1) := by
  have consistent := consistent_of_run ran
  refine ⟨?_, consistent.recorded.served, ?_⟩
  · -- Whoever reports `Ok` built the router itself.
    refine Nat.le_trans (List.Sublist.length_le ?_) consistent.builtOnce
    refine List.monotone_filter_right _ fun outcome ok => ?_
    have ok : outcome.got.initResult = .ok := (decide_eq_true_eq.mp ok).2
    cases got : outcome.got with
    | turnedAway => rw [got] at ok; cases ok
    | failed => rw [got] at ok; cases ok
    | router router here =>
      rw [got] at ok
      cases here with
      | false => cases ok
      | true => simp [OpOutcome.builtHere, got]
  · intro meets
    have once : after.RanOnce := by
      refine Transition.invariant_of_meets RanOnce ?_ ⟨Nat.zero_le _, by simp [new]⟩ meets ran
      intro state event after once latch taken
      exact once.moves latch (moves_of_step taken)
    exact once.runs

/-- Two threads that are both past the latch when the first one's constructor unwinds. -/
def racingCalls : List (BuildEvent Unit) :=
  [.start 0 .call, .start 1 .call, .advance 0, .advance 1, .advance 0, .advance 1, .advance 0,
    .finish 0 none, .advance 1]

/-- The second of two racing calls enters the constructor after the first one's has unwound. -/
theorem constructor_runs_twice :
    (Transition.run step new racingCalls).map (·.runs) = some 2 := by decide

/-- A constructor that unwinds with nobody else about, and a call after that. -/
def failedInit : List (BuildEvent Unit) :=
  [.start 0 .init, .advance 0, .advance 0, .advance 0, .finish 0 none, .advance 0, .advance 0,
    .start 1 .call, .advance 1, .advance 1]

/-- A latched failure keeps the next call away from the constructor. -/
theorem failed_init_latches :
    ∃ after : BuildState Unit, Transition.run step new failedInit = some after ∧
      after.runs ≤ 1 ∧ after.log.map (·.got) = [.failed, .failed] := by
  have outcome : (Transition.run step new failedInit).map (·.log.map (·.got))
      = some [.failed, .failed] := by decide
  obtain ⟨after, ran, log⟩ := Option.map_eq_some_iff.mp outcome
  refine ⟨after, ran, (plugin_is_built_once ran).2.2 ?_, log⟩
  -- One thread at a time is past the latch, and none when the other passes it.
  have checks : ∀ (thread : Nat) (begun : Begun) (other : Nat),
      (Function.update (fun _ => BuildPhase.idle) thread (.checking begun) other).unlatched
        = false := by
    intro thread begun other
    rw [Function.update_apply]
    split <;> rfl
  have alone : ∀ (begun : Begun) (other : Nat), ¬ other = 0 →
      (Function.update (fun _ => BuildPhase.idle) 0 (.building begun) other).passed = false := by
    intro begun other apart
    rw [Function.update_of_ne apart]
    rfl
  simpa [failedInit, Transition.Meets, step, advance, LatchHolds, new, moved, returned, OnceLock.get,
    checks] using alone ⟨.init, 0⟩

section Alone

variable {C : Type}

def ofRuntime (runtime : PluginRuntime C) : BuildState (Router Unwinding C) where
  cell := match runtime.router with
    | some router => .filled router
    | none => .empty
  buildFailed := runtime.buildFailed
  shutdown := runtime.shutdown
  phase _ := .idle
  runs := 0
  log := []

/-- What the result of `get_or_build` is to an operation. -/
def gotOf : Option (R × Bool) → Got R
  | some (router, here) => .router router here
  | none => .failed

/--
An operation that no other thread interferes with gets what the sequential `get_or_build` returns,
and leaves the runtime as that does.
-/
theorem getOrBuild_alone (runtime : PluginRuntime C) (serving : runtime.shutdown = false)
    (op : PluginOp) :
    ∃ events after, Transition.run step (ofRuntime runtime) (.start 0 op :: events) = some after ∧
      after.log = [⟨⟨op, 0⟩, gotOf runtime.getOrBuild.1⟩] ∧
      after.cell = (ofRuntime runtime.getOrBuild.2).cell ∧
      after.buildFailed = runtime.getOrBuild.2.buildFailed := by
  -- The schedule follows the sequential code: find the router, stop at the latch, or build.
  obtain ⟨router, build, shutdown, buildFailed⟩ := runtime
  subst serving
  cases router with
  | some router => exact ⟨[.advance 0], _, rfl, rfl, rfl, rfl⟩
  | none =>
    cases buildFailed with
    | true => exact ⟨[.advance 0, .advance 0], _, rfl, rfl, rfl, rfl⟩
    | false =>
      cases build with
      | ok router =>
        exact ⟨[.advance 0, .advance 0, .advance 0, .finish 0 (some router)], _, rfl, rfl, rfl, rfl⟩
      | err error => cases error
      | panic =>
        exact ⟨[.advance 0, .advance 0, .advance 0, .finish 0 none, .advance 0, .advance 0], _, rfl,
          rfl, rfl, rfl⟩

end Alone

end BuildState

end Repe
