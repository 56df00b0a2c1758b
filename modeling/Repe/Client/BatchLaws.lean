import Mathlib.Algebra.BigOperators.Group.Finset.Basic
import Mathlib.Algebra.Order.BigOperators.Group.Finset
import Repe.Client.Batch

/-! Whatever order the workers run in, a batch returns what each request's own call returned. -/

namespace Repe.Batch

variable {T R : Type} {state after : State T R} {requests : List (String × T)}

section Steps

@[simp] theorem State.become_workers_self (worker : Nat) (phase : Worker T R) :
    (state.become worker phase).workers worker = phase := Function.update_self ..

theorem State.become_workers_of_ne {worker other : Nat} (apart : other ≠ worker)
    (phase : Worker T R) : (state.become worker phase).workers other = state.workers other :=
  Function.update_of_ne apart ..

inductive Steps (state : State T R) (worker : Nat) : State T R → Prop where
  | drained (idle : state.workers worker = .idle) (empty : state.workQueue.value = []) :
    Steps state worker (state.become worker .ended)
  | popped {index : Nat} {path : String} {body : T} {rest : List (Nat × String × T)}
    (idle : state.workers worker = .idle)
    (front : state.workQueue.value = (index, path, body) :: rest) :
    Steps state worker ({ state with workQueue := { state.workQueue with value := rest } }.become
      worker (.holding index path body))
  | issued {index : Nat} {path : String} {body : T}
    (holding : state.workers worker = .holding index path body) :
    Steps state worker ({ state with issued := state.issued ++ [(index, path, body)] }.become worker
      (.calling index))
  | finished {index : Nat} (result : Except RepeError R)
    (calling : state.workers worker = .calling index) :
    Steps state worker ({ state with outcomes := state.outcomes ++ [(index, result)] }.become worker
      (.returned index result))
  | stored {index : Nat} {result : Except RepeError R}
    (returned : state.workers worker = .returned index result)
    (inside : index < state.results.value.length) :
    Steps state worker ({ state with results :=
      { state.results with value := state.results.value.set index (some result) } }.become worker
        .idle)
  /-- A panic leaves what is shared as it was, but for the poison. -/
  | panicked (busy : (state.workers worker).isDone = false) (poisoned : Bool) :
    Steps state worker
      ({ state with results := { state.results with poisoned } }.become worker .panicked)

/-- Every step is one of a worker that was spawned. -/
theorem steps_of_step {event : Event R} (taken : state.step event = some after) :
    event.worker < state.workerCount ∧ Steps state event.worker after := by
  unfold State.step at taken
  split at taken
  · next spawned =>
    refine ⟨spawned, ?_⟩
    -- Each event is enabled in the phases that its step reads, and in no other.
    cases event with
    | pop worker =>
      cases phase : state.workers worker with
      | idle =>
        simp only [State.stepWorker, phase, State.popFront, Option.some.injEq] at taken
        cases front : state.workQueue.value with
        | nil =>
          simp only [front] at taken
          rw [← taken]
          exact .drained phase front
        | cons first rest =>
          simp only [front] at taken
          rw [← taken]
          exact .popped phase front
      | _ => simp [State.stepWorker, phase] at taken
    | issue worker =>
      cases phase : state.workers worker with
      | holding index path body =>
        simp only [State.stepWorker, phase, Option.some.injEq] at taken
        rw [← taken]
        exact .issued phase
      | _ => simp [State.stepWorker, phase] at taken
    | finish worker result =>
      cases phase : state.workers worker with
      | calling index =>
        simp only [State.stepWorker, phase, Option.some.injEq] at taken
        rw [← taken]
        exact .finished result phase
      | _ => simp [State.stepWorker, phase] at taken
    | store worker =>
      cases phase : state.workers worker with
      | returned index result =>
        simp only [State.stepWorker, phase, State.storeResult, Option.some.injEq] at taken
        split at taken
        · -- A result out of range would panic under the lock.
          next inside =>
          rw [← taken]
          exact .stored phase inside
        · rw [← taken]
          exact .panicked (congrArg Worker.isDone phase) true
      | _ => simp [State.stepWorker, phase] at taken
    | panic worker =>
      cases phase : state.workers worker with
      -- Only a worker between its call and its result holds the lock of the results.
      | ended => simp [State.stepWorker, phase] at taken
      | panicked => simp [State.stepWorker, phase] at taken
      | returned index result =>
        simp only [State.stepWorker, phase, Option.some.injEq] at taken
        rw [← taken]
        exact .panicked (congrArg Worker.isDone phase) true
      | idle | holding index path body | calling index =>
        simp only [State.stepWorker, phase, Option.some.injEq] at taken
        rw [← taken]
        exact .panicked (congrArg Worker.isDone phase) state.results.poisoned
  · cases taken

end Steps

section Measure

/-- How many steps a worker still takes at most with what it has in hand. -/
def Worker.weight : Worker T R → Nat
  | .holding _ _ _ => 4
  | .calling _ => 3
  | .returned _ _ => 2
  | .idle => 1
  | .ended | .panicked => 0

def State.measure (state : State T R) : Nat :=
  4 * state.workQueue.value.length
    + ∑ worker ∈ Finset.range state.workerCount, (state.workers worker).weight

/-- Moving one worker on changes its own part of the measure. -/
theorem measure_become (state : State T R) {worker : Nat} (spawned : worker < state.workerCount)
    (phase : Worker T R) :
    (state.become worker phase).measure + (state.workers worker).weight
      = state.measure + phase.weight := by
  have member : worker ∈ Finset.range state.workerCount := Finset.mem_range.mpr spawned
  -- The others add up to the same.
  have others : ∑ other ∈ (Finset.range state.workerCount).erase worker,
      (Function.update state.workers worker phase other).weight =
        ∑ other ∈ (Finset.range state.workerCount).erase worker, (state.workers other).weight := by
    refine Finset.sum_congr rfl fun other apart => ?_
    rw [Function.update_of_ne (Finset.ne_of_mem_erase apart)]
  have before := Finset.add_sum_erase _ (fun other => (state.workers other).weight) member
  have later := Finset.add_sum_erase _
    (fun other => (Function.update state.workers worker phase other).weight) member
  rw [others, Function.update_self] at later
  simp only [State.measure, State.become]
  omega

theorem measure_become_lt {base : State T R} {worker : Nat} {phase earlier : Worker T R}
    (spawned : worker < base.workerCount) (before : base.workers worker = earlier)
    (lighter : base.measure + phase.weight < state.measure + earlier.weight) :
    (base.become worker phase).measure < state.measure := by
  -- Only the weight of the worker that moves changes.
  have moved := measure_become base spawned phase
  rw [before] at moved
  omega

/-- Every step uses up some of the measure. -/
theorem measure_step {event : Event R} (taken : state.step event = some after) :
    after.measure < state.measure := by
  obtain ⟨spawned, steps⟩ := steps_of_step taken
  cases steps with
  | drained idle empty => exact measure_become_lt spawned idle (Nat.lt_succ_self _)
  | popped idle front =>
    refine measure_become_lt spawned idle ?_
    -- A request off the queue counts for less than one in it.
    simp only [State.measure, Worker.weight, front, List.length_cons]
    omega
  | issued holding => exact measure_become_lt spawned holding (Nat.lt_succ_self _)
  | finished result calling => exact measure_become_lt spawned calling (Nat.lt_succ_self _)
  | stored returned inside => exact measure_become_lt spawned returned (Nat.lt_succ_self _)
  | panicked busy poisoned =>
    refine measure_become_lt spawned rfl ?_
    have heavy : 0 < (state.workers event.worker).weight := by
      cases phase : state.workers event.worker <;>
        simp [phase, Worker.weight, Worker.isDone] at busy ⊢
    show state.measure + 0 < state.measure + (state.workers event.worker).weight
    omega

end Measure

section Invariant

/-- What a worker has in hand fits what was taken off the queue, and what was called for. -/
def Worker.Fits (requests : List (String × T)) (taken : Nat) (state : State T R) :
    Worker T R → Prop
  | .idle | .panicked => True
  -- A worker ends because there is nothing left.
  | .ended => state.workQueue.value = []
  | .holding index path body =>
    index < taken ∧ requests[index]? = some (path, body) ∧ index ∉ state.issued.map Prod.fst
  | .calling index =>
    index < taken ∧ index ∈ state.issued.map Prod.fst ∧ index ∉ state.outcomes.map Prod.fst
  | .returned index result => index < taken ∧ (index, result) ∈ state.outcomes

/-- A request is in the hands of a worker, or has its result, or may have been lost in a panic. -/
def Covered (state : State T R) (index : Nat) : Prop :=
  (∃ worker < state.workerCount, (state.workers worker).index? = some index) ∨
  (∃ result, state.results.value[index]? = some (some result)) ∨
  ∃ worker < state.workerCount, (state.workers worker).isPanicked = true

/-- What holds in every state, when so many requests were taken off the queue. -/
structure Sound (requests : List (String × T)) (taken : Nat) (state : State T R) : Prop where
  queue : state.workQueue.value = (numbered requests).drop taken
  within : taken ≤ requests.length
  length : state.results.value.length = requests.length
  fits : ∀ worker, (state.workers worker).Fits requests taken state
  apart : ∀ worker other index, (state.workers worker).index? = some index →
    (state.workers other).index? = some index → worker = other
  issued : ∀ entry ∈ state.issued, entry.1 < taken ∧ requests[entry.1]? = some entry.2
  once : (state.issued.map Prod.fst).Nodup
  answered : ∀ entry ∈ state.outcomes, entry.1 ∈ state.issued.map Prod.fst
  single : (state.outcomes.map Prod.fst).Nodup
  stored : ∀ index result, state.results.value[index]? = some (some result) →
    (index, result) ∈ state.outcomes
  covered : ∀ index < taken, Covered state index

/-- The request at the front of the queue is the next in the list. -/
theorem front_of_queue {taken index : Nat} {path : String} {body : T}
    {rest : List (Nat × String × T)}
    (front : (numbered requests).drop taken = (index, path, body) :: rest) :
    index = taken ∧ requests[taken]? = some (path, body) ∧
      rest = (numbered requests).drop (taken + 1) ∧ taken + 1 ≤ requests.length := by
  have length : (numbered requests).length = requests.length := by simp [numbered]
  -- A queue that is not empty starts inside the list.
  have inside : taken < (numbered requests).length := by
    by_contra behind
    rw [List.drop_of_length_le (by omega)] at front
    cases front
  rw [List.drop_eq_getElem_cons inside] at front
  injection front with first others
  -- The queue carries the positions, so its front names its own.
  have entry : (numbered requests)[taken] = (taken, requests[taken]) := by
    simp [numbered]
  rw [entry] at first
  injection first with position request
  refine ⟨position.symm, ?_, others.symm, by omega⟩
  rw [List.getElem?_eq_getElem (by omega), request]

/-- What a worker has in hand still fits after a step about another request. -/
theorem Worker.Fits.of_others {taken later : Nat} {phase : Worker T R}
    (fits : phase.Fits requests taken state) (more : taken ≤ later)
    (empty : state.workQueue.value = [] → after.workQueue.value = [])
    (issued : ∀ index, phase.index? = some index →
      (index ∈ after.issued.map Prod.fst ↔ index ∈ state.issued.map Prod.fst))
    (outcomes : ∀ index, phase.index? = some index →
      (index ∈ after.outcomes.map Prod.fst ↔ index ∈ state.outcomes.map Prod.fst))
    (kept : ∀ entry ∈ state.outcomes, entry ∈ after.outcomes) :
    phase.Fits requests later after := by
  -- By what the worker has in hand; only a request in hand can be affected.
  cases phase with
  | idle | panicked => trivial
  | ended => exact empty fits
  | holding index path body =>
    obtain ⟨below, request, fresh⟩ := fits
    exact ⟨by omega, request, fun called => fresh ((issued index rfl).mp called)⟩
  | calling index =>
    obtain ⟨below, called, open_⟩ := fits
    exact ⟨by omega, (issued index rfl).mpr called, fun answered =>
      open_ ((outcomes index rfl).mp answered)⟩
  | returned index result =>
    obtain ⟨below, answered⟩ := fits
    exact ⟨by omega, kept _ answered⟩

section Workers

variable {workers : Nat → Worker T R} {worker : Nat} {phase : Worker T R}

/-- Workers stay apart when one of them moves on to a request that nobody else is busy with. -/
theorem apart_update
    (apart : ∀ one other index, (workers one).index? = some index →
      (workers other).index? = some index → one = other)
    (alone : ∀ other index, other ≠ worker → phase.index? = some index →
      (workers other).index? ≠ some index) (one other index : Nat)
    (first : (Function.update workers worker phase one).index? = some index)
    (second : (Function.update workers worker phase other).index? = some index) : one = other := by
  -- Two of the others are apart as before; the one that moved is apart from each.
  by_cases here : one = worker
  · by_cases there : other = worker
    · rw [here, there]
    · rw [here, Function.update_self] at first
      rw [Function.update_of_ne there] at second
      exact absurd second (alone other index there first)
  · rw [Function.update_of_ne here] at first
    by_cases there : other = worker
    · rw [there, Function.update_self] at second
      exact absurd first (alone one index here second)
    · rw [Function.update_of_ne there] at second
      exact apart one other index first second

end Workers

theorem nodup_keys_append {α : Type} {entries : List (Nat × α)} {index : Nat}
    (once : (entries.map Prod.fst).Nodup) (fresh : index ∉ entries.map Prod.fst) (value : α) :
    ((entries ++ [(index, value)]).map Prod.fst).Nodup := by
  rw [List.map_append, List.nodup_append_comm]
  exact List.nodup_cons.mpr ⟨fresh, once⟩

theorem mem_keys_append {α : Type} {entries : List (Nat × α)} {index position : Nat}
    (differ : position ≠ index) (value : α) :
    position ∈ (entries ++ [(index, value)]).map Prod.fst ↔ position ∈ entries.map Prod.fst := by
  simp [differ]

theorem Worker.fits_become {base : State T R} {taken worker : Nat} {phase : Worker T R}
    (own : phase.Fits requests taken base)
    (others : ∀ other, other ≠ worker → (base.workers other).Fits requests taken base) (other : Nat) :
    ((base.become worker phase).workers other).Fits requests taken (base.become worker phase) := by
  -- The update concerns one worker, and what fits it is given.
  by_cases here : other = worker
  · rw [here, State.become_workers_self]
    exact own
  · rw [State.become_workers_of_ne here]
    exact others other here

/-- A request stays covered when a worker moves on without letting go of it. -/
theorem covered_become (state : State T R) {index worker : Nat} {phase : Worker T R}
    (covered : Covered state index)
    (spawned : worker < state.workerCount) (live : (state.workers worker).isPanicked = false)
    (keeps : (state.workers worker).index? = some index → phase.index? = some index) :
    Covered (state.become worker phase) index := by
  rcases covered with ⟨other, below, held⟩ | filled | ⟨other, below, lost⟩
  · by_cases here : other = worker
    · refine .inl ⟨worker, spawned, ?_⟩
      rw [State.become_workers_self]
      exact keeps (here ▸ held)
    · exact .inl ⟨other, below, by rwa [State.become_workers_of_ne here]⟩
  · exact .inr (.inl filled)
  · -- The worker that has panicked is another one.
    have there : other ≠ worker := by
      rintro rfl
      rw [lost] at live
      cases live
    exact .inr (.inr ⟨other, below, by rwa [State.become_workers_of_ne there]⟩)

/-- At first nothing is taken. -/
theorem sound_start (parallelism : Option Nat) (requests : List (String × T)) :
    Sound requests 0 (.start parallelism requests : State T R) where
  queue := rfl
  within := Nat.zero_le _
  length := List.length_replicate
  fits _ := trivial
  apart _ _ _ held := by cases held
  issued _ member := by cases member
  once := List.nodup_nil
  answered _ member := by cases member
  single := List.nodup_nil
  stored index result filled := by
    simp [State.start, Mutex.new, List.getElem?_replicate] at filled
  covered _ below := absurd below (Nat.not_lt_zero _)

namespace Sound

variable {taken worker : Nat}

theorem drained (sound : Sound requests taken state) (spawned : worker < state.workerCount)
    (idle : state.workers worker = .idle) (empty : state.workQueue.value = []) :
    Sound requests taken (state.become worker .ended) :=
  { sound with
    fits := Worker.fits_become empty fun other _ => sound.fits other
    apart := apart_update sound.apart fun _ _ _ held => by cases held
    covered := fun index below => by
      refine covered_become state (sound.covered index below) spawned (by rw [idle]; rfl)
        fun held => ?_
      -- The worker had nothing in hand.
      rw [idle] at held
      cases held }

/-- A worker takes the next request, which nobody has had before it. -/
theorem popped (sound : Sound requests taken state) (spawned : worker < state.workerCount)
    {index : Nat} {path : String} {body : T} {rest : List (Nat × String × T)}
    (idle : state.workers worker = .idle)
    (front : state.workQueue.value = (index, path, body) :: rest) :
    Sound requests (taken + 1) ({ state with
      workQueue := { state.workQueue with value := rest } }.become worker
        (.holding index path body)) := by
  obtain ⟨next, request, others, within⟩ := front_of_queue (sound.queue.symm.trans front)
  subst next
  -- Nobody is busy with the next request, and it was not called for.
  have unheld : ∀ other, (state.workers other).index? ≠ some index := by
    intro other held
    have fits := sound.fits other
    cases phase : state.workers other <;> rw [phase] at held fits <;> cases held <;>
      exact absurd fits.1 (Nat.lt_irrefl _)
  have uncalled : index ∉ state.issued.map Prod.fst := by
    intro called
    obtain ⟨entry, member, same⟩ := List.mem_map.mp called
    have below := (sound.issued entry member).1
    omega
  exact
    { sound with
      queue := others
      within
      fits := by
        refine Worker.fits_become ⟨Nat.lt_succ_self _, request, uncalled⟩ fun other _ => ?_
        refine (sound.fits other).of_others (Nat.le_succ _) (fun empty => ?_) (fun _ _ => Iff.rfl)
          (fun _ _ => Iff.rfl) fun _ member => member
        rw [front] at empty
        cases empty
      apart := apart_update sound.apart fun other position _ same => by
        cases same
        exact unheld other
      issued := fun entry member =>
        ⟨Nat.lt_succ_of_lt (sound.issued entry member).1, (sound.issued entry member).2⟩
      covered := by
        intro position below
        by_cases here : position = index
        · refine .inl ⟨worker, spawned, ?_⟩
          rw [State.become_workers_self, here]
          rfl
        · have covered : Covered state position := sound.covered position (by omega)
          refine covered_become { state with workQueue := _ } covered spawned
            (congrArg Worker.isPanicked idle) fun held => ?_
          cases (congrArg Worker.index? idle).symm.trans held }

theorem index_ne (sound : Sound requests taken state) {index : Nat}
    (held : (state.workers worker).index? = some index) {other position : Nat} (apart : other ≠ worker)
    (busy : (state.workers other).index? = some position) : position ≠ index := by
  rintro rfl
  exact apart (sound.apart other worker position busy held)

theorem apart_same (sound : Sound requests taken state) {index : Nat} {phase : Worker T R}
    (held : (state.workers worker).index? = some index) (same : phase.index? = some index) :
    ∀ one other position, (Function.update state.workers worker phase one).index? = some position →
      (Function.update state.workers worker phase other).index? = some position → one = other := by
  apply apart_update sound.apart
  intro other position apart now busy
  -- The worker was busy with this request before, so nobody else is.
  cases same.symm.trans now
  exact sound.index_ne held apart busy rfl

/-- A worker calls for the request it holds. -/
theorem issuing (sound : Sound requests taken state) (spawned : worker < state.workerCount)
    {index : Nat} {path : String} {body : T}
    (holding : state.workers worker = .holding index path body) :
    Sound requests taken ({ state with issued := state.issued ++ [(index, path, body)] }.become worker
      (.calling index)) := by
  have fits := sound.fits worker
  rw [holding] at fits
  obtain ⟨below, request, fresh⟩ := fits
  have held : (state.workers worker).index? = some index := congrArg Worker.index? holding
  -- A request that was not issued has no outcome either.
  have unanswered : index ∉ state.outcomes.map Prod.fst := by
    intro answered
    obtain ⟨entry, member, same⟩ := List.mem_map.mp answered
    exact fresh (same ▸ sound.answered entry member)
  exact
    { sound with
      fits := by
        refine Worker.fits_become ⟨below, by simp, unanswered⟩ fun other apart => ?_
        exact (sound.fits other).of_others (Nat.le_refl _) id
          (fun position busy => mem_keys_append (sound.index_ne held apart busy) _)
          (fun _ _ => Iff.rfl) fun _ member => member
      apart := sound.apart_same held rfl
      issued := by
        intro entry member
        rcases List.mem_append.mp member with earlier | now
        · exact sound.issued entry earlier
        · rw [List.mem_singleton.mp now]
          exact ⟨below, request⟩
      once := nodup_keys_append sound.once fresh _
      answered := fun entry member =>
        List.map_append.symm ▸ List.mem_append_left _ (sound.answered entry member)
      covered := fun position before =>
        covered_become { state with issued := _ } (sound.covered position before) spawned
          (congrArg Worker.isPanicked holding) fun busy => held.symm.trans busy }

/-- A call comes back to the worker that made it. -/
theorem finishing (sound : Sound requests taken state) (spawned : worker < state.workerCount)
    {index : Nat} (result : Except RepeError R) (calling : state.workers worker = .calling index) :
    Sound requests taken ({ state with outcomes := state.outcomes ++ [(index, result)] }.become worker
      (.returned index result)) := by
  -- The call was open, so its outcome is the first for this request.
  have fits := sound.fits worker
  rw [calling] at fits
  obtain ⟨below, called, fresh⟩ := fits
  have held : (state.workers worker).index? = some index := congrArg Worker.index? calling
  exact
    { sound with
      fits := by
        refine Worker.fits_become ⟨below, by simp⟩ fun other apart => ?_
        exact (sound.fits other).of_others (Nat.le_refl _) id (fun _ _ => Iff.rfl)
          (fun position busy => mem_keys_append (sound.index_ne held apart busy) _)
          fun _ member => List.mem_append_left _ member
      apart := sound.apart_same held rfl
      answered := by
        intro entry member
        rcases List.mem_append.mp member with earlier | now
        · exact sound.answered entry earlier
        · rw [List.mem_singleton.mp now]
          exact called
      single := nodup_keys_append sound.single fresh _
      stored := fun position value filled => List.mem_append_left _ (sound.stored position value filled)
      covered := fun position before =>
        covered_become { state with outcomes := _ } (sound.covered position before) spawned
          (congrArg Worker.isPanicked calling) fun busy => held.symm.trans busy }

/-- A worker puts an outcome into the slot of its request, and has nothing in hand after that. -/
theorem storing (sound : Sound requests taken state) (spawned : worker < state.workerCount)
    {index : Nat} {result : Except RepeError R}
    (returned : state.workers worker = .returned index result)
    (inside : index < state.results.value.length) :
    Sound requests taken ({ state with results :=
      { state.results with value := state.results.value.set index (some result) } }.become worker
        .idle) := by
  have fits := sound.fits worker
  rw [returned] at fits
  obtain ⟨below, answered⟩ := fits
  -- The slot has the result now, and the others are as they were.
  have slot : ∀ position, (state.results.value.set index (some result))[position]? =
      if index = position then some (some result) else state.results.value[position]? := by
    intro position
    rw [List.getElem?_set, if_pos inside]
  exact
    { sound with
      length := (List.length_set ..).trans sound.length
      fits := Worker.fits_become trivial fun other _ =>
        (sound.fits other).of_others (Nat.le_refl _) id (fun _ _ => Iff.rfl) (fun _ _ => Iff.rfl)
          fun _ member => member
      apart := apart_update sound.apart fun _ _ _ held => by cases held
      stored := by
        intro position value filled
        have slotted := (slot position).symm.trans filled
        split at slotted
        · next here =>
          cases slotted
          exact here ▸ answered
        · exact sound.stored position value slotted
      covered := by
        intro position before
        by_cases here : index = position
        · exact .inr (.inl ⟨result, (slot position).trans (if_pos here)⟩)
        · -- Nothing else changes for another request.
          have covered : Covered { state with results :=
              { state.results with value := state.results.value.set index (some result) } }
                position := by
            rcases sound.covered position before with held | ⟨value, filled⟩ | lost
            · exact .inl held
            · exact .inr (.inl ⟨value, (slot position).trans ((if_neg here).trans filled)⟩)
            · exact .inr (.inr lost)
          refine covered_become _ covered spawned (congrArg Worker.isPanicked returned) fun busy => ?_
          exact absurd (Option.some.inj ((congrArg Worker.index? returned).symm.trans busy)) here }

/-- A worker is lost, with whatever it had in hand. -/
theorem panicking (sound : Sound requests taken state) (spawned : worker < state.workerCount)
    (poisoned : Bool) :
    Sound requests taken
      ({ state with results := { state.results with poisoned } }.become worker .panicked) :=
  { sound with
    fits := Worker.fits_become trivial fun other _ =>
      (sound.fits other).of_others (Nat.le_refl _) id (fun _ _ => Iff.rfl) (fun _ _ => Iff.rfl)
        fun _ member => member
    apart := apart_update sound.apart fun _ _ _ held => by cases held
    -- Whatever is missing from now on, a panic can be the reason.
    covered := fun _ _ => .inr (.inr ⟨worker, spawned, by rw [State.become_workers_self]; rfl⟩) }

theorem step (sound : Sound requests taken state) {event : Event R}
    (stepped : state.step event = some after) : ∃ later, Sound requests later after := by
  obtain ⟨spawned, steps⟩ := steps_of_step stepped
  -- One lemma for each kind of step; only a request that is popped moves the front.
  cases steps with
  | drained idle empty => exact ⟨taken, sound.drained spawned idle empty⟩
  | popped idle front => exact ⟨taken + 1, sound.popped spawned idle front⟩
  | issued holding => exact ⟨taken, sound.issuing spawned holding⟩
  | finished result calling => exact ⟨taken, sound.finishing spawned result calling⟩
  | stored returned inside => exact ⟨taken, sound.storing spawned returned inside⟩
  | panicked _ poisoned => exact ⟨taken, sound.panicking spawned poisoned⟩

end Sound

end Invariant

section Runs

variable {parallelism : Option Nat}

theorem workerCount_of_step {event : Event R} (stepped : state.step event = some after) :
    after.workerCount = state.workerCount := by
  cases (steps_of_step stepped).2 <;> rfl

theorem batchWorkerCount_pos (some_ : requests ≠ []) :
    0 < batchWorkerCount parallelism requests.length := by
  -- The cap on the workers is never below one.
  have positive : 0 < requests.length := List.length_pos_of_ne_nil some_
  rw [batchWorkerCount, if_neg (by omega)]
  exact Nat.lt_min.mpr ⟨positive, Nat.lt_of_lt_of_le Nat.zero_lt_one (Nat.le_max_left _ _)⟩

theorem sound_of_run {events : List (Event R)}
    (ran : Transition.run State.step (.start parallelism requests) events = some state) :
    (∃ taken, Sound requests taken state) ∧
      state.workerCount = batchWorkerCount parallelism requests.length := by
  refine Transition.invariant_of_run
    (fun state => (∃ taken, Sound requests taken state) ∧
      state.workerCount = batchWorkerCount parallelism requests.length) ?_
    ⟨⟨0, sound_start parallelism requests⟩, rfl⟩ ran
  -- The number of workers is fixed when they are spawned.
  rintro before event later ⟨⟨taken, sound⟩, count⟩ stepped
  exact ⟨sound.step stepped, (workerCount_of_step stepped).trans count⟩

/-- What a worker does next, if it does not panic and a call returns so. -/
def Worker.next (worker : Nat) (result : Except RepeError R) : Worker T R → Option (Event R)
  | .idle => some (.pop worker)
  | .holding _ _ _ => some (.issue worker)
  | .calling _ => some (.finish worker result)
  | .returned _ _ => some (.store worker)
  | .ended | .panicked => none

theorem next_of_busy {worker : Nat} (spawned : worker < state.workerCount)
    (busy : (state.workers worker).isDone = false) (result : Except RepeError R) :
    ∃ event after, (state.workers worker).next worker result = some event ∧
      state.step event = some after := by
  -- Nothing but its own call keeps a worker waiting; a worker that is done is not busy.
  cases phase : state.workers worker with
  | idle => exact ⟨_, _, rfl, by simp [State.step, Event.worker, spawned, State.stepWorker, phase]; rfl⟩
  | holding index path body =>
    exact ⟨_, _, rfl, by simp [State.step, Event.worker, spawned, State.stepWorker, phase]; rfl⟩
  | calling index =>
    exact ⟨_, _, rfl, by simp [State.step, Event.worker, spawned, State.stepWorker, phase]; rfl⟩
  | returned index value =>
    exact ⟨_, _, rfl, by simp [State.step, Event.worker, spawned, State.stepWorker, phase]; rfl⟩
  | ended | panicked =>
    rw [phase] at busy
    cases busy

theorem measure_start : (State.start parallelism requests : State T R).measure =
    4 * requests.length + batchWorkerCount parallelism requests.length := by
  simp [State.measure, State.start, Mutex.new, numbered, Worker.weight]

/-- Once all threads are joined without a panic, every slot is filled. -/
theorem Sound.filled {taken index : Nat} (sound : Sound requests taken state)
    (spawned : 0 < state.workerCount) (joined : state.finished = true)
    (quiet : state.panicked = false) (inside : index < requests.length) :
    ∃ result, state.results.value[index]? = some (some result) := by
  have done : ∀ worker < state.workerCount, state.workers worker = .ended := by
    intro worker below
    have finished := List.all_eq_true.mp joined worker (List.mem_range.mpr below)
    have calm := List.any_eq_false.mp quiet worker (List.mem_range.mpr below)
    cases phase : state.workers worker <;>
      simp [phase, Worker.isDone, Worker.isPanicked] at finished calm ⊢
  -- A worker has ended, so there was nothing left to take.
  have empty : state.workQueue.value = [] := by
    have fits := sound.fits 0
    rw [done 0 spawned] at fits
    exact fits
  have all : requests.length ≤ taken := by
    have rest := congrArg List.length (sound.queue.symm.trans empty)
    simp [numbered] at rest
    omega
  rcases sound.covered index (by omega) with ⟨worker, below, held⟩ | filled | ⟨worker, below, lost⟩
  · rw [done worker below] at held
    cases held
  · exact filled
  · rw [done worker below] at lost
    cases lost

/-- What a batch returns for each request once all threads are joined. -/
theorem Sound.returns {taken : Nat} (sound : Sound requests taken state)
    (count : state.workerCount = batchWorkerCount parallelism requests.length)
    (joined : state.finished = true) :
    ∃ entries, state.batchJsonInner requests = some entries ∧ entries.length = requests.length ∧
      (∀ (index : Nat) result, state.results.value[index]? = some (some result) →
        entries[index]? = some result) ∧
      ∀ index < requests.length,
        (∃ outcome, (index, outcome) ∈ state.outcomes ∧ entries[index]? = some outcome) ∨
        (state.panicked = true ∧ entries[index]? = some (.error batchWorkerPanicError)) := by
  by_cases none_ : requests = []
  · subst none_
    have empty : state.results.value = [] := List.eq_nil_of_length_eq_zero sound.length
    refine ⟨[], rfl, rfl, fun index result stored => ?_, fun index below => ?_⟩
    · rw [empty] at stored
      cases stored
    · exact absurd below (Nat.not_lt_zero _)
  · have spawned : 0 < state.workerCount := count ▸ batchWorkerCount_pos none_
    rw [State.batchJsonInner, if_neg (by simpa using none_), if_pos joined]
    refine ⟨_, rfl, (List.length_map _).trans sound.length, fun index result stored => ?_,
      fun index below => ?_⟩
    · rw [List.getElem?_map, stored]
      rfl
    obtain ⟨entry, slot⟩ : ∃ entry, state.results.value[index]? = some entry :=
      ⟨_, List.getElem?_eq_getElem (sound.length ▸ below)⟩
    rw [List.getElem?_map, slot, Option.map_some]
    cases entry with
    | some result => exact .inl ⟨result, sound.stored index result slot, rfl⟩
    | none =>
      -- Without a panic the slot would be filled.
      cases calm : state.panicked with
      | true => exact .inr ⟨rfl, rfl⟩
      | false =>
        obtain ⟨result, filled⟩ := sound.filled spawned joined calm below
        rw [slot] at filled
        cases filled

/--
A batch returns for each request what the call issued for it returned, whatever order the workers run
in and whatever calls panic; a result that was stored is returned also if another worker panicked.

Every request is called for at most once. The workers come to an end after so many steps, and until
then nothing but their own calls keeps them waiting.
-/
theorem batch_returns_each_outcome (parallelism : Option Nat) (requests : List (String × T))
    (events : List (Event R)) (state : State T R)
    (ran : Transition.run State.step (.start parallelism requests) events = some state) :
    (state.issued.map Prod.fst).Nodup ∧
    (∀ entry ∈ state.issued, requests[entry.1]? = some entry.2) ∧
    (state.outcomes.map Prod.fst).Nodup ∧
    (∀ entry ∈ state.outcomes, entry.1 ∈ state.issued.map Prod.fst) ∧
    events.length ≤ 4 * requests.length + batchWorkerCount parallelism requests.length ∧
    (state.finished = false → ∀ result, ∃ worker event after,
      (state.workers worker).next worker result = some event ∧ state.step event = some after) ∧
    (state.finished = true → ∃ entries, state.batchJsonInner requests = some entries ∧
      entries.length = requests.length ∧
      (∀ (index : Nat) result, state.results.value[index]? = some (some result) →
        entries[index]? = some result) ∧
      ∀ index < requests.length,
        (∃ outcome, (index, outcome) ∈ state.outcomes ∧ entries[index]? = some outcome) ∨
        (state.panicked = true ∧ entries[index]? = some (.error batchWorkerPanicError))) := by
  obtain ⟨⟨taken, sound⟩, count⟩ := sound_of_run ran
  refine ⟨sound.once, fun entry member => (sound.issued entry member).2, sound.single, sound.answered,
    ?_, ?_, sound.returns count⟩
  · -- Every step uses up some of the measure, which bounds the run.
    have bounded := Transition.length_le_of_run State.measure
      (fun event _ before later stepped => measure_step stepped) ran
    rw [measure_start] at bounded
    omega
  · -- A batch that is not finished has a busy worker, which can go on.
    intro unfinished result
    obtain ⟨worker, spawned, busy⟩ := List.all_eq_false.mp unfinished
    obtain ⟨event, after, next, stepped⟩ :=
      next_of_busy (List.mem_range.mp spawned) (by simpa using busy) result
    exact ⟨worker, event, after, next, stepped⟩

/-- Two workers race for two requests, and the one with the first panics in its call. -/
def race : List (Event Nat) :=
  [.pop 0, .pop 1, .issue 1, .issue 0, .finish 1 (.ok 7), .panic 0, .store 1, .pop 1]

/-- The first request gets the error of the panic, the second its own result. -/
theorem race_returns_second_outcome :
    ∃ state : State Unit Nat,
      Transition.run State.step (.start none [("/a", ()), ("/b", ())]) race = some state ∧
      state.finished = true ∧ state.panicked = true ∧
      ∃ entries, state.batchJsonInner [("/a", ()), ("/b", ())] = some entries ∧ entries.length = 2 ∧
        entries[0]? = some (.error batchWorkerPanicError) ∧ entries[1]? = some (.ok 7) := by
  refine ⟨_, rfl, rfl, rfl, ?_⟩
  obtain ⟨_, _, _, _, _, _, returns⟩ :=
    batch_returns_each_outcome (T := Unit) none [("/a", ()), ("/b", ())] race _ rfl
  obtain ⟨entries, returned, length, stored, _⟩ := returns rfl
  refine ⟨entries, returned, length, ?_, stored 1 _ rfl⟩
  -- The entries of this run are computed.
  cases returned
  rfl

end Runs

end Repe.Batch
