import Repe.Client.Correlation

/-!
The end of a connection: after a fatal read error no call is left waiting for a response that cannot
come.
-/

namespace Repe

namespace LoopPhase

/-- `fail_all_pending` has shut the writer down. -/
def closing : LoopPhase → Bool
  | .draining _ | .sending .. | .stopped => true
  | _ => false

/-- `fail_all_pending` has drained the pending map. -/
def drained : LoopPhase → Bool
  | .sending .. | .stopped => true
  | _ => false

end LoopPhase

def Event.completesWrite : Event → Bool
  | .move _ .writeOk => true
  | _ => false

namespace ClientState

def WritesFailOnceShut (client : ClientState) (event : Event) : Prop :=
  client.shut = true → event.completesWrite = false

instance (client : ClientState) (event : Event) : Decidable (client.WritesFailOnceShut event) :=
  inferInstanceAs (Decidable (_ → _))

section Laws

variable {kind : ClientKind} {client after : ClientState} {event : Event} {caller other : CallId}

/-- What holds of the calls while the connection is brought down. -/
structure Closing (client : ClientState) : Prop where
  shut : client.loop.closing = true → client.shut = true
  /-- Whoever is registered after the drain came too late to write. -/
  unwritten : client.loop.drained = true → ∀ {id : UInt64} {caller : CallId},
    client.pending.lookup id = some caller → (client.calls caller).written = false
  /-- A call waits for its response only after its write. -/
  waiting : ∀ {caller : CallId}, (client.calls caller).phase = .waiting →
    (client.calls caller).written = true

theorem connected_closing : connected.Closing where
  shut closing := by cases closing
  unwritten drained := by cases drained
  waiting here := by cases here

/-- The writer stays shut, and is shut before the map is drained. -/
theorem Takes.shut (takes : Takes kind client event after)
    (before : client.loop.closing = true → client.shut = true)
    (closing : after.loop.closing = true) : after.shut = true := by
  -- The loop goes through its phases in order, and shutting down is the first of these.
  cases takes with
  | @skip message origin reading =>
    rw [note_loop, reading] at closing
    cases closing
  | matched reading found => cases closing
  | deliver matched => cases closing
  | fatal reading => cases closing
  | shutdown failing => rfl
  | drain draining => exact before (by rw [draining]; rfl)
  | sendFatal sending found => exact before (by rw [sending]; rfl)
  | stop sending told => exact before (by rw [sending]; rfl)
  | _ => exact before closing

/-- The map was drained before the step, or the step drained it. -/
theorem Takes.drained_before (takes : Takes kind client event after)
    (drained : after.loop.drained = true) : client.loop.drained = true ∨ after.pending = ∅ := by
  -- Only the drain itself enters the drained phases.
  cases takes with
  | @skip message origin reading =>
    rw [note_loop, reading] at drained
    cases drained
  | matched reading found => cases drained
  | deliver matched => cases drained
  | fatal reading => cases drained
  | shutdown failing => cases drained
  | drain draining => exact .inr rfl
  | sendFatal sending found => exact .inl (by rw [sending]; rfl)
  | stop sending told => exact .inl (by rw [sending]; rfl)
  | _ => exact .inl drained

/-- A call that waits after a step waited before, or has just completed its write. -/
theorem Takes.waiting (takes : Takes kind client event after)
    (before : (client.calls other).phase = .waiting → (client.calls other).written = true)
    (waiting : (after.calls other).phase = .waiting) : (after.calls other).written = true := by
  have touched := takes.touches other
  generalize after.calls other = call at touched waiting ⊢
  -- A call that starts, registers or leaves is not waiting afterwards.
  cases touched with
  | same => exact before waiting
  | start request forwarded starts idle => cases waiting
  | refuse error drawn => cases waiting
  | register registers drawn => cases waiting
  | move moves moved => exact Call.move_waiting moved waiting
  | leave leaves armed ended => rcases ended with rfl | ⟨error, rfl⟩ <;> cases waiting
  | answer answers => exact before waiting
  | offer delivery held source =>
    rw [Call.offer_phase] at waiting
    rw [Call.offer_written]
    exact before waiting

/-- While writes fail once the writer is shut, every step keeps what holds of the calls. -/
theorem Closing.step (kept : client.Closing) (registry : client.Registry)
    (allowed : client.WritesFailOnceShut event) (taken : step kind client event = some after) :
    after.Closing := by
  have takes := step_takes taken
  refine ⟨takes.shut kept.shut, fun drained {id caller} found => ?_, takes.waiting kept.waiting⟩
  rcases takes.drained_before drained with before | empty
  · -- The drain came after the shutdown, so no write has succeeded since.
    have shut := kept.shut (by
      cases loop : client.loop <;> simp_all [LoopPhase.drained, LoopPhase.closing])
    rw [← Bool.not_eq_true]
    intro written
    rcases takes.written_before written with earlier | rfl
    · rcases takes.lookup_before found with present | ⟨_, drawn, _⟩
      · rw [kept.unwritten before present] at earlier
        cases earlier
      · -- A call registered by this step had written nothing.
        rw [(registry.early (by rw [drawn]; rfl)).2.2.2] at earlier
        cases earlier
    · have refused := allowed shut
      cases refused
  · -- Nobody is registered right after the drain.
    rw [empty, AList.lookup_empty] at found
    cases found

/-- Somebody still holds the sender of every parked call that nothing was sent to. -/
def Awaited (client : ClientState) : Prop :=
  ∀ caller, (client.calls caller).phase.parked = true → (client.calls caller).inbox = [] →
    client.pending.lookup (client.calls caller).id = some caller ∨ client.loop.holds caller = true

/--
A call that is parked after a step, with nothing sent to it, was so before, unless the step registered
it.
-/
theorem Takes.parked_before (takes : Takes kind client event after)
    (parked : (after.calls other).phase.parked = true) (empty : (after.calls other).inbox = []) :
    (after.calls other).id = (client.calls other).id ∧
      ((client.calls other).phase.parked = true ∧ (client.calls other).inbox = [] ∨
        event = .register other ∧ (client.calls other).phase = .drawn) := by
  have touched := takes.touches other
  generalize after.calls other = call at touched parked empty ⊢
  cases touched with
  | same => exact ⟨rfl, .inl ⟨parked, empty⟩⟩
  | start request forwarded starts idle => cases parked
  | refuse error drawn => cases parked
  | register registers drawn => exact ⟨rfl, .inr ⟨registers, drawn⟩⟩
  | move moves moved =>
    refine ⟨congrArg (·.header.id) (Call.move_keeps moved).1, .inl ⟨Call.move_parked moved, ?_⟩⟩
    -- A step that stays parked reads nothing.
    rw [← Call.move_still moved parked]
    exact empty
  | leave leaves armed ended => rcases ended with rfl | ⟨error, rfl⟩ <;> cases parked
  | answer answers => exact ⟨rfl, .inl ⟨parked, empty⟩⟩
  | offer delivery held source =>
    rw [Call.offer_phase] at parked
    exact absurd empty (Call.offer_ne_nil parked)

/-- Somebody holds the sender of a call: the map has it under its id, or the loop has it in hand. -/
def SenderHeld (pending : Pending) (loop : LoopPhase) (id : UInt64) (caller : CallId) : Prop :=
  pending.lookup id = some caller ∨ loop.holds caller = true

namespace SenderHeld

variable {pending waiters : Pending} {loop : LoopPhase} {id key : UInt64} {caller waiter : CallId}
  {error : RepeError}

theorem in_map (held : SenderHeld pending loop id caller) (free : loop.holds caller = false) :
    pending.lookup id = some caller :=
  held.resolve_right fun holds => by rw [free] at holds; cases holds

theorem matched {response : Response} (held : SenderHeld pending .reading id caller)
    (found : pending.lookup key = some waiter) :
    SenderHeld (pending.erase key) (.matched waiter response) id caller := by
  have present := held.in_map rfl
  by_cases same : id = key
  · -- The call is the one that was matched.
    rw [same, found] at present
    obtain rfl := Option.some.inj present
    exact .inr (by simp [LoopPhase.holds])
  · exact .inl (by rw [AList.lookup_erase_ne same]; exact present)

theorem drained (held : SenderHeld pending (.draining error) id caller) :
    SenderHeld ∅ (.sending error pending) id caller :=
  .inr (Pending.holds_iff.mpr ⟨_, held.in_map rfl⟩)

theorem told (held : SenderHeld pending (.sending error waiters) id caller)
    (found : waiters.lookup key = some waiter) (other : waiter ≠ caller) :
    SenderHeld pending (.sending error (waiters.erase key)) id caller := by
  refine held.imp_right fun holds => ?_
  -- The sender is still listed, since the one that was given up is another's.
  obtain ⟨at_, listed⟩ := Pending.holds_iff.mp holds
  refine Pending.holds_iff.mpr ⟨at_, ?_⟩
  rw [AList.lookup_erase_ne]
  · exact listed
  · rintro rfl
    rw [found] at listed
    exact other (Option.some.inj listed)

theorem stopped (held : SenderHeld pending (.sending error waiters) id caller)
    (nobody : ∀ key, waiters.lookup key = none) : SenderHeld pending .stopped id caller := by
  refine .inl (held.resolve_right fun holds => ?_)
  -- Nobody is left in the list, so the sender is in the map.
  obtain ⟨key, listed⟩ := Pending.holds_iff.mp holds
  rw [nobody key] at listed
  cases listed

end SenderHeld

/-- Until the id counter wraps, every step keeps the senders of the parked calls. -/
theorem Awaited.step (kept : client.Awaited) (numbered : client.Numbered)
    (few : client.drawn < 2 ^ 64) (taken : step kind client event = some after) : after.Awaited := by
  have takes := step_takes taken
  intro other stays unsent
  obtain ⟨named, before⟩ := takes.parked_before stays unsent
  rw [named]
  rcases before with ⟨parked, empty⟩ | ⟨rfl, drawn⟩
  · -- The call was parked before, and somebody held its sender.
    have begun := Phase.begun_of_armed (Phase.armed_of_parked parked)
    have held : SenderHeld client.pending client.loop _ other := kept other parked empty
    have apart : ∀ {caller}, caller ≠ other → (client.calls caller).phase.begun = true →
        (client.calls other).id ≠ (client.calls caller).id :=
      fun differs made same => differs (numbered.apart few made begun same.symm)
    cases takes with
    | @register caller drawn =>
      -- Another call's registration is under another id.
      have differs : caller ≠ other := by
        rintro rfl
        rw [drawn] at parked
        cases parked
      rw [AList.lookup_insert_ne (apart differs (by rw [drawn]; rfl))]
      exact held
    | @leave caller phase armed ended =>
      -- A call that leaves is not parked any more, so it is another one, with another id.
      have differs : caller ≠ other := by
        rintro rfl
        rw [leave, become, modify_self] at stays
        rcases ended with rfl | ⟨error, rfl⟩ <;> cases stays
      rw [leave, AList.lookup_erase_ne (apart differs (Phase.begun_of_armed armed))]
      exact held
    | skip reading =>
      rw [note_pending, note_loop]
      exact held
    | matched reading found => exact (reading ▸ held).matched found
    | @deliver waiter response matched =>
      -- The waiter now has its response, so this call is another one.
      have differs : waiter ≠ other := by
        rintro rfl
        rw [modify_self] at unsent
        exact Call.offer_ne_nil parked unsent
      exact .inl (held.in_map (by rw [matched]; simpa [LoopPhase.holds] using differs))
    | fatal reading => exact .inl (held.in_map (by rw [reading]; rfl))
    | shutdown failing => exact .inl (held.in_map (by rw [failing]; rfl))
    | drain draining => exact (draining ▸ held).drained
    | @sendFatal id waiter error waiters sending found =>
      -- The waiter that was just told has its error, so this is another one.
      refine (sending ▸ held).told found ?_
      rintro rfl
      rw [modify_self] at unsent
      exact Call.offer_ne_nil parked unsent
    | stop sending told => exact (sending ▸ held).stopped told
    | _ => exact held
  · -- The call was registered just now.
    cases takes with
    | refuse _ clash =>
      rw [become, modify_self] at stays
      cases stays
    | register _ => exact .inl (AList.lookup_insert _)

/-- While writes fail once the writer is shut, this holds in every state a client can reach. -/
theorem closing_of_run {events : List Event}
    (refused : Transition.Meets (step kind) WritesFailOnceShut connected events)
    (ran : Transition.run (step kind) connected events = some client) : client.Closing := by
  -- The registry is carried along, since a late registration must not have written.
  have both := Transition.invariant_of_meets (fun client => client.Registry ∧ client.Closing)
    (fun _ _ _ kept allowed taken => ⟨kept.1.step taken, kept.2.step kept.1 allowed taken⟩)
    ⟨connected_registry, connected_closing⟩ refused ran
  exact both.2

/-- Without forwarded requests, and until the id counter wraps, no sender of a parked call is lost. -/
theorem awaited_of_run {events : List Event} (own : ∀ caller request, .forward caller request ∉ events)
    (ran : Transition.run (step kind) connected events = some client)
    (few : client.drawn < 2 ^ 64) : client.Awaited := by
  have meets : Transition.Meets (ClientState.step kind)
      (fun _ event => ∀ caller request, event ≠ .forward caller request) connected events :=
    Transition.meets_of_forall fun event member _ caller request same =>
      own caller request (same ▸ member)
  have start : connected.Numbered ∧ (connected.drawn < 2 ^ 64 → connected.Awaited) :=
    ⟨connected_numbered, fun _ _ parked => by cases parked⟩
  -- The counter only grows, so a state with few draws comes after states with few draws.
  have both := Transition.invariant_of_meets
    (fun client => client.Numbered ∧ (client.drawn < 2 ^ 64 → client.Awaited))
    (fun client event after kept own taken => by
      refine ⟨kept.1.step own taken, fun few => ?_⟩
      have before : client.drawn < 2 ^ 64 := by
        have drawn := (step_takes taken).drawn
        omega
      exact (kept.2 before).step kept.1 before taken)
    start meets ran
  exact both.2 few

/-- A waiting call whose channel has a value, or has lost its last sender, can go on. -/
theorem waiting_ends (waiting : (client.calls caller).phase = .waiting)
    (reached : (client.calls caller).inbox ≠ [] ∨
      client.pending.holds caller = false ∧ client.loop.holds caller = false) :
    (step kind client (.move caller .receive)).isSome = true ∨
      (step kind client (.move caller .closed)).isSome = true := by
  -- A value is received, and an empty channel without senders is closed.
  cases inbox : (client.calls caller).inbox with
  | cons delivery rest =>
    refine .inl ?_
    cases delivery with
    | response response => simp [step, ready, Call.move, waiting, Call.take, inbox]
    | fatal error => cases kind <;> simp [step, ready, Call.move, waiting, Call.take, inbox]
  | nil =>
    obtain ⟨absent, unheld⟩ := reached.resolve_left fun full => full inbox
    exact .inr (by simp [step, ready, Call.move, waiting, inbox, absent, unheld])

end Laws

/--
Once `fail_all_pending` has drained the map, no registered call has completed its write.

Every call that waits then has its response or the error in its channel, or its sender is among those
the loop is about to send the error to.
Once the loop has stopped, all of them have been told, and no wait goes on.
-/
theorem fatal_error_reaches_calls (kind : ClientKind) {events : List Event} {client : ClientState}
    (refused : Transition.Meets (step kind) WritesFailOnceShut connected events)
    (ran : Transition.run (step kind) connected events = some client) :
    (client.loop.drained = true → ∀ id caller, client.pending.lookup id = some caller →
      (client.calls caller).written = false) ∧
    (client.loop = .stopped → ∀ caller, (client.calls caller).phase = .waiting →
      (step kind client (.move caller .receive)).isSome = true ∨
        (step kind client (.move caller .closed)).isSome = true) ∧
    ((∀ caller request, .forward caller request ∉ events) → events.countP Event.draws < 2 ^ 64 →
      client.loop.drained = true → ∀ caller, (client.calls caller).phase = .waiting →
        ((client.calls caller).inbox ≠ [] ∨ client.loop.holds caller = true) ∧
          (client.loop = .stopped → (client.calls caller).inbox ≠ [])) := by
  have closing := closing_of_run refused ran
  -- A waiting call has written, so after the drain it has no registration.
  have absent : client.loop.drained = true → ∀ {caller}, (client.calls caller).phase = .waiting →
      ∀ id, client.pending.lookup id ≠ some caller := by
    intro drained caller waiting id found
    have written := closing.waiting waiting
    rw [closing.unwritten drained found] at written
    cases written
  refine ⟨fun drained _ _ found => closing.unwritten drained found, fun stopped caller waiting => ?_,
    fun own few drained caller waiting => ?_⟩
  · -- A stopped loop holds no sender, and neither does the map.
    refine waiting_ends waiting (.inr ⟨?_, by rw [stopped]; rfl⟩)
    rw [← Bool.not_eq_true]
    intro holds
    obtain ⟨id, found⟩ := Pending.holds_iff.mp holds
    exact absent (by rw [stopped]; rfl) waiting id found
  · have drawn : client.drawn < 2 ^ 64 := by
      rw [drawn_of_run ran]
      simpa [connected] using few
    have awaited := awaited_of_run own ran drawn caller (by rw [waiting]; rfl)
    -- No sender was lost, and it is not in the map any more.
    have told : (client.calls caller).inbox ≠ [] ∨ client.loop.holds caller = true := by
      by_cases empty : (client.calls caller).inbox = []
      · exact .inr ((awaited empty).resolve_left (absent drained waiting _))
      · exact .inl empty
    exact ⟨told, fun stopped => told.resolve_right fun holds => by rw [stopped] at holds; cases holds⟩

/-- A call that waits for its response when the connection breaks, up to the drain of the map. -/
def broken : List Event :=
  [.call 0 {}, .register 0, .move 0 .lockWriter, .move 0 .writeOk,
    .fatal (.io .unexpectedEof), .shutdown, .drain]

/-- After the drain a written call can be waiting with nothing in its channel yet. -/
theorem waiter_untold_after_drain :
    Transition.Meets (step .blocking) WritesFailOnceShut connected broken ∧
    ∃ client, Transition.run (step .blocking) connected broken = some client ∧
      client.loop.drained = true ∧ (client.calls 0).written = true ∧
      (client.calls 0).phase = .waiting ∧ (client.calls 0).inbox = [] := by
  exact ⟨by decide, _, rfl, rfl, rfl, rfl, rfl⟩

def ended : List Event := broken ++ [.sendFatal 1, .stop]

/-- Once the loop has stopped, the call of the broken connection has its error. -/
theorem fatal_error_reaches_calls_broken :
    ∃ client, Transition.run (step .blocking) connected ended = some client ∧
      client.loop = .stopped ∧ (client.calls 0).phase = .waiting ∧ (client.calls 0).inbox ≠ [] := by
  -- The run is evaluated once, and the theorem applied to whatever state it ends in.
  have reached : ∃ client,
      Transition.run (step .blocking) connected ended = some client ∧
      client.loop = .stopped ∧ (client.calls 0).phase = .waiting := ⟨_, rfl, rfl, rfl⟩
  obtain ⟨client, ran, stopped, waiting⟩ := reached
  have own : ∀ caller request, .forward caller request ∉ ended := by simp [ended, broken]
  have one : ended.countP Event.draws = 1 := rfl
  have refused : Transition.Meets (step .blocking) WritesFailOnceShut connected ended := by decide
  obtain ⟨_, _, told⟩ := fatal_error_reaches_calls .blocking refused ran
  have outcome := told own (by rw [one]; decide) (by rw [stopped]; rfl) 0 waiting
  exact ⟨client, ran, stopped, waiting, outcome.2 stopped⟩

end ClientState

end Repe
