import Repe.Client.Registry

/-! Forwarded requests bring their own ids, and an id may come back while its last use is not over. -/

namespace Repe

/-- The call can still touch the map under its id, or its response may still be on the way. -/
def Call.live (call : Call) : Bool :=
  call.phase.armed || (call.started && !call.answered)

namespace ClientState

/-- The peer answers only requests it can have received, each at most once and under the request's id. -/
def Honest (client : ClientState) : Event → Prop
  | .frame message (some caller) =>
    (client.calls caller).started = true ∧ (client.calls caller).answered = false ∧
      message.header.id = (client.calls caller).id
  | .frame _ none => False
  | _ => True

instance (client : ClientState) (event : Event) : Decidable (client.Honest event) := by
  unfold Honest
  split <;> infer_instance

/-- A request that `register` does not refuse is registered while no other live request has its id. -/
def Exclusive (client : ClientState) : Event → Prop
  | .register caller => (client.calls caller).id ∉ client.pending → ∀ other, other ≠ caller →
      (client.calls other).live = true → (client.calls other).id ≠ (client.calls caller).id
  | _ => True

section Laws

variable {kind : ClientKind} {client after : ClientState} {event : Event} {caller other : CallId}

/-- Live requests have different ids, and every response is on its way to the request it answers. -/
structure Sole (client : ClientState) : Prop where
  apart : ∀ {caller other : CallId}, (client.calls caller).live = true →
    (client.calls other).live = true → (client.calls caller).id = (client.calls other).id →
      caller = other
  matched : ∀ {waiter : CallId} {response : Response},
    client.loop = .matched waiter response → response.origin = some waiter
  inbox : ∀ {caller : CallId} {response : Response},
    .response response ∈ (client.calls caller).inbox → response.origin = some caller

theorem connected_sole : connected.Sole where
  apart live := by cases live
  matched here := by cases here
  inbox member := by cases member

/-- A request that is live after a step was live before, unless the step registered it. -/
theorem Takes.live_before (takes : Takes kind client event after) (registry : client.Registry)
    (live : (after.calls other).live = true) :
    (after.calls other).id = (client.calls other).id ∧
      ((client.calls other).live = true ∨
        event = .register other ∧
          (kind ≠ .blocking → (client.calls other).id ∉ client.pending)) := by
  -- A call that may still touch the map is live.
  have armedLive : (client.calls other).phase.armed = true → (client.calls other).live = true := by
    intro armed
    rw [Call.live, armed]
    rfl
  have touched := takes.touches other
  generalize after.calls other = call at touched live ⊢
  cases touched with
  | same => exact ⟨rfl, .inl live⟩
  | start request forwarded starts idle =>
    -- Bytes leave only after the registration, so a new call is not live yet.
    have early : (client.calls other).phase.early = true := by rw [idle]; rfl
    have started := (registry.early early).2.2.1
    simp [Call.live, Phase.armed, started] at live
  | refuse error drawn =>
    have early : (client.calls other).phase.early = true := by rw [drawn]; rfl
    have started := (registry.early early).2.2.1
    simp [Call.live, Phase.armed, started] at live
  | register registers drawn free => exact ⟨rfl, .inr ⟨registers, free⟩⟩
  | move moves moved =>
    -- A call takes steps only while it is parked.
    exact ⟨congrArg (·.header.id) (Call.move_keeps moved).1,
      .inl (armedLive (Phase.armed_of_parked (Call.move_parked moved)))⟩
  | leave leaves armed ended => exact ⟨rfl, .inl (armedLive armed)⟩
  | answer answers =>
    -- Once answered, a request is live only through its call.
    have armed : (client.calls other).phase.armed = true := by simpa [Call.live] using live
    exact ⟨rfl, .inl (armedLive armed)⟩
  | offer delivery held source =>
    refine ⟨congrArg (·.header.id) Call.offer_request, .inl ?_⟩
    simpa [Call.live] using live

/-- A step by an honest peer and exclusive callers keeps every response on its way. -/
theorem Sole.step (looks : kind ≠ .blocking) (kept : client.Sole) (registry : client.Registry)
    (honest : client.Honest event) (exclusive : client.Exclusive event)
    (taken : step kind client event = some after) : after.Sole := by
  have takes := step_takes taken
  refine ⟨fun {caller other} first second same => ?_, fun {waiter response} matched => ?_,
    fun {caller response} member => ?_⟩
  · obtain ⟨firstId, firstLive⟩ := takes.live_before registry first
    obtain ⟨secondId, secondLive⟩ := takes.live_before registry second
    rw [firstId, secondId] at same
    -- At most one of the two was registered by this step, and only under a free id.
    rcases firstLive with firstLive | ⟨rfl, free⟩
    · rcases secondLive with secondLive | ⟨rfl, free⟩
      · exact kept.apart firstLive secondLive same
      · by_contra differs
        exact exclusive (free looks) caller differs firstLive same
    · rcases secondLive with secondLive | ⟨registers, _⟩
      · by_contra differs
        exact exclusive (free looks) other (Ne.symm differs) secondLive same.symm
      · cases registers
        rfl
  · rcases takes.matched_before matched with before | ⟨rfl, found, _⟩
    · exact kept.matched before
    · -- The registration and the answered request are both live under the frame's id.
      cases origin : response.origin with
      | none =>
        -- An honest peer sends no frame that answers nothing.
        rw [origin] at honest
        exact honest.elim
      | some caller =>
        rw [origin] at honest
        obtain ⟨started, unanswered, named⟩ := honest
        obtain ⟨waiterId, armed, _⟩ := registry.entry found
        have answered : (client.calls caller).live = true := by
          simp [Call.live, started, unanswered]
        have registered : (client.calls waiter).live = true := by simp [Call.live, armed]
        rw [kept.apart answered registered (named.symm.trans waiterId.symm)]
  · -- A response in a channel was there before, or is the one the loop had matched.
    rcases takes.inbox_before member with before | ⟨_, matched⟩
    · exact kept.inbox before
    · exact kept.matched matched

end Laws

/--
Calls and forwarded requests get their own responses for as long as no id is registered again too early.

The condition is on the state a request is registered in, unless the registration is refused: no other
request of its id has a call that may still remove that id, or a response that may still come.
-/
theorem forwards_correlated {events : List Event} {client : ClientState}
    (meets : Transition.Meets (step .async)
      (fun client event => client.Honest event ∧ client.Exclusive event) connected events)
    (ran : Transition.run (step .async) connected events = some client) :
    (∀ caller response, .response response ∈ (client.calls caller).inbox →
      response.origin = some caller) ∧
    ∀ caller after, step .async client (.leave caller) = some after →
      ∀ id other, other ≠ caller → client.pending.lookup id = some other →
        after.pending.lookup id = some other := by
  obtain ⟨registry, sole⟩ := Transition.invariant_of_meets
    (fun client => client.Registry ∧ client.Sole)
    (fun _ _ _ kept allowed taken =>
      ⟨kept.1.step taken, kept.2.step (by decide) kept.1 allowed.1 allowed.2 taken⟩)
    ⟨connected_registry, connected_sole⟩ meets ran
  -- Deliveries are covered by the invariant; what is left is the guard's removal.
  refine ⟨fun _ _ => sole.inbox, fun caller after taken id other differs found => ?_⟩
  cases step_takes taken with
  | leave armed ended =>
    -- Both calls are live, so the id that is removed is not the other one's.
    obtain ⟨named, registered, _⟩ := registry.entry found
    have leaving : (client.calls caller).live = true := by simp [Call.live, armed]
    have staying : (client.calls other).live = true := by simp [Call.live, registered]
    have apart : id ≠ (client.calls caller).id := by
      intro same
      exact differs (sole.apart staying leaving (named.trans same))
    rw [leave, AList.lookup_erase_ne apart]
    exact found

def forwardFive (caller : CallId) : List Event :=
  [.forward caller (MessageBuilder.build { id := 5 }), .register caller,
    .move caller .lockWriter, .move caller .writeOk]

/-- The answer to a request that was forwarded under the id five. -/
def answerFive (caller : CallId) : List Event :=
  [.frame (MessageBuilder.build { id := 5 }) (some caller), .deliver]

/-- The id comes back after a timeout, and the late answer to its first use arrives. -/
def lateAnswer : List Event :=
  forwardFive 0 ++ [.move 0 (.timeout 10), .leave 0] ++ forwardFive 1 ++ answerFive 0

/-- The id comes back after its answer was sent, and the first future is dropped before it wakes up. -/
def lateDrop : List Event :=
  forwardFive 0 ++ answerFive 0 ++ forwardFive 1 ++ [.move 0 .cancel]

/-- A request gets the answer to another one, and a dropped guard removes another one's registration. -/
theorem forwards_confused :
    (Transition.Meets (step .async) Honest connected lateAnswer ∧
      ∃ client, Transition.run (step .async) connected lateAnswer = some client ∧
        ∃ response, .response response ∈ (client.calls 1).inbox ∧ response.origin = some 0) ∧
    Transition.Meets (step .async) Honest connected lateDrop ∧
      ∃ client after, Transition.run (step .async) connected lateDrop = some client ∧
        step .async client (.leave 0) = some after ∧
        client.pending.lookup 5 = some 1 ∧ after.pending.lookup 5 = none := by
  -- Both runs end in a state that is evaluated, the second with one more step.
  refine ⟨⟨by decide, _, rfl, _, List.mem_cons_self, rfl⟩, by decide, _, _, rfl, rfl, rfl, rfl⟩

def firstUse : List Event :=
  [.forward 0 (MessageBuilder.build { id := 5 }), .register 0]

/-- The end of the first use, and the next request under the same id. -/
def turnover : List Event :=
  [.move 0 .lockWriter, .move 0 .writeOk] ++ answerFive 0 ++
    [.move 0 .receive, .forward 1 (MessageBuilder.build { id := 5 })]

def secondUse : List Event :=
  [.register 1, .move 1 .lockWriter, .move 1 .writeOk] ++ answerFive 1

def reuse : List Event := firstUse ++ (turnover ++ secondUse)

theorem exclusive_of_unregistered {kind : ClientKind} {client : ClientState} {events : List Event}
    (none_ : ∀ caller, .register caller ∉ events) :
    Transition.Meets (step kind) Exclusive client events := by
  -- Every other event is free in every state.
  refine Transition.meets_of_forall fun event member client => ?_
  cases event with
  | register caller => exact absurd member (none_ caller)
  | _ => trivial

/-- Each of the two requests is registered while no other request is live. -/
theorem reuse_exclusive : Transition.Meets (step .async) Exclusive connected reuse := by
  -- The first request is alone.
  have first : Transition.Meets (step .async) Exclusive connected firstUse := by
    refine ⟨trivial, fun _ taken => ?_⟩
    obtain rfl := Option.some.inj taken
    refine ⟨fun _ other differs live => ?_, fun _ _ => trivial⟩
    match other with
    | 0 => exact absurd rfl differs
    | other + 1 => cases live
  refine Transition.meets_append first fun answered ran => ?_
  obtain rfl := Option.some.inj ran
  -- Up to the second registration there is nothing to check.
  have between : ∀ caller, .register caller ∉ turnover := by simp [turnover, answerFive]
  refine Transition.meets_append (exclusive_of_unregistered between) fun second ran => ?_
  obtain rfl := Option.some.inj ran
  -- The second one finds the first returned and answered.
  refine ⟨fun _ other differs live => ?_, fun _ _ => exclusive_of_unregistered (by simp [answerFive])⟩
  match other with
  | 0 => cases live
  | 1 => exact absurd rfl differs
  | other + 2 => cases live

/-- The second use of an id gets its own answer. -/
theorem forwards_correlated_reuse :
    ∃ client, Transition.run (step .async) connected reuse = some client ∧
      (client.calls 1).inbox ≠ [] ∧
      ∀ response, .response response ∈ (client.calls 1).inbox → response.origin = some 1 := by
  -- The run is evaluated once, and the theorem applied to whatever state it ends in.
  have reached : ∃ client, Transition.run (step .async) connected reuse = some client ∧
      (client.calls 1).inbox ≠ [] := ⟨_, rfl, List.cons_ne_nil _ _⟩
  obtain ⟨client, ran, answered⟩ := reached
  have honest : Transition.Meets (step .async) Honest connected reuse := by decide
  have own := forwards_correlated (Transition.meets_and honest reuse_exclusive) ran
  exact ⟨client, ran, answered, own.1 1⟩

end ClientState

end Repe
