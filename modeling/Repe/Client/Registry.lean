import Repe.Client.CallsLaws

/-! What the pending map and the response loop of a multiplexed client know of its calls, in every run. -/

namespace Repe

namespace ClientState

/-- What the map and the loop know of the calls, whatever ids these use. -/
structure Registry (client : ClientState) : Prop where
  /-- A registration belongs to a call of that id that has not left, and that nothing was sent to. -/
  entry : ∀ {id : UInt64} {caller : CallId}, client.pending.lookup id = some caller →
    (client.calls caller).id = id ∧ (client.calls caller).phase.armed = true ∧
      (client.calls caller).inbox = [] ∧ client.loop.holds caller = false
  /-- A call that has not reached the map is unknown to the response loop. -/
  early : ∀ {caller : CallId}, (client.calls caller).phase.early = true →
    (client.calls caller).inbox = [] ∧ client.loop.holds caller = false ∧
      (client.calls caller).started = false ∧ (client.calls caller).written = false

section Laws

variable {kind : ClientKind} {client after : ClientState} {event : Event} {caller other : CallId}

theorem Registry.early_ne (kept : client.Registry) {id : UInt64}
    (early : (client.calls caller).phase.early = true)
    (found : client.pending.lookup id = some other) : other ≠ caller := by
  -- Its own registration would be of an armed call.
  rintro rfl
  rw [Phase.early_of_armed (kept.entry found).2.1] at early
  cases early

theorem connected_registry : connected.Registry where
  entry found := by
    rw [connected, AList.lookup_empty] at found
    cases found
  early _ := ⟨rfl, rfl, rfl, rfl⟩

/-- A registration that stays through a step still belongs to an armed call with an empty channel. -/
theorem Registry.entry_stays (kept : client.Registry) (takes : Takes kind client event after)
    {id : UInt64} (before : client.pending.lookup id = some other)
    (found : after.pending.lookup id = some other) :
    (after.calls other).id = id ∧ (after.calls other).phase.armed = true ∧
      (after.calls other).inbox = [] := by
  obtain ⟨named, armed, empty, unheld⟩ := kept.entry before
  -- What the step did to this one call is one of eight things.
  have touched := takes.touches other
  generalize after.calls other = call at touched ⊢
  cases touched with
  | same => exact ⟨named, armed, empty⟩
  | start request forwarded starts idle =>
    -- An idle call is not armed, and neither is one that has only drawn its id.
    rw [idle] at armed
    cases armed
  | refuse error drawn =>
    rw [drawn] at armed
    cases armed
  | register registers drawn =>
    rw [drawn] at armed
    cases armed
  | move moves moved =>
    refine ⟨(congrArg (·.header.id) (Call.move_keeps moved).1).trans named,
      Call.move_armed moved empty, ?_⟩
    rcases Call.move_inbox moved with unread | ⟨_, read⟩
    · rw [unread, empty]
    · -- Nothing was in the channel to be read.
      rw [empty] at read
      cases read
  | leave leaves _ ended =>
    -- The call left by this step, and so did what was under its id.
    subst leaves
    rw [← named, takes.lookup_left] at found
    cases found
  | answer answers => exact ⟨named, armed, empty⟩
  | offer delivery held source =>
    -- The loop had no sender of this call to send with.
    rw [unheld] at held
    cases held

/--
What a call has not done before it reaches the map, it has not done after a step that keeps it from
there.
-/
theorem Registry.early_stays (kept : client.Registry) (takes : Takes kind client event after)
    (early : (after.calls other).phase.early = true) :
    (client.calls other).phase.early = true ∧ (after.calls other).inbox = [] ∧
      (after.calls other).started = false ∧ (after.calls other).written = false := by
  -- Only starting a call and answering it leave it before the map.
  have touched := takes.touches other
  generalize after.calls other = call at touched early ⊢
  cases touched with
  | same =>
    obtain ⟨empty, _, flags⟩ := kept.early early
    exact ⟨early, empty, flags⟩
  | start request forwarded starts idle =>
    have before : (client.calls other).phase.early = true := by rw [idle]; rfl
    obtain ⟨empty, _, flags⟩ := kept.early before
    exact ⟨before, empty, flags⟩
  | refuse error drawn => cases early
  | register registers drawn => cases early
  | move moves moved =>
    rw [Call.move_early moved] at early
    cases early
  | leave leaves armed ended => rcases ended with rfl | ⟨error, rfl⟩ <;> cases early
  | answer answers =>
    obtain ⟨empty, _, flags⟩ := kept.early early
    exact ⟨early, empty, flags⟩
  | offer delivery held source =>
    rw [Call.offer_phase] at early
    -- The loop knows no call that has not reached the map.
    rw [(kept.early early).2.1] at held
    cases held

/-- Every step keeps what the map and the loop know. -/
theorem Registry.step (kept : client.Registry) (taken : step kind client event = some after) :
    after.Registry := by
  have takes := step_takes taken
  refine ⟨fun {id caller} found => ?_, fun {caller} early => ?_⟩
  · rcases takes.lookup_before found with before | ⟨_, drawn, named, loop, registered⟩
    · -- The entry was there before the step.
      obtain ⟨named, armed, empty⟩ := kept.entry_stays takes before found
      refine ⟨named, armed, empty, ?_⟩
      rw [← Bool.not_eq_true]
      intro held
      -- The loop did not hold this sender, and takes only senders out of the map.
      rcases takes.holds_before held with still | ⟨key, present, gone⟩
      · rw [(kept.entry before).2.2.2] at still
        cases still
      · rw [← (kept.entry present).1, (kept.entry before).1, found] at gone
        cases gone
    · -- A call that was just registered had an empty channel and no sender in the loop.
      have early : (client.calls caller).phase.early = true := by rw [drawn]; rfl
      obtain ⟨empty, unheld, _⟩ := kept.early early
      rw [registered, loop]
      exact ⟨named.symm, rfl, empty, unheld⟩
  · -- A sender the loop took out of the map is of a registered call.
    obtain ⟨before, empty, flags⟩ := kept.early_stays takes early
    refine ⟨empty, ?_, flags⟩
    rw [← Bool.not_eq_true]
    intro held
    rcases takes.holds_before held with still | ⟨key, present, _⟩
    · rw [(kept.early before).2.1] at still
      cases still
    · exact kept.early_ne before present rfl

theorem registry_of_run {events : List Event}
    (ran : Transition.run (step kind) connected events = some client) : client.Registry :=
  Transition.invariant_of_run Registry (fun _ _ _ kept taken => kept.step taken) connected_registry ran

end Laws

end ClientState

end Repe
