import Repe.Client.Registry

/-! Every response finds the one call it is for: ids, deliveries, and what is left in the map. -/

namespace Repe

namespace ClientState

section Laws

variable {kind : ClientKind} {client after : ClientState} {event : Event} {caller other : CallId}

/-- Every call took its id from the counter, in the order of the draws. -/
structure Numbered (client : ClientState) : Prop where
  next : client.nextId = UInt64.ofNat (1 + client.drawn)
  own : ∀ {caller : CallId}, (client.calls caller).phase.begun = true →
    ∃ number < client.drawn, (client.calls caller).id = UInt64.ofNat (1 + number)
  /-- Until the counter wraps, no two calls took the same id. -/
  apart : client.drawn < 2 ^ 64 → ∀ {caller other : CallId},
    (client.calls caller).phase.begun = true → (client.calls other).phase.begun = true →
      (client.calls caller).id = (client.calls other).id → caller = other

theorem connected_numbered : connected.Numbered where
  next := rfl
  own begun := by cases begun
  apart _ _ _ begun := by cases begun

theorem draw_ne {earlier later : Nat} (before : earlier < later) (fits : later < 2 ^ 64) :
    UInt64.ofNat (1 + earlier) ≠ UInt64.ofNat (1 + later) := by
  -- The values of the two ids are below the width, and one apart at least.
  intro same
  have values := congrArg UInt64.toNat same
  rw [UInt64.toNat_ofNat', UInt64.toNat_ofNat'] at values
  omega

theorem Numbered.next_succ (kept : client.Numbered) :
    client.nextId + 1 = UInt64.ofNat (1 + (client.drawn + 1)) := by
  rw [kept.next, ← Nat.add_assoc]
  exact (UInt64.ofNat_add (1 + client.drawn) 1).symm

/-- A step that makes no call keeps the numbering, if it keeps the counter. -/
theorem Numbered.quiet (kept : client.Numbered)
    (identity : ∀ caller, (after.calls caller).identity = (client.calls caller).identity)
    (next : after.nextId = UInt64.ofNat (1 + after.drawn)) (drawn : client.drawn ≤ after.drawn) :
    after.Numbered where
  next := next
  own {caller} begun := by
    -- The identity carries both the request and whether the call has begun.
    have same := identity caller
    obtain ⟨number, before, named⟩ := kept.own ((congrArg Prod.snd same).symm.trans begun)
    exact ⟨number, Nat.lt_of_lt_of_le before drawn,
      (congrArg (fun pair => pair.1.header.id) same).trans named⟩
  apart fits {caller other} first second named := by
    have same := identity caller
    have sameOther := identity other
    refine kept.apart (Nat.lt_of_le_of_lt drawn fits) ((congrArg Prod.snd same).symm.trans first)
      ((congrArg Prod.snd sameOther).symm.trans second) ?_
    exact (congrArg (fun pair => pair.1.header.id) same).symm.trans
      (named.trans (congrArg (fun pair => pair.1.header.id) sameOther))

/-- A call that draws the next id shares it with no call before. -/
theorem Numbered.call (kept : client.Numbered) (caller : CallId) (builder : MessageBuilder)
    (idle : (client.calls caller).phase = .idle) :
    (client.start caller (MessageBuilder.build { builder with id := client.nextId })
      false).nextRequestId.Numbered where
  next := kept.next_succ
  own {other} begun := by
    by_cases same : other = caller
    · -- The call itself has the number of this draw.
      subst same
      refine ⟨client.drawn, Nat.lt_succ_self _, ?_⟩
      rw [nextRequestId, start, modify_self]
      exact kept.next
    · rw [nextRequestId, start, modify_of_ne same] at begun ⊢
      obtain ⟨number, before, named⟩ := kept.own begun
      exact ⟨number, Nat.lt_succ_of_lt before, named⟩
  apart fits {first second} firstBegun secondBegun named := by
    have fits : client.drawn < 2 ^ 64 := Nat.lt_of_succ_lt fits
    -- The id just drawn differs from that of any other call made so far.
    have fresh : ∀ {other}, other ≠ caller → (client.calls other).phase.begun = true →
        (client.calls other).id ≠ client.nextId := by
      intro other _ begun
      obtain ⟨number, before, named⟩ := kept.own begun
      rw [named, kept.next]
      exact draw_ne before fits
    rw [nextRequestId, start] at firstBegun secondBegun named
    -- Only pairs with the new call in them are new.
    by_cases isFirst : first = caller
    · by_cases isSecond : second = caller
      · rw [isFirst, isSecond]
      · subst isFirst
        rw [modify_of_ne isSecond] at secondBegun named
        rw [modify_self] at named
        exact absurd named.symm (fresh isSecond secondBegun)
    · by_cases isSecond : second = caller
      · subst isSecond
        rw [modify_of_ne isFirst] at firstBegun named
        rw [modify_self] at named
        exact absurd named (fresh isFirst firstBegun)
      · rw [modify_of_ne isFirst] at firstBegun named
        rw [modify_of_ne isSecond] at secondBegun named
        exact kept.apart fits firstBegun secondBegun named

/-- Every step but a forwarded request keeps the numbering. -/
theorem Numbered.step (kept : client.Numbered) (own : ∀ caller request, event ≠ .forward caller request)
    (taken : step kind client event = some after) : after.Numbered := by
  have takes := step_takes taken
  -- Calls and notifies draw from the counter, and no other event touches it.
  cases event with
  | call caller builder =>
    cases takes with
    | call idle => exact kept.call caller builder idle
  | forward caller request => exact absurd rfl (own caller request)
  | notify =>
    cases takes with
    | notify => exact kept.quiet (fun _ => rfl) kept.next_succ (Nat.le_succ _)
  | _ =>
    obtain ⟨sameNext, sameDrawn⟩ := takes.counter rfl
    exact kept.quiet (takes.identity rfl) (by rw [sameNext, sameDrawn, kept.next]) sameDrawn.ge

structure Tracked (client : ClientState) : Prop where
  once : (client.handed.map Prod.fst).Nodup
  read : ∀ entry ∈ client.handed, entry.1 < client.received.length
  /-- The response the loop is about to send was read, and not sent before. -/
  matched : ∀ {waiter : CallId} {response : Response}, client.loop = .matched waiter response →
    client.received[response.number]? = some response.message ∧
      response.number ∉ client.handed.map Prod.fst
  /-- A response in a channel was read, and sent to that channel. -/
  inbox : ∀ {caller : CallId} {response : Response},
    .response response ∈ (client.calls caller).inbox →
      client.received[response.number]? = some response.message ∧
        (response.number, caller) ∈ client.handed
  /-- A response that a call returned was read, sent to it, and carries its id. -/
  returned : ∀ {caller : CallId} {message : Message},
    (client.calls caller).phase = .returned (.ok message) →
      message.header.id = (client.calls caller).id ∧
        ∃ number, client.received[number]? = some message ∧ (number, caller) ∈ client.handed

theorem connected_tracked : connected.Tracked where
  once := List.nodup_nil
  read _ member := by cases member
  matched here := by cases here
  inbox member := by cases member
  returned here := by cases here

/-- Every step keeps track of the responses. -/
theorem Tracked.step (kept : client.Tracked) (taken : step kind client event = some after) :
    after.Tracked := by
  have takes := step_takes taken
  -- What was read stays read, under the same number.
  have received := takes.received
  have later : ∀ {number : Nat} {message : Message}, client.received[number]? = some message →
      after.received[number]? = some message := by
    intro number message read
    rw [received, List.getElem?_append_left (List.getElem?_eq_some_iff.mp read).1]
    exact read
  have longer : client.received.length ≤ after.received.length := by
    rw [received, List.length_append]
    omega
  -- What was sent stays on record.
  have still : ∀ {entry : Nat × CallId}, entry ∈ client.handed → entry ∈ after.handed := by
    intro entry member
    rcases takes.handed with ⟨_, same⟩ | ⟨_, _, _, _, _, sent⟩
    · rw [same]
      exact member
    · rw [sent]
      exact List.mem_append_left _ member
  refine ⟨?_, ?_, fun {waiter response} matched => ?_, fun {caller response} member => ?_,
    fun {caller message} returned => ?_⟩
  · rcases takes.handed with ⟨_, same⟩ | ⟨_, waiter, response, matched, _, sent⟩
    · rw [same]
      exact kept.once
    · -- The response just sent was not among those sent before.
      rw [sent, List.map_append, List.map_singleton, ← List.concat_eq_append]
      exact kept.once.concat (kept.matched matched).2
  · intro entry member
    rcases takes.handed with ⟨_, same⟩ | ⟨_, waiter, response, matched, _, sent⟩
    · rw [same] at member
      exact Nat.lt_of_lt_of_le (kept.read entry member) longer
    · rw [sent] at member
      rcases List.mem_append.mp member with before | last
      · exact Nat.lt_of_lt_of_le (kept.read entry before) longer
      · -- The last entry is of the response the loop was holding.
        obtain rfl := List.mem_singleton.mp last
        exact (List.getElem?_eq_some_iff.mp (later (kept.matched matched).1)).1
  · -- A response that is still held was not sent by this step.
    have same : after.handed = client.handed := by
      rcases takes.handed with ⟨_, same⟩ | ⟨_, _, _, _, reading, _⟩
      · exact same
      · rw [reading] at matched
        cases matched
    rw [same]
    rcases takes.matched_before matched with before | ⟨rfl, _, number⟩
    · exact ⟨later (kept.matched before).1, (kept.matched before).2⟩
    · -- Whatever was sent before was read before, and so is not the frame just read.
      refine ⟨?_, fun member => ?_⟩
      · rw [received, number]
        exact List.getElem?_concat_length
      · obtain ⟨entry, sent, equal⟩ := List.mem_map.mp member
        have before := kept.read entry sent
        omega
  · -- A response in a channel was there before, or was sent by this step.
    rcases takes.inbox_before member with before | ⟨rfl, matched⟩
    · exact ⟨later (kept.inbox before).1, still (kept.inbox before).2⟩
    · refine ⟨later (kept.matched matched).1, ?_⟩
      rcases takes.handed with ⟨other, _⟩ | ⟨_, waiter, sender, held, _, sent⟩
      · exact absurd rfl other
      · cases held.symm.trans matched
        rw [sent]
        exact List.mem_append_right _ List.mem_cons_self
  · -- A call that returns has taken the response out of its channel and checked the id.
    obtain ⟨same, before | ⟨named, response, member, rfl⟩⟩ := takes.returned_before returned
    · obtain ⟨named, number, read, sent⟩ := kept.returned before
      exact ⟨named.trans same.symm, number, later read, still sent⟩
    · exact ⟨named.trans same.symm, response.number, later (kept.inbox member).1,
        still (kept.inbox member).2⟩

theorem drawn_of_run {events : List Event}
    (ran : Transition.run (step kind) client events = some after) :
    after.drawn = client.drawn + events.countP Event.draws := by
  -- Each event adds one draw or none.
  induction events generalizing client with
  | nil =>
    cases ran
    rfl
  | cons event events ih =>
    obtain ⟨between, taken, rest⟩ := Transition.run_cons.mp ran
    rw [ih rest, (step_takes taken).drawn, List.countP_cons]
    omega

/-- Without forwarded requests the numbering holds in every state a client can reach. -/
theorem numbered_of_run {events : List Event}
    (own : ∀ caller request, .forward caller request ∉ events)
    (ran : Transition.run (step kind) connected events = some client) : client.Numbered := by
  have meets : Transition.Meets (ClientState.step kind)
      (fun _ event => ∀ caller request, event ≠ .forward caller request) connected events :=
    Transition.meets_of_forall fun event member _ caller request same =>
      own caller request (same ▸ member)
  -- Every step of such a run keeps the numbering.
  exact Transition.invariant_of_meets Numbered (fun _ _ _ kept own taken => kept.step own taken)
    connected_numbered meets ran

end Laws

/--
Calls on one connection are answered by their own responses.

A returned response was read from the connection, sent to that call and to no other, and carries its id.
Until the id counter wraps, outstanding calls have different ids, and a call that is over has left
nothing under its id.
-/
theorem calls_correlated (kind : ClientKind) {events : List Event} {client : ClientState}
    (own : ∀ caller request, .forward caller request ∉ events)
    (ran : Transition.run (step kind) connected events = some client) :
    (∀ caller message, (client.calls caller).phase = .returned (.ok message) →
      message.header.id = (client.calls caller).id ∧
        ∃ number, client.received[number]? = some message ∧ (number, caller) ∈ client.handed) ∧
    (client.handed.map Prod.fst).Nodup ∧
    (events.countP Event.draws < 2 ^ 64 →
      (∀ caller other, (client.calls caller).phase.outstanding = true →
        (client.calls other).phase.outstanding = true → caller ≠ other →
          (client.calls caller).id ≠ (client.calls other).id) ∧
      ∀ caller, (client.calls caller).phase.finished = true →
        client.pending.lookup (client.calls caller).id = none) ∧
    ∀ caller, (client.calls caller).phase.finished = true → client.pending.holds caller = false := by
  have registry := registry_of_run ran
  have numbered := numbered_of_run own ran
  have tracked := Transition.invariant_of_run Tracked
    (fun _ _ _ kept taken => Tracked.step kept taken) connected_tracked ran
  -- A call that is over is not armed, and every registration is of an armed call.
  have gone : ∀ {caller id}, (client.calls caller).phase.finished = true →
      client.pending.lookup id ≠ some caller := by
    intro caller id finished found
    have armed := (registry.entry found).2.1
    rw [Phase.armed_of_finished finished] at armed
    cases armed
  refine ⟨fun _ _ => tracked.returned, tracked.once, fun few => ?_, fun caller finished => ?_⟩
  · have drawn : client.drawn < 2 ^ 64 := by
      rw [drawn_of_run ran]
      simpa [connected] using few
    -- Without a wrap the numbering tells any two calls apart.
    refine ⟨fun caller other first second apart same => ?_, fun caller finished => ?_⟩
    · exact apart (numbered.apart drawn (Phase.begun_of_outstanding first)
        (Phase.begun_of_outstanding second) same)
    · -- Whoever is registered under the id has it, and so is the same call.
      cases found : client.pending.lookup (client.calls caller).id with
      | none => rfl
      | some other =>
        obtain ⟨named, armed, _⟩ := registry.entry found
        have same := numbered.apart drawn (Phase.begun_of_armed armed)
          (Phase.begun_of_finished finished) named
        rw [same] at found
        exact absurd found (gone finished)
  · -- Wrapped or not, the call's own sender is out of the map.
    rw [← Bool.not_eq_true]
    intro held
    obtain ⟨id, found⟩ := Pending.holds_iff.mp held
    exact gone finished found

/-- Two calls: one answered twice, the other answered while it times out, with a stray frame between. -/
def exchange : List Event :=
  [.call 0 {}, .call 1 {}, .register 0, .register 1,
    .move 1 .lockWriter, .move 1 .writeOk, .move 0 .lockWriter, .move 0 .writeOk,
    .frame (MessageBuilder.build { id := 2 }) (some 1), .deliver,
    .frame (MessageBuilder.build { id := 2 }) (some 1), .frame (MessageBuilder.build { id := 9 }) none,
    .move 0 (.timeout 5), .frame (MessageBuilder.build { id := 1 }) (some 0), .deliver, .leave 0,
    .move 1 .receive]

/-- The answered call returns its response, and neither call leaves anything behind. -/
theorem calls_correlated_exchange :
    ∃ client, Transition.run (step .async) connected exchange = some client ∧
      (client.calls 1).phase = .returned (.ok (MessageBuilder.build { id := 2 })) ∧
      (MessageBuilder.build { id := 2 }).header.id = (client.calls 1).id ∧
      (client.handed.map Prod.fst).Nodup ∧
      client.pending.lookup (client.calls 0).id = none ∧
      client.pending.lookup (client.calls 1).id = none := by
  -- The run is evaluated once, and the theorem applied to whatever state it ends in.
  have reached : ∃ client, Transition.run (step .async) connected exchange = some client ∧
      (client.calls 1).phase = .returned (.ok (MessageBuilder.build { id := 2 })) ∧
      (client.calls 0).phase.finished = true := ⟨_, rfl, rfl, rfl⟩
  obtain ⟨client, ran, returned, finished⟩ := reached
  have own : ∀ caller request, .forward caller request ∉ exchange := by simp [exchange]
  have two : exchange.countP Event.draws = 2 := rfl
  obtain ⟨answered, once, few, _⟩ := calls_correlated .async own ran
  obtain ⟨_, gone⟩ := few (by rw [two]; decide)
  exact ⟨client, ran, returned, (answered 1 _ returned).1, once, gone 0 finished,
    gone 1 (by rw [returned]; rfl)⟩

end ClientState

end Repe
