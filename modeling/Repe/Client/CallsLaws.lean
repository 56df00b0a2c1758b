import Repe.Client.Calls

/-! What one step of a multiplexed client can change. -/

namespace Repe

namespace Pending

variable {pending : Pending} {id key : UInt64} {waiter other : CallId}

theorem holds_iff : pending.holds waiter = true ↔ ∃ id, pending.lookup id = some waiter := by
  -- Both sides look for an entry with this sender, in the list or by its id.
  rw [holds, List.any_eq_true]
  constructor
  · rintro ⟨⟨id, found⟩, entry, same⟩
    obtain rfl : found = waiter := by simpa using same
    exact ⟨id, AList.mem_lookup_iff.mpr entry⟩
  · rintro ⟨id, found⟩
    exact ⟨⟨id, waiter⟩, AList.mem_lookup_iff.mp found, by simp⟩

theorem lookup_erase_some (found : (pending.erase key).lookup id = some waiter) :
    id ≠ key ∧ pending.lookup id = some waiter := by
  -- Nothing is found under the key itself.
  by_cases same : id = key
  · subst same
    rw [AList.lookup_erase] at found
    cases found
  · rw [AList.lookup_erase_ne same] at found
    exact ⟨same, found⟩

/-- What is found after an insertion is the new entry, or was there before under another id. -/
theorem lookup_insert_some (found : (pending.insert key other).lookup id = some waiter) :
    (id = key ∧ waiter = other) ∨ (id ≠ key ∧ pending.lookup id = some waiter) := by
  -- Under the key it is the new waiter, elsewhere the map is as before.
  by_cases same : id = key
  · subst same
    rw [AList.lookup_insert] at found
    exact .inl ⟨rfl, (Option.some.inj found).symm⟩
  · rw [AList.lookup_insert_ne same] at found
    exact .inr ⟨same, found⟩

theorem holds_erase (held : holds (pending.erase key) waiter = true) : pending.holds waiter = true := by
  obtain ⟨id, found⟩ := holds_iff.mp held
  exact holds_iff.mpr ⟨id, (lookup_erase_some found).2⟩

end Pending

namespace Phase

/-- The call has a registration, or is on its way to remove one. -/
def armed : Phase → Bool
  | .registered | .writing | .waiting | .leaving _ | .dropping => true
  | _ => false

def early : Phase → Bool
  | .idle | .drawn => true
  | _ => false

def finished : Phase → Bool
  | .returned _ | .dropped => true
  | _ => false

def begun : Phase → Bool
  | .idle => false
  | _ => true

def outstanding : Phase → Bool
  | .idle | .returned _ | .dropped => false
  | _ => true

theorem begun_of_outstanding {phase : Phase} (outstanding : phase.outstanding = true) :
    phase.begun = true := by
  cases phase <;> simp_all [Phase.outstanding, begun]

theorem begun_of_armed {phase : Phase} (armed : phase.armed = true) : phase.begun = true := by
  cases phase <;> simp_all [Phase.armed, begun]

theorem begun_of_finished {phase : Phase} (finished : phase.finished = true) : phase.begun = true := by
  cases phase <;> simp_all [Phase.finished, begun]

theorem armed_of_parked {phase : Phase} (parked : phase.parked = true) : phase.armed = true := by
  cases phase <;> simp_all [Phase.parked, armed]

theorem early_of_armed {phase : Phase} (armed : phase.armed = true) : phase.early = false := by
  cases phase <;> simp_all [Phase.armed, early]

theorem armed_of_finished {phase : Phase} (finished : phase.finished = true) : phase.armed = false := by
  cases phase <;> simp_all [armed, Phase.finished]

end Phase

namespace Call

variable {kind : ClientKind} {call after : Call} {move : Move} {delivery : Delivery}

@[simp] theorem offer_request : (call.offer delivery).request = call.request := by
  cases phase : call.phase <;> simp [offer, phase]

@[simp] theorem offer_phase : (call.offer delivery).phase = call.phase := by
  cases phase : call.phase <;> simp [offer, phase]

@[simp] theorem offer_started : (call.offer delivery).started = call.started := by
  cases phase : call.phase <;> simp [offer, phase]

@[simp] theorem offer_written : (call.offer delivery).written = call.written := by
  cases phase : call.phase <;> simp [offer, phase]

@[simp] theorem offer_answered : (call.offer delivery).answered = call.answered := by
  cases phase : call.phase <;> simp [offer, phase]

def identity (call : Call) : Message × Bool := (call.request, call.phase.begun)

theorem mem_offer {found : Delivery} (inside : found ∈ (call.offer delivery).inbox) :
    found ∈ call.inbox ∨ found = delivery := by
  cases phase : call.phase <;> simp_all [offer]

theorem offer_ne_nil (parked : call.phase.parked = true) : (call.offer delivery).inbox ≠ [] := by
  cases phase : call.phase <;> simp_all [offer, Phase.parked]

/-- Everything a call can do with the value it takes from its channel. -/
theorem take_cases (taken : call.take kind = some after) :
    ∃ delivery rest, call.inbox = delivery :: rest ∧
      ((∃ response, delivery = .response response ∧
          after = { call with phase := .returned (call.validate response.message), inbox := rest }) ∨
        (∃ error, delivery = .fatal error ∧
          (after = { call with phase := .returned (.error error), inbox := rest } ∨
            after = { call with phase := .leaving error, inbox := rest }))) := by
  rw [take] at taken
  -- An empty channel gives nothing to take.
  split at taken
  · cases taken
  · rename_i response rest split_
    cases taken
    exact ⟨_, rest, split_, .inl ⟨response, rfl, rfl⟩⟩
  · rename_i error rest split_
    -- The blocking client returns here, and the others leave through the guard.
    split at taken
    · cases taken
      exact ⟨_, rest, split_, .inr ⟨error, rfl, .inl rfl⟩⟩
    · cases taken
      exact ⟨_, rest, split_, .inr ⟨error, rfl, .inr rfl⟩⟩

/-- Everything a step between registration and end can do to its call. -/
theorem move_cases (taken : call.move kind move = some after) :
    (∃ phase, call.phase.parked = true ∧ phase.parked = false ∧ phase.armed = true ∧
        after = { call with phase }) ∨
      (call.phase = .registered ∧ after = { call with phase := .writing, started := true }) ∨
      (move = .writeOk ∧ call.phase = .writing ∧
        after = { call with phase := .waiting, written := true }) ∨
      (call.phase = .waiting ∧ call.take kind = some after) := by
  -- Every step but three leaves for the end of the call, from one of the parked phases.
  have leaves : ∀ {phase : Phase}, call.phase.parked = true → phase.parked = false →
      phase.armed = true → some { call with phase } = some after →
      ∃ phase, call.phase.parked = true ∧ phase.parked = false ∧ phase.armed = true ∧
        after = { call with phase } := by
    intro phase before away armed same
    exact ⟨phase, before, away, armed, (Option.some.inj same).symm⟩
  -- Each step is possible in one phase only, except for the cancellation.
  cases move with
  | refuse =>
    rw [Call.move] at taken
    split at taken
    · rename_i before _
      exact .inl (leaves (by rw [before]; rfl) rfl rfl taken)
    · cases taken
  | lockWriter =>
    rw [Call.move] at taken
    split at taken
    · rename_i before _
      exact .inr (.inl ⟨before, (Option.some.inj taken).symm⟩)
    · cases taken
  | writeOk =>
    rw [Call.move] at taken
    split at taken
    · rename_i before
      exact .inr (.inr (.inl ⟨rfl, before, (Option.some.inj taken).symm⟩))
    · cases taken
  | writeFail error =>
    rw [Call.move] at taken
    split at taken
    · rename_i before
      exact .inl (leaves (by rw [before]; rfl) rfl rfl taken)
    · cases taken
  | receive =>
    rw [Call.move] at taken
    split at taken
    · rename_i before
      exact .inr (.inr (.inr ⟨before, taken⟩))
    · cases taken
  | timeout millis =>
    rw [Call.move] at taken
    split at taken
    · rename_i before _
      exact .inl (leaves (by rw [before]; rfl) rfl rfl taken)
    · cases taken
  | closed =>
    rw [Call.move] at taken
    split at taken
    · rename_i before _
      exact .inl (leaves (by rw [before]; rfl) rfl rfl taken)
    · cases taken
  | cancel =>
    rw [Call.move] at taken
    split at taken
    · rename_i allowed
      exact .inl (leaves allowed.2 rfl rfl taken)
    · cases taken

theorem move_parked (taken : call.move kind move = some after) : call.phase.parked = true := by
  -- The first kind of move says so itself; the others start in a phase that is parked.
  rcases move_cases taken with ⟨_, before, _⟩ | ⟨before, _⟩ | ⟨_, before, _⟩ | ⟨before, _⟩
  · exact before
  all_goals
    rw [before]
    rfl

theorem move_keeps (taken : call.move kind move = some after) :
    after.request = call.request ∧ after.answered = call.answered := by
  -- The phase, the channel and the two write flags are all that changes.
  rcases move_cases taken with ⟨_, _, _, _, rfl⟩ | ⟨_, rfl⟩ | ⟨_, _, rfl⟩ | ⟨_, received⟩
  · exact ⟨rfl, rfl⟩
  · exact ⟨rfl, rfl⟩
  · exact ⟨rfl, rfl⟩
  · obtain ⟨_, _, _, ⟨_, _, rfl⟩ | ⟨_, _, rfl | rfl⟩⟩ := take_cases received <;> exact ⟨rfl, rfl⟩

theorem move_inbox (taken : call.move kind move = some after) :
    after.inbox = call.inbox ∨ ∃ delivery, call.inbox = delivery :: after.inbox := by
  -- Only a call that receives takes something off its channel.
  rcases move_cases taken with ⟨_, _, _, _, rfl⟩ | ⟨_, rfl⟩ | ⟨_, _, rfl⟩ | ⟨_, received⟩
  · exact .inl rfl
  · exact .inl rfl
  · exact .inl rfl
  · obtain ⟨delivery, _, first, ⟨_, _, rfl⟩ | ⟨_, _, rfl | rfl⟩⟩ := take_cases received <;>
      exact .inr ⟨delivery, first⟩

theorem move_early (taken : call.move kind move = some after) : after.phase.early = false := by
  rcases move_cases taken with ⟨_, _, _, armed, rfl⟩ | ⟨_, rfl⟩ | ⟨_, _, rfl⟩ | ⟨_, received⟩
  · -- A call on its way out is still armed.
    exact Phase.early_of_armed armed
  · rfl
  · rfl
  · obtain ⟨_, _, _, ⟨_, _, rfl⟩ | ⟨_, _, rfl | rfl⟩⟩ := take_cases received <;> rfl

/-- A response that passes the checks is returned as it came, and carries the expected id. -/
theorem validate_ok {response message : Message} (valid : call.validate response = .ok message) :
    message = response ∧ response.header.id = call.id := by
  rw [validate] at valid
  -- Both functions compare the ids before they accept.
  split at valid
  · rw [validateForwarded] at valid
    split at valid
    · cases valid
    split at valid
    · cases valid
    · rename_i same
      cases valid
      exact ⟨rfl, not_not.mp same⟩
  · rw [validateResponse] at valid
    split at valid
    · cases valid
    split at valid
    · cases valid
    -- Past the id only the error code can refuse the response.
    rename_i same
    split at valid
    · cases valid
    · cases valid
      exact ⟨rfl, not_not.mp same⟩

/-- A step returns a response only out of the channel, and only with the call's own id. -/
theorem move_ok {message : Message} (taken : call.move kind move = some after)
    (returned : after.phase = .returned (.ok message)) :
    message.header.id = call.id ∧
      ∃ response, .response response ∈ call.inbox ∧ response.message = message := by
  rcases move_cases taken with ⟨phase, _, _, armed, rfl⟩ | ⟨_, rfl⟩ | ⟨_, _, rfl⟩ | ⟨_, received⟩
  · -- A call on its way out has not returned.
    obtain rfl : phase = .returned (.ok message) := returned
    cases armed
  · cases returned
  · cases returned
  · obtain ⟨_, rest, first, ⟨response, rfl, rfl⟩ | ⟨_, _, rfl | rfl⟩⟩ := take_cases received
    · obtain ⟨rfl, same⟩ := validate_ok (Phase.returned.inj returned)
      exact ⟨same, response, by rw [first]; exact List.mem_cons_self, rfl⟩
    · cases returned
    · cases returned

theorem move_identity (taken : call.move kind move = some after) : after.identity = call.identity := by
  -- The call had begun, and cannot go back to idle.
  have begun := Phase.begun_of_armed (Phase.armed_of_parked (move_parked taken))
  have still : after.phase.begun = true := by
    have past := move_early taken
    cases phase : after.phase <;> simp_all [Phase.early, Phase.begun]
  rw [identity, identity, (move_keeps taken).1, begun, still]

theorem move_written (taken : call.move kind move = some after) (written : after.written = true) :
    call.written = true ∨ move = .writeOk := by
  -- A request counts as written only by the step that completes the write.
  rcases move_cases taken with ⟨_, _, _, _, rfl⟩ | ⟨_, rfl⟩ | ⟨completed, _, rfl⟩ | ⟨_, received⟩
  · exact .inl written
  · exact .inl written
  · exact .inr completed
  · obtain ⟨_, _, _, ⟨_, _, rfl⟩ | ⟨_, _, rfl | rfl⟩⟩ := take_cases received <;> exact .inl written

theorem move_waiting (taken : call.move kind move = some after) (waiting : after.phase = .waiting) :
    after.written = true := by
  rcases move_cases taken with ⟨phase, _, away, _, rfl⟩ | ⟨_, rfl⟩ | ⟨_, _, rfl⟩ | ⟨_, received⟩
  · -- A call on its way out does not wait.
    obtain rfl : phase = .waiting := waiting
    cases away
  · cases waiting
  · rfl
  · obtain ⟨_, _, _, ⟨_, _, rfl⟩ | ⟨_, _, rfl | rfl⟩⟩ := take_cases received <;> cases waiting

theorem move_still (taken : call.move kind move = some after) (parked : after.phase.parked = true) :
    after.inbox = call.inbox := by
  -- Whoever takes a value off its channel is not parked any more.
  rcases move_cases taken with ⟨_, _, _, _, rfl⟩ | ⟨_, rfl⟩ | ⟨_, _, rfl⟩ | ⟨_, received⟩
  · rfl
  · rfl
  · rfl
  · obtain ⟨_, _, _, ⟨_, _, rfl⟩ | ⟨_, _, rfl | rfl⟩⟩ := take_cases received <;> cases parked

theorem move_armed (taken : call.move kind move = some after) (empty : call.inbox = []) :
    after.phase.armed = true := by
  rcases move_cases taken with ⟨_, _, _, armed, rfl⟩ | ⟨_, rfl⟩ | ⟨_, _, rfl⟩ | ⟨_, received⟩
  · exact armed
  · rfl
  · rfl
  · -- There was nothing to take.
    obtain ⟨_, _, first, _⟩ := take_cases received
    rw [empty] at first
    cases first

end Call

namespace Event

def starts : Event → Bool
  | .call .. | .forward .. => true
  | _ => false

def read : Event → Option Message
  | .frame message _ => some message
  | _ => none

def draws : Event → Bool
  | .call .. | .notify => true
  | _ => false

end Event

namespace ClientState

section Laws

variable {kind : ClientKind} {client after : ClientState} {event : Event} {caller other : CallId}
  {change : Call → Call} {response : Response}

@[simp] theorem modify_self : (client.modify caller change).calls caller = change (client.calls caller) :=
  Function.update_self ..

@[simp] theorem modify_of_ne (apart : other ≠ caller) :
    (client.modify caller change).calls other = client.calls other :=
  Function.update_of_ne apart ..

@[simp] theorem note_pending (message : Message) (origin : Option CallId) :
    (client.note message origin).pending = client.pending := by
  cases origin <;> rfl

@[simp] theorem note_loop (message : Message) (origin : Option CallId) :
    (client.note message origin).loop = client.loop := by
  cases origin <;> rfl

/-- A frame is dropped, or it takes the registration under its id out of the map. -/
theorem dispatch_cases (kind : ClientKind) (client : ClientState) (response : Response) :
    client.dispatch kind response = client ∨
      ∃ waiter, client.pending.lookup response.message.header.id = some waiter ∧
        client.dispatch kind response = { client with
          pending := client.pending.erase response.message.header.id
          loop := .matched waiter response } := by
  -- The lookup decides, once the frame gets that far.
  have correlated : client.correlate response = client ∨
      ∃ waiter, client.pending.lookup response.message.header.id = some waiter ∧
        client.correlate response = { client with
          pending := client.pending.erase response.message.header.id
          loop := .matched waiter response } := by
    rw [correlate]
    split
    · rename_i waiter found
      exact .inr ⟨waiter, found, rfl⟩
    · exact .inl rfl
  cases kind with
  | blocking => exact correlated
  | async => exact correlated
  | webSocket limit =>
    rw [dispatch]
    split
    · -- A notify goes to the slot of the WebSocket client.
      exact .inl rfl
    · exact correlated

/-- The possible steps as a relation, one rule for each outcome. -/
inductive Takes (kind : ClientKind) (client : ClientState) : Event → ClientState → Prop where
  | call {caller : CallId} {builder : MessageBuilder}
      (idle : (client.calls caller).phase = .idle) :
      Takes kind client (.call caller builder)
        (client.start caller (MessageBuilder.build { builder with id := client.nextId })
          false).nextRequestId
  | forward {caller : CallId} {request : Message} (idle : (client.calls caller).phase = .idle) :
      Takes kind client (.forward caller request) (client.start caller request true)
  | notify : Takes kind client .notify client.nextRequestId
  | refuse {caller : CallId} (drawn : (client.calls caller).phase = .drawn)
      (taken : (client.calls caller).id ∈ client.pending) :
      Takes kind client (.register caller)
        (client.become caller (.returned (.error (duplicateRequestIdError (client.calls caller).id))))
  | register {caller : CallId} (drawn : (client.calls caller).phase = .drawn)
      (free : kind ≠ .blocking → (client.calls caller).id ∉ client.pending) :
      Takes kind client (.register caller)
        { client.become caller .registered with
          pending := client.pending.insert (client.calls caller).id caller }
  | move {caller : CallId} {move : Move} {call : Call} (ready : client.ready caller move = true)
      (moved : (client.calls caller).move kind move = some call) :
      Takes kind client (.move caller move)
        { client.modify caller fun _ => call with holder := client.holderAfter caller move }
  | leave {caller : CallId} {phase : Phase} (armed : (client.calls caller).phase.armed = true)
      (ended : phase = .dropped ∨ ∃ error, phase = .returned (.error error)) :
      Takes kind client (.leave caller) (client.leave caller phase)
  /-- The frame was set aside as a notify, or nobody waits under its id. -/
  | skip {message : Message} {origin : Option CallId} (reading : client.loop = .reading) :
      Takes kind client (.frame message origin) (client.note message origin)
  | matched {message : Message} {origin : Option CallId} {waiter : CallId}
      (reading : client.loop = .reading)
      (found : client.pending.lookup message.header.id = some waiter) :
      Takes kind client (.frame message origin)
        { client.note message origin with
          pending := client.pending.erase message.header.id
          loop := .matched waiter ⟨message, client.received.length, origin⟩ }
  | deliver {waiter : CallId} {response : Response}
      (matched : client.loop = .matched waiter response) :
      Takes kind client .deliver
        { client.modify waiter (·.offer (.response response)) with
          loop := .reading
          handed := client.handed ++ [(response.number, waiter)] }
  | fatal {error : RepeError} (reading : client.loop = .reading) :
      Takes kind client (.fatal error) { client with loop := .failing error }
  | shutdown {error : RepeError} (failing : client.loop = .failing error) :
      Takes kind client .shutdown { client with loop := .draining error, shut := true }
  | drain {error : RepeError} (draining : client.loop = .draining error) :
      Takes kind client .drain { client with loop := .sending error client.pending, pending := ∅ }
  | sendFatal {id : UInt64} {waiter : CallId} {error : RepeError} {waiters : Pending}
      (sending : client.loop = .sending error waiters) (found : waiters.lookup id = some waiter) :
      Takes kind client (.sendFatal id)
        { client.modify waiter (·.offer (.fatal (cloneFatalErrorForWaiter error id))) with
          loop := .sending error (waiters.erase id) }
  | stop {error : RepeError} {waiters : Pending} (sending : client.loop = .sending error waiters)
      (told : ∀ id, waiters.lookup id = none) :
      Takes kind client .stop { client with loop := .stopped }

/-- Only a client that looks before it inserts refuses a registration. -/
theorem takes_register {caller : CallId}
    (taken : step kind client (.register caller) = some after) :
    Takes kind client (.register caller) after := by
  rw [step] at taken
  split at taken
  · rename_i drawn
    obtain rfl := Option.some.inj taken
    -- Only a client that looks before it inserts refuses a registration.
    rw [register]
    split
    · rename_i clash
      exact .refuse drawn clash.2
    · rename_i clear
      exact .register drawn fun looks taken => clear ⟨looks, taken⟩
  · cases taken

theorem takes_leave {caller : CallId} (taken : step kind client (.leave caller) = some after) :
    Takes kind client (.leave caller) after := by
  -- A guard that leaves has an error to return, or was dropped.
  rw [step] at taken
  split at taken
  · rename_i error leaving
    cases taken
    exact .leave (by rw [leaving]; rfl) (.inr ⟨error, rfl⟩)
  · rename_i dropping
    cases taken
    exact .leave (by rw [dropping]; rfl) (.inl rfl)
  · cases taken

/-- A frame is skipped, or matched with the call that waits for its id. -/
theorem takes_frame {message : Message} {origin : Option CallId}
    (taken : step kind client (.frame message origin) = some after) :
    Takes kind client (.frame message origin) after := by
  rw [step] at taken
  split at taken
  · rename_i reading
    obtain rfl := Option.some.inj taken
    -- Recording the frame first changes neither the map nor the loop.
    rcases dispatch_cases kind (client.note message origin)
      ⟨message, client.received.length, origin⟩ with dropped | ⟨waiter, found, outcome⟩
    · rw [dropped]
      exact .skip reading
    · rw [outcome, note_pending]
      rw [note_pending] at found
      exact .matched reading found
  · cases taken

/-- The loop stops once nobody is left to be told. -/
theorem takes_stop (taken : step kind client .stop = some after) : Takes kind client .stop after := by
  rw [step] at taken
  split at taken
  · rename_i error waiters sending
    split at taken
    · -- The loop stops once the list of those to be told is used up.
      rename_i told
      cases taken
      refine .stop sending fun id => ?_
      have empty : waiters = ∅ := AList.ext (List.isEmpty_iff.mp told)
      rw [empty, AList.lookup_empty]
    · cases taken
  · cases taken

/-- Every step follows one of the rules. -/
theorem step_takes (taken : step kind client event = some after) : Takes kind client event after := by
  -- The guard of a step is what its rule asks for; without it there is no step.
  cases event with
  | call caller builder =>
    rw [step] at taken
    split at taken
    · rename_i idle
      cases taken
      exact .call idle
    · cases taken
  | forward caller request =>
    rw [step] at taken
    split at taken
    · rename_i idle
      split at taken
      · cases taken
        exact .forward idle
      · cases taken
    · cases taken
  | notify =>
    cases taken
    exact .notify
  | register caller => exact takes_register taken
  | move caller move =>
    rw [step] at taken
    split at taken
    · rename_i ready
      obtain ⟨call, moved, rfl⟩ := Option.map_eq_some_iff.mp taken
      exact .move ready moved
    · cases taken
  | leave caller => exact takes_leave taken
  | frame message origin => exact takes_frame taken
  | deliver =>
    rw [step] at taken
    split at taken
    · rename_i matched
      cases taken
      exact .deliver matched
    · cases taken
  | fatal error =>
    rw [step] at taken
    split at taken
    · rename_i reading
      cases taken
      exact .fatal reading
    · cases taken
  | shutdown =>
    rw [step] at taken
    split at taken
    · rename_i failing _
      cases taken
      exact .shutdown failing
    · cases taken
  | drain =>
    rw [step] at taken
    split at taken
    · rename_i draining
      cases taken
      exact .drain draining
    · cases taken
  | sendFatal id =>
    rw [step] at taken
    split at taken
    · rename_i sending
      obtain ⟨waiter, found, rfl⟩ := Option.map_eq_some_iff.mp taken
      exact .sendFatal sending found
    · cases taken
  | stop => exact takes_stop taken

inductive Touches (kind : ClientKind) (client : ClientState) (event : Event) (caller : CallId) :
    Call → Prop where
  | same : Touches kind client event caller (client.calls caller)
  | start (request : Message) (forwarded : Bool) (starts : event.starts = true)
      (idle : (client.calls caller).phase = .idle) :
      Touches kind client event caller
        { client.calls caller with request, forwarded, phase := .drawn }
  | refuse (error : RepeError) (drawn : (client.calls caller).phase = .drawn) :
      Touches kind client event caller
        { client.calls caller with phase := .returned (.error error) }
  | register (registers : event = .register caller)
      (drawn : (client.calls caller).phase = .drawn)
      (free : kind ≠ .blocking → (client.calls caller).id ∉ client.pending) :
      Touches kind client event caller { client.calls caller with phase := .registered }
  | move {move : Move} {call : Call} (moves : event = .move caller move)
      (moved : (client.calls caller).move kind move = some call) :
      Touches kind client event caller call
  | leave {phase : Phase} (leaves : event = .leave caller)
      (armed : (client.calls caller).phase.armed = true)
      (ended : phase = .dropped ∨ ∃ error, phase = .returned (.error error)) :
      Touches kind client event caller { client.calls caller with phase }
  | answer {message : Message} (answers : event = .frame message (some caller)) :
      Touches kind client event caller { client.calls caller with answered := true }
  | offer (delivery : Delivery) (held : client.loop.holds caller = true)
      (source : ∀ response, delivery = .response response →
        event = .deliver ∧ client.loop = .matched caller response) :
      Touches kind client event caller ((client.calls caller).offer delivery)

theorem touches_update {call : Call} (touched : Touches kind client event caller call)
    (other : CallId) :
    Touches kind client event other (Function.update client.calls caller call other) := by
  -- A change to one call touches that call only.
  by_cases same : other = caller
  · subst same
    rw [Function.update_self]
    exact touched
  · rw [Function.update_of_ne same]
    exact .same

theorem touches_note (message : Message) (origin : Option CallId) (other : CallId) :
    Touches kind client (.frame message origin) other ((client.note message origin).calls other) := by
  cases origin with
  | none => exact .same
  | some caller => exact touches_update (.answer rfl) other

namespace Takes

/-- Every step does to every call one of the things a step can do to it. -/
theorem touches (takes : Takes kind client event after) (other : CallId) :
    Touches kind client event other (after.calls other) := by
  cases takes with
  -- Eight kinds of steps change one call each, and the rest change none.
  | call idle => exact touches_update (.start _ _ rfl idle) other
  | forward idle => exact touches_update (.start _ _ rfl idle) other
  | refuse drawn clash => exact touches_update (.refuse _ drawn) other
  | register drawn free => exact touches_update (.register rfl drawn free) other
  | move ready moved => exact touches_update (.move rfl moved) other
  | leave armed ended => exact touches_update (.leave rfl armed ended) other
  | skip reading => exact touches_note _ _ other
  | matched reading found => exact touches_note _ _ other
  | deliver matched =>
    refine touches_update (.offer _ ?_ fun response same => ?_) other
    · simp [matched, LoopPhase.holds]
    · cases same
      exact ⟨rfl, matched⟩
  | sendFatal sending found =>
    refine touches_update (.offer _ ?_ fun response same => by cases same) other
    -- The waiter is one of those the loop took out of the map.
    rw [sending]
    exact Pending.holds_iff.mpr ⟨_, found⟩
  | _ => exact .same

/-- A step that makes no call keeps every request, and makes no call. -/
theorem identity (takes : Takes kind client event after) (quiet : event.starts = false)
    (other : CallId) : (after.calls other).identity = (client.calls other).identity := by
  -- A call becomes begun only by being made.
  have touched := takes.touches other
  generalize after.calls other = call at touched ⊢
  cases touched with
  | same => rfl
  | start request forwarded starts idle =>
    rw [starts] at quiet
    cases quiet
  | refuse error drawn =>
    rw [Call.identity, Call.identity, drawn]
    rfl
  | register registers drawn =>
    rw [Call.identity, Call.identity, drawn]
    rfl
  | move moves moved => exact Call.move_identity moved
  | leave leaves armed ended =>
    rw [Call.identity, Call.identity, Phase.begun_of_armed armed]
    rcases ended with rfl | ⟨error, rfl⟩ <;> rfl
  | answer answers => rfl
  | offer delivery held source => simp [Call.identity]

theorem counter (takes : Takes kind client event after) (quiet : event.draws = false) :
    after.nextId = client.nextId ∧ after.drawn = client.drawn := by
  -- Calls and notifies draw an id; a frame that is read leaves the counter alone.
  cases takes with
  | call idle => cases quiet
  | notify => cases quiet
  | @skip message origin reading => cases origin <;> exact ⟨rfl, rfl⟩
  | @matched message origin waiter reading found => cases origin <;> exact ⟨rfl, rfl⟩
  | _ => exact ⟨rfl, rfl⟩

theorem drawn (takes : Takes kind client event after) :
    after.drawn = client.drawn + if event.draws then 1 else 0 := by
  -- By whether the event draws.
  by_cases draws : event.draws = true
  · rw [if_pos draws]
    cases takes <;> first | rfl | cases draws
  · rw [if_neg draws]
    exact (takes.counter (Bool.not_eq_true _ ▸ draws)).2

/-- A registration was there before the step, or the step made it for a call that had only drawn its id. -/
theorem lookup_before (takes : Takes kind client event after) {id : UInt64}
    (found : after.pending.lookup id = some other) :
    client.pending.lookup id = some other ∨
      (event = .register other ∧ (client.calls other).phase = .drawn ∧
        id = (client.calls other).id ∧ after.loop = client.loop ∧
        after.calls other = { client.calls other with phase := .registered }) := by
  -- Only a registration adds to the map.
  cases takes with
  | register drawn =>
    rcases Pending.lookup_insert_some found with ⟨rfl, rfl⟩ | ⟨_, before⟩
    · exact .inr ⟨rfl, drawn, rfl, rfl, Function.update_self ..⟩
    · exact .inl before
  | leave armed ended => exact .inl (Pending.lookup_erase_some found).2
  | skip reading =>
    rw [note_pending] at found
    exact .inl found
  | matched reading present => exact .inl (Pending.lookup_erase_some found).2
  | drain draining =>
    rw [AList.lookup_empty] at found
    cases found
  | _ => exact .inl found

theorem lookup_left (takes : Takes kind client (.leave caller) after) :
    after.pending.lookup (client.calls caller).id = none := by
  cases takes with
  | leave armed ended => exact AList.lookup_erase _ _

/-- A sender the loop holds was held before the step, or the step took it out of the map. -/
theorem holds_before (takes : Takes kind client event after)
    (held : after.loop.holds other = true) :
    client.loop.holds other = true ∨
      ∃ id, client.pending.lookup id = some other ∧ after.pending.lookup id = none := by
  -- The loop gets senders from the map, by a match or by the drain.
  cases takes with
  | skip reading =>
    rw [note_loop] at held
    exact .inl held
  | matched reading found =>
    obtain rfl : _ = other := by simpa [LoopPhase.holds] using held
    exact .inr ⟨_, found, AList.lookup_erase _ _⟩
  | deliver matched => cases held
  | fatal reading => cases held
  | shutdown failing => cases held
  | drain draining =>
    obtain ⟨id, found⟩ := Pending.holds_iff.mp held
    exact .inr ⟨id, found, AList.lookup_empty _⟩
  | sendFatal sending found =>
    rw [sending]
    exact .inl (Pending.holds_erase held)
  | stop sending told => cases held
  | _ => exact .inl held

/-- A request that counts as written did so before the step, or the step completed its write. -/
theorem written_before (takes : Takes kind client event after)
    (written : (after.calls other).written = true) :
    (client.calls other).written = true ∨ event = .move other .writeOk := by
  have touched := takes.touches other
  generalize after.calls other = call at touched written
  -- Only a step of the call's own can complete its write.
  cases touched with
  | move moves moved =>
    rcases Call.move_written moved written with before | rfl
    · exact .inl before
    · exact .inr moves
  | offer delivery held source => exact .inl (Call.offer_written.symm.trans written)
  | _ => exact .inl written

/-- A response in a channel was there before the step, or the step sent it. -/
theorem inbox_before (takes : Takes kind client event after) {response : Response}
    (member : .response response ∈ (after.calls other).inbox) :
    .response response ∈ (client.calls other).inbox ∨
      (event = .deliver ∧ client.loop = .matched other response) := by
  have touched := takes.touches other
  generalize after.calls other = call at touched member
  -- Taking a value shortens the channel, and only a send makes it longer.
  cases touched with
  | move moves moved =>
    rcases Call.move_inbox moved with unread | ⟨delivery, read⟩
    · rw [unread] at member
      exact .inl member
    · rw [read]
      exact .inl (List.mem_cons_of_mem _ member)
  | offer delivery held source =>
    rcases Call.mem_offer member with before | new
    · exact .inl before
    · exact .inr (source response new.symm)
  | _ => exact .inl member

/-- The response the loop holds was matched before the step, or is the frame the step has read. -/
theorem matched_before (takes : Takes kind client event after) {waiter : CallId}
    {response : Response} (matched : after.loop = .matched waiter response) :
    client.loop = .matched waiter response ∨
      (event = .frame response.message response.origin ∧
        client.pending.lookup response.message.header.id = some waiter ∧
        response.number = client.received.length) := by
  cases takes with
  | skip reading =>
    rw [note_loop] at matched
    exact .inl matched
  | matched reading found =>
    -- The match was made by this step.
    cases matched
    exact .inr ⟨rfl, found, rfl⟩
  | deliver _ => cases matched
  | fatal reading => cases matched
  | shutdown failing => cases matched
  | drain draining => cases matched
  | sendFatal sending found => cases matched
  | stop sending told => cases matched
  | _ => exact .inl matched

/-- A response that a call has returned was returned before the step, or taken from its channel by it. -/
theorem returned_before (takes : Takes kind client event after) {message : Message}
    (returned : (after.calls other).phase = .returned (.ok message)) :
    (after.calls other).id = (client.calls other).id ∧
      ((client.calls other).phase = .returned (.ok message) ∨
        message.header.id = (client.calls other).id ∧
          ∃ response, .response response ∈ (client.calls other).inbox ∧
            response.message = message) := by
  have touched := takes.touches other
  generalize after.calls other = call at touched returned ⊢
  -- Of all that can happen to a call, only its own step returns a response.
  cases touched with
  | same => exact ⟨rfl, .inl returned⟩
  | start request forwarded starts idle => cases returned
  | refuse error drawn => cases returned
  | register registers drawn => cases returned
  | move moves moved =>
    exact ⟨congrArg (·.header.id) (Call.move_keeps moved).1, .inr (Call.move_ok moved returned)⟩
  | leave leaves armed ended => rcases ended with rfl | ⟨error, rfl⟩ <;> cases returned
  | answer answers => exact ⟨rfl, .inl returned⟩
  | offer delivery held source =>
    rw [Call.offer_phase] at returned
    exact ⟨congrArg (·.header.id) Call.offer_request, .inl returned⟩

theorem received (takes : Takes kind client event after) :
    after.received = client.received ++ event.read.toList := by
  -- Only the two ways of reading a frame add one.
  cases takes with
  | @skip message origin reading => cases origin <;> rfl
  | @matched message origin waiter reading found => cases origin <;> rfl
  | _ => exact (List.append_nil _).symm

theorem handed (takes : Takes kind client event after) :
    (event ≠ .deliver ∧ after.handed = client.handed) ∨
      (event = .deliver ∧ ∃ waiter response, client.loop = .matched waiter response ∧
        after.loop = .reading ∧ after.handed = client.handed ++ [(response.number, waiter)]) := by
  -- A response is sent only in the step that lets go of it.
  cases takes with
  | @skip message origin reading =>
    refine .inl ⟨Event.noConfusion, ?_⟩
    cases origin <;> rfl
  | @matched message origin waiter reading found =>
    refine .inl ⟨Event.noConfusion, ?_⟩
    cases origin <;> rfl
  | deliver matched => exact .inr ⟨rfl, _, _, matched, rfl, rfl⟩
  | _ => exact .inl ⟨Event.noConfusion, rfl⟩

end Takes

end Laws

end ClientState

end Repe
