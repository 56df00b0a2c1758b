import Repe.Client.CallsLaws
import Repe.Fleet.Node

/-! When a node lets go of a client whose connection is at its end. -/

namespace Repe

/-- The error that the response loop is ending the calls with. -/
def LoopPhase.error : LoopPhase → Option RepeError
  | .failing error | .draining error | .sending error _ => some error
  | .reading | .matched _ _ | .stopped => none

theorem isRetryableError_clone (error : RepeError) (id : UInt64) :
    isRetryableError (cloneFatalErrorForWaiter error id) = isRetryableError error := by
  cases error <;> rfl

namespace ClientState

variable {kind : ClientKind} {client after : ClientState} {event : Event}

/-- Whatever ends a connection is an error that the fleet retries. -/
structure EndsRetryably (client : ClientState) : Prop where
  loop : ∀ error, client.loop.error = some error → isRetryableError error = true
  told : ∀ caller error, .fatal error ∈ (client.calls caller).inbox → isRetryableError error = true

/-- The error of the loop was there before the step, or is the one it has read. -/
theorem Takes.error_before (takes : Takes kind client event after) {error : RepeError}
    (ending : after.loop.error = some error) :
    client.loop.error = some error ∨ event = .fatal error := by
  -- From the read error on, the loop carries the same error through all its phases.
  cases takes with
  | skip reading =>
    rw [note_loop] at ending
    exact .inl ending
  | matched reading found => cases ending
  | deliver matched => cases ending
  | fatal reading =>
    cases ending
    exact .inr rfl
  | shutdown failing => exact .inl (by rw [failing]; exact ending)
  | drain draining => exact .inl (by rw [draining]; exact ending)
  | sendFatal sending found => exact .inl (by rw [sending]; exact ending)
  | stop sending told => cases ending
  | _ => exact .inl ending

theorem mem_inbox_update {caller other : CallId} {call : Call} {delivery : Delivery}
    (keeps : call.inbox = (client.calls caller).inbox)
    (member : delivery ∈ (Function.update client.calls caller call other).inbox) :
    delivery ∈ (client.calls other).inbox := by
  -- The call that changes has the channel it had.
  by_cases same : other = caller
  · subst same
    rwa [Function.update_self, keeps] at member
  · rwa [Function.update_of_ne same] at member

theorem mem_inbox_note {message : Message} {origin : Option CallId} {other : CallId}
    {delivery : Delivery} (member : delivery ∈ ((client.note message origin).calls other).inbox) :
    delivery ∈ (client.calls other).inbox := by
  cases origin with
  | none => exact member
  | some caller => exact mem_inbox_update (by rfl) member

/-- An error in a channel was there before the step, or the loop has just sent it. -/
theorem Takes.fatal_before (takes : Takes kind client event after) {other : CallId}
    {error : RepeError} (member : .fatal error ∈ (after.calls other).inbox) :
    .fatal error ∈ (client.calls other).inbox ∨
      ∃ cause id, client.loop.error = some cause ∧ error = cloneFatalErrorForWaiter cause id := by
  cases takes with
  | @sendFatal id waiter cause waiters sending found =>
    -- The waiter's channel gets a copy of the loop's error.
    by_cases same : other = waiter
    · subst same
      simp only [modify_self] at member
      rcases Call.mem_offer member with before | new
      · exact .inl before
      · cases new
        exact .inr ⟨cause, id, by rw [sending]; rfl, rfl⟩
    · simp only [modify_of_ne same] at member
      exact .inl member
  | @deliver waiter response matched =>
    -- A response is no error.
    by_cases same : other = waiter
    · subst same
      simp only [modify_self] at member
      rcases Call.mem_offer member with before | new
      · exact .inl before
      · cases new
    · simp only [modify_of_ne same] at member
      exact .inl member
  | @move caller move call ready moved =>
    -- A call only takes out of its own channel.
    by_cases same : other = caller
    · subst same
      simp only [modify_self] at member
      rcases Call.move_inbox moved with unread | ⟨delivery, read⟩
      · rw [unread] at member
        exact .inl member
      · rw [read]
        exact .inl (List.mem_cons_of_mem _ member)
    · simp only [modify_of_ne same] at member
      exact .inl member
  | call idle => exact .inl (mem_inbox_update (by rfl) member)
  | forward idle => exact .inl (mem_inbox_update (by rfl) member)
  | refuse drawn clash => exact .inl (mem_inbox_update (by rfl) member)
  | register drawn => exact .inl (mem_inbox_update (by rfl) member)
  | leave armed ended => exact .inl (mem_inbox_update (by rfl) member)
  | skip reading => exact .inl (mem_inbox_note member)
  | matched reading found => exact .inl (mem_inbox_note member)
  | _ => exact .inl member

/-- A connection that ends retryably goes on doing so, if the error that ends it is retryable. -/
theorem EndsRetryably.step (ends : client.EndsRetryably) (taken : step kind client event = some after)
    (retryable : ∀ error, event = .fatal error → isRetryableError error = true) :
    after.EndsRetryably := by
  have takes := step_takes taken
  constructor
  · -- The loop ended with this error before, or has just read it.
    intro error ending
    rcases takes.error_before ending with before | read
    · exact ends.loop error before
    · exact retryable error read
  · -- A call is told a copy of the error that ended the loop.
    intro caller error member
    rcases takes.fatal_before member with before | ⟨cause, id, ending, rfl⟩
    · exact ends.told caller error before
    · rw [isRetryableError_clone]
      exact ends.loop cause ending

theorem connected_endsRetryably : connected.EndsRetryably where
  loop error ending := by cases ending
  told caller error member := by cases member

/-- A call is over with an error that the fleet retries, or about to be. -/
def OverRetryably (client : ClientState) (caller : CallId) : Prop :=
  ∃ error, isRetryableError error = true ∧
    ((client.calls caller).phase = .leaving error ∨
      (client.calls caller).phase = .returned (.error error))

theorem step_leave {caller : CallId} {error : RepeError}
    (leaving : (client.calls caller).phase = .leaving error)
    (taken : step kind client (.leave caller) = some after) :
    (after.calls caller).phase = .returned (.error error) := by
  -- A call that leaves keeps the error it leaves with.
  simp only [step, leaving] at taken
  cases taken
  simp [leave, become]

/-- A call that is over stays so. -/
theorem OverRetryably.step {caller : CallId} (over_ : client.OverRetryably caller)
    (taken : step kind client event = some after) : after.OverRetryably caller := by
  obtain ⟨error, retryable, over_⟩ := over_
  refine ⟨error, retryable, ?_⟩
  -- Nothing but its own leaving touches such a call.
  have unparked : (client.calls caller).phase.parked = false := by
    rcases over_ with phase | phase <;> rw [phase] <;> rfl
  have touched := (step_takes taken).touches caller
  generalize same : after.calls caller = call at touched
  cases touched with
  | same => exact over_
  | start request forwarded starts idle => simp [idle] at over_
  | refuse cause drawn => simp [drawn] at over_
  | register registers drawn => simp [drawn] at over_
  | move moves moved =>
    -- Only a parked call moves.
    rw [Call.move_parked moved] at unparked
    cases unparked
  | leave leaves armed ended =>
    subst leaves
    rcases over_ with leaving | returned
    · exact .inr (by rw [← same]; exact step_leave leaving taken)
    · rw [returned] at armed
      cases armed
  | answer answers => exact over_
  | offer delivery held source => rwa [Call.offer_phase]

theorem move_of_step {caller : CallId} {move : Move}
    (taken : step kind client (.move caller move) = some after) :
    (client.calls caller).move kind move = some (after.calls caller) := by
  have takes := step_takes taken
  -- A step of a call does to it what the call's own step does.
  cases takes with
  | move ready moved =>
    rw [moved]
    simp

/-- A call that is felled by the end of its connection is over, or about to be. -/
theorem over_of_fells {caller : CallId} (ends : client.EndsRetryably)
    (fells : client.fells event = some caller) (taken : step kind client event = some after)
    (retryable : ∀ error, event = .move caller (.writeFail error) → client.shut = true →
      isRetryableError error = true) : after.OverRetryably caller := by
  -- Of the four moves that can fail a call this way, two have errors of their own.
  have shut : ∀ {mover : CallId}, (if client.shut then some mover else none) = some caller →
      mover = caller ∧ client.shut = true := by
    intro mover fells
    split at fells
    · exact ⟨Option.some.inj fells, ‹_›⟩
    · cases fells
  cases event with
  | move mover move =>
    have moved := move_of_step taken
    cases move with
    | writeFail error =>
      obtain ⟨rfl, isShut⟩ := shut fells
      rw [Call.move] at moved
      split at moved
      · refine ⟨error, retryable error rfl isShut, .inl ?_⟩
        rw [← Option.some.inj moved]
      · cases moved
    | timeout millis =>
      obtain ⟨rfl, _⟩ := shut fells
      rw [Call.move] at moved
      split at moved
      · refine ⟨requestTimeoutError (client.calls mover).id millis, rfl, .inl ?_⟩
        rw [← Option.some.inj moved]
      · cases moved
    | closed =>
      obtain ⟨rfl, _⟩ := shut fells
      rw [Call.move] at moved
      split at moved
      · refine ⟨responseChannelClosedError (client.calls mover).id, rfl, .inl ?_⟩
        rw [← Option.some.inj moved]
      · cases moved
    | receive =>
      rw [ClientState.fells] at fells
      split at fells
      · rename_i error rest first
        cases fells
        -- The error is the one the loop has put there.
        have told := ends.told caller error (by rw [first]; exact List.mem_cons_self)
        rw [Call.move] at moved
        split at moved
        · obtain ⟨_, _, inbox, ⟨_, rfl, _⟩ | ⟨cause, rfl, over_⟩⟩ := Call.take_cases moved
          · rw [first] at inbox
            cases inbox
          · rw [first] at inbox
            cases inbox
            refine ⟨error, told, ?_⟩
            rcases over_ with same | same
            · exact .inr (by rw [same])
            · exact .inl (by rw [same])
        · cases moved
      · cases fells
    | _ => cases fells
  | _ => cases fells

end ClientState

namespace NodeState

variable {R : Type} {kind : ClientKind} {retry : RetryPolicy} {node after : NodeState R}
  {event : NodeEvent R}

/--
Every failure of a connection is one that the fleet retries: the error that ends a response loop,
and the error of a write to a writer that is shut down.
-/
def FailsRetryably (node : NodeState R) : NodeEvent R → Prop
  | .client _ (.fatal error) => isRetryableError error = true
  | .client client (.move _ (.writeFail error)) =>
    (node.clients client).shut = true → isRetryableError error = true
  | _ => True

instance (node : NodeState R) (event : NodeEvent R) : Decidable (node.FailsRetryably event) := by
  unfold FailsRetryably
  split <;> infer_instance

/-- What holds of the clients, as long as their connections fail retryably. -/
structure ClientsKept (node : NodeState R) : Prop where
  ends : ∀ client, (node.clients client).EndsRetryably
  doomed : ∀ client caller, node.doomed client caller = true →
    (node.clients client).OverRetryably caller

/-- What a step of a client does to the node. -/
theorem stepClient_some {client : Nat} {event : Event}
    (taken : node.stepClient kind client event = some after) :
    ∃ stepped, (node.clients client).step kind event = some stepped ∧
      after.clients = Function.update node.clients client stepped ∧
      (∀ other caller, after.doomed other caller = true → node.doomed other caller = true ∨
        (other = client ∧ (node.clients client).fells event = some caller)) ∧
      after.cached = node.cached ∧ after.connections = node.connections ∧
      after.calls = node.calls := by
  rw [stepClient] at taken
  split at taken
  · obtain ⟨stepped, step, rfl⟩ := Option.map_eq_some_iff.mp taken
    refine ⟨stepped, step, rfl, ?_, rfl, rfl, rfl⟩
    intro other caller doomed
    cases fells : (node.clients client).fells event with
    | none =>
      simp only [fells] at doomed
      exact .inl doomed
    | some felled =>
      simp only [fells] at doomed
      -- The felled call is the only one that is added.
      by_cases same : other = client ∧ caller = felled
      · exact .inr ⟨same.1, by rw [same.2]⟩
      · refine .inl ?_
        by_cases here : other = client
        · subst here
          rwa [Function.update_self, Function.update_of_ne fun is => same ⟨rfl, is⟩] at doomed
        · rwa [Function.update_of_ne here] at doomed
  · cases taken

/-- A step of a client that fails retryably keeps this. -/
theorem ClientsKept.stepClient (kept : node.ClientsKept) {client : Nat} {event : Event}
    (retryable : node.FailsRetryably (.client client event))
    (taken : node.stepClient kind client event = some after) : after.ClientsKept := by
  obtain ⟨stepped, step, clients, doomed, _⟩ := stepClient_some taken
  -- Only the client that took the step changes.
  constructor
  · intro other
    rw [clients, Function.update_apply]
    split
    · refine (kept.ends client).step step fun error fatal => ?_
      subst fatal
      exact retryable
    · exact kept.ends other
  · intro other caller is
    rw [clients, Function.update_apply]
    rcases doomed other caller is with before | ⟨rfl, fells⟩
    · split
      · rename_i same
        subst same
        exact (kept.doomed other caller before).step step
      · exact kept.doomed other caller before
    · rw [if_pos rfl]
      refine ClientState.over_of_fells (kept.ends other) fells step fun error write shut => ?_
      subst write
      exact retryable shut

inductive Moves (kind : ClientKind) (retry : RetryPolicy) (node : NodeState R) :
    NodeEvent R → NodeState R → Prop
  | begin {call : Nat} {request : NodeRequest R} :
      Moves kind retry node (.begin call request) (node.become call (.connecting ⟨request, 0⟩))
  | got {call client : Nat} {outcome : Except RepeError Unit} {attempt : RetryAttempt R}
      {between : NodeState R} (ensured : node.ensureConnected outcome = (.ok client, between)) :
      Moves kind retry node (.ensure call outcome)
        (between.become call (.connected attempt client))
  | refused {call : Nat} {outcome : Except RepeError Unit} {attempt : RetryAttempt R}
      {error : RepeError} {between : NodeState R}
      (ensured : node.ensureConnected outcome = (.error error, between)) :
      Moves kind retry node (.ensure call outcome)
        (between.become call (.failed attempt ⟨error, none, false⟩))
  | issued {call client : Nat} {caller : CallId} {attempt : RetryAttempt R} {between : NodeState R}
      (at_ : node.calls call = .connected attempt client)
      (stepped : node.stepClient kind client (.call caller attempt.request.builder) = some between) :
      Moves kind retry node (.issue call caller)
        (between.become call (.calling attempt client caller))
  | client {client : Nat} {event : Event} {between : NodeState R}
      (stepped : node.stepClient kind client event = some between) :
      Moves kind retry node (.client client event) between
  | finished {call client : Nat} {caller : CallId} {attempt : RetryAttempt R}
      {result : Except RepeError Message} (at_ : node.calls call = .calling attempt client caller)
      (returned : ((node.clients client).calls caller).phase = .returned result) :
      Moves kind retry node (.finish call)
        (node.become call (NodeState.finished attempt client (node.doomed client caller) result))
  | settled {call : Nat} {attempt : RetryAttempt R} {failure : NodeFailure}
      (at_ : node.calls call = .failed attempt failure) :
      Moves kind retry node (.settle call) (node.settle retry call attempt failure)
  | connect {outcome : Except RepeError Unit} :
      Moves kind retry node (.connect outcome) (node.ensureConnected outcome).2
  | invalidate : Moves kind retry node .invalidate node.invalidateClient
  | abandoned {call : Nat} : Moves kind retry node (.abandon call) (node.become call .dropped)

/-- Every step is one of these. -/
theorem moves_of_step (taken : node.step kind retry event = some after) :
    Moves kind retry node event after := by
  -- Each event of a call first looks where the call is.
  cases event with
  | begin call request =>
    simp only [step] at taken
    split at taken
    · cases taken
      exact .begin
    · cases taken
  | ensure call outcome =>
    simp only [step] at taken
    split at taken
    · split at taken
      · rename_i ensured
        cases taken
        exact .got ensured
      · rename_i ensured
        cases taken
        exact .refused ensured
    · cases taken
  | issue call caller =>
    simp only [step] at taken
    split at taken
    · rename_i at_
      obtain ⟨between, stepped, rfl⟩ := Option.map_eq_some_iff.mp taken
      exact .issued at_ stepped
    · cases taken
  | client client event => exact .client taken
  | finish call =>
    simp only [step] at taken
    split at taken
    · rename_i at_
      split at taken
      · rename_i returned
        cases taken
        exact .finished at_ returned
      · cases taken
    · cases taken
  | settle call =>
    simp only [step] at taken
    split at taken
    · rename_i at_
      cases taken
      exact .settled at_
    · cases taken
  | connect outcome =>
    cases taken
    exact .connect
  | invalidate =>
    cases taken
    exact .invalidate
  | abandon call =>
    simp only [step] at taken
    split at taken
    · cases taken
    · split at taken <;> cases taken
      all_goals exact .abandoned

end NodeState

/--
What holds of a call: its client is one of the node's, a failure of a dead client is retryable, and
a dead client that a call has given up on is not cached.
-/
def NodeCall.Holds {R : Type} (cached : Option Nat) (connections : Nat) : NodeCall R → Prop
  | .connected _ client | .calling _ client _ => client < connections
  | .failed _ failure => (failure.dead = true → isRetryableError failure.error = true) ∧
      ∀ client, failure.client = some client → client < connections
  | .gaveUp failure => failure.dead = true → ∀ client, failure.client = some client →
      client < connections ∧ cached ≠ some client
  | .idle | .connecting _ | .succeeded _ | .dropped => True

/-- It still holds when the node has let go of a client, or made a new connection. -/
theorem NodeCall.Holds.later {R : Type} {call : NodeCall R} {cached cached' : Option Nat}
    {connections connections' : Nat} (holds : call.Holds cached connections)
    (grows : connections ≤ connections')
    (fresh : ∀ client, cached' = some client → cached = some client ∨ connections ≤ client) :
    call.Holds cached' connections' := by
  cases call with
  | connected attempt client => exact Nat.lt_of_lt_of_le holds grows
  | calling attempt client caller => exact Nat.lt_of_lt_of_le holds grows
  | failed attempt failure =>
    exact ⟨holds.1, fun client from_ => Nat.lt_of_lt_of_le (holds.2 client from_) grows⟩
  | gaveUp failure =>
    intro dead client from_
    obtain ⟨known, uncached⟩ := holds dead client from_
    refine ⟨Nat.lt_of_lt_of_le known grows, fun again => ?_⟩
    -- A client that is cached anew has a number of its own.
    rcases fresh client again with before | later
    · exact uncached before
    · exact absurd known (Nat.not_lt.mpr later)
  | _ => trivial

namespace NodeState

variable {R : Type} {kind : ClientKind} {retry : RetryPolicy} {node after : NodeState R}
  {event : NodeEvent R}

/-- What holds of a node, as long as its connections fail retryably. -/
structure Kept (node : NodeState R) : Prop where
  clients : node.ClientsKept
  cached : ∀ client, node.cached = some client → client < node.connections
  calls : ∀ call, (node.calls call).Holds node.cached node.connections

theorem Kept.become (kept : node.Kept) {call : Nat} {phase : NodeCall R}
    (holds : phase.Holds node.cached node.connections) : (node.become call phase).Kept := by
  refine ⟨⟨kept.clients.ends, kept.clients.doomed⟩, kept.cached, fun other => ?_⟩
  -- The call goes on as it should, and the others where they are.
  simp only [NodeState.become, Function.update_apply]
  split
  · exact holds
  · exact kept.calls other

/-- `invalidate_client` keeps this. -/
theorem Kept.invalidateClient (kept : node.Kept) : node.invalidateClient.Kept := by
  -- With nothing cached there is nothing to ask of the cache.
  have uncached (client : Nat) : node.invalidateClient.cached ≠ some client := by
    simp [NodeState.invalidateClient]
  refine ⟨⟨kept.clients.ends, kept.clients.doomed⟩, ?_, ?_⟩
  · intro client cached
    exact absurd cached (uncached client)
  · intro call
    exact (kept.calls call).later (Nat.le_refl _) fun client cached =>
      absurd cached (uncached client)

/-- The client `ensure_connected` returns was cached, or has a number of its own. -/
theorem ensureConnected_ok {outcome : Except RepeError Unit} {client : Nat}
    {between : NodeState R} (ensured : node.ensureConnected outcome = (.ok client, between)) :
    node.cached = some client ∨ client = node.connections := by
  unfold NodeState.ensureConnected at ensured
  -- A cached client is handed out as it is.
  split at ensured
  · rename_i cached
    cases ensured
    exact .inl cached
  · cases outcome with
    | error error => cases ensured
    | ok _ =>
      cases ensured
      exact .inr rfl

/-- `ensure_connected` keeps this, and returns a client of the node. -/
theorem Kept.ensureConnected (kept : node.Kept) {outcome : Except RepeError Unit}
    {result : Except RepeError Nat} {between : NodeState R}
    (ensured : node.ensureConnected outcome = (result, between)) :
    between.Kept ∧ ∀ client, result = .ok client → client < between.connections := by
  unfold NodeState.ensureConnected at ensured
  -- A cached client is handed out, and nothing changes.
  split at ensured
  · rename_i client cached
    cases ensured
    refine ⟨kept, fun other same => ?_⟩
    cases same
    exact kept.cached client cached
  · rename_i uncached
    cases outcome with
    | error error =>
      cases ensured
      exact ⟨kept, fun _ same => by cases same⟩
    | ok _ =>
      cases ensured
      -- The new client has the next number, so it is none of those the calls know.
      refine ⟨⟨⟨kept.clients.ends, kept.clients.doomed⟩, ?_, ?_⟩, ?_⟩
      · intro client cached
        cases cached
        exact Nat.lt_succ_self _
      · intro call
        refine (kept.calls call).later (Nat.le_succ _) fun client cached => ?_
        cases cached
        exact .inr (Nat.le_refl _)
      · intro client same
        cases same
        exact Nat.lt_succ_self _

theorem Kept.stepClient (kept : node.Kept) {client : Nat} {event : Event}
    (retryable : node.FailsRetryably (.client client event))
    (taken : node.stepClient kind client event = some after) :
    after.Kept ∧ after.connections = node.connections := by
  obtain ⟨_, _, _, _, cached, connections, calls⟩ := stepClient_some taken
  -- A step of a client changes neither the cache nor the calls.
  refine ⟨⟨kept.clients.stepClient retryable taken, ?_, ?_⟩, connections⟩
  · rw [cached, connections]
    exact kept.cached
  · rw [cached, connections, calls]
    exact kept.calls

/-- The end of a turn keeps this: an error that is not retried is not that of a dead client. -/
theorem Kept.settle (kept : node.Kept) {call : Nat} {attempt : RetryAttempt R} {failure : NodeFailure}
    (at_ : node.calls call = .failed attempt failure) :
    (node.settle retry call attempt failure).Kept := by
  have holds := kept.calls call
  rw [at_] at holds
  rw [NodeState.settle]
  split
  -- A retryable error drops the client, whether there is another attempt or not.
  · split
    · exact kept.invalidateClient.become trivial
    · refine kept.invalidateClient.become fun _ client from_ => ?_
      exact ⟨holds.2 client from_, by simp [NodeState.invalidateClient]⟩
  · rename_i final
    exact kept.become fun dead => absurd (holds.1 dead) final

/-- The result of a client's call is retryable if the call was doomed. -/
theorem Kept.finished (kept : node.Kept) {call client : Nat} {caller : CallId} {attempt : RetryAttempt R}
    {result : Except RepeError Message} (at_ : node.calls call = .calling attempt client caller)
    (returned : ((node.clients client).calls caller).phase = .returned result) :
    (NodeState.finished attempt client (node.doomed client caller) result).Holds node.cached
      node.connections := by
  have known := kept.calls call
  rw [at_] at known
  cases result with
  | ok message =>
    rw [NodeState.finished]
    split
    · trivial
    · refine ⟨fun dead => Bool.noConfusion dead, fun other from_ => ?_⟩
      cases from_
      exact known
  | error error =>
    refine ⟨fun dead => ?_, fun other from_ => ?_⟩
    -- A doomed call is over with an error that was retryable when it was doomed.
    · obtain ⟨cause, retryable, leaving | over_⟩ := kept.clients.doomed client caller dead
      · cases returned.symm.trans leaving
      · cases returned.symm.trans over_
        exact retryable
    · cases from_
      exact known

/-- A step in which no connection fails otherwise keeps this. -/
theorem Kept.moves (kept : node.Kept) (retryable : node.FailsRetryably event)
    (moves : Moves kind retry node event after) : after.Kept := by
  -- One lemma for each part of a move; only a step of a client can end a connection.
  cases moves with
  | begin => exact kept.become trivial
  | got ensured =>
    obtain ⟨between, known⟩ := kept.ensureConnected ensured
    exact between.become (known _ rfl)
  | refused ensured =>
    obtain ⟨between, _⟩ := kept.ensureConnected ensured
    refine between.become ⟨fun dead => Bool.noConfusion dead, fun _ from_ => ?_⟩
    cases from_
  | @issued call client caller attempt between at_ stepped =>
    have known := kept.calls call
    rw [at_] at known
    obtain ⟨between, connections⟩ := kept.stepClient (by trivial) stepped
    exact between.become (by rw [connections]; exact known)
  | client stepped => exact (kept.stepClient retryable stepped).1
  | finished at_ returned => exact kept.become (kept.finished at_ returned)
  | settled at_ => exact kept.settle at_
  | connect => exact (kept.ensureConnected rfl).1
  | invalidate => exact kept.invalidateClient
  | abandoned => exact kept.become trivial

theorem kept_new : (new : NodeState R).Kept where
  clients := ⟨fun _ => ClientState.connected_endsRetryably, fun _ _ doomed => by cases doomed⟩
  cached _ cached := by cases cached
  calls _ := trivial

/--
In every run in which all failures of connections are retryable, a client whose dead connection a call
has given up on is not cached any more, and no later call gets it.
-/
theorem dead_clients_are_dropped (kind : ClientKind) (retry : RetryPolicy)
    {events : List (NodeEvent R)}
    (meets : Transition.Meets (step kind retry) FailsRetryably new events)
    (ran : Transition.run (step kind retry) new events = some node) {call : Nat}
    {failure : NodeFailure} {client : Nat} (gaveUp : node.calls call = .gaveUp failure)
    (dead : failure.dead = true) (from_ : failure.client = some client) :
    node.cached ≠ some client ∧
      ∀ other outcome after attempt, node.step kind retry (.ensure other outcome) = some after →
        after.calls other ≠ .connected attempt client := by
  have kept : node.Kept := by
    refine Transition.invariant_of_meets Kept ?_ kept_new meets ran
    intro state event after kept retryable taken
    exact kept.moves retryable (moves_of_step taken)
  have holds := kept.calls call
  rw [gaveUp] at holds
  obtain ⟨known, uncached⟩ := holds dead client from_
  refine ⟨uncached, fun other outcome after attempt taken again => ?_⟩
  -- The client that is returned was cached, or is a new one.
  cases moves_of_step taken with
  | got ensured =>
    simp only [NodeState.become, Function.update_self, NodeCall.connected.injEq] at again
    obtain ⟨_, rfl⟩ := again
    rcases ensureConnected_ok ensured with cached | fresh
    · exact uncached cached
    · exact Nat.lt_irrefl _ (fresh ▸ known)
  | refused ensured => simp [NodeState.become] at again

def threeAttempts : RetryPolicy := ⟨3, by decide⟩

def statusRequest : NodeRequest Unit := callJsonRequest (fun _ => .ok ()) "/status" none

/-- The peer hangs up on an idle client, and the next call writes to the writer that was shut down. -/
def brokenPipeRun : List (NodeEvent Unit) :=
  [.connect (.ok ()),
    .client 0 (.fatal (.io .unexpectedEof)), .client 0 .shutdown, .client 0 .drain, .client 0 .stop,
    .begin 0 statusRequest, .ensure 0 (.ok ()), .issue 0 0, .client 0 (.register 0),
    .client 0 (.move 0 .lockWriter),
    .client 0 (.move 0 (.writeFail (.io ⟨.brokenPipe, "Broken pipe (os error 32)"⟩))),
    .client 0 (.leave 0), .finish 0, .settle 0,
    .begin 1 statusRequest, .ensure 1 (.ok ())]

/-- The peer answers a blocking call with a frame of another protocol. -/
def malformedFrameRun : List (NodeEvent Unit) :=
  [.begin 0 statusRequest, .ensure 0 (.ok ()), .issue 0 0, .client 0 (.register 0),
    .client 0 (.move 0 .lockWriter), .client 0 (.move 0 .writeOk),
    .client 0 (.fatal (.invalidSpec 0)), .client 0 .shutdown, .client 0 .drain,
    .client 0 (.sendFatal 1), .client 0 .stop, .client 0 (.move 0 .receive), .finish 0, .settle 0,
    .begin 1 statusRequest, .ensure 1 (.ok ())]

/-- Call 0 gave up on the dead client 0, which is still cached and which call 1 has got again. -/
def keepsDeadClient (node : NodeState Unit) : Bool :=
  match node.calls 0, node.calls 1 with
  | .gaveUp failure, .connected _ client =>
    failure.dead && failure.client == some 0 && node.cached == some 0 && client == 0
  | _, _ => false

/-- A broken pipe and a malformed frame leave the dead client in place for the next call. -/
theorem dead_client_stays_cached :
    (∀ kind ∈ [ClientKind.blocking, .async],
      (Transition.run (step kind threeAttempts) new brokenPipeRun).map keepsDeadClient = some true) ∧
    (Transition.run (step .blocking threeAttempts) new malformedFrameRun).map keepsDeadClient
      = some true := by decide

def resetRun : List (NodeEvent Unit) :=
  [.begin 0 statusRequest, .ensure 0 (.ok ()), .issue 0 0, .client 0 (.register 0),
    .client 0 (.move 0 .lockWriter), .client 0 (.move 0 .writeOk),
    .client 0 (.fatal (.io ⟨.connectionReset, "Connection reset by peer (os error 104)"⟩)),
    .client 0 .shutdown, .client 0 .drain, .client 0 (.sendFatal 1), .client 0 .stop,
    .client 0 (.move 0 .receive), .finish 0, .settle 0]

/-- The client whose dead connection a call has given up on. -/
def deadClient (node : NodeState Unit) : Option Nat :=
  match node.calls 0 with
  | .gaveUp ⟨_, client, true⟩ => client
  | _ => none

/-- A client whose connection was reset is dropped with the call that finds out. -/
theorem reset_client_is_dropped :
    ∃ node failure, Transition.run (step .blocking ⟨1, by decide⟩) new resetRun = some node ∧
      node.calls 0 = .gaveUp failure ∧ failure.client = some 0 ∧ node.cached ≠ some 0 := by
  -- The run ends with a call that gave up on the first client.
  have outcome : (Transition.run (step .blocking ⟨1, by decide⟩) new resetRun).map deadClient
      = some (some 0) := by decide
  obtain ⟨node, ran, dead⟩ := Option.map_eq_some_iff.mp outcome
  have meets : Transition.Meets (step .blocking ⟨1, by decide⟩) FailsRetryably new resetRun := by
    decide
  unfold deadClient at dead
  split at dead
  · rename_i error client gaveUp
    subst dead
    exact ⟨node, _, ran, gaveUp, rfl,
      (dead_clients_are_dropped .blocking ⟨1, by decide⟩ meets ran gaveUp rfl rfl).1⟩
  · cases dead

end NodeState

end Repe
