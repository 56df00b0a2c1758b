import Repe.Fleet.Node
import Repe.Lib.Retry

/-! The retry loop of a fleet: how many attempts a call makes, what it drops between them, and what it
reports. -/

namespace Repe

/-- `RetryPolicy` and the default timeout of a fleet, as they are given; times are in nanoseconds. -/
structure FleetOptions where
  defaultTimeout : Nat
  maxAttempts : Nat
  delay : Nat
  deriving DecidableEq, Repr

/-- The errors `validate_fleet_options` reports. -/
inductive FleetError where
  | invalidTimeout
  | invalidRetryAttempts
  deriving DecidableEq, Repr

def validateTimeout (timeout : Nat) : Except FleetError Unit :=
  if timeout = 0 then .error .invalidTimeout else .ok ()

def validateFleetOptions (options : FleetOptions) : Except FleetError Unit := do
  validateTimeout options.defaultTimeout
  if options.maxAttempts < 1 then .error .invalidRetryAttempts else .ok ()

structure RemoteResult (R : Type) where
  node : String
  value : Option R
  error : Option RepeError

inductive RetryStep (C : Type) where
  | attempt (number : Nat) (found : Option C)
  | invalidate
  | sleep (delay : Nat)
  deriving DecidableEq, Repr

/-- `NodeState::client`, and what the call has done about it so far. -/
structure NodeCache (C : Type) where
  cached : Option C
  trace : List (RetryStep C)
  deriving DecidableEq, Repr

structure RetryTurn (C : Type) where
  /-- What other threads leave of the cache until the attempt locks it. -/
  others : Option C → Option C
  connect : Except RepeError C
  answer : C → MessageBuilder → Except RepeError Message

section Loop

variable {C R : Type}

/-- `ensure_connected`: the cached client, or a new one, which is cached. -/
def ensureConnected (turn : RetryTurn C) (cached : Option C) : Except RepeError C × Option C :=
  match cached with
  | some existing => (.ok existing, cached)
  | none =>
    match turn.connect with
    | .ok created => (.ok created, some created)
    | .error error => (.error error, none)

/-- The closure of one attempt: a client, its response, and what that decodes to. -/
def attemptCall (turn : RetryTurn C) (request : NodeRequest R) (cached : Option C) :
    Except RepeError R × Option C :=
  match ensureConnected turn cached with
  | (.error error, cached) => (.error error, cached)
  | (.ok client, cached) => (turn.answer client request.builder >>= request.decode, cached)

/-- The loop that the two calls have a copy of each, with so many turns left. -/
def withRetry (options : FleetOptions) (turns : Nat → RetryTurn C) (request : NodeRequest R)
    (name : String) : Nat → Nat → Option RepeError → NodeCache C → RemoteResult R × NodeCache C
  | 0, _, lastError, node => (⟨name, none, lastError⟩, node)
  | left + 1, attempt, _, node =>
    let found := (turns attempt).others node.cached
    let trace := node.trace ++ [.attempt attempt found]
    match attemptCall (turns attempt) request found with
    | (.ok value, cached) => (⟨name, some value, none⟩, ⟨cached, trace⟩)
    | (.error error, cached) =>
      if isRetryableError error then
        -- Whatever is cached by now goes, also what another thread has put there.
        let trace := trace ++ [.invalidate]
        -- There is no sleep behind the last attempt.
        let trace := if attempt + 1 < options.maxAttempts then trace ++ [.sleep options.delay] else trace
        withRetry options turns request name left (attempt + 1) (some error) ⟨none, trace⟩
      else (⟨name, none, some error⟩, ⟨cached, trace⟩)

def callJsonWithRetry (options : FleetOptions) (turns : Nat → RetryTurn C)
    (decodeBody : Message → Except RepeError R) (name method : String) (body : Option Bytes)
    (node : NodeCache C) : RemoteResult R × NodeCache C :=
  withRetry options turns (callJsonRequest decodeBody method body) name options.maxAttempts 0 none node

def callMessageWithRetry (options : FleetOptions) (turns : Nat → RetryTurn C) (name method : String)
    (node : NodeCache C) : RemoteResult Message × NodeCache C :=
  withRetry options turns (callMessageRequest method) name options.maxAttempts 0 none node

end Loop

section Interleaved

-- The same turns stand in the node whose calls are interleaved, cut where another call can run.

variable {R : Type} {node : NodeState R} {options : FleetOptions} {turns : Nat → RetryTurn Nat}

theorem NodeState.ensureConnected_eq {turn : RetryTurn Nat} {outcome : Except RepeError Unit}
    (connects : turn.connect = outcome.map fun _ => node.connections) :
    ((node.ensureConnected outcome).1, (node.ensureConnected outcome).2.cached) =
      Repe.ensureConnected turn node.cached := by
  unfold NodeState.ensureConnected Repe.ensureConnected
  rw [connects]
  -- Both look at the cache first, and then at the outcome of connecting.
  cases cached : node.cached with
  | some client => simp only [cached]
  | none =>
    cases outcome with
    | ok _ => rfl
    | error error => simp only [Except.map, cached]

theorem NodeState.finished_eq (attempt : RetryAttempt R) (client : Nat) (dead : Bool)
    (result : Except RepeError Message) :
    (∃ value, (result >>= attempt.request.decode) = .ok value ∧
      NodeState.finished attempt client dead result = .succeeded value) ∨
    ∃ error fatal, (result >>= attempt.request.decode) = .error error ∧
      NodeState.finished attempt client dead result = .failed attempt ⟨error, some client, fatal⟩ := by
  cases result with
  | error error => exact .inr ⟨error, dead, rfl, rfl⟩
  | ok message =>
    unfold NodeState.finished
    show (∃ value, attempt.request.decode message = .ok value ∧ _) ∨
      ∃ error fatal, attempt.request.decode message = .error error ∧ _
    -- A response that does not decode says nothing against the connection.
    cases decoded : attempt.request.decode message with
    | ok value => exact .inl ⟨value, rfl, by simp only [decoded]⟩
    | error error => exact .inr ⟨error, false, rfl, by simp only [decoded]⟩

/--
A turn that has failed ends as in the loop.

Either the call goes on to the next turn, with the cache as the loop goes on with it, or it gives up
with the error that the loop reports.
-/
theorem NodeState.settle_eq {retry : RetryPolicy} (same : retry.maxAttempts = options.maxAttempts)
    {call : Nat} {attempt : RetryAttempt R} {failure : NodeFailure} {before : NodeCache Nat}
    (failed : attemptCall (turns attempt.number) attempt.request
      ((turns attempt.number).others before.cached) = (.error failure.error, node.cached))
    {left : Nat} (bound : attempt.number + (left + 1) = options.maxAttempts) (name : String)
    (lastError : Option RepeError) :
    let loop := withRetry options turns attempt.request name (left + 1) attempt.number lastError before
    let settled := node.settle retry call attempt failure
    (settled.calls call = .connecting ⟨attempt.request, attempt.number + 1⟩ ∧
      ∃ trace, loop = withRetry options turns attempt.request name left (attempt.number + 1)
        (some failure.error) ⟨settled.cached, trace⟩) ∨
    (settled.calls call = .gaveUp failure ∧ loop.1 = ⟨name, none, some failure.error⟩ ∧
      loop.2.cached = settled.cached) := by
  intro loop settled
  simp only [loop, settled, withRetry, failed, NodeState.settle, same]
  by_cases retryable : isRetryableError failure.error = true
  · simp only [retryable, if_true]
    by_cases more : attempt.number + 1 < options.maxAttempts
    · simp only [more, if_true]
      exact .inl ⟨Function.update_self .., _, rfl⟩
    · -- The loop is at its end.
      have last : left = 0 := by omega
      subst last
      simp only [more, if_false]
      exact .inr ⟨Function.update_self .., rfl, rfl⟩
  · simp only [retryable]
    exact .inr ⟨Function.update_self .., rfl, rfl⟩

end Interleaved

section Policy

variable {C R : Type} {options : FleetOptions} {turns : Nat → RetryTurn C} {request : NodeRequest R}
  {name : String}

theorem positive_of_validateFleetOptions (accepted : validateFleetOptions options = .ok ()) :
    0 < options.maxAttempts := by
  by_contra none
  have few : options.maxAttempts < 1 := by omega
  -- Without a timeout the first check has refused them, else the second.
  by_cases zero : options.defaultTimeout = 0
  · simp [validateFleetOptions, validateTimeout, zero, bind, Except.bind] at accepted
  · simp [validateFleetOptions, validateTimeout, zero, few, bind, Except.bind] at accepted

/--
What an attempt finds cached: the first one what was there, and each further one nothing but what
other threads have put there since.
-/
def foundBy (turns : Nat → RetryTurn C) (start : Option C) (number : Nat) : Option C :=
  (turns number).others (if number = 0 then start else none)

def outcomeOf (turns : Nat → RetryTurn C) (request : NodeRequest R) (start : Option C)
    (number : Nat) : Except RepeError R :=
  (attemptCall (turns number) request (foundBy turns start number)).1

def reported (name : String) : Except RepeError R → RemoteResult R
  | .ok value => ⟨name, some value, none⟩
  | .error error => ⟨name, none, some error⟩

def retried (options : FleetOptions) (turns : Nat → RetryTurn C) (start : Option C) (number : Nat) :
    List (RetryStep C) :=
  [.attempt number (foundBy turns start number), .invalidate, .sleep options.delay]

def ended (turns : Nat → RetryTurn C) (start : Option C) (number : Nat)
    (outcome : Except RepeError R) : List (RetryStep C) :=
  .attempt number (foundBy turns start number) ::
    if Retry.Settles isRetryableError outcome then [] else [.invalidate]

/--
The attempts of a call are those up to the first that settles it, or else as many as are allowed.

The cached client is dropped between any two of them, and what is reported is what the last one came
to.
-/
structure FollowsPolicy (options : FleetOptions) (turns : Nat → RetryTurn C) (request : NodeRequest R)
    (name : String) (node : NodeCache C) (ran : RemoteResult R × NodeCache C) (last : Nat) :
    Prop where
  count : ((last + 1 : Nat) : ℕ∞) = min (options.maxAttempts : ℕ∞)
    (Retry.firstSettled isRetryableError (outcomeOf turns request node.cached))
  trace : ran.2.trace = node.trace ++ (List.range last).flatMap (retried options turns node.cached)
    ++ ended turns node.cached last (outcomeOf turns request node.cached last)
  report : ran.1 = reported name (outcomeOf turns request node.cached last)
  /-- Exactly one of the two is set. -/
  exclusive : ran.1.value.isSome ↔ ran.1.error = none

variable (options name)

/-- A turn whose outcome settles the call is the last one. -/
theorem withRetry_settled {start : Option C} {attempt : Nat} {node : NodeCache C} (left : Nat)
    (lastError : Option RepeError) (cached : node.cached = if attempt = 0 then start else none)
    (settles : Retry.Settles isRetryableError (outcomeOf turns request start attempt)) :
    (withRetry options turns request name (left + 1) attempt lastError node).1
        = reported name (outcomeOf turns request start attempt) ∧
      (withRetry options turns request name (left + 1) attempt lastError node).2.trace
        = node.trace ++ ended turns start attempt (outcomeOf turns request start attempt) := by
  rw [ended, if_pos settles]
  unfold outcomeOf foundBy at *
  rw [withRetry, cached]
  -- The turn returns a value, or an error that is not retried.
  cases came : attemptCall (turns attempt) request
      ((turns attempt).others (if attempt = 0 then start else none)) with
  | mk outcome after =>
    cases outcome with
    | ok value => exact ⟨rfl, rfl⟩
    | error error =>
      rw [came] at settles
      have final : isRetryableError error = false := settles
      simp only [final, Bool.false_eq_true, if_false, reported, and_self]

/-- A turn whose outcome does not settle the call drops the client and goes on. -/
theorem withRetry_again {start : Option C} {attempt : Nat} {node : NodeCache C} (left : Nat)
    (lastError : Option RepeError) (cached : node.cached = if attempt = 0 then start else none)
    (unsettled : ¬Retry.Settles isRetryableError (outcomeOf turns request start attempt)) :
    ∃ error, outcomeOf turns request start attempt = .error error ∧
      withRetry options turns request name (left + 1) attempt lastError node =
        withRetry options turns request name left (attempt + 1) (some error)
          ⟨none, node.trace ++ [.attempt attempt (foundBy turns start attempt), .invalidate] ++
            if attempt + 1 < options.maxAttempts then [.sleep options.delay] else []⟩ := by
  unfold outcomeOf foundBy at *
  rw [withRetry, cached]
  cases came : attemptCall (turns attempt) request
      ((turns attempt).others (if attempt = 0 then start else none)) with
  | mk outcome after =>
    rw [came] at unsettled
    cases outcome with
    | ok value => exact absurd trivial unsettled
    | error error =>
      have retryable : isRetryableError error = true := by
        simpa only [Retry.Settles, Bool.not_eq_false] using unsettled
      refine ⟨error, rfl, ?_⟩
      simp only [retryable, if_true]
      -- The sleep is behind the other two steps, if there is one.
      split <;> simp only [List.append_assoc, List.cons_append, List.nil_append, List.append_nil]

/-- Where the loop ends from one of its turns on. -/
theorem withRetry_ends (turns : Nat → RetryTurn C) (request : NodeRequest R) {start : Option C}
    (left attempt : Nat) (lastError : Option RepeError) (node : NodeCache C)
    (bound : attempt + (left + 1) = options.maxAttempts)
    (cached : node.cached = if attempt = 0 then start else none) :
    ∃ last, attempt ≤ last ∧ last < options.maxAttempts ∧
      (∀ number, attempt ≤ number → number < last →
        ¬Retry.Settles isRetryableError (outcomeOf turns request start number)) ∧
      (Retry.Settles isRetryableError (outcomeOf turns request start last) ∨
        last + 1 = options.maxAttempts) ∧
      (withRetry options turns request name (left + 1) attempt lastError node).2.trace = node.trace
        ++ (List.range' attempt (last - attempt)).flatMap (retried options turns start)
        ++ ended turns start last (outcomeOf turns request start last) ∧
      (withRetry options turns request name (left + 1) attempt lastError node).1
        = reported name (outcomeOf turns request start last) := by
  -- By induction on the turns that are left after this one.
  induction left generalizing attempt lastError node with
  | zero =>
    refine ⟨attempt, Nat.le_refl _, by omega, by omega, .inr bound, ?_⟩
    rw [Nat.sub_self, List.range'_zero, List.flatMap_nil, List.append_nil]
    by_cases settles : Retry.Settles isRetryableError (outcomeOf turns request start attempt)
    · exact (withRetry_settled options name 0 lastError cached settles).symm
    · -- The client is dropped although no attempt follows.
      obtain ⟨error, failed, again⟩ := withRetry_again options name 0 lastError cached settles
      rw [again, ended, if_neg settles, failed, withRetry, if_neg (by omega), List.append_nil]
      exact ⟨rfl, rfl⟩
  | succ left ih =>
    by_cases settles : Retry.Settles isRetryableError (outcomeOf turns request start attempt)
    · refine ⟨attempt, Nat.le_refl _, by omega, by omega, .inl settles, ?_⟩
      rw [Nat.sub_self, List.range'_zero, List.flatMap_nil, List.append_nil]
      exact (withRetry_settled options name (left + 1) lastError cached settles).symm
    · obtain ⟨error, failed, again⟩ :=
        withRetry_again options name (left + 1) lastError cached settles
      rw [again, if_pos (by omega)]
      obtain ⟨last, behind, below, unsettled, stopped, trace, report⟩ :=
        ih (attempt + 1) (some error) ⟨none, node.trace ++ _ ++ [.sleep options.delay]⟩ (by omega)
          (by rw [if_neg (by omega)])
      refine ⟨last, by omega, below, ?_, stopped, ?_, report⟩
      · intro number from_ before
        by_cases here : number = attempt
        · exact here ▸ settles
        · exact unsettled number (by omega) before
      · -- This turn's steps come in front of those of the others.
        have turns_ : List.range' attempt (last - attempt)
            = attempt :: List.range' (attempt + 1) (last - (attempt + 1)) := by
          rw [← List.range'_succ]
          congr 1
          omega
        rw [trace, turns_, List.flatMap_cons, retried]
        simp only [List.append_assoc, List.cons_append, List.nil_append]

/-- The whole loop follows the policy. -/
theorem withRetry_follows (accepted : validateFleetOptions options = .ok ()) (node : NodeCache C) :
    ∃ last, FollowsPolicy options turns request name node
      (withRetry options turns request name options.maxAttempts 0 none node) last := by
  have positive := positive_of_validateFleetOptions accepted
  obtain ⟨left, enough⟩ : ∃ left, options.maxAttempts = left + 1 :=
    ⟨options.maxAttempts - 1, by omega⟩
  obtain ⟨last, _, below, unsettled, stopped, trace, report⟩ :=
    withRetry_ends options name turns request left 0 none node (by omega) (if_pos rfl).symm
  rw [← enough] at trace report
  -- The last attempt is the first that settles, or the last that is allowed.
  refine ⟨last, ?_, ?_, report, ?_⟩
  · exact Retry.attempts_eq_min below (fun number before => unsettled number (Nat.zero_le _) before)
      stopped
  · rw [trace, Nat.sub_zero, List.range_eq_range']
  · rw [report]
    cases outcomeOf turns request node.cached last <;> simp [reported]

/--
Both copies of the loop follow the policy, whatever connecting and calling come to in each attempt
and whatever other threads do to the cached client.
-/
theorem calls_follow_retry_policy (options : FleetOptions) (turns : Nat → RetryTurn C)
    (decodeBody : Message → Except RepeError R) (name method : String) (body : Option Bytes)
    (node : NodeCache C) (accepted : validateFleetOptions options = .ok ()) :
    (∃ last, FollowsPolicy options turns (callJsonRequest decodeBody method body) name node
      (callJsonWithRetry options turns decodeBody name method body node) last) ∧
    (∃ last, FollowsPolicy options turns (callMessageRequest method) name node
      (callMessageWithRetry options turns name method node) last) :=
  ⟨withRetry_follows options name accepted node, withRetry_follows options name accepted node⟩

/-- A node that refuses the first connection and then answers every request with an empty message. -/
def refusingOnce : Nat → RetryTurn Nat
  | 0 => ⟨id, .error (.io ⟨.connectionRefused, "refused"⟩), fun _ _ => .ok (MessageBuilder.build {})⟩
  | number + 1 => ⟨id, .ok number, fun _ _ => .ok (MessageBuilder.build {})⟩

/-- Such a node is called twice, with the cache dropped in between. -/
theorem refused_call_follows_policy :
    validateFleetOptions ⟨1, 3, 5⟩ = .ok () ∧
      (∃ last, FollowsPolicy ⟨1, 3, 5⟩ refusingOnce (callMessageRequest "/a") "node" ⟨none, []⟩
        (callMessageWithRetry ⟨1, 3, 5⟩ refusingOnce "node" "/a" ⟨none, []⟩) last) ∧
      (callMessageWithRetry ⟨1, 3, 5⟩ refusingOnce "node" "/a" ⟨none, []⟩).2.trace =
        [.attempt 0 none, .invalidate, .sleep 5, .attempt 1 none] :=
  ⟨rfl, (calls_follow_retry_policy (R := Unit) ⟨1, 3, 5⟩ refusingOnce (fun _ => .ok ()) "node" "/a"
    none ⟨none, []⟩ rfl).2, rfl⟩

end Policy

end Repe
