import Repe.Server.WebSocketLaws

/-! What a client of a WebSocket connection can rely on, in every interleaving of the reader with its
tasks. -/

namespace Repe

namespace WsConnection

variable {t : Target} {conn after : WsConnection} {event : WsEvent} {number : Nat}
  {request : Request} {limit : Nat} {M : Type → Type} {C : Type} [Monad M] {router : Router M C}

def arrivedView (t : Target) : WsEvent → Option MessageView
  | .frame (.binary payload) =>
    match MessageView.fromSliceExact t payload with
    | .ok view => some view
    | _ => none
  | _ => none

def views (conn : WsConnection) : List MessageView := conn.requests.map (·.view)

theorem views_setStage (conn : WsConnection) (number : Nat) (stage : Stage) :
    (conn.setStage number stage).views = conn.views := by
  -- A stage is no part of what was asked.
  refine List.ext_getElem? fun other => ?_
  rw [views, views, List.getElem?_map, List.getElem?_map, setStage_getElem]
  split <;> cases conn.requests[other]? <;> rfl

theorem views_spawnOffReader (conn : WsConnection) (view : MessageView) (notify : Bool) :
    (conn.spawnOffReader view notify).views = conn.views ++ [view] := by
  -- A request the reader refuses is recorded as one of its own, with the refusal to send.
  unfold spawnOffReader
  dsimp only
  split
  · simp [views]
  · split
    · simp [views]
    · split <;> simp [views, receive]

theorem views_onRequest (conn : WsConnection) (view : MessageView) :
    (conn.onRequest t router view).views = conn.views ++ [view] := by
  -- Rejected, inline or spawned, the request is put behind the others.
  unfold onRequest
  split
  · dsimp only
    split <;> simp [views, receive]
  · split
    · simp [views, receive]
    · exact views_spawnOffReader conn view _

theorem views_onTask (conn : WsConnection) (number : Nat) (view : MessageView) (notify : Bool)
    (outcome : Exec RepeError Message) :
    (conn.onTask t number view notify outcome).views = conn.views := by
  refine Eq.trans ?_ (views_setStage conn number (taskStage t view notify outcome))
  -- A task changes the stage of its request, and the view stays.
  unfold onTask
  dsimp only
  split <;> split <;> rfl

/-- A step takes up the request that came, if one did. -/
theorem views_step (stepped : conn.step t router event = some after) :
    after.views = conn.views ++ (arrivedView t event).toList := by
  -- A frame that parses brings one view; every other event brings none, whatever stage it changes.
  cases event with
  | frame message =>
    rw [step] at stepped
    split at stepped
    · cases stepped
      cases message with
      | binary payload =>
        rw [onFrame, arrivedView]
        cases MessageView.fromSliceExact t payload with
        | ok view => exact views_onRequest conn view
        | err error => exact (List.append_nil _).symm
        | panic => exact (List.append_nil _).symm
      | text | ping | pong | frame | close => exact (List.append_nil _).symm
    · cases stepped
  | transportFailed error =>
    rw [step] at stepped
    split at stepped
    · cases stepped
      exact (List.append_nil _).symm
    · cases stepped
  | ended =>
    rw [step] at stepped
    split at stepped
    · cases stepped
      exact (List.append_nil _).symm
    · cases stepped
  | inlineEnds outcome =>
    rw [step] at stepped
    split at stepped
    · split at stepped
      · cases stepped
        exact (views_setStage conn _ _).trans (List.append_nil _).symm
      · cases stepped
    · cases stepped
  | send =>
    rw [step] at stepped
    split at stepped
    · split at stepped
      · obtain ⟨between, room, rfl⟩ := Option.map_eq_some_iff.mp stepped
        rw [put_eq room]
        exact (views_setStage conn _ _).trans (List.append_nil _).symm
      · cases stepped
    · cases stepped
  | taskEnds number outcome =>
    rw [step] at stepped
    split at stepped
    · cases stepped
      exact (views_onTask conn _ _ _ _).trans (List.append_nil _).symm
    · cases stepped
  | taskSends number =>
    rw [step] at stepped
    split at stepped
    · obtain ⟨between, room, rfl⟩ := Option.map_eq_some_iff.mp stepped
      rw [put_eq room]
      exact (views_setStage conn _ _).trans (List.append_nil _).symm
    · cases stepped
  | taskLeaves number =>
    rw [step] at stepped
    split at stepped
    · cases stepped
      exact (views_setStage conn _ _).trans (List.append_nil _).symm
    · cases stepped
  | drain =>
    rw [step] at stepped
    split at stepped
    · cases stepped
      exact (List.append_nil _).symm
    · cases stepped
  | push message =>
    cases stepped
    cases room : conn.put .peer message with
    | none => exact (List.append_nil _).symm
    | some after =>
      rw [Option.getD_some, put_eq room]
      exact (List.append_nil _).symm

theorem views_of_run {events : List WsEvent}
    (ran : Transition.run (step t router) conn events = some after) :
    after.views = conn.views ++ events.filterMap (arrivedView t) := by
  induction events generalizing conn with
  | nil =>
    cases ran
    exact (List.append_nil _).symm
  | cons event events ih =>
    obtain ⟨between, stepped, rest⟩ := Transition.run_cons.mp ran
    rw [ih rest, views_step stepped, List.append_assoc]
    -- An event brings one request at most.
    cases found : arrivedView t event <;> simp [found]

/-- What comes next for a request whose handler ends in some way. -/
def nextFor (request : Request) (number : Nat) (outcome : Exec RepeError Message) : WsEvent :=
  match request.offReader, request.stage with
  | false, .serving => .inlineEnds outcome
  | true, .serving => .taskEnds number outcome
  | false, .replying _ => .send
  | true, .replying _ => .taskSends number
  | _, _ => .taskLeaves number

theorem put_or_drain (t : Target) (router : Router M C) (conn : WsConnection) (source : Source)
    (message : Message) :
    (∃ after, conn.put source message = some after) ∨
      ∃ after, conn.step t router .drain = some after := by
  by_cases room : conn.queue.length < conn.capacity
  · exact .inl ⟨_, if_pos room⟩
  · -- A channel that is full is not empty.
    right
    rw [step]
    cases waiting : conn.queue with
    | nil =>
      rw [waiting, List.length_nil] at room
      exact absurd conn.positive room
    | cons first queue => exact ⟨_, rfl⟩

/-- A request that is not done can go on, as soon as there is room on the channel. -/
theorem Sound.progress (sound : conn.Sound limit) (found : conn.requests[number]? = some request)
    (unfinished : request.stage ≠ .done) (outcome : Exec RepeError Message) :
    (∃ after, conn.step t router (nextFor request number outcome) = some after) ∨
      ∃ after, conn.step t router .drain = some after := by
  have owes := sound.answered.owes found
  obtain ⟨view, offReader, stage⟩ := request
  cases offReader with
  | false =>
    -- An open request of the reader is the one it is busy with.
    have reads := sound.ordered.reads found rfl
    cases stage with
    | serving =>
      left
      have busy := sound.ordered.idle found rfl (.inl rfl)
      simp only [nextFor, step, busy, found, Option.some.injEq, exists_eq']
    | replying response =>
      have busy := sound.ordered.idle found rfl (.inr ⟨response, rfl⟩)
      refine (put_or_drain t router conn (.reader number) response).imp_left fun room => ?_
      obtain ⟨after, room⟩ := room
      simp only [nextFor, step, busy, found, room, Option.map_some, Option.some.injEq, exists_eq']
    | leaving => exact absurd rfl reads
    | done => exact absurd rfl unfinished
    | lost => cases owes
  | true =>
    -- A task waits for nobody but the channel.
    cases stage with
    | serving =>
      left
      simp only [nextFor, step, found, Option.some.injEq, exists_eq']
    | replying response =>
      refine (put_or_drain t router conn (.task number) response).imp_left fun room => ?_
      obtain ⟨after, room⟩ := room
      simp only [nextFor, step, found, room, Option.map_some, Option.some.injEq, exists_eq']
    | leaving =>
      left
      simp only [nextFor, step, found, Option.some.injEq, exists_eq']
    | done => exact absurd rfl unfinished
    | lost => cases owes

def running (conn : WsConnection) : List Nat :=
  (List.range conn.requests.length).filter fun number =>
    conn.requests[number]?.any fun request => request.offReader && request.stage == .serving

theorem Permitted.running_le (permitted : conn.Permitted limit) {permits : Semaphore Nat}
    (held : conn.permits = some permits) : conn.running.length ≤ permits.limit := by
  -- Handlers that run are different holders of permits.
  refine Semaphore.length_le_limit (List.nodup_range.filter _) fun number listed => ?_
  have runs := (List.mem_filter.mp listed).2
  rw [Option.any_eq_true] at runs
  obtain ⟨request, found, serving⟩ := runs
  rw [Bool.and_eq_true, beq_iff_eq] at serving
  exact (permitted.holders held number).mpr ⟨request, found, serving.1, .inl (.inl serving.2)⟩

/--
In every run in which handlers do what is asked of them the requests are the well-formed frames that
came; a notify is not answered, and every other request is answered once, under its id, when it is
done or about to leave, and not before; one that is not done can go on; the reader answers in the
order of the requests; and tasks stay within the limit, with every permit returned that no task
holds.
-/
theorem every_request_is_answered_once {capacity : Nat} {positive : 0 < capacity}
    {events : List WsEvent}
    (serves : Transition.Meets (step t router) (Serves t router) (opened positive limit) events)
    (ran : Transition.run (step t router) (opened positive limit) events = some conn) :
    conn.views = events.filterMap (arrivedView t) ∧
    (∀ number request, conn.requests[number]? = some request →
      (request.notify = true → conn.answers number = []) ∧
      (request.notify = false → request.stage = .done ∨ request.stage = .leaving →
        ∃ response, conn.answers number = [response] ∧
          response.header.id = request.view.header.id) ∧
      (request.Open → conn.answers number = []) ∧
      (request.stage ≠ .done → ∀ outcome,
        (∃ after, conn.step t router (nextFor request number outcome) = some after) ∨
          ∃ after, conn.step t router .drain = some after)) ∧
    conn.readerNumbers.Pairwise (· < ·) ∧
    (limit ≠ 0 → conn.running.length ≤ limit ∧
      ∃ permits, conn.permits = some permits ∧
        permits.available + permits.holders.length = limit ∧
        ∀ number ∈ permits.holders, ∃ request,
          conn.requests[number]? = some request ∧ request.offReader = true ∧
            request.stage ≠ .done) := by
  have sound := sound_of_run serves ran
  refine ⟨views_of_run ran, fun number request found => ?_, sound.ordered.order, fun limited => ?_⟩
  · have owes := sound.answered.owes found
    refine ⟨fun quiet => ?_, fun loud ended => ?_, fun opens => ?_, fun unfinished outcome => ?_⟩
    · exact owes.quiet quiet
    · exact owes.ended loud ended
    · exact owes.open opens
    · exact sound.progress found unfinished outcome
  · -- A limit other than zero is a semaphore of that many permits.
    have capped := sound.permitted.limited
    rw [if_neg limited] at capped
    obtain ⟨permits, held, rfl⟩ := Option.map_eq_some_iff.mp capped
    refine ⟨sound.permitted.running_le held, permits, held, permits.balanced, ?_⟩
    intro number holds
    obtain ⟨request, found, working⟩ := (sound.permitted.holders held number).mp holds
    exact ⟨request, found, working.1, working.not_done⟩

def echoHandler (execution : Execution) : HandlerErased Id Unit where
  handle request := .ok request
  handleWithCtx request _ := .ok request
  handleView view _ := .ok view.toMessage
  execution := execution

def twoRoutes : Router Id Unit :=
  (Router.new.insertRoute ['/', 'a'] (echoHandler .inline)).insertRoute ['/', 'b']
    (echoHandler .offReader)

def requestFor (id : UInt64) (route : UInt8) : WsEvent :=
  .frame (.binary (MessageBuilder.build
    { id, query := [47, route], queryFormat := QueryFormat.jsonPointer.toU16 }).toVec)

def checked64 : Target := { Target.release64 with overflowChecks := true }

/-- A response under the right id, whose header claims an impossible body. -/
def staleAnswer : Message :=
  { header := { Header.new with id := 7, bodyLength := UInt64.ofNat (2 ^ 64 - 1) }
    query := []
    body := [] }

/-- A build that checks for overflow loses the response of a task while it stamps it. -/
theorem stamping_loses_the_response :
    (Transition.run (step checked64 twoRoutes) (opened Nat.one_pos 0)
        [requestFor 7 98, .taskEnds 0 (.ok staleAnswer)]).map
      (fun conn => (conn.requests.map (fun request => (request.notify, request.stage)),
        conn.history)) = some ([(false, .lost)], []) ∧ staleAnswer.header.id = 7 := by
  decide +kernel

/-- Two requests for the one permit, and one for the reader. -/
def saturatedRun : List WsEvent :=
  [requestFor 1 98, requestFor 2 98, .send, requestFor 3 97, .inlineEnds (.err (.invalidSpec 0)),
    .send, .taskEnds 0 .panic, .taskSends 0, .taskLeaves 0]

/-- All three are answered under their ids, and one handler at most ran off the reader. -/
theorem saturated_run_answers_everybody :
    ∃ conn, Transition.run (step .release64 twoRoutes) (opened (by decide : 0 < 4) 1) saturatedRun =
        some conn ∧
      (List.range 3).map (fun number => (conn.answers number).map (·.header.id)) = [[1], [2], [3]] ∧
      conn.running.length ≤ 1 ∧ conn.readerNumbers.Pairwise (· < ·) := by
  have reached : (Transition.run (step .release64 twoRoutes) (opened (by decide : 0 < 4) 1)
      saturatedRun).map (fun conn => (List.range 3).map fun number =>
        (conn.answers number).map (·.header.id)) = some [[1], [2], [3]] := by decide +kernel
  obtain ⟨conn, ran, ids⟩ := Option.map_eq_some_iff.mp reached
  -- A release build wraps, so every response is stamped.
  have stampable (response : Message) (query : Bytes) :
      Stampable .release64 response query := .inr (.inr (.inl rfl))
  have serves : Transition.Meets (step .release64 twoRoutes) (Serves .release64 twoRoutes)
      (opened (by decide : 0 < 4) 1) saturatedRun := by
    refine Transition.meets_of_forall fun event member conn => ?_
    simp only [saturatedRun, List.mem_cons, List.not_mem_nil, or_false] at member
    rcases member with rfl | rfl | rfl | rfl | rfl | rfl | rfl | rfl | rfl
    · exact fun _ _ _ _ _ _ _ => stampable _ _
    · exact fun _ _ _ _ _ _ _ => stampable _ _
    · trivial
    · exact fun _ _ _ _ _ _ _ => stampable _ _
    · exact fun _ _ _ _ _ => stampable _ _
    · trivial
    · exact fun _ _ => trivial
    · trivial
    · trivial
  obtain ⟨_, _, order, limited⟩ := every_request_is_answered_once serves ran
  exact ⟨conn, ran, ids, (limited (by decide)).1, order⟩

end WsConnection

end Repe
