import Mathlib.Data.Set.Card
import Repe.Svs.TableLaws

/-! Who the sessions of a value stream server belong to, while its clients come and go. -/

namespace Repe.Svs

/-- A step that a client asks for, rather than one in which its request gets on. -/
def TableEvent.begins : TableEvent → Bool
  | .open .. | .lookup .. | .cancel _ => true
  | .insert _ | .pull _ | .answer _ => false

def TableEvent.draws : TableEvent → Bool
  | .open _ (.resolved _) => true
  | _ => false

/-- A server with the three routes of `register_svs`, and the connections there were to it. -/
structure SvsServer where
  table : SessionTable
  /-- The connection that opened each stream of the table. -/
  openers : List Nat
  gone : List Nat

inductive SvsEvent where
  | request (connection : Nat) (event : TableEvent)
  | proceed (event : TableEvent)
  | disconnect (connection : Nat)
  deriving DecidableEq

namespace SvsServer

/-- A server right after `register_svs`. -/
def new : SvsServer := ⟨.new, [], []⟩

def step (handler : OpenHandler) (server : SvsServer) : SvsEvent → Option SvsServer
  | .request connection event =>
    if event.begins ∧ connection ∉ server.gone then
      (server.table.step handler event).map fun table =>
        { server with
          table
          openers := if event.draws then server.openers ++ [connection] else server.openers }
    else none
  | .proceed event =>
    if event.begins then none
    else (server.table.step handler event).map fun table => { server with table }
  | .disconnect connection =>
    if connection ∈ server.gone then none
    -- No hook of `register_svs` runs here: the handlers know the table, and not the connection.
    else some { server with gone := connection :: server.gone }

def Attended (server : SvsServer) (stream : Nat) : Prop :=
  ∃ connection, server.openers[stream]? = some connection ∧ connection ∉ server.gone

/-- A stream that a connected client has open: neither its end nor a cancel was answered. -/
def HasOpen (server : SvsServer) (stream : Nat) : Prop :=
  server.Attended stream ∧ ¬server.table.Over stream

/-- A request that has not returned holds the receiving end of a stream. -/
def InRequest (server : SvsServer) (stream : Nat) : Prop :=
  (∃ call, server.table.opens call = .drawn stream) ∨
    ∃ call id, server.table.nexts call = .found stream id ∨
      ∃ answer, server.table.nexts call = .pulled stream id answer

/-- The producer of a stream blocks: its channel is full, and the receiving end still held. -/
def Parked (server : SvsServer) (sessionDepth stream : Nat) : Prop :=
  (∃ opened, server.table.streams[stream]? = some opened ∧
    sessionDepth < opened.session.rx.length) ∧
    (server.table.Listed stream ∨ server.InRequest stream)

/--
A client that leaves has finished: every `open` of its streams returned, and every stream was pulled
to its end or cancelled.
-/
def Finished (server : SvsServer) : SvsEvent → Prop
  | .disconnect connection => ∀ stream, server.openers[stream]? = some connection →
    (∃ opened, server.table.streams[stream]? = some opened ∧ opened.inserted = true) ∧
      server.table.Over stream
  | _ => True

/-- No session of a client that left is listed, now or after what its requests still do. -/
structure Released (server : SvsServer) : Prop where
  coherent : server.table.Coherent
  recorded : server.openers.length = server.table.streams.length
  gone : ∀ (stream : Nat) connection, server.openers[stream]? = some connection →
    connection ∈ server.gone →
    (∃ opened, server.table.streams[stream]? = some opened ∧ opened.inserted = true) ∧
      ¬server.table.Listed stream

variable {handler : OpenHandler} {server after : SvsServer}

/-- A step of the table adds a stream exactly if it draws an id. -/
theorem length_step {table later : SessionTable} {event : TableEvent}
    (taken : table.step handler event = some later) :
    later.streams.length = table.streams.length + if event.draws then 1 else 0 := by
  -- Only an `open` draws an id, and it adds the stream in the same step.
  cases SessionTable.moves_of_step taken with
  | @opens call request idle =>
    cases request <;> simp [SessionTable.openStep, SessionTable.refuse, TableEvent.draws]
  | inserts drawn known => simp [SessionTable.insertStep, TableEvent.draws]
  | looksUp idle =>
    unfold SessionTable.lookupStep
    split
    · rfl
    · split <;> rfl
  | pulls found known => simp [SessionTable.pullStep, SessionTable.become, TableEvent.draws]
  | answers pulled => rfl
  -- A cancellation changes a stream, and removes none.
  | cancels request =>
    cases request with
    | none => rfl
    | some id =>
      simp only [SessionTable.cancelStep, TableEvent.draws]
      split <;> simp

/-- A stream that was listed once and no longer is stays so, whatever the table does. -/
theorem unlisted_step {table later : SessionTable} {event : TableEvent} {stream : Nat}
    (coherent : table.Coherent) (taken : table.step handler event = some later)
    (before : (∃ opened, table.streams[stream]? = some opened ∧ opened.inserted = true) ∧
      ¬table.Listed stream) :
    (∃ opened, later.streams[stream]? = some opened ∧ opened.inserted = true) ∧
      ¬later.Listed stream := by
  obtain ⟨⟨opened, known, inserted⟩, unlisted⟩ := before
  have evolves := SessionTable.evolves_step coherent taken
  obtain ⟨record, still, _, stays, _⟩ := evolves.streams stream opened known
  refine ⟨⟨record, still, stays inserted⟩, ?_⟩
  intro relisted
  -- Only a stream whose `open` has not returned could be listed now.
  rcases evolves.listed stream relisted with listed | fresh
  · exact unlisted listed
  · rw [fresh opened known] at inserted
    cases inserted

/-- Every step of a run whose clients finish before they leave keeps the sessions released. -/
theorem released_step {event : SvsEvent} (released : server.Released)
    (finished : server.Finished event) (taken : server.step handler event = some after) :
    after.Released := by
  cases event with
  | request connection event =>
    simp only [step] at taken
    split at taken
    · next allowed =>
      obtain ⟨table, stepped, rfl⟩ := Option.map_eq_some_iff.mp taken
      refine ⟨SessionTable.coherent_step released.coherent stepped, ?_, ?_⟩
      · rw [length_step stepped, ← released.recorded]
        dsimp only
        split <;> simp
      · intro stream opener opens left
        apply unlisted_step released.coherent stepped
        apply released.gone stream opener _ left
        -- A stream that this request opens has a connected opener.
        dsimp only at opens
        split at opens
        · rw [List.getElem?_append] at opens
          split at opens
          · exact opens
          · obtain ⟨_, own⟩ := List.getElem?_eq_some_iff.mp opens
            simp only [List.getElem_singleton] at own
            exact absurd (own ▸ left) allowed.2
        · exact opens
    · simp at taken
  | proceed event =>
    simp only [step] at taken
    split at taken
    · simp at taken
    · next goes =>
      obtain ⟨table, stepped, rfl⟩ := Option.map_eq_some_iff.mp taken
      -- Only an `open` draws an id, and it is no step of a request under way.
      have draws : event.draws = false := by
        cases event <;> simp_all [TableEvent.begins, TableEvent.draws]
      refine ⟨SessionTable.coherent_step released.coherent stepped, ?_, ?_⟩
      · rw [length_step stepped, draws]
        exact released.recorded
      · intro stream opener opens left
        exact unlisted_step released.coherent stepped (released.gone stream opener opens left)
  | disconnect connection =>
    simp only [step] at taken
    split at taken
    · simp at taken
    · cases taken
      refine ⟨released.coherent, released.recorded, ?_⟩
      intro stream opener opens left
      rcases List.mem_cons.mp left with leaving | before
      · -- What the leaving client opened is over, and so not listed.
        subst leaving
        obtain ⟨inserted, ended⟩ := finished stream opens
        exact ⟨inserted, released.coherent.unlisted ended⟩
      · exact released.gone stream opener opens before

theorem Released.hasOpen {stream : Nat} (released : server.Released)
    (listed : server.table.Listed stream) : server.HasOpen stream := by
  -- What is listed is not over, and its opener has not left.
  have unended : ¬server.table.Over stream := fun ended => released.coherent.unlisted ended listed
  obtain ⟨id, found⟩ := listed
  obtain ⟨opened, known, _⟩ := released.coherent.listed id stream found
  obtain ⟨inside, _⟩ := List.getElem?_eq_some_iff.mp known
  rw [← released.recorded] at inside
  refine ⟨⟨server.openers[stream], List.getElem?_eq_getElem inside, ?_⟩, unended⟩
  intro left
  exact (released.gone stream _ (List.getElem?_eq_getElem inside) left).2 ⟨id, found⟩

theorem finite_hasOpen (server : SvsServer) : {stream | server.HasOpen stream}.Finite := by
  -- Only streams that were opened have an opener.
  apply (Set.finite_lt_nat server.openers.length).subset
  rintro stream ⟨⟨connection, opens, _⟩, _⟩
  exact (List.getElem?_eq_some_iff.mp opens).1

/-- There are no more sessions than streams that connected clients have open. -/
theorem Released.length_sessions_le (released : server.Released) :
    server.table.sessions.keys.length ≤ {stream | server.HasOpen stream}.ncard := by
  -- Every id that is listed leads to a stream of its own.
  rw [← List.toFinset_card_of_nodup (AList.keys_nodup server.table.sessions),
    ← Set.ncard_coe_finset]
  have lists : ∀ id ∈ (server.table.sessions.keys.toFinset : Set UInt64),
      ∃ stream, server.table.sessions.lookup id = some stream := by
    intro id member
    rw [Finset.mem_coe, List.mem_toFinset] at member
    exact Option.isSome_iff_exists.mp (AList.lookup_isSome.mpr (AList.mem_keys.mpr member))
  refine Set.ncard_le_ncard_of_injOn (fun id => (server.table.sessions.lookup id).getD 0) ?_ ?_
    server.finite_hasOpen
  · intro id member
    obtain ⟨stream, found⟩ := lists id member
    simp only [found, Option.getD_some]
    exact released.hasOpen ⟨id, found⟩
  -- Two ids never list the same stream, since it knows its own.
  · intro id member other also same
    obtain ⟨stream, found⟩ := lists id member
    obtain ⟨second, found'⟩ := lists other also
    simp only [found, found', Option.getD_some] at same
    subst same
    obtain ⟨opened, known, own, _⟩ := released.coherent.listed id stream found
    obtain ⟨record, known', own', _⟩ := released.coherent.listed other stream found'
    rw [known] at known'
    cases known'
    exact own.symm.trans own'

theorem Released.parked {sessionDepth stream : Nat} (released : server.Released)
    (parked : server.Parked sessionDepth stream) :
    server.HasOpen stream ∨ server.InRequest stream := by
  rcases parked.2 with listed | running
  · exact .inl (released.hasOpen listed)
  · exact .inr running

theorem released_run {events : List SvsEvent}
    (finished : Transition.Meets (step handler) Finished new events)
    (ran : Transition.run (step handler) new events = some server) : server.Released := by
  refine Transition.invariant_of_meets Released ?_ ?_ finished ran
  · intro state event later released finished taken
    exact released_step released finished taken
  · -- At first no stream is open.
    exact ⟨SessionTable.coherent_new, rfl, fun stream connection opens => by cases opens⟩

/--
In every run in which each client that disconnects has pulled its streams to their end or cancelled
them, no session of a client that is gone is listed, there are no more sessions than streams that
connected clients have open, and outside of running requests no more parked producers either.
-/
theorem sessions_of_connected_clients (handler : OpenHandler) (sessionDepth : Nat)
    {events : List SvsEvent} {server : SvsServer}
    (finished : Transition.Meets (step handler) Finished new events)
    (ran : Transition.run (step handler) new events = some server) :
    (∀ stream, server.table.Listed stream → server.Attended stream) ∧
      server.table.sessions.keys.length ≤ {stream | server.HasOpen stream}.ncard ∧
      (∀ stream, server.Parked sessionDepth stream →
        server.HasOpen stream ∨ server.InRequest stream) ∧
      ((∀ stream, ¬server.InRequest stream) →
        {stream | server.Parked sessionDepth stream}.ncard ≤
          {stream | server.HasOpen stream}.ncard) := by
  have released := released_run finished ran
  refine ⟨?_, released.length_sessions_le, fun stream => released.parked, ?_⟩
  · intro stream listed
    exact (released.hasOpen listed).1
  · intro quiet
    apply Set.ncard_le_ncard _ server.finite_hasOpen
    intro stream parked
    -- A parked stream is attended, or a request of it is running.
    rcases released.parked parked with attended | running
    · exact attended
    · exact absurd running (quiet stream)

def cancelsFirst : List SvsEvent :=
  [.request 7 (.open 0 (.resolved [.chunk [1], .finished])), .proceed (.insert 0),
    .request 7 (.cancel (some 1)), .disconnect 7]

/-- The client that cancels first leaves no session behind. -/
theorem cancelled_stream_released :
    ∃ server, Transition.run (step ⟨1, .none⟩) new cancelsFirst = some server ∧
      server.gone = [7] ∧ server.table.sessions.keys.length = 0 ∧
      (∀ stream, server.table.Listed stream → server.Attended stream) := by
  have finished : Transition.Meets (step ⟨1, .none⟩) Finished new cancelsFirst := by
    refine ⟨trivial, fun first opens => ?_⟩
    cases opens
    refine ⟨trivial, fun second inserts => ?_⟩
    cases inserts
    refine ⟨trivial, fun third cancels => ?_⟩
    cases cancels
    refine ⟨fun stream opens => ?_, fun _ _ => trivial⟩
    -- The only stream is the one that was cancelled.
    have first : stream = 0 := by
      have inside := (List.getElem?_eq_some_iff.mp opens).1
      exact Nat.lt_one_iff.mp inside
    subst first
    exact ⟨⟨_, rfl, rfl⟩, .inr ⟨_, rfl, rfl⟩⟩
  refine ⟨_, rfl, rfl, rfl, ?_⟩
  exact (sessions_of_connected_clients ⟨1, .none⟩ 0 finished rfl).1

def leavesAtOnce : List SvsEvent :=
  [.request 7 (.open 0 (.resolved [.chunk [1], .finished])), .proceed (.insert 0), .disconnect 7]

/--
The session of a client that leaves without a cancel stays listed, no request is left that could
release it, and its producer stays parked.
-/
theorem abandoned_session_stays :
    ∃ server, Transition.run (step ⟨1, .none⟩) new leavesAtOnce = some server ∧
      server.table.Listed 0 ∧ ¬server.Attended 0 ∧ (∀ stream, ¬server.InRequest stream) ∧
      server.Parked 1 0 ∧ {stream | server.HasOpen stream}.ncard = 0 := by
  obtain ⟨server, ran⟩ : ∃ server, Transition.run (step ⟨1, .none⟩) new leavesAtOnce =
      some server := ⟨_, rfl⟩
  have left : ∀ stream, ¬server.Attended stream := by
    cases ran
    rintro stream ⟨connection, opens, stays⟩
    -- The one connection there was is gone.
    have only := List.mem_singleton.mp (List.mem_of_getElem? opens)
    exact stays (only ▸ List.mem_cons_self)
  refine ⟨server, ran, ?_, left 0, ?_, ?_, ?_⟩
  · cases ran
    exact ⟨1, rfl⟩
  · cases ran
    rintro stream (⟨call, drawn⟩ | ⟨call, id, found | ⟨answer, pulled⟩⟩)
    -- The one `open` was answered, and no `next` ever came.
    · rcases call with _ | call
      · cases drawn
      · cases drawn
    · cases found
    · cases pulled
  · cases ran
    exact ⟨⟨_, rfl, by decide⟩, .inl ⟨1, rfl⟩⟩
  · rw [Set.ncard_eq_zero server.finite_hasOpen]
    apply Set.eq_empty_of_forall_notMem
    intro stream attended
    exact left stream attended.1

end SvsServer

end Repe.Svs
