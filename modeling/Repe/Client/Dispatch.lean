import Repe.Client.Calls

/-! The four receive loops of the crate, and what a notify does to the calls that wait for responses. -/

namespace Repe

inductive Transport where
  | blocking
  | async
  | webSocket
  | wasm
  deriving DecidableEq, Repr

/-- The transport of a client that is modelled step by step. -/
def ClientKind.transport : ClientKind → Transport
  | .blocking => .blocking
  | .async => .async
  | .webSocket _ => .webSocket

/-- The one subscriber to inbound notifies: whether its receiver is still there, and what it was sent. -/
structure Subscriber where
  listening : Bool
  queue : List Message
  deriving DecidableEq, Repr

/-- `Option<mpsc::UnboundedSender<Message>>`, behind a mutex or in a cell. -/
abbrev NotifySlot := Option Subscriber

/-- `route`: hand a notify to the subscriber; a slot whose receiver is gone is emptied. -/
def NotifySlot.route (slot : NotifySlot) (notify : Message) : NotifySlot :=
  match slot with
  | none => none
  | some subscriber =>
    -- A send fails only when the receiver was dropped.
    if subscriber.listening then some { subscriber with queue := subscriber.queue ++ [notify] }
    else none

/-- `route_notify`: take a notify out of the way, and hand every other message back. -/
def NotifySlot.routeNotify (slot : NotifySlot) (message : Message) : NotifySlot × Option Message :=
  if message.header.notify = 0 then (slot, some message) else (slot.route message, none)

/-- The calls a client waits for, by id, and those a response was sent to; a call is known by its sender. -/
structure Outstanding (σ : Type) where
  pending : AList fun _ : UInt64 => σ
  completed : List (σ × Message)

structure Inbound (σ : Type) where
  calls : Outstanding σ
  slot : NotifySlot

variable {σ : Type}

/-- Send a message to whoever waits under its id, and forget them; without a waiter it is dropped. -/
def Outstanding.correlate (calls : Outstanding σ) (message : Message) : Outstanding σ :=
  match calls.pending.lookup message.header.id with
  | some sender =>
    ⟨calls.pending.erase message.header.id, calls.completed ++ [(sender, message)]⟩
  | none => calls

namespace Inbound

def receiveBlocking (inbound : Inbound σ) (message : Message) : Inbound σ :=
  -- The flag is not looked at.
  { inbound with calls := inbound.calls.correlate message }

def receiveAsync (inbound : Inbound σ) (message : Message) : Inbound σ :=
  -- The flag is not looked at here either.
  { inbound with calls := inbound.calls.correlate message }

/-- One turn of the WebSocket client's loop, which looks at the flag first. -/
def receiveWebSocket (inbound : Inbound σ) (message : Message) : Inbound σ :=
  if message.header.notify ≠ 0 then { inbound with slot := inbound.slot.route message }
  else { inbound with calls := inbound.calls.correlate message }

def handleMessage (inbound : Inbound σ) (message : Message) : Inbound σ :=
  match inbound.slot.routeNotify message with
  | (slot, none) => { inbound with slot }
  | (slot, some response) => ⟨inbound.calls.correlate response, slot⟩

def receive : Transport → Inbound σ → Message → Inbound σ
  | .blocking => receiveBlocking
  | .async => receiveAsync
  | .webSocket => receiveWebSocket
  | .wasm => handleMessage

def process (transport : Transport) (inbound : Inbound σ) (frames : List Message) : Inbound σ :=
  frames.foldl (receive transport) inbound

end Inbound

def isResponse (frame : Message) : Bool := frame.header.notify == 0

/-- Every notify under the id of a waiting call comes after a response under that id. -/
def NotifiesLate (pending : AList fun _ : UInt64 => σ) (frames : List Message) : Prop :=
  ∀ before notify after, frames = before ++ notify :: after → isResponse notify = false →
    notify.header.id ∈ pending →
      ∃ response ∈ before, isResponse response = true ∧ response.header.id = notify.header.id

section Laws

variable {calls : Outstanding σ} {pending : AList fun _ : UInt64 => σ} {message : Message}
  {frames : List Message}

/--
The loops with a notify slot leave the calls alone when the flag is set, and correlate every other
frame.
-/
theorem Inbound.receive_separated {transport : Transport}
    (separated : transport = .webSocket ∨ transport = .wasm) (inbound : Inbound σ)
    (message : Message) :
    (inbound.receive transport message).calls =
      if isResponse message then inbound.calls.correlate message else inbound.calls := by
  -- One loop tests the flag itself, the other through the slot's own function.
  rcases separated with rfl | rfl
  · rw [receive, receiveWebSocket, isResponse]
    by_cases quiet : message.header.notify = 0 <;> simp [quiet]
  · rw [receive, handleMessage, NotifySlot.routeNotify, isResponse]
    by_cases quiet : message.header.notify = 0 <;> simp [quiet]

theorem Inbound.receive_correlates {transport : Transport}
    (plain : transport = .blocking ∨ transport = .async) (inbound : Inbound σ) (message : Message) :
    (inbound.receive transport message).calls = inbound.calls.correlate message := by
  rcases plain with rfl | rfl <;> rfl

theorem Inbound.process_separated {transport : Transport}
    (separated : transport = .webSocket ∨ transport = .wasm) (inbound : Inbound σ) :
    (inbound.process transport frames).calls =
      (frames.filter isResponse).foldl Outstanding.correlate inbound.calls := by
  induction frames generalizing inbound with
  | nil => rfl
  | cons frame frames ih =>
    -- The first frame is in the filtered sequence exactly if it reaches the calls.
    rw [process, List.foldl_cons, ← process, ih, receive_separated separated, List.filter_cons]
    split <;> rfl

theorem Inbound.process_correlates {transport : Transport}
    (plain : transport = .blocking ∨ transport = .async) (inbound : Inbound σ) :
    (inbound.process transport frames).calls = frames.foldl Outstanding.correlate inbound.calls := by
  -- Frame by frame; what is notified in between does not touch the calls.
  induction frames generalizing inbound with
  | nil => rfl
  | cons frame frames ih =>
    rw [process, List.foldl_cons, ← process, ih, receive_correlates plain, List.foldl_cons]

namespace Outstanding

theorem correlate_of_notMem (absent : message.header.id ∉ calls.pending) :
    calls.correlate message = calls := by
  rw [correlate, AList.lookup_eq_none.mpr absent]

/-- After a message nobody waits under its id, and the others wait as before. -/
theorem mem_correlate {id : UInt64} :
    id ∈ (calls.correlate message).pending ↔ id ≠ message.header.id ∧ id ∈ calls.pending := by
  rw [correlate]
  split
  · -- A waiter was found and removed.
    exact AList.mem_erase
  · -- Nobody waited, so the map is what it was.
    rename_i absent
    constructor
    · intro waiting
      refine ⟨?_, waiting⟩
      rintro rfl
      exact AList.lookup_eq_none.mp absent waiting
    · exact And.right

/-- Processing frames completes further calls, each with one of the frames. -/
theorem completed_fold (calls : Outstanding σ) (frames : List Message) :
    ∃ further, (frames.foldl correlate calls).completed = calls.completed ++ further ∧
      ∀ entry ∈ further, entry.2 ∈ frames := by
  induction frames generalizing calls with
  | nil => exact ⟨[], by simp, by simp⟩
  | cons frame frames ih =>
    -- What the first frame completes comes before what the others do.
    obtain ⟨further, completed, from_⟩ := ih (calls.correlate frame)
    rw [List.foldl_cons, completed, correlate]
    split
    · rename_i sender found
      refine ⟨(sender, frame) :: further, by simp, fun entry member => ?_⟩
      rcases List.mem_cons.mp member with rfl | later
      · exact List.mem_cons_self
      · exact List.mem_cons_of_mem _ (from_ entry later)
    · exact ⟨further, rfl, fun entry member => List.mem_cons_of_mem _ (from_ entry member)⟩

/-- A first frame that is a response leaves the condition to the calls that still wait. -/
theorem notifiesLate_response (first : isResponse message = true) :
    NotifiesLate calls.pending (message :: frames) ↔
      NotifiesLate (calls.correlate message).pending frames := by
  constructor
  · -- Put the response in front; it is under another id than the notify.
    intro late before notify after split flagged waiting
    obtain ⟨apart, waited⟩ := mem_correlate.mp waiting
    obtain ⟨response, member, quiet, same⟩ :=
      late (message :: before) notify after (by rw [split, List.cons_append]) flagged waited
    rcases List.mem_cons.mp member with rfl | member
    · exact absurd same.symm apart
    · exact ⟨response, member, quiet, same⟩
  · -- Either the new response is under the id of the notify, or the call waits on.
    intro late before notify after split flagged waiting
    cases before with
    | nil =>
      cases split
      rw [first] at flagged
      cases flagged
    | cons head before =>
      cases split
      by_cases same : notify.header.id = message.header.id
      · exact ⟨message, List.mem_cons_self, first, same.symm⟩
      · obtain ⟨response, member, quiet, equal⟩ :=
          late before notify after rfl flagged (mem_correlate.mpr ⟨same, waiting⟩)
        exact ⟨response, List.mem_cons_of_mem _ member, quiet, equal⟩

/-- A first frame that is a notify must not be under the id of a waiting call. -/
theorem notifiesLate_notify (first : isResponse message = false) :
    NotifiesLate calls.pending (message :: frames) ↔
      message.header.id ∉ calls.pending ∧ NotifiesLate calls.pending frames := by
  constructor
  · intro late
    refine ⟨fun waiting => ?_, fun before notify after split flagged waiting => ?_⟩
    · -- Nothing comes before the first frame.
      obtain ⟨response, member, _⟩ := late [] message frames rfl first waiting
      cases member
    · obtain ⟨response, member, quiet, same⟩ :=
        late (message :: before) notify after (by rw [split, List.cons_append]) flagged waiting
      rcases List.mem_cons.mp member with rfl | member
      · -- The notify in front is not the response.
        rw [first] at quiet
        cases quiet
      · exact ⟨response, member, quiet, same⟩
  · rintro ⟨absent, late⟩ before notify after split flagged waiting
    cases before with
    | nil =>
      cases split
      exact absurd waiting absent
    | cons head before =>
      cases split
      obtain ⟨response, member, quiet, same⟩ := late before notify after rfl flagged waiting
      exact ⟨response, List.mem_cons_of_mem _ member, quiet, same⟩

/-- Correlating all frames is correlating the responses exactly when every notify comes late. -/
theorem fold_filter_iff (calls : Outstanding σ) (frames : List Message) :
    frames.foldl correlate calls = (frames.filter isResponse).foldl correlate calls ↔
      NotifiesLate calls.pending frames := by
  -- The calls change from frame to frame, and the condition with them.
  induction frames generalizing calls with
  | nil =>
    refine ⟨fun _ before notify after split => ?_, fun _ => rfl⟩
    cases before <;> cases split
  | cons frame frames ih =>
    cases response : isResponse frame with
    | true =>
      rw [List.filter_cons_of_pos response, List.foldl_cons, List.foldl_cons, ih,
        notifiesLate_response response]
    | false =>
      rw [List.filter_cons_of_neg (by rw [response]; exact Bool.false_ne_true), List.foldl_cons,
        notifiesLate_notify response]
      -- A notify that finds a waiter is what tells the two sides apart.
      by_cases waiting : frame.header.id ∈ calls.pending
      · refine ⟨fun same => ?_, fun late => absurd waiting late.1⟩
        -- The notify is among the completions on one side, and only responses are on the other.
        obtain ⟨sender, found⟩ := Option.isSome_iff_exists.mp (AList.lookup_isSome.mpr waiting)
        obtain ⟨all, allCompleted, _⟩ := completed_fold (calls.correlate frame) frames
        obtain ⟨some_, someCompleted, from_⟩ := completed_fold calls (frames.filter isResponse)
        have completions := congrArg Outstanding.completed same
        rw [allCompleted, someCompleted, correlate, found, List.append_assoc] at completions
        have further : [(sender, frame)] ++ all = some_ := List.append_cancel_left completions
        have member := from_ (sender, frame) (by rw [← further]; exact List.mem_cons_self)
        rw [List.mem_filter, response] at member
        cases member.2
      · -- A notify nobody waits for is dropped on both sides.
        rw [correlate_of_notMem waiting, ih]
        exact ⟨fun late => ⟨waiting, late⟩, And.right⟩

end Outstanding

end Laws

/--
Notifies leave the calls of a client alone exactly if its loop sets them aside, or they come too late
to matter.

The calls after a sequence of frames are then those after its responses: the same ones still wait, and
the same ones were completed, by the same messages.
-/
theorem notifies_leave_calls_iff (transport : Transport) (inbound : Inbound σ)
    (frames : List Message) :
    (inbound.process transport frames).calls
        = (inbound.process transport (frames.filter isResponse)).calls ↔
      transport = .webSocket ∨ transport = .wasm ∨
        NotifiesLate inbound.calls.pending frames := by
  -- The responses of the responses are the responses.
  have separated : transport = .webSocket ∨ transport = .wasm →
      (inbound.process transport frames).calls
        = (inbound.process transport (frames.filter isResponse)).calls := by
    intro separated
    rw [Inbound.process_separated separated, Inbound.process_separated separated, List.filter_filter]
    simp only [Bool.and_self]
  -- Here every frame is correlated, so the filter makes the difference.
  have plain : transport = .blocking ∨ transport = .async →
      ((inbound.process transport frames).calls
          = (inbound.process transport (frames.filter isResponse)).calls ↔
        NotifiesLate inbound.calls.pending frames) := by
    intro plain
    rw [Inbound.process_correlates plain, Inbound.process_correlates plain]
    exact Outstanding.fold_filter_iff inbound.calls frames
  cases transport with
  | blocking => simpa using plain (.inl rfl)
  | async => simpa using plain (.inr rfl)
  | webSocket => simpa using separated (.inl rfl)
  | wasm => simpa using separated (.inr rfl)

def waitingSeven : Inbound Unit :=
  ⟨⟨AList.singleton 7 (), []⟩, none⟩

def pushedSeven : Message :=
  MessageBuilder.build { id := 7, notify := true }

/-- The stream clients take a pushed notify for the response, and the call is gone. -/
theorem notify_steals_call :
    ((waitingSeven.process .blocking [pushedSeven]).calls.pending.lookup 7 = none ∧
      (waitingSeven.process .blocking ([pushedSeven].filter isResponse)).calls.pending.lookup 7 = some ()) ∧
    (waitingSeven.process .async [pushedSeven]).calls.pending.lookup 7 = none ∧
      (waitingSeven.process .async ([pushedSeven].filter isResponse)).calls.pending.lookup 7 = some () := by
  exact ⟨⟨rfl, rfl⟩, rfl, rfl⟩

end Repe
