import Repe.Client.SubscriptionLaws
import Repe.Lib.Feed
import Repe.Wire.MessageLaws

/-! What a subscriber gets of a sequence of inbound messages, on the two clients with a notify stream. -/

namespace Repe

variable {t : Target} {σ : Type} {id : ChannelId}

namespace SocketEvent

def ends : SocketEvent → Bool
  | .message .close | .failed _ | .ended => true
  | .message _ => false

/-- A message that is no frame: a text, or a payload that `from_slice_exact` refuses. -/
def malformed (t : Target) : SocketEvent → Bool
  | .message (.text _) => true
  | .message (.binary payload) =>
    match Message.fromSliceExact t payload with
    | .err _ => true
    | _ => false
  | _ => false

theorem not_ends_of_malformed {event : SocketEvent} (wrong : event.malformed t = true) :
    event.ends = false := by
  -- Only a message can be malformed, and none of those ends the stream by itself.
  cases event with
  | message message => cases message <;> first | rfl | cases wrong
  | failed error => cases wrong
  | ended => cases wrong

end SocketEvent

namespace WebSocketInner

def proceed (client : WebSocketInner σ) : WebSocketInner σ := client.advance.getD client

/-- One turn of the loop, from the socket back to the socket. -/
def turn (t : Target) (client : WebSocketInner σ) (event : SocketEvent) : WebSocketInner σ :=
  match client.loop with
  | .reading => (client.onRead t event).proceed.proceed.proceed
  -- The loop is gone, and reads no more.
  | _ => client

theorem proceed_run (client : WebSocketInner σ) :
    ∃ events : List NotifyEvent, (∀ event ∈ events, event = .advance) ∧
      Transition.run (step t) client events = some client.proceed := by
  rw [proceed]
  -- A step of the loop is one event, or none if it has nothing to do.
  cases advanced : client.advance with
  | none => exact ⟨[], by simp, rfl⟩
  | some after => exact ⟨[.advance], by simp, by simp [Transition.run, step, advanced]⟩

/-- A turn is a run of the loop's own steps. -/
theorem turn_run (client : WebSocketInner σ) (reading : client.loop = .reading)
    (event : SocketEvent) :
    ∃ events : List NotifyEvent, (∀ event ∈ events, event = .advance) ∧
      Transition.run (step t) client (.read event :: events) = some (client.turn t event) := by
  -- Each of the three goes on by one step of the loop, or not at all.
  obtain ⟨first, firstSteps, firstRun⟩ := proceed_run (t := t) (client.onRead t event)
  obtain ⟨second, secondSteps, secondRun⟩ := proceed_run (t := t) (client.onRead t event).proceed
  obtain ⟨third, thirdSteps, thirdRun⟩ :=
    proceed_run (t := t) (client.onRead t event).proceed.proceed
  refine ⟨first ++ (second ++ third), ?_, ?_⟩
  · intro event member
    simp only [List.mem_append] at member
    rcases member with member | member | member
    · exact firstSteps event member
    · exact secondSteps event member
    · exact thirdSteps event member
  · rw [turn, reading, Transition.run, step, reading, Option.bind_some,
      Transition.run_append _ firstRun, Transition.run_append _ secondRun, thirdRun]

theorem proceed_of_idle (client : WebSocketInner σ)
    (idle : client.loop = .reading ∨ client.loop = .stopped) : client.proceed = client := by
  -- There is no notify in the hands of the loop to go on with.
  rw [proceed, advance]
  rcases idle with reading | stopped
  · rw [reading]
    rfl
  · rw [stopped]
    rfl

theorem proceed_of_holding {client : WebSocketInner σ} (installed : client.Installed id)
    {notify : Message} (holding : client.loop = .holding notify) :
    client.proceed = { client with loop := .sending notify id } := by
  rw [proceed, advance, holding, installed.slot]
  rfl

theorem proceed_of_sending {client : WebSocketInner σ} {notify : Message}
    {subscriptions : Subscriptions} (sending : client.loop = .sending notify id)
    (sent : client.subscriptions.send id notify = some subscriptions) :
    client.proceed = { client with subscriptions := subscriptions, loop := .reading } := by
  rw [proceed, advance, sending]
  simp only [sent, Option.getD_some]

/-- A message that ends the connection, or a malformed one, ends the loop. -/
theorem onRead_stop (client : WebSocketInner σ) {event : SocketEvent}
    (stop : (event.ends || event.malformed t) = true) :
    ∃ error, client.onRead t event = client.failAllPending error := by
  cases event with
  | failed error => exact ⟨error, rfl⟩
  | ended => exact ⟨_, rfl⟩
  | message message =>
    cases message with
    | binary payload =>
      rw [onRead, decodeWebsocketFrame]
      -- The error of the decoder is taken for one of the transport.
      cases parsed : Message.fromSliceExact t payload with
      | err error => exact ⟨error, rfl⟩
      | ok frame => simp [SocketEvent.ends, SocketEvent.malformed, parsed] at stop
      | panic => exact absurd parsed (Message.fromSliceExact_ne_panic t payload)
    | text payload => exact ⟨_, rfl⟩
    | close => exact ⟨_, rfl⟩
    | ping | pong | frame => cases stop

/-- Every other message leaves the subscription alone. -/
theorem onRead_goes (client : WebSocketInner σ) (reading : client.loop = .reading)
    {event : SocketEvent} (goes : (event.ends || event.malformed t) = false) :
    (client.onRead t event).subscriptions = client.subscriptions ∧
      (client.onRead t event).loop =
        ((event.arrival t).map RouteState.holding).getD .reading := by
  cases event with
  | failed error => cases goes
  | ended => cases goes
  | message message =>
    cases message with
    -- A frame that parses is a response or a notify; the other outcomes are excluded.
    | binary payload =>
      rw [onRead, decodeWebsocketFrame, SocketEvent.arrival]
      cases parsed : Message.fromSliceExact t payload with
      | ok frame => by_cases quiet : frame.header.notify = 0 <;> simp [quiet, reading]
      | err error => simp [SocketEvent.malformed, parsed] at goes
      | panic => exact absurd parsed (Message.fromSliceExact_ne_panic t payload)
    | text payload => cases goes
    | close => cases goes
    | ping | pong | frame => exact ⟨rfl, reading⟩

/-- The three steps for a notify bring it to the installed receiver. -/
theorem proceed_delivers {client : WebSocketInner σ} (installed : client.Installed id)
    {notify : Message} (holding : client.loop = .holding notify) :
    client.proceed.proceed.proceed.Installed id ∧
      client.proceed.proceed.proceed.loop = .reading ∧
      client.proceed.proceed.proceed.subscriptions.delivered id =
        client.subscriptions.delivered id ++ [notify] := by
  obtain ⟨subscriptions, sent⟩ :
      ∃ subscriptions, client.subscriptions.send id notify = some subscriptions :=
    ⟨_, if_pos installed.listening⟩
  -- The sender is cloned, the notify is sent, and the third step finds nothing to do.
  have ends : client.proceed.proceed.proceed =
      { client with subscriptions := subscriptions, loop := .reading } := by
    have pushed : { client with loop := .sending notify id }.proceed =
        { client with subscriptions := subscriptions, loop := .reading } :=
      proceed_of_sending rfl sent
    rw [proceed_of_holding installed holding, pushed]
    exact proceed_of_idle _ (.inl rfl)
  obtain ⟨slot, _, listening⟩ := Subscriptions.send_keeps sent id
  rw [ends]
  refine ⟨⟨slot.trans installed.slot, listening.trans installed.listening⟩, rfl, ?_⟩
  exact (Subscriptions.delivered_send sent id).trans (if_pos rfl)

/-- The native client feeds its subscriber until the connection ends, or a message is malformed. -/
theorem feedsUntil (t : Target) (id : ChannelId) :
    FeedsUntil (turn t) (fun client : WebSocketInner σ => client.subscriptions.delivered id)
      (SocketEvent.arrival t) (fun event => event.ends || event.malformed t)
      (fun client => client.Installed id ∧ client.loop = .reading)
      (fun client => client.subscriptions.slot = none ∧ client.loop = .stopped) where
  goes {client event} live goes := by
    obtain ⟨installed, reading⟩ := live
    obtain ⟨kept, loop⟩ := client.onRead_goes reading goes
    have still : (client.onRead t event).Installed id := by
      constructor
      · rw [kept, installed.slot]
      · rw [kept, installed.listening]
    rw [turn, reading]
    -- Without a notify the loop is back at the socket at once.
    cases arrived : event.arrival t with
    | none =>
      rw [arrived] at loop
      simp only [proceed_of_idle _ (.inl loop)]
      exact ⟨⟨still, loop⟩, by simp [kept]⟩
    | some notify =>
      rw [arrived] at loop
      obtain ⟨again, reads, longer⟩ := proceed_delivers still loop
      exact ⟨⟨again, reads⟩, by rw [longer, kept]; rfl⟩
  stops {client event} live stop := by
    obtain ⟨error, failed⟩ := client.onRead_stop stop
    rw [turn, live.2]
    simp only [failed, proceed_of_idle (client.failAllPending error) (.inr rfl)]
    exact ⟨⟨rfl, rfl⟩, rfl⟩
  stays {client event} dead := by
    rw [turn, dead.2]
    exact ⟨dead, rfl⟩

end WebSocketInner

namespace WasmInner

/-- While the connection lasts only a notify touches the subscription. -/
theorem onEvent_subscriptions (client : WasmInner σ) {event : SocketEvent}
    (lasts : event.ends = false) :
    (client.onEvent t event).subscriptions =
      (event.arrival t).elim client.subscriptions (route client.subscriptions) := by
  cases event with
  | failed error => cases lasts
  | ended => cases lasts
  | message message =>
    cases message with
    | close => cases lasts
    | text payload => rfl
    | ping | pong | frame => rfl
    | binary payload =>
      rw [onEvent, handleMessage, decodeMessageEvent, SocketEvent.arrival]
      -- A payload that is no frame is dropped, and brings no notify either.
      · cases Message.fromSliceExact t payload with
        | ok frame => by_cases quiet : frame.header.notify = 0 <;> simp [quiet]
        | err error => rfl
        | panic => rfl
      all_goals simp

theorem onEvent_ends (client : WasmInner σ) {event : SocketEvent} (ending : event.ends = true) :
    (client.onEvent t event).subscriptions = client.subscriptions.clear := by
  -- The clients see three kinds of end.
  cases event with
  | failed error => rfl
  | ended => rfl
  | message message =>
    cases message with
    | close => rfl
    | binary | text | ping | pong | frame => cases ending

/-- The browser client feeds its subscriber until the connection ends. -/
theorem feedsUntil (t : Target) (id : ChannelId) :
    FeedsUntil (onEvent t) (fun client : WasmInner σ => client.subscriptions.delivered id)
      (SocketEvent.arrival t) SocketEvent.ends
      (fun client => client.subscriptions.slot = some id ∧
        client.subscriptions.listening id = true)
      (fun client => client.subscriptions.slot = none) where
  goes {client event} live lasts := by
    obtain ⟨slot, listening⟩ := live
    rw [client.onEvent_subscriptions lasts]
    cases event.arrival t with
    | none => exact ⟨⟨slot, listening⟩, (List.append_nil _).symm⟩
    | some notify =>
      obtain ⟨sent, sends⟩ : ∃ sent, client.subscriptions.send id notify = some sent :=
        ⟨_, if_pos listening⟩
      have routed : route client.subscriptions notify = sent := by
        rw [route, slot]
        simp only [sends]
      obtain ⟨kept, _, listens⟩ := Subscriptions.send_keeps sends id
      rw [Option.elim_some, routed]
      refine ⟨⟨kept.trans slot, listens.trans listening⟩, ?_⟩
      exact (Subscriptions.delivered_send sends id).trans (if_pos rfl)
  stops {client event} _ ending := by
    rw [client.onEvent_ends ending]
    exact ⟨rfl, rfl⟩
  stays {client event} dead := by
    cases ending : event.ends with
    | true =>
      rw [client.onEvent_ends ending]
      exact ⟨rfl, rfl⟩
    | false =>
      -- The slot stays empty, so what still comes in is dropped.
      have ignored (notify : Message) :
          route client.subscriptions notify = client.subscriptions := by
        rw [route, dead]
      rw [client.onEvent_subscriptions ending]
      cases event.arrival t with
      | none => exact ⟨dead, rfl⟩
      | some notify =>
        rw [Option.elim_some, ignored]
        exact ⟨dead, rfl⟩

end WasmInner

/-- The notifies of a sequence of messages, up to the end of the connection. -/
def streamOf (t : Target) (events : List SocketEvent) : List Message :=
  (events.takeWhile (!·.ends)).filterMap (SocketEvent.arrival t)

/--
A subscriber has got exactly the notifies of what came in, and its stream is over exactly if the
connection is.
-/
structure Follows (t : Target) (before now : Subscriptions) (id : ChannelId)
    (seen : List SocketEvent) : Prop where
  delivered : now.delivered id = before.delivered id ++ streamOf t seen
  ended : now.slot ≠ some id ↔ seen.any SocketEvent.ends = true

/-- Every malformed message comes after the end of the connection. -/
def MalformedLate (t : Target) (events : List SocketEvent) : Prop :=
  ∀ before event after, events = before ++ event :: after → event.malformed t = true →
    before.any SocketEvent.ends = true

theorem MalformedLate.tail {event : SocketEvent} {events : List SocketEvent}
    (late : MalformedLate t (event :: events)) (lasts : event.ends = false) :
    event.malformed t = false ∧ MalformedLate t events := by
  constructor
  · -- A malformed message would come before the end, which is not the first event.
    by_contra wrong
    have ended := late [] event events rfl (by simpa using wrong)
    cases ended
  · intro before wrong after split malformed
    have ended := late (event :: before) wrong after (by rw [split, List.cons_append]) malformed
    rwa [List.any_cons, lasts, Bool.false_or] at ended

/-- Then a loop that stops at malformed messages stops where the connection ends. -/
theorem MalformedLate.stops_at_end {events : List SocketEvent} (late : MalformedLate t events) :
    events.takeWhile (fun event => !(event.ends || event.malformed t)) =
        events.takeWhile (!·.ends) ∧
      events.any (fun event => event.ends || event.malformed t) = events.any SocketEvent.ends := by
  induction events with
  | nil => exact ⟨rfl, rfl⟩
  | cons event events ih =>
    cases ending : event.ends with
    -- Both stop here.
    | true => simp [ending]
    | false =>
      obtain ⟨formed, rest⟩ := late.tail ending
      obtain ⟨taken, stopped⟩ := ih rest
      simp only [List.takeWhile_cons, List.any_cons, ending, formed, taken, stopped, Bool.or_self,
        Bool.false_or, and_self]

theorem MalformedLate.of_prefix {seen events : List SocketEvent} (late : MalformedLate t events)
    (arrived : seen <+: events) : MalformedLate t seen := by
  -- What follows in the prefix follows in the whole.
  obtain ⟨rest, rfl⟩ := arrived
  intro before event after split
  exact late before event (after ++ rest) (by rw [split, List.append_assoc, List.cons_append])

/-- A stream is right as long as it is fed up to the end of the connection and no further. -/
theorem follows_of_feed {before now : Subscriptions} {seen : List SocketEvent}
    (delivered : now.delivered id = before.delivered id ++ streamOf t seen)
    (state : (seen.any SocketEvent.ends = false ∧ now.slot = some id) ∨
      (seen.any SocketEvent.ends = true ∧ now.slot = none)) :
    Follows t before now id seen := by
  refine ⟨delivered, ?_⟩
  -- The connection is open and so is the slot, or it has ended and the slot is empty.
  rcases state with ⟨lasts, slot⟩ | ⟨ending, slot⟩
  · simp [lasts, slot]
  · simp [ending, slot]

/--
The subscriber of a `WebSocketClient` gets the notifies up to the end of the connection, whatever
came in so far, exactly if no malformed message comes before that end; the one of a `WasmClient`
always does.
-/
theorem streams_follow_their_connections {native : WebSocketInner σ} {browser : WasmInner σ}
    {id other : ChannelId} (installed : native.Installed id) (reading : native.loop = .reading)
    (slot : browser.subscriptions.slot = some other)
    (listening : browser.subscriptions.listening other = true) (events : List SocketEvent) :
    ((∀ seen, seen <+: events → Follows t native.subscriptions
        (seen.foldl (WebSocketInner.turn t) native).subscriptions id seen) ↔
      MalformedLate t events) ∧
    ∀ seen, seen <+: events → Follows t browser.subscriptions
      (seen.foldl (WasmInner.onEvent t) browser).subscriptions other seen := by
  have feeds := WebSocketInner.feedsUntil (σ := σ) t id
  have served := WasmInner.feedsUntil (σ := σ) t other
  refine ⟨⟨?_, ?_⟩, fun seen _ => ?_⟩
  · -- The malformed message has ended the stream, so the connection was over.
    intro follows before event after split wrong
    have seen : before ++ [event] <+: events := ⟨after, by simp [split]⟩
    have stopped : (before ++ [event]).any
        (fun event => event.ends || event.malformed t) = true := by simp [wrong]
    rcases feeds.foldl_state (before ++ [event]) ⟨installed, reading⟩ with ⟨goes, _⟩ | ⟨_, dead⟩
    · rw [stopped] at goes
      cases goes
    · have ending := (follows _ seen).ended.mp (by rw [dead.1]; exact (Option.some_ne_none _).symm)
      simpa [SocketEvent.not_ends_of_malformed wrong] using ending
  · -- Without malformed messages the loop stops where the connection does.
    intro late seen arrived
    obtain ⟨taken, stopped⟩ := (late.of_prefix arrived).stops_at_end
    refine follows_of_feed ?_ ?_
    · rw [feeds.foldl_out seen ⟨installed, reading⟩, taken, streamOf]
    · rw [← stopped]
      rcases feeds.foldl_state seen ⟨installed, reading⟩ with ⟨goes, live⟩ | ⟨stops, dead⟩
      · exact .inl ⟨goes, live.1.slot⟩
      · exact .inr ⟨stops, dead.1⟩
  · refine follows_of_feed (served.foldl_out seen ⟨slot, listening⟩) ?_
    rcases served.foldl_state seen ⟨slot, listening⟩ with ⟨goes, live⟩ | ⟨stops, dead⟩
    · exact .inl ⟨goes, live.1⟩
    · exact .inr ⟨stops, dead⟩

/-- A `WebSocketClient` with one subscriber. -/
def nativeSubscriber : WebSocketInner Unit :=
  ⟨Subscriptions.empty.subscribe.2, ⟨⟨∅, []⟩, []⟩, .reading⟩

/-- A `WasmClient` with one subscriber. -/
def browserSubscriber : WasmInner Unit := ⟨Subscriptions.empty.subscribe.2, ⟨⟨∅, []⟩, []⟩⟩

def malformedFirst : List SocketEvent :=
  [.message (.binary [0]), .message (.binary WebSocketInner.pushedNotify.toVec)]

/-- A malformed message ends the stream of a `WebSocketClient`, which never gets the notify after it. -/
theorem malformed_message_ends_the_stream :
    nativeSubscriber.Installed 0 ∧
    streamOf .release64 malformedFirst = [WebSocketInner.pushedNotify] ∧
    (malformedFirst.foldl (WebSocketInner.turn .release64) nativeSubscriber).subscriptions.slot =
      none ∧
    (malformedFirst.foldl (WebSocketInner.turn .release64)
      nativeSubscriber).subscriptions.delivered 0 = [] ∧
    malformedFirst.any SocketEvent.ends = false :=
  ⟨⟨rfl, rfl⟩, by decide +kernel, rfl, rfl, rfl⟩

def notifyThenClose : List SocketEvent :=
  [.message (.binary WebSocketInner.pushedNotify.toVec), .message .close]

/-- Both subscribers get a notify; the browser's gets it after a malformed message too. -/
theorem notify_reaches_both_subscribers :
    Follows .release64 nativeSubscriber.subscriptions
      (notifyThenClose.foldl (WebSocketInner.turn .release64) nativeSubscriber).subscriptions 0
      notifyThenClose ∧
    Follows .release64 browserSubscriber.subscriptions
      (malformedFirst.foldl (WasmInner.onEvent .release64) browserSubscriber).subscriptions 0
      malformedFirst := by
  have formed : ∀ event ∈ notifyThenClose, event.malformed .release64 = false := by decide +kernel
  -- Nothing here is malformed at all.
  have late : MalformedLate .release64 notifyThenClose := by
    intro before event after split wrong
    rw [formed event (by simp [split])] at wrong
    cases wrong
  have installed : nativeSubscriber.Installed 0 := ⟨rfl, rfl⟩
  have slot : browserSubscriber.subscriptions.slot = some 0 := rfl
  have streams := streams_follow_their_connections (t := .release64) installed rfl slot rfl
  exact ⟨(streams notifyThenClose).1.mpr late _ List.prefix_rfl,
    (streams malformedFirst).2 _ List.prefix_rfl⟩

end Repe
