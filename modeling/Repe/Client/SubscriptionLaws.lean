import Repe.Client.Subscription

/-! What a subscriber of a `WebSocketClient` gets, in every interleaving with the response loop. -/

namespace Repe

namespace NotifyChannel

@[simp] theorem delivered_push (channel : NotifyChannel) (notify : Message) :
    (channel.push notify).delivered = channel.delivered ++ [notify] := by
  simp [push, delivered]

@[simp] theorem delivered_take (channel : NotifyChannel) :
    channel.take.delivered = channel.delivered := by
  unfold take
  split
  · rfl
  · -- What is taken moves from the queue to the taken ones.
    next oldest queue found => simp [delivered, found]

@[simp] theorem listening_take (channel : NotifyChannel) :
    channel.take.listening = channel.listening := by
  unfold take
  split <;> rfl

end NotifyChannel

namespace Subscriptions

variable {subscriptions : Subscriptions} {id other : ChannelId}

theorem modify_getElem (subscriptions : Subscriptions) (id other : ChannelId)
    (change : NotifyChannel → NotifyChannel) :
    (subscriptions.modify id change).channels[other]? =
      if id = other then subscriptions.channels[other]?.map change
      else subscriptions.channels[other]? := by
  rw [modify, List.getElem?_modify]
  split <;> simp

theorem delivered_modify {change : NotifyChannel → NotifyChannel}
    (keeps : ∀ channel, (change channel).delivered = channel.delivered) :
    (subscriptions.modify id change).delivered other = subscriptions.delivered other := by
  rw [delivered, modify_getElem, delivered]
  -- Either it is the channel that changes, or another.
  split
  · cases subscriptions.channels[other]? <;> simp [keeps]
  · rfl

theorem listening_modify {change : NotifyChannel → NotifyChannel}
    (keeps : ∀ channel, (change channel).listening = channel.listening) :
    (subscriptions.modify id change).listening other = subscriptions.listening other := by
  rw [listening, modify_getElem, listening]
  -- Either it is the channel that changes, or another.
  split
  · cases subscriptions.channels[other]? <;> simp [keeps]
  · rfl

theorem listening_close (silent : subscriptions.listening other = false) :
    (subscriptions.modify id (·.close)).listening other = false := by
  rw [listening, modify_getElem]
  -- A channel that is closed is not listening, and the others are as they were.
  split
  · cases subscriptions.channels[other]? <;> rfl
  · exact silent

theorem made_of_listening (listens : subscriptions.listening id = true) :
    ∃ channel, subscriptions.channels[id]? = some channel ∧ channel.listening = true := by
  rwa [listening, Option.any_eq_true] at listens

/-- A message that is sent comes last on its channel, and on no other. -/
theorem delivered_send {sent : Subscriptions} {notify : Message}
    (sends : subscriptions.send id notify = some sent) (other : ChannelId) :
    sent.delivered other =
      if id = other then subscriptions.delivered other ++ [notify]
      else subscriptions.delivered other := by
  unfold send at sends
  split at sends
  · next listens =>
    cases sends
    rw [delivered, modify_getElem]
    split
    · -- A channel somebody listens to is there to be appended to.
      next same =>
      subst same
      obtain ⟨channel, found, _⟩ := made_of_listening listens
      simp [delivered, found]
    · rfl
  · cases sends

theorem send_keeps {sent : Subscriptions} {notify : Message}
    (sends : subscriptions.send id notify = some sent) (other : ChannelId) :
    sent.slot = subscriptions.slot ∧ sent.channels.length = subscriptions.channels.length ∧
      sent.listening other = subscriptions.listening other := by
  -- A send goes to the channel, and not to the slot nor to any receiver.
  unfold send at sends
  split at sends
  · cases sends
    exact ⟨rfl, by simp [modify], listening_modify fun _ => rfl⟩
  · cases sends

@[simp] theorem delivered_clear (subscriptions : Subscriptions) (id : ChannelId) :
    subscriptions.clear.delivered id = subscriptions.delivered id := rfl

/-- A subscription sends nothing. -/
@[simp] theorem delivered_subscribe (subscriptions : Subscriptions) (id : ChannelId) :
    subscriptions.subscribe.2.delivered id = subscriptions.delivered id := by
  rw [subscribe]
  split
  · rfl
  · -- The new channel comes last, and is empty.
    rcases Nat.lt_trichotomy id subscriptions.channels.length with before | last | after
    · simp [delivered, List.getElem?_append_left before]
    · subst last
      simp [delivered, NotifyChannel.new, NotifyChannel.delivered]
    · -- Neither list of channels has this one.
      have absent : (subscriptions.channels ++ [NotifyChannel.new])[id]? = none := by
        apply List.getElem?_eq_none
        rw [List.length_append]
        exact after
      simp only [delivered, absent, List.getElem?_eq_none (Nat.le_of_lt after)]

theorem listening_subscribe (made : id < subscriptions.channels.length) :
    subscriptions.subscribe.2.listening id = subscriptions.listening id := by
  rw [subscribe]
  -- A new channel is put behind those that are there.
  split
  · rfl
  · simp [listening, List.getElem?_append_left made]

theorem length_subscribe (subscriptions : Subscriptions) :
    subscriptions.channels.length ≤ subscriptions.subscribe.2.channels.length := by
  rw [subscribe]
  split <;> simp

end Subscriptions

def RouteState.heldFor (loop : RouteState) (id : ChannelId) : List Message :=
  match loop with
  | .sending notify sender => if sender = id then [notify] else []
  | _ => []

def RouteState.unseen : RouteState → List Message
  | .holding notify => [notify]
  | _ => []

def SocketEvent.arrival (t : Target) : SocketEvent → Option Message
  | .message (.binary payload) =>
    match Message.fromSliceExact t payload with
    | .ok frame => if frame.header.notify ≠ 0 then some frame else none
    | _ => none
  | _ => none

def arrivals (t : Target) (events : List NotifyEvent) : List Message :=
  events.filterMap fun event =>
    match event with
    | .read event => event.arrival t
    | _ => none

namespace WebSocketInner

variable {t : Target} {σ : Type} {client after : WebSocketInner σ} {event : NotifyEvent}
  {id other : ChannelId}

/-- A receiver that was not dropped, and whose sender is in the slot. -/
structure Installed (client : WebSocketInner σ) (id : ChannelId) : Prop where
  slot : client.subscriptions.slot = some id
  listening : client.subscriptions.listening id = true

/-- What reading leaves of the slot: all of it, or nothing when the loop stops. -/
theorem onRead_channels (client : WebSocketInner σ) (event : SocketEvent) :
    (client.onRead t event).subscriptions = client.subscriptions ∨
      (client.onRead t event).subscriptions = client.subscriptions.clear ∧
        (client.onRead t event).loop = .stopped := by
  -- The loop stops on the end of the connection, on an error and on a malformed frame.
  unfold onRead
  split
  · exact .inr ⟨rfl, rfl⟩
  · exact .inr ⟨rfl, rfl⟩
  · split
    · exact .inl rfl
    · split <;> exact .inl rfl
    · exact .inr ⟨rfl, rfl⟩
    · exact .inl rfl

/-- Reading brings a notify into the hands of the loop, or leaves it without one. -/
theorem onRead_loop (client : WebSocketInner σ) (reading : client.loop = .reading)
    (event : SocketEvent) :
    (∃ notify, event.arrival t = some notify ∧ (client.onRead t event).loop = .holding notify) ∨
      event.arrival t = none ∧
        ((client.onRead t event).loop = .reading ∨ (client.onRead t event).loop = .stopped) := by
  cases event with
  | failed error => exact .inr ⟨rfl, .inr rfl⟩
  | ended => exact .inr ⟨rfl, .inr rfl⟩
  | message message =>
    cases message with
    | binary payload =>
      rw [onRead, decodeWebsocketFrame, SocketEvent.arrival]
      cases Message.fromSliceExact t payload with
      -- A frame that is no notify goes to the waiters, and the loop reads on.
      | ok frame => by_cases quiet : frame.header.notify = 0 <;> simp [quiet, reading]
      | err error => exact .inr ⟨rfl, .inr rfl⟩
      | panic => exact .inr ⟨rfl, .inr rfl⟩
    | text payload => exact .inr ⟨rfl, .inr rfl⟩
    | ping | pong | frame => exact .inr ⟨rfl, .inl reading⟩
    | close => exact .inr ⟨rfl, .inr rfl⟩

theorem onRead_unseen (client : WebSocketInner σ) (reading : client.loop = .reading)
    (event : SocketEvent) :
    (client.onRead t event).loop.unseen = (event.arrival t).toList ∧
      ∀ id, (client.onRead t event).loop.heldFor id = [] := by
  -- A notify is held unseen by the loop until it has looked at the slot.
  rcases onRead_loop (t := t) client reading event with
    ⟨notify, arrived, loop⟩ | ⟨arrived, loop | loop⟩ <;>
  · rw [arrived, loop]
    exact ⟨rfl, fun _ => rfl⟩

/-- Everything a channel was sent, and what the loop will send it. -/
def bound (client : WebSocketInner σ) (id : ChannelId) : List Message :=
  client.subscriptions.delivered id ++ client.loop.heldFor id

inductive Advances (client : WebSocketInner σ) : WebSocketInner σ → Prop where
  | clone {notify : Message} {sender : ChannelId} (holding : client.loop = .holding notify)
      (installed : client.subscriptions.slot = some sender) :
      Advances client { client with loop := .sending notify sender }
  | dropped {notify : Message} (holding : client.loop = .holding notify) :
      client.subscriptions.slot = none → Advances client { client with loop := .reading }
  | sent {notify : Message} {sender : ChannelId} {subscriptions : Subscriptions}
      (sending : client.loop = .sending notify sender)
      (sent : client.subscriptions.send sender notify = some subscriptions) :
      Advances client { client with subscriptions := subscriptions, loop := .reading }
  | failed {notify : Message} {sender : ChannelId} (sending : client.loop = .sending notify sender)
      (silent : client.subscriptions.listening sender = false) :
      Advances client { client with loop := .clearing sender }
  | cleared {sender : ChannelId} (clearing : client.loop = .clearing sender)
      (same : client.subscriptions.slot = some sender) :
      Advances client { client with subscriptions := client.subscriptions.clear, loop := .reading }
  | kept {sender : ChannelId} (clearing : client.loop = .clearing sender) :
      Advances client { client with loop := .reading }

/-- The loop does one of these things. -/
theorem advances_of_advance (advanced : client.advance = some after) : Advances client after := by
  unfold advance at advanced
  split at advanced
  · cases advanced
  · cases advanced
  · next notify holding =>
    split at advanced
    · next sender installed =>
      cases advanced
      exact .clone holding installed
    · next vacant =>
      cases advanced
      exact .dropped holding vacant
  · next notify sender sending =>
    split at advanced
    · next sent =>
      cases advanced
      exact .sent sending sent
    · next failed =>
      cases advanced
      -- A send fails only where nobody listens.
      refine .failed sending ?_
      by_contra listens
      rw [Subscriptions.send, if_pos (by simpa using listens)] at failed
      cases failed
  · next sender clearing =>
    split at advanced
    · next same =>
      cases advanced
      exact .cleared clearing same
    · cases advanced
      exact .kept clearing

/-- The loop goes on with its notify: the installed receiver gets it, and no other. -/
theorem Advances.bound (advances : client.Advances after) (installed : client.Installed id) :
    after.bound id ++ after.loop.unseen = client.bound id ++ client.loop.unseen ∧
      ∀ other, other ≠ id → after.bound other <+: client.bound other := by
  cases advances with
  | clone holding slot =>
    -- The slot holds the sender of the installed receiver.
    rw [installed.slot] at slot
    cases slot
    refine ⟨by simp [WebSocketInner.bound, holding, RouteState.heldFor, RouteState.unseen], ?_⟩
    intro other apart
    simp [WebSocketInner.bound, holding, RouteState.heldFor, apart.symm]
  | dropped holding vacant =>
    rw [installed.slot] at vacant
    cases vacant
  | sent sending sent =>
    -- What the loop held is now delivered, so each sum is as it was.
    have delivered := Subscriptions.delivered_send sent
    constructor
    · simp only [WebSocketInner.bound, delivered, sending, RouteState.heldFor, RouteState.unseen]
      split <;> simp
    · intro other _
      simp only [WebSocketInner.bound, delivered, sending, RouteState.heldFor]
      split <;> simp
  | @failed notify sender sending silent =>
    -- The send failed, so the sender is not the installed one.
    have apart : sender ≠ id := by
      rintro rfl
      rw [installed.listening] at silent
      cases silent
    refine ⟨?_, fun other _ => ?_⟩
    · simp [WebSocketInner.bound, sending, RouteState.heldFor, RouteState.unseen, apart]
    · simp [WebSocketInner.bound, sending, RouteState.heldFor]
  | cleared clearing same =>
    simp [WebSocketInner.bound, clearing, RouteState.heldFor, RouteState.unseen]
  | kept clearing => simp [WebSocketInner.bound, clearing, RouteState.heldFor, RouteState.unseen]

theorem bound_of_same (loop : after.loop = client.loop)
    (delivered : ∀ id, after.subscriptions.delivered id = client.subscriptions.delivered id)
    (id : ChannelId) : after.bound id = client.bound id := by
  rw [bound, bound, loop, delivered]

/-- One step, while a receiver is installed: what arrives is bound for it, and for no other. -/
theorem step_bound (installed : client.Installed id) (stepped : client.step t event = some after) :
    after.bound id ++ after.loop.unseen =
        client.bound id ++ client.loop.unseen ++ arrivals t [event] ∧
      ∀ other, other ≠ id → after.bound other <+: client.bound other := by
  -- A step of a subscriber sends nothing.
  have quiet (loop : after.loop = client.loop)
      (delivered : ∀ id, after.subscriptions.delivered id = client.subscriptions.delivered id)
      (none : arrivals t [event] = []) :
      after.bound id ++ after.loop.unseen =
          client.bound id ++ client.loop.unseen ++ arrivals t [event] ∧
        ∀ other, other ≠ id → after.bound other <+: client.bound other := by
    have same := bound_of_same loop delivered
    rw [same, loop, none, List.append_nil]
    exact ⟨rfl, fun other _ => by simp only [same, List.prefix_rfl]⟩
  cases event with
  | subscribe =>
    cases stepped
    exact quiet rfl (Subscriptions.delivered_subscribe _) rfl
  | unsubscribe =>
    cases stepped
    exact quiet rfl (Subscriptions.delivered_clear _) rfl
  | dropReceiver receiver =>
    cases stepped
    exact quiet rfl (fun _ => Subscriptions.delivered_modify fun _ => rfl) rfl
  | recv receiver =>
    cases stepped
    exact quiet rfl (fun _ => Subscriptions.delivered_modify NotifyChannel.delivered_take) rfl
  | read event =>
    rw [step] at stepped
    split at stepped
    · -- Whatever was read, nothing is delivered yet; a notify is in the loop's hands.
      next reading =>
      cases stepped
      obtain ⟨unseen, held⟩ := onRead_unseen (t := t) client reading event
      have delivered (id : ChannelId) :
          (client.onRead t event).subscriptions.delivered id =
            client.subscriptions.delivered id := by
        rcases onRead_channels (t := t) client event with kept | ⟨cleared, _⟩
        · rw [kept]
        · rw [cleared, Subscriptions.delivered_clear]
      have bound (id : ChannelId) : (client.onRead t event).bound id = client.bound id := by
        rw [WebSocketInner.bound, WebSocketInner.bound, delivered, held, reading]
        rfl
      have arrived : arrivals t [.read event] = (event.arrival t).toList := by
        cases found : event.arrival t <;> simp [arrivals, found]
      rw [bound, unseen, arrived, reading]
      exact ⟨by simp [RouteState.unseen], fun other _ => by simp only [bound, List.prefix_rfl]⟩
    · cases stepped
  | advance =>
    obtain ⟨same, others⟩ := (advances_of_advance stepped).bound installed
    rw [same]
    exact ⟨(List.append_nil _).symm, others⟩

/-- While a receiver stays installed it gets what arrives, in order, and nobody else gets any of it. -/
theorem run_bound {events : List NotifyEvent}
    (stays : Transition.Meets (step t) (fun client _ => client.Installed id) client events)
    (ran : Transition.run (step t) client events = some after) :
    after.bound id ++ after.loop.unseen =
        client.bound id ++ client.loop.unseen ++ arrivals t events ∧
      ∀ other, other ≠ id → after.bound other <+: client.bound other := by
  -- By the steps of the run; the receiver is installed at the start of each one.
  induction events generalizing client with
  | nil =>
    cases ran
    exact ⟨(List.append_nil _).symm, fun other _ => List.prefix_rfl⟩
  | cons event events ih =>
    obtain ⟨between, stepped, rest⟩ := Transition.run_cons.mp ran
    obtain ⟨here, others⟩ := step_bound stays.1 stepped
    obtain ⟨later, laterOthers⟩ := ih (stays.2 between stepped) rest
    constructor
    · rw [later, here, List.append_assoc, arrivals, arrivals, arrivals, ← List.filterMap_append,
        List.singleton_append]
    · exact fun other apart => (laterOthers other apart).trans (others other apart)

/--
What holds of the loop in every run: its senders are of channels that were made, and a failed send
was to a receiver that is gone.
-/
structure Sound (client : WebSocketInner σ) : Prop where
  sender : ∀ {notify : Message} {id : ChannelId}, client.loop = .sending notify id →
    id < client.subscriptions.channels.length
  failed : ∀ {id : ChannelId}, client.loop = .clearing id →
    id < client.subscriptions.channels.length ∧ client.subscriptions.listening id = false

theorem Sound.of_idle (sending : ∀ {notify id}, client.loop ≠ .sending notify id)
    (clearing : ∀ {id}, client.loop ≠ .clearing id) : client.Sound :=
  ⟨fun sends => absurd sends sending, fun clears => absurd clears clearing⟩

/-- What a subscriber does to the channels concerns neither the loop's sender nor a failed send. -/
theorem Sound.of_channels (sound : client.Sound) (loop : after.loop = client.loop)
    (made : client.subscriptions.channels.length ≤ after.subscriptions.channels.length)
    (silent : ∀ {id}, id < client.subscriptions.channels.length →
      client.subscriptions.listening id = false → after.subscriptions.listening id = false) :
    after.Sound := by
  -- Channels are only added, so the loop's sender stays one of them.
  constructor
  · intro notify id sends
    exact Nat.lt_of_lt_of_le (sound.sender (loop ▸ sends)) made
  · intro id clears
    obtain ⟨inside, gone⟩ := sound.failed (loop ▸ clears)
    exact ⟨Nat.lt_of_lt_of_le inside made, silent inside gone⟩

/-- The loop keeps to senders of channels that were made. -/
theorem Sound.advance (sound : client.Sound) (advances : client.Advances after) : after.Sound := by
  cases advances with
  | clone holding installed =>
    -- The slot has no sender of a channel that was not made.
    refine ⟨fun sends => ?_, fun clears => by cases clears⟩
    cases sends
    exact client.subscriptions.made installed
  | failed sending silent =>
    refine ⟨fun sends => absurd sends (by simp), fun clears => ?_⟩
    cases clears
    exact ⟨sound.sender sending, silent⟩
  | dropped | sent | cleared | kept =>
    exact .of_idle (fun sends => by cases sends) (fun clears => by cases clears)

/-- Every step keeps to it. -/
theorem Sound.step (sound : client.Sound) (stepped : client.step t event = some after) :
    after.Sound := by
  cases event with
  | subscribe =>
    cases stepped
    -- A new receiver listens to a channel of its own, never to one that was given up.
    refine sound.of_channels rfl (Subscriptions.length_subscribe _) fun inside silent => ?_
    rw [Subscriptions.listening_subscribe inside, silent]
  | unsubscribe =>
    cases stepped
    exact sound.of_channels rfl le_rfl fun _ silent => silent
  | dropReceiver receiver =>
    cases stepped
    refine sound.of_channels rfl ?_ fun _ silent => Subscriptions.listening_close silent
    simp [Subscriptions.modify]
  | recv receiver =>
    cases stepped
    refine sound.of_channels rfl (by simp [Subscriptions.modify]) fun _ silent => ?_
    rw [Subscriptions.listening_modify NotifyChannel.listening_take, silent]
  | read event =>
    rw [WebSocketInner.step] at stepped
    split at stepped
    · next reading =>
      cases stepped
      rcases onRead_loop (t := t) client reading event with
        ⟨notify, _, loop⟩ | ⟨_, loop | loop⟩ <;>
      · refine .of_idle ?_ ?_ <;> simp [loop]
    · cases stepped
  | advance => exact sound.advance (advances_of_advance stepped)

theorem sound_of_run {waiting : Waiting σ} {events : List NotifyEvent}
    (ran : Transition.run (step t) (connected waiting) events = some client) : client.Sound :=
  Transition.invariant_of_run Sound (fun _ _ _ sound stepped => sound.step stepped)
    (.of_idle (fun sends => by cases sends) (fun clears => by cases clears)) ran

theorem Sound.clears (sound : client.Sound) (advances : client.Advances after) :
    after.subscriptions.slot = client.subscriptions.slot ∨
      ∃ id, client.loop = .clearing id ∧ client.subscriptions.slot = some id ∧
        client.subscriptions.listening id = false ∧ after.subscriptions.slot = none := by
  -- The slot is only emptied for a sender whose receiver is gone.
  cases advances with
  | sent sending sent => exact .inl (Subscriptions.send_keeps sent 0).1
  | cleared clearing same => exact .inr ⟨_, clearing, same, (sound.failed clearing).2, rfl⟩
  | clone | dropped | failed | kept => exact .inl rfl

theorem Advances.listening (advances : client.Advances after) (id : ChannelId) :
    after.subscriptions.listening id = client.subscriptions.listening id := by
  cases advances with
  | sent sending sent => exact (Subscriptions.send_keeps sent id).2.2
  | clone | dropped | failed | cleared | kept => rfl

theorem Sound.advance_installed (sound : client.Sound) (advances : client.Advances after)
    (installed : client.Installed id) : after.Installed id := by
  refine ⟨?_, (advances.listening id).trans installed.listening⟩
  rcases sound.clears advances with kept | ⟨gone, _, slot, silent, _⟩
  · rw [kept, installed.slot]
  · -- Nobody listens to a channel that is cleared.
    rw [installed.slot] at slot
    cases slot
    rw [installed.listening] at silent
    cases silent

/--
In every run one receiver at most is installed, and a further subscription is refused while it is;
what arrives while it stays installed is sent to it, once and in order, and to no other; and the
loop empties the slot only for the receiver a send failed to.
-/
theorem notifies_reach_the_installed_receiver {waiting : Waiting σ} {events : List NotifyEvent}
    (ran : Transition.run (step t) (connected waiting) events = some client) :
    (∀ id other, client.Installed id → client.Installed other → id = other) ∧
    (∀ id, client.Installed id →
      client.subscriptions.subscribe = (.error {}, client.subscriptions)) ∧
    (∀ id more after,
      Transition.Meets (step t) (fun client _ => client.Installed id) client more →
      Transition.run (step t) client more = some after →
        after.bound id ++ after.loop.unseen =
          client.bound id ++ client.loop.unseen ++ arrivals t more ∧
        ∀ other, other ≠ id → after.bound other <+: client.bound other) ∧
    (∀ after, client.step t .advance = some after →
      (after.subscriptions.slot = client.subscriptions.slot ∨
        ∃ id, client.loop = .clearing id ∧ client.subscriptions.slot = some id ∧
          client.subscriptions.listening id = false ∧ after.subscriptions.slot = none) ∧
      ∀ id, client.Installed id → after.Installed id) := by
  have sound := sound_of_run ran
  refine ⟨?_, ?_, fun id more after => run_bound, fun after advanced => ?_⟩
  · -- The slot holds one sender.
    intro id other first second
    exact Option.some.inj (first.slot.symm.trans second.slot)
  · intro id installed
    rw [Subscriptions.subscribe, installed.slot]
    exact if_pos installed.listening
  · -- What the loop does to the slot is said by the step it takes.
    have advances := advances_of_advance advanced
    exact ⟨sound.clears advances, fun id => sound.advance_installed advances⟩

def pushedNotify : Message := MessageBuilder.build { query := [47, 97], notify := true }

/--
A receiver is dropped while a notify is on its way to it, and another one subscribes before the loop
takes the lock again.
-/
def racingSubscription : List NotifyEvent :=
  [.subscribe, .read (.message (.binary pushedNotify.toVec)), .advance, .dropReceiver 0, .advance,
    .subscribe, .advance]

/-- The second receiver is installed, and gets the next notify. -/
theorem racing_subscription_survives :
    ∃ client : WebSocketInner Unit,
      Transition.run (step .release64) (connected ⟨⟨∅, []⟩, []⟩) racingSubscription = some client ∧
      client.Installed 1 ∧ client.subscriptions.subscribe = (.error {}, client.subscriptions) := by
  -- The run is evaluated first.
  have reached : ∃ client : WebSocketInner Unit,
      Transition.run (step .release64) (connected ⟨⟨∅, []⟩, []⟩) racingSubscription = some client ∧
      client.Installed 1 := ⟨_, rfl, rfl, rfl⟩
  obtain ⟨client, ran, installed⟩ := reached
  exact ⟨client, ran, installed, (notifies_reach_the_installed_receiver ran).2.1 1 installed⟩

end WebSocketInner

end Repe
