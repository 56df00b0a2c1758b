import Repe.Client.Dispatch

/-! The notify subscription of the clients with a message-framed transport: the channels made for
subscribers, the slot that holds the sender of one of them, and the receive paths that feed it. -/

namespace Repe

structure AlreadySubscribed where
  deriving DecidableEq, Repr

structure NotifyChannel where
  taken : List Message
  queue : List Message
  listening : Bool
  deriving DecidableEq, Repr

namespace NotifyChannel

/-- `mpsc::unbounded_channel`. -/
def new : NotifyChannel := ⟨[], [], true⟩

def delivered (channel : NotifyChannel) : List Message := channel.taken ++ channel.queue

def push (channel : NotifyChannel) (notify : Message) : NotifyChannel :=
  { channel with queue := channel.queue ++ [notify] }

def take (channel : NotifyChannel) : NotifyChannel :=
  match channel.queue with
  | [] => channel
  | oldest :: queue => { channel with taken := channel.taken ++ [oldest], queue := queue }

def close (channel : NotifyChannel) : NotifyChannel := { channel with listening := false }

end NotifyChannel

abbrev ChannelId := Nat

structure Subscriptions where
  channels : List NotifyChannel
  /-- `notify_tx`: the channel whose sender is installed. -/
  slot : Option ChannelId
  /-- Only the sender of a channel that was made can be installed. -/
  made : ∀ {id : ChannelId}, slot = some id → id < channels.length

namespace Subscriptions

def empty : Subscriptions := ⟨[], none, fun installed => absurd installed.symm (Option.some_ne_none _)⟩

/-- The receiver of a channel was not dropped; `is_closed` is the opposite. -/
def listening (subscriptions : Subscriptions) (id : ChannelId) : Bool :=
  subscriptions.channels[id]?.any (·.listening)

def delivered (subscriptions : Subscriptions) (id : ChannelId) : List Message :=
  (subscriptions.channels[id]?.map (·.delivered)).getD []

def modify (subscriptions : Subscriptions) (id : ChannelId)
    (change : NotifyChannel → NotifyChannel) : Subscriptions where
  channels := subscriptions.channels.modify id change
  slot := subscriptions.slot
  made installed := by simpa using subscriptions.made installed

def clear (subscriptions : Subscriptions) : Subscriptions :=
  { subscriptions with
    slot := none
    made := fun installed => absurd installed.symm (Option.some_ne_none _) }

/-- `subscribe_notifies`, and `subscribe` of the browser client's slot. -/
def subscribe (subscriptions : Subscriptions) :
    Except AlreadySubscribed ChannelId × Subscriptions :=
  if subscriptions.slot.any subscriptions.listening then (.error {}, subscriptions)
  else
    -- An installed sender whose receiver is gone is replaced.
    (.ok subscriptions.channels.length,
      { channels := subscriptions.channels ++ [.new]
        slot := some subscriptions.channels.length
        made := fun installed => by simp [← Option.some.inj installed] })

/-- `UnboundedSender::send`, which fails once the receiver is dropped. -/
def send (subscriptions : Subscriptions) (id : ChannelId) (notify : Message) :
    Option Subscriptions :=
  if subscriptions.listening id then some (subscriptions.modify id (·.push notify)) else none

end Subscriptions

inductive WsMessage where
  | binary (payload : Bytes)
  | text (payload : String)
  | ping
  | pong
  | frame
  | close
  deriving DecidableEq, Repr

inductive SocketEvent where
  | message (message : WsMessage)
  | failed (error : RepeError)
  | ended
  deriving DecidableEq, Repr

def websocketClosedError : RepeError := .io ⟨.connectionAborted, "websocket connection closed"⟩

def websocketInvalidDataError (message : String) : RepeError := .io ⟨.invalidData, message⟩

variable {σ : Type}

/-- The calls of a client that wait for a response, and those that were told of a failure. -/
structure Waiting (σ : Type) where
  calls : Outstanding σ
  failed : List (σ × RepeError)

/-- The map is drained, and every waiter is sent its copy of the error. -/
def Waiting.fail (waiting : Waiting σ) (error : RepeError) : Waiting σ where
  calls := { waiting.calls with pending := ∅ }
  failed := waiting.failed ++ waiting.calls.pending.entries.map fun entry =>
    (entry.2, cloneFatalErrorForWaiter error entry.1)

def Waiting.correlate (waiting : Waiting σ) (response : Message) : Waiting σ :=
  { waiting with calls := waiting.calls.correlate response }

/-- Where the response loop of a `WebSocketClient` is. -/
inductive RouteState where
  | reading
  /-- A notify was decoded, and the slot not looked at. -/
  | holding (notify : Message)
  /-- The sender was cloned out of the slot, and the lock released. -/
  | sending (notify : Message) (sender : ChannelId)
  /-- The send failed, and the lock is to be taken again. -/
  | clearing (sender : ChannelId)
  | stopped
  deriving DecidableEq, Repr

/-- What the subscribers and the response loop of a `WebSocketClient` share. -/
structure WebSocketInner (σ : Type) where
  subscriptions : Subscriptions
  waiting : Waiting σ
  loop : RouteState

inductive NotifyEvent where
  | subscribe
  | unsubscribe
  | dropReceiver (receiver : ChannelId)
  | recv (receiver : ChannelId)
  | read (event : SocketEvent)
  | advance
  deriving DecidableEq, Repr

variable (t : Target)

def decodeWebsocketFrame : WsMessage → Exec RepeError (Option Message)
  | .binary payload => Message.fromSliceExact t payload >>= fun message => .ok (some message)
  | .ping | .pong | .frame => .ok none
  | .close => .err websocketClosedError
  | .text _ => .err (websocketInvalidDataError "websocket transport requires binary messages")

namespace WebSocketInner

def failAllPending (client : WebSocketInner σ) (error : RepeError) : WebSocketInner σ where
  -- The notify stream ends first.
  subscriptions := client.subscriptions.clear
  waiting := client.waiting.fail error
  loop := .stopped

/-- The loop takes what comes from the socket, up to the slot. -/
def onRead (client : WebSocketInner σ) : SocketEvent → WebSocketInner σ
  | .failed error => client.failAllPending error
  | .ended => client.failAllPending websocketClosedError
  | .message message =>
    match decodeWebsocketFrame t message with
    | .ok none => client
    | .ok (some response) =>
      if response.header.notify ≠ 0 then { client with loop := .holding response }
      else { client with waiting := client.waiting.correlate response }
    | .err error => client.failAllPending error
    -- A panic ends the task of the loop, and nothing else.
    | .panic => { client with loop := .stopped }

def advance (client : WebSocketInner σ) : Option (WebSocketInner σ) :=
  match client.loop with
  | .reading | .stopped => none
  | .holding notify =>
    match client.subscriptions.slot with
    | some sender => some { client with loop := .sending notify sender }
    -- Without a subscriber the notify is dropped.
    | none => some { client with loop := .reading }
  | .sending notify sender =>
    match client.subscriptions.send sender notify with
    | some subscriptions => some { client with subscriptions := subscriptions, loop := .reading }
    | none => some { client with loop := .clearing sender }
  | .clearing sender =>
    -- Only the same channel is cleared; another one was installed in between.
    if client.subscriptions.slot = some sender then
      some { client with subscriptions := client.subscriptions.clear, loop := .reading }
    else some { client with loop := .reading }

def step (client : WebSocketInner σ) : NotifyEvent → Option (WebSocketInner σ)
  | .subscribe => some { client with subscriptions := client.subscriptions.subscribe.2 }
  | .unsubscribe => some { client with subscriptions := client.subscriptions.clear }
  | .dropReceiver receiver =>
    some { client with subscriptions := client.subscriptions.modify receiver (·.close) }
  | .recv receiver =>
    some { client with subscriptions := client.subscriptions.modify receiver (·.take) }
  | .read event =>
    match client.loop with
    | .reading => some (client.onRead t event)
    | _ => none
  | .advance => client.advance

def connected (waiting : Waiting σ) : WebSocketInner σ := ⟨.empty, waiting, .reading⟩

end WebSocketInner

/-- `WasmClientInner`, without the socket. -/
structure WasmInner (σ : Type) where
  subscriptions : Subscriptions
  waiting : Waiting σ

namespace WasmInner

/-- `decode_message_event`: what is no `ArrayBuffer` is refused. -/
def decodeMessageEvent : WsMessage → Exec RepeError Message
  | .binary payload => Message.fromSliceExact t payload
  | _ => .err (websocketInvalidDataError "websocket transport requires ArrayBuffer")

def route (subscriptions : Subscriptions) (notify : Message) : Subscriptions :=
  match subscriptions.slot with
  | none => subscriptions
  | some sender =>
    match subscriptions.send sender notify with
    | some sent => sent
    -- The receiver is gone.
    | none => subscriptions.clear

/-- `fail_all_pending`, which leaves the socket alone. -/
def failAllPending (client : WasmInner σ) (error : RepeError) : WasmInner σ :=
  { client with waiting := client.waiting.fail error }

/-- `fail_connection`, which ends the notify stream too. -/
def failConnection (client : WasmInner σ) (error : RepeError) : WasmInner σ :=
  { client.failAllPending error with subscriptions := client.subscriptions.clear }

def handleMessage (client : WasmInner σ) (message : WsMessage) : WasmInner σ :=
  match decodeMessageEvent t message with
  | .err error => client.failAllPending error
  | .ok response =>
    -- `route_notify` takes a notify out of the way.
    if response.header.notify = 0 then { client with waiting := client.waiting.correlate response }
    else { client with subscriptions := route client.subscriptions response }
  | .panic => client

def onEvent (client : WasmInner σ) : SocketEvent → WasmInner σ
  -- `onerror`.
  | .failed _ => client.failConnection (.io ⟨.other, "websocket error"⟩)
  -- `onclose`.
  | .ended | .message .close => client.failConnection websocketClosedError
  -- The browser answers these frames itself, and reports none of them.
  | .message .ping | .message .pong | .message .frame => client
  | .message message => client.handleMessage t message

end WasmInner

end Repe
