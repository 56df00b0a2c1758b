import Mathlib.Data.List.Basic

/-! A bounded channel between a sender that works through a list of messages and one receiver. -/

/-- The messages on their way: those in the buffer, and those the sender has not sent yet. -/
structure Channel (α : Type) where
  /-- How many messages the buffer holds; without a buffer a message needs a receiver that waits. -/
  capacity : Nat
  queue : List α
  todo : List α
  deriving DecidableEq, Repr

namespace Channel

variable {α : Type} {channel after : Channel α} {message : α}

/-- A channel whose sender has these messages to send. -/
def new (capacity : Nat) (messages : List α) : Channel α := ⟨capacity, [], messages⟩

/-- Every message that was not received yet, in order. -/
def pending (channel : Channel α) : List α := channel.queue ++ channel.todo

/-- The sender gets its next message into the channel, unless it has to wait. -/
def send (waiting : Bool) (channel : Channel α) : Option (Channel α) :=
  match channel.todo with
  | [] => none
  | message :: rest =>
    -- A receiver that waits takes a message even where there is no buffer.
    if channel.queue.length < channel.capacity ∨ (waiting = true ∧ channel.queue.length = 0) then
      some { channel with queue := channel.queue ++ [message], todo := rest }
    else none

/-- The receiver gets the oldest message, learns that the channel is closed, or has to wait. -/
def recv (channel : Channel α) : Option (Option α × Channel α) :=
  match channel.queue, channel.todo with
  -- What is buffered is received even after the sender is gone.
  | message :: rest, _ => some (some message, { channel with queue := rest })
  | [], [] => some (none, channel)
  | [], _ :: _ => none

/-- A send only moves a message inside the channel. -/
theorem send_pending {waiting : Bool} (sent : channel.send waiting = some after) :
    after.pending = channel.pending := by
  unfold send at sent
  -- The message goes from the script to the buffer, if there is room.
  split at sent
  · simp at sent
  · next message rest script =>
    split at sent
    · cases sent
      simp [pending, script]
    · simp at sent

/-- A message is received in its turn. -/
theorem recv_some (received : channel.recv = some (some message, after)) :
    channel.pending = message :: after.pending := by
  unfold recv at received
  -- The oldest message in the buffer is the next one.
  split at received
  · next head rest buffered =>
    cases received
    simp [pending, buffered]
  · simp at received
  · simp at received

/-- The receiver sees the end of the channel only when it has received everything. -/
theorem recv_none (closed : channel.recv = some (none, after)) :
    channel.pending = [] ∧ after = channel := by
  unfold recv at closed
  -- The end is seen with nothing buffered and nothing left to send.
  split at closed
  · simp at closed
  · next empty done =>
    cases closed
    exact ⟨by simp [pending, empty, done], rfl⟩
  · simp at closed

/-- How many sends and receives are left before the receiver sees the end of the channel. -/
def work (channel : Channel α) : Nat := 2 * channel.todo.length + channel.queue.length

/-- A send leaves less to do. -/
theorem send_work {waiting : Bool} (sent : channel.send waiting = some after) :
    after.work + 1 = channel.work := by
  unfold send at sent
  -- A message in the buffer costs one step, and one in the script two.
  split at sent
  · simp at sent
  · next message rest script =>
    split at sent
    · cases sent
      simp only [work, script, List.length_append, List.length_cons, List.length_nil]
      omega
    · simp at sent

/-- So does the receipt of a message. -/
theorem recv_work (received : channel.recv = some (some message, after)) :
    after.work + 1 = channel.work := by
  unfold recv at received
  -- The message is out of the channel.
  split at received
  · next head rest buffered =>
    cases received
    simp only [work, buffered, List.length_cons]
    omega
  · simp at received
  · simp at received

/-- A receiver that waits is never stuck: it can receive, or the sender can send. -/
theorem recv_or_send (channel : Channel α) :
    channel.recv.isSome = true ∨ (channel.send true).isSome = true := by
  unfold recv send
  -- Only an empty buffer makes the receiver wait, and then there is room for a send.
  cases channel.queue with
  | cons message rest => simp
  | nil => cases channel.todo <;> simp

end Channel
