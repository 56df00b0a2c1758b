import Repe.Lib.Transition
import Repe.Transfer.ControlLaws

/-! The window a single producer keeps to, and the acknowledgements that open it again. -/

namespace Repe

variable {P : Type}

namespace TransferControl

def unacked (control : TransferControl P) : Nat :=
  control.sentOffset.toNat - control.ackedOffset.toNat

theorem inFlight_toNat (control : TransferControl P) :
    control.inFlight.toNat = control.unacked :=
  UInt64.toNat_saturatingSub _ _

/-- Credit is granted when nothing is in flight, or when the chunk fits into the window as well. -/
theorem waitForCredit_granted {t : Target} {control : TransferControl P} {chunkLen : UInt64}
    {deadline now : Nat} (fits : control.sentOffset.toNat + chunkLen.toNat < 2 ^ 64)
    (granted : control.waitForCredit t chunkLen deadline now = .ok (some ())) :
    control.unacked = 0 ∨ control.unacked + chunkLen.toNat ≤ control.windowBytes.toNat := by
  have flight := control.inFlight_toNat
  -- What is in flight was sent, so the sum of the test stays below the width of the type.
  have below : control.inFlight.toNat + chunkLen.toNat < 2 ^ 64 := by
    rw [flight]
    unfold unacked
    omega
  unfold waitForCredit at granted
  split at granted
  · simp at granted
  · by_cases empty : control.inFlight = 0
    · left
      rw [← flight, empty]
      simp
    · right
      rw [if_neg empty, Target.addU64_ok _ below, Exec.ok_bind] at granted
      by_cases within : control.inFlight + chunkLen ≤ control.windowBytes
      · rwa [UInt64.le_iff_toNat_le, UInt64.toNat_add_of_fits below, flight] at within
      · rw [if_neg within] at granted
        split at granted <;> simp at granted

end TransferControl

namespace TransferOp

theorem Effect.window_fixed {b : Build} {control after : TransferControl P} {op : TransferOp P}
    {reply : TransferReply} (effect : Effect b control op reply after) :
    after.windowBytes = control.windowBytes := by
  -- The control is built with its window, and no call writes it.
  cases effect <;> rfl

/-- Only a record of bytes sent raises the sent offset, so nothing else adds bytes in flight. -/
theorem Effect.unacked_shrinks {b : Build} {control after : TransferControl P}
    {op : TransferOp P} {reply : TransferReply} (effect : Effect b control op reply after)
    (unsent : ∀ newOffset now, op ≠ .recordSent newOffset now) :
    after.unacked ≤ control.unacked ∧ after.sentOffset ≤ control.sentOffset := by
  by_cases boundary : ∃ nextFileIndex now, op = .advanceToFile nextFileIndex now
  · obtain ⟨nextFileIndex, now, same⟩ := boundary
    subst same
    cases effect with
    | refuses stuck ended => exact ⟨Nat.le_refl _, UInt64.le_refl _⟩
    | advanceToFile =>
      -- A new file starts with nothing sent.
      refine ⟨?_, UInt64.le_iff_toNat_le.mpr ?_⟩
      · simp [TransferControl.unacked, TransferControl.advanceToFile]
      · simp [TransferControl.advanceToFile]
  · -- Within a file the acknowledged offset only grows, and the sent offset stays.
    have grows := (effect.offsets_grow (by
      intro nextFileIndex now same
      exact boundary ⟨nextFileIndex, now, same⟩)).2
    have fixed : after.sentOffset = control.sentOffset := by
      cases effect with
      | recordSent newOffset now => exact absurd rfl (unsent newOffset now)
      | advanceToFile nextFileIndex now => exact absurd ⟨nextFileIndex, now, rfl⟩ boundary
      | _ => rfl
    rw [UInt64.le_iff_toNat_le] at grows ⊢
    unfold TransferControl.unacked
    rw [fixed]
    omega

end TransferOp

/-- A single producer on a control, between asking for credit and recording what it sent. -/
structure CreditedProducer (P : Type) where
  mutex : Mutex (TransferControl P)
  /-- The chunk that was granted and is not yet recorded as sent. -/
  granted : Option UInt64
  /-- The last chunk that was granted when nothing was in flight. -/
  lone : UInt64

namespace CreditedProducer

/-- A step of the producer, or of any other thread that holds the control. -/
inductive Event (P : Type) where
  | waitForCredit (chunkLen : UInt64) (deadline now : Nat)
  | recordSent (now : Nat)
  | call (op : TransferOp P)

/-- The calls that are the producer's own part of the protocol. -/
def ownCall : TransferOp P → Bool
  | .waitForCredit _ _ _ | .recordSent _ _ => true
  | _ => false

def step (b : Build) (producer : CreditedProducer P) : Event P → Option (CreditedProducer P)
  | .waitForCredit chunkLen deadline now =>
    -- One chunk at a time, and only chunks that end inside the offset type.
    if producer.granted = none ∧
        producer.mutex.value.sentOffset.toNat + chunkLen.toNat < 2 ^ 64 then
      let (reply, mutex) := (TransferOp.waitForCredit chunkLen deadline now).perform b producer.mutex
      if reply = .granted then
        some ⟨mutex, some chunkLen,
          if producer.mutex.value.unacked = 0 then chunkLen else producer.lone⟩
      else some { producer with mutex := mutex }
    else none
  | .recordSent now => do
    let chunkLen ← producer.granted
    let newOffset := producer.mutex.value.sentOffset + chunkLen
    return ⟨((TransferOp.recordSent newOffset now).perform b producer.mutex).2, none, producer.lone⟩
  | .call op =>
    if ownCall op then none else some { producer with mutex := (op.perform b producer.mutex).2 }

def start (windowBytes replayCapacityBytes : UInt64) (now : Nat) : CreditedProducer P :=
  ⟨.new (.withReplayCapacity windowBytes replayCapacityBytes now), none, 0⟩

/-- The larger of the window and the chunk that was granted when nothing was in flight. -/
def allowance (producer : CreditedProducer P) : Nat :=
  max producer.mutex.value.windowBytes.toNat producer.lone.toNat

/-- The credit a granted chunk still has when it is recorded. -/
def Covered (producer : CreditedProducer P) (chunkLen : UInt64) : Prop :=
  producer.mutex.value.sentOffset.toNat + chunkLen.toNat < 2 ^ 64 ∧
    producer.mutex.value.unacked + chunkLen.toNat ≤ producer.allowance

/-- What is in flight is within the allowance, and so is what was granted on top of it. -/
structure Within (producer : CreditedProducer P) : Prop where
  capped : producer.mutex.value.ackedOffset ≤ producer.mutex.value.sentOffset
  flight : producer.mutex.value.unacked ≤ producer.allowance
  granted : ∀ chunkLen, producer.granted = some chunkLen → producer.Covered chunkLen

variable {b : Build}

/-- Other threads can only take bytes out of flight. -/
theorem Within.call {producer : CreditedProducer P} (kept : producer.Within) {op : TransferOp P}
    (foreign : ownCall op = false) :
    ({ producer with mutex := (op.perform b producer.mutex).2 } : CreditedProducer P).Within := by
  have effect := op.perform_effect b producer.mutex
  have window := effect.window_fixed
  -- Only `record_sent` adds to what is in flight, and it is the producer's own call.
  obtain ⟨shrinks, sent⟩ := effect.unacked_shrinks (by
    intro newOffset now same
    simp [same, ownCall] at foreign)
  rw [UInt64.le_iff_toNat_le] at sent
  have flight := kept.flight
  unfold allowance at flight
  refine ⟨effect.acked_le_sent kept.capped, ?_, ?_⟩
  · unfold allowance
    rw [window]
    exact Nat.le_trans shrinks flight
  · intro chunkLen granted
    obtain ⟨fits, covered⟩ := kept.granted chunkLen granted
    unfold allowance at covered
    refine ⟨?_, ?_⟩
    · simp only
      omega
    · unfold allowance
      simp only [window]
      omega

theorem waitForCredit_keeps (mutex : Mutex (TransferControl P)) (chunkLen : UInt64)
    (deadline now : Nat) :
    ((TransferOp.waitForCredit chunkLen deadline now).perform b mutex).2.value = mutex.value := by
  have effect := (TransferOp.waitForCredit chunkLen deadline now).perform_effect b mutex
  generalize (TransferOp.waitForCredit chunkLen deadline now).perform b mutex = result at effect ⊢
  obtain ⟨reply, left⟩ := result
  generalize left.value = after at effect ⊢
  -- None of the effects of waiting writes to the control.
  cases effect <;> rfl

/-- A granted chunk fits into the window, or is the only one in flight. -/
theorem Within.waitForCredit {producer after : CreditedProducer P} (kept : producer.Within)
    {chunkLen : UInt64} {deadline now : Nat}
    (taken : producer.step b (.waitForCredit chunkLen deadline now) = some after) :
    after.Within := by
  have same := waitForCredit_keeps (b := b) producer.mutex chunkLen deadline now
  have effect := (TransferOp.waitForCredit chunkLen deadline now).perform_effect b producer.mutex
  unfold step at taken
  rcases turn : (TransferOp.waitForCredit chunkLen deadline now).perform b producer.mutex
    with ⟨reply, mutex⟩
  simp only [turn] at same effect taken
  split at taken
  · next enabled =>
    split at taken
    · next granted =>
      rw [granted, same] at effect
      cases taken
      -- The reply says that the test of the loop was passed.
      have passed : producer.mutex.value.unacked = 0 ∨
          producer.mutex.value.unacked + chunkLen.toNat ≤
            producer.mutex.value.windowBytes.toNat := by
        cases effect with
        | refuses stuck ended => simp [TransferReply.advances] at stuck
        | grants live credit => exact TransferControl.waitForCredit_granted enabled.2 credit
      have flight := kept.flight
      unfold allowance at flight
      -- With nothing in flight the chunk itself is the allowance.
      have bound : producer.mutex.value.unacked + chunkLen.toNat ≤
          max producer.mutex.value.windowBytes.toNat
            (if producer.mutex.value.unacked = 0 then chunkLen else producer.lone).toNat := by
        split
        · omega
        · omega
      refine ⟨by rw [same]; exact kept.capped, ?_, ?_⟩
      · unfold allowance
        simp only [same]
        omega
      · intro other sent
        cases sent
        refine ⟨by simp only [same]; exact enabled.2, ?_⟩
        unfold allowance
        simp only [same]
        exact bound
    · cases taken
      exact ⟨by rw [same]; exact kept.capped, by simpa only [allowance, same] using kept.flight,
        by simpa only [Covered, allowance, same] using kept.granted⟩
  · simp at taken

/-- Recording the granted chunk uses up exactly the credit it was granted. -/
theorem Within.recordSent {producer : CreditedProducer P} (kept : producer.Within)
    {chunkLen : UInt64} (granted : producer.granted = some chunkLen) (now : Nat) :
    (⟨((TransferOp.recordSent (producer.mutex.value.sentOffset + chunkLen) now).perform b
      producer.mutex).2, none, producer.lone⟩ : CreditedProducer P).Within := by
  obtain ⟨fits, covered⟩ := kept.granted chunkLen granted
  have sum := UInt64.toNat_add_of_fits fits
  have effect := (TransferOp.recordSent (producer.mutex.value.sentOffset + chunkLen) now).perform_effect
    b producer.mutex
  have capped := effect.acked_le_sent kept.capped
  have flight := kept.flight
  unfold allowance at flight covered
  refine ⟨capped, ?_, by simp⟩
  unfold allowance
  generalize (TransferOp.recordSent (producer.mutex.value.sentOffset + chunkLen) now).perform b
    producer.mutex = result at effect ⊢
  obtain ⟨reply, left⟩ := result
  simp only at effect ⊢
  generalize left.value = after at effect ⊢
  cases effect with
  | refuses stuck ended => exact flight
  | recordSent =>
    -- The new offset is the old one and the chunk, and nothing else has changed.
    unfold TransferControl.unacked at covered ⊢
    simp only [TransferControl.recordSent]
    split
    · rw [sum]
      omega
    · omega

/-- Every step keeps to the allowance. -/
theorem Within.step {producer after : CreditedProducer P} {event : Event P}
    (kept : producer.Within) (taken : producer.step b event = some after) : after.Within := by
  -- The producer waits and records, and the others call whatever they like.
  cases event with
  | waitForCredit chunkLen deadline now => exact kept.waitForCredit taken
  | recordSent now =>
    obtain ⟨chunkLen, granted, taken⟩ := Option.bind_eq_some_iff.mp taken
    cases taken
    exact kept.recordSent granted now
  | call op =>
    simp only [CreditedProducer.step] at taken
    split at taken
    · simp at taken
    · next foreign =>
      cases taken
      exact kept.call (by simpa using foreign)

/-- Every step is a call on the control, so it keeps the window. -/
theorem step_window {producer after : CreditedProducer P} {event : Event P}
    (taken : producer.step b event = some after) :
    after.mutex.value.windowBytes = producer.mutex.value.windowBytes := by
  -- Every step is a call on the control, and no call writes the window.
  cases event with
  | waitForCredit chunkLen deadline now =>
    have same := waitForCredit_keeps (b := b) producer.mutex chunkLen deadline now
    simp only [step] at taken
    split at taken
    · split at taken <;> cases taken <;> rw [same]
    · simp at taken
  | recordSent now =>
    obtain ⟨chunkLen, granted, taken⟩ := Option.bind_eq_some_iff.mp taken
    cases taken
    exact (TransferOp.perform_effect b _ producer.mutex).window_fixed
  | call op =>
    simp only [step] at taken
    split at taken
    · simp at taken
    · cases taken
      exact (op.perform_effect b producer.mutex).window_fixed

/--
The bytes in flight of a single producer never exceed the larger of the window and the chunk that
was granted when nothing was in flight, whatever the other threads do.
-/
theorem in_flight_within_window (b : Build) (windowBytes replayCapacityBytes : UInt64) (now : Nat)
    (events : List (Event P)) {producer : CreditedProducer P}
    (ran : Transition.run (step b) (start windowBytes replayCapacityBytes now) events =
      some producer) :
    producer.mutex.value.sentOffset.toNat - producer.mutex.value.ackedOffset.toNat ≤
      max windowBytes.toNat producer.lone.toNat := by
  have kept : producer.Within ∧ producer.mutex.value.windowBytes = windowBytes := by
    apply Transition.invariant_of_run (fun producer : CreditedProducer P =>
      producer.Within ∧ producer.mutex.value.windowBytes = windowBytes) ?_ ?_ ran
    · intro before event after kept taken
      exact ⟨kept.1.step taken, (step_window taken).trans kept.2⟩
    · -- Nothing is in flight yet, and nothing is granted.
      refine ⟨⟨UInt64.le_refl _, ?_, ?_⟩, rfl⟩
      · simp [start, Mutex.new, TransferControl.withReplayCapacity, TransferControl.unacked]
      · intro chunkLen granted
        simp [start] at granted
  have flight := kept.1.flight
  rw [allowance, kept.2] at flight
  exact flight

/--
A chunk larger than the window is granted alone; the acknowledgement of its first half leaves the
rest.
-/
theorem in_flight_of_oversized_chunk : ∃ producer : CreditedProducer Unit,
    Transition.run (step .debug) (start 10 100 0)
        [.waitForCredit 64 9 1, .call (.pushReplay 0 64 false []), .recordSent 2,
          .call (.recordAck 0 32 3), .waitForCredit 8 9 4] = some producer ∧
      producer.mutex.value.sentOffset.toNat - producer.mutex.value.ackedOffset.toNat = 32 ∧
      producer.mutex.value.sentOffset.toNat - producer.mutex.value.ackedOffset.toNat ≤
        max (10 : UInt64).toNat producer.lone.toNat := by
  -- The run is evaluated first.
  have reached : ∃ producer : CreditedProducer Unit,
      Transition.run (step .debug) (start 10 100 0)
        [.waitForCredit 64 9 1, .call (.pushReplay 0 64 false []), .recordSent 2,
          .call (.recordAck 0 32 3), .waitForCredit 8 9 4] = some producer ∧
      producer.mutex.value.sentOffset.toNat - producer.mutex.value.ackedOffset.toNat = 32 := by
    exact ⟨_, rfl, rfl⟩
  obtain ⟨producer, ran, flight⟩ := reached
  exact ⟨producer, ran, flight, in_flight_within_window .debug 10 100 0 _ ran⟩

end CreditedProducer

/-- A producer and its acknowledgement handler on one control, with what really went over the wire. -/
structure AckedProducer (P : Type) where
  control : TransferControl P
  /-- The end of a chunk whose send succeeded and whose `record_sent` has not run. -/
  unrecorded : Option UInt64
  /-- The highest end of a chunk sent for the current file. -/
  sentThrough : UInt64
  /-- The highest offset acknowledged for the current file. -/
  acknowledged : UInt64

namespace AckedProducer

/-- A step of the producer or of the acknowledgement handler. -/
inductive Event where
  | send (endOffset : UInt64)
  | recordSent (now : Nat)
  | recordAck (receivedThroughOffset : UInt64) (now : Nat)
  | advanceToFile (nextFileIndex : UInt32) (now : Nat)

def step (state : AckedProducer P) : Event → Option (AckedProducer P)
  -- One chunk at a time is sent and then recorded.
  | .send endOffset =>
    if state.unrecorded = none then
      some { state with
        unrecorded := some endOffset, sentThrough := max state.sentThrough endOffset }
    else none
  | .recordSent now => do
    let endOffset ← state.unrecorded
    return { state with control := state.control.recordSent endOffset now, unrecorded := none }
  | .recordAck receivedThroughOffset now =>
    -- The receiver acknowledges only what it received, and it receives only what was sent.
    if receivedThroughOffset ≤ state.sentThrough then
      some { state with
        control := state.control.recordAck state.control.currentFileIndex receivedThroughOffset now
        acknowledged := max state.acknowledged receivedThroughOffset }
    else none
  | .advanceToFile nextFileIndex now =>
    if state.unrecorded = none then
      some ⟨state.control.advanceToFile nextFileIndex now, none, 0, 0⟩
    else none

def start (windowBytes replayCapacityBytes : UInt64) (now : Nat) : AckedProducer P :=
  ⟨.withReplayCapacity windowBytes replayCapacityBytes now, none, 0, 0⟩

/-- An acknowledgement does not overtake the record of the chunk it acknowledges. -/
def InOrder (state : AckedProducer P) : Event → Prop
  | .recordAck receivedThroughOffset _ => receivedThroughOffset ≤ state.control.sentOffset
  | _ => True

instance (state : AckedProducer P) (event : Event) : Decidable (state.InOrder event) := by
  cases event <;> unfold InOrder <;> infer_instance

/-- An acknowledgement in order raises the acknowledged offset to it. -/
theorem recordAck_of_le {control : TransferControl P} {receivedThroughOffset : UInt64}
    (recorded : receivedThroughOffset ≤ control.sentOffset) (now : Nat) :
    (control.recordAck control.currentFileIndex receivedThroughOffset now).ackedOffset =
      max control.ackedOffset receivedThroughOffset := by
  -- The cap does nothing, and the comparison with the old offset is a maximum.
  have larger : max control.ackedOffset receivedThroughOffset =
      if control.ackedOffset ≤ receivedThroughOffset then receivedThroughOffset
      else control.ackedOffset := rfl
  have capped : min receivedThroughOffset control.sentOffset = receivedThroughOffset :=
    Std.LawfulOrderLeftLeaningMin.min_eq_left _ _ recorded
  simp only [TransferControl.recordAck, capped, true_and]
  -- The code compares strictly, which makes no difference to the maximum.
  by_cases grows : control.ackedOffset < receivedThroughOffset
  · rw [if_pos grows, larger, if_pos (UInt64.le_of_lt grows)]
  · rw [if_neg grows, larger]
    split
    · next ordered => exact UInt64.le_antisymm ordered (UInt64.not_lt.mp grows) ▸ rfl
    · rfl

/-- A step in order keeps the acknowledged offset at the highest acknowledgement. -/
theorem step_acked {state after : AckedProducer P} {event : Event}
    (kept : state.control.ackedOffset = state.acknowledged) (ordered : state.InOrder event)
    (taken : state.step event = some after) : after.control.ackedOffset = after.acknowledged := by
  cases event with
  | send endOffset =>
    simp only [step] at taken
    split at taken
    · cases taken
      exact kept
    · simp at taken
  | recordSent now =>
    obtain ⟨endOffset, unrecorded, taken⟩ := Option.bind_eq_some_iff.mp taken
    cases taken
    exact kept
  | recordAck receivedThroughOffset now =>
    simp only [step] at taken
    split at taken
    · cases taken
      -- The condition is what keeps the cap from biting.
      rw [recordAck_of_le ordered, kept]
    · simp at taken
  | advanceToFile nextFileIndex now =>
    simp only [step] at taken
    split at taken
    · cases taken
      rfl
    · simp at taken

/--
When no acknowledgement overtakes the record of its chunk, the acknowledged offset is the highest
offset acknowledged for the current file, in every state and so in every settled one.
-/
theorem acked_offset_is_highest_acknowledged (windowBytes replayCapacityBytes : UInt64) (now : Nat)
    (events : List Event) {state : AckedProducer P}
    (ordered : Transition.Meets step InOrder
      (start windowBytes replayCapacityBytes now : AckedProducer P) events)
    (ran : Transition.run step (start windowBytes replayCapacityBytes now) events = some state) :
    state.control.ackedOffset = state.acknowledged := by
  apply Transition.invariant_of_meets
    (fun state : AckedProducer P => state.control.ackedOffset = state.acknowledged) ?_ ?_ ordered ran
  · intro before event after kept inOrder taken
    exact step_acked kept inOrder taken
  · -- At first nothing is acknowledged.
    rfl

/-- Two chunks of which the second is acknowledged before the first, each after its record. -/
theorem acked_offset_after_reordered_acks : ∃ state : AckedProducer Unit,
    Transition.run step (start 100 100 0)
        [.send 40, .recordSent 1, .send 100, .recordSent 2, .recordAck 100 3, .recordAck 40 4] =
      some state ∧ state.unrecorded = none ∧ state.control.ackedOffset = state.acknowledged := by
  -- The run is evaluated first.
  have reached : ∃ state : AckedProducer Unit,
      Transition.run step (start 100 100 0)
        [.send 40, .recordSent 1, .send 100, .recordSent 2, .recordAck 100 3, .recordAck 40 4] =
      some state ∧ state.unrecorded = none := ⟨_, rfl, rfl⟩
  obtain ⟨state, ran, settled⟩ := reached
  exact ⟨state, ran, settled, acked_offset_is_highest_acknowledged 100 100 0 _ (by decide) ran⟩

/--
An acknowledgement that runs between the send of its chunk and the record of it is lost.

Every call has run, the receiver has everything, and the producer still waits for credit.
-/
theorem ack_before_its_record_is_lost : ∃ state : AckedProducer Unit,
    Transition.run step (start 100 100 0) [.send 100, .recordAck 100 1, .recordSent 2] =
      some state ∧
      state.unrecorded = none ∧ state.acknowledged = 100 ∧ state.control.ackedOffset = 0 ∧
      state.control.waitForCredit .release64 100 9 3 = .ok none :=
  ⟨_, rfl, rfl, rfl, rfl, rfl⟩

end AckedProducer

end Repe
