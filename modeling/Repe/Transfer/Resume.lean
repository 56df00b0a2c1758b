import Repe.Lib.Transition
import Repe.Transfer.ControlLaws
import Repe.Transfer.Ring

/-!
A producer that follows the documented lifecycle, and a receiver that drops its connection and
resumes.
-/

namespace Repe

inductive ProducerPhase where
  | idle
  /-- The chunk has credit, and is about to be pushed into the ring. -/
  | credited (chunk : RingChunk)
  | ready (chunk : RingChunk) (rest : List RingChunk)
  | sending (peer : Nat) (chunk : RingChunk) (rest : List RingChunk)
  | sent (chunk : RingChunk) (rest : List RingChunk)
  | parked
  | resuming (offset : UInt64)
  deriving DecidableEq, Repr

/-- A producer, its control, and the receiver at the other end of the current connection. -/
structure ResumableStream where
  /-- What the lock guards; peers are numbered by connection. -/
  control : TransferControl Nat
  phase : ProducerPhase
  position : UInt64
  live : Option Nat
  /-- Chunks on their way over that connection, oldest first. -/
  wire : List RingChunk
  /-- The contiguous prefix the receiver holds. -/
  received : UInt64
  nextPeer : Nat
  /-- The peer that last took a chunk, and where that chunk ended. -/
  handed : Option (Nat × Nat)
  deriving DecidableEq, Repr

namespace ResumableStream

/-- A step of the producer, of the network or of the receiver. -/
inductive Event where
  | waitForCredit (dataLen : UInt64) (last : Bool) (bodyBytes : Bytes) (deadline now : Nat)
  | pushReplay
  | readPeer
  | sendOk
  | sendDisconnected
  | recordSent (now : Nat)
  | waitForReconnect (deadline now : Nat)
  | replayChunks
  | deliver
  | drop
  | requestResume (now : Nat)
  | recordAck (receivedThroughOffset : UInt64) (now : Nat)
  deriving DecidableEq, Repr

/-- The producer goes on with the rest of a replay, or with the next new chunk. -/
def nextPhase : List RingChunk → ProducerPhase
  | [] => .idle
  | chunk :: rest => .ready chunk rest

def receive (received : UInt64) (chunk : RingChunk) : UInt64 :=
  -- Past a gap nothing joins the prefix.
  if chunk.offset ≤ received ∧ received < chunk.offset + chunk.dataLen then
    chunk.offset + chunk.dataLen
  else received

def step (b : Build) (stream : ResumableStream) (event : Event) : Option ResumableStream :=
  match event, stream.phase with
  | .waitForCredit dataLen last bodyBytes deadline now, .idle =>
    if stream.position.toNat + dataLen.toNat < 2 ^ 64 ∧
        stream.control.waitForCredit b.toTarget dataLen deadline now = .ok (some ()) then
      some { stream with phase := .credited ⟨stream.position, dataLen, last, bodyBytes⟩ }
    else none
  | .pushReplay, .credited chunk =>
    match (stream.control.pushReplay b chunk.offset chunk.dataLen chunk.last chunk.bodyBytes :
        Exec Empty _) with
    | .ok control =>
      some { stream with
        control := control, phase := .ready chunk [], position := chunk.offset + chunk.dataLen }
    | _ => none
  | .readPeer, .ready chunk rest =>
    stream.control.peer.map fun peer => { stream with phase := .sending peer chunk rest }
  | .sendOk, .sending peer chunk rest =>
    -- A dead connection may still accept a chunk, which then gets nowhere.
    some { stream with
      phase := .sent chunk rest
      wire := if stream.live = some peer then stream.wire ++ [chunk] else stream.wire
      handed := some (peer, chunk.stop) }
  | .sendDisconnected, .sending peer _ _ =>
    if stream.live = some peer then none else some { stream with phase := .parked }
  | .recordSent now, .sent chunk rest =>
    some { stream with
      control := stream.control.recordSent (chunk.offset + chunk.dataLen) now
      phase := nextPhase rest }
  | .waitForReconnect deadline now, .parked =>
    match stream.control.waitForReconnect deadline now with
    | (some (.resumeReady pending), control) =>
      some { stream with control := control, phase := .resuming pending.resumeAtOffset }
    | _ => none
  | .replayChunks, .resuming offset =>
    some { stream with phase := nextPhase (stream.control.replayChunksFrom offset) }
  | .deliver, _ =>
    match stream.wire with
    | [] => none
    | chunk :: wire =>
      some { stream with wire := wire, received := receive stream.received chunk }
  | .drop, _ => some { stream with live := none, wire := [] }
  | .requestResume now, _ =>
    match TransferControl.requestResume b.toTarget stream.nextPeer
        stream.control.currentFileIndex stream.received now stream.control with
    | (.ok _, control) =>
      some { stream with
        control := control, live := some stream.nextPeer, wire := []
        nextPeer := stream.nextPeer + 1 }
    | _ => none
  | .recordAck receivedThroughOffset now, _ =>
    some { stream with
      control := stream.control.recordAck stream.control.currentFileIndex receivedThroughOffset now }
  | _, _ => none

/-- A producer with its initial peer, before the first chunk. -/
def start (windowBytes replayCapacityBytes : UInt64) (now : Nat) : ResumableStream where
  control := (TransferControl.withReplayCapacity windowBytes replayCapacityBytes now).setPeer 0
  phase := .idle
  position := 0
  live := some 0
  wire := []
  received := 0
  nextPeer := 1
  handed := none

/--
The producer does not skip ahead of a resume that it has not consumed.

When it reads the peer while an accepted resume is still staged, the chunk starts at or before the
offset of that resume, or where the last chunk ended that this same peer took.
-/
def KeepsPace (stream : ResumableStream) (event : Event) : Prop :=
  match event, stream.phase, stream.control.pendingResume with
  | .readPeer, .ready chunk _, some pending =>
    chunk.offset ≤ pending.resumeAtOffset ∨
      stream.handed = stream.control.peer.map (·, chunk.start)
  | _, _, _ => True

instance (stream : ResumableStream) (event : Event) : Decidable (stream.KeepsPace event) := by
  unfold KeepsPace
  split <;> infer_instance

/-- The next chunk to arrive does not leave a gap behind what the receiver holds. -/
def NoGap (stream : ResumableStream) : Prop :=
  ∀ chunk wire, stream.wire = chunk :: wire → chunk.offset ≤ stream.received

def reach (stream : ResumableStream) : Nat :=
  Spans.reach RingChunk.stop stream.received.toNat stream.wire

def Staged (stream : ResumableStream) : Prop :=
  ∃ pending, stream.control.pendingResume = some pending ∧
    stream.control.replay.Boundary stream.position.toNat pending.resumeAtOffset.toNat

/-- The receiver listens, and the producer has consumed its resume. -/
def Settled (stream : ResumableStream) : Prop :=
  stream.live ≠ none ∧ stream.control.pendingResume = none

/-- The chunks the producer is busy with lead up to its position. -/
def Linked (position : Nat) : ProducerPhase → Prop
  | .idle | .parked | .resuming _ => True
  | .credited chunk => chunk.start = position ∧ chunk.stop < 2 ^ 64
  | .ready chunk rest | .sending _ chunk rest | .sent chunk rest =>
    Spans.Run RingChunk.start RingChunk.stop chunk.stop rest position

/-- What the producer sends next is within reach of the receiver. -/
def OnCourse (stream : ResumableStream) : ProducerPhase → Prop
  | .idle => stream.Settled → stream.position.toNat ≤ stream.reach
  | .credited chunk | .ready chunk _ => stream.Settled → chunk.start ≤ stream.reach
  | .sent chunk _ => stream.Settled → chunk.stop ≤ stream.reach
  | .resuming offset => stream.Settled → offset.toNat ≤ stream.reach ∧
    stream.control.replay.Boundary stream.position.toNat offset.toNat
  -- A peer that was replaced after it was read is dead, and the resume behind it is unconsumed.
  | .sending peer chunk _ => ∀ current, stream.live = some current →
    (current = peer → chunk.start ≤ stream.reach) ∧ (current ≠ peer → stream.Staged)
  | .parked => stream.live ≠ none → stream.Staged

structure Numbered (stream : ResumableStream) : Prop where
  current : ∀ peer, stream.live = some peer → stream.control.peer = some peer
  peer : ∀ peer, stream.control.peer = some peer → peer < stream.nextPeer
  sending : ∀ peer chunk rest, stream.phase = .sending peer chunk rest → peer < stream.nextPeer
  handed : ∀ peer stop, stream.handed = some (peer, stop) → peer < stream.nextPeer

/-- What holds in every state of a run in which the producer keeps pace with the resumes. -/
structure Sound (stream : ResumableStream) : Prop where
  /-- The ring ends at the position. -/
  ring : stream.control.replay.Holds stream.position.toNat
  linked : Linked stream.position.toNat stream.phase
  gapless : Spans.Gapless RingChunk.start RingChunk.stop stream.received.toNat stream.wire
  small : ∀ chunk ∈ stream.wire, chunk.stop < 2 ^ 64
  course : stream.OnCourse stream.phase
  staged : ∀ pending, stream.control.pendingResume = some pending →
    pending.resumeAtOffset.toNat ≤ stream.received.toNat
  handed : ∀ peer stop, stream.handed = some (peer, stop) → stream.live = some peer →
    stop ≤ stream.reach
  numbered : stream.Numbered

variable {b : Build} {stream after : ResumableStream}

theorem received_le_reach (stream : ResumableStream) : stream.received.toNat ≤ stream.reach :=
  Spans.le_reach _ _

theorem stop_le_position {position : UInt64} {chunk : RingChunk} {rest : List RingChunk}
    (run : Spans.Run RingChunk.start RingChunk.stop chunk.stop rest position.toNat) :
    chunk.stop < 2 ^ 64 :=
  Nat.lt_of_le_of_lt (run.first_le_last RingChunk.start_le_stop) position.toNat_lt

theorem Sound.waitForCredit (kept : stream.Sound) (idle : stream.phase = .idle) {dataLen : UInt64}
    (fits : stream.position.toNat + dataLen.toNat < 2 ^ 64) (last : Bool) (bodyBytes : Bytes) :
    { stream with phase := .credited ⟨stream.position, dataLen, last, bodyBytes⟩ }.Sound := by
  have course := kept.course
  rw [idle] at course
  -- Only the phase changes, and the chunk in it is the one at the position.
  exact { kept with
    linked := ⟨rfl, fits⟩
    course := course
    numbered := { kept.numbered with sending := by simp } }

/-- A push leaves the chunk at the end of the ring. -/
theorem Sound.pushReplay (kept : stream.Sound) {chunk : RingChunk}
    (credited : stream.phase = .credited chunk) {replay : ReplayRing}
    (pushed : (stream.control.replay.push b chunk.offset chunk.dataLen chunk.last chunk.bodyBytes :
      Exec Empty _) = .ok replay) :
    { stream with
      control := { stream.control with replay := replay }
      phase := .ready chunk []
      position := chunk.offset + chunk.dataLen }.Sound := by
  have linked := kept.linked
  have course := kept.course
  rw [credited] at linked course
  -- The chunk starts at the end of the ring, so the ring stays one run.
  obtain ⟨starts, fits⟩ := linked
  have stops : (chunk.offset + chunk.dataLen).toNat = chunk.stop := UInt64.toNat_add_of_fits fits
  have ring := kept.ring
  rw [← starts] at ring
  exact { kept with
    ring := by
      simp only [stops]
      exact ring.push pushed
    linked := stops.symm
    course := course
    numbered := { kept.numbered with sending := by simp } }

/-- The peer the producer reads takes the chunk without a gap, if it is the live one. -/
theorem Sound.readPeer (kept : stream.Sound) {chunk : RingChunk} {rest : List RingChunk}
    (ready : stream.phase = .ready chunk rest) (pace : stream.KeepsPace .readPeer) {peer : Nat}
    (read : stream.control.peer = some peer) :
    { stream with phase := .sending peer chunk rest }.Sound := by
  have linked := kept.linked
  have course := kept.course
  rw [ready] at linked course
  simp only [KeepsPace, ready] at pace
  have within : stream.live = some peer → chunk.start ≤ stream.reach := by
    intro listens
    cases staged : stream.control.pendingResume with
    | none => exact course ⟨by simp [listens], staged⟩
    | some pending =>
      -- The condition bounds the chunk by the staged offset, or by the chunk before it.
      rw [staged] at pace
      rcases pace with behind | continues
      · have held := kept.staged pending staged
        have reaches := stream.received_le_reach
        rw [UInt64.le_iff_toNat_le] at behind
        unfold RingChunk.start
        omega
      · rw [read, Option.map_some] at continues
        exact kept.handed peer chunk.start continues listens
  refine { kept with
    linked := linked
    course := ?_
    numbered := { kept.numbered with sending := ?_ } }
  · intro current listens
    have now := kept.numbered.current current listens
    rw [read] at now
    cases now
    exact ⟨fun _ => within listens, fun other => absurd rfl other⟩
  · intro other _ _ same
    cases same
    exact kept.numbered.peer peer read

/-- A send on the live peer puts the chunk on the wire, and one on a dead peer loses it. -/
theorem Sound.sendOk (kept : stream.Sound) {peer : Nat} {chunk : RingChunk}
    {rest : List RingChunk} (sending : stream.phase = .sending peer chunk rest) :
    { stream with
      phase := .sent chunk rest
      wire := if stream.live = some peer then stream.wire ++ [chunk] else stream.wire
      handed := some (peer, chunk.stop) }.Sound := by
  have linked := kept.linked
  have course := kept.course
  rw [sending] at linked course
  have known := kept.numbered.sending peer chunk rest sending
  by_cases listens : stream.live = some peer
  · simp only [if_pos listens]
    have within := (course peer listens).1 rfl
    -- The chunk is the last one on the wire, so its end is within reach now.
    have reaches : Spans.reach RingChunk.stop stream.received.toNat (stream.wire ++ [chunk]) =
        max stream.reach chunk.stop := Spans.reach_concat _ _ _
    refine { kept with
      linked := linked
      gapless := kept.gapless.concat within
      small := ?_
      course := fun _ => by rw [reach, reaches]; omega
      handed := ?_
      numbered := { kept.numbered with sending := by simp, handed := ?_ } }
    · intro other member
      rcases List.mem_append.mp member with older | newest
      · exact kept.small other older
      · rw [List.mem_singleton.mp newest]
        exact stop_le_position linked
    · intro other stop same _
      cases same
      rw [reach, reaches]
      omega
    · intro other stop same
      cases same
      exact known
  · simp only [if_neg listens]
    refine { kept with
      linked := linked
      course := ?_
      handed := ?_
      numbered := { kept.numbered with sending := by simp, handed := ?_ } }
    · -- With a live connection other than this peer a resume is still staged.
      intro settled
      obtain ⟨current, live⟩ := Option.ne_none_iff_exists'.mp settled.1
      obtain ⟨pending, staged, _⟩ := (course current live).2 (by
        intro same
        exact listens (same ▸ live))
      have consumed : stream.control.pendingResume = none := settled.2
      simp [consumed] at staged
    · intro other stop same live
      cases same
      exact absurd live listens
    · intro other stop same
      cases same
      exact known

/-- A dead peer sends the producer to wait, with the resume of a live one still staged. -/
theorem Sound.sendDisconnected (kept : stream.Sound) {peer : Nat} {chunk : RingChunk}
    {rest : List RingChunk} (sending : stream.phase = .sending peer chunk rest)
    (dead : stream.live ≠ some peer) : { stream with phase := .parked }.Sound := by
  have course := kept.course
  rw [sending] at course
  refine { kept with
    linked := trivial
    course := ?_
    numbered := { kept.numbered with sending := by simp } }
  intro listens
  -- A peer that listens is not the dead one, so a resume of its own is staged.
  obtain ⟨current, live⟩ := Option.ne_none_iff_exists'.mp listens
  exact (course current live).2 (by
    intro same
    exact dead (same ▸ live))

/-- The phase after a run of chunks up to the position is on course when its first chunk is. -/
theorem nextPhase_onCourse {chunks : List RingChunk} {first : Nat}
    (run : Spans.Run RingChunk.start RingChunk.stop first chunks stream.position.toNat)
    (course : stream.Settled → first ≤ stream.reach) :
    Linked stream.position.toNat (nextPhase chunks) ∧ stream.OnCourse (nextPhase chunks) := by
  -- Without chunks the run ends where it starts, at the position.
  cases chunks with
  | nil =>
    refine ⟨trivial, ?_⟩
    intro settled
    rw [← show first = stream.position.toNat from run]
    exact course settled
  | cons chunk rest =>
    refine ⟨run.2, ?_⟩
    intro settled
    rw [run.1]
    exact course settled

theorem nextPhase_ne_sending (chunks : List RingChunk) (peer : Nat) (chunk : RingChunk)
    (rest : List RingChunk) : nextPhase chunks ≠ .sending peer chunk rest := by
  cases chunks <;> simp [nextPhase]

/-- A record of the chunk that was sent goes on with the next one. -/
theorem Sound.recordSent (kept : stream.Sound) {chunk : RingChunk} {rest : List RingChunk}
    (sent : stream.phase = .sent chunk rest) (now : Nat) :
    { stream with
      control := stream.control.recordSent (chunk.offset + chunk.dataLen) now
      phase := nextPhase rest }.Sound := by
  have linked := kept.linked
  have course := kept.course
  rw [sent] at linked course
  obtain ⟨next, steers⟩ := nextPhase_onCourse linked course
  refine { kept with
    linked := next
    course := ?_
    numbered := { kept.numbered with
      sending := fun peer other others same => absurd same (nextPhase_ne_sending rest _ _ _) } }
  -- The record changes no field that the course depends on.
  cases rest <;> exact steers

/-- The delivered resume is within reach, and at a boundary of the ring. -/
theorem Sound.waitForReconnect (kept : stream.Sound) (parked : stream.phase = .parked)
    {pending : PendingResume} (staged : stream.control.pendingResume = some pending) :
    { stream with
      control := { stream.control with pendingResume := none }
      phase := .resuming pending.resumeAtOffset }.Sound := by
  have course := kept.course
  rw [parked] at course
  refine { kept with
    linked := trivial
    course := ?_
    staged := by simp
    numbered := { kept.numbered with sending := by simp } }
  intro settled
  -- The delivered resume is the staged one.
  obtain ⟨other, same, boundary⟩ := course settled.1
  rw [staged] at same
  cases same
  exact ⟨Nat.le_trans (kept.staged pending staged) stream.received_le_reach, boundary⟩

/-- The replay starts at the delivered offset. -/
theorem Sound.replayChunks (kept : stream.Sound) {offset : UInt64}
    (resuming : stream.phase = .resuming offset) :
    { stream with phase := nextPhase (stream.control.replayChunksFrom offset) }.Sound := by
  have course := kept.course
  rw [resuming] at course
  have next : Linked stream.position.toNat (nextPhase (stream.control.replayChunksFrom offset)) ∧
      stream.OnCourse (nextPhase (stream.control.replayChunksFrom offset)) := by
    by_cases settled : stream.Settled
    · obtain ⟨within, boundary⟩ := course settled
      exact nextPhase_onCourse (kept.ring.replay_from_boundary boundary) (fun _ => within)
    · -- Nobody listens, or another resume is staged: only the order of the chunks matters.
      obtain ⟨first, run⟩ := kept.ring.replay_run offset
      exact nextPhase_onCourse run (fun now => absurd now settled)
  refine { kept with
    linked := next.1
    course := ?_
    numbered := { kept.numbered with
      sending := fun peer other others same => absurd same (nextPhase_ne_sending _ _ _ _) } }
  have steers := next.2
  generalize nextPhase (stream.control.replayChunksFrom offset) = phase at steers ⊢
  cases phase <;> exact steers

theorem receive_toNat {received : UInt64} {chunk : RingChunk}
    (joins : chunk.start ≤ received.toNat) (fits : chunk.stop < 2 ^ 64) :
    (receive received chunk).toNat = max received.toNat chunk.stop := by
  have stops : (chunk.offset + chunk.dataLen).toNat = chunk.stop := UInt64.toNat_add_of_fits fits
  unfold receive
  simp only [UInt64.le_iff_toNat_le, UInt64.lt_iff_toNat_lt, stops]
  unfold RingChunk.start at joins
  -- A chunk that brings nothing new leaves the prefix alone.
  split
  · rw [stops]
    omega
  · omega

/-- An arrival moves a chunk from the wire to the receiver. -/
theorem Sound.deliver (kept : stream.Sound) {chunk : RingChunk} {wire : List RingChunk}
    (arrives : stream.wire = chunk :: wire) :
    { stream with wire := wire, received := receive stream.received chunk }.Sound := by
  have gapless := kept.gapless
  have small := kept.small
  rw [arrives] at gapless small
  have grows := receive_toNat gapless.1 (small chunk (by simp))
  -- The reach counts the chunk already, on the wire or at the receiver.
  have same : Spans.reach RingChunk.stop (receive stream.received chunk).toNat wire =
      stream.reach := by
    rw [grows, reach, arrives]
    rfl
  have course := kept.course
  refine { kept with
    gapless := by simpa only [grows] using gapless.2
    small := fun other member => small other (List.mem_cons_of_mem _ member)
    course := ?_
    staged := ?_
    handed := ?_
    numbered := { kept.numbered with } }
  · cases phase : stream.phase <;> simp only [phase, OnCourse, reach, same] at course ⊢ <;>
      exact course
  · intro pending staged
    have held := kept.staged pending staged
    simp only [grows]
    omega
  · intro peer stop taken live
    rw [reach, same]
    exact kept.handed peer stop taken live

/-- A drop loses what is on the wire, and with it every promise about the connection. -/
theorem Sound.drop (kept : stream.Sound) : { stream with live := none, wire := [] }.Sound := by
  refine { kept with
    gapless := trivial
    small := by simp
    course := ?_
    handed := by simp
    numbered := { kept.numbered with current := by simp } }
  -- Nobody listens any more, so nothing is promised.
  cases phase : stream.phase <;> simp [OnCourse, Settled]

/-- An accepted resume starts a connection on which nothing was sent. -/
theorem Sound.requestResume (kept : stream.Sound) {t : Target} {ε : Type} (now : Nat)
    (covered : (stream.control.replay.covers t stream.received : Exec ε Bool) = .ok true) :
    { stream with
      control := stream.control.stageResume stream.nextPeer stream.received now
      live := some stream.nextPeer
      wire := []
      nextPeer := stream.nextPeer + 1 }.Sound := by
  have boundary := kept.ring.boundary stream.position.toNat_lt covered
  refine { kept with
    gapless := trivial
    small := by simp
    course := ?_
    staged := ?_
    handed := ?_
    numbered := ?_ }
  · -- The resume is staged, so only the phases that wait for it have something to show.
    cases phase : stream.phase with
    | sending peer chunk rest =>
      have known := kept.numbered.sending peer chunk rest phase
      intro current same
      cases same
      exact ⟨fun same => by omega, fun _ => ⟨_, rfl, boundary⟩⟩
    | parked => exact fun _ => ⟨_, rfl, boundary⟩
    | _ => simp [OnCourse, Settled, TransferControl.stageResume]
  · intro pending staged
    cases staged
    exact Nat.le_refl _
  · intro peer stop taken live
    have known := kept.numbered.handed peer stop taken
    cases live
    omega
  · have numbered := kept.numbered
    refine ⟨fun peer live => live, ?_, ?_, ?_⟩
    · intro peer same
      cases same
      exact Nat.lt_succ_self _
    · intro peer chunk rest phase
      exact Nat.lt_succ_of_lt (numbered.sending peer chunk rest phase)
    · intro peer stop taken
      exact Nat.lt_succ_of_lt (numbered.handed peer stop taken)

theorem Sound.recordAck (kept : stream.Sound) (receivedThroughOffset : UInt64) (now : Nat) :
    { stream with
      control := stream.control.recordAck stream.control.currentFileIndex receivedThroughOffset
        now }.Sound := by
  have course := kept.course
  refine { kept with course := ?_, numbered := { kept.numbered with } }
  cases phase : stream.phase <;> rw [phase] at course <;> exact course

/-- A turn of `wait_for_reconnect` that delivers a resume consumes the staged one. -/
theorem waitForReconnect_ready {P : Type} {control left : TransferControl P} {deadline now : Nat}
    {pending : PendingResume}
    (turn : control.waitForReconnect deadline now = (some (.resumeReady pending), left)) :
    control.pendingResume = some pending ∧ left = { control with pendingResume := none } := by
  unfold TransferControl.waitForReconnect at turn
  -- Of the three ends of a turn one delivers.
  split at turn
  · simp at turn
  · next staged =>
    cases turn
    exact ⟨staged, rfl⟩
  · split at turn <;> simp at turn

/-- Every step of a producer that keeps pace keeps the stream sound. -/
theorem Sound.step (kept : stream.Sound) {event : Event} (pace : stream.KeepsPace event)
    (taken : stream.step b event = some after) : after.Sound := by
  -- One case for each event in the phase that takes it.
  unfold ResumableStream.step at taken
  split at taken
  · next idle =>
    split at taken
    · next granted =>
      cases taken
      exact kept.waitForCredit idle granted.1 _ _
    · simp at taken
  · next chunk credited =>
    split at taken
    · next pushed =>
      obtain ⟨replay, inside, result⟩ := Exec.bind_eq_ok.mp pushed
      cases result
      cases taken
      exact kept.pushReplay credited inside
    · simp at taken
  · next chunk rest ready =>
    obtain ⟨peer, read, result⟩ := Option.map_eq_some_iff.mp taken
    cases result
    exact kept.readPeer ready pace read
  · next peer chunk rest sending =>
    cases taken
    exact kept.sendOk sending
  · next peer chunk rest sending =>
    split at taken
    · simp at taken
    · next dead =>
      cases taken
      exact kept.sendDisconnected sending dead
  · next chunk rest sent =>
    cases taken
    exact kept.recordSent sent _
  · next parked =>
    split at taken
    · next turn =>
      obtain ⟨staged, left⟩ := waitForReconnect_ready turn
      subst left
      cases taken
      exact kept.waitForReconnect parked staged
    · simp at taken
  · next offset resuming =>
    cases taken
    exact kept.replayChunks resuming
  · split at taken
    · simp at taken
    · next chunk wire arrives =>
      cases taken
      exact kept.deliver arrives
  · cases taken
    exact kept.drop
  · split at taken
    · next accepted =>
      unfold TransferControl.requestResume at accepted
      split at accepted
      · next admitted =>
        cases accepted
        cases taken
        exact kept.requestResume _ (TransferControl.admitResume_ok admitted).2.2
      · simp at accepted
      · simp at accepted
    · simp at taken
  · cases taken
    exact kept.recordAck _ _
  · simp at taken

theorem start_sound (windowBytes replayCapacityBytes : UInt64) (now : Nat) :
    (start windowBytes replayCapacityBytes now).Sound where
  ring := ⟨⟨0, rfl⟩, fun _ => rfl⟩
  linked := trivial
  gapless := trivial
  small := by simp [start]
  course := fun _ => Nat.zero_le _
  staged := by simp [start, TransferControl.setPeer, TransferControl.withReplayCapacity]
  handed := by simp [start]
  numbered := by constructor <;> simp [start, TransferControl.setPeer]

/--
When the producer never skips ahead of a resume that it has not consumed, no chunk that arrives
leaves a gap, however drops and resumes interleave with the steps of its lifecycle.
-/
theorem no_gap_when_keeping_pace (b : Build) (windowBytes replayCapacityBytes : UInt64) (now : Nat)
    (events : List Event) {stream : ResumableStream}
    (pace : Transition.Meets (step b) KeepsPace (start windowBytes replayCapacityBytes now) events)
    (ran : Transition.run (step b) (start windowBytes replayCapacityBytes now) events =
      some stream) : stream.NoGap := by
  -- Soundness is carried along the run, and says where the next chunk starts.
  have sound : stream.Sound := by
    apply Transition.invariant_of_meets Sound ?_ (start_sound _ _ _) pace ran
    intro before event after kept keeps taken
    exact kept.step keeps taken
  intro chunk wire arrives
  have gapless := sound.gapless
  rw [arrives] at gapless
  exact UInt64.le_iff_toNat_le.mpr gapless.1

/-- The steps of the lifecycle up to a send that succeeds and is recorded. -/
def emit (dataLen : UInt64) : List Event :=
  [.waitForCredit dataLen false [] 9 0, .pushReplay, .readPeer, .sendOk, .recordSent 0]

/-- The second chunk is lost with its connection, and the send of the third finds out. -/
def noticedDrop : List Event :=
  emit 100 ++ .deliver :: emit 100 ++
    [.drop, .waitForCredit 50 true [] 9 0, .pushReplay, .readPeer, .requestResume 0,
      .sendDisconnected, .waitForReconnect 9 0, .replayChunks,
      .readPeer, .sendOk, .recordSent 0, .readPeer, .sendOk]

/-- The replay brings the chunk that was lost and the one that found out. -/
theorem no_gap_after_replay : ∃ stream : ResumableStream,
    Transition.run (step .debug) (start 1000 1000 0) noticedDrop = some stream ∧
      stream.wire.map (·.offset) = [100, 200] ∧ stream.NoGap := by
  -- The run is evaluated first.
  have evaluated : (Transition.run (step .debug) (start 1000 1000 0) noticedDrop).map
      (fun stream => stream.wire.map (·.offset)) = some [100, 200] := by decide +kernel
  obtain ⟨stream, ran, wire⟩ := Option.map_eq_some_iff.mp evaluated
  exact ⟨stream, ran, wire,
    no_gap_when_keeping_pace .debug 1000 1000 0 noticedDrop (by decide +kernel) ran⟩

/-- The second chunk is lost with its connection, and the receiver is back before the third one. -/
def unnoticedDrop : List Event :=
  emit 100 ++ .deliver :: emit 100 ++ .drop :: .requestResume 0 :: emit 50

/--
A resume that is accepted before the producer notices the drop is followed by a gap.

The third chunk goes to the new peer, whose receiver still waits for the second.
-/
theorem resume_before_the_producer_notices_leaves_a_gap : ∃ stream : ResumableStream,
    Transition.run (step .debug) (start 1000 1000 0) unnoticedDrop = some stream ∧
      stream.received = 100 ∧ stream.wire.map (·.offset) = [200] ∧ ¬stream.NoGap := by
  have evaluated : (Transition.run (step .debug) (start 1000 1000 0) unnoticedDrop).map
      (fun stream => (stream.received, stream.wire.map (·.offset))) = some (100, [200]) := by
    decide +kernel
  obtain ⟨stream, ran, facts⟩ := Option.map_eq_some_iff.mp evaluated
  obtain ⟨received, wire⟩ := Prod.mk.inj facts
  refine ⟨stream, ran, received, wire, ?_⟩
  -- The chunk on the wire starts behind the one that is missing.
  intro noGap
  obtain ⟨chunk, rest, arrives, offset, _⟩ := List.map_eq_cons_iff.mp wire
  have behind := noGap chunk rest arrives
  rw [offset, received] at behind
  exact absurd behind (by decide)

end ResumableStream

end Repe
