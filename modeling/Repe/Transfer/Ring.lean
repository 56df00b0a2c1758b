import Mathlib.Algebra.GroupWithZero.Nat
import Repe.Lib.Spans
import Repe.Transfer.Control

/-! The replay ring holds the last of the chunks that were pushed, and replays them from any boundary. -/

namespace Repe

def RingChunk.start (chunk : RingChunk) : Nat := chunk.offset.toNat

def RingChunk.stop (chunk : RingChunk) : Nat := chunk.offset.toNat + chunk.dataLen.toNat

theorem RingChunk.start_le_stop (chunk : RingChunk) : chunk.start ≤ chunk.stop :=
  Nat.le_add_right _ _

namespace ReplayRing

theorem evict_suffix (capacityBytes : UInt64) (chunks : List RingChunk) (bytesHeld : UInt64) :
    (evict capacityBytes chunks bytesHeld).chunks <:+ chunks := by
  -- The loop pops the front while a second chunk is behind it.
  fun_induction evict capacityBytes chunks bytesHeld with
  | case1 front next rest bytesHeld full ih => exact ih.trans (List.suffix_cons _ _)
  | case2 => exact List.suffix_refl _
  | case3 => exact List.suffix_refl _

theorem evict_ne_nil (capacityBytes : UInt64) {chunks : List RingChunk} (bytesHeld : UInt64)
    (filled : chunks ≠ []) : (evict capacityBytes chunks bytesHeld).chunks ≠ [] := by
  -- Eviction stops at one chunk.
  fun_induction evict capacityBytes chunks bytesHeld with
  | case1 front next rest bytesHeld full ih => exact ih (by simp)
  | case2 => simp
  | case3 => exact filled

theorem push_ok {b : Build} {ring after : ReplayRing} {offset dataLen : UInt64} {last : Bool}
    {bodyBytes : Bytes}
    (pushed : (ring.push b offset dataLen last bodyBytes : Exec Empty _) = .ok after) :
    after.chunks <:+ ring.chunks ++ [⟨offset, dataLen, last, bodyBytes⟩] ∧ after.chunks ≠ [] := by
  -- Past the assertion, the ring is the result of the eviction loop.
  obtain ⟨_, _, result⟩ := Exec.bind_eq_ok.mp pushed
  cases result
  exact ⟨evict_suffix _ _ _, evict_ne_nil _ _ (by simp)⟩

/-- The ring holds consecutive chunks up to the producer's position. -/
structure Holds (ring : ReplayRing) (position : Nat) : Prop where
  run : ∃ first, Spans.Run RingChunk.start RingChunk.stop first ring.chunks position
  fresh : ring.chunks = [] → position = 0

def Boundary (ring : ReplayRing) (position offset : Nat) : Prop :=
  offset = position ∨ ∃ chunk ∈ ring.chunks, chunk.start = offset

/-- A covered offset is a boundary. -/
theorem Holds.boundary {ring : ReplayRing} {position : Nat} (holds : ring.Holds position)
    {t : Target} {offset : UInt64} {ε : Type} (small : position < 2 ^ 64)
    (covered : (ring.covers t offset : Exec ε Bool) = .ok true) :
    ring.Boundary position offset.toNat := by
  unfold covers at covered
  split at covered
  · next empty =>
    -- Nothing was emitted yet, so both offsets are zero.
    left
    simp only [Exec.ok.injEq, beq_iff_eq] at covered
    rw [covered, holds.fresh empty]
    rfl
  · split at covered
    · -- Some chunk starts there.
      next found =>
      obtain ⟨chunk, member, same⟩ := List.any_eq_true.mp found
      right
      exact ⟨chunk, member, by rw [← beq_iff_eq.mp same]; rfl⟩
    · -- The trailing edge is the end of the last chunk, which is the position.
      left
      obtain ⟨edge, computed, same⟩ := Exec.bind_eq_ok.mp covered
      simp only [Exec.pure_eq, Exec.ok.injEq, beq_iff_eq] at same
      rw [same] at computed
      unfold highestEndOffset at computed
      split at computed
      · simp at computed
      · next back final =>
        obtain ⟨stop, ends, same⟩ := Exec.bind_eq_ok.mp computed
        simp only [Exec.pure_eq, Exec.ok.injEq, Option.some.injEq] at same
        obtain ⟨first, run⟩ := holds.run
        have last : back.stop = position := run.getLast final
        have sum := Target.addU64_value t ends
        unfold RingChunk.stop at last
        rw [← same, sum, UInt64.toNat_add_of_fits (by omega), last]

theorem Holds.push {ring after : ReplayRing} {chunk : RingChunk} {b : Build}
    (holds : ring.Holds chunk.start)
    (pushed : (ring.push b chunk.offset chunk.dataLen chunk.last chunk.bodyBytes :
      Exec Empty _) = .ok after) : after.Holds chunk.stop := by
  obtain ⟨suffix, filled⟩ := push_ok pushed
  obtain ⟨first, run⟩ := holds.run
  -- The chunk starts where the run stops.
  have longer : Spans.Run RingChunk.start RingChunk.stop first (ring.chunks ++ [chunk]) chunk.stop :=
    run.concat rfl
  exact ⟨longer.of_suffix suffix, fun empty => absurd empty filled⟩

theorem Holds.replay_run {ring : ReplayRing} {position : Nat} (holds : ring.Holds position)
    (offset : UInt64) :
    ∃ first, Spans.Run RingChunk.start RingChunk.stop first (ring.replayFrom offset) position := by
  obtain ⟨first, run⟩ := holds.run
  have suffix := run.filter_suffix RingChunk.start_le_stop offset.toNat
  exact run.of_suffix suffix

theorem Holds.replay_from_boundary {ring : ReplayRing} {position : Nat}
    (holds : ring.Holds position) {offset : UInt64}
    (boundary : ring.Boundary position offset.toNat) :
    Spans.Run RingChunk.start RingChunk.stop offset.toNat (ring.replayFrom offset) position := by
  obtain ⟨first, run⟩ := holds.run
  exact run.replay RingChunk.start_le_stop boundary

def wireBytes (chunks : List RingChunk) : Nat := (chunks.map (·.bodyBytes.length)).sum

theorem wireBytes_concat (chunks : List RingChunk) (chunk : RingChunk) :
    wireBytes (chunks ++ [chunk]) = wireBytes chunks + chunk.bodyBytes.length := by
  simp [wireBytes]

theorem evict_capacity (capacityBytes : UInt64) (chunks : List RingChunk) (bytesHeld : UInt64) :
    (evict capacityBytes chunks bytesHeld).capacityBytes = capacityBytes := by
  -- Eviction drops chunks, and nothing else.
  fun_induction evict capacityBytes chunks bytesHeld with
  | case1 front next rest bytesHeld full ih => exact ih
  | case2 => rfl
  | case3 => rfl

/-- Eviction keeps count of the bytes. -/
theorem evict_bytesHeld (capacityBytes : UInt64) {chunks : List RingChunk} {bytesHeld : UInt64}
    (counted : bytesHeld.toNat = wireBytes chunks) :
    (evict capacityBytes chunks bytesHeld).bytesHeld.toNat =
      wireBytes (evict capacityBytes chunks bytesHeld).chunks := by
  fun_induction evict capacityBytes chunks bytesHeld with
  | case1 front next rest bytesHeld full ih =>
    -- The front is part of what is held, so its length is neither cut off nor more than there is.
    have small := bytesHeld.toNat_lt
    have split : wireBytes (front :: next :: rest) =
        front.bodyBytes.length + wireBytes (next :: rest) := by simp [wireBytes]
    have length : (UInt64.ofNat front.bodyBytes.length).toNat = front.bodyBytes.length :=
      UInt64.toNat_ofNat_of_lt' (by simp only [UInt64.size]; omega)
    apply ih
    rw [UInt64.toNat_saturatingSub, length]
    omega
  | case2 => exact counted
  | case3 => exact counted

/-- Eviction ends when the rest fits, or when one chunk is left. -/
theorem evict_fits (capacityBytes : UInt64) (chunks : List RingChunk) (bytesHeld : UInt64) :
    (evict capacityBytes chunks bytesHeld).bytesHeld ≤ capacityBytes ∨
      (evict capacityBytes chunks bytesHeld).chunks.length ≤ 1 := by
  -- It goes on while there are two chunks and too many bytes.
  fun_induction evict capacityBytes chunks bytesHeld with
  | case1 front next rest bytesHeld full ih => exact ih
  | case2 front next rest bytesHeld fits => exact .inl (UInt64.not_lt.mp fits)
  | case3 chunks bytesHeld short =>
    right
    cases chunks with
    | nil => exact Nat.zero_le _
    | cons front rest =>
      cases rest with
      | nil => exact Nat.le_refl _
      | cons next rest => exact (short front next rest rfl).elim

end ReplayRing

inductive RingOp where
  | push (chunk : RingChunk)
  | clear
  deriving DecidableEq, Repr

def RingOp.perform (b : Build) (ring : ReplayRing) : RingOp → Exec Empty ReplayRing
  | .push chunk => ring.push b chunk.offset chunk.dataLen chunk.last chunk.bodyBytes
  | .clear => .ok ring.clear

namespace ReplayRing

variable {b : Build} {ring after : ReplayRing} {pushed : List RingChunk} {chunk : RingChunk}

def performAll (b : Build) (ring : ReplayRing) : List RingOp → Exec Empty ReplayRing
  | [] => .ok ring
  | op :: ops => do performAll b (← op.perform b ring) ops

/-- The chunks pushed since the last clear, after those that were there before. -/
def pushedSince (pushed : List RingChunk) : List RingOp → List RingChunk
  | [] => pushed
  | .push chunk :: ops => pushedSince (pushed ++ [chunk]) ops
  | .clear :: ops => pushedSince [] ops

/-- A chunk starts where the last one stopped, and its end fits the offsets. -/
def Follows (pushed : List RingChunk) (chunk : RingChunk) : Prop :=
  chunk.stop < 2 ^ 64 ∧ ∀ back ∈ pushed.getLast?, back.stop = chunk.start

instance (pushed : List RingChunk) (chunk : RingChunk) : Decidable (Follows pushed chunk) :=
  inferInstanceAs (Decidable (_ ∧ _))

/-- Between two clears every chunk follows the one before it. -/
def Abutting (pushed : List RingChunk) : List RingOp → Prop
  | [] => True
  | .push chunk :: ops => Follows pushed chunk ∧ Abutting (pushed ++ [chunk]) ops
  | .clear :: ops => Abutting [] ops

instance decidableAbutting : (pushed : List RingChunk) → (ops : List RingOp) →
    Decidable (Abutting pushed ops)
  | _, [] => isTrue trivial
  | pushed, .push chunk :: ops =>
    have := decidableAbutting (pushed ++ [chunk]) ops
    inferInstanceAs (Decidable (_ ∧ _))
  | _, .clear :: ops => decidableAbutting [] ops

/--
Every body that is pushed is in memory beside those the ring holds, so all their bytes have an
address of 64 bits.
-/
def InMemory (b : Build) (ring : ReplayRing) : List RingOp → Prop
  | [] => True
  | .push chunk :: ops => wireBytes ring.chunks + chunk.bodyBytes.length < 2 ^ 64 ∧
    ∀ after, RingOp.perform b ring (.push chunk) = .ok after → InMemory b after ops
  | .clear :: ops => InMemory b ring.clear ops

/-- The bytes that are pushed in the course of some operations. -/
def pushedBytes : List RingOp → Nat
  | [] => 0
  | .push chunk :: ops => chunk.bodyBytes.length + pushedBytes ops
  | .clear :: ops => pushedBytes ops

/-- Bodies that are small altogether are in memory at every push. -/
theorem inMemory_of_total {ops : List RingOp}
    (small : wireBytes ring.chunks + pushedBytes ops < 2 ^ 64) : InMemory b ring ops := by
  induction ops generalizing ring with
  | nil => trivial
  | cons op ops ih =>
    cases op with
    | clear =>
      refine ih (Nat.lt_of_le_of_lt (Nat.add_le_add_right (Nat.zero_le _) _) small)
    | push chunk =>
      simp only [pushedBytes] at small
      refine ⟨by omega, fun after performed => ih ?_⟩
      -- Whatever was evicted only makes room.
      have kept : wireBytes after.chunks ≤ wireBytes (ring.chunks ++ [chunk]) := by
        obtain ⟨front, whole⟩ := (push_ok performed).1
        have split : wireBytes (front ++ after.chunks) = wireBytes front + wireBytes after.chunks := by
          simp [wireBytes]
        rw [whole] at split
        exact split ▸ Nat.le_add_left _ _
      rw [wireBytes_concat] at kept
      omega

/-- What a ring keeps of the chunks that were pushed since the last clear. -/
structure Retains (pushed : List RingChunk) (ring : ReplayRing) : Prop where
  suffix : ring.chunks <:+ pushed
  counted : ring.bytesHeld.toNat = wireBytes ring.chunks
  fits : ring.bytesHeld ≤ ring.capacityBytes ∨ ring.chunks.length ≤ 1
  filled : ring.chunks = [] → pushed = []
  /-- The chunks follow one another, and end within the offsets. -/
  run : ∃ first last, Spans.Run RingChunk.start RingChunk.stop first pushed last ∧
    (pushed ≠ [] → last < 2 ^ 64)

/-- An empty ring has nothing to keep. -/
theorem retains_nil (capacityBytes : UInt64) : Retains [] (new capacityBytes) where
  suffix := List.suffix_refl _
  counted := rfl
  fits := .inr (Nat.zero_le _)
  filled _ := rfl
  run := ⟨0, 0, rfl, fun some => absurd rfl some⟩

theorem Retains.chunks_eq_nil (retains : Retains pushed ring) (unpushed : pushed.getLast? = none) :
    ring.chunks = [] := by
  have suffix := retains.suffix
  rw [List.getLast?_eq_none_iff.mp unpushed] at suffix
  exact List.suffix_nil.mp suffix

/-- The trailing edge of the ring is the end of the last chunk that was pushed. -/
theorem Retains.highestEndOffset (retains : Retains pushed ring) {ε : Type} (t : Target)
    {back : RingChunk} (final : pushed.getLast? = some back) :
    (ring.highestEndOffset t : Exec ε _) = .ok (some (back.offset + back.dataLen)) ∧
      back.offset.toNat + back.dataLen.toNat < 2 ^ 64 := by
  obtain ⟨first, last, run, small⟩ := retains.run
  have some : pushed ≠ [] := by
    rintro rfl
    cases final
  have stop : back.stop = last := run.getLast final
  have bounded : back.offset.toNat + back.dataLen.toNat < 2 ^ 64 := by
    have := small some
    unfold RingChunk.stop at stop
    omega
  -- The last chunk is never evicted.
  have kept : ring.chunks.getLast? = Option.some back := by
    obtain ⟨front, rfl⟩ := retains.suffix
    have held : ring.chunks ≠ [] := fun empty => some (retains.filled empty)
    rwa [List.getLast?_append_of_ne_nil _ held] at final
  have computed : (back.endOffset t : Exec ε UInt64) = .ok (back.offset + back.dataLen) :=
    Target.addU64_ok t bounded
  refine ⟨?_, bounded⟩
  rw [ReplayRing.highestEndOffset, kept]
  simp only [computed]
  rfl

/-- The assertion of a push holds for a chunk that follows. -/
theorem Retains.abuts (retains : Retains pushed ring) (follows : Follows pushed chunk) :
    (ring.debugAssertAbuts b chunk.offset : Exec Empty Unit) = .ok () := by
  rw [debugAssertAbuts]
  split
  · cases final : pushed.getLast? with
    | none =>
      rw [ReplayRing.highestEndOffset, retains.chunks_eq_nil final]
      rfl
    | some back =>
      obtain ⟨edge, bounded⟩ := retains.highestEndOffset (ε := Empty) b.toTarget final
      -- The sum does not wrap, so it is the offset and not only congruent to it.
      have same : back.offset + back.dataLen = chunk.offset := by
        apply UInt64.toNat_inj.mp
        rw [UInt64.toNat_add_of_fits bounded]
        exact follows.2 back final
      rw [edge, Exec.ok_bind, same, if_pos (.inr rfl)]
  · rfl

/-- A push of a chunk that follows returns, and keeps the ring in order. -/
theorem Retains.push (retains : Retains pushed ring) (follows : Follows pushed chunk)
    (addressable : wireBytes ring.chunks + chunk.bodyBytes.length < 2 ^ 64) :
    ∃ after, RingOp.perform b ring (.push chunk) = .ok after ∧ Retains (pushed ++ [chunk]) after := by
  refine ⟨_, by rw [RingOp.perform, ReplayRing.push, retains.abuts follows]; rfl, ?_⟩
  have counted : (ring.bytesHeld.saturatingAdd (UInt64.ofNat chunk.bodyBytes.length)).toNat
      = wireBytes (ring.chunks ++ [chunk]) := by
    have held := retains.counted
    have length : (UInt64.ofNat chunk.bodyBytes.length).toNat = chunk.bodyBytes.length :=
      UInt64.toNat_ofNat_of_lt' (by simp only [UInt64.size]; omega)
    rw [wireBytes_concat, UInt64.toNat_saturatingAdd_of_fits (by omega), length, held]
  obtain ⟨first, last, run, _⟩ := retains.run
  constructor
  · refine (evict_suffix _ _ _).trans ?_
    obtain ⟨front, rfl⟩ := retains.suffix
    exact ⟨front, by rw [List.append_assoc]⟩
  · exact evict_bytesHeld _ counted
  · rw [evict_capacity]
    exact evict_fits _ _ _
  · intro empty
    exact absurd empty (evict_ne_nil _ _ (by simp))
  · -- The first chunk since a clear may start anywhere.
    cases final : pushed.getLast? with
    | none =>
      rw [List.getLast?_eq_none_iff.mp final]
      exact ⟨chunk.start, chunk.stop, ⟨rfl, rfl⟩, fun _ => follows.1⟩
    | some back =>
      have stop : back.stop = last := run.getLast final
      exact ⟨first, chunk.stop, run.concat ((follows.2 back final).symm.trans stop), fun _ => follows.1⟩

theorem retains_clear (ring : ReplayRing) : Retains [] ring.clear := by
  refine ⟨List.suffix_refl _, rfl, .inr (Nat.zero_le _), fun _ => rfl, ?_⟩
  exact ⟨0, 0, rfl, fun some => absurd rfl some⟩

/-- Every sequence of operations returns, and keeps the ring in order. -/
theorem Retains.performAll {ops : List RingOp} (retains : Retains pushed ring)
    (abutting : Abutting pushed ops) (inMemory : InMemory b ring ops) :
    ∃ after, ring.performAll b ops = .ok after ∧ Retains (pushedSince pushed ops) after := by
  -- By induction on the operations, for every ring that is in order.
  induction ops generalizing ring pushed with
  | nil => exact ⟨ring, rfl, retains⟩
  | cons op ops ih =>
    cases op with
    | clear => exact ih (retains_clear ring) abutting inMemory
    | push chunk =>
      obtain ⟨between, performed, kept⟩ := retains.push (b := b) abutting.1 inMemory.1
      obtain ⟨after, rest, later⟩ := ih kept abutting.2 (inMemory.2 between performed)
      refine ⟨after, ?_, later⟩
      rw [ReplayRing.performAll, performed, Exec.ok_bind, rest]

/-- No operation changes the capacity. -/
theorem performAll_capacity {ops : List RingOp} (performed : ring.performAll b ops = .ok after) :
    after.capacityBytes = ring.capacityBytes := by
  induction ops generalizing ring with
  | nil =>
    cases performed
    rfl
  | cons op ops ih =>
    obtain ⟨between, first, rest⟩ := Exec.bind_eq_ok.mp performed
    rw [ih rest]
    -- Neither operation writes the capacity.
    cases op with
    | clear =>
      cases first
      rfl
    | push chunk =>
      obtain ⟨_, _, pushed⟩ := Exec.bind_eq_ok.mp first
      cases pushed
      exact evict_capacity _ _ _

/-- The end of the last chunk, or an offset when there is none. -/
def endOr (offset : Nat) (pushed : List RingChunk) : Nat :=
  (pushed.getLast?.map RingChunk.stop).getD offset

/-- What a covered offset is replayed from spans the stream from there to its end. -/
theorem Retains.replay (retains : Retains pushed ring) {ε : Type} (t : Target) {offset : UInt64}
    (covered : (ring.covers t offset : Exec ε Bool) = .ok true) :
    Spans.Run RingChunk.start RingChunk.stop offset.toNat (ring.replayFrom offset)
      (endOr offset.toNat pushed) := by
  obtain ⟨first, last, run, small⟩ := retains.run
  cases final : pushed.getLast? with
  | none =>
    -- Nothing was pushed, so there is nothing to replay.
    rw [replayFrom, retains.chunks_eq_nil final, endOr, final]
    rfl
  | some back =>
    have some : pushed ≠ [] := by
      rintro rfl
      cases final
    have stop : back.stop = last := run.getLast final
    -- What the ring holds ends where the pushes ended, and a covered offset is a cut in it.
    have holds : ring.Holds last := by
      refine ⟨run.of_suffix retains.suffix, fun empty => ?_⟩
      exact absurd (retains.filled empty) some
    rw [endOr, final, Option.map_some, Option.getD_some, stop]
    exact holds.replay_from_boundary (holds.boundary (small some) covered)

/-- Whether an offset is covered can always be told. -/
theorem Retains.covers_returns (retains : Retains pushed ring) {ε : Type} (t : Target)
    (offset : UInt64) : (ring.covers t offset : Exec ε Bool).Returns := by
  rw [covers]
  split
  · exact ⟨_, rfl⟩
  · split
    · exact ⟨_, rfl⟩
    · next filled _ =>
      -- A ring with a chunk has a last one, whose end is in range.
      cases final : pushed.getLast? with
      | none => exact absurd (retains.chunks_eq_nil final) filled
      | some back =>
        rw [(retains.highestEndOffset t final).1]
        exact ⟨_, rfl⟩

/--
After every sequence of clears and of pushes that abut, the ring holds the last of the chunks pushed
since the last clear with their bytes counted, fits its capacity or is down to one chunk, and is empty
only if nothing was pushed; and what it replays from a covered offset spans the stream from there to the
end of the last chunk.
-/
theorem ring_replays_what_it_covers (b : Build) (capacityBytes : UInt64) (ops : List RingOp)
    (abutting : Abutting [] ops) (inMemory : InMemory b (new capacityBytes) ops) :
    ∃ ring, (new capacityBytes).performAll b ops = .ok ring ∧
      ring.chunks <:+ pushedSince [] ops ∧
      ring.bytesHeld.toNat = wireBytes ring.chunks ∧
      (wireBytes ring.chunks ≤ capacityBytes.toNat ∨ ring.chunks.length = 1) ∧
      (ring.chunks = [] → pushedSince [] ops = []) ∧
      ∀ offset, (ring.covers b.toTarget offset : Exec Empty Bool).Returns ∧
        ((ring.covers b.toTarget offset : Exec Empty Bool) = .ok true →
          Spans.Run RingChunk.start RingChunk.stop offset.toNat (ring.replayFrom offset)
            (endOr offset.toNat (pushedSince [] ops))) := by
  obtain ⟨ring, performed, retains⟩ := (retains_nil capacityBytes).performAll abutting inMemory
  refine ⟨ring, performed, retains.suffix, retains.counted, ?_, retains.filled, fun offset => ?_⟩
  · have capacity : ring.capacityBytes = capacityBytes := performAll_capacity performed
    rw [← capacity, ← retains.counted]
    rcases retains.fits with fits | single
    · exact .inl fits
    · -- At most one chunk: none takes up no bytes, and one is the exception.
      cases held : ring.chunks with
      | nil =>
        left
        have none := retains.counted
        rw [held] at none
        rw [none]
        exact Nat.zero_le _
      | cons front rest =>
        right
        rw [held, List.length_cons] at single
        rw [List.length_cons]
        omega
  · exact ⟨retains.covers_returns b.toTarget offset, retains.replay b.toTarget⟩

/-- Three chunks, the second of them without data, into a ring for four bytes. -/
def evictingPushes : List RingOp :=
  [.push ⟨0, 2, false, [1, 2]⟩, .push ⟨2, 0, false, [0]⟩, .push ⟨2, 3, true, [3, 4, 5]⟩]

/-- The first chunk is evicted, and the other two are replayed from where it stopped. -/
theorem evicting_pushes_replay :
    ∃ ring, (new 4).performAll .debug evictingPushes = .ok ring ∧
      (ring.replayFrom 2).map RingChunk.start = [2, 2] ∧
      Spans.Run RingChunk.start RingChunk.stop 2 (ring.replayFrom 2) 5 := by
  -- The run is evaluated first.
  have reached : ∃ ring, (new 4).performAll .debug evictingPushes = .ok ring ∧
      (ring.replayFrom 2).map RingChunk.start = [2, 2] ∧
      (ring.covers Build.debug.toTarget 2 : Exec Empty Bool) = .ok true :=
    ⟨_, rfl, by decide, by decide⟩
  obtain ⟨ring, performed, replayed, covered⟩ := reached
  obtain ⟨same, again, _, _, _, _, replay⟩ := ring_replays_what_it_covers .debug 4 evictingPushes
    (by decide) (inMemory_of_total (by decide))
  cases performed.symm.trans again
  exact ⟨ring, performed, replayed, (replay 2).2 covered⟩

end ReplayRing

end Repe
