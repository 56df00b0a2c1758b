import Repe.Lib.Transition
import Repe.Svs.Produce

/-! The write loop of a chunk sink turn by turn, for every chunk size that options can carry. -/

namespace Repe.Svs.ChunkSink

section Loop

variable (t : Target)

/-- A turn as a step of the loop, which takes none once the data is used up. -/
def loopStep : ChunkSink × Bytes → Unit → Option (ChunkSink × Bytes)
  | (sink, data), () =>
    if data = [] then none
    else match writeTurn t sink data with
      | (.ok rest, next) => some (next, rest)
      | _ => none

/-- Sinks that earlier writes lead to from a new one, as long as the receiver takes every chunk. -/
inductive Reached : ChunkSink → Prop where
  | new {tx : SyncSender} {chunkBytes : Nat} {sink : ChunkSink}
    (live : ∀ count, tx.accepts count = true) (created : new t tx chunkBytes = .ok sink) :
    Reached sink
  | write {sink after : ChunkSink} {fuel : Nat} {data : Bytes} (reached : Reached sink)
    (wrote : sink.write t fuel data = some (.ok data.length, after)) : Reached after

/-- Everything that was written went out in chunks with something in them, or is still buffered. -/
structure Delivers (before : ChunkSink) (data : Bytes) (chunks : List Bytes) (after : ChunkSink) :
    Prop where
  sent : after.tx.sent = before.tx.sent ++ chunks.map .chunk
  bytes : before.buf ++ data = chunks.flatten ++ after.buf
  nonempty : ∀ chunk ∈ chunks, chunk ≠ []

/-- A write that comes to its end with everything delivered, and computes no negative free space. -/
structure Completes (sink : ChunkSink) (data : Bytes) : Prop where
  finishes : ∃ fuel chunks after, sink.write t fuel data = some (.ok data.length, after) ∧
    Delivers sink data chunks after
  fits : ∀ turns between rest, Transition.run (loopStep t) (sink, data) turns = some (between, rest) →
    between.buf.length ≤ between.chunkBytes

end Loop

namespace Settled

variable {t : Target} {sink : ChunkSink}

theorem run {data rest : Bytes} {turns : List Unit} {between : ChunkSink} (settled : sink.Settled t)
    (ran : Transition.run (loopStep t) (sink, data) turns = some (between, rest)) :
    between.Settled t := by
  -- Being settled is kept by every turn.
  refine Transition.invariant_of_run (fun state => state.1.Settled t) ?_ settled ran
  rintro ⟨sink, data⟩ _ ⟨after, left⟩ settled taken
  obtain ⟨rest, next, turned, kept, _⟩ := settled.step data
  simp only [loopStep, turned] at taken
  split at taken
  · cases taken
  · cases taken
    exact kept

/-- However a write ends, it leaves a settled sink. -/
theorem writeTurns {fuel : Nat} {data : Bytes} {result : Exec IoError Unit} {after : ChunkSink}
    (settled : sink.Settled t) (wrote : sink.writeTurns t fuel data = some (result, after)) :
    after.Settled t := by
  -- By induction on the turns that are left.
  induction fuel generalizing sink data with
  | zero =>
    rw [ChunkSink.writeTurns] at wrote
    split at wrote
    · cases wrote
      exact settled
    · cases wrote
  | succ fuel ih =>
    rw [ChunkSink.writeTurns] at wrote
    split at wrote
    · cases wrote
      exact settled
    · obtain ⟨rest, next, turned, kept, _⟩ := settled.step data
      rw [turned] at wrote
      exact ih kept wrote

end Settled

variable {t : Target} {sink : ChunkSink}

theorem Reached.settled (reached : sink.Reached t) : sink.Settled t := by
  -- By induction on the writes that led to it; a new sink has an empty buffer.
  induction reached with
  | new live created =>
    obtain ⟨small, rfl⟩ := new_eq_ok.mp created
    exact ⟨live, small, .inl rfl⟩
  | write _ wrote settled =>
    rw [ChunkSink.write, Option.map_eq_some_iff] at wrote
    obtain ⟨⟨result, last⟩, ended, same⟩ := wrote
    obtain ⟨_, rfl⟩ := Prod.mk.inj same
    exact settled.writeTurns ended

theorem Settled.completes (settled : sink.Settled t) (positive : 0 < sink.chunkBytes) (data : Bytes) :
    sink.Completes t data := by
  refine ⟨?_, fun turns between rest ran => (settled.run ran).fits⟩
  -- Every turn takes a byte at least, so there are no more turns than bytes.
  obtain ⟨chunks, after, ended, wrote⟩ := settled.writes positive (Nat.le_refl data.length)
  refine ⟨data.length, chunks, after, ?_, wrote.sent, wrote.bytes, fun chunk member => ?_⟩
  · rw [write, ended]
    rfl
  · -- Only full chunks are sent.
    rw [← List.length_pos_iff, wrote.full chunk member]
    exact positive

theorem Settled.completes_nil (settled : sink.Settled t) : sink.Completes t [] := by
  -- No turn is taken for nothing.
  refine ⟨⟨0, [], sink, rfl, ?_, ?_, ?_⟩, fun turns between rest ran => (settled.run ran).fits⟩
  · simp
  · simp
  · simp

section Zero

theorem writeTurn_zero (settled : sink.Settled t) (zero : sink.chunkBytes = 0) (data : Bytes) :
    writeTurn t sink data =
      (.ok data, ⟨⟨sink.tx.sent ++ [.chunk []], sink.tx.accepts⟩, [], 0⟩) := by
  -- A chunk without room leaves only the empty buffer.
  have empty : sink.buf = [] := List.eq_nil_of_length_eq_zero (by
    have fits := settled.fits
    omega)
  rw [settled.writeTurn data]
  simp [empty, zero]

/-- With no room in a chunk, whatever fuel is given to a write of something runs out. -/
theorem writeTurns_zero (settled : sink.Settled t) (zero : sink.chunkBytes = 0) {data : Bytes}
    (more : data ≠ []) (fuel : Nat) : writeTurns t fuel sink data = none := by
  -- Each turn leads to a sink of the same kind, with the same data.
  induction fuel generalizing sink with
  | zero => rw [writeTurns, if_neg more]
  | succ fuel ih =>
    rw [writeTurns, if_neg more, writeTurn_zero settled zero]
    exact ih ⟨settled.live, Nat.zero_le _, .inl rfl⟩ rfl

/-- After so many turns with no room in a chunk, so many empty chunks were sent. -/
theorem run_zero (settled : sink.Settled t) (zero : sink.chunkBytes = 0) {data : Bytes}
    (more : data ≠ []) (turns : List Unit) :
    ∃ between, Transition.run (loopStep t) (sink, data) turns = some (between, data) ∧
      between.tx.sent = sink.tx.sent ++ List.replicate turns.length (.chunk []) := by
  -- By induction on the turns, each of which leads to a sink of the same kind.
  induction turns generalizing sink with
  | nil => exact ⟨sink, rfl, by simp⟩
  | cons turn turns ih =>
    have taken : loopStep t (sink, data) turn =
        some (⟨⟨sink.tx.sent ++ [.chunk []], sink.tx.accepts⟩, [], 0⟩, data) := by
      simp only [loopStep, if_neg more, writeTurn_zero settled zero]
    have kept : Settled t ⟨⟨sink.tx.sent ++ [.chunk []], sink.tx.accepts⟩, [], 0⟩ :=
      ⟨settled.live, Nat.zero_le _, .inl rfl⟩
    obtain ⟨between, ran, sent⟩ := ih kept rfl
    refine ⟨between, Transition.run_cons.mpr ⟨_, taken, ran⟩, ?_⟩
    rw [sent, List.length_cons, List.replicate_succ, List.append_assoc]
    rfl

end Zero

/--
A write to any sink that is reached comes to its end, with every byte delivered in order, no empty chunk
and no negative free space, exactly if chunks hold something or there is nothing to write.
-/
theorem write_completes_iff (t : Target) {sink : ChunkSink} (reached : sink.Reached t) (data : Bytes) :
    sink.Completes t data ↔ 0 < sink.chunkBytes ∨ data = [] := by
  have settled := reached.settled
  constructor
  · intro completes
    by_contra neither
    obtain ⟨notPositive, more⟩ := not_or.mp neither
    obtain ⟨fuel, chunks, after, wrote, _⟩ := completes.finishes
    -- The loop has no end, whatever fuel it is given.
    rw [write, writeTurns_zero settled (Nat.eq_zero_of_not_pos notPositive) more fuel] at wrote
    cases wrote
  · rintro (positive | rfl)
    · exact settled.completes positive data
    · exact settled.completes_nil

/-- A second write to a sink with chunks of two bytes, the first of which left one byte buffered. -/
theorem second_write_completes :
    write .release64 3 ⟨⟨[], fun _ => true⟩, [], 2⟩ [1, 2, 3] =
        some (.ok 3, ⟨⟨[.chunk [1, 2]], fun _ => true⟩, [3], 2⟩) ∧
      Completes .release64 ⟨⟨[.chunk [1, 2]], fun _ => true⟩, [3], 2⟩ [4, 5, 6] := by
  have first : write .release64 3 ⟨⟨[], fun _ => true⟩, [], 2⟩ [1, 2, 3] =
      some (.ok 3, ⟨⟨[.chunk [1, 2]], fun _ => true⟩, [3], 2⟩) := rfl
  have created : new .release64 ⟨[], fun _ => true⟩ 2 = .ok ⟨⟨[], fun _ => true⟩, [], 2⟩ := rfl
  -- The sink is reached by its first write.
  have reached : Reached .release64 ⟨⟨[.chunk [1, 2]], fun _ => true⟩, [3], 2⟩ :=
    .write (.new (fun _ => rfl) created) first
  exact ⟨first, (write_completes_iff .release64 reached [4, 5, 6]).mpr (.inl (by decide))⟩

/-- One byte, written to a new sink whose chunks hold nothing: the loop sends empty chunks for ever. -/
theorem zero_chunk_write_never_ends :
    ∃ sink, new .release64 ⟨[], fun _ => true⟩ 0 = .ok sink ∧
      ¬ Completes .release64 sink [7] ∧
      (∀ fuel, sink.write .release64 fuel [7] = none) ∧
      ∀ turns, ∃ between, Transition.run (loopStep .release64) (sink, [7]) turns =
          some (between, [7]) ∧ between.tx.sent = List.replicate turns.length (.chunk []) := by
  refine ⟨⟨⟨[], fun _ => true⟩, [], 0⟩, rfl, ?_⟩
  have settled : Settled .release64 ⟨⟨[], fun _ => true⟩, [], 0⟩ :=
    ⟨fun _ => rfl, Nat.zero_le _, .inl rfl⟩
  -- No fuel is enough.
  have endless : ∀ fuel, write .release64 fuel ⟨⟨[], fun _ => true⟩, [], 0⟩ [7] = none := by
    intro fuel
    rw [write, writeTurns_zero settled rfl (by decide) fuel]
    rfl
  refine ⟨?_, endless, fun turns => run_zero settled rfl (by decide) turns⟩
  rintro ⟨⟨fuel, chunks, after, wrote, _⟩, _⟩
  rw [endless fuel] at wrote
  cases wrote

end Repe.Svs.ChunkSink
