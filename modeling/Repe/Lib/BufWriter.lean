import Mathlib.Algebra.Order.Group.Nat

/-!
A buffered writer on a connection.

Blocks are accepted for as long as the buffer has room for them, and everything else waits for what
the connection takes.
-/

/-- A buffered writer: what the connection has taken, and what the buffer holds. -/
structure BufWriter (α : Type) where
  wire : List α
  buffer : List α
  /-- Room in the buffer that was not freed yet, because only a part of it was taken. -/
  spent : Nat
  deriving DecidableEq, Repr

namespace BufWriter

variable {α : Type}

/-- A writer nothing was written to. -/
def empty : BufWriter α := ⟨[], [], 0⟩

/-- Everything accepted so far, in order. -/
def stream (writer : BufWriter α) : List α := writer.wire ++ writer.buffer

/-- How much of the buffer is in use. -/
def occupied (writer : BufWriter α) : Nat := writer.spent + writer.buffer.length

/-- The connection takes some of the buffer, whose room is freed once all of it is taken. -/
def spill (writer : BufWriter α) (count : Nat) : BufWriter α where
  wire := writer.wire ++ writer.buffer.take count
  buffer := writer.buffer.drop count
  spent := if writer.buffer.length ≤ count then 0 else writer.spent + count

/-- An error of the connection ends the emptying of the buffer, and frees what was taken. -/
def drain (writer : BufWriter α) : BufWriter α := { writer with spent := 0 }

section Write

variable (capacity : Nat)

/-- A block goes into the buffer if it leaves room there, and is not as large as the whole buffer. -/
def Accepts (writer : BufWriter α) (block : List α) : Prop :=
  writer.occupied + block.length ≤ capacity ∧ block.length < capacity

instance (writer : BufWriter α) (block : List α) : Decidable (writer.Accepts capacity block) :=
  inferInstanceAs (Decidable (_ ∧ _))

/-- Accept blocks up to the first that has to wait for the connection. -/
def settle (writer : BufWriter α) : List (List α) → BufWriter α × List (List α)
  | [] => (writer, [])
  | block :: blocks =>
    if writer.Accepts capacity block then
      settle { writer with buffer := writer.buffer ++ block } blocks
    else (writer, block :: blocks)

/--
The connection takes some elements, while blocks wait.

A block as large as the buffer bypasses it.
Whether the rest of such a block may end up in the buffer differs from writer to writer: `bypass`
keeps it out.
-/
def advance (bypass : Bool) (writer : BufWriter α) (blocks : List (List α)) (count : Nat) :
    BufWriter α × List (List α) :=
  if writer.buffer.isEmpty then
    match blocks with
    | [] => (writer, [])
    | block :: blocks =>
      let writer := { writer with wire := writer.wire ++ block.take count }
      if block.length ≤ count then writer.settle capacity blocks
      else if bypass then (writer, block.drop count :: blocks)
      else writer.settle capacity (block.drop count :: blocks)
  else
    -- The buffer is emptied before the next block is looked at.
    if writer.buffer.length ≤ count then (writer.spill count).settle capacity blocks
    else (writer.spill count, blocks)

/-- Write while the connection takes so many elements each time; what is left was not accepted. -/
def pour (bypass : Bool) (writer : BufWriter α) (blocks : List (List α)) :
    List Nat → BufWriter α × List (List α)
  | [] => (writer, blocks)
  | count :: counts =>
    if blocks.isEmpty then (writer, [])
    else
      let (writer, blocks) := writer.advance capacity bypass blocks count
      pour bypass writer blocks counts

/-- Write blocks one after the other, with what the connection takes on the way. -/
def writeAll (bypass : Bool) (writer : BufWriter α) (blocks : List (List α)) (counts : List Nat) :
    BufWriter α × List (List α) :=
  let settled := writer.settle capacity blocks
  settled.1.pour capacity bypass settled.2 counts

end Write

/-- Empty the buffer, with what the connection takes on the way. -/
def flush (writer : BufWriter α) (counts : List Nat) : BufWriter α := counts.foldl spill writer

section Laws

variable {capacity : Nat} {bypass : Bool} (writer : BufWriter α) (blocks : List (List α))

/-- What leaves the buffer arrives on the connection, in the same order. -/
@[simp] theorem spill_stream (count : Nat) : (writer.spill count).stream = writer.stream := by
  simp [spill, stream]

@[simp] theorem drain_stream : writer.drain.stream = writer.stream := rfl

/-- What is on the connection is the front of everything accepted. -/
theorem wire_front : writer.wire <+: writer.stream := List.prefix_append _ _

/-- Emptying the buffer accepts nothing. -/
@[simp] theorem flush_stream (counts : List Nat) : (writer.flush counts).stream = writer.stream := by
  -- Every turn of the connection moves bytes from the buffer to the wire.
  induction counts generalizing writer with
  | nil => rfl
  | cons count counts ih =>
    rw [flush, List.foldl_cons]
    exact (ih _).trans (writer.spill_stream count)

/-- What was accepted, with what waits behind it, is what was given. -/
theorem settle_stream :
    (writer.settle capacity blocks).1.stream ++ (writer.settle capacity blocks).2.flatten =
      writer.stream ++ blocks.flatten := by
  -- By induction on the blocks; an accepted one moves from the second part to the first.
  induction blocks generalizing writer with
  | nil => rfl
  | cons block blocks ih =>
    unfold settle
    split
    · rw [ih]
      simp [stream]
    · rfl

/-- With no block left, the connection only empties the buffer. -/
@[simp] theorem advance_nil (count : Nat) :
    (writer.advance capacity bypass [] count).2 = [] := by
  -- A block would be the only other thing to write.
  unfold advance
  split
  · rfl
  · split <;> rfl

/-- The connection takes the elements in the order in which they were given. -/
theorem advance_stream (count : Nat) :
    (writer.advance capacity bypass blocks count).1.stream ++
        (writer.advance capacity bypass blocks count).2.flatten =
      writer.stream ++ blocks.flatten := by
  unfold advance
  split
  · next none =>
    -- With an empty buffer the first block goes to the connection itself.
    have none : writer.buffer = [] := List.isEmpty_iff.mp none
    cases blocks with
    | nil => rfl
    | cons block blocks =>
      have joined : stream ⟨writer.wire ++ block.take count, writer.buffer, writer.spent⟩ ++
          (block.drop count :: blocks).flatten = writer.stream ++ (block :: blocks).flatten := by
        simp only [stream, none, List.append_nil, List.flatten_cons, List.append_assoc]
        rw [← List.append_assoc (block.take count), List.take_append_drop]
      dsimp only
      by_cases all : block.length ≤ count
      · rw [if_pos all, settle_stream]
        simp [stream, none, List.take_of_length_le all]
      · rw [if_neg all]
        by_cases kept : bypass
        · rw [if_pos kept]
          exact joined
        · rw [if_neg kept, settle_stream]
          exact joined
  · split
    · rw [settle_stream, spill_stream]
    · rw [spill_stream]

/-- So it is for everything the connection takes during a write. -/
theorem pour_stream (counts : List Nat) :
    (writer.pour capacity bypass blocks counts).1.stream ++
        (writer.pour capacity bypass blocks counts).2.flatten =
      writer.stream ++ blocks.flatten := by
  -- By induction on what the connection takes; nothing is taken once no block is left.
  induction counts generalizing writer blocks with
  | nil => rfl
  | cons count counts ih =>
    unfold pour
    split
    · next none => rw [List.isEmpty_iff.mp none]
    · rw [ih, advance_stream]

/-- What a write accepted, with what it left, is what it was given. -/
theorem writeAll_stream (counts : List Nat) :
    (writer.writeAll capacity bypass blocks counts).1.stream ++
        (writer.writeAll capacity bypass blocks counts).2.flatten =
      writer.stream ++ blocks.flatten := by
  rw [writeAll, pour_stream, settle_stream]

/-- Blocks that leave room in the buffer are accepted without the connection. -/
theorem settle_fits (small : ∀ block ∈ blocks, block.length < capacity)
    (room : writer.occupied + blocks.flatten.length ≤ capacity) :
    (writer.settle capacity blocks).2 = [] := by
  induction blocks generalizing writer with
  | nil => rfl
  | cons block blocks ih =>
    rw [List.flatten_cons, List.length_append] at room
    -- The first block leaves room for the others.
    have accepted : writer.Accepts capacity block := ⟨by omega, small block List.mem_cons_self⟩
    rw [settle, if_pos accepted]
    apply ih
    · intro other member
      exact small other (List.mem_cons_of_mem _ member)
    · simp only [occupied, List.length_append] at room ⊢
      omega

/-- Blocks behind a first one that is not empty are smaller than all of them together. -/
theorem small_of_fits {first : List α} {blocks : List (List α)} (some : first ≠ [])
    (small : first.length < capacity) (fits : (first :: blocks).flatten.length ≤ capacity) :
    ∀ block ∈ first :: blocks, block.length < capacity := by
  -- The first one takes up some of the room that all of them have.
  have positive := List.length_pos_iff.mpr some
  rw [List.flatten_cons, List.length_append] at fits
  intro block member
  rcases List.mem_cons.mp member with rfl | behind
  · exact small
  · have part := (List.sublist_flatten_of_mem behind).length_le
    omega

/-- A write of such blocks leaves none of them, whatever the connection takes. -/
theorem writeAll_fits (counts : List Nat) (small : ∀ block ∈ blocks, block.length < capacity)
    (room : writer.occupied + blocks.flatten.length ≤ capacity) :
    (writer.writeAll capacity bypass blocks counts).2 = [] := by
  rw [writeAll, settle_fits writer blocks small room]
  cases counts <;> rfl

end Laws

section Torn

variable {capacity count : Nat} {bypass : Bool} {wire block : List α}

/-- A block as large as the buffer waits behind a small one. -/
theorem settle_large {first : List α} (small : first.length < capacity)
    (large : capacity ≤ block.length) :
    settle capacity ⟨wire, [], 0⟩ [first, block] = (⟨wire, first, 0⟩, [block]) := by
  -- The small one is buffered, and the large one never is.
  have accepted : Accepts capacity ⟨wire, [], 0⟩ first := by
    constructor
    · simpa [occupied] using Nat.le_of_lt small
    · exact small
  have waits : ¬Accepts capacity ⟨wire, first, 0⟩ block := fun accepts =>
    absurd accepts.2 (Nat.not_lt.mpr large)
  rw [settle, if_pos accepted, settle, List.nil_append, if_neg waits]

/-- Once the buffer is empty, such a block still waits for the connection. -/
theorem advance_emptied {first : List α} (some : first ≠ []) (large : capacity ≤ block.length) :
    advance capacity bypass ⟨wire, first, 0⟩ [block] first.length =
      (⟨wire ++ first, [], 0⟩, [block]) := by
  -- No buffer takes a block of its own size.
  have waits : ¬Accepts capacity ⟨wire ++ first, [], 0⟩ block := fun accepts =>
    absurd accepts.2 (Nat.not_lt.mpr large)
  have full : (first.isEmpty) = false := by simpa using some
  simp [advance, full, spill, settle, waits]

/-- A connection that takes a part of such a block leaves the rest of it, if that is large too. -/
theorem advance_large (large : capacity + count ≤ block.length) (positive : 0 < capacity) :
    advance capacity bypass ⟨wire, [], 0⟩ [block] count =
      (⟨wire ++ block.take count, [], 0⟩, [block.drop count]) := by
  -- What is left of the block is still too large for the buffer.
  have waits : ¬Accepts capacity ⟨wire ++ block.take count, [], 0⟩ (block.drop count) := by
    rintro ⟨_, short⟩
    rw [List.length_drop] at short
    omega
  have short : ¬block.length ≤ count := by omega
  simp [advance, short, settle, waits]

/-- A write of such a block is left in the middle of it, once the connection takes no more. -/
theorem writeAll_torn {first : List α} (some : first ≠ []) (small : first.length < capacity)
    (large : capacity + count ≤ block.length) :
    writeAll capacity bypass ⟨wire, [], 0⟩ [first, block] [first.length, count] =
      (⟨wire ++ first ++ block.take count, [], 0⟩, [block.drop count]) := by
  have whole : capacity ≤ block.length := Nat.le_of_add_right_le large
  rw [writeAll, settle_large small whole]
  -- The first turn empties the buffer, and the second takes a part of the block.
  simp only [pour, List.isEmpty_cons, Bool.false_eq_true, if_false, advance_emptied some whole,
    advance_large large (Nat.zero_lt_of_lt small)]

/-- What follows a part of a frame on the connection shows that the frame was torn. -/
theorem not_aligned_of_torn {front rest next : List α} (some : front ≠ [])
    (differs : ∀ more, ¬next <+: rest ++ more) :
    ¬∃ frames : List (List α), frames.Sublist [front ++ rest, next] ∧
      front ++ next <+: frames.flatten := by
  rintro ⟨frames, sublist, aligned⟩
  have positive := List.length_pos_iff.mpr some
  -- Each of the two frames is chosen or skipped.
  rcases List.sublist_cons_iff.mp sublist with skipped | ⟨others, rfl, chosen⟩
  · -- Without the first frame there are not enough elements.
    have most : frames.flatten.length ≤ next.length := by
      rcases List.sublist_cons_iff.mp skipped with none | ⟨others, rfl, last⟩
      · simp [List.sublist_nil.mp none]
      · simp [List.sublist_nil.mp last]
    have short := aligned.length_le
    rw [List.length_append] at short
    omega
  · rw [List.flatten_cons, List.append_assoc, List.prefix_append_right_inj] at aligned
    exact differs _ aligned

end Torn

end BufWriter
