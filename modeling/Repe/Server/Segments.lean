import Repe.Server.PointerLaws

/-! How a mounted struct splits the pointer below it into segments, beside the parser of pointers. -/

namespace Repe

def stackSegs : Nat := 16

/-- The segments found so far: on the stack, and in a vector once there are too many for it. -/
structure SegmentBuffer where
  stack : Vector Path stackSegs
  count : Nat
  overflow : Option (List Path)
  /-- The count is an index into the stack or its end. -/
  fits : count ≤ stackSegs

namespace SegmentBuffer

def new : SegmentBuffer := ⟨Vector.replicate stackSegs [], 0, none, Nat.zero_le _⟩

def push (buffer : SegmentBuffer) (segment : Path) : SegmentBuffer :=
  match buffer.overflow with
  | some spilled => { buffer with overflow := some (spilled ++ [segment]) }
  | none =>
    if room : buffer.count < stackSegs then
      { buffer with
        stack := buffer.stack.set buffer.count segment room
        count := buffer.count + 1
        fits := room }
    -- The first segment too many takes the whole stack along.
    else { buffer with overflow := some (buffer.stack.toList ++ [segment]) }

def segments (buffer : SegmentBuffer) : List Path :=
  match buffer.overflow with
  | some spilled => spilled
  | none => buffer.stack.toList.take buffer.count

end SegmentBuffer

/-- `with_segments`: hand the segments of a relative pointer to a function. -/
def withSegments {R : Type} (relative : Path) (f : List Path → R) : Except MalformedPointer R :=
  if relative.contains '~' then (JsonPointer.parse relative).map f
  else if relative.isEmpty then .ok (f [])
  -- A single separator is one empty segment.
  else if relative = ['/'] then .ok (f [[]])
  else
    -- A separator in front is stripped where there is one.
    let trimmed := if relative.head? = some '/' then relative.drop 1 else relative
    .ok (f ((trimmed.splitOn '/').foldl SegmentBuffer.push .new).segments)

@[simp] theorem SegmentBuffer.new_segments : new.segments = [] := rfl

/-- A kept segment comes after the ones before it, on the stack or not. -/
theorem SegmentBuffer.push_segments (buffer : SegmentBuffer) (segment : Path) :
    (buffer.push segment).segments = buffer.segments ++ [segment] := by
  rcases buffer with ⟨stack, count, overflow, fits⟩
  cases overflow with
  | some spilled => rfl
  | none =>
    by_cases room : count < stackSegs
    · -- Writing behind the count leaves what is in front of it.
      have length : stack.toList.length = stackSegs := stack.length_toList
      simp only [push, dif_pos room, segments, Vector.toList_set]
      rw [List.take_succ_eq_append_getElem (by simpa [length] using room),
        List.take_set_of_le (le_refl _), List.getElem_set_self]
    · -- A full stack is handed on as a whole.
      have full : count = stackSegs := by omega
      simp only [push, dif_neg room, segments]
      rw [List.take_of_length_le (by simp [full])]

theorem SegmentBuffer.foldl_segments (buffer : SegmentBuffer) (found : List Path) :
    (found.foldl push buffer).segments = buffer.segments ++ found := by
  -- Each segment is put behind the others, on the stack or in the spill.
  induction found generalizing buffer with
  | nil => simp
  | cons segment found ih =>
    rw [List.foldl_cons, ih, push_segments, List.append_assoc, List.singleton_append]

/-- Without a tilde, and apart from the two roots, the segments are what stands between separators. -/
theorem withSegments_plain {R : Type} {relative : Path} (f : List Path → R)
    (plain : '~' ∉ relative) (below : relative ≠ []) (away : relative ≠ ['/']) :
    withSegments relative f = .ok (f
      ((if relative.head? = some '/' then relative.drop 1 else relative).splitOn '/')) := by
  rw [withSegments, if_neg (by simpa using plain), if_neg (by simpa using below), if_neg away]
  simp only [SegmentBuffer.foldl_segments, SegmentBuffer.new_segments, List.nil_append]

/-- What stands in a part between two separators stands in the text. -/
theorem mem_of_mem_splitOn {text part : Path} {char : Char} (found : part ∈ text.splitOn '/')
    (member : char ∈ part) : char ∈ text := by
  have inside : ∀ parts : List Path, part ∈ parts → char ∈ ['/'].intercalate parts := by
    intro parts
    -- A part is the first one, or one of those behind the separator.
    induction parts with
    | nil => simp
    | cons first rest ih =>
      intro listed
      cases rest with
      | nil =>
        rw [List.mem_singleton.mp listed] at member
        simpa using member
      | cons second rest =>
        rw [List.intercalate_cons_cons, List.mem_append, List.mem_append]
        rcases List.mem_cons.mp listed with here | later
        · exact .inl (.inl (here ▸ member))
        · exact .inr (ih later)
  have whole : ['/'].intercalate (text.splitOn '/') = text := List.intercalate_splitOn '/'
  exact whole ▸ inside _ found

/-- Tokens without a tilde are the parts between the separators. -/
theorem parse_plain {pointer : Path} (plain : '~' ∉ pointer) (away : pointer ≠ ['/'])
    (rooted : pointer.head? = some '/') :
    JsonPointer.parse pointer = .ok ((pointer.drop 1).splitOn '/') := by
  have below : JsonPointer.addressesRoot pointer = false := by
    cases pointer with
    | nil => simp at rooted
    | cons char rest => simpa [JsonPointer.addressesRoot] using away
  -- Nothing in the parts is escaped, so they read as themselves.
  have read : ∀ parts : List Path, (∀ part ∈ parts, '~' ∉ part) →
      parts.mapM JsonPointer.unescapeToken = .ok parts := by
    intro parts clean
    induction parts with
    | nil => rfl
    | cons part parts ih =>
      rw [List.forall_mem_cons] at clean
      rw [List.mapM_cons, JsonPointer.unescapeToken_eq, JsonPointer.unescape_plain clean.1,
        ih clean.2]
      rfl
  rw [JsonPointer.parse, below, if_neg Bool.false_ne_true, if_neg (not_not.mpr rooted)]
  exact read _ fun part found tilde =>
    plain (List.mem_of_mem_drop (mem_of_mem_splitOn found tilde))

/--
Where the segments of a struct are the tokens of the parser, and the one pointer that is kept apart from
the root on purpose.
-/
theorem segments_are_tokens_below_the_root {R : Type} (relative : Path) (f : List Path → R) :
    (('~' ∈ relative ∨ relative = [] ∨ (relative.head? = some '/' ∧ relative ≠ ['/'])) →
      withSegments relative f = (JsonPointer.parse relative).map f) ∧
    (relative = ['/'] →
      withSegments relative f = .ok (f [[]]) ∧ JsonPointer.parse relative = .ok []) := by
  refine ⟨fun shared => ?_, fun root => ?_⟩
  · by_cases tilde : '~' ∈ relative
    · -- An escape is left to the parser.
      rw [withSegments, if_pos (by simpa using tilde)]
    · -- Without one, a pointer with the separator in front is split at the same places.
      rcases shared with escaped | empty | ⟨rooted, away⟩
      · exact absurd escaped tilde
      · rw [empty]
        rfl
      · have below : relative ≠ [] := by
          intro empty
          simp [empty] at rooted
        rw [withSegments_plain f tilde below away, if_pos rooted, parse_plain tilde away rooted]
        rfl
  · -- The parser reads a single separator as the root.
    rw [root]
    exact ⟨rfl, rfl⟩

/-- A pointer with an escape: both read the same two tokens. -/
theorem segments_of_escaped_pointer :
    '~' ∈ "/a~1b/c".toList ∧
      withSegments "/a~1b/c".toList id = .ok ["a/b".toList, "c".toList] :=
  ⟨by decide,
    ((segments_are_tokens_below_the_root "/a~1b/c".toList id).1 (.inl (by decide))).trans
      (by decide)⟩

/-- A single separator is one empty segment to a struct and the root to the parser. -/
theorem segments_differ_from_tokens :
    withSegments ['/'] id = .ok [[]] ∧ JsonPointer.parse ['/'] = .ok [] := by
  decide

end Repe
