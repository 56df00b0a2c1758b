import Mathlib.Data.List.Forall2
import Repe.Rest.Gateway

/-! URL paths and pointers name the same tokens, however the segments were percent-encoded. -/

namespace Repe

/-- The bytes that must be escaped in a URL segment: `%`, `/`, `?` and `#`. -/
def urlReserved (byte : UInt8) : Prop :=
  byte = 0x25 ∨ byte = 0x2F ∨ byte = 0x3F ∨ byte = 0x23

instance (byte : UInt8) : Decidable (urlReserved byte) :=
  inferInstanceAs (Decidable (_ ∨ _))

/-- A URL segment that percent-encodes a reference token over its UTF-8 bytes. -/
def SegmentFor (token segment : Path) : Prop :=
  Percent.Encodes urlReserved (Utf8.encode token) (Utf8.encode segment)

/-- The URL path of segments under a mount, with one separator at its end. -/
def restPath (mount : Path) (segments : List Path) : Path :=
  mount ++ segments.flatMap ('/' :: ·) ++ ['/']

/-- The segments of a URL path without one trailing separator; a single empty one is the root. -/
def urlSegments (path : Path) : List Path :=
  let segments := ((stripTrailing path).splitOn '/').drop 1
  if segments = [[]] then [] else segments

variable {M : Type → Type} {C : Type} {token segment path pointer : Path}
  {tokens segments : List Path}

theorem SegmentFor.decodes (written : SegmentFor token segment) :
    percentDecode segment = .ok token := by
  have decoded := Percent.decode_encodes (.inl rfl) written
  rw [percentDecode]
  split
  · -- Without an escape the segment is the token.
    next raw =>
    have absent : (0x25 : UInt8) ∉ Utf8.encode segment := by
      rw [show (0x25 : UInt8) = UInt8.ofNat '%'.toNat from rfl, Utf8.mem_encode_ascii (by decide)]
      simpa using raw
    rw [Percent.decode_raw absent] at decoded
    rw [Utf8.encode_inj (Except.ok.inj decoded)]
  · simp only [decoded, Utf8.fromUtf8_encode]

theorem SegmentFor.clean (written : SegmentFor token segment) : '/' ∉ segment := by
  rw [← Utf8.mem_encode_ascii (by decide)]
  exact Percent.notMem_of_encodes (.inr (.inl rfl)) (by decide) (by decide) written

/-- Only the empty segment decodes to nothing. -/
theorem percentDecode_eq_nil (empty : percentDecode segment = .ok []) : segment = [] := by
  rw [percentDecode] at empty
  split at empty
  · exact Except.ok.inj empty
  · -- An escape decodes to a byte, so a text with one is not empty.
    split at empty
    · cases empty
    · cases empty
    · next bytes decoded =>
      split at empty
      · next text read =>
        rw [Except.ok.inj empty] at read
        rw [Utf8.strictFrom_eq_nil read] at decoded
        -- Nothing is encoded as nothing.
        refine Utf8.encode_inj ?_
        rw [Percent.decode_eq_nil decoded, Utf8.encode_nil]
      · cases empty

theorem segmentsToPointer_eq (segments : List Path) :
    segmentsToPointer segments = (segments.mapM percentDecode).map JsonPointer.join := by
  -- Both stop at the first segment that does not decode.
  induction segments with
  | nil => rfl
  | cons segment rest ih =>
    rw [segmentsToPointer, List.mapM_cons, ih]
    cases percentDecode segment with
    | error detail => rfl
    | ok token => cases rest.mapM percentDecode <;> rfl

theorem stripTrailing_append (path : Path) : stripTrailing (path ++ ['/']) = path := by
  rw [stripTrailing, List.getLast?_concat, if_pos rfl, List.dropLast_concat]

theorem mapM_percentDecode (written : List.Forall₂ SegmentFor tokens segments) :
    segments.mapM percentDecode = .ok tokens := by
  -- Segment by segment.
  induction written with
  | nil => rfl
  | cons first _ ih =>
    rw [List.mapM_cons, first.decodes, ih]
    rfl

theorem forall_clean (written : List.Forall₂ SegmentFor tokens segments) :
    ∀ segment ∈ segments, '/' ∉ segment := by
  induction written with
  | nil => simp
  | cons first _ ih => exact List.forall_mem_cons.mpr ⟨first.clean, ih⟩

/-- A path of written segments leads to the pointer of their tokens. -/
theorem pathToPointer_written (below : tokens ≠ [])
    (written : List.Forall₂ SegmentFor tokens segments) :
    pathToPointer (segments.flatMap ('/' :: ·) ++ ['/']) = .ok (JsonPointer.join tokens) := by
  cases written with
  | nil => exact absurd rfl below
  | @cons token segment tokens segments first rest =>
    -- A path with a segment is neither spelling of the root.
    have long : ¬ ((segment :: segments).flatMap ('/' :: ·) ++ ['/'] = [] ∨
        (segment :: segments).flatMap ('/' :: ·) ++ ['/'] = ['/']) := by
      simp
    -- The split falls between the segments, since none of them has a separator.
    have split : (((segment :: segments).flatMap ('/' :: ·)).splitOn '/').drop 1
        = segment :: segments := by
      rw [JsonPointer.flatMap_separator, List.splitOn_cons_eq_if_modifyHead, if_pos (by simp),
        List.drop_succ_cons, List.drop_zero]
      exact List.splitOn_intercalate '/' (forall_clean (.cons first rest)) (by simp)
    rw [pathToPointer, if_neg long]
    simp only [stripTrailing_append]
    -- The one trailing separator is gone before the segments are looked at.
    rw [if_neg (by simp), if_neg (by simp), split, segmentsToPointer_eq,
      mapM_percentDecode (.cons first rest)]
    rfl

/-- Segments that decode together decode one by one. -/
theorem forall₂_of_mapM (decoded : segments.mapM percentDecode = .ok tokens) :
    List.Forall₂ (fun segment token => percentDecode segment = .ok token) segments tokens := by
  induction segments generalizing tokens with
  | nil =>
    cases decoded
    exact .nil
  | cons segment rest ih =>
    rw [List.mapM_cons] at decoded
    -- A segment that does not decode would have failed all of them.
    cases first : percentDecode segment with
    | error detail =>
      rw [first] at decoded
      cases decoded
    | ok token =>
      cases others : rest.mapM percentDecode with
      | error detail =>
        rw [first, others] at decoded
        cases decoded
      | ok more =>
        rw [first, others] at decoded
        cases decoded
        exact .cons first (ih others)

theorem mapM_percentDecode_root (decoded : segments.mapM percentDecode = .ok [[]]) :
    segments = [[]] := by
  -- There is one segment, and only the empty text decodes to nothing.
  cases forall₂_of_mapM decoded with
  | cons first rest =>
    cases rest
    rw [percentDecode_eq_nil first]

theorem stripMount_restPath (mount : Path) (segments : List Path) :
    Mount.stripMount mount (restPath mount segments)
      = some (segments.flatMap ('/' :: ·) ++ ['/']) := by
  -- What is behind the mount starts with a separator in any case.
  have opens : (segments.flatMap ('/' :: ·) ++ ['/']).head? = some '/' := by
    cases segments <;> simp
  rw [restPath, List.append_assoc, Mount.stripMount]
  split
  · next root => rw [root, List.nil_append]
  · rw [Mount.dropPrefix_eq_some.mpr rfl]
    exact if_pos (.inr opens)

theorem pointerFor_append {pointer : Path} (mount : Path) (rooted : pointer.head? = some '/') :
    Mount.pointerFor mount (mount ++ pointer) = some pointer := by
  -- A pointer that starts with a separator is not empty.
  have some : pointer ≠ [] := by
    intro empty
    simp [empty] at rooted
  rw [Mount.pointerFor]
  split
  · next root => rw [root, List.nil_append, if_neg some]
  · rw [if_neg (by simpa using some), Mount.dropPrefix_eq_some.mpr rfl]
    exact if_pos rooted

/-- What `path_to_pointer` accepts is the pointer of the decoded segments. -/
theorem pathToPointer_ok (accepted : pathToPointer path = .ok pointer) :
    JsonPointer.validateEscapes pointer = .ok () ∧
      ∃ tokens, JsonPointer.parse pointer = .ok tokens ∧
        (urlSegments path).mapM percentDecode = .ok tokens := by
  -- A pointer that parses passes the check of its escapes.
  suffices tokens : ∃ tokens, JsonPointer.parse pointer = .ok tokens ∧
      (urlSegments path).mapM percentDecode = .ok tokens by
    obtain ⟨tokens, parsed, decoded⟩ := tokens
    exact ⟨(JsonPointer.validateEscapes_ok pointer).mpr ⟨tokens, parsed⟩, tokens, parsed, decoded⟩
  rw [pathToPointer] at accepted
  split at accepted
  · -- Both spellings of the root.
    next root =>
    cases accepted
    rcases root with rfl | rfl <;> exact ⟨[], rfl, rfl⟩
  · simp only at accepted
    split at accepted
    · -- The whole path was a trailing separator.
      next empty =>
      cases accepted
      exact ⟨[], rfl, by rw [urlSegments, empty]; rfl⟩
    · split at accepted
      · cases accepted
      · rw [segmentsToPointer_eq] at accepted
        cases decoded : (((stripTrailing path).splitOn '/').drop 1).mapM percentDecode with
        | error detail =>
          rw [decoded] at accepted
          cases accepted
        | ok tokens =>
          rw [decoded] at accepted
          cases accepted
          by_cases single : ((stripTrailing path).splitOn '/').drop 1 = [[]]
          · -- One empty segment: the other spelling of the root.
            rw [single] at decoded
            cases decoded
            exact ⟨[], rfl, by rw [urlSegments, if_pos single]; rfl⟩
          · refine ⟨tokens, JsonPointer.parse_join ?_, by rw [urlSegments, if_neg single, decoded]⟩
            -- A single empty token comes from a single empty segment only.
            intro root
            rw [root] at decoded
            exact single (mapM_percentDecode_root decoded)

/-- A `PUT` or `POST` that calls anything calls the pointer it is given. -/
theorem call_invokes {gateway : RestGateway M C} {request : RestRequest} {called : Path}
    {params : Option RequestBody} (invoked : gateway.call pointer request = .invoke called params) :
    called = pointer := by
  -- Every earlier exit calls nothing.
  rw [RestGateway.call] at invoked
  split at invoked
  · cases invoked
  · split at invoked
    · cases invoked
    · split at invoked
      · cases invoked
      · cases invoked
        rfl

/--
Every URL path with percent-encoded segments names the function of its tokens, and what a URL path
decodes to never moves a boundary between segments.
-/
theorem rest_paths_carry_their_tokens (gateway : RestGateway M C) :
    (∀ tokens segments : List Path, tokens ≠ [] → tokens ≠ [[]] →
      List.Forall₂ SegmentFor tokens segments →
      ∃ pointer,
        (Mount.stripMount gateway.mount (restPath gateway.mount segments)).map pathToPointer
          = some (.ok pointer) ∧
        JsonPointer.parse pointer = .ok tokens ∧
        (∀ request : RestRequest, request.path = restPath gateway.mount segments →
          (request.method = "GET" ∨ request.method = "HEAD" →
            gateway.respond request = .invoke pointer none) ∧
          ∀ called params, gateway.respond request = .invoke called params → called = pointer) ∧
        ∀ mount : Path, (RegisteredRegistry.new mount gateway.registry).serves
          (Mount.normalizeMount mount ++ pointer) = some (gateway.registry.find pointer)) ∧
    ∀ path pointer : Path, pathToPointer path = .ok pointer →
      JsonPointer.validateEscapes pointer = .ok () ∧
        ∃ tokens, JsonPointer.parse pointer = .ok tokens ∧
          (urlSegments path).mapM percentDecode = .ok tokens := by
  refine ⟨fun tokens segments below named written => ?_, fun path pointer => pathToPointer_ok⟩
  have stripped := stripMount_restPath gateway.mount segments
  have mapped := pathToPointer_written below written
  refine ⟨JsonPointer.join tokens, ?_, JsonPointer.parse_join named, fun request asked => ?_,
    fun mount => ?_⟩
  · rw [stripped, Option.map_some, mapped]
  · simp only [RestGateway.respond, asked, stripped, mapped]
    refine ⟨fun read => ?_, fun called params invoked => ?_⟩
    · -- A read calls the function without parameters.
      have options : request.method ≠ "OPTIONS" := by
        rcases read with verb | verb <;> simp [verb]
      rw [if_neg (fun both => options both.1), if_pos read]
    · -- Whatever the verb, the pointer is the one that was resolved.
      split at invoked
      · cases invoked
      · split at invoked
        · cases invoked
          rfl
        · split at invoked
          · exact call_invokes invoked
          · split at invoked <;> cases invoked
  · -- A registry under any mount finds the same function.
    have rooted : (JsonPointer.join tokens).head? = some '/' := by
      cases tokens with
      | nil => exact absurd rfl below
      | cons token tokens => rfl
    exact congrArg (Option.map gateway.registry.find) (pointerFor_append _ rooted)

/-- A separator inside a token is escaped in the URL, and stays inside the token. -/
theorem rest_path_of_escaped_separator :
    List.Forall₂ SegmentFor ["a/b".toList] ["a%2Fb".toList] ∧
      ∃ pointer, (Mount.stripMount "/api".toList "/api/a%2Fb/".toList).map pathToPointer
          = some (.ok pointer) ∧ JsonPointer.parse pointer = .ok ["a/b".toList] := by
  -- The separator inside the token is written as an escape.
  have written : List.Forall₂ SegmentFor ["a/b".toList] ["a%2Fb".toList] := by
    refine .cons ?_ .nil
    show Percent.Encodes urlReserved [0x61, 0x2F, 0x62] [0x61, 0x25, 0x32, 0x46, 0x62]
    exact .raw (by decide) (.escape rfl rfl rfl (.raw (by decide) .nil))
  let gateway : RestGateway Id Unit := .withConfig "/api/".toList Registry.new {}
  obtain ⟨pointer, mapped, parsed, _⟩ := (rest_paths_carry_their_tokens gateway).1
    ["a/b".toList] ["a%2Fb".toList] (by decide) (by decide) written
  exact ⟨written, pointer, mapped, parsed⟩

end Repe
