import Repe.Server.Pointer

/-! What the functions on JSON Pointers undo: escapes in a token, and tokens joined to a pointer. -/

namespace Repe.JsonPointer

theorem unescape_cons {char : Char} (plain : char ≠ '~') (rest : Path) :
    unescape (char :: rest) = (unescape rest).map (char :: ·) := by
  simp [unescape, plain]

@[simp] theorem unescape_tilde (rest : Path) :
    unescape ('~' :: '0' :: rest) = (unescape rest).map ('~' :: ·) := by
  simp [unescape]

@[simp] theorem unescape_slash (rest : Path) :
    unescape ('~' :: '1' :: rest) = (unescape rest).map ('/' :: ·) := by
  simp [unescape]

theorem unescape_plain {token : Path} (plain : '~' ∉ token) : unescape token = .ok token := by
  -- No character starts an escape.
  induction token with
  | nil => rfl
  | cons char rest ih =>
    rw [List.mem_cons, not_or] at plain
    rw [unescape_cons (Ne.symm plain.1), ih plain.2]
    rfl

theorem unescapeToken_eq (token : Path) : unescapeToken token = unescape token := by
  rw [unescapeToken]
  -- The fast path is for tokens without a tilde, which read as they are.
  split
  · next plain => rw [unescape_plain (by simpa using plain)]
  · rfl

def escapeChar (char : Char) : Path :=
  if char = '~' then ['~', '0'] else if char = '/' then ['~', '1'] else [char]

/-- Escaping works character by character, although the code makes two passes. -/
theorem escapeToken_eq (token : Path) : escapeToken token = token.flatMap escapeChar := by
  rw [escapeToken]
  split
  · -- Nothing to escape: every character is written as itself.
    next plain =>
    simp only [List.contains_iff_mem] at plain
    have same : ∀ char ∈ token, escapeChar char = [char] := by
      intro char member
      have tilde : char ≠ '~' := fun same => plain.1 (same ▸ member)
      have slash : char ≠ '/' := fun same => plain.2 (same ▸ member)
      rw [escapeChar, if_neg tilde, if_neg slash]
    rw [List.flatMap_congr same, List.flatMap_singleton']
  · rw [replace, replace, List.flatMap_assoc]
    refine List.flatMap_congr fun char _ => ?_
    -- The digit the first pass writes is no separator for the second.
    by_cases tilde : char = '~'
    · subst tilde
      rfl
    · by_cases slash : char = '/'
      · subst slash
        rfl
      · simp [escapeChar, tilde, slash]

theorem unescape_escapeChar (char : Char) (rest : Path) :
    unescape (escapeChar char ++ rest) = (unescape rest).map (char :: ·) := by
  -- A tilde and a slash are written as escapes, anything else as it is.
  rw [escapeChar]
  split
  · next tilde => simp [tilde]
  · split
    · next slash => simp [slash]
    · next plain _ => rw [List.singleton_append, unescape_cons plain]

theorem unescapeToken_escapeToken (token : Path) : unescapeToken (escapeToken token) = .ok token := by
  rw [unescapeToken_eq, escapeToken_eq]
  -- Character by character.
  induction token with
  | nil => rfl
  | cons char rest ih =>
    rw [List.flatMap_cons, unescape_escapeChar, ih]
    rfl

theorem slash_notMem_escapeToken (token : Path) : '/' ∉ escapeToken token := by
  rw [escapeToken_eq]
  intro member
  obtain ⟨char, _, written⟩ := List.mem_flatMap.mp member
  -- A slash is never written for a character, not even for itself.
  rw [escapeChar] at written
  split at written
  · simp at written
  · split at written
    · simp at written
    · next _ slash => exact slash (List.mem_singleton.mp written).symm

theorem escapeToken_eq_nil {token : Path} : escapeToken token = [] ↔ token = [] := by
  constructor
  · intro empty
    -- What is written as nothing reads back as nothing.
    have back := unescapeToken_escapeToken token
    rw [empty] at back
    exact (Except.ok.inj back).symm
  · rintro rfl
    rfl

def join (tokens : List Path) : Path :=
  tokens.flatMap fun token => '/' :: escapeToken token

theorem flatMap_separator (first : Path) (rest : List Path) :
    (first :: rest).flatMap ('/' :: ·) = '/' :: ['/'].intercalate (first :: rest) := by
  -- The separator in front of each is the one behind the text before it.
  induction rest generalizing first with
  | nil => simp
  | cons second rest ih =>
    rw [List.flatMap_cons, ih, List.intercalate_cons_cons, List.append_assoc, List.cons_append,
      List.singleton_append]

theorem mapM_unescapeToken (tokens : List Path) :
    (tokens.map escapeToken).mapM unescapeToken = .ok tokens := by
  -- Token by token.
  induction tokens with
  | nil => rfl
  | cons token rest ih =>
    rw [List.map_cons, List.mapM_cons, unescapeToken_escapeToken, ih]
    rfl

/-- A pointer that was put together from tokens parses to those tokens. -/
theorem parse_join {tokens : List Path} (named : tokens ≠ [[]]) : parse (join tokens) = .ok tokens := by
  cases tokens with
  | nil => rfl
  | cons first rest =>
    -- The pointer is split where the tokens were joined, since no written token has a separator.
    -- Only a single empty token would be written as the root.
    have away : addressesRoot (join (first :: rest)) = false := by
      simp only [join, List.flatMap_cons, List.cons_append, addressesRoot, List.isEmpty_cons,
        Bool.false_or, beq_eq_false_iff_ne, ne_eq, List.cons.injEq, true_and,
        List.append_eq_nil_iff, escapeToken_eq_nil]
      intro both
      obtain ⟨empty, alone⟩ := both
      cases rest with
      | nil => exact named (by rw [empty])
      | cons second rest => simp at alone
    have rooted : (join (first :: rest)).head? = some '/' := rfl
    have clean : ∀ text ∈ (first :: rest).map escapeToken, '/' ∉ text := by
      intro text member
      obtain ⟨token, _, written⟩ := List.mem_map.mp member
      exact written ▸ slash_notMem_escapeToken token
    have split : ((join (first :: rest)).drop 1).splitOn '/' = (first :: rest).map escapeToken := by
      rw [join, ← List.flatMap_map escapeToken ('/' :: ·), List.map_cons, flatMap_separator,
        List.drop_succ_cons, List.drop_zero, ← List.map_cons]
      exact List.splitOn_intercalate '/' clean (by simp)
    rw [parse, away, if_neg Bool.false_ne_true, if_neg (not_not.mpr rooted), split,
      mapM_unescapeToken]

section Reading

theorem read_of_map {text : Path} {change : Path → Path} {token : Path}
    (read : (unescape text).map change = .ok token) :
    ∃ plain, unescape text = .ok plain ∧ change plain = token := by
  -- What was changed after reading was read first.
  cases found : unescape text with
  | error error =>
    rw [found] at read
    cases read
  | ok plain =>
    rw [found] at read
    exact ⟨plain, rfl, Except.ok.inj read⟩

/-- What a text without separators was read as is written as that text again. -/
theorem escapeToken_of_unescape {text token : Path} (read : unescape text = .ok token)
    (clean : '/' ∉ text) : escapeToken token = text := by
  rw [escapeToken_eq]
  -- The induction follows the reader, which takes an escape in one step.
  induction text using unescape.induct generalizing token with
  | case1 =>
    cases read
    rfl
  | case2 rest ih =>
    rw [unescape_tilde] at read
    obtain ⟨left, behind, rfl⟩ := read_of_map read
    rw [List.flatMap_cons, ih behind (by simp_all)]
    rfl
  | case3 rest ih =>
    rw [unescape_slash] at read
    obtain ⟨left, behind, rfl⟩ := read_of_map read
    rw [List.flatMap_cons, ih behind (by simp_all)]
    rfl
  | case4 rest tilde slash =>
    rw [unescape.eq_4 _ _ (fun more _ same => tilde more rfl same)
      (fun more _ same => slash more rfl same), if_pos rfl] at read
    cases read
  | case5 char rest tilde slash plain ih =>
    rw [unescape_cons plain] at read
    obtain ⟨left, behind, rfl⟩ := read_of_map read
    rw [List.mem_cons, not_or] at clean
    rw [List.flatMap_cons, ih behind clean.2, escapeChar, if_neg plain, if_neg (Ne.symm clean.1)]
    rfl

/-- Nothing between two separators is a separator. -/
theorem slash_notMem_splitOn (text : Path) : ∀ part ∈ text.splitOn '/', '/' ∉ part := by
  rw [List.splitOn]
  induction text with
  | nil => simp
  | cons char rest ih =>
    rw [List.splitOnP_cons_eq_if_modifyHead]
    split
    · simpa using ih
    · next apart =>
      -- The first part grows by a character that is no separator.
      obtain ⟨first, others, split⟩ :=
        List.exists_cons_of_ne_nil (List.splitOnP_ne_nil (· == '/') rest)
      rw [split, List.forall_mem_cons] at ih
      rw [split, List.modifyHead_cons, List.forall_mem_cons, List.mem_cons, not_or]
      exact ⟨⟨fun same => apart (by simp [← same]), ih.1⟩, ih.2⟩

/-- Tokens that were read together are written as the texts they were read from. -/
theorem map_escapeToken_of_mapM {texts tokens : List Path} (read : texts.mapM unescapeToken = .ok tokens)
    (clean : ∀ text ∈ texts, '/' ∉ text) : tokens.map escapeToken = texts := by
  induction texts generalizing tokens with
  | nil =>
    cases read
    rfl
  | cons text rest ih =>
    rw [List.forall_mem_cons] at clean
    rw [List.mapM_cons, unescapeToken_eq] at read
    -- A token that does not read would have failed all of them.
    cases first : unescape text with
    | error error =>
      rw [first] at read
      cases read
    | ok token =>
      cases others : rest.mapM unescapeToken with
      | error error =>
        rw [first, others] at read
        cases read
      | ok left =>
        rw [first, others] at read
        cases read
        rw [List.map_cons, escapeToken_of_unescape first clean.1, ih others clean.2]

/-- A parsed pointer is put together from its tokens again, unless it is the root's second spelling. -/
theorem join_of_parse {pointer : Path} {tokens : List Path} (parsed : parse pointer = .ok tokens)
    (named : pointer ≠ ['/']) : join tokens = pointer := by
  rw [parse] at parsed
  split at parsed
  · -- The root has no tokens, and is not spelled with a separator.
    next root =>
    cases parsed
    simp_all [addressesRoot, join]
  · split at parsed
    · cases parsed
    · next rooted =>
      obtain ⟨rest, rfl⟩ : ∃ rest, pointer = '/' :: rest := by
        cases pointer with
        | nil => simp at rooted
        | cons char rest => exact ⟨rest, by simpa using rooted⟩
      -- Every token is written as the text between two separators that it came from.
      have written := map_escapeToken_of_mapM parsed (slash_notMem_splitOn rest)
      obtain ⟨first, others, split⟩ := List.exists_cons_of_ne_nil (List.splitOn_ne_nil '/' rest)
      rw [join, ← List.flatMap_map escapeToken ('/' :: ·), written, List.drop_succ_cons,
        List.drop_zero, split, flatMap_separator, ← split, List.intercalate_splitOn]

end Reading

section Escapes

def Unescapes (text : Path) : Prop := ∃ plain, unescape text = .ok plain

theorem unescapes_map {text : Path} {change : Path → Path} :
    (∃ plain, (unescape text).map change = .ok plain) ↔ Unescapes text := by
  rw [Unescapes]
  cases unescape text <;> simp [Except.map]

theorem not_unescapes {rest : Path} (tilde : ∀ more, rest ≠ '0' :: more)
    (slash : ∀ more, rest ≠ '1' :: more) : ¬ Unescapes ('~' :: rest) := by
  intro read
  obtain ⟨plain, read⟩ := read
  -- Neither digit is behind the tilde, so the last equation applies.
  rw [unescape.eq_4 _ _ (fun more _ same => tilde more same) (fun more _ same => slash more same),
    if_pos rfl] at read
  cases read

theorem escapesComplete_append {front : Bytes} (plain : 0x7E ∉ front) (rest : Bytes) :
    escapesComplete (front ++ rest) = escapesComplete rest := by
  -- The scan passes one byte after the other.
  induction front with
  | nil => rfl
  | cons byte front ih =>
    rw [List.mem_cons, not_or] at plain
    rw [List.cons_append, escapesComplete.eq_4 _ _ (fun _ same => absurd same.symm plain.1)
      (fun _ same => absurd same.symm plain.1), if_neg (Ne.symm plain.1), ih plain.2]

/-- The byte scan accepts exactly the texts whose escapes are complete. -/
theorem escapesComplete_encode (text : Path) :
    escapesComplete (Utf8.encode text) = true ↔ Unescapes text := by
  -- The induction follows the reader of the characters, which takes an escape in one step.
  induction text using unescape.induct with
  | case1 => exact ⟨fun _ => ⟨[], rfl⟩, fun _ => rfl⟩
  | case2 rest ih =>
    rw [Unescapes, unescape_tilde, unescapes_map, ← ih]
    rfl
  | case3 rest ih =>
    rw [Unescapes, unescape_slash, unescapes_map, ← ih]
    rfl
  | case4 rest tilde slash =>
    have refused := not_unescapes (fun more => tilde more rfl) (fun more => slash more rfl)
    refine ⟨fun accepted => ?_, fun read => absurd read refused⟩
    -- The byte behind the tilde belongs to a character that is neither digit.
    rw [Utf8.encode_cons, Utf8.encodeChar_ascii (by decide), List.singleton_append,
      escapesComplete.eq_4] at accepted
    · cases accepted
    · intro more _ starts
      obtain ⟨left, same⟩ := Utf8.head_encode_ascii '0' (by decide) starts
      exact tilde left rfl same
    · intro more _ starts
      obtain ⟨left, same⟩ := Utf8.head_encode_ascii '1' (by decide) starts
      exact slash left rfl same
  | case5 char rest tilde slash plain ih =>
    -- A character is written with an ASCII byte only if it is that byte.
    have absent : 0x7E ∉ String.utf8EncodeChar char := by
      intro member
      have inside : UInt8.ofNat '~'.toNat ∈ Utf8.encode [char] := by
        simpa using member
      rw [Utf8.mem_encode_ascii (by decide), List.mem_singleton] at inside
      exact plain inside.symm
    rw [Unescapes, unescape_cons plain, unescapes_map, ← ih, Utf8.encode_cons,
      escapesComplete_append absent]

/-- A separator belongs to no escape. -/
theorem unescapes_append (first second : Path) :
    Unescapes (first ++ '/' :: second) ↔ Unescapes first ∧ Unescapes second := by
  induction first using unescape.induct with
  | case1 =>
    rw [List.nil_append, Unescapes, unescape_cons (by decide), unescapes_map]
    exact ⟨fun read => ⟨⟨[], rfl⟩, read⟩, And.right⟩
  | case2 rest ih =>
    simp only [Unescapes, List.cons_append, unescape_tilde, unescapes_map]
    exact ih
  | case3 rest ih =>
    simp only [Unescapes, List.cons_append, unescape_slash, unescapes_map]
    exact ih
  | case4 rest tilde slash =>
    -- The separator is no digit either.
    have refused := not_unescapes (fun more => tilde more rfl) (fun more => slash more rfl)
    have still : ¬ Unescapes ('~' :: rest ++ '/' :: second) := by
      refine not_unescapes (fun more same => ?_) (fun more same => ?_)
      · cases rest with
        | nil => simp at same
        | cons char rest => exact tilde rest rfl (by simpa using (List.cons.inj same).1)
      · cases rest with
        | nil => simp at same
        | cons char rest => exact slash rest rfl (by simpa using (List.cons.inj same).1)
    exact ⟨fun read => absurd read still, fun read => absurd read.1 refused⟩
  | case5 char rest tilde slash plain ih =>
    simp only [Unescapes, List.cons_append, unescape_cons plain, unescapes_map]
    exact ih

theorem unescapes_intercalate {first : Path} {rest : List Path} :
    Unescapes (['/'].intercalate (first :: rest)) ↔ ∀ text ∈ first :: rest, Unescapes text := by
  -- A separator is no part of an escape, so it splits the text.
  induction rest generalizing first with
  | nil => simp
  | cons second rest ih =>
    rw [List.intercalate_cons_cons, List.append_assoc, List.singleton_append, unescapes_append, ih,
      List.forall_mem_cons, List.forall_mem_cons, List.forall_mem_cons]

theorem mapM_unescapeToken_ok (tokens : List Path) :
    (∃ plain, tokens.mapM unescapeToken = .ok plain) ↔ ∀ token ∈ tokens, Unescapes token := by
  induction tokens with
  | nil => exact ⟨fun _ => by simp, fun _ => ⟨[], rfl⟩⟩
  | cons token rest ih =>
    rw [List.forall_mem_cons, ← ih, List.mapM_cons, unescapeToken_eq, Unescapes]
    -- The first token that is refused refuses all.
    cases unescape token with
    | error error => simp [bind, Except.bind]
    | ok plain =>
      cases rest.mapM unescapeToken <;> simp [bind, Except.bind, pure, Except.pure]

end Escapes

/-- What `validate_escapes` accepts is what `parse` accepts. -/
theorem validateEscapes_ok (pointer : Path) :
    validateEscapes pointer = .ok () ↔ ∃ tokens, parse pointer = .ok tokens := by
  rw [validateEscapes, parse]
  split
  · exact ⟨fun _ => ⟨[], rfl⟩, fun _ => rfl⟩
  · split
    · simp
    · next rooted =>
      obtain ⟨rest, rfl⟩ : ∃ rest, pointer = '/' :: rest := by
        cases pointer with
        | nil => simp at rooted
        | cons char rest => exact ⟨rest, by simpa using rooted⟩
      -- The scan looks at the whole text at once, the parser at one token after the other.
      have tokens : rest.splitOn '/' ≠ [] := by simp
      obtain ⟨first, others, split⟩ := List.exists_cons_of_ne_nil tokens
      have scan : (if escapesComplete (Utf8.encode ('/' :: rest)) then Except.ok () else
          .error (⟨⟩ : MalformedPointer)) = .ok () ↔ Unescapes ('/' :: rest) := by
        rw [← escapesComplete_encode]
        cases escapesComplete (Utf8.encode ('/' :: rest)) <;> simp
      rw [scan, List.drop_succ_cons, List.drop_zero, mapM_unescapeToken_ok, split,
        ← unescapes_intercalate, ← split, List.intercalate_splitOn, Unescapes,
        unescape_cons (by decide), unescapes_map]

/-- A pointer is valid exactly when it is empty, or absolute with complete escapes. -/
theorem parse_ok_iff (pointer : Path) :
    (∃ tokens, parse pointer = .ok tokens) ↔
      pointer = [] ∨ pointer.head? = some '/' ∧ Unescapes pointer := by
  rw [← validateEscapes_ok, validateEscapes, ← escapesComplete_encode]
  split
  · next root =>
    -- Both spellings of the root are valid, and the second one is absolute.
    rw [addressesRoot, Bool.or_eq_true, List.isEmpty_iff, beq_iff_eq] at root
    rcases root with rfl | rfl
    · simp
    · exact ⟨fun _ => .inr ⟨rfl, by decide⟩, fun _ => rfl⟩
  · next away =>
    have named : pointer ≠ [] := by
      rintro rfl
      exact away rfl
    by_cases rooted : pointer.head? = some '/' <;>
      by_cases complete : escapesComplete (Utf8.encode pointer) = true <;>
      simp [rooted, complete, named]

/-- The text in front of a separator is valid if the whole text is. -/
theorem parse_ok_of_append {front rest : Path} (opens : Mount.Opens rest)
    (valid : ∃ tokens, parse (front ++ rest) = .ok tokens) : ∃ tokens, parse front = .ok tokens := by
  rw [parse_ok_iff] at valid ⊢
  cases front with
  | nil => exact .inl rfl
  | cons char front =>
    rcases valid with empty | ⟨rooted, read⟩
    · simp at empty
    · refine .inr ⟨by simpa using rooted, ?_⟩
      -- Nothing is behind the front, or a separator that cuts the text.
      rcases opens with rfl | starts
      · rwa [List.append_nil] at read
      · obtain ⟨more, rfl⟩ := List.head?_eq_some_iff.mp starts
        exact ((unescapes_append _ _).mp read).1

/-- Two texts up to their first separators are the same text, and so is what follows. -/
theorem append_opens_inj {first second left right : Path} (cleanFirst : '/' ∉ first)
    (cleanSecond : '/' ∉ second) (opensLeft : Mount.Opens left) (opensRight : Mount.Opens right)
    (same : first ++ left = second ++ right) : first = second ∧ left = right := by
  induction first generalizing second with
  | nil =>
    cases second with
    | nil => exact ⟨rfl, same⟩
    | cons char second =>
      rcases opensLeft with rfl | starts
      · simp at same
      · -- What follows nothing would start inside the other text.
        rw [List.nil_append] at same
        subst same
        exact absurd (Option.some.inj starts ▸ List.mem_cons_self) cleanSecond
  | cons char first ih =>
    cases second with
    | nil =>
      rcases opensRight with rfl | starts
      · simp at same
      · rw [List.nil_append] at same
        subst same
        exact absurd (Option.some.inj starts ▸ List.mem_cons_self) cleanFirst
    | cons other second =>
      rw [List.mem_cons, not_or] at cleanFirst cleanSecond
      obtain ⟨head, tail⟩ := List.cons.inj same
      obtain ⟨rest, behind⟩ := ih cleanFirst.2 cleanSecond.2 tail
      exact ⟨by rw [head, rest], behind⟩

theorem opens_join (tokens : List Path) : Mount.Opens (join tokens) := by
  cases tokens with
  | nil => exact .inl rfl
  | cons token rest => exact .inr rfl

/-- A pointer lies in front of another one, up to a separator, exactly when its tokens do. -/
theorem join_front_iff (front tokens : List Path) :
    (∃ rest, join tokens = join front ++ rest ∧ Mount.Opens rest) ↔ front <+: tokens := by
  induction front generalizing tokens with
  | nil => exact ⟨fun _ => List.nil_prefix, fun _ => ⟨join tokens, rfl, opens_join tokens⟩⟩
  | cons token front ih =>
    cases tokens with
    | nil => simp [join]
    | cons other tokens =>
      rw [List.cons_prefix_cons, ← ih]
      have unfolded : ∀ (token : Path) (rest : List Path),
          join (token :: rest) = '/' :: (escapeToken token ++ join rest) := fun _ _ => rfl
      simp only [unfolded, List.cons_append, List.append_assoc, List.cons.injEq, true_and]
      constructor
      · rintro ⟨rest, same, opens⟩
        -- The first tokens end at the same separator.
        have below : Mount.Opens (join front ++ rest) := by
          cases front with
          | nil => exact opens
          | cons next front => exact .inr rfl
        obtain ⟨written, behind⟩ := append_opens_inj (slash_notMem_escapeToken other)
          (slash_notMem_escapeToken token) (opens_join tokens) below same
        have equal := congrArg unescapeToken written
        rw [unescapeToken_escapeToken, unescapeToken_escapeToken] at equal
        exact ⟨(Except.ok.inj equal).symm, rest, behind, opens⟩
      · rintro ⟨rfl, rest, behind, opens⟩
        exact ⟨rest, by rw [behind], opens⟩

section Canonical

/-- The loop of `canonical` puts the tokens behind what it has written so far. -/
theorem foldl_join (out : Path) (tokens : List Path) :
    tokens.foldl (fun out token => out ++ ['/'] ++ escapeToken token) out = out ++ join tokens := by
  -- Each turn of the loop adds a separator and a token.
  induction tokens generalizing out with
  | nil => simp [join]
  | cons token rest ih =>
    rw [List.foldl_cons, ih]
    simp [join]

theorem canonical_eq {tokens : List Path} (named : tokens ≠ []) : canonical tokens = join tokens := by
  have filled : ¬ tokens.isEmpty = true := by simpa using named
  rw [canonical, if_neg filled, foldl_join, List.nil_append]

/--
The pointer of the tokens of a pointer is that pointer again, unless it is the empty one, which has
no tokens and is written as a separator.
-/
theorem canonical_of_parse {pointer : Path} {tokens : List Path}
    (parsed : parse pointer = .ok tokens) : canonical tokens = pointer ↔ pointer ≠ [] := by
  by_cases root : tokens = []
  · -- No tokens: the pointer is one of the two spellings, and the second one is written.
    subst root
    have spelled : pointer = [] ∨ pointer = ['/'] := by
      by_cases second : pointer = ['/']
      · exact .inr second
      · exact .inl (join_of_parse parsed second).symm
    rcases spelled with rfl | rfl
    · decide
    · decide
  · have named : pointer ≠ ['/'] := by
      rintro rfl
      cases parsed
      exact root rfl
    have written := join_of_parse parsed named
    rw [canonical_eq root, written]
    -- Tokens are written as something.
    refine iff_of_true rfl fun empty => ?_
    rw [empty] at parsed
    cases parsed
    exact root rfl

/--
The tokens of the pointer of some tokens are those tokens again, unless they are the empty token
alone.
-/
theorem parse_canonical {tokens : List Path} (named : tokens ≠ [[]]) :
    parse (canonical tokens) = .ok tokens := by
  -- Without tokens the root is spelled out.
  by_cases root : tokens = []
  · rw [root]
    rfl
  · rw [canonical_eq root]
    exact parse_join named

/--
Writing tokens is the inverse of reading a pointer, both ways, except at the empty pointer and at
the empty token alone.
-/
theorem canonical_inverts_parse (pointer : Path) (tokens : List Path) :
    (∀ read, parse pointer = .ok read → (canonical read = pointer ↔ pointer ≠ [])) ∧
      (tokens ≠ [[]] → parse (canonical tokens) = .ok tokens) :=
  ⟨fun _ parsed => canonical_of_parse parsed, parse_canonical⟩

/-- A pointer with both escapes in it, there and back. -/
theorem escaped_pointer_is_canonical :
    canonical [['a', '/', 'b'], ['m', '~']] = ['/', 'a', '~', '1', 'b', '/', 'm', '~', '0'] ∧
      parse (canonical [['a', '/', 'b'], ['m', '~']]) = .ok [['a', '/', 'b'], ['m', '~']] :=
  have both := canonical_inverts_parse ['/', 'a', '~', '1', 'b', '/', 'm', '~', '0']
    [['a', '/', 'b'], ['m', '~']]
  ⟨(both.1 _ (by decide)).mpr (by decide), both.2 (by decide)⟩

/-- The empty pointer is accepted and has no tokens, which are written as another pointer. -/
theorem empty_pointer_not_canonical :
    parse [] = .ok [] ∧ canonical [] = ['/'] := by
  decide

end Canonical

end Repe.JsonPointer
