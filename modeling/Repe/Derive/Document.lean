import Repe.Derive.ListingLaws

/-! Reading the bytes of objects back: documents of nested objects, in JSON and in BEVE, over whatever
reads the keys and the other values. -/

namespace Repe.Derive

/-- A document that was read: an object with its members in order, or any other value. -/
inductive Document (V : Type) where
  | other (value : V)
  | object (members : List (Path × Document V))

/--
What reads the keys, the counts and the values that are no objects, and that it reads back what
structio has written.
-/
structure Readers (structio : Structio) (V : Type) where
  jsonKey : Bytes → Option (Path × Bytes)
  beveKey : Bytes → Option (Path × Bytes)
  beveSize : Bytes → Option (Nat × Bytes)
  jsonOther : Bytes → Option (V × Bytes)
  beveOther : Bytes → Option (V × Bytes)
  jsonKey_text : ∀ name rest, jsonKey (structio.text.json name ++ rest) = some (name, rest)
  text_quoted : ∀ name, (structio.text.json name).head? = some 0x22
  beveKey_strBody : ∀ name rest, beveKey (structio.strBody name ++ rest) = some (name, rest)
  /-- A count has 62 bits in BEVE. -/
  beveSize_size : ∀ count rest, count < 2 ^ 62 →
    beveSize (structio.size count ++ rest) = some (count, rest)

def isJsonSpace (byte : UInt8) : Bool := [0x20, 0x09, 0x0A, 0x0D].contains byte

def skipSpace (bytes : Bytes) : Bytes := bytes.dropWhile isJsonSpace

namespace Readers

variable {structio : Structio} {V : Type} (readers : Readers structio V)

mutual

def readJson : Nat → Bytes → Option (Document V × Bytes)
  | 0, _ => none
  | fuel + 1, bytes =>
    match skipSpace bytes with
    | 0x7B :: rest =>
      match skipSpace rest with
      -- An empty object has no key to look for.
      | 0x7D :: rest => some (.object [], rest)
      | rest => (readJsonMembers fuel rest).map fun (members, rest) => (.object members, rest)
    | rest => (readers.jsonOther rest).map fun (value, rest) => (.other value, rest)

def readJsonMembers : Nat → Bytes → Option (List (Path × Document V) × Bytes)
  | 0, _ => none
  | fuel + 1, bytes => do
    let (name, rest) ← readers.jsonKey (skipSpace bytes)
    match skipSpace rest with
    | 0x3A :: rest =>
      let (value, rest) ← readJson fuel rest
      match skipSpace rest with
      -- Behind a value there is another member or the end.
      | 0x2C :: rest =>
        let (members, rest) ← readJsonMembers fuel rest
        some ((name, value) :: members, rest)
      | 0x7D :: rest => some ([(name, value)], rest)
      | _ => none
    | _ => none

end

mutual

def readBeve : Nat → Bytes → Option (Document V × Bytes)
  | 0, _ => none
  | _, [] => none
  | fuel + 1, header :: rest =>
    -- The header alone tells an object from any other value.
    if header = structio.objectHeader then do
      let (count, rest) ← readers.beveSize rest
      let (members, rest) ← readBeveMembers fuel count rest
      some (.object members, rest)
    else (readers.beveOther (header :: rest)).map fun (value, rest) => (.other value, rest)

def readBeveMembers : Nat → Nat → Bytes → Option (List (Path × Document V) × Bytes)
  | _, 0, bytes => some ([], bytes)
  | 0, _ + 1, _ => none
  | fuel + 1, count + 1, bytes => do
    let (name, rest) ← readers.beveKey bytes
    let (value, rest) ← readBeve fuel rest
    let (members, rest) ← readBeveMembers fuel count rest
    some ((name, value) :: members, rest)

end

/-- Read a value in a format, and what follows it; all formats but BEVE are read as JSON. -/
def read (fuel : Nat) : BodyFormat → Bytes → Option (Document V × Bytes)
  | .beve, bytes => readers.readBeve fuel bytes
  | _, bytes => readers.readJson fuel bytes

def decode (format : BodyFormat) (bytes : Bytes) : Option (Document V) :=
  -- Every level and every member takes at least one byte.
  match readers.read (bytes.length + 1) format bytes with
  | some (document, []) => some document
  | _ => none

/-- What may follow a value; a JSON number only ends where something else begins. -/
def Follows : BodyFormat → Bytes → Prop
  | .beve, _ => True
  | _, rest => rest.head? = none ∨ rest.head? = some 0x2C ∨ rest.head? = some 0x7D

/-- These bytes are read as the document, wherever a value may stand. -/
def Encodes (format : BodyFormat) (bytes : Bytes) (document : Document V) : Prop :=
  ∀ fuel rest, bytes.length < fuel → Follows format rest →
    readers.read fuel format (bytes ++ rest) = some (document, rest)

variable {readers}

theorem Encodes.decode {format : BodyFormat} {bytes : Bytes} {document : Document V}
    (encodes : readers.Encodes format bytes document) : readers.decode format bytes = some document := by
  -- The end of the bytes may follow a value in any format.
  have follows : Follows format [] := by
    cases format with
    | beve => trivial
    | _ => exact .inl rfl
  have whole := encodes (bytes.length + 1) [] (Nat.lt_succ_self _) follows
  rw [List.append_nil] at whole
  rw [Readers.decode, whole]

theorem skipSpace_cons {byte : UInt8} (solid : isJsonSpace byte = false) (rest : Bytes) :
    skipSpace (byte :: rest) = byte :: rest := by
  rw [skipSpace, List.dropWhile_cons_of_neg (by simp [solid])]

theorem skipSpace_text (readers : Readers structio V) (name : Path) (rest : Bytes) :
    skipSpace (structio.text.json name ++ rest) = structio.text.json name ++ rest := by
  -- A key starts with its quote, which is no space.
  have quoted := readers.text_quoted name
  cases text : structio.text.json name with
  | nil =>
    rw [text] at quoted
    cases quoted
  | cons byte tail =>
    rw [text] at quoted
    cases quoted
    exact skipSpace_cons rfl _

theorem strBody_length_pos (readers : Readers structio V) (name : Path) :
    0 < (structio.strBody name).length := by
  apply List.length_pos_of_ne_nil
  intro empty
  -- Without a byte of its own it would be read in front of another key.
  have own := readers.beveKey_strBody name (structio.strBody ('x' :: name))
  have other := readers.beveKey_strBody ('x' :: name) []
  rw [List.append_nil] at other
  rw [empty, List.nil_append, other, Option.some.injEq, Prod.mk.injEq] at own
  exact absurd own.1 (List.cons_ne_self _ _)

def EncodesAll (readers : Readers structio V) (format : BodyFormat) :
    List (Path × Bytes) → List (Path × Document V) → Prop :=
  List.Forall₂ fun entry member => entry.1 = member.1 ∧ readers.Encodes format entry.2 member.2

section Json

theorem members_json_cons (structio : Structio) (entry : Path × Bytes)
    (entries : List (Path × Bytes)) :
    members structio (entry :: entries) .json = structio.text.json entry.1 ++ 0x3A :: (entry.2 ++
      if entries = [] then [] else 0x2C :: members structio entries .json) := by
  cases entries with
  | nil => simp [members]
  | cons second entries => simp [members, List.intercalate_cons_cons]

variable {name : Path} {value : Bytes} {document : Document V} {fuel : Nat}

theorem readJsonMembers_last (encodes : readers.Encodes .json value document)
    (enough : value.length < fuel) (rest : Bytes) :
    readers.readJsonMembers (fuel + 1) (structio.text.json name ++ 0x3A :: (value ++ 0x7D :: rest))
      = some ([(name, document)], rest) := by
  -- The value is followed by the brace, where its reader stops.
  have read : readers.readJson fuel (value ++ 0x7D :: rest) = some (document, 0x7D :: rest) :=
    encodes fuel (0x7D :: rest) enough (.inr (.inr rfl))
  rw [readJsonMembers, readers.skipSpace_text, readers.jsonKey_text]
  simp only [Option.bind_eq_bind, Option.bind_some,
    skipSpace_cons (show isJsonSpace 0x3A = false from rfl), read,
    skipSpace_cons (show isJsonSpace 0x7D = false from rfl)]

theorem readJsonMembers_comma (encodes : readers.Encodes .json value document)
    (enough : value.length < fuel) (rest : Bytes) :
    readers.readJsonMembers (fuel + 1) (structio.text.json name ++ 0x3A :: (value ++ 0x2C :: rest))
      = (readers.readJsonMembers fuel rest).map fun (members, rest) =>
          ((name, document) :: members, rest) := by
  -- The value is followed by a comma, where its reader stops.
  have read : readers.readJson fuel (value ++ 0x2C :: rest) = some (document, 0x2C :: rest) :=
    encodes fuel (0x2C :: rest) enough (.inr (.inl rfl))
  rw [readJsonMembers, readers.skipSpace_text, readers.jsonKey_text]
  simp only [Option.bind_eq_bind, Option.bind_some,
    skipSpace_cons (show isJsonSpace 0x3A = false from rfl), read,
    skipSpace_cons (show isJsonSpace 0x2C = false from rfl)]
  cases readers.readJsonMembers fuel rest with
  | none => rfl
  | some later => rfl

/-- The members of a JSON object, up to its end. -/
theorem readJsonMembers_members {entries : List (Path × Bytes)}
    {documents : List (Path × Document V)} (some_ : entries ≠ [])
    (encodes : readers.EncodesAll .json entries documents)
    (enough : (members structio entries .json).length < fuel) (rest : Bytes) :
    readers.readJsonMembers fuel (members structio entries .json ++ 0x7D :: rest)
      = some (documents, rest) := by
  -- By induction on the members; each is followed by a comma, and the last by the brace.
  induction encodes generalizing fuel with
  | nil => exact absurd rfl some_
  | @cons entry member entries documents first others ih =>
    obtain ⟨name, value⟩ := entry
    obtain ⟨_, document⟩ := member
    obtain ⟨rfl, first⟩ : name = _ ∧ readers.Encodes .json value document := first
    cases fuel with
    | zero => exact absurd enough (Nat.not_lt_zero _)
    | succ fuel =>
      cases entries with
      | nil =>
        cases others
        rw [members_json_cons, if_pos rfl, List.append_nil] at enough ⊢
        simp only [List.length_append, List.length_cons] at enough
        rw [List.append_assoc, List.cons_append]
        exact readJsonMembers_last first (by omega) rest
      | cons second entries =>
        rw [members_json_cons, if_neg (List.cons_ne_nil _ _)] at enough ⊢
        simp only [List.length_append, List.length_cons] at enough
        simp only [List.append_assoc, List.cons_append]
        rw [readJsonMembers_comma first (by omega), ih (List.cons_ne_nil _ _) (by omega)]
        rfl

/-- An object that has members is read member by member. -/
theorem readJson_open (name : Path) (rest : Bytes) :
    readers.readJson (fuel + 1) (0x7B :: (structio.text.json name ++ rest)) =
      (readers.readJsonMembers fuel (structio.text.json name ++ rest)).map fun (members, rest) =>
        (.object members, rest) := by
  have quoted := readers.text_quoted name
  rw [readJson, skipSpace_cons (show isJsonSpace 0x7B = false from rfl)]
  simp only [readers.skipSpace_text]
  -- The first byte is the quote of a key, and not the brace that ends an empty object.
  cases text : structio.text.json name with
  | nil =>
    rw [text] at quoted
    cases quoted
  | cons byte tail =>
    rw [text] at quoted
    cases quoted
    rfl

/-- The bytes of a JSON object are read as the object. -/
theorem encodes_object_json {entries : List (Path × Bytes)} {documents : List (Path × Document V)}
    (encodes : readers.EncodesAll .json entries documents) :
    readers.Encodes .json (objectBytes structio entries .json) (.object documents) := by
  intro fuel rest enough _
  have whole : objectBytes structio entries .json = 0x7B :: (members structio entries .json ++ [0x7D])
    := by simp [objectBytes, ResponseBody.objectOpening]
  rw [whole, List.length_cons, List.length_append] at enough
  rw [whole, List.cons_append, List.append_assoc, List.singleton_append]
  show readers.readJson fuel _ = _
  cases fuel with
  | zero => exact absurd enough (Nat.not_lt_zero _)
  | succ fuel =>
    -- Without members the closing brace follows at once, otherwise the first key.
    cases entries with
    | nil =>
      cases encodes
      rfl
    | cons entry entries =>
      have shorter : (members structio (entry :: entries) .json).length < fuel := by omega
      have read := readJsonMembers_members (List.cons_ne_nil _ _) encodes shorter rest
      rw [members_json_cons, List.append_assoc] at read ⊢
      rw [readJson_open, read]
      rfl

end Json

section Beve

theorem members_beve_cons (structio : Structio) (entry : Path × Bytes)
    (entries : List (Path × Bytes)) :
    members structio (entry :: entries) .beve =
      structio.strBody entry.1 ++ (entry.2 ++ members structio entries .beve) := by
  simp [members]

variable {fuel : Nat} {entries : List (Path × Bytes)} {documents : List (Path × Document V)}

/-- The members of a BEVE object, as many as there are. -/
theorem readBeveMembers_members (encodes : readers.EncodesAll .beve entries documents)
    (enough : (members structio entries .beve).length < fuel) (rest : Bytes) :
    readers.readBeveMembers fuel entries.length (members structio entries .beve ++ rest)
      = some (documents, rest) := by
  -- By induction on the members; nothing separates them.
  induction encodes generalizing fuel with
  | nil =>
    rw [List.length_nil, readBeveMembers]
    rfl
  | @cons entry member entries documents first others ih =>
    obtain ⟨name, value⟩ := entry
    obtain ⟨_, document⟩ := member
    obtain ⟨rfl, first⟩ : name = _ ∧ readers.Encodes .beve value document := first
    have longer := readers.strBody_length_pos name
    rw [members_beve_cons] at enough ⊢
    simp only [List.length_append] at enough
    cases fuel with
    | zero => exact absurd enough (Nat.not_lt_zero _)
    | succ fuel =>
      have read : readers.readBeve fuel (value ++ (members structio entries .beve ++ rest)) =
          some (document, members structio entries .beve ++ rest) := first fuel _ (by omega) trivial
      have later : (members structio entries .beve).length < fuel := by omega
      simp only [List.append_assoc, List.length_cons, readBeveMembers, readers.beveKey_strBody,
        Option.bind_eq_bind, Option.bind_some, read, ih later]

/-- The bytes of a BEVE object are read as the object. -/
theorem encodes_object_beve (encodes : readers.EncodesAll .beve entries documents)
    (few : entries.length < 2 ^ 62) :
    readers.Encodes .beve (objectBytes structio entries .beve) (.object documents) := by
  intro fuel rest enough _
  -- The header and the count are in front of the members.
  have whole : objectBytes structio entries .beve = structio.objectHeader ::
      (structio.size entries.length ++ members structio entries .beve) := by
    simp [objectBytes, ResponseBody.objectOpening]
  rw [whole] at enough ⊢
  simp only [List.length_cons, List.length_append] at enough
  show readers.readBeve fuel _ = _
  cases fuel with
  | zero => exact absurd enough (Nat.not_lt_zero _)
  | succ fuel =>
    simp only [List.cons_append, List.append_assoc, readBeve, if_true,
      readers.beveSize_size _ _ few, Option.bind_eq_bind, Option.bind_some,
      readBeveMembers_members encodes (show _ < fuel by omega)]

end Beve

theorem encodes_object {format : BodyFormat} {entries : List (Path × Bytes)}
    {documents : List (Path × Document V)} (encodes : readers.EncodesAll format entries documents)
    (few : format = .beve → entries.length < 2 ^ 62) :
    readers.Encodes format (objectBytes structio entries format) (.object documents) := by
  -- All formats but BEVE are written and read as JSON.
  cases format with
  | beve => exact encodes_object_beve encodes (few rfl)
  | _ => exact encodes_object_json encodes

/-- The members of an object are no shorter than any of the values. -/
theorem length_le_members (structio : Structio) {entry : Path × Bytes}
    {entries : List (Path × Bytes)} (format : BodyFormat) (member : entry ∈ entries) :
    entry.2.length ≤ (members structio entries format).length := by
  -- Within either encoding a value stands as it is, in front of the members behind it.
  have first (later : List (Path × Bytes)) :
      entry.2.length ≤ (members structio (entry :: later) format).length := by
    cases format with
    | beve =>
      rw [members_beve_cons, List.length_append, List.length_append]
      omega
    | _ =>
      show _ ≤ (members structio (entry :: later) .json).length
      rw [members_json_cons, List.length_append, List.length_cons, List.length_append]
      omega
  induction entries with
  | nil => cases member
  | cons other entries ih =>
    rcases List.mem_cons.mp member with rfl | later
    · exact first entries
    · apply (ih later).trans
      cases format with
      | beve =>
        rw [members_beve_cons, List.length_append, List.length_append]
        omega
      | _ =>
        show (members structio entries .json).length ≤ (members structio (other :: entries) .json).length
        rw [members_json_cons, if_neg (List.ne_nil_of_mem later), List.length_append,
          List.length_cons, List.length_append, List.length_cons]
        omega

theorem Encodes.length_pos {bytes : Bytes} {document : Document V}
    (encodes : readers.Encodes .beve bytes document) : 0 < bytes.length := by
  apply List.length_pos_of_ne_nil
  -- One unit of fuel reads nothing from nothing.
  intro empty
  subst empty
  have read := encodes 1 [] Nat.one_pos trivial
  cases read

theorem two_mul_length_le_members {entries : List (Path × Bytes)}
    {documents : List (Path × Document V)} (encodes : readers.EncodesAll .beve entries documents) :
    2 * entries.length ≤ (members structio entries .beve).length := by
  -- By induction on the members; neither a key nor a value is empty.
  induction encodes with
  | nil => exact Nat.zero_le _
  | @cons entry member entries documents first others ih =>
    have key := readers.strBody_length_pos entry.1
    have value := Encodes.length_pos first.2
    rw [members_beve_cons, List.length_cons, List.length_append, List.length_append]
    omega

end Readers

end Repe.Derive
