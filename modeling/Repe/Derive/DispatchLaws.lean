import Repe.Derive.Listing
import Repe.Derive.Served

/-! The two borrows of the generated code: what the shared attempt answers is what the exclusive
dispatch answers, and what it declines it has not begun. -/

namespace Repe.Derive

variable {S : Type}

/--
What a shared attempt owes to the exclusive dispatch of the same request: to decline with nothing
written and nothing called, or to leave the same body and the same result, of a dispatch that changes
nothing.
-/
def Agrees (s : S) (out : ResponseBody) (attempt : Reply (Option StructResult))
    (handled : S × Reply StructResult) : Prop :=
  match attempt.returned with
  | none => attempt.out.buf = out.buf ∧ attempt.calls = []
  | some result => handled.2.returned = result ∧ handled.2.out = attempt.out ∧ handled.1 = s

/-- An implementation whose two borrows agree, and that knows when a shared listing declines. -/
structure RepeStruct.Lawful (served : RepeStruct S) : Prop where
  agrees : ∀ s segments body out,
    Agrees s out (served.repeSharedInto s segments body out)
      (served.repeHandleInto s segments body out)
  listing : ∀ s out, served.repeListingDeclines s = false ↔
    (served.repeSharedInto s [] none out).returned.isSome

/-- What the derive assumes of a field: a nested child is lawful. -/
def FieldSpec.ChildLawful (field : FieldSpec S) : Prop :=
  match field.shape with
  | .nested _ child => child.Lawful
  | .leaf _ _ _ _ => True

section Arms

variable {A R T : Type} {structio : Structio} {s : S} {out : ResponseBody}
variable {segments tail : List Path} {body : Option RequestBody}

theorem agrees_respond (written : ResponseBody) (result : StructResult) :
    Agrees s out (Borrow.shared.respond s written result).2
      (Borrow.exclusive.respond s written result) :=
  ⟨rfl, rfl, rfl⟩

theorem agrees_serving {able : Bool} {attempt : S × Reply Borrow.shared.Return}
    {handled : S × Reply Borrow.exclusive.Return}
    (agree : able = true → Agrees s out attempt.2 handled) :
    Agrees s out (Borrow.shared.serving able s out attempt).2
      (Borrow.exclusive.serving able s out handled) := by
  cases able with
  | true => exact agree rfl
  | false => exact ⟨rfl, rfl⟩

structure AgreedAnswer (s : S) (out : ResponseBody) (attempt : S × Reply Borrow.shared.Return)
    (handled : S × Reply Borrow.exclusive.Return) : Prop where
  reads : attempt.1 = s
  answers : attempt.2.returned.isSome
  agree : Agrees s out attempt.2 handled

/-- What a function behind `&self` returns is answered under either borrow. -/
theorem agreedAnswer_callAndEmit {function : Receiver S A R} (shared : function.isRef)
    (ident path : Path) (emitOk : ResponseBody → R → ResponseBody) (args : A) :
    AgreedAnswer s out (callAndEmit .shared ident path function emitOk s args out)
      (callAndEmit .exclusive ident path function emitOk s args out) := by
  -- The function sees the same value under either borrow, and cannot change it.
  cases function with
  | mutable call => cases shared
  | ref call =>
    simp only [callAndEmit, Receiver.invoke]
    rcases call s args with value | message | _ <;> exact ⟨rfl, rfl, rfl, rfl, rfl⟩

/-- A request that is handed on to a lawful child. -/
theorem agrees_childCall {place : Place S T} {child : RepeStruct T} (lawful : child.Lawful)
    (key : Path) :
    Agrees s out (prependReply .shared key (childCall .shared place child s segments body out)).2
      (prependReply .exclusive key (childCall .exclusive place child s segments body out)) := by
  -- Moving the path of an error changes neither what was answered nor whether.
  have agree := lawful.agrees (place.get s) segments body out
  unfold Agrees at agree ⊢
  simp only [prependReply, childCall, Borrow.prepend]
  cases answered : (child.repeSharedInto (place.get s) segments body out).returned with
  | none =>
    rw [answered] at agree
    exact agree
  | some result =>
    rw [answered] at agree
    obtain ⟨same, written, unchanged⟩ := agree
    refine ⟨?_, written, ?_⟩
    · rw [same]
    · -- The child is written back as it was.
      rw [unchanged, place.set_get]

theorem agrees_fieldArm {field : FieldSpec S} (lawful : field.ChildLawful) :
    Agrees s out (fieldArm structio .shared s segments tail body out field).2
      (fieldArm structio .exclusive s segments tail body out field) := by
  -- A nested field hands the request on; a leaf is read under either borrow.
  unfold FieldSpec.ChildLawful at lawful
  unfold fieldArm
  generalize field.shape = shape at lawful ⊢
  cases shape with
  | nested place child =>
    dsimp only
    split
    · exact agrees_respond _ _
    · exact agrees_childCall lawful _
  | leaf place writer reader typed =>
    dsimp only
    split
    · exact agrees_respond _ _
    · cases body with
      | none => exact agrees_respond _ _
      | some body =>
        dsimp only
        split
        · exact agrees_respond _ _
        · -- A write is never served.
          apply agrees_serving
          rintro ⟨⟩

theorem agrees_methodArm (method : MethodSpec S) :
    Agrees s out (methodArm structio .shared s segments tail body out method).2
      (methodArm structio .exclusive s segments tail body out method) := by
  -- Behind `&self` the two arms are one and the same code.
  apply agrees_serving
  intro shared
  split
  · exact agrees_respond _ _
  · split
    · exact agrees_respond _ _
    · exact (agreedAnswer_callAndEmit shared _ _ _ _).agree

theorem agrees_accessorArm (accessor : AccessorSpec S) :
    Agrees s out (accessorArm structio .shared s segments tail body out accessor).2
      (accessorArm structio .exclusive s segments tail body out accessor) := by
  unfold accessorArm
  split
  · exact agrees_respond _ _
  · cases body with
    | none =>
      apply agrees_serving
      exact fun shared => (agreedAnswer_callAndEmit shared _ _ _ _).agree
    | some body =>
      cases accessor.set with
      | none => exact agrees_respond _ _
      | some set =>
        -- A setter is never served.
        apply agrees_serving
        rintro ⟨⟩

end Arms

section Listing

variable {structio : Structio} {s : S}

/-- Two walks that wrote the same object and left the struct as it was, or were left alike. -/
inductive Alike (s : S) : Walk S .shared → Walk S .exclusive → Prop where
  | going {attempt handled : Progress S} (same : attempt.obj = handled.obj)
    (read : attempt.self_ = s) (kept : handled.self_ = s) : Alike s (.ok attempt) (.ok handled)
  | left {attempt handled : Progress S} {result : StructResult} (same : attempt.obj = handled.obj)
    (kept : handled.self_ = s) : Alike s (.error (attempt, some result)) (.error (handled, result))

/-- Steps that go alike make walks that go alike. -/
theorem foldlM_alike {E : Type*} {entries : List E} {attempts : Progress S → E → Walk S .shared}
    {handles : Progress S → E → Walk S .exclusive}
    (steps : ∀ entry ∈ entries, ∀ attempt handled : Progress S, attempt.obj = handled.obj →
      attempt.self_ = s → handled.self_ = s → Alike s (attempts attempt entry) (handles handled entry))
    {attempt handled : Progress S} (same : attempt.obj = handled.obj) (read : attempt.self_ = s)
    (kept : handled.self_ = s) :
    Alike s (entries.foldlM attempts attempt) (entries.foldlM handles handled) := by
  -- By induction on the entries: walks that are left stay as they were left.
  induction entries generalizing attempt handled with
  | nil => exact .going same read kept
  | cons entry rest ih =>
    rw [List.forall_mem_cons] at steps
    rw [List.foldlM_cons, List.foldlM_cons]
    have first := steps.1 attempt handled same read kept
    generalize attempts attempt entry = attempted at first
    generalize handles handled entry = done at first
    cases first with
    | going same read kept => exact ih steps.2 same read kept
    | left same kept => exact .left same kept

/-- An entry whose value is answered and agreed on goes alike. -/
theorem entryWith_alike {attempt handled : Progress S} (same : attempt.obj = handled.obj)
    (read : attempt.self_ = s) (kept : handled.self_ = s) (name : Path)
    {attempts : S → ResponseBody → S × Reply Borrow.shared.Return}
    {handles : S → ResponseBody → S × Reply Borrow.exclusive.Return}
    (agreed : ∀ out, AgreedAnswer s out (attempts s out) (handles s out)) :
    Alike s (attempt.entryWith structio .shared name attempts)
      (handled.entryWith structio .exclusive name handles) := by
  simp only [Progress.entryWith, same, read, kept]
  -- The two values are written into the same body.
  generalize handled.obj.key structio name = opened
  obtain ⟨stays, answers, agree⟩ := agreed opened.valueBody
  obtain ⟨result, answered⟩ := Option.isSome_iff_exists.mp answers
  unfold Agrees at agree
  rw [answered] at agree
  obtain ⟨returned, written, unchanged⟩ := agree
  simp only [answered, returned, written, stays, unchanged]
  -- The result decides for both whether the walk goes on.
  cases result with
  | ok value => exact .going rfl rfl rfl
  | err error => exact .left rfl rfl
  | panic => exact .left rfl rfl

/-- The entry of an accessor whose getter is behind `&self`. -/
theorem accessorEntry_alike {expansion : Expansion S} (formed : expansion.WellFormed)
    (readable : expansion.published.repeListingNeedsExclusive = false) {accessor : AccessorSpec S}
    (published : accessor ∈ expansion.published.accessors) {attempt handled : Progress S}
    (same : attempt.obj = handled.obj) (read : attempt.self_ = s) (kept : handled.self_ = s) :
    Alike s (accessorEntry structio .shared expansion.published attempt accessor.endpoint)
      (accessorEntry structio .exclusive expansion.published handled accessor.endpoint) := by
  -- A listing that needs no exclusive borrow has only getters behind a shared one.
  have shared : accessor.get.function.isRef = true := by
    simpa using List.any_eq_false.mp readable accessor published
  apply entryWith_alike same read kept
  intro out
  rw [formed.repeCall_accessor _ _ published, formed.repeCall_accessor _ _ published]
  show AgreedAnswer s out (getterArm .shared s out accessor.get)
    (getterArm .exclusive s out accessor.get)
  simp only [getterArm, shared]
  exact agreedAnswer_callAndEmit shared _ _ _ _

/-- The entry of a field whose child, if it has one, does not decline. -/
theorem field_alike {published : PublishedItems S} {field : FieldSpec S}
    (lawful : field.ChildLawful)
    (answers : ∀ {T : Type} (place : Place S T) (child : RepeStruct T),
      field.shape = .nested place child → child.repeListingDeclines (place.get s) = false)
    {attempt handled : Progress S} (same : attempt.obj = handled.obj) (read : attempt.self_ = s)
    (kept : handled.self_ = s) :
    Alike s (writeEntry structio .shared published attempt (.field field))
      (writeEntry structio .exclusive published handled (.field field)) := by
  unfold FieldSpec.ChildLawful at lawful
  rw [writeEntry, writeEntry]
  generalize field.shape = shape at lawful answers ⊢
  cases shape with
  | leaf place writer reader typed =>
    refine .going ?_ read kept
    rw [Progress.entry, Progress.entry, same, read, kept]
  | nested place child =>
    apply entryWith_alike same read kept
    intro out
    refine ⟨rfl, ?_, agrees_childCall lawful _⟩
    -- The child has said that it answers.
    have answered := (lawful.listing (place.get s) out).mp (answers place child rfl)
    simpa [prependReply, childCall, Borrow.prepend] using answered

end Listing

namespace Expansion

variable {structio : Structio} {expansion : Expansion S} {s : S}

/-- A listing that is not declined reads no accessor through `&mut self`. -/
theorem WellFormed.readable (formed : expansion.WellFormed)
    (answers : expansion.repeListingDeclines s = false) :
    expansion.published.repeListingNeedsExclusive = false := by
  -- Only an impl block publishes accessors.
  cases block : expansion.decl.fromImplBlock with
  | true =>
    have term := List.any_eq_false.mp answers expansion.published.repeListingNeedsExclusive
      (by simp [listingDeclineTerms, block])
    simpa using term
  | false =>
    rw [formed.unpublished block]
    rfl

theorem child_answers (answers : expansion.repeListingDeclines s = false) {field : FieldSpec S}
    (member : field ∈ expansion.decl.servedFields) {T : Type} (place : Place S T)
    (child : RepeStruct T) (nested : field.shape = .nested place child) :
    child.repeListingDeclines (place.get s) = false := by
  -- The terms of the children are among those the decline is made of.
  have listed : child.repeListingDeclines (place.get s) ∈ expansion.listingDeclineTerms s := by
    apply List.mem_append_right
    rw [List.mem_filterMap]
    exact ⟨field, member, by rw [nested]⟩
  have term := List.any_eq_false.mp answers _ listed
  simpa using term

/-- The entry of any declaration goes alike in a listing that is not declined. -/
theorem WellFormed.write_alike (formed : expansion.WellFormed)
    (children : ∀ field ∈ expansion.decl.servedFields, field.ChildLawful)
    (answers : expansion.repeListingDeclines s = false) {declaration : Declaration S}
    (member : declaration ∈ expansion.declarations) {attempt handled : Progress S}
    (same : attempt.obj = handled.obj) (read : attempt.self_ = s) (kept : handled.self_ = s) :
    Alike s (declaration.write structio .shared expansion.published attempt)
      (declaration.write structio .exclusive expansion.published handled) := by
  -- One case for each kind of declaration; only children and accessors run code.
  cases declaration with
  | field spec =>
    have served : spec ∈ expansion.decl.servedFields := by simpa [declarations] using member
    show Alike s (writeEntry structio .shared expansion.published attempt (.field spec))
      (writeEntry structio .exclusive expansion.published handled (.field spec))
    exact field_alike (children spec served)
      (fun place child nested => child_answers answers served place child nested) same read kept
  | listed spec =>
    -- A signature is the same text whoever asks.
    refine .going ?_ read kept
    rw [Progress.entry, Progress.entry, same]
  | method spec =>
    refine .going ?_ read kept
    rw [Progress.entry, Progress.entry, same]
  | accessor spec =>
    have published : spec ∈ expansion.published.accessors := by simpa [declarations] using member
    exact accessorEntry_alike formed (formed.readable answers) published same read kept

theorem WellFormed.walk_alike (formed : expansion.WellFormed)
    (children : ∀ field ∈ expansion.decl.servedFields, field.ChildLawful)
    (answers : expansion.repeListingDeclines s = false) (out : ResponseBody) :
    Alike s (expansion.walk structio .shared s out) (expansion.walk structio .exclusive s out) := by
  rw [walk, walk, formed.foldlM_listingEntries, formed.foldlM_listingEntries]
  -- Entry by entry, from progresses that are alike.
  refine foldlM_alike ?_ rfl rfl rfl
  intro declaration listed attempt handled same read kept
  exact formed.write_alike children answers (mem_declarations_of_mem_listed listed) same read kept

/-- A shared listing that is not declined answers, and as the exclusive one does. -/
theorem WellFormed.listing_shared (formed : expansion.WellFormed)
    (children : ∀ field ∈ expansion.decl.servedFields, field.ChildLawful)
    (answers : expansion.repeListingDeclines s = false) (out : ResponseBody) :
    Agrees s out (expansion.listing structio .shared s out).2
        (expansion.listing structio .exclusive s out) ∧
      (expansion.listing structio .shared s out).2.returned.isSome := by
  -- Either both walks were left with the same result, or both close the same object.
  have alike : Alike s (expansion.walk structio .shared s out)
      (expansion.walk structio .exclusive s out) := formed.walk_alike children answers out
  rw [listing, listing]
  generalize expansion.walk structio .shared s out = attempted at alike
  generalize expansion.walk structio .exclusive s out = done at alike
  cases alike with
  | left same kept => exact ⟨⟨rfl, (congrArg out.reclaim same).symm, kept⟩, rfl⟩
  | @going attempt handled same read kept =>
    dsimp only
    rw [same]
    cases handled.obj.finish with
    | none => exact ⟨⟨rfl, rfl, kept⟩, rfl⟩
    | some closed => exact ⟨⟨rfl, rfl, kept⟩, rfl⟩

/-- Every request that the generated code gets, under both borrows. -/
theorem WellFormed.agrees_dispatch (formed : expansion.WellFormed)
    (children : ∀ field ∈ expansion.decl.servedFields, field.ChildLawful) (segments : List Path)
    (body : Option RequestBody) (out : ResponseBody) :
    Agrees s out (expansion.dispatch structio .shared s segments body out).2
      (expansion.dispatch structio .exclusive s segments body out) := by
  cases segments with
  | nil =>
    rw [dispatch, dispatch]
    cases body with
    | some body =>
      simp only [root]
      split
      · exact agrees_respond _ _
      · apply agrees_serving
        rintro ⟨⟩
    | none =>
      apply agrees_serving
      intro able
      exact (formed.listing_shared children (by simpa using able) out).1
  | cons head tail =>
    -- Both find the same declaration, or none.
    rw [formed.dispatch_cons, formed.dispatch_cons]
    cases found : expansion.declaration? head with
    | none => exact agrees_respond _ _
    | some declaration =>
      have member := List.mem_of_find?_eq_some found
      cases declaration with
      | field spec =>
        exact agrees_fieldArm (children spec (by simpa [declarations] using member))
      | listed spec => exact agrees_methodArm spec
      | method spec => exact agrees_methodArm spec
      | accessor spec => exact agrees_accessorArm spec

/-- A well-formed struct of lawful children is lawful. -/
theorem WellFormed.lawful (formed : expansion.WellFormed)
    (children : ∀ field ∈ expansion.decl.servedFields, field.ChildLawful) :
    (expansion.repeStruct structio).Lawful := by
  refine ⟨fun s segments body out => formed.agrees_dispatch children segments body out,
    fun s out => ?_⟩
  show expansion.repeListingDeclines s = false ↔
    (Borrow.shared.serving (!expansion.repeListingDeclines s) s out
      (expansion.listing structio .shared s out)).2.returned.isSome
  -- The listing answers exactly where no term of it declines.
  cases answers : expansion.repeListingDeclines s with
  | true =>
    constructor
    · rintro ⟨⟩
    · rintro ⟨⟩
  | false => exact ⟨fun _ => (formed.listing_shared children answers out).2, fun _ => rfl⟩

end Expansion

/--
The shared attempt of a derived struct, against its exclusive dispatch: for every declaration the macros
accept whose nested children are lawful, the generated implementation is.
-/
theorem shared_attempt_agrees (structio : Structio) {decl : StructDecl S} {expansion : Expansion S}
    (accepted : decl.compile = .ok expansion)
    (children : ∀ field ∈ decl.fields, field.skip = false → field.ChildLawful) :
    (expansion.repeStruct structio).Lawful := by
  obtain ⟨same, formed⟩ := StructDecl.wellFormed_of_compile accepted
  -- The children that are served are the fields that are not skipped.
  refine formed.lawful fun field served => ?_
  rw [same, StructDecl.servedFields, List.mem_filter] at served
  exact children field served.1 (by simpa using served.2)

section Instrument

def hexDigit (value : UInt8) : UInt8 := if value < 10 then 0x30 + value else 0x57 + value

/-- A byte of a JSON string; quotes, backslashes and control characters are escaped. -/
def jsonEscape (byte : UInt8) : Bytes :=
  if byte = 0x22 ∨ byte = 0x5C then [0x5C, byte]
  else if byte < 0x20 then [0x5C, 0x75, 0x30, 0x30, hexDigit (byte >>> 4), hexDigit (byte &&& 0xF)]
  else [byte]

/-- A count in BEVE, which has its width in the two lowest bits. -/
def beveCount (count : Nat) : Bytes :=
  if count < 2 ^ 6 then LittleEndian.toBytes 1 (4 * count)
  else if count < 2 ^ 14 then LittleEndian.toBytes 2 (4 * count + 1)
  else if count < 2 ^ 30 then LittleEndian.toBytes 4 (4 * count + 2)
  else if count < 2 ^ 62 then LittleEndian.toBytes 8 (4 * count + 3)
  -- No memory holds as many; a form that is not used otherwise keeps such counts apart.
  else [1, 0] ++ List.replicate count 1 ++ [0]

def beveText (text : Path) : Bytes := beveCount (Utf8.encode text).length ++ Utf8.encode text

def jsonBeve : Structio where
  text := ⟨fun text => 0x22 :: ((Utf8.encode text).flatMap jsonEscape ++ [0x22]),
    fun text => 2 :: beveText text⟩
  unit := [0]
  objectHeader := 3
  size := beveCount
  strBody := beveText
  tryNull bytes := bytes == [0]

/-- A number of one byte, in decimal digits or behind the header of a `u8`. -/
def byteWriter : ServableWrite Nat :=
  ⟨fun value => Utf8.encode (Nat.toDigits 10 value), fun value => [0x11, value.toUInt8]⟩

def lengthReader : ServableRead Nat where
  json text _ := (.ok (), text.length)
  beve bytes _ := (.ok (), bytes.length)
  invalidUtf8 offset := ⟨offset, "invalid UTF-8"⟩

def clock : StructDecl Nat where
  fields := [⟨"ticks".toList, none, false, false,
    .leaf ⟨id, fun value _ => value, fun _ => rfl⟩ byteWriter lengthReader none⟩]
  methods := []
  implBlock := none
  noReplace := false
  listingOrder := none
  reader := lengthReader

/-- A method of the instrument that takes an argument and changes it. -/
def calibrate : MethodSpec (Nat × Nat) where
  endpoint := "calibrate".toList
  methodIdent := "calibrate".toList
  arguments := .one "gain".toList "u64".toList lengthReader 0
  function := .mutable fun s gain => ((gain, s.2), .ok gain)
  payload := some byteWriter
  display := "u64".toList

/-- A value that is read through a function and written through another. -/
def gain : AccessorSpec (Nat × Nat) where
  get := ⟨"gain".toList, "gain".toList, .ref fun s _ => .ok (s.1 + s.2), byteWriter, none⟩
  set := some ⟨"gain".toList, "set_gain".toList, .mutable fun s value => ((value, s.2), .ok ()),
    lengthReader, 0⟩

/-- A struct with a leaf, a nested child, and an impl block, in an order of its own. -/
def instrument : StructDecl (Nat × Nat) where
  fields := [⟨"channel".toList, none, false, false,
      .leaf ⟨Prod.fst, fun value s => (value, s.2), fun _ => rfl⟩ byteWriter lengthReader none⟩,
    ⟨"clock".toList, none, false, false, .nested ⟨Prod.snd, fun value s => (s.1, value), fun _ => rfl⟩
      ((⟨clock, .empty⟩ : Expansion Nat).repeStruct jsonBeve)⟩]
  methods := []
  implBlock := some [.setter ⟨"gain".toList, "set_gain".toList,
      .mutable fun s value => ((value, s.2), .ok ()), lengthReader, 0⟩, .method calibrate,
    .getter gain.get]
  noReplace := true
  listingOrder := some ["gain".toList, "clock".toList, "calibrate".toList, "channel".toList]
  reader := ⟨fun _ s => (.ok (), s), fun _ s => (.ok (), s), fun offset => ⟨offset, "unread"⟩⟩

/-- An instrument and the clock in it. -/
theorem instrument_borrows_agree :
    instrument.compile = .ok ⟨instrument, ⟨[calibrate], [gain]⟩⟩ ∧
      ((⟨instrument, ⟨[calibrate], [gain]⟩⟩ : Expansion (Nat × Nat)).repeStruct jsonBeve).Lawful := by
  have accepted : instrument.compile = .ok ⟨instrument, ⟨[calibrate], [gain]⟩⟩ := rfl
  have ticking : clock.compile = .ok ⟨clock, .empty⟩ := rfl
  refine ⟨accepted, shared_attempt_agrees jsonBeve accepted ?_⟩
  -- The clock has no child of its own.
  have leaf : ((⟨clock, .empty⟩ : Expansion Nat).repeStruct jsonBeve).Lawful := by
    apply (StructDecl.wellFormed_of_compile ticking).2.lawful
    intro field member
    obtain rfl := List.mem_singleton.mp member
    trivial
  intro field member _
  rcases List.mem_cons.mp member with rfl | member
  · trivial
  · obtain rfl := List.mem_singleton.mp member
    exact leaf

end Instrument

section Trees

theorem RepeStruct.withDefaults_lawful
    (repeHandleInto : S → List Path → Option RequestBody → ResponseBody → S × Reply StructResult)
    (handle_after : ∀ front s segments body out, repeHandleInto s segments body (out.after front) =
      (repeHandleInto s segments body out).map id (Reply.after front)) :
    (withDefaults repeHandleInto handle_after).Lawful := by
  -- The defaults decline every attempt.
  refine ⟨fun s segments body out => ⟨rfl, rfl⟩, fun s out => ?_⟩
  constructor
  · rintro ⟨⟩
  · rintro ⟨⟩

/-- A child that may be absent is lawful if it is where it is present. -/
theorem RepeStruct.optional_lawful (structio : Structio) {inner : RepeStruct S}
    (lawful : inner.Lawful) : (inner.optional structio).Lawful := by
  refine ⟨fun s segments body out => ?_, fun s out => ?_⟩
  · simp only [optional]
    split
    · exact ⟨rfl, rfl, rfl⟩
    · cases s with
      | none => exact ⟨rfl, rfl, rfl⟩
      | some value =>
        have agree := lawful.agrees value segments body out
        unfold Agrees at agree ⊢
        dsimp only
        cases answered : (inner.repeSharedInto value segments body out).returned with
        | none =>
          rw [answered] at agree
          exact agree
        | some result =>
          rw [answered] at agree
          exact ⟨agree.1, agree.2.1, congrArg some agree.2.2⟩
  · cases s with
    -- The own path of an absent child is answered with a null.
    | none => exact ⟨fun _ => rfl, fun _ => rfl⟩
    | some value => exact lawful.listing value out

/-- Implementations as programs have them: by hand, for an optional child, and derived over such. -/
inductive Built (structio : Structio) : {S : Type} → RepeStruct S → Prop where
  | byHand {S : Type}
    (repeHandleInto : S → List Path → Option RequestBody → ResponseBody → S × Reply StructResult)
    (handle_after : ∀ front s segments body out, repeHandleInto s segments body (out.after front) =
      (repeHandleInto s segments body out).map id (Reply.after front)) :
    Built structio (RepeStruct.withDefaults repeHandleInto handle_after)
  | optional {S : Type} {inner : RepeStruct S} (built : Built structio inner) :
    Built structio (inner.optional structio)
  | derived {S : Type} {decl : StructDecl S} {expansion : Expansion S}
    (accepted : decl.compile = .ok expansion)
    (children : ∀ field ∈ decl.fields, ∀ {T : Type} (place : Place S T) (child : RepeStruct T),
      field.shape = .nested place child → Built structio child) :
    Built structio (expansion.repeStruct structio)

/-- Nesting to any depth keeps the two borrows together. -/
theorem lawful_of_built {structio : Structio} {S : Type} {served : RepeStruct S}
    (built : Built structio served) : served.Lawful := by
  -- By induction on how the implementation was put together.
  induction built with
  | byHand repeHandleInto handle_after =>
    exact RepeStruct.withDefaults_lawful repeHandleInto handle_after
  | optional _ lawful => exact RepeStruct.optional_lawful structio lawful
  | derived accepted _ lawful =>
    obtain ⟨same, formed⟩ := StructDecl.wellFormed_of_compile accepted
    refine formed.lawful fun field served => ?_
    have member := (List.mem_filter.mp (same ▸ served)).1
    unfold FieldSpec.ChildLawful
    split
    · next place child nested => exact lawful field member place child nested
    · trivial

end Trees

end Repe.Derive
