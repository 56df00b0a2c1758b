import Repe.Derive.MethodArgs

/-! Arguments by position and by name: whichever way a body carries them, a method is called with the
same values. -/

namespace Repe.Derive

section Walks

variable {C K : Type} (walker : Walker C K) (bytes : Bytes)

/--
The body is an array with its elements at these places.

The walk goes over them in order, and skipping leads from the start of each to its end.
-/
structure Walker.IsArray (elements : List (C × C)) : Prop where
  skips : ∀ element ∈ elements, walker.skipValue element.1 = .ok element.2
  /-- A visitor that goes over each element sees all of them. -/
  walks : ∀ {σ : Type} (visit : σ → C → Except StructioError (σ × C)) (next : σ → C × C → σ) (init : σ),
    (∀ s, ∀ element ∈ elements, visit s element.1 = .ok (next s element, element.2)) →
      walker.readSeq bytes visit init = .ok (elements.foldl next init, elements.length)

/-- The body is an object with these keys, and its values at these places. -/
structure Walker.IsObject (members : List (K × C × C)) : Prop where
  skips : ∀ member ∈ members, walker.skipValue member.2.1 = .ok member.2.2
  walks : ∀ {σ : Type} (visit : σ → K → C → Except StructioError (σ × C))
    (next : σ → K × C × C → σ) (init : σ),
    (∀ s, ∀ member ∈ members, visit s member.1 member.2.1 = .ok (next s member, member.2.2)) →
      walker.readMap bytes visit init = .ok (members.foldl next init)

variable {walker bytes}

theorem Walker.IsArray.split {elements : List (C × C)} (array : walker.IsArray bytes elements) :
    walker.readSeq bytes (walker.pushSpan bytes) [] =
      .ok (elements.map fun element => some (walker.span bytes element.1 element.2),
        elements.length) := by
  -- Every element that is visited adds its span.
  have walked := array.walks (walker.pushSpan bytes)
    (fun spans element => spans ++ [some (walker.span bytes element.1 element.2)]) []
    (fun spans element member => by rw [pushSpan, array.skips element member]; rfl)
  rw [walked, List.foldl_append_eq_append, List.nil_append, ← List.flatMap_def,
    ← List.map_eq_flatMap]

end Walks

section Names

def lastValue (members : List (Option Path × Bytes)) (name : Path) : Option Bytes :=
  (members.reverse.find? (·.1 == some name)).map Prod.snd

theorem lastValue_cons (member : Option Path × Bytes) (members : List (Option Path × Bytes))
    (name : Path) : lastValue (member :: members) name =
      (lastValue members name).or (if member.1 = some name then some member.2 else none) := by
  rw [lastValue, lastValue, List.reverse_cons, List.find?_append, List.find?_singleton]
  simp only [beq_iff_eq]
  -- A later member of the name is found first.
  cases members.reverse.find? (·.1 == some name) with
  | none => split <;> rfl
  | some later => rfl

def fill (names : List Path) (spans : List (Option Bytes)) (member : Option Path × Bytes) :
    List (Option Bytes) :=
  match member.1.bind (slotOf names) with
  | some index => spans.set index (some member.2)
  | none => spans

variable {names : List Path}

/-- The slot of a name is changed, and no other. -/
theorem fill_map (distinct : names.Nodup) (slots : Path → Option Bytes) (key : Path) (value : Bytes) :
    fill names (names.map slots) (some key, value) =
      names.map (Function.update slots key (some value)) := by
  -- By induction on the names, up to the first that is the key.
  rw [fill, Option.bind_some]
  induction names with
  | nil => rfl
  | cons name names ih =>
    rw [List.nodup_cons] at distinct
    by_cases same : name = key
    · -- No name behind it is the key again.
      subst same
      have others : names.map (Function.update slots name (some value)) = names.map slots := by
        apply List.map_congr_left
        intro other member
        apply Function.update_of_ne
        rintro rfl
        exact distinct.1 member
      simp [slotOf, List.findIdx?_cons, others]
    · have ih := ih distinct.2
      rw [slotOf] at ih
      simp only [slotOf, List.findIdx?_cons, beq_iff_eq, same, List.map_cons,
        Function.update_of_ne same, ← ih, if_false]
      cases names.findIdx? (· == key) with
      | none => rfl
      | some index => rfl

/-- Filling the slots with all members leaves the last of each name. -/
theorem foldl_fill (distinct : names.Nodup) (members : List (Option Path × Bytes))
    (slots : Path → Option Bytes) :
    members.foldl (fill names) (names.map slots) =
      names.map fun name => (lastValue members name).or (slots name) := by
  -- By induction on the members, for whatever the slots hold before them.
  induction members generalizing slots with
  | nil => rfl
  | cons member members ih =>
    obtain ⟨key, value⟩ := member
    rw [List.foldl_cons]
    simp only [lastValue_cons]
    cases key with
    | none =>
      -- A key that is no text claims no slot.
      rw [fill, Option.bind_none, ih]
      simp
    | some key =>
      rw [fill_map distinct, ih]
      apply List.map_congr_left
      intro name _
      by_cases same : key = name
      · subst same
        simp only [Function.update_self, if_true]
        cases lastValue members key <;> rfl
      · rw [Function.update_of_ne (Ne.symm same)]
        simp [same]

variable {C K : Type} {walker : Walker C K} {bytes : Bytes}

theorem Walker.IsObject.split (distinct : names.Nodup) {slot : K → Option Nat}
    {text : K → Option Path} (slots : ∀ key, slot key = (text key).bind (slotOf names))
    {members : List (K × C × C)} (object : walker.IsObject bytes members) :
    walker.readMap bytes (walker.setSpan bytes slot) (List.replicate names.length none) =
      .ok (names.map (lastValue (members.map fun member =>
        (text member.1, walker.span bytes member.2.1 member.2.2)))) := by
  have walked := object.walks (walker.setSpan bytes slot)
    (fun spans member => fill names spans
      (text member.1, walker.span bytes member.2.1 member.2.2))
    (List.replicate names.length none)
    (fun spans member inside => by rw [setSpan, object.skips member inside, slots]; rfl)
  -- All slots are empty at first.
  have start : List.replicate names.length none = names.map fun _ => (none : Option Bytes) :=
    List.map_const'.symm
  rw [walked, start, ← List.foldl_map (g := fill names), foldl_fill distinct]
  simp only [Option.or_none]

end Names

section Bodies

variable {J B : Type} (structio : Splitting J B)

def Key.text : Key → Option Path
  | .str key => some key
  | .number => none

/-- A well-formed array, with the documents of its elements. -/
inductive Positional (body : RequestBody) : List Bytes → Prop where
  | json {elements : List (J × J)} (format : body.format ≠ .beve)
    (valid : (Utf8.fromUtf8 body.bytes).isSome) (opens : (structio.skipWs body.bytes).head? = some 0x5B)
    (array : structio.json.IsArray body.bytes elements) :
    Positional body (elements.map fun element => structio.json.span body.bytes element.1 element.2)
  | generic {elements : List (B × B)} (format : body.format = .beve)
    (header : body.bytes.head?.map structio.headerTy = some .genericArray)
    (array : structio.beve.IsArray body.bytes elements) :
    Positional body (elements.map fun element => structio.beve.span body.bytes element.1 element.2)
  /-- Elements of one type, whose headers the reader supplies. -/
  | typed {documents : List Bytes} (format : body.format = .beve)
    (header : body.bytes.head?.map structio.headerTy = some .typedArray ∨
      body.bytes.head?.map structio.headerTy = some .extension)
    (walked : structio.beve.readSeq body.bytes
      (fun walked start => (structio.beve.skipValue start).map (walked, ·)) () =
        .ok ((), documents.length))
    (handed : structio.documents body.bytes = documents.map .ok) : Positional body documents

/-- A well-formed object, with its keys as far as they are texts and the documents of its values. -/
inductive ByName (body : RequestBody) : List (Option Path × Bytes) → Prop where
  | json {members : List (Path × J × J)} (format : body.format ≠ .beve)
    (valid : (Utf8.fromUtf8 body.bytes).isSome) (opens : (structio.skipWs body.bytes).head? = some 0x7B)
    (object : structio.json.IsObject body.bytes members) :
    ByName body (members.map fun member =>
      (some member.1, structio.json.span body.bytes member.2.1 member.2.2))
  | beve {members : List (Key × B × B)} (format : body.format = .beve)
    (header : body.bytes.head?.map structio.headerTy = some .object)
    (object : structio.beve.IsObject body.bytes members) :
    ByName body (members.map fun member =>
      (member.1.text, structio.beve.span body.bytes member.2.1 member.2.2))

def Param.argument (param : Param) (body : RequestBody) : Option param.T :=
  (param.reader.read param.default [] body).toOption

/-- The values of parameters, each read from a body of its own. -/
def arguments : (params : List Param) → List RequestBody → Option (Decoded params)
  | [], _ => some ()
  | _ :: _, [] => none
  | param :: params, body :: bodies =>
    (param.argument body).bind fun value => (arguments params bodies).map (value, ·)

variable {structio} {path : Path} {params : List Param} {body : RequestBody}

theorem Param.read_toOption (param : Param) (path : Path) (body : RequestBody) :
    (param.reader.read param.default path body).toOption = param.argument body := by
  rw [argument, ServableRead.read, ServableRead.read]
  rcases param.reader.readRaw body param.default with ⟨_ | _, _⟩ <;> rfl

theorem bindArgs_cons (param : Param) (params : List Param) (args : MethodArgs) :
    (bindArgs structio (param :: params) args).toOption =
      (args.nextArg structio param).1.toOption.bind fun value =>
        (bindArgs structio params (args.nextArg structio param).2).toOption.map (value, ·) := by
  rw [bindArgs]
  generalize args.nextArg structio param = next
  -- An argument that fails ends the binding.
  obtain ⟨_ | value, args⟩ := next
  · rfl
  · show ((bindArgs structio params args).map (value, ·)).toOption = _
    cases bindArgs structio params args with
    | error error => rfl
    | ok values => rfl

/-- Arguments with a slot each are read from their slots. -/
theorem bindArgs_spans (args : MethodArgs) {spans : List (Option Bytes)}
    (source : args.source = .spans spans) (enough : args.index + params.length ≤ spans.length) :
    (bindArgs structio params args).toOption =
      arguments params ((spans.drop args.index).map (MethodArgs.slotBody args.format)) := by
  -- By induction on the parameters; every one takes the slot at the index and moves it on.
  induction params generalizing args with
  | nil => rfl
  | cons param params ih =>
    rw [List.length_cons] at enough
    have inside : args.index < spans.length := by omega
    have later := ih { args with index := args.index + 1 } source (by
      show args.index + 1 + params.length ≤ spans.length
      omega)
    have next : args.nextArg structio param = (param.reader.read param.default
        (args.path ++ '(' :: args.names[args.index]?.getD "?".toList ++ [')'])
        (MethodArgs.slotBody args.format spans[args.index]), { args with index := args.index + 1 }) := by
      rw [MethodArgs.nextArg, source]
      simp only [List.getElem?_eq_getElem inside, Option.join_some]
    rw [bindArgs_cons, next, later, Param.read_toOption, List.drop_eq_getElem_cons inside]
    rfl

theorem Param.argument_beve (param : Param) (document : Bytes) :
    param.argument ⟨document, .beve⟩ =
      match param.nextValue document param.default with
      | (.ok (), value) => some value
      | (.error _, _) => none := by
  have same := param.nextValue_ok document param.default
  rw [argument, ServableRead.read, ServableRead.readRaw]
  rcases taken : param.nextValue document param.default with ⟨_ | _, value⟩
  · rcases read : param.reader.beve document param.default with ⟨_ | _, other⟩
    · rfl
    · -- A document that is read would have been read in its array.
      rw [(same other).mpr read] at taken
      cases taken
  · rw [(same value).mp taken]
    rfl

/-- Arguments from a typed array are read from the documents of its elements. -/
theorem bindArgs_cursor (args : MethodArgs) {documents : List Bytes}
    (source : args.source = .cursor (documents.map .ok)) (enough : params.length ≤ documents.length) :
    (bindArgs structio params args).toOption =
      arguments params (documents.map fun document => ⟨document, .beve⟩) := by
  -- By induction on the parameters; every one takes the next document.
  induction params generalizing args documents with
  | nil => rfl
  | cons param params ih =>
    cases documents with
    | nil => exact absurd enough (Nat.not_succ_le_zero _)
    | cons document documents =>
      have later := ih { args with index := args.index + 1, source := .cursor (documents.map .ok) } rfl
        (Nat.le_of_succ_le_succ enough)
      have value : (args.nextArg structio param).1.toOption = param.argument ⟨document, .beve⟩ := by
        rw [MethodArgs.nextArg, source, Param.argument_beve]
        simp only [List.map_cons, Except.bind]
        rcases param.nextValue document param.default with ⟨_ | _, value⟩ <;> rfl
      have moved : (args.nextArg structio param).2 =
          { args with index := args.index + 1, source := .cursor (documents.map .ok) } := by
        rw [MethodArgs.nextArg, source]
        rfl
      rw [bindArgs_cons, value, moved, later]
      rfl

theorem MethodArgs.new_beve (path : Path) (names : List Path) (beve : body.format = .beve) :
    MethodArgs.new structio path names body = (splitBeve structio path names body.bytes).map
      fun source => ⟨path, names, body.format, source, 0⟩ := by
  rw [MethodArgs.new, beve]

theorem MethodArgs.new_text (path : Path) (names : List Path) (text : body.format ≠ .beve) :
    MethodArgs.new structio path names body = (splitJson structio path names body.bytes).map
      fun spans => ⟨path, names, body.format, .spans spans, 0⟩ := by
  obtain ⟨bytes, format⟩ := body
  rw [MethodArgs.new]
  -- Every format but BEVE is split as JSON.
  cases format with
  | beve => exact absurd rfl text
  | _ => cases splitJson structio path names bytes <;> rfl

/-- A well-formed array is split once its count is right, every element in its place. -/
theorem Positional.new {documents : List Bytes} (positional : Positional structio body documents)
    (path : Path) (names : List Path) :
    ∃ source, MethodArgs.new structio path names body =
        (checkArity path names documents.length).map
          (fun _ => ⟨path, names, body.format, source, 0⟩) ∧
      (source = .spans (documents.map some) ∨
        body.format = .beve ∧ source = .cursor (documents.map .ok)) := by
  cases positional with
  | @json elements format valid opens array =>
    refine ⟨_, ?_, .inl rfl⟩
    obtain ⟨text, valid⟩ := Option.isSome_iff_exists.mp valid
    rw [MethodArgs.new_text path names format, splitJson, valid]
    simp only [opens, array.split, Except.mapError, bind, Except.bind, List.length_map, List.map_map]
    cases checkArity path names elements.length <;> rfl
  | @generic elements format header array =>
    refine ⟨_, ?_, .inl rfl⟩
    rw [MethodArgs.new_beve path names format, splitBeve, header]
    simp only [array.split, Except.mapError, bind, Except.bind, List.length_map, List.map_map]
    cases checkArity path names elements.length <;> rfl
  | typed format header walked handed =>
    refine ⟨_, ?_, .inr ⟨format, rfl⟩⟩
    rw [MethodArgs.new_beve path names format, splitBeve, ← handed]
    -- The elements are counted before any of them is handed out.
    rcases header with header | header
    · simp only [header, walked, Except.mapError, bind, Except.bind]
      cases checkArity path names documents.length <;> rfl
    · simp only [header, walked, Except.mapError, bind, Except.bind]
      cases checkArity path names documents.length <;> rfl

/-- A well-formed object is split into the last values of the names. -/
theorem ByName.new {members : List (Option Path × Bytes)} (named : ByName structio body members)
    (path : Path) {names : List Path} (distinct : names.Nodup) :
    MethodArgs.new structio path names body =
      .ok ⟨path, names, body.format, .spans (names.map (lastValue members)), 0⟩ := by
  cases named with
  | json format valid opens object =>
    obtain ⟨text, valid⟩ := Option.isSome_iff_exists.mp valid
    rw [MethodArgs.new_text path names format, splitJson, valid]
    have slots : ∀ key, slotOf names key = (some key).bind (slotOf names) := fun _ => rfl
    simp only [opens, Walker.IsObject.split distinct slots object]
    rfl
  | beve format header object =>
    rw [MethodArgs.new_beve path names format, splitBeve, header]
    -- A key that is no text fills no slot.
    have slots : ∀ key, beveSlot names key = (Key.text key).bind (slotOf names) := by
      intro key
      cases key <;> rfl
    simp only [Walker.IsObject.split distinct slots object]
    rfl

/-- Arguments by position are read from the elements. -/
theorem Positional.decode {documents : List Bytes} (positional : Positional structio body documents)
    (path : Path) (count : documents.length = params.length) :
    (decodeSeveral structio params path body).toOption =
      arguments params (documents.map fun document => ⟨document, body.format⟩) := by
  obtain ⟨source, split, held⟩ := positional.new path (params.map Param.name)
  -- There are as many documents as parameters, so the arity passes.
  have counted : checkArity path (params.map Param.name) documents.length = .ok () := by
    rw [checkArity, if_pos (by rw [count, List.length_map])]
  rw [decodeSeveral, split, counted]
  -- The elements are spans of the body, or documents of their own.
  obtain rfl | ⟨format, rfl⟩ := held
  · show (bindArgs structio params _).toOption = _
    rw [bindArgs_spans _ rfl (by simp [count]), List.drop_zero, List.map_map]
    rfl
  · rw [format]
    exact bindArgs_cursor _ rfl count.ge

/-- Arguments by name are read from the last values of the names, and `null` where there is none. -/
theorem ByName.decode {members : List (Option Path × Bytes)} (named : ByName structio body members)
    (path : Path) (distinct : (params.map Param.name).Nodup) :
    (decodeSeveral structio params path body).toOption =
      arguments params (params.map fun param =>
        MethodArgs.slotBody body.format (lastValue members param.name)) := by
  rw [decodeSeveral, named.new path distinct]
  show (bindArgs structio params _).toOption = _
  -- The spans of the names are in the order of the parameters.
  rw [bindArgs_spans _ rfl (by simp), List.drop_zero, List.map_map, List.map_map]
  rfl

/-- Bodies that are read alike, one by one, give the same arguments. -/
theorem arguments_congr {params : List Param} {first second : List RequestBody}
    (lengths : first.length = second.length)
    (alike : ∀ (index : Nat) (param : Param), params[index]? = some param →
      ∀ one, first[index]? = some one → ∀ other, second[index]? = some other →
        param.argument one = param.argument other) :
    arguments params first = arguments params second := by
  -- Parameter by parameter, with the two lists of bodies taken apart together.
  induction params generalizing first second with
  | nil => rfl
  | cons param params ih =>
    cases first with
    | nil =>
      cases List.length_eq_zero_iff.mp lengths.symm
      rfl
    | cons one first =>
      cases second with
      | nil => cases lengths
      | cons other second =>
        have here := alike 0 param rfl one rfl other rfl
        have later := ih (Nat.succ.inj lengths) fun index => alike (index + 1)
        rw [arguments, arguments, here, later]

end Bodies

theorem decodeMethodArgs_several {S R J B : Type} (structio : Splitting J B) (params : List Param)
    (endpoint ident display : Path) (function : Receiver S (Decoded params) R)
    (payload : Option (ServableWrite R)) (segments : List Path) (body : RequestBody) :
    decodeMethodArgs segments (some body)
        ⟨endpoint, ident, severalArguments structio params, function, payload, display⟩ =
      decodeSeveral structio params (endpointPath endpoint) body := rfl

/--
The arguments of a method by position and by name.

An array is refused for its count before anything is read, and exactly where the count is not that of
the parameters; otherwise its elements are the arguments. Of an object the last value of each name is,
and `null` in JSON where there is none. So a method is called with the same values whichever way they
were passed, in whatever order and beside whatever other keys.
-/
theorem arguments_agree_by_position_and_name {J B : Type} (structio : Splitting J B)
    (params : List Param) (distinct : (params.map Param.name).Nodup) (path : Path) :
    (∀ body documents, Positional structio body documents →
      (MethodArgs.new structio path (params.map Param.name) body =
          .error (arityError path (params.map Param.name) documents.length) ↔
        documents.length ≠ params.length) ∧
      (documents.length ≠ params.length → decodeSeveral structio params path body =
        .error (arityError path (params.map Param.name) documents.length)) ∧
      (documents.length = params.length → (decodeSeveral structio params path body).toOption =
        arguments params (documents.map fun document => ⟨document, body.format⟩))) ∧
    (∀ body members, ByName structio body members →
      (decodeSeveral structio params path body).toOption = arguments params (params.map fun param =>
        MethodArgs.slotBody body.format (lastValue members param.name))) ∧
    (∀ array documents object members, Positional structio array documents →
      ByName structio object members → documents.length = params.length →
      (∀ (index : Nat) (param : Param) (document : Bytes), params[index]? = some param →
        documents[index]? = some document → ∃ value, lastValue members param.name = some value ∧
          param.argument ⟨document, array.format⟩ = param.argument ⟨value, object.format⟩) →
      (decodeSeveral structio params path array).toOption =
        (decodeSeveral structio params path object).toOption) := by
  refine ⟨fun body documents positional => ?_, fun body members named => named.decode path distinct,
    fun array documents object members positional named count alike => ?_⟩
  · obtain ⟨source, split, _⟩ := positional.new path (params.map Param.name)
    refine ⟨?_, fun differs => ?_, positional.decode path⟩
    · rw [split, checkArity, List.length_map]
      by_cases count : documents.length = params.length
      · simp [count, Except.map]
      · simp [count, Except.map]
    · rw [decodeSeveral, split, checkArity, List.length_map, if_neg differs]
      rfl
  · rw [positional.decode path count, named.decode path distinct]
    apply arguments_congr (by rw [List.length_map, List.length_map, count])
    intro index param place one one_place other other_place
    rw [List.getElem?_map, Option.map_eq_some_iff] at one_place other_place
    obtain ⟨document, document_place, rfl⟩ := one_place
    obtain ⟨same, same_place, rfl⟩ := other_place
    -- The slot at an index is that of the parameter at the index.
    rw [place, Option.some.injEq] at same_place
    subst same_place
    obtain ⟨value, last, reads⟩ := alike index param document place document_place
    rw [last]
    exact reads

section Sample

/-- A walk over values of one byte, at places that are known. -/
def knownPlaces {K : Type} (elements : List Nat) (members : List (K × Nat)) : Walker Nat K where
  position := id
  skipValue start := .ok (start + 1)
  readSeq _ visit init :=
    (elements.foldlM (fun s start => (visit s start).map Prod.fst) init).map (·, elements.length)
  readMap _ visit init :=
    members.foldlM (fun s member => (visit s member.1 member.2).map Prod.fst) init

theorem foldlM_ok {ε σ α : Type} {step : σ → α → Except ε σ} (next : σ → α → σ) {items : List α}
    (steps : ∀ s, ∀ item ∈ items, step s item = .ok (next s item)) (init : σ) :
    items.foldlM step init = .ok (items.foldl next init) := by
  -- The first step succeeds, and the others from where it ends.
  induction items generalizing init with
  | nil => rfl
  | cons item items ih =>
    rw [List.foldlM_cons, steps init item List.mem_cons_self]
    exact ih (fun s later inside => steps s later (List.mem_cons_of_mem _ inside)) (next init item)

theorem knownPlaces_isArray {K : Type} (elements : List Nat) (members : List (K × Nat))
    (bytes : Bytes) :
    (knownPlaces elements members).IsArray bytes (elements.map fun start => (start, start + 1)) := by
  refine ⟨fun element inside => ?_, fun visit next init visits => ?_⟩
  · obtain ⟨start, _, rfl⟩ := List.mem_map.mp inside
    rfl
  · -- Each visit returns the state that the fold has next.
    have steps : ∀ s, ∀ start ∈ elements,
        (visit s start).map Prod.fst = .ok (next s (start, start + 1)) := by
      intro s start inside
      rw [visits s (start, start + 1) (List.mem_map_of_mem inside)]
      rfl
    rw [List.foldl_map, List.length_map]
    exact congrArg (Except.map (·, elements.length)) (foldlM_ok _ steps init)

theorem knownPlaces_isObject {K : Type} (elements : List Nat) (members : List (K × Nat))
    (bytes : Bytes) :
    (knownPlaces elements members).IsObject bytes
      (members.map fun member => (member.1, member.2, member.2 + 1)) := by
  refine ⟨fun element inside => ?_, fun visit next init visits => ?_⟩
  · obtain ⟨start, _, rfl⟩ := List.mem_map.mp inside
    rfl
  · -- Each visit returns the state that the fold has next.
    have steps : ∀ s, ∀ member ∈ members, (visit s member.1 member.2).map Prod.fst =
        .ok (next s (member.1, member.2, member.2 + 1)) := by
      intro s member inside
      rw [visits s (member.1, member.2, member.2 + 1) (List.mem_map_of_mem inside)]
      rfl
    rw [List.foldl_map]
    exact foldlM_ok _ steps init

/-- A parameter of one byte, read from one digit or from behind the header of a `u8`. -/
def byteParam (name : String) : Param where
  name := name.toList
  type := "u8".toList
  T := Nat
  reader := ⟨fun text _ => (.ok (), (text.headD '0').toNat - 48),
    fun bytes _ => (.ok (), (bytes.getD 1 0).toNat), fun offset => ⟨offset, "invalid UTF-8"⟩⟩
  default := 0
  nextValue document _ := (.ok (), (document.getD 1 0).toNat)
  nextValue_ok document value read := by simp

/-- Two arguments by position, the same two by name around another key, and two in an array of `u8`. -/
def twoCalls : Splitting Nat Nat where
  json := knownPlaces [1, 3] [("b".toList, 5), ("x".toList, 11), ("a".toList, 17)]
  beve := knownPlaces [2, 3] []
  skipWs := id
  -- The kind of a value is in the three lowest bits of its header.
  headerTy header := if header &&& 7 = 4 then .typedArray else .other
  -- Behind the header and the count of the array each element is one byte.
  documents bytes := (bytes.drop 2).map fun byte => .ok [0x11, byte]
  invalidUtf8 offset := ⟨offset, "invalid UTF-8"⟩
  unexpectedEnd := ⟨0, "unexpected end"⟩

/--
`[7,8]` and the object with `b`, `x` and `a` call a method alike, and a typed array of two calls it
with the documents of both.
-/
theorem two_calls_agree :
    (decodeSeveral twoCalls [byteParam "a", byteParam "b"] "/set".toList
        ⟨[0x14, 8, 7, 8], .beve⟩).toOption =
      arguments [byteParam "a", byteParam "b"] [⟨[0x11, 7], .beve⟩, ⟨[0x11, 8], .beve⟩] ∧
    (decodeSeveral twoCalls [byteParam "a", byteParam "b"] "/set".toList
        ⟨Utf8.encode "[7,8]".toList, .json⟩).toOption =
      (decodeSeveral twoCalls [byteParam "a", byteParam "b"] "/set".toList
        ⟨Utf8.encode "\x7b\"b\":8,\"x\":9,\"a\":7\x7d".toList, .json⟩).toOption := by
  -- Both bodies are walked at the places of their elements and members.
  have positional : Positional twoCalls ⟨Utf8.encode "[7,8]".toList, .json⟩ _ :=
    .json (by decide) (by decide) (by decide) (knownPlaces_isArray _ _ _)
  have named : ByName twoCalls ⟨Utf8.encode "\x7b\"b\":8,\"x\":9,\"a\":7\x7d".toList, .json⟩ _ :=
    .json (by decide) (by decide) (by decide) (knownPlaces_isObject _ _ _)
  have typed : Positional twoCalls ⟨[0x14, 8, 7, 8], .beve⟩ [[0x11, 7], [0x11, 8]] :=
    .typed rfl (.inl rfl) rfl rfl
  have agree := arguments_agree_by_position_and_name twoCalls [byteParam "a", byteParam "b"]
    (by decide) "/set".toList
  refine ⟨(agree.1 _ _ typed).2.2 rfl, agree.2.2 _ _ _ _ positional named rfl ?_⟩
  intro index param document place document_place
  -- The two arguments are compared one by one.
  rcases index with _ | _ | index
  · cases place
    cases document_place
    exact ⟨_, rfl, rfl⟩
  · cases place
    cases document_place
    exact ⟨_, rfl, rfl⟩
  · cases place

end Sample

end Repe.Derive
