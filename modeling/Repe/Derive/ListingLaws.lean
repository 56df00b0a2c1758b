import Repe.Derive.DispatchLaws
import Repe.Server.Segments

/-! What a whole-object listing writes: every declaration once, under the key that also dispatches to
it, in the declared order and number. -/

namespace Repe.Derive

section Members

variable (structio : Structio)

/-- The members of an object, each a key and the bytes of its value. -/
def members (entries : List (Path × Bytes)) : BodyFormat → Bytes
  | .beve => entries.flatMap fun entry => structio.strBody entry.1 ++ entry.2
  | _ => [0x2C].intercalate (entries.map fun entry => structio.text.json entry.1 ++ 0x3A :: entry.2)

def objectBytes (entries : List (Path × Bytes)) (format : BodyFormat) : Bytes :=
  ResponseBody.objectOpening structio entries.length format ++ members structio entries format ++
    (if format = .beve then [] else [0x7D])

/-- One more part behind the others, with the separator in between. -/
theorem intercalate_concat {parts : List Bytes} (some_ : parts ≠ []) (separator last : Bytes) :
    separator.intercalate (parts ++ [last]) = separator.intercalate parts ++ separator ++ last := by
  -- By induction on the parts; the separator stands behind every part but the last.
  induction parts with
  | nil => exact absurd rfl some_
  | cons first rest ih =>
    cases rest with
    | nil => simp [List.intercalate_cons_cons]
    | cons second rest =>
      rw [List.cons_append, List.cons_append, List.intercalate_cons_cons, ← List.cons_append,
        ih (List.cons_ne_nil _ _), List.intercalate_cons_cons]
      simp only [List.append_assoc]

/-- The object holds these members so far, of the count it declared. -/
structure ObjectBody.Holds (out : ResponseBody) (count : Nat) (entries : List (Path × Bytes))
    (obj : ObjectBody) : Prop where
  format : obj.format = out.objectFormat
  declared : obj.declared = count
  written : obj.written = entries.length
  first : obj.format ≠ .beve → obj.first = entries.isEmpty
  buf : obj.buf = out.buf ++ ResponseBody.objectOpening structio count obj.format ++
    members structio entries obj.format

variable {structio} {out : ResponseBody} {count : Nat} {entries : List (Path × Bytes)}
  {obj : ObjectBody}

theorem ResponseBody.holds_object (out : ResponseBody) (count : Nat) :
    (out.object structio count).Holds structio out count [] := by
  refine ⟨rfl, rfl, rfl, fun _ => rfl, ?_⟩
  -- No members have no bytes in either format.
  have empty : members structio [] (out.object structio count).format = [] := by
    cases (out.object structio count).format <;> rfl
  rw [empty, List.append_nil]
  rfl

/-- A key and the bytes of its value are one more member. -/
theorem ObjectBody.Holds.key (holds : obj.Holds structio out count entries) (name : Path)
    (value : Bytes) :
    ({ obj.key structio name with buf := (obj.key structio name).buf ++ value } : ObjectBody).Holds
      structio out count (entries ++ [(name, value)]) := by
  have appended : members structio (entries ++ [(name, value)]) obj.format =
      members structio entries obj.format ++ obj.keyBytes structio name ++ value := by
    have first := holds.first
    unfold members keyBytes
    generalize obj.format = format at first
    cases format with
    | beve => simp
    | _ =>
      -- All formats but BEVE are written as JSON.
      simp only [ne_eq, reduceCtorEq, not_false_eq_true, forall_true_left] at first
      simp only [first, List.map_append, List.map_cons, List.map_nil]
      cases entries with
      | nil => simp
      | cons entry rest =>
        rw [intercalate_concat (by simp)]
        simp
  refine ⟨holds.format, holds.declared, ?_, ?_, ?_⟩
  · simp [ObjectBody.key, holds.written]
  · intro text
    have text : obj.format ≠ .beve := text
    simp [ObjectBody.key, text]
  · show obj.buf ++ obj.keyBytes structio name ++ value = _ ++ members structio _ obj.format
    rw [appended, holds.buf]
    simp only [List.append_assoc]
    rfl

/-- An object that holds as many members as it declared closes to the whole object. -/
theorem ObjectBody.Holds.finish (holds : obj.Holds structio out entries.length entries) :
    ∃ closed, obj.finish = some closed ∧
      out.reclaim closed = { out with
        buf := out.buf ++ objectBytes structio entries out.objectFormat
        format := out.objectFormat } := by
  -- The counts agree, so only the closing brace is missing.
  rw [ObjectBody.finish, if_pos (holds.written.trans holds.declared.symm)]
  refine ⟨_, rfl, ?_⟩
  simp only [ResponseBody.reclaim, holds.buf, holds.format, objectBytes, List.append_assoc]
  split <;> simp

end Members

section Values

variable {S : Type} (structio : Structio) (borrow : Borrow) (format : BodyFormat)

def ResponseBody.fresh : ResponseBody :=
  { buf := [], requested := format, format := format, nested := true }

/--
The bytes a declaration is listed by, in the struct as it is then, and the struct after.

Fields and accessors show their value, methods their signature.
-/
inductive Shows : Declaration S → S → Bytes → S → Prop where
  | leaf {field : FieldSpec S} {T : Type} {place : Place S T} {writer : ServableWrite T}
    {reader : ServableRead T} {typed : Option (ServableWrite T)}
    (shape : field.shape = .leaf place writer reader typed) (s : S) :
    Shows (.field field) s (writer.encode format (place.get s)) s
  /-- What the child writes for its own whole object. -/
  | nested {field : FieldSpec S} {T : Type} {place : Place S T} {child : RepeStruct T}
    (shape : field.shape = .nested place child) {s after : S} {reply : Reply borrow.Return}
    (listed : childCall borrow place child s [] none (.fresh format) = (after, reply))
    (ok : borrow.produced reply.returned = true) : Shows (.field field) s reply.out.buf after
  | listed (method : MethodSpec S) (s : S) :
    Shows (.listed method) s (structio.text.encode format method.signatureDisplay) s
  | method (method : MethodSpec S) (s : S) :
    Shows (.method method) s (structio.text.encode format method.signatureDisplay) s
  | accessor {accessor : AccessorSpec S} {s after : S} {value : accessor.get.R}
    (got : accessor.get.function.invoke s () = (after, .ok value)) :
    Shows (.accessor accessor) s
      ((accessor.get.typed.getD accessor.get.writer).encode format value) after

inductive ShowsAll : List (Declaration S) → S → List (Path × Bytes) → S → Prop where
  | nil (s : S) : ShowsAll [] s [] s
  | cons {declaration : Declaration S} {rest : List (Declaration S)} {s between after : S}
    {value : Bytes} {entries : List (Path × Bytes)}
    (first : Shows structio borrow format declaration s value between)
    (later : ShowsAll rest between entries after) :
    ShowsAll (declaration :: rest) s ((declaration.endpoint, value) :: entries) after

variable {structio borrow format}

theorem ShowsAll.keys {declarations : List (Declaration S)} {s after : S}
    {entries : List (Path × Bytes)}
    (shown : ShowsAll structio borrow format declarations s entries after) :
    entries.map Prod.fst = declarations.map Declaration.endpoint := by
  induction shown with
  | nil s => rfl
  | cons first later ih => rw [List.map_cons, List.map_cons, ih]

theorem ObjectBody.valueBody_eq (obj : ObjectBody) :
    obj.valueBody = (ResponseBody.fresh obj.format).after obj.buf := by
  rw [ResponseBody.after, ResponseBody.fresh, List.append_nil]
  rfl

theorem ResponseBody.write_fresh {T : Type} (writer : ServableWrite T) (value : T) :
    ((fresh format).write writer value).buf = writer.encode format value := by
  by_cases beve : format = .beve
  · simp [write, fresh, ServableWrite.encode, beve]
  · simp [write, fresh, ServableWrite.encode, beve]

theorem emitLeaf_fresh {T : Type} (writer : ServableWrite T) (typed : Option (ServableWrite T))
    (value : T) :
    (emitLeaf writer typed (.fresh format) value).buf = (typed.getD writer).encode format value := by
  cases typed with
  | none => exact ResponseBody.write_fresh writer value
  | some slice => exact ResponseBody.write_fresh slice value

theorem ObjectBody.Holds.entry {T : Type} {out : ResponseBody} {count : Nat}
    {entries : List (Path × Bytes)} {obj : ObjectBody}
    (holds : obj.Holds structio out count entries) (writer : ServableWrite T) (name : Path)
    (value : T) :
    (obj.entry structio writer name value).Holds structio out count
      (entries ++ [(name, writer.encode out.objectFormat value)]) := by
  -- The value is written behind its key, in the format of the object.
  have bytes : ((obj.key structio name).valueBody.write writer value).buf =
      (obj.key structio name).buf ++ writer.encode out.objectFormat value := by
    rw [ObjectBody.valueBody_eq, ResponseBody.write_after, ← holds.format]
    exact congrArg _ (ResponseBody.write_fresh writer value)
  have more := holds.key name (writer.encode out.objectFormat value)
  rw [← bytes] at more
  exact more

/-- An entry that was produced: what its callee wrote by itself is one more member. -/
theorem Progress.entryWith_holds {out : ResponseBody} {count : Nat} {entries : List (Path × Bytes)}
    {progress next : Progress S} (holds : progress.obj.Holds structio out count entries) {name : Path}
    {produce : S → ResponseBody → S × Reply borrow.Return}
    (blind : ∀ front s out, produce s (out.after front) = (produce s out).map id (Reply.after front))
    (went : progress.entryWith structio borrow name produce = .ok next) :
    ∃ reply, produce progress.self_ (.fresh out.objectFormat) = (next.self_, reply) ∧
      borrow.produced reply.returned = true ∧
      next.obj.Holds structio out count (entries ++ [(name, reply.out.buf)]) := by
  have value : (progress.obj.key structio name).valueBody =
      (ResponseBody.fresh out.objectFormat).after (progress.obj.key structio name).buf := by
    rw [ObjectBody.valueBody_eq]
    exact congrArg (fun format => (ResponseBody.fresh format).after _) holds.format
  simp only [Progress.entryWith, value, blind] at went
  refine ⟨(produce progress.self_ (.fresh out.objectFormat)).2, ?_⟩
  split at went
  · next ok =>
    -- Nothing is rewound behind a value that was produced.
    have stays : borrow.rewinds
        (produce progress.self_ (.fresh out.objectFormat)).2.returned = false := by
      have produced : borrow.produced
          (produce progress.self_ (.fresh out.objectFormat)).2.returned = true := ok
      revert produced
      generalize (produce progress.self_ (.fresh out.objectFormat)).2.returned = returned
      cases borrow with
      | exclusive => cases returned <;> simp [Borrow.produced, Borrow.rewinds]
      | shared => rcases returned with _ | _ | _ | _ <;> simp [Borrow.produced, Borrow.rewinds]
    cases went
    refine ⟨rfl, ok, ?_⟩
    simp only [Prod.map, Reply.after, stays]
    exact holds.key name _
  · cases went

theorem Borrow.produced_prepend (key : Path) (returned : borrow.Return) :
    borrow.produced (borrow.prepend key returned) = borrow.produced returned := by
  cases borrow with
  | exclusive => cases returned <;> rfl
  | shared => rcases returned with _ | _ | _ | _ <;> rfl

/-- A getter that was produced returned a value, and wrote it. -/
theorem shows_getterArm {accessor : AccessorSpec S} {s after : S} {reply : Reply borrow.Return}
    (got : getterArm borrow s (.fresh format) accessor.get = (after, reply))
    (ok : borrow.produced reply.returned = true) :
    Shows structio borrow format (.accessor accessor) s reply.out.buf after := by
  -- Whatever is served is what the call came to.
  have called : callAndEmit borrow accessor.get.methodIdent (endpointPath accessor.get.endpoint)
      accessor.get.function (emitLeaf accessor.get.writer accessor.get.typed) s ()
      (.fresh format) = (after, reply) := by
    cases borrow with
    | exclusive => exact got
    | shared =>
      cases able : accessor.get.function.isRef with
      | true =>
        rw [getterArm, able] at got
        exact got
      | false =>
        -- A decline produces nothing.
        rw [getterArm, able] at got
        cases got
        cases ok
  rw [callAndEmit] at called
  rcases invoked : accessor.get.function.invoke s () with ⟨s', value | message | _⟩
  · rw [invoked] at called
    cases called
    have shown : Shows structio borrow format (.accessor accessor) s _ after := .accessor invoked
    rw [← emitLeaf_fresh] at shown
    exact shown
  -- A getter that failed or panicked has produced nothing.
  · rw [invoked] at called
    cases called
    cases borrow <;> cases ok
  · rw [invoked] at called
    cases called
    cases borrow <;> cases ok

end Values

namespace Expansion

variable {S : Type} {structio : Structio} {borrow : Borrow} {expansion : Expansion S}
variable {out : ResponseBody} {count : Nat}

/-- One entry of a listing: what its declaration shows is one more member. -/
theorem WellFormed.write_holds (formed : expansion.WellFormed) {declaration : Declaration S}
    (member : declaration ∈ expansion.declarations) {progress next : Progress S}
    {entries : List (Path × Bytes)} (holds : progress.obj.Holds structio out count entries)
    (went : declaration.write structio borrow expansion.published progress = .ok next) :
    ∃ value, Shows structio borrow out.objectFormat declaration progress.self_ value next.self_ ∧
      next.obj.Holds structio out count (entries ++ [(declaration.endpoint, value)]) := by
  -- Leaves and signatures are written here, children and getters write for themselves.
  cases declaration with
  | field spec =>
    rw [Declaration.write, writeEntry] at went
    cases shape : spec.shape with
    | leaf place writer reader typed =>
      rw [shape] at went
      cases went
      exact ⟨_, .leaf shape _, holds.entry writer spec.endpoint _⟩
    | nested place child =>
      rw [shape] at went
      obtain ⟨reply, listed, ok, more⟩ := progress.entryWith_holds holds
        (fun front s out => by rw [childCall_after, prependReply_after]) went
      -- The child's own reply differs at most in the path of an error.
      refine ⟨reply.out.buf, ?_, more⟩
      rcases called : childCall borrow place child progress.self_ [] none
        (.fresh out.objectFormat) with ⟨after, own⟩
      rw [called] at listed
      cases listed
      have ok : borrow.produced own.returned = true := by
        rw [← Borrow.produced_prepend spec.endpoint]
        exact ok
      have shown : Shows structio borrow out.objectFormat (.field spec) progress.self_ own.out.buf
          next.self_ := .nested shape called ok
      exact shown
  | listed spec =>
    cases went
    exact ⟨_, .listed spec _, holds.entry structio.text spec.endpoint _⟩
  | method spec =>
    cases went
    exact ⟨_, .method spec _, holds.entry structio.text spec.endpoint _⟩
  | accessor spec =>
    have published : spec ∈ expansion.published.accessors := by simpa [declarations] using member
    rw [Declaration.write, accessorEntry] at went
    obtain ⟨reply, called, ok, more⟩ := progress.entryWith_holds holds
      (fun front s out => by rw [repeCall_after]) went
    rw [formed.repeCall_accessor _ _ published] at called
    exact ⟨reply.out.buf, shows_getterArm called ok, more⟩

/-- The entries of a listing, one after the other. -/
theorem WellFormed.foldlM_holds (formed : expansion.WellFormed)
    {declarations : List (Declaration S)}
    (members : ∀ declaration ∈ declarations, declaration ∈ expansion.declarations)
    {progress done : Progress S} {entries : List (Path × Bytes)}
    (holds : progress.obj.Holds structio out count entries)
    (went : declarations.foldlM (Declaration.write structio borrow expansion.published) progress =
      .ok done) :
    ∃ shown, ShowsAll structio borrow out.objectFormat declarations progress.self_ shown done.self_ ∧
      done.obj.Holds structio out count (entries ++ shown) := by
  -- By induction on the declarations, for every object that holds the entries before them.
  induction declarations generalizing progress entries with
  | nil =>
    cases went
    exact ⟨[], .nil _, by rwa [List.append_nil]⟩
  | cons declaration rest ih =>
    rw [List.forall_mem_cons] at members
    rw [List.foldlM_cons] at went
    cases first : declaration.write structio borrow expansion.published progress with
    | error left =>
      rw [first] at went
      cases went
    | ok next =>
      rw [first] at went
      obtain ⟨value, shows_, more⟩ := formed.write_holds members.1 holds first
      obtain ⟨shown, later, all⟩ := ih members.2 more went
      rw [List.append_assoc, List.singleton_append] at all
      exact ⟨_, .cons shows_ later, all⟩

/-- A listing that comes to its end holds every listed declaration. -/
theorem WellFormed.walk_holds (formed : expansion.WellFormed) {s : S} {done : Progress S}
    (went : expansion.walk structio borrow s out = .ok done) :
    ∃ entries, ShowsAll structio borrow out.objectFormat expansion.listed s entries done.self_ ∧
      done.obj.Holds structio out entries.length entries := by
  rw [walk, formed.foldlM_listingEntries] at went
  obtain ⟨entries, shown, holds⟩ := formed.foldlM_holds
    (fun declaration listed => mem_declarations_of_mem_listed listed)
    (out.holds_object expansion.entryCount) went
  -- The count that was declared is the number of keys.
  have counted : expansion.entryCount = entries.length := by
    rw [formed.entryCount_eq, ← List.length_map (f := Declaration.endpoint), ← shown.keys,
      List.length_map]
  rw [counted] at holds
  exact ⟨entries, shown, holds⟩

/-- What stops a listing is what one of its entries returned, and it is not `Ok(())`. -/
theorem entryWith_stopped {progress left : Progress S} {name : Path}
    {produce : S → ResponseBody → S × Reply borrow.Return} {returned : borrow.Return}
    (stopped : progress.entryWith structio borrow name produce = .error (left, returned)) :
    borrow.produced returned = false ∧ ∃ s out, (produce s out).2.returned = returned := by
  rw [Progress.entryWith] at stopped
  dsimp only at stopped
  -- An entry that succeeds goes on.
  split at stopped
  · cases stopped
  · next failed =>
    cases stopped
    exact ⟨by simpa using failed, _, _, rfl⟩

/-- A listing is stopped by one of its entries. -/
theorem WellFormed.produced_of_walk (formed : expansion.WellFormed) {s : S} {left : Progress S}
    {returned : borrow.Return}
    (stopped : expansion.walk structio borrow s out = .error (left, returned)) :
    borrow.produced returned = false := by
  rw [walk, formed.foldlM_listingEntries] at stopped
  obtain ⟨declaration, _, progress, failed⟩ := Except.exists_of_foldlM_error stopped
  -- Only an entry with a callee can stop a listing.
  cases declaration with
  | field spec =>
    rw [Declaration.write, writeEntry] at failed
    cases shape : spec.shape with
    | leaf place writer reader typed =>
      rw [shape] at failed
      cases failed
    | nested place child =>
      rw [shape] at failed
      exact (entryWith_stopped failed).1
  | listed spec => cases failed
  | method spec => cases failed
  | accessor spec =>
    rw [Declaration.write, accessorEntry] at failed
    exact (entryWith_stopped failed).1

/-- A whole-object read that returned `Ok(())` is a listing that came to its end. -/
theorem WellFormed.listing_of_produced (formed : expansion.WellFormed) {s : S}
    (ok : borrow.produced (expansion.dispatch structio borrow s [] none out).2.returned = true) :
    ∃ entries, ShowsAll structio borrow out.objectFormat expansion.listed s entries
        (expansion.dispatch structio borrow s [] none out).1 ∧
      (expansion.dispatch structio borrow s [] none out).2.out = { out with
        buf := out.buf ++ objectBytes structio entries out.objectFormat
        format := out.objectFormat } := by
  -- A declined listing produced nothing.
  have served : expansion.dispatch structio borrow s [] none out =
      expansion.listing structio borrow s out := by
    rw [dispatch, root] at ok ⊢
    cases borrow with
    | exclusive => rfl
    | shared =>
      cases declines : expansion.repeListingDeclines s with
      | false => rfl
      | true =>
        rw [declines] at ok
        cases ok
  rw [served] at ok ⊢
  rw [listing] at ok ⊢
  rcases went : expansion.walk structio borrow s out with ⟨left, returned⟩ | done
  · rw [went] at ok
    exact absurd ok (by rw [formed.produced_of_walk went]; exact Bool.false_ne_true)
  · -- The walk came to its end, and the object closes.
    obtain ⟨entries, shown, holds⟩ := formed.walk_holds went
    obtain ⟨closed, finished, whole⟩ := holds.finish
    simp only [finished]
    exact ⟨entries, shown, whole⟩

end Expansion

/-- A key used as a path is the one segment that the key is. -/
theorem withSegments_key {R : Type} (key : Path) (f : List Path → R) :
    withSegments ('/' :: JsonPointer.escapeToken key) f = .ok (f [key]) := by
  by_cases empty : key = []
  · -- The separator alone is the empty key.
    rw [empty]
    rfl
  · have read : JsonPointer.parse ('/' :: JsonPointer.escapeToken key) = .ok [key] := by
      have joined : JsonPointer.join [key] = '/' :: JsonPointer.escapeToken key := by
        simp [JsonPointer.join]
      rw [← joined]
      exact JsonPointer.parse_join (by simpa using empty)
    by_cases tilde : '~' ∈ '/' :: JsonPointer.escapeToken key
    · rw [withSegments, if_pos (by simpa using tilde), read]
      rfl
    · have away : '/' :: JsonPointer.escapeToken key ≠ ['/'] := by
        simpa [JsonPointer.escapeToken_eq_nil] using empty
      -- Without an escape the fast path splits where the parser does.
      rw [parse_plain tilde away rfl] at read
      rw [withSegments_plain f tilde (List.cons_ne_nil _ _) away, List.head?_cons, if_pos rfl,
        Except.ok.inj read]

/--
The whole-object listing of every struct the macros and their assertions accept.

Every published declaration is listed once, in the order that was given or else in that of the
declarations; the declared count is the number written, so closing the object does not panic; a listing
that returned is the object of those entries; and a listed key, used as a path, dispatches to the
declaration it lists.
-/
theorem listing_emits_each_endpoint_once {S : Type} (structio : Structio) {decl : StructDecl S}
    {expansion : Expansion S} (accepted : decl.compile = .ok expansion) :
    ((∀ order, decl.listingOrder = some order →
        expansion.listed.map Declaration.endpoint = order) ∧
      (decl.listingOrder = none → expansion.listed = expansion.declarations)) ∧
    (expansion.listed.Perm expansion.declarations ∧
      (expansion.declarations.map Declaration.endpoint).Nodup) ∧
    (∀ borrow s out done, expansion.walk structio borrow s out = .ok done →
      done.obj.written = done.obj.declared ∧ done.obj.finish.isSome) ∧
    (∀ borrow s out,
      borrow.produced (expansion.dispatch structio borrow s [] none out).2.returned = true →
      ∃ entries, ShowsAll structio borrow out.objectFormat expansion.listed s entries
          (expansion.dispatch structio borrow s [] none out).1 ∧
        (expansion.dispatch structio borrow s [] none out).2.out = { out with
          buf := out.buf ++ objectBytes structio entries out.objectFormat
          format := out.objectFormat }) ∧
    ∀ declaration ∈ expansion.listed, ∀ borrow s body out,
      withSegments ('/' :: JsonPointer.escapeToken declaration.endpoint)
          (fun segments => expansion.dispatch structio borrow s segments body out) =
        .ok (declaration.arm structio borrow s [declaration.endpoint] [] body out) := by
  obtain ⟨same, formed⟩ := StructDecl.wellFormed_of_compile accepted
  subst same
  refine ⟨⟨fun order given => formed.listed_endpoints given, fun none => ?_⟩,
    ⟨formed.listed_perm, formed.nodup_endpoints⟩, fun borrow s out done went => ?_,
    fun borrow s out ok => formed.listing_of_produced ok, fun declaration listed borrow s body out => ?_⟩
  · -- Without an order the declarations are listed as they stand.
    rw [Expansion.listed, none]
  · -- As many entries were written as were declared, so the object can be closed.
    obtain ⟨entries, _, holds⟩ := formed.walk_holds went
    obtain ⟨closed, finished, _⟩ := holds.finish
    exact ⟨holds.written.trans holds.declared.symm, by rw [finished]; rfl⟩
  · rw [withSegments_key, formed.dispatch_cons,
      formed.declaration?_endpoint (Expansion.mem_declarations_of_mem_listed listed)]

/-- The instrument is listed in its own order, and without a panic. -/
theorem instrument_lists_in_order :
    instrument.compile = .ok ⟨instrument, ⟨[calibrate], [gain]⟩⟩ ∧
      (⟨instrument, ⟨[calibrate], [gain]⟩⟩ : Expansion (Nat × Nat)).listed.map Declaration.endpoint =
        ["gain".toList, "clock".toList, "calibrate".toList, "channel".toList] := by
  have accepted : instrument.compile = .ok ⟨instrument, ⟨[calibrate], [gain]⟩⟩ := rfl
  exact ⟨accepted, (listing_emits_each_endpoint_once jsonBeve accepted).1.1 _ rfl⟩

-- The number of ticks comes from the nested clock, the gain from a getter.
example : ((⟨instrument, ⟨[calibrate], [gain]⟩⟩ : Expansion (Nat × Nat)).dispatch jsonBeve .shared
    (1, 2) [] none (.withFormat [] .json)).2.out.buf = Utf8.encode
      ("\x7b\"gain\":3,\"clock\":\x7b\"ticks\":2\x7d,".toList ++
        "\"calibrate\":\"fn(&mut self, gain: u64) -> u64\",\"channel\":1\x7d".toList) := by
  decide +kernel

end Repe.Derive
