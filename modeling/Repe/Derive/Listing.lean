import Repe.Derive.Dispatch
import Repe.Derive.ExpandLaws

/-! The published declarations of a struct: the arms of a dispatch are found among them by name, and the
entries of a listing are those declarations in the order they are listed. -/

namespace Repe.Derive

inductive Declaration (S : Type) where
  | field (spec : FieldSpec S)
  | listed (spec : MethodSpec S)
  | method (spec : MethodSpec S)
  | accessor (spec : AccessorSpec S)

namespace Declaration

variable {S : Type} (structio : Structio) (borrow : Borrow)

def endpoint : Declaration S → Path
  | field spec => spec.endpoint
  | listed spec => spec.endpoint
  | method spec => spec.endpoint
  | accessor spec => spec.endpoint

def arm (s : S) (segments tail : List Path) (body : Option RequestBody) (out : ResponseBody) :
    Declaration S → S × Reply borrow.Return
  | field spec => fieldArm structio borrow s segments tail body out spec
  | listed spec => methodArm structio borrow s segments tail body out spec
  | method spec => methodArm structio borrow s segments tail body out spec
  | accessor spec => accessorArm structio borrow s segments tail body out spec

def write (published : PublishedItems S) (progress : Progress S) : Declaration S → Walk S borrow
  | field spec => writeEntry structio borrow published progress (.field spec)
  | listed spec => .ok (progress.entry structio structio.text spec.endpoint spec.signatureDisplay)
  | method spec => .ok (progress.entry structio structio.text spec.endpoint spec.signatureDisplay)
  | accessor spec => accessorEntry structio borrow published progress spec.endpoint

end Declaration

namespace Expansion

variable {S : Type} (structio : Structio) (borrow : Borrow) (expansion : Expansion S)

/-- Everything that is published: fields, listed methods, then the methods and accessors of the block. -/
def declarations : List (Declaration S) :=
  expansion.decl.servedFields.map .field ++ expansion.decl.methods.map .listed ++
    (expansion.published.methods.map .method ++ expansion.published.accessors.map .accessor)

def declaration? (name : Path) : Option (Declaration S) :=
  expansion.declarations.find? fun declaration => declaration.endpoint == name

def listed : List (Declaration S) :=
  match expansion.decl.listingOrder with
  | some order => order.filterMap expansion.declaration?
  | none => expansion.declarations

theorem declarations_endpoints :
    expansion.declarations.map Declaration.endpoint = expansion.names := by
  simp only [declarations, names, StructDecl.endpoints, List.map_append, List.map_map]
  rfl

theorem declaration?_eq (name : Path) : expansion.declaration? name =
    ((((expansion.decl.servedFields.find? fun field => field.endpoint == name).map .field).or
      ((expansion.decl.methods.find? fun method => method.endpoint == name).map .listed)).or
    (((expansion.published.methods.find? fun method => method.endpoint == name).map .method).or
      ((expansion.published.accessors.find? fun spec => spec.endpoint == name).map .accessor))) := by
  simp only [declaration?, declarations, List.find?_append, List.find?_map]
  rfl

variable {expansion}

theorem endpoint_of_declaration? {name : Path} {declaration : Declaration S}
    (found : expansion.declaration? name = some declaration) : declaration.endpoint = name := by
  simpa using List.find?_some found

theorem WellFormed.nodup_endpoints (formed : expansion.WellFormed) :
    (expansion.declarations.map Declaration.endpoint).Nodup := by
  rw [declarations_endpoints]
  exact formed.distinct

/-- Every declaration is found under its own name: none is shadowed. -/
theorem WellFormed.declaration?_endpoint (formed : expansion.WellFormed)
    {declaration : Declaration S} (member : declaration ∈ expansion.declarations) :
    expansion.declaration? declaration.endpoint = some declaration := by
  have distinct := formed.nodup_endpoints
  rw [declaration?]
  -- By induction on the declarations that are searched.
  generalize expansion.declarations = declarations at member distinct
  induction declarations with
  | nil => cases member
  | cons first rest ih =>
    rw [List.map_cons, List.nodup_cons] at distinct
    rcases List.mem_cons.mp member with here | later
    · rw [here, List.find?_cons_of_pos (by simp)]
    · -- The first has another name, since no name comes twice.
      have other : first.endpoint ≠ declaration.endpoint :=
        fun same => distinct.1 (same ▸ List.mem_map_of_mem later)
      rw [List.find?_cons_of_neg (by simpa using other)]
      exact ih later distinct.2

theorem exists_declaration {name : Path} (published : name ∈ expansion.names) :
    ∃ declaration, expansion.declaration? name = some declaration := by
  apply Option.isSome_iff_exists.mp
  -- A published name is the endpoint of some declaration, so the search finds one.
  rw [← declarations_endpoints] at published
  obtain ⟨declaration, member, named⟩ := List.mem_map.mp published
  rw [declaration?, List.find?_isSome]
  exact ⟨declaration, member, by simpa using named⟩

/-- A request below the root is answered by the declaration its first segment names. -/
theorem WellFormed.dispatch_cons (formed : expansion.WellFormed) (s : S) (head : Path)
    (tail : List Path) (body : Option RequestBody) (out : ResponseBody) :
    expansion.dispatch structio borrow s (head :: tail) body out =
      match expansion.declaration? head with
      | some declaration => declaration.arm structio borrow s (head :: tail) tail body out
      | none => borrow.respond s out (.err (.invalidPath (pathFromSegments (head :: tail)))) := by
  -- The match arms are the same four groups, searched in the same order.
  rw [dispatch, declaration?_eq]
  cases expansion.decl.servedFields.find? fun field => field.endpoint == head with
  | some field => rfl
  | none =>
    cases expansion.decl.methods.find? fun method => method.endpoint == head with
    | some method => rfl
    | none =>
      cases block : expansion.decl.fromImplBlock with
      | false =>
        -- Without a block there is nothing in the table.
        rw [formed.unpublished block]
        rfl
      | true =>
        simp only [repeCall, if_true]
        cases expansion.published.methods.find? fun method => method.endpoint == head with
        | some method => rfl
        | none =>
          cases expansion.published.accessors.find? fun accessor => accessor.endpoint == head <;> rfl

theorem WellFormed.repeCall_accessor (formed : expansion.WellFormed) {accessor : AccessorSpec S}
    (published : accessor ∈ expansion.published.accessors) (s : S) (tail : List Path)
    (body : Option RequestBody) (out : ResponseBody) :
    repeCall structio borrow s (accessor.endpoint :: tail) body out expansion.published =
      accessorArm structio borrow s (accessor.endpoint :: tail) tail body out accessor := by
  have member : Declaration.accessor accessor ∈ expansion.declarations := by
    simpa [declarations] using published
  have found : expansion.declaration? accessor.endpoint = some (.accessor accessor) :=
    formed.declaration?_endpoint member
  rw [declaration?_eq] at found
  -- Nothing of the other three groups is found, so it is found among the accessors.
  simp only [Option.or_eq_some_iff, Option.map_eq_some_iff, Option.or_eq_none_iff,
    Option.map_eq_none_iff, reduceCtorEq, and_false, exists_false, false_or,
    Declaration.accessor.injEq, exists_eq_right] at found
  simp only [repeCall, found.2.1, found.2.2]

section Entries

/-- A name of an order is listed as the declaration under it. -/
theorem writeEntry_orderedEntry {name : Path} {declaration : Declaration S}
    (found : expansion.declaration? name = some declaration) (progress : Progress S) :
    writeEntry structio borrow expansion.published progress (expansion.decl.orderedEntry name) =
      declaration.write structio borrow expansion.published progress := by
  have named := endpoint_of_declaration? found
  rw [declaration?_eq] at found
  have fields : (expansion.decl.fields.find? fun field => !field.skip && field.endpoint == name) =
      expansion.decl.servedFields.find? fun field => field.endpoint == name := by
    rw [StructDecl.servedFields, List.find?_filter]
    congr 1
    funext field
    rw [Bool.decide_and, Bool.decide_eq_true, Bool.decide_eq_true]
  have signature : listedSignature expansion.published.repeMethodSignatures name =
      (expansion.published.methods.find? fun method => method.endpoint == name).map
        MethodSpec.signatureDisplay := by
    rw [listedSignature, PublishedItems.repeMethodSignatures, List.find?_map, Option.map_map]
    rfl
  rw [StructDecl.orderedEntry, fields]
  -- The groups are searched in the same order.
  cases ofField : expansion.decl.servedFields.find? fun field => field.endpoint == name with
  | some field =>
    rw [ofField] at found
    cases found
    rfl
  | none =>
    rw [ofField] at found
    cases ofListed : expansion.decl.methods.find? fun method => method.endpoint == name with
    | some method =>
      rw [ofListed] at found
      cases found
      rfl
    | none =>
      rw [ofListed] at found
      dsimp only
      rw [writeEntry, signature]
      cases ofMethod : expansion.published.methods.find? fun method => method.endpoint == name with
      | some method =>
        rw [ofMethod] at found
        cases found
        rw [← named]
        rfl
      | none =>
        rw [ofMethod] at found
        cases ofAccessor : expansion.published.accessors.find? fun accessor =>
            accessor.endpoint == name with
        | some accessor =>
          rw [ofAccessor] at found
          cases found
          rw [← named]
          rfl
        | none =>
          rw [ofAccessor] at found
          cases found

theorem writeEntry_implSignatures (published : PublishedItems S) (progress : Progress S) :
    writeEntry structio borrow published progress .implSignatures =
      (published.methods.map Declaration.method).foldlM
        (Declaration.write structio borrow published) progress := by
  -- Writing a text cannot stop the walk.
  rw [writeEntry, PublishedItems.repeMethodSignatures]
  induction published.methods generalizing progress with
  | nil => rfl
  | cons method rest ih =>
    rw [List.map_cons, List.foldl_cons, ih]
    rfl

theorem writeEntry_implAccessors (published : PublishedItems S) (progress : Progress S) :
    writeEntry structio borrow published progress .implAccessors =
      (published.accessors.map Declaration.accessor).foldlM
        (Declaration.write structio borrow published) progress := by
  rw [writeEntry, PublishedItems.repeAccessorEndpoints, List.foldlM_map, List.foldlM_map]
  rfl

/-- The entries of a listing are the listed declarations. -/
theorem WellFormed.foldlM_listingEntries (formed : expansion.WellFormed) (progress : Progress S) :
    expansion.decl.listingEntries.foldlM (writeEntry structio borrow expansion.published) progress =
      expansion.listed.foldlM (Declaration.write structio borrow expansion.published) progress := by
  rw [StructDecl.listingEntries, listed]
  cases given : expansion.decl.listingOrder with
  | some order =>
    -- Every key of the order is an endpoint.
    have known : ∀ key ∈ order, key ∈ expansion.names :=
      fun key member => ((formed.ordered order given).2 key).mp member
    clear given
    dsimp only
    induction order generalizing progress with
    | nil => rfl
    | cons key rest ih =>
      rw [List.forall_mem_cons] at known
      obtain ⟨declaration, found⟩ := exists_declaration known.1
      rw [List.map_cons, List.foldlM_cons, List.filterMap_cons_some found, List.foldlM_cons,
        writeEntry_orderedEntry structio borrow found]
      congr 1
      funext next
      exact ih next known.2
  | none =>
    -- What the derive sees is listed as it is declared.
    have fields : ∀ progress : Progress S,
        (expansion.decl.servedFields.map ListingEntry.field).foldlM
          (writeEntry structio borrow expansion.published) progress =
        (expansion.decl.servedFields.map Declaration.field).foldlM
          (Declaration.write structio borrow expansion.published) progress := by
      intro progress
      rw [List.foldlM_map, List.foldlM_map]
      rfl
    have methods : ∀ progress : Progress S,
        (expansion.decl.methods.map ListingEntry.signature).foldlM
          (writeEntry structio borrow expansion.published) progress =
        (expansion.decl.methods.map Declaration.listed).foldlM
          (Declaration.write structio borrow expansion.published) progress := by
      intro progress
      rw [List.foldlM_map, List.foldlM_map]
      rfl
    simp only [declarations, List.foldlM_append, fields, methods]
    congr 1
    funext next
    cases block : expansion.decl.fromImplBlock with
    | true =>
      rw [if_pos rfl, List.foldlM_cons, writeEntry_implSignatures]
      congr 1
      funext last
      rw [List.foldlM_cons, writeEntry_implAccessors]
      exact bind_pure _
    | false =>
      rw [if_neg Bool.false_ne_true, formed.unpublished block]
      rfl

end Entries

/-- An order lists every declaration, under the keys it gives. -/
theorem WellFormed.listed_endpoints (formed : expansion.WellFormed) {order : List Path}
    (given : expansion.decl.listingOrder = some order) :
    expansion.listed.map Declaration.endpoint = order := by
  have known : ∀ key ∈ order, key ∈ expansion.names :=
    fun key member => ((formed.ordered order given).2 key).mp member
  rw [listed, given]
  clear given
  dsimp only
  -- Key by key: each is an endpoint, so a declaration is found for it.
  induction order with
  | nil => rfl
  | cons key rest ih =>
    rw [List.forall_mem_cons] at known
    obtain ⟨declaration, found⟩ := exists_declaration known.1
    rw [List.filterMap_cons_some found, List.map_cons, ih known.2, endpoint_of_declaration? found]

theorem mem_declarations_of_mem_listed {declaration : Declaration S}
    (member : declaration ∈ expansion.listed) : declaration ∈ expansion.declarations := by
  rw [listed] at member
  -- A listing order is looked up among the declarations; without one they are listed.
  split at member
  · obtain ⟨key, _, found⟩ := List.mem_filterMap.mp member
    exact List.mem_of_find?_eq_some found
  · exact member

/-- Every declaration is listed, and once. -/
theorem WellFormed.listed_perm (formed : expansion.WellFormed) :
    expansion.listed.Perm expansion.declarations := by
  cases given : expansion.decl.listingOrder with
  | none =>
    rw [listed, given]
  | some order =>
    -- Two lists without repetition are equal up to order if they have the same members.
    have distinct : (expansion.listed.map Declaration.endpoint).Nodup := by
      rw [formed.listed_endpoints given]
      exact (formed.ordered order given).1
    rw [List.perm_ext_iff_of_nodup distinct.of_map formed.nodup_endpoints.of_map]
    refine fun declaration => ⟨mem_declarations_of_mem_listed, fun member => ?_⟩
    -- The order names its endpoint, and under that name it is found.
    have named : declaration.endpoint ∈ order := by
      rw [(formed.ordered order given).2, ← declarations_endpoints]
      exact List.mem_map_of_mem member
    rw [listed, given]
    exact List.mem_filterMap.mpr ⟨declaration.endpoint, named, formed.declaration?_endpoint member⟩

/-- The count a listing declares is the number of declarations it lists. -/
theorem WellFormed.entryCount_eq (formed : expansion.WellFormed) :
    expansion.entryCount = expansion.listed.length := by
  rw [entryCount, StructDecl.listingEntries]
  cases given : expansion.decl.listingOrder with
  | some order =>
    -- A key of an order is one member, whatever it stands for.
    have single : ∀ key, ListingEntry.count expansion.published (expansion.decl.orderedEntry key) = 1 := by
      intro key
      unfold StructDecl.orderedEntry
      split
      · rfl
      · split <;> rfl
    rw [← formed.listed_endpoints given, List.map_map, List.map_map]
    have ones : ∀ declarations : List (Declaration S),
        (declarations.map ((ListingEntry.count expansion.published ∘ expansion.decl.orderedEntry) ∘
          Declaration.endpoint)).sum = declarations.length := by
      intro declarations
      induction declarations with
      | nil => rfl
      | cons declaration rest ih =>
        rw [List.map_cons, List.sum_cons, ih, List.length_cons, Nat.add_comm]
        exact congrArg _ (single _)
    exact ones expansion.listed
  | none =>
    rw [listed, given]
    -- The derive counts one for each of its own, and the tables by their lengths.
    have fields : ∀ specs : List (FieldSpec S),
        (specs.map (ListingEntry.count expansion.published ∘ ListingEntry.field)).sum
          = specs.length := by
      intro specs
      simp [Function.comp_def, ListingEntry.count]
    have methods : ∀ specs : List (MethodSpec S),
        (specs.map (ListingEntry.count expansion.published ∘ ListingEntry.signature)).sum
          = specs.length := by
      intro specs
      simp [Function.comp_def, ListingEntry.count]
    simp only [declarations, List.map_append, List.map_map, List.sum_append, fields, methods,
      List.length_append, List.length_map]
    cases block : expansion.decl.fromImplBlock with
    | true => simp [ListingEntry.count, PublishedItems.repeMethodSignatures,
        PublishedItems.repeAccessorEndpoints]
    | false => simp [formed.unpublished block, PublishedItems.empty]

end Expansion

end Repe.Derive
