import Repe.Derive.Expand

/-! What the checks of the two macros together establish: no endpoint is published twice, and an order
names every endpoint once. -/

namespace Repe.Derive

section Checks

/-- No name is repeated exactly where all are different, from each other and from those before. -/
theorem firstRepeated_eq_none {seen names : List Path} :
    firstRepeated seen names = none ↔ names.Nodup ∧ ∀ name ∈ names, name ∉ seen := by
  -- By induction on the names, for any that were seen before them.
  induction names generalizing seen with
  | nil => simp [firstRepeated]
  | cons name rest ih =>
    rw [firstRepeated, List.nodup_cons, List.forall_mem_cons]
    by_cases known : name ∈ seen
    · simp [known]
    · rw [if_neg (by simpa using known), ih]
      -- The names after this one have one more to differ from.
      simp only [List.mem_append, List.mem_singleton, not_or]
      constructor
      · rintro ⟨distinct, apart⟩
        exact ⟨⟨fun found => (apart name found).2 rfl, distinct⟩, known,
          fun other found => (apart other found).1⟩
      · rintro ⟨⟨unrepeated, distinct⟩, _, apart⟩
        refine ⟨distinct, fun other found => ⟨apart other found, ?_⟩⟩
        rintro rfl
        exact unrepeated found

theorem rejectDuplicateEndpoints_eq_ok {endpoints : List Path} :
    rejectDuplicateEndpoints endpoints = .ok () ↔ endpoints.Nodup := by
  rw [rejectDuplicateEndpoints]
  -- The search finds a repeated name exactly where there is one.
  cases repeated : firstRepeated [] endpoints with
  | none => simpa using (firstRepeated_eq_none.mp repeated).1
  | some name =>
    simp only [reduceCtorEq, false_iff]
    intro distinct
    rw [firstRepeated_eq_none.mpr ⟨distinct, by simp⟩] at repeated
    cases repeated

theorem listedSignature_isSome {methods : List (Path × Path)} {name : Path} :
    (listedSignature methods name).isSome ↔ name ∈ methods.map Prod.fst := by
  rw [listedSignature, Option.isSome_map, List.find?_isSome]
  simp

theorem assertNoEndpointCollision_eq_ok {declared accessors : List Path}
    {methods : List (Path × Path)} :
    assertNoEndpointCollision declared methods accessors = .ok () ↔
      (∀ name ∈ methods.map Prod.fst, name ∉ declared) ∧
        ∀ name ∈ accessors, name ∉ declared ∧ name ∉ methods.map Prod.fst := by
  rw [assertNoEndpointCollision]
  -- The two loops say which pairs of names they compare.
  have shadowed : (methods.any fun method => constContains declared method.1) = true ↔
      ∃ name ∈ methods.map Prod.fst, name ∈ declared := by
    simp [constContains]
  by_cases collides : ∃ name ∈ methods.map Prod.fst, name ∈ declared
  · rw [if_pos (shadowed.mpr collides)]
    obtain ⟨name, published, known⟩ := collides
    simp only [reduceCtorEq, false_iff]
    exact fun apart => apart.1 name published known
  · rw [if_neg (fun found => collides (shadowed.mp found))]
    push Not at collides
    cases found : accessors.find? fun name =>
        constContains declared name || (listedSignature methods name).isSome with
    | none =>
      simp only [List.find?_eq_none, Bool.or_eq_true, not_or, constContains,
        List.contains_iff_mem, listedSignature_isSome] at found
      exact ⟨fun _ => ⟨collides, found⟩, fun _ => rfl⟩
    | some name =>
      -- Whichever message it is, the accessor's name is taken.
      have member := List.mem_of_find?_eq_some found
      have taken := List.find?_some found
      simp only [Bool.or_eq_true, constContains, List.contains_iff_mem,
        listedSignature_isSome] at taken
      have refused : ¬ ((∀ name ∈ methods.map Prod.fst, name ∉ declared) ∧
          ∀ name ∈ accessors, name ∉ declared ∧ name ∉ methods.map Prod.fst) := by
        intro apart
        exact taken.elim (apart.2 name member).1 (apart.2 name member).2
      dsimp only
      split
      · simp only [reduceCtorEq, refused]
      · simp only [reduceCtorEq, refused]

theorem assertListingOrder_eq_ok {order declared accessors : List Path}
    {methods : List (Path × Path)} :
    assertListingOrder order declared methods accessors false = .ok () ↔
      (∀ key ∈ order, key ∈ declared ∨ key ∈ accessors ∨ key ∈ methods.map Prod.fst) ∧
        (∀ name ∈ methods.map Prod.fst, name ∈ order) ∧ ∀ name ∈ accessors, name ∈ order := by
  have unknown : (order.any fun key => !(constContains declared key || constContains accessors key ||
      (listedSignature methods key).isSome) && !false) = true ↔
      ¬ ∀ key ∈ order, key ∈ declared ∨ key ∈ accessors ∨ key ∈ methods.map Prod.fst := by
    simp only [List.any_eq_true, Bool.not_false, Bool.and_true, Bool.not_eq_true',
      Bool.or_eq_false_iff]
    simp only [← Bool.not_eq_true, constContains, List.contains_iff_mem, listedSignature_isSome]
    push Not
    simp only [and_assoc]
  have unnamed : (methods.any fun method => !constContains order method.1) = true ↔
      ¬ ∀ name ∈ methods.map Prod.fst, name ∈ order := by
    simp [constContains]
  have unlisted : (accessors.any fun name => !constContains order name) = true ↔
      ¬ ∀ name ∈ accessors, name ∈ order := by
    simp [constContains]
  -- Each branch that reports an error denies one of the three parts.
  rw [assertListingOrder]
  simp only [unknown, unnamed, unlisted]
  split
  · next missing => simp only [reduceCtorEq, false_iff]; exact fun all => missing all.1
  · next known =>
    split
    · next missing => simp only [reduceCtorEq, false_iff]; exact fun all => missing all.2.1
    · next named =>
      split
      · next missing => simp only [reduceCtorEq, false_iff]; exact fun all => missing all.2.2
      · next listed => exact ⟨fun _ => ⟨not_not.mp known, not_not.mp named, not_not.mp listed⟩,
          fun _ => rfl⟩

/-- The keys of an accepted order are all different, and known where no impl block can name them. -/
theorem validateKeys_eq_ok {declared seen keys : List Path} {fromImplBlock : Bool}
    (valid : validateKeys declared fromImplBlock seen keys = .ok ()) :
    keys.Nodup ∧ (∀ key ∈ keys, key ∉ seen) ∧
      (fromImplBlock = false → ∀ key ∈ keys, key ∈ declared) := by
  -- By induction on the keys: the loop went on, so the key is new and known.
  induction keys generalizing seen with
  | nil => simp
  | cons key rest ih =>
    rw [validateKeys] at valid
    split at valid
    · cases valid
    · next fresh =>
      split at valid
      · cases valid
      · next known =>
        obtain ⟨distinct, apart, declares⟩ := ih valid
        simp only [List.mem_append, List.mem_singleton, not_or] at apart
        simp only [List.contains_iff_mem] at fresh
        refine ⟨List.nodup_cons.mpr ⟨fun found => (apart key found).2 rfl, distinct⟩, ?_, ?_⟩
        · rw [List.forall_mem_cons]
          exact ⟨fresh, fun other found => (apart other found).1⟩
        · intro alone
          rw [List.forall_mem_cons]
          refine ⟨?_, declares alone⟩
          simpa [alone] using known

theorem validateListingOrder_eq_ok {order declared : List Path} {fromImplBlock : Bool}
    (valid : validateListingOrder order declared fromImplBlock = .ok ()) :
    order.Nodup ∧ (fromImplBlock = false → ∀ key ∈ order, key ∈ declared) ∧
      ∀ endpoint ∈ declared, endpoint ∈ order := by
  rw [validateListingOrder, passing_eq_ok] at valid
  obtain ⟨distinct, _, known⟩ := validateKeys_eq_ok valid.1
  refine ⟨distinct, known, fun endpoint declares => ?_⟩
  -- The last check looks for an endpoint that the order leaves out.
  cases missing : declared.find? fun endpoint => !order.contains endpoint with
  | some endpoint =>
    rw [missing] at valid
    cases valid.2
  | none => simpa using List.find?_eq_none.mp missing endpoint declares

end Checks

section Published

variable {S : Type}

/-- What an accepted impl block publishes has no endpoint twice. -/
theorem collectMethods_nodup {items : List (ImplItem S)} {published : PublishedItems S}
    (collected : collectMethods items = .ok published) :
    (published.methods.map MethodSpec.endpoint ++
      published.accessors.map AccessorSpec.endpoint).Nodup := by
  -- Behind the checks of the halves, and without an orphan, comes the check of all names together.
  rw [collectMethods, passing_eq_ok, passing_eq_ok, passing_eq_ok] at collected
  obtain ⟨_, _, _, paired⟩ := collected
  rcases orphans : pairAccessors (items.filterMap ImplItem.getter?)
    (items.filterMap ImplItem.setter?) with ⟨accessors, left⟩
  rw [orphans] at paired
  cases left with
  | cons orphan rest => cases paired
  | nil =>
    obtain ⟨distinct, same⟩ := passing_eq_ok.mp paired
    cases same
    exact rejectDuplicateEndpoints_eq_ok.mp distinct

namespace Expansion

def names (expansion : Expansion S) : List Path :=
  expansion.decl.endpoints ++ (expansion.published.methods.map MethodSpec.endpoint ++
    expansion.published.accessors.map AccessorSpec.endpoint)

structure WellFormed (expansion : Expansion S) : Prop where
  distinct : expansion.names.Nodup
  /-- Only an impl block publishes into the method table. -/
  unpublished : expansion.decl.fromImplBlock = false → expansion.published = .empty
  /-- An order names each endpoint once, and nothing else. -/
  ordered : ∀ order, expansion.decl.listingOrder = some order →
    order.Nodup ∧ ∀ key, key ∈ order ↔ key ∈ expansion.names

end Expansion

theorem repeMethodSignatures_names (published : PublishedItems S) :
    published.repeMethodSignatures.map Prod.fst = published.methods.map MethodSpec.endpoint := by
  rw [PublishedItems.repeMethodSignatures, List.map_map]
  rfl

/-- The handshake joins what each macro checked of its own names. -/
theorem wellFormed_of_handshake {decl : StructDecl S} {published : PublishedItems S}
    (block : decl.fromImplBlock = true) (checked : decl.expandChecks = .ok ())
    (own : (published.methods.map MethodSpec.endpoint ++
      published.accessors.map AccessorSpec.endpoint).Nodup)
    (met : decl.handshake published = .ok ()) : (⟨decl, published⟩ : Expansion S).WellFormed := by
  rw [StructDecl.expandChecks, passing_eq_ok, rejectDuplicateEndpoints_eq_ok] at checked
  rw [StructDecl.handshake, passing_eq_ok, assertNoEndpointCollision_eq_ok,
    repeMethodSignatures_names] at met
  obtain ⟨declared, orderDeclared⟩ := checked
  obtain ⟨⟨methodsApart, accessorsApart⟩, orderPublished⟩ := met
  refine ⟨List.nodup_append.mpr ⟨declared, own, ?_⟩, fun none => ?_, fun order given => ?_⟩
  · -- Nothing of the block has the name of something on the struct itself.
    intro name onStruct other inBlock same
    subst same
    rcases List.mem_append.mp inBlock with method | accessor
    · exact methodsApart name method onStruct
    · exact (accessorsApart name accessor).1 onStruct
  · rw [block] at none
    cases none
  · -- One macro has seen that the order names its endpoints, the assertion that it names the others.
    have given : decl.listingOrder = some order := given
    simp only [given] at orderDeclared orderPublished
    obtain ⟨distinct, _, allDeclared⟩ := validateListingOrder_eq_ok orderDeclared
    rw [assertListingOrder_eq_ok, repeMethodSignatures_names] at orderPublished
    obtain ⟨known, allMethods, allAccessors⟩ := orderPublished
    refine ⟨distinct, fun key => ?_⟩
    simp only [Expansion.names, List.mem_append]
    constructor
    · intro named
      rcases known key named with onStruct | accessor | method
      · exact .inl onStruct
      · exact .inr (.inr accessor)
      · exact .inr (.inl method)
    · rintro (onStruct | method | accessor)
      · exact allDeclared key onStruct
      · exact allMethods key method
      · exact allAccessors key accessor

/-- Whatever compiles is well formed. -/
theorem StructDecl.wellFormed_of_compile {decl : StructDecl S} {expansion : Expansion S}
    (accepted : decl.compile = .ok expansion) : expansion.decl = decl ∧ expansion.WellFormed := by
  rw [compile, passing_eq_ok] at accepted
  obtain ⟨checked, expanded⟩ := accepted
  cases block : decl.implBlock with
  | some items =>
    -- A block that collected, and a handshake that passed.
    rw [block] at expanded
    dsimp only at expanded
    cases collected : collectMethods items with
    | error message =>
      rw [collected] at expanded
      cases expanded
    | ok published =>
      rw [collected] at expanded
      obtain ⟨met, same⟩ := passing_eq_ok.mp expanded
      cases same
      have marked : decl.fromImplBlock = true := by rw [fromImplBlock, block]; rfl
      exact ⟨rfl, wellFormed_of_handshake marked checked (collectMethods_nodup collected) met⟩
  | none =>
    -- Without a block the derive sees all there is.
    rw [block] at expanded
    cases expanded
    have unmarked : decl.fromImplBlock = false := by rw [fromImplBlock, block]; rfl
    rw [expandChecks, passing_eq_ok, rejectDuplicateEndpoints_eq_ok] at checked
    have alone : (⟨decl, .empty⟩ : Expansion S).names = decl.endpoints := List.append_nil _
    refine ⟨rfl, ⟨alone ▸ checked.1, fun _ => rfl, fun order given => ?_⟩⟩
    have valid := checked.2
    simp only [show decl.listingOrder = some order from given] at valid
    obtain ⟨distinct, known, all⟩ := validateListingOrder_eq_ok valid
    rw [alone]
    exact ⟨distinct, fun key => ⟨known unmarked key, all key⟩⟩

end Published

end Repe.Derive
