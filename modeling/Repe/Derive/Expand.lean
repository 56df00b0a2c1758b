import Repe.Derive.Body

/-! What the two macros accept: a struct's declaration with its attributes, the impl block of its
methods, and the checks at expansion and at compile time that stand between them and generated code. -/

namespace Repe.Derive

section Declarations

/-- `self.field`: the place of a field in its struct. -/
structure Place (S T : Type) where
  get : S → T
  set : T → S → S
  /-- Writing back what a place holds changes nothing. -/
  set_get : ∀ s, set (get s) s = s

inductive FieldShape (S : Type) : Type 1 where
  /-- Written and read by itself; under `typed` also written as a slice. -/
  | leaf {T : Type} (place : Place S T) (writer : ServableWrite T) (reader : ServableRead T)
    (typed : Option (ServableWrite T))
  /-- Under `nested`, which `parse_field` does not accept together with `typed`. -/
  | nested {T : Type} (place : Place S T) (child : RepeStruct T)

structure FieldSpec (S : Type) where
  ident : Path
  rename : Option Path
  skip : Bool
  readonly : Bool
  shape : FieldShape S

def FieldSpec.endpoint {S : Type} (field : FieldSpec S) : Path :=
  field.rename.getD field.ident

/--
A user function and its receiver.

An error is the text its `Err` displays; what is not declared to return a `Result` has none.
What a function that panics under `&mut self` has changed stays changed.
-/
inductive Receiver (S A R : Type) where
  | ref (call : S → A → Exec String R)
  | mutable (call : S → A → S × Exec String R)

namespace Receiver

variable {S A R : Type}

/-- The receiver is `&self`. -/
def isRef : Receiver S A R → Bool
  | ref _ => true
  | mutable _ => false

def invoke (function : Receiver S A R) (s : S) (args : A) : S × Exec String R :=
  match function with
  | ref call => (s, call s args)
  | mutable call => call s args

end Receiver

/-- The arguments of a method: their names and types, and how they are bound out of a body. -/
inductive Arguments (A : Type) where
  | none (value : A)
  | one (name type : Path) (reader : ServableRead A) (default : A)
  /-- Two or more, split and decoded by `MethodArgs` under the path its errors name. -/
  | several (params : List (Path × Path)) (decode : Path → RequestBody → Except StructError A)

def Arguments.params {A : Type} : Arguments A → List (Path × Path)
  | .none _ => []
  | .one name type _ _ => [(name, type)]
  | .several params _ => params

structure MethodSpec (S : Type) where
  endpoint : Path
  methodIdent : Path
  {A R : Type}
  arguments : Arguments A
  function : Receiver S A R
  /-- How the payload is written, unless it is `()`. -/
  payload : Option (ServableWrite R)
  display : Path

/-- `build_signature_string`. -/
def MethodSpec.signatureDisplay {S : Type} (method : MethodSpec S) : Path :=
  let receiver := if method.function.isRef then "&self" else "&mut self"
  let params := method.arguments.params.flatMap fun (name, type) =>
    ", ".toList ++ name ++ ": ".toList ++ type
  "fn(".toList ++ receiver.toList ++ params ++ ") -> ".toList ++ method.display

/-- The `get` half of a field-shaped endpoint: no arguments, and a value to return. -/
structure Getter (S : Type) where
  endpoint : Path
  methodIdent : Path
  {R : Type}
  function : Receiver S Unit R
  writer : ServableWrite R
  /-- How the value is written as a slice, under `typed`. -/
  typed : Option (ServableWrite R)

/-- The `set` half: one argument, and nothing to return. -/
structure Setter (S : Type) where
  endpoint : Path
  methodIdent : Path
  {A : Type}
  function : Receiver S A Unit
  reader : ServableRead A
  default : A

/-- `AccessorSpec`: a field-shaped endpoint, read-only without its write half. -/
structure AccessorSpec (S : Type) where
  get : Getter S
  set : Option (Setter S)

def AccessorSpec.endpoint {S : Type} (accessor : AccessorSpec S) : Path :=
  accessor.get.endpoint

/-- One published function of an impl block, in the shape its attributes give it. -/
inductive ImplItem (S : Type) where
  | method (spec : MethodSpec S)
  | getter (spec : Getter S)
  | setter (spec : Setter S)

/-- `PublishedItems`: everything one impl block publishes. -/
structure PublishedItems (S : Type) where
  methods : List (MethodSpec S)
  accessors : List (AccessorSpec S)

/-- A struct with the attributes of the derive, and its annotated impl block. -/
structure StructDecl (S : Type) where
  fields : List (FieldSpec S)
  methods : List (MethodSpec S)
  /-- `#[repe(methods)]` and the block; one without the other does not compile. -/
  implBlock : Option (List (ImplItem S))
  noReplace : Bool
  listingOrder : Option (List Path)
  /-- How the whole struct is read, unless under `no_replace`. -/
  reader : ServableRead S

end Declarations

section Checks

variable {S : Type}

def passing.{u} {α : Type u} (check : Except String Unit) (next : Except String α) :
    Except String α :=
  match check with
  | .ok () => next
  | .error message => .error message

theorem passing_eq_ok.{u} {α : Type u} {check : Except String Unit} {next : Except String α}
    {result : α} : passing check next = .ok result ↔ check = .ok () ∧ next = .ok result := by
  cases check with
  | ok passed => simp [passing]
  | error message => simp [passing]

def firstRepeated (seen : List Path) : List Path → Option Path
  | [] => none
  -- Each name is compared with all that were declared before it.
  | name :: rest => if seen.contains name then some name else firstRepeated (seen ++ [name]) rest

def rejectDuplicateEndpoints (endpoints : List Path) : Except String Unit :=
  match firstRepeated [] endpoints with
  | none => .ok ()
  | some name => .error ("endpoint `" ++ String.ofList name ++
      "` is declared twice on this struct; one of them would be unreachable and the whole-struct " ++
      "listing would emit the key twice. Rename one with `#[repe(rename = \"...\")]`.")

def rejectDuplicateAccessorHalf (endpoints : List Path) (key : String) : Except String Unit :=
  match firstRepeated [] endpoints with
  | none => .ok ()
  | some name => .error ("two methods claim `#[repe(" ++ key ++ " = \"" ++ String.ofList name ++
      "\")]`; a field-shaped endpoint has one read half and one write half, so one of these could " ++
      "never be called. Give one of them a different endpoint.")

def constContains (list : List Path) (name : Path) : Bool :=
  list.contains name

/-- `listed_signature`: the signature published for a name, none for an accessor's. -/
def listedSignature (methods : List (Path × Path)) (name : Path) : Option Path :=
  (methods.find? fun method => method.1 == name).map (·.2)

def assertNoEndpointCollision (declared : List Path) (methods : List (Path × Path))
    (accessors : List Path) : Except String Unit :=
  -- First the methods of the block against the struct, then its accessors against both.
  if methods.any fun method => constContains declared method.1 then
    .error ("a published method and an endpoint declared on the struct itself share a name: the " ++
      "struct's declaration wins dispatch and the method could never be called. Rename one with " ++
      "`#[repe(rename = \"...\")]`.")
  else match accessors.find? fun name =>
      constContains declared name || (listedSignature methods name).isSome with
    | none => .ok ()
    | some name =>
      if constContains declared name then
        .error ("a `#[repe(get = \"...\")]` accessor and an endpoint declared on the struct itself " ++
          "share a name: the struct's declaration wins dispatch and the accessor could never be " ++
          "called. Rename the struct's with `#[repe(rename = \"...\")]`, or give the accessor a " ++
          "different endpoint.")
      else
        .error ("a published method and a `#[repe(get = \"...\")]` accessor in the same table share " ++
          "an endpoint name: one of them is unreachable, and the whole-struct listing would show " ++
          "the endpoint twice.")

def assertListingOrder (order declared : List Path) (methods : List (Path × Path))
    (accessors : List Path) (recovering : Bool) : Except String Unit :=
  -- Every key has to be an endpoint, and every endpoint of the block has to be a key.
  if order.any fun key => !(constContains declared key || constContains accessors key ||
      (listedSignature methods key).isSome) && !recovering then
    .error ("`#[repe(listing_order(..))]` names a key that is not an endpoint on this struct. It " ++
      "lists the whole-object listing's keys, so every name in it has to be a field, a listed " ++
      "method, or an endpoint of the annotated `methods` impl block.")
  else if methods.any fun method => !constContains order method.1 then
    .error ("a method on the annotated `methods` impl block is missing from " ++
      "`#[repe(listing_order(..))]`, which names the whole-object listing's keys in full. An " ++
      "omitted endpoint would disappear from every whole-object read while still answering on its " ++
      "own path.")
  else if accessors.any fun name => !constContains order name then
    .error ("a `#[repe(get = \"...\")]` accessor is missing from `#[repe(listing_order(..))]`, " ++
      "which names the whole-object listing's keys in full. An omitted endpoint would disappear " ++
      "from every whole-object read while still answering on its own path.")
  else .ok ()

/-- The keys of an order, one after the other, against the ones before and what the derive declares. -/
def validateKeys (declared : List Path) (fromImplBlock : Bool) (seen : List Path) :
    List Path → Except String Unit
  | [] => .ok ()
  | name :: rest =>
    if seen.contains name then
      .error ("`" ++ String.ofList name ++ "` is named twice in `#[repe(listing_order(..))]`; the " ++
        "listing emits each key once, so the second position could never be used")
    -- With an impl block the name may be one of its endpoints.
    else if !fromImplBlock && !declared.contains name then
      .error ("`" ++ String.ofList name ++ "` is not an endpoint on this struct, so the listing has " ++
        "nothing to emit for it")
    else validateKeys declared fromImplBlock (seen ++ [name]) rest

def validateListingOrder (order declared : List Path) (fromImplBlock : Bool) : Except String Unit :=
  passing (validateKeys declared fromImplBlock [] order) <|
    -- By now every key has been seen.
    match declared.find? fun endpoint => !order.contains endpoint with
    | none => .ok ()
    | some endpoint => .error ("`" ++ String.ofList endpoint ++
        "` is missing from `#[repe(listing_order(..))]`, which names the whole-object listing's " ++
        "keys in full. An omitted endpoint would disappear from every whole-object read while " ++
        "still answering on its own path.")

/-- The check `validate_method_attrs` makes of the endpoint of an accessor's half. -/
def validateAccessorEndpoint (endpoint : Path) : Except String Unit :=
  if endpoint.isEmpty then .error "a field-shaped endpoint needs a name"
  else if endpoint.contains '/' then
    .error ("a field-shaped endpoint is one path segment below the struct root, so it cannot " ++
      "contain `/`")
  else .ok ()

namespace ImplItem

def validateMethodAttrs : ImplItem S → Except String Unit
  | method _ => .ok ()
  | getter spec => validateAccessorEndpoint spec.endpoint
  | setter spec => validateAccessorEndpoint spec.endpoint

def method? : ImplItem S → Option (MethodSpec S)
  | method spec => some spec
  | _ => none

def getter? : ImplItem S → Option (Getter S)
  | getter spec => some spec
  | _ => none

def setter? : ImplItem S → Option (Setter S)
  | setter spec => some spec
  | _ => none

/-- The attributes of all functions, in the order they stand in the block. -/
def validateAll : List (ImplItem S) → Except String Unit
  | [] => .ok ()
  | item :: rest => passing item.validateMethodAttrs (validateAll rest)

end ImplItem

/-- Each read half with its write half, and the write halves that are left. -/
def pairAccessors : List (Getter S) → List (Setter S) → List (AccessorSpec S) × List (Setter S)
  | [], setters => ([], setters)
  | get :: getters, setters =>
    -- A write half that has found its read half is taken out.
    let paired := pairAccessors getters (setters.eraseP fun set => set.endpoint == get.endpoint)
    (⟨get, setters.find? fun set => set.endpoint == get.endpoint⟩ :: paired.1, paired.2)

/-- `collect_methods`: what an impl block publishes. -/
def collectMethods (items : List (ImplItem S)) : Except String (PublishedItems S) :=
  let methods := items.filterMap ImplItem.method?
  let getters := items.filterMap ImplItem.getter?
  let setters := items.filterMap ImplItem.setter?
  -- The halves are checked by themselves first, for errors that say which half it is.
  passing (ImplItem.validateAll items) <|
  passing (rejectDuplicateAccessorHalf (getters.map Getter.endpoint) "get") <|
  passing (rejectDuplicateAccessorHalf (setters.map Setter.endpoint) "set") <|
    let (accessors, orphans) := pairAccessors getters setters
    match orphans with
    | orphan :: _ => .error ("`#[repe(set = \"" ++ String.ofList orphan.endpoint ++
        "\")]` has no matching `#[repe(get = \"" ++ String.ofList orphan.endpoint ++
        "\")]` in this block: a field-shaped endpoint that cannot be read has no value for the " ++
        "whole-struct listing to show. Add the read half, or publish this as an ordinary method.")
    | [] =>
      passing (rejectDuplicateEndpoints
        (methods.map MethodSpec.endpoint ++ accessors.map AccessorSpec.endpoint)) <|
      .ok ⟨methods, accessors⟩

namespace PublishedItems

/-- A struct without an impl block has nothing to publish from one. -/
def empty : PublishedItems S := ⟨[], []⟩

variable (published : PublishedItems S)

def repeMethodSignatures : List (Path × Path) :=
  published.methods.map fun spec => (spec.endpoint, spec.signatureDisplay)

def repeAccessorEndpoints : List Path :=
  published.accessors.map AccessorSpec.endpoint

def repeListingNeedsExclusive : Bool :=
  published.accessors.any fun spec => !spec.get.function.isRef

/-- `RepeMethods::REPE_SHARED_SERVES_BODIES`. -/
def repeSharedServesBodies : Bool :=
  (published.methods.any fun spec => spec.function.isRef && !spec.arguments.params.isEmpty) ||
    published.accessors.any fun spec =>
      match spec.set with
      | some set => set.function.isRef
      | none => true

end PublishedItems

/-- One key of the whole-object listing, `ListingEntry`. -/
inductive ListingEntry (S : Type) where
  | field (spec : FieldSpec S)
  | signature (spec : MethodSpec S)
  /-- An endpoint of the impl block, placed by name. -/
  | implNamed (name : Path)
  | implSignatures
  | implAccessors

namespace StructDecl

variable (decl : StructDecl S)

def servedFields : List (FieldSpec S) :=
  decl.fields.filter fun field => !field.skip

def endpoints : List Path :=
  decl.servedFields.map FieldSpec.endpoint ++ decl.methods.map MethodSpec.endpoint

/-- `methods_from_impl_block`. -/
def fromImplBlock : Bool :=
  decl.implBlock.isSome

def orderedEntry (name : Path) : ListingEntry S :=
  match decl.fields.find? fun field => !field.skip && field.endpoint == name with
  | some field => .field field
  | none => match decl.methods.find? fun method => method.endpoint == name with
    | some method => .signature method
    -- The derive does not see the block, so any other name is one of its endpoints.
    | none => .implNamed name

def listingEntries : List (ListingEntry S) :=
  match decl.listingOrder with
  | some order => order.map decl.orderedEntry
  -- Without an order the two tables of the block come last, as wholes.
  | none =>
    decl.servedFields.map .field ++ decl.methods.map .signature ++
      (if decl.fromImplBlock then [.implSignatures, .implAccessors] else [])

def expandChecks : Except String Unit :=
  passing (rejectDuplicateEndpoints decl.endpoints) <|
    match decl.listingOrder with
    | some order => validateListingOrder order decl.endpoints decl.fromImplBlock
    | none => .ok ()

/-- The assertions between the two macros, over the names they publish. -/
def handshake (published : PublishedItems S) : Except String Unit :=
  passing (assertNoEndpointCollision decl.endpoints published.repeMethodSignatures
    published.repeAccessorEndpoints) <|
    match decl.listingOrder with
    -- The tables of a block that did not parse are marked, but it does not compile either.
    | some order => assertListingOrder order decl.endpoints published.repeMethodSignatures
        published.repeAccessorEndpoints false
    | none => .ok ()

end StructDecl

/-- A struct that compiled, with what its impl block publishes. -/
structure Expansion (S : Type) where
  decl : StructDecl S
  published : PublishedItems S

/-- Expand both macros and evaluate their assertions: the generated code, or the first error. -/
def StructDecl.compile (decl : StructDecl S) : Except String (Expansion S) :=
  passing decl.expandChecks <|
    match decl.implBlock with
    | none => .ok ⟨decl, .empty⟩
    | some items =>
      match collectMethods items with
      | .error message => .error message
      | .ok published => passing (decl.handshake published) (.ok ⟨decl, published⟩)

end Checks

end Repe.Derive
