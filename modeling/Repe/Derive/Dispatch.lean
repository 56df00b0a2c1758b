import Repe.Derive.Expand

/-! The code the macros generate: one family of match arms and one listing, emitted once for the
exclusive borrow and once for the shared one. -/

namespace Repe.Derive

/-- `Borrow`: which borrow of `self` a generated body has. -/
inductive Borrow where
  | exclusive
  | shared
  deriving DecidableEq, Repr

namespace Borrow

/-- What a generated body returns: under a shared borrow it may decline. -/
abbrev Return : Borrow → Type
  | exclusive => StructResult
  | shared => Option StructResult

/-- `ok` and `refuse`: an answer in the shape of the borrow. -/
def answer : (borrow : Borrow) → StructResult → borrow.Return
  | exclusive, result => result
  | shared, result => some result

/-- `prepend`: a child's error below its endpoint. -/
def prepend (key : Path) : (borrow : Borrow) → borrow.Return → borrow.Return
  | exclusive, result => Exec.mapErr (prependPath key) result
  | shared, result => Option.map (Exec.mapErr (prependPath key)) result

/-- `Ok(())` in the shape of the borrow. -/
def produced : (borrow : Borrow) → borrow.Return → Bool
  | exclusive, .ok () => true
  | exclusive, .err _ => false
  | exclusive, .panic => false
  | shared, some (.ok ()) => true
  | shared, some (.err _) => false
  | shared, some .panic => false
  | shared, none => false

/-- An entry that returned this rewinds its object; one that unwound does not get there. -/
def rewinds : (borrow : Borrow) → borrow.Return → Bool
  | exclusive, .ok () => false
  | exclusive, .err _ => true
  | exclusive, .panic => false
  | shared, some (.ok ()) => false
  | shared, some (.err _) => true
  | shared, some .panic => false
  | shared, none => true

variable {S : Type} (borrow : Borrow)

def respond (s : S) (out : ResponseBody) (result : StructResult) : S × Reply borrow.Return :=
  (s, ⟨out, [], borrow.answer result⟩)

/-- An arm the shared borrow has only where it is able to serve it, and declines elsewhere. -/
def serving (able : Bool) (s : S) (out : ResponseBody) (served : S × Reply borrow.Return) :
    S × Reply borrow.Return :=
  match borrow, served with
  | exclusive, served => served
  -- A decline leaves the body as it was found.
  | shared, served => if able then served else (s, ⟨out, [], none⟩)

end Borrow

section Arms

variable {S A R T : Type} (structio : Structio) (borrow : Borrow)

def endpointPath (endpoint : Path) : Path :=
  '/' :: endpoint

/-- `call_and_emit`: call a user function and turn what it returned into a response. -/
def callAndEmit (ident path : Path) (function : Receiver S A R)
    (emitOk : ResponseBody → R → ResponseBody) (s : S) (args : A) (out : ResponseBody) :
    S × Reply borrow.Return :=
  match function.invoke s args with
  -- Whether the call succeeded or not, the function was called.
  | (s, .ok value) => (s, ⟨emitOk out value, [ident], borrow.answer (.ok ())⟩)
  | (s, .err message) => (s, ⟨out, [ident], borrow.answer (.err (.execution path message))⟩)
  | (s, .panic) => (s, ⟨out, [ident], borrow.answer .panic⟩)

/-- Read a body over the value at a place, and acknowledge it. -/
def readAndAck (place : Place S T) (reader : ServableRead T) (path : Path) (s : S)
    (body : RequestBody) (out : ResponseBody) : S × Reply borrow.Return :=
  match reader.readInto path body (place.get s) with
  | (.ok (), value) => borrow.respond (place.set value s) (out.writeNull structio) (.ok ())
  -- What was read before the fault stays.
  | (failed, value) => borrow.respond (place.set value s) out failed

def childCall (place : Place S T) (child : RepeStruct T) (s : S) (segments : List Path)
    (body : Option RequestBody) (out : ResponseBody) : S × Reply borrow.Return :=
  match borrow with
  | .exclusive =>
    let called := child.repeHandleInto (place.get s) segments body out
    (place.set called.1 s, called.2)
  | .shared => (s, child.repeSharedInto (place.get s) segments body out)

/-- A child's reply, with its errors below the child's endpoint. -/
def prependReply (key : Path) (served : S × Reply borrow.Return) : S × Reply borrow.Return :=
  (served.1, { served.2 with returned := borrow.prepend key served.2.returned })

variable (s : S) (segments tail : List Path) (body : Option RequestBody) (out : ResponseBody)

def emitLeaf (writer : ServableWrite T) (typed : Option (ServableWrite T)) (out : ResponseBody)
    (value : T) : ResponseBody :=
  match typed with
  | some slice => out.writeTypedSlice slice value
  | none => out.write writer value

/-- One arm of `build_field_arms`. -/
def fieldArm (field : FieldSpec S) : S × Reply borrow.Return :=
  match field.shape with
  | .nested place child =>
    -- A write below a read-only field changes it as surely as a write at it.
    if field.readonly && body.isSome then
      borrow.respond s out (.err (.bodyUnexpected (pathFromSegments segments)))
    else prependReply borrow field.endpoint (childCall borrow place child s tail body out)
  | .leaf place writer reader typed =>
    -- A leaf has nothing below it.
    if !tail.isEmpty then borrow.respond s out (.err (.invalidSubpath (pathFromSegments segments)))
    else match body with
      | none => borrow.respond s (emitLeaf writer typed out (place.get s)) (.ok ())
      | some body =>
        if field.readonly then
          borrow.respond s out (.err (.bodyUnexpected (pathFromSegments segments)))
        else borrow.serving false s out
          (readAndAck structio borrow place reader (endpointPath field.endpoint) s body out)

def decodeMethodArgs (method : MethodSpec S) : Except StructError method.A :=
  match method.arguments with
  -- Whatever the body holds is ignored.
  | .none value => .ok value
  | .one _ _ reader default =>
    match body with
    | some body => reader.read default (endpointPath method.endpoint) body
    | none => .error (.bodyExpected (pathFromSegments segments))
  | .several _ decode =>
    match body with
    | some body => decode (endpointPath method.endpoint) body
    | none => .error (.bodyExpected (pathFromSegments segments))

def emitPayload (payload : Option (ServableWrite R)) (out : ResponseBody) (value : R) :
    ResponseBody :=
  match payload with
  | some writer => out.write writer value
  | none => out.writeNull structio

/-- `build_method_arm`. -/
def methodArm (method : MethodSpec S) : S × Reply borrow.Return :=
  -- The receiver decides, before anything is looked at.
  borrow.serving method.function.isRef s out <|
    if !tail.isEmpty then borrow.respond s out (.err (.invalidSubpath (pathFromSegments segments)))
    else match decodeMethodArgs segments body method with
      | .error error => borrow.respond s out (.err error)
      | .ok args => callAndEmit borrow method.methodIdent (endpointPath method.endpoint)
          method.function (emitPayload structio method.payload) s args out

/-- The read half of `build_accessor_arm`. -/
def getterArm (get : Getter S) : S × Reply borrow.Return :=
  borrow.serving get.function.isRef s out <|
    callAndEmit borrow get.methodIdent (endpointPath get.endpoint) get.function
      (emitLeaf get.writer get.typed) s () out

/-- The write half of `build_accessor_arm`. -/
def setterArm (path : Path) (set : Setter S) (body : RequestBody) : S × Reply borrow.Return :=
  borrow.serving false s out <|
    match set.reader.read set.default path body with
    | .error error => borrow.respond s out (.err error)
    | .ok argument => callAndEmit borrow set.methodIdent path set.function
        (fun out _ => out.writeNull structio) s argument out

/-- `build_accessor_arm`. -/
def accessorArm (accessor : AccessorSpec S) : S × Reply borrow.Return :=
  if !tail.isEmpty then borrow.respond s out (.err (.invalidSubpath (pathFromSegments segments)))
  else match body with
    | none => getterArm borrow s out accessor.get
    | some body =>
      match accessor.set with
      | none => borrow.respond s out (.err (.bodyUnexpected (pathFromSegments segments)))
      | some set => setterArm structio borrow s out (endpointPath accessor.endpoint) set body

/-- `repe_call_into` and `repe_call_shared_into`. -/
def repeCall (published : PublishedItems S) : S × Reply borrow.Return :=
  match segments with
  -- The table has no root of its own.
  | [] => borrow.respond s out (.err (.invalidPath []))
  | head :: tail =>
    match published.methods.find? fun method => method.endpoint == head with
    | some method => methodArm structio borrow s segments tail body out method
    | none =>
      match published.accessors.find? fun accessor => accessor.endpoint == head with
      | some accessor => accessorArm structio borrow s segments tail body out accessor
      | none => borrow.respond s out (.err (.invalidPath (pathFromSegments segments)))

end Arms

section Listing

variable {S : Type} (structio : Structio) (borrow : Borrow)

structure Progress (S : Type) where
  self_ : S
  obj : ObjectBody
  calls : List Path

/-- A listing so far, or where it was left and what was returned there. -/
abbrev Walk (S : Type) (borrow : Borrow) := Except (Progress S × borrow.Return) (Progress S)

/-- `listing_entry`: a key and its value. -/
def Progress.entry {T : Type} (writer : ServableWrite T) (progress : Progress S) (name : Path)
    (value : T) : Progress S :=
  { progress with obj := progress.obj.entry structio writer name value }

/-- `entry_with` and `entry_try_with`: a key, and a value that the callee writes. -/
def Progress.entryWith (progress : Progress S) (name : Path)
    (produce : S → ResponseBody → S × Reply borrow.Return) : Walk S borrow :=
  let opened := progress.obj.key structio name
  -- The callee writes into a body inside the object, and nowhere else.
  let (s, reply) := produce progress.self_ opened.valueBody
  let buf := if borrow.rewinds reply.returned then reply.out.buf.take opened.start else reply.out.buf
  let after : Progress S := ⟨s, { opened with buf }, progress.calls ++ reply.calls⟩
  if borrow.produced reply.returned then .ok after else .error (after, reply.returned)

variable (published : PublishedItems S)

/-- The entry of an accessor, whose value comes back through the method table. -/
def accessorEntry (progress : Progress S) (name : Path) : Walk S borrow :=
  progress.entryWith structio borrow name fun s out =>
    repeCall structio borrow s [name] none out published

/-- What `build_listing` emits for an entry. -/
def writeEntry (progress : Progress S) : ListingEntry S → Walk S borrow
  | .field field =>
    match field.shape with
    | .nested place child =>
      progress.entryWith structio borrow field.endpoint fun s out =>
        prependReply borrow field.endpoint (childCall borrow place child s [] none out)
    -- A typed field too is written as the enclosing object is.
    | .leaf place writer _ _ =>
      .ok (progress.entry structio writer field.endpoint (place.get progress.self_))
  | .signature method =>
    .ok (progress.entry structio structio.text method.endpoint method.signatureDisplay)
  | .implNamed name =>
    -- Which of the two tables the name is in is a constant.
    match listedSignature published.repeMethodSignatures name with
    | some signature => .ok (progress.entry structio structio.text name signature)
    | none => accessorEntry structio borrow published progress name
  | .implSignatures => .ok <| published.repeMethodSignatures.foldl
      (fun progress method => progress.entry structio structio.text method.1 method.2) progress
  | .implAccessors =>
    published.repeAccessorEndpoints.foldlM (accessorEntry structio borrow published) progress

/-- How many members `build_listing` counts for an entry. -/
def ListingEntry.count : ListingEntry S → Nat
  | .implSignatures => published.repeMethodSignatures.length
  | .implAccessors => published.repeAccessorEndpoints.length
  | _ => 1

end Listing

namespace Expansion

variable {S : Type} (structio : Structio) (borrow : Borrow) (expansion : Expansion S)

def entryCount : Nat :=
  (expansion.decl.listingEntries.map (ListingEntry.count expansion.published)).sum

/-- The entries of a listing, between `object` and `finish`. -/
def walk (s : S) (out : ResponseBody) : Walk S borrow :=
  expansion.decl.listingEntries.foldlM (writeEntry structio borrow expansion.published)
    ⟨s, out.object structio expansion.entryCount, []⟩

/-- `build_listing`. -/
def listing (s : S) (out : ResponseBody) : S × Reply borrow.Return :=
  match expansion.walk structio borrow s out with
  -- An entry that failed or declined has already rewound the object.
  | .error (left, returned) => (left.self_, ⟨out.reclaim left.obj, left.calls, returned⟩)
  | .ok done =>
    match done.obj.finish with
    | some closed => (done.self_, ⟨out.reclaim closed, done.calls, borrow.answer (.ok ())⟩)
    | none => (done.self_, ⟨out.reclaim done.obj, done.calls, borrow.answer .panic⟩)

def listingDeclineTerms (s : S) : List Bool :=
  (if expansion.decl.fromImplBlock then [expansion.published.repeListingNeedsExclusive] else []) ++
    expansion.decl.servedFields.filterMap fun field =>
      match field.shape with
      | .nested place child => some (child.repeListingDeclines (place.get s))
      | .leaf _ _ _ _ => none

def repeListingDeclines (s : S) : Bool :=
  (expansion.listingDeclineTerms s).any id

def sharedBodyTerms : List Bool :=
  if expansion.decl.noReplace || expansion.decl.methods.any fun method =>
      method.function.isRef && !method.arguments.params.isEmpty then [true]
  -- A refusal needs no exclusive borrow, whatever the other fields are.
  else if expansion.decl.servedFields.any fun field => field.readonly then [true]
  else (if expansion.decl.fromImplBlock then [expansion.published.repeSharedServesBodies] else []) ++
    expansion.decl.servedFields.filterMap fun field =>
      match field.shape with
      | .nested _ child => some child.repeSharedServesBodies
      | .leaf _ _ _ _ => none

def root (s : S) (body : Option RequestBody) (out : ResponseBody) : S × Reply borrow.Return :=
  match body with
  | some body =>
    if expansion.decl.noReplace then borrow.respond s out (.err (.bodyUnexpected []))
    else borrow.serving false s out <|
      readAndAck structio borrow ⟨id, fun value _ => value, fun _ => rfl⟩ expansion.decl.reader []
        s body out
  -- Settled before the shared listing writes or calls anything.
  | none => borrow.serving (!expansion.repeListingDeclines s) s out
      (expansion.listing structio borrow s out)

/-- The body of `repe_handle_into` and of `repe_shared_into`. -/
def dispatch (s : S) (segments : List Path) (body : Option RequestBody) (out : ResponseBody) :
    S × Reply borrow.Return :=
  match segments with
  | [] => expansion.root structio borrow s body out
  | head :: tail =>
    -- What the struct declares comes before what its block publishes.
    match expansion.decl.servedFields.find? fun field => field.endpoint == head with
    | some field => fieldArm structio borrow s segments tail body out field
    | none =>
      match expansion.decl.methods.find? fun method => method.endpoint == head with
      | some method => methodArm structio borrow s segments tail body out method
      | none =>
        if expansion.decl.fromImplBlock then
          repeCall structio borrow s segments body out expansion.published
        else borrow.respond s out (.err (.invalidPath (pathFromSegments segments)))

end Expansion

end Repe.Derive
