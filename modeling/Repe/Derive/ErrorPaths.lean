import Repe.Derive.ListingLaws
import Repe.Derive.MethodArgsLaws
import Repe.Derive.Obligations

/-! The paths that errors name: every level of nesting puts its own segment in front of what its child
reported, and at the top the path is that of the request. -/

namespace Repe.Derive

section Paths

def StructError.path : StructError → Path
  | .invalidPath path => path
  | .invalidSubpath path => path
  | .bodyExpected path => path
  | .bodyUnexpected path => path
  | .decode path _ => path
  | .arguments path _ => path
  | .execution path _ => path

theorem path_prependPath (segment : Path) (error : StructError) :
    (prependPath segment error).path = withPrefix segment error.path := by
  cases error <;> rfl

def StructError.isExecution : StructError → Bool
  | .execution _ _ => true
  | _ => false

theorem isExecution_prependPath (segment : Path) (error : StructError) :
    (prependPath segment error).isExecution = error.isExecution := by
  cases error <;> rfl

theorem endpointPath_eq (endpoint : Path) : endpointPath endpoint = pathFromSegments [endpoint] := by
  simp [endpointPath, pathFromSegments]

/-- What stands behind the path of a method where one of its arguments does not decode. -/
def argumentLabel (name : Path) : Path := '(' :: name ++ [')']

/-- A segment in front of a path is one more segment of it; a label stays where it is. -/
theorem withPrefix_append {segment : Path} (named : segment ≠ []) {segments : List Path} {label : Path}
    (attached : segments = [] → label = []) :
    withPrefix segment (pathFromSegments segments ++ label) =
      pathFromSegments (segment :: segments) ++ label := by
  -- An empty segment would be left out, and a path without its separator would get one.
  have given : segment.isEmpty = false := by simpa using named
  cases segments with
  | nil =>
    -- The child spoke of itself, and its path is empty.
    rw [attached rfl]
    simp [withPrefix, pathFromSegments, given]
  | cons head tail =>
    -- Every other path begins with its separator.
    simp [withPrefix, pathFromSegments, given]

theorem withPrefix_pathFromSegments {segment : Path} (named : segment ≠ []) (segments : List Path) :
    withPrefix segment (pathFromSegments segments) = pathFromSegments (segment :: segments) := by
  have plain : segments = [] → ([] : Path) = [] := fun _ => rfl
  simpa using withPrefix_append named plain

end Paths

section Arguments

/-- The arguments of a method as `decode_method_args` binds them. -/
inductive Arguments.Generated : {A : Type} → Arguments A → Prop where
  | none {A : Type} (value : A) : Generated (.none value)
  | one {A : Type} (name type : Path) (reader : ServableRead A) (default : A) :
    Generated (.one name type reader default)
  | several {J B : Type} (structio : Splitting J B) (params : List Param) (two : 2 ≤ params.length) :
    Generated (severalArguments structio params)

variable {J B : Type} (structio : Splitting J B) (path : Path) (names : List Path)

/-- An error at a path, with nothing behind it and before anything was called. -/
def RefusedAt (path : Path) (error : StructError) : Prop :=
  error.isExecution = false ∧ error.path = path

theorem checkArity_names (got : Nat) : (checkArity path names got).FailsOnly (RefusedAt path) := by
  rw [checkArity]
  -- The one error it has names the path it is given.
  split
  · exact Except.failsOnly_ok ()
  · exact Except.failsOnly_error ⟨rfl, rfl⟩

theorem walked_names {α : Type} (walked : Except StructioError α) :
    (walked.mapError (StructError.decode path)).FailsOnly (RefusedAt path) := by
  apply Except.failsOnly_mapError
  exact fun _ => ⟨rfl, rfl⟩

/-- A body that is walked over and then counted is refused at the path of the method, if it is. -/
theorem counted_names {α σ : Type} (walked : Except StructioError α) (count : α → Nat)
    (source : α → σ) :
    ((walked.mapError (StructError.decode path)).bind fun value =>
      (checkArity path names (count value)).bind fun _ => .ok (source value)).FailsOnly
        (RefusedAt path) := by
  -- The walk is reported first, and then the count.
  apply (walked_names path walked).bind
  intro value
  apply (checkArity_names path names (count value)).bind
  exact fun _ => Except.failsOnly_ok (source value)

theorem splitJson_names (bytes : Bytes) :
    (splitJson structio path names bytes).FailsOnly (RefusedAt path) := by
  rw [splitJson]
  split
  · exact Except.failsOnly_error ⟨rfl, rfl⟩
  · -- An array, an object, or neither.
    split
    · exact counted_names path names _ (List.length ∘ Prod.fst) Prod.fst
    · exact walked_names path _
    · exact Except.failsOnly_error ⟨rfl, rfl⟩

theorem splitBeve_names (bytes : Bytes) :
    (splitBeve structio path names bytes).FailsOnly (RefusedAt path) := by
  rw [splitBeve]
  -- One case for each shape that the header gives the body.
  split
  · exact counted_names path names _ (List.length ∘ Prod.fst) (ArgSource.spans ∘ Prod.fst)
  · exact (walked_names path _).map ArgSource.spans
  · exact counted_names path names _ Prod.snd fun _ => ArgSource.cursor (structio.documents bytes)
  · exact counted_names path names _ Prod.snd fun _ => ArgSource.cursor (structio.documents bytes)
  · exact Except.failsOnly_error ⟨rfl, rfl⟩

theorem MethodArgs.new_names (body : RequestBody) :
    (MethodArgs.new structio path names body).FailsOnly (RefusedAt path) := by
  rw [MethodArgs.new]
  apply Except.FailsOnly.map
  -- A body is split in its own format.
  split
  · exact splitBeve_names structio path names body.bytes
  · exact (splitJson_names structio path names body.bytes).map ArgSource.spans

def ArgumentError (path name : Path) (error : StructError) : Prop :=
  ∃ source, error = .decode (path ++ argumentLabel name) source

variable {structio path names}

theorem ServableRead.read_names {T : Type} (reader : ServableRead T) (default : T) (body : RequestBody) :
    (reader.read default path body).FailsOnly fun error => ∃ source, error = .decode path source := by
  rw [ServableRead.read]
  -- A reader fails with a decode error under its path.
  split
  · exact Except.failsOnly_ok _
  · exact Except.failsOnly_error ⟨_, rfl⟩

/-- An argument that does not decode is reported under its name. -/
theorem MethodArgs.nextArg_names {args : MethodArgs} {name : Path} (param : Param)
    (here : args.names[args.index]? = some name) :
    (args.nextArg structio param).1.FailsOnly (ArgumentError args.path name) := by
  -- The index is inside the names, so the label has a name and no question mark.
  have label : args.path ++ '(' :: args.names[args.index]?.getD "?".toList ++ [')'] =
      args.path ++ argumentLabel name := by
    rw [here, Option.getD_some, List.append_assoc]
    rfl
  rw [nextArg, label]
  -- Out of its span, or out of the element it is next in.
  cases args.source with
  | spans spans => exact param.reader.read_names param.default _
  | cursor documents =>
    cases documents with
    | nil => exact Except.failsOnly_error ⟨_, rfl⟩
    | cons document rest => exact Except.failsOnly_mapError (fun _ => ⟨_, rfl⟩) _

theorem MethodArgs.nextArg_moved (structio : Splitting J B) (args : MethodArgs) (param : Param) :
    (args.nextArg structio param).2.path = args.path ∧
      (args.nextArg structio param).2.names = args.names ∧
      (args.nextArg structio param).2.index = args.index + 1 := by
  rw [nextArg]
  -- Spans are found by their index, and a cursor drops its first document.
  cases args.source with
  | spans spans => exact ⟨rfl, rfl, rfl⟩
  | cursor documents => cases documents <;> exact ⟨rfl, rfl, rfl⟩

/-- The arguments are bound under the names of their parameters. -/
theorem bindArgs_names (params : List Param) (args : MethodArgs)
    (left : args.names.drop args.index = params.map Param.name) :
    (bindArgs structio params args).FailsOnly fun error =>
      ∃ param ∈ params, ArgumentError args.path param.name error := by
  -- By induction on the parameters; the names that are left are theirs.
  induction params generalizing args with
  | nil => exact Except.failsOnly_ok ()
  | cons param params ih =>
    rw [List.map_cons] at left
    have here : args.names[args.index]? = some param.name := by
      rw [← List.head?_drop, left]
      rfl
    obtain ⟨path, names, index⟩ := MethodArgs.nextArg_moved structio args param
    have later : (args.nextArg structio param).2.names.drop (args.nextArg structio param).2.index =
        params.map Param.name := by
      rw [names, index, ← List.tail_drop, left]
      rfl
    have rest := ih _ later
    rw [path] at rest
    rw [bindArgs]
    -- The first that fails is reported, so either this one or one of the rest.
    apply Except.FailsOnly.bind
    · exact (MethodArgs.nextArg_names param here).mono
        fun error failed => ⟨param, List.mem_cons_self, failed⟩
    · intro value
      apply Except.FailsOnly.map
      intro error failed
      obtain ⟨other, member, failed⟩ := rest error failed
      exact ⟨other, List.mem_cons_of_mem _ member, failed⟩

/-- Several arguments fail at the path of their method, with the name of the one that did not decode. -/
theorem decodeSeveral_names (params : List Param) (path : Path) (body : RequestBody) :
    (decodeSeveral structio params path body).FailsOnly fun error =>
      RefusedAt path error ∨ ∃ param ∈ params, ArgumentError path param.name error := by
  rw [decodeSeveral]
  cases split : MethodArgs.new structio path (params.map Param.name) body with
  | error error =>
    exact Except.failsOnly_error (.inl (MethodArgs.new_names structio path _ body error split))
  | ok args =>
    -- The path and the names are those that were given, and none is used up.
    rw [MethodArgs.new, Except.map_eq_ok] at split
    obtain ⟨source, _, rfl⟩ := split
    exact (bindArgs_names params _ rfl).mono fun error failed => .inr failed

end Arguments

namespace Declaration

variable {S : Type}

/-- The method a declaration is, on the struct or in its block. -/
def method? : Declaration S → Option (MethodSpec S)
  | listed spec => some spec
  | method spec => some spec
  | field _ => none
  | accessor _ => none

/-- A function behind the declaration can fail with this message. -/
def Fails (message : String) : Declaration S → Prop
  | field _ => False
  | listed spec => ∃ s args, (spec.function.invoke s args).2 = .err message
  | method spec => ∃ s args, (spec.function.invoke s args).2 = .err message
  | accessor spec => (∃ s, (spec.get.function.invoke s ()).2 = .err message) ∨
      ∃ (set : Setter S) (s : S) (value : set.A), spec.set = some set ∧
        (set.function.invoke s value).2 = .err message

theorem fails_of_method {declaration : Declaration S} {spec : MethodSpec S} {message : String} {s : S}
    {args : spec.A} (same : declaration.method? = some spec)
    (failed : (spec.function.invoke s args).2 = .err message) : declaration.Fails message := by
  -- A field and an accessor are no methods.
  cases declaration with
  | field other => cases same
  | accessor other => cases same
  | listed other =>
    cases same
    exact ⟨s, args, failed⟩
  | method other =>
    cases same
    exact ⟨s, args, failed⟩

end Declaration

section Trees

variable (structio : Structio)

/-- A declaration somewhere in a tree of derived structs, at the path it is published under. -/
inductive Publishes : {S : Type} → RepeStruct S → List Path → {T : Type} → Declaration T → Prop where
  | own {S : Type} {expansion : Expansion S} {declaration : Declaration S}
    (formed : expansion.WellFormed) (member : declaration ∈ expansion.declarations) :
    Publishes (expansion.repeStruct structio) [declaration.endpoint] declaration
  | inside {S T U : Type} {expansion : Expansion S} {field : FieldSpec S} {place : Place S T}
    {child : RepeStruct T} {path : List Path} {declaration : Declaration U}
    (formed : expansion.WellFormed) (member : field ∈ expansion.decl.servedFields)
    (nested : field.shape = .nested place child) (published : Publishes child path declaration) :
    Publishes (expansion.repeStruct structio) (field.endpoint :: path) declaration
  | optional {S T : Type} {inner : RepeStruct S} {path : List Path} {declaration : Declaration T}
    (published : Publishes inner path declaration) :
    Publishes (inner.optional structio) path declaration

def Receiver.Calm {S A R : Type} (function : Receiver S A R) : Prop :=
  ∀ s args, (function.invoke s args).2 ≠ .panic

def Declaration.Calm {S : Type} : Declaration S → Prop
  | field _ => True
  | listed spec => spec.function.Calm
  | method spec => spec.function.Calm
  | accessor spec => spec.get.function.Calm ∧ ∀ set, spec.set = some set → set.function.Calm

/--
Trees of derived structs, some of them optional, in which every endpoint has a name and no function
panics.
-/
inductive Derived : {S : Type} → RepeStruct S → Prop where
  | optional {S : Type} {inner : RepeStruct S} (derived : Derived inner) :
    Derived (inner.optional structio)
  | struct {S : Type} {decl : StructDecl S} {expansion : Expansion S}
    (accepted : decl.compile = .ok expansion) (named : ∀ name ∈ expansion.names, name ≠ [])
    (generated : ∀ method ∈ expansion.decl.methods ++ expansion.published.methods,
      method.arguments.Generated)
    (calm : ∀ declaration ∈ expansion.declarations, declaration.Calm)
    (children : ∀ field ∈ expansion.decl.servedFields, ∀ {T : Type} (place : Place S T)
      (child : RepeStruct T), field.shape = .nested place child → Derived child) :
    Derived (expansion.repeStruct structio)

variable {S : Type}

/-- What an error of a request says about where it comes from. -/
inductive Reported (served : RepeStruct S) (segments : List Path) (body : Option RequestBody) :
    StructError → Prop where
  /-- The request was refused at its path; reading the whole of what is served is not. -/
  | refused {error : StructError} (asked : segments ≠ [] ∨ body.isSome = true)
    (refusal : error.isExecution = false) (names : error.path = pathFromSegments segments) :
    Reported served segments body error
  /-- An argument of the method at the path of the request did not decode, and stands behind it. -/
  | argument {T : Type} {declaration : Declaration T} {method : MethodSpec T} {name : Path}
    {error : StructError} (published : Publishes structio served segments declaration)
    (takes : declaration.method? = some method) (several : 2 ≤ method.arguments.params.length)
    (given : body.isSome = true) (param : name ∈ method.arguments.params.map Prod.fst)
    (names : ArgumentError (pathFromSegments segments) name error) :
    Reported served segments body error
  /-- A function of the endpoint at the path of the request failed. -/
  | called {T : Type} {declaration : Declaration T} {message : String}
    (published : Publishes structio served segments declaration)
    (failed : declaration.Fails message) :
    Reported served segments body (.execution (pathFromSegments segments) message)
  /-- A getter failed as an object around it was listed, and is named by its own path. -/
  | getter {T : Type} {accessor : AccessorSpec T} {below : List Path} {message : String}
    (published : Publishes structio served (segments ++ below) (.accessor accessor))
    (deeper : below ≠ []) (read : body = none)
    (failed : ∃ s, (accessor.get.function.invoke s ()).2 = .err message) :
    Reported served segments body (.execution (pathFromSegments (segments ++ below)) message)

variable {structio}

theorem Publishes.ne_nil {T : Type} {served : RepeStruct S} {path : List Path}
    {declaration : Declaration T} (published : Publishes structio served path declaration) :
    path ≠ [] := by
  -- Every step down the tree has a name, and an optional child adds none.
  induction published with
  | own formed member => exact List.cons_ne_nil _ _
  | inside formed member nested published ih => exact List.cons_ne_nil _ _
  | optional published ih => exact ih

namespace Reported

variable {T : Type} {expansion : Expansion S} {field : FieldSpec S} {place : Place S T}
  {child : RepeStruct T} {tail : List Path} {body : Option RequestBody} {error : StructError}

/-- An error of a child, with the child's endpoint in front, is one of the request that was handed on. -/
theorem prepend (formed : expansion.WellFormed) (member : field ∈ expansion.decl.servedFields)
    (nested : field.shape = .nested place child) (named : field.endpoint ≠ [])
    (reported : Reported structio child tail body error) :
    Reported structio (expansion.repeStruct structio) (field.endpoint :: tail) body
      (prependPath field.endpoint error) := by
  -- One case for each source of an error; in all of them one segment comes in front.
  cases reported with
  | refused asked refusal names =>
    refine .refused (.inl (List.cons_ne_nil _ _)) ?_ ?_
    · rw [isExecution_prependPath, refusal]
    · rw [path_prependPath, names, withPrefix_pathFromSegments named]
  | argument published takes several given param names =>
    obtain ⟨source, rfl⟩ := names
    refine .argument (.inside formed member nested published) takes several given param ⟨source, ?_⟩
    -- A method has a path below its struct, so there is something for the label to stand behind.
    rw [prependPath, withPrefix_append named fun empty => absurd empty published.ne_nil]
  | called published failed =>
    rw [prependPath, withPrefix_pathFromSegments named]
    exact .called (.inside formed member nested published) failed
  | getter published deeper read failed =>
    rw [prependPath, withPrefix_pathFromSegments named]
    exact .getter (.inside formed member nested published) deeper read failed

/-- An error of a child that is listed is one of the listing around it. -/
theorem prepend_listing (formed : expansion.WellFormed) (member : field ∈ expansion.decl.servedFields)
    (nested : field.shape = .nested place child) (named : field.endpoint ≠ [])
    (reported : Reported structio child [] none error) :
    Reported structio (expansion.repeStruct structio) [] none (prependPath field.endpoint error) := by
  -- A child that is read as a whole is neither refused nor called, so only its getters can fail.
  cases reported with
  | refused asked refusal names => simp at asked
  | argument published takes several given param names => cases given
  | called published failed => exact absurd rfl published.ne_nil
  | @getter _ accessor below message published deeper read failed =>
    -- The getter is one segment further below.
    rw [prependPath, withPrefix_pathFromSegments named]
    have further : Publishes structio (expansion.repeStruct structio)
      ([] ++ field.endpoint :: ([] ++ below)) (.accessor accessor) := .inside formed member nested published
    exact .getter further (List.cons_ne_nil _ _) rfl failed

theorem optional {inner : RepeStruct S} {segments : List Path}
    (reported : Reported structio inner segments body error) :
    Reported structio (inner.optional structio) segments body error := by
  -- Only what is published moves below the option; the path is the same.
  cases reported with
  | refused asked refusal names => exact .refused asked refusal names
  | argument published takes several given param names =>
    exact .argument (.optional published) takes several given param names
  | called published failed => exact .called (.optional published) failed
  | getter published deeper read failed =>
    exact .getter (.optional published) deeper read failed

end Reported

end Trees

section Borrows

variable {S A R T : Type} {structio : Structio} {borrow : Borrow} {holds : StructError → Prop}
variable {s : S} {out : ResponseBody}

/-- What a generated body returns fails only in a way that meets a condition; it may decline. -/
def Borrow.FailsOnly (holds : StructError → Prop) : (borrow : Borrow) → borrow.Return → Prop
  | exclusive, result => Exec.FailsOnly holds result
  | shared, some result => Exec.FailsOnly holds result
  | shared, none => True

theorem Borrow.FailsOnly.mono {other : StructError → Prop} {returned : borrow.Return}
    (fails : borrow.FailsOnly holds returned) (weaker : ∀ error, holds error → other error) :
    borrow.FailsOnly other returned := by
  -- A shared attempt that declines has no error.
  cases borrow with
  | exclusive => exact Exec.FailsOnly.mono fails weaker
  | shared =>
    cases returned with
    | none => trivial
    | some result => exact Exec.FailsOnly.mono fails weaker

theorem failsOnly_respond {result : StructResult} (fails : Exec.FailsOnly holds result) :
    borrow.FailsOnly holds (borrow.respond s out result).2.returned := by
  cases borrow <;> exact fails

theorem failsOnly_serving {able : Bool} {served : S × Reply borrow.Return}
    (fails : borrow.FailsOnly holds served.2.returned) :
    borrow.FailsOnly holds (borrow.serving able s out served).2.returned := by
  -- An arm that is not served declines, and only a shared one can.
  cases borrow with
  | exclusive => exact fails
  | shared =>
    cases able with
    | true => exact fails
    | false => trivial

theorem failsOnly_prependReply {key : Path} {served : S × Reply borrow.Return}
    {other : StructError → Prop} (fails : borrow.FailsOnly holds served.2.returned)
    (moved : ∀ error, holds error → other (prependPath key error)) :
    borrow.FailsOnly other (prependReply borrow key served).2.returned := by
  obtain ⟨s', out', calls, returned⟩ := served
  -- A decline stays one when it is moved below an endpoint.
  cases borrow with
  | exclusive => exact Exec.FailsOnly.mapErr fails moved
  | shared =>
    cases returned with
    | none => trivial
    | some result => exact Exec.FailsOnly.mapErr fails moved

theorem failsOnly_callAndEmit {function : Receiver S A R} (calm : function.Calm) {ident path : Path}
    {emitOk : ResponseBody → R → ResponseBody} {args : A}
    (failed : ∀ message, (function.invoke s args).2 = .err message →
      holds (.execution path message)) :
    borrow.FailsOnly holds (callAndEmit borrow ident path function emitOk s args out).2.returned := by
  rw [callAndEmit]
  -- Only the function's own error becomes one of the request.
  rcases called : function.invoke s args with ⟨s', value | message | _⟩
  · cases borrow <;> trivial
  · have met := failed message (by rw [called])
    cases borrow <;> exact met
  · exact absurd (by rw [called]) (calm s args)

/-- A body that does not decode over a place is reported under the path it is read with. -/
theorem failsOnly_readAndAck {place : Place S T} {reader : ServableRead T} {path : Path}
    {body : RequestBody} (failed : ∀ source, holds (.decode path source)) :
    borrow.FailsOnly holds (readAndAck structio borrow place reader path s body out).2.returned := by
  rw [readAndAck, ServableRead.readInto]
  -- The place is written whether or not the reader fails, and the error is its own.
  rcases reader.readRaw body (place.get s) with ⟨source | _, value⟩
  · exact failsOnly_respond (failed source)
  · exact failsOnly_respond trivial

end Borrows

section Arms

variable {S : Type} (structio : Structio)

/-- An implementation whose errors all name where they come from, under either borrow. -/
structure RepeStruct.Accounts (served : RepeStruct S) : Prop where
  handled : ∀ s segments body out,
    Borrow.exclusive.FailsOnly (Reported structio served segments body)
      (served.repeHandleInto s segments body out).2.returned
  attempted : ∀ s segments body out,
    Borrow.shared.FailsOnly (Reported structio served segments body)
      (served.repeSharedInto s segments body out).returned

variable {structio} {borrow : Borrow} {expansion : Expansion S} {s : S} {tail : List Path}
  {body : Option RequestBody} {out : ResponseBody}

theorem failsOnly_childCall {T : Type} {place : Place S T} {child : RepeStruct T}
    (accounts : child.Accounts structio) {segments : List Path} :
    borrow.FailsOnly (Reported structio child segments body)
      (childCall borrow place child s segments body out).2.returned := by
  cases borrow with
  | exclusive => exact accounts.handled (place.get s) segments body out
  | shared => exact accounts.attempted (place.get s) segments body out

theorem Reported.refusedBelow {served : RepeStruct S} {head : Path} {error : StructError}
    (refusal : error.isExecution = false) (names : error.path = pathFromSegments (head :: tail)) :
    Reported structio served (head :: tail) body error :=
  .refused (.inl (List.cons_ne_nil _ _)) refusal names

theorem failsOnly_refuse {served : RepeStruct S} {head : Path} {error : StructError}
    (refusal : error.isExecution = false) (names : error.path = pathFromSegments (head :: tail)) :
    borrow.FailsOnly (Reported structio served (head :: tail) body)
      (borrow.respond s out (.err error)).2.returned :=
  failsOnly_respond (.refusedBelow refusal names)

/-- A field, whose child accounts for its own errors. -/
theorem failsOnly_fieldArm {field : FieldSpec S} (formed : expansion.WellFormed)
    (member : field ∈ expansion.decl.servedFields) (named : field.endpoint ≠ [])
    (children : ∀ {T : Type} (place : Place S T) (child : RepeStruct T),
      field.shape = .nested place child → child.Accounts structio) :
    borrow.FailsOnly (Reported structio (expansion.repeStruct structio) (field.endpoint :: tail) body)
      (fieldArm structio borrow s (field.endpoint :: tail) tail body out field).2.returned := by
  rw [fieldArm]
  cases shape : field.shape with
  | nested place child =>
    dsimp only
    split
    · exact failsOnly_refuse rfl rfl
    · -- The child knows the path below it, and this level adds the rest.
      apply failsOnly_prependReply (failsOnly_childCall (children place child shape))
      exact fun error reported => reported.prepend formed member shape named
  | leaf place writer reader typed =>
    dsimp only
    split
    · exact failsOnly_refuse rfl rfl
    · next last =>
      -- Nothing is below a leaf, so its endpoint is the whole path.
      obtain rfl : tail = [] := by simpa using last
      cases body with
      | none => exact failsOnly_respond trivial
      | some body =>
        dsimp only
        split
        · exact failsOnly_refuse rfl rfl
        · apply failsOnly_serving
          apply failsOnly_readAndAck
          exact fun source => .refusedBelow rfl (endpointPath_eq _)

/-- The arguments of a method are refused at its path, with the one of several that did not decode. -/
theorem decodeMethodArgs_names {method : MethodSpec S} (generated : method.arguments.Generated)
    (body : Option RequestBody) :
    (decodeMethodArgs [method.endpoint] body method).FailsOnly fun error =>
      RefusedAt (pathFromSegments [method.endpoint]) error ∨
        body.isSome = true ∧ 2 ≤ method.arguments.params.length ∧
          ∃ name ∈ method.arguments.params.map Prod.fst,
            ArgumentError (pathFromSegments [method.endpoint]) name error := by
  -- None cannot fail, one is the body itself, and several are split out of it.
  obtain ⟨endpoint, ident, bound, function, payload, display⟩ := method
  dsimp only at generated
  cases generated with
  | none value => exact Except.failsOnly_ok value
  | one name type reader default =>
    cases body with
    | none => exact Except.failsOnly_error (.inl ⟨rfl, rfl⟩)
    | some body =>
      show (reader.read default (endpointPath endpoint) body).FailsOnly _
      refine (reader.read_names default body).mono ?_
      rintro error ⟨source, rfl⟩
      exact .inl ⟨rfl, endpointPath_eq endpoint⟩
  | several splitting params two =>
    cases body with
    | none => exact Except.failsOnly_error (.inl ⟨rfl, rfl⟩)
    | some body =>
      rw [decodeMethodArgs_several]
      refine (decodeSeveral_names params (endpointPath endpoint) body).mono ?_
      rw [endpointPath_eq]
      rintro error (plain | ⟨param, member, failed⟩)
      · exact .inl plain
      · refine .inr ⟨rfl, ?_, param.name, ?_, failed⟩
        · simpa [severalArguments, Arguments.params] using two
        · simp only [severalArguments, Arguments.params, List.map_map]
          exact List.mem_map_of_mem member

/-- A method, wherever it is declared. -/
theorem failsOnly_methodArm {declaration : Declaration S} {method : MethodSpec S}
    (published : Publishes structio (expansion.repeStruct structio) [method.endpoint] declaration)
    (takes : declaration.method? = some method) (generated : method.arguments.Generated)
    (calm : method.function.Calm) :
    borrow.FailsOnly (Reported structio (expansion.repeStruct structio) (method.endpoint :: tail) body)
      (methodArm structio borrow s (method.endpoint :: tail) tail body out method).2.returned := by
  apply failsOnly_serving
  split
  · exact failsOnly_refuse rfl rfl
  · next last =>
    obtain rfl : tail = [] := by simpa using last
    -- Either the arguments are refused or the method is called.
    have decoded := decodeMethodArgs_names generated body
    cases args : decodeMethodArgs [method.endpoint] body method with
    | error error =>
      apply failsOnly_respond
      rcases decoded error args with ⟨refusal, plain⟩ | ⟨given, several, name, param, failed⟩
      · exact .refusedBelow refusal plain
      · exact .argument published takes several given param failed
    | ok args =>
      apply failsOnly_callAndEmit calm
      intro message failed
      rw [endpointPath_eq]
      exact .called published (Declaration.fails_of_method takes failed)

/-- An accessor that a request names. -/
theorem failsOnly_accessorArm {accessor : AccessorSpec S}
    (published : Publishes structio (expansion.repeStruct structio) [accessor.endpoint]
      (.accessor accessor)) (calm : (Declaration.accessor accessor).Calm) :
    borrow.FailsOnly
      (Reported structio (expansion.repeStruct structio) (accessor.endpoint :: tail) body)
      (accessorArm structio borrow s (accessor.endpoint :: tail) tail body out accessor).2.returned := by
  unfold accessorArm
  split
  · exact failsOnly_refuse rfl rfl
  · next last =>
    obtain rfl : tail = [] := by simpa using last
    cases body with
    | none =>
      apply failsOnly_serving
      apply failsOnly_callAndEmit calm.1
      intro message failed
      rw [endpointPath_eq]
      exact .called published (.inl ⟨s, failed⟩)
    | some body =>
      cases writes : accessor.set with
      | none => exact failsOnly_refuse rfl rfl
      | some set =>
        apply failsOnly_serving
        -- The value does not decode, or the setter refuses it.
        cases read : set.reader.read set.default (endpointPath accessor.endpoint) body with
        | error error =>
          obtain ⟨source, rfl⟩ := set.reader.read_names set.default body error read
          exact failsOnly_refuse rfl (endpointPath_eq _)
        | ok argument =>
          apply failsOnly_callAndEmit (calm.2 set writes)
          intro message failed
          rw [endpointPath_eq]
          exact .called published (.inr ⟨set, s, argument, writes, failed⟩)

end Arms

namespace Expansion

variable {S : Type} {structio : Structio} {borrow : Borrow} {expansion : Expansion S}

/-- A struct that compiled, with names for its endpoints and children that account for their errors. -/
structure Sound (structio : Structio) (expansion : Expansion S) : Prop where
  formed : expansion.WellFormed
  named : ∀ name ∈ expansion.names, name ≠ []
  generated : ∀ method ∈ expansion.decl.methods ++ expansion.published.methods,
    method.arguments.Generated
  calm : ∀ declaration ∈ expansion.declarations, declaration.Calm
  children : ∀ field ∈ expansion.decl.servedFields, ∀ {T : Type} (place : Place S T)
    (child : RepeStruct T), field.shape = .nested place child → child.Accounts structio

namespace Sound

theorem endpoint_ne_nil (sound : expansion.Sound structio) {declaration : Declaration S}
    (member : declaration ∈ expansion.declarations) : declaration.endpoint ≠ [] := by
  -- Every endpoint is one of the names.
  apply sound.named
  rw [← declarations_endpoints]
  exact List.mem_map_of_mem member

/-- One entry of a listing: a child moves its errors, and a getter names itself. -/
theorem write_names (sound : expansion.Sound structio) {declaration : Declaration S}
    (member : declaration ∈ expansion.declarations) {progress left : Progress S}
    {returned : borrow.Return}
    (stopped : declaration.write structio borrow expansion.published progress =
      .error (left, returned)) :
    borrow.FailsOnly (Reported structio (expansion.repeStruct structio) [] none) returned := by
  cases declaration with
  -- A signature is a text, and writing it cannot fail.
  | listed spec => cases stopped
  | method spec => cases stopped
  | field spec =>
    have served : spec ∈ expansion.decl.servedFields := by simpa [declarations] using member
    rw [Declaration.write, writeEntry] at stopped
    cases shape : spec.shape with
    | leaf place writer reader typed =>
      rw [shape] at stopped
      cases stopped
    | nested place child =>
      rw [shape] at stopped
      obtain ⟨-, s, out, rfl⟩ := entryWith_stopped stopped
      apply failsOnly_prependReply (failsOnly_childCall (sound.children spec served place child shape))
      exact fun error reported =>
        reported.prepend_listing sound.formed served shape (sound.endpoint_ne_nil member)
  | accessor spec =>
    have published : spec ∈ expansion.published.accessors := by simpa [declarations] using member
    rw [Declaration.write, accessorEntry] at stopped
    obtain ⟨-, s, out, rfl⟩ := entryWith_stopped stopped
    rw [sound.formed.repeCall_accessor structio borrow published]
    show borrow.FailsOnly _ (getterArm borrow s out spec.get).2.returned
    apply failsOnly_serving
    apply failsOnly_callAndEmit (sound.calm _ member).1
    intro message failed
    -- The getter's own path is one segment below what was asked for.
    have here : Publishes structio (expansion.repeStruct structio) ([] ++ [spec.endpoint])
      (.accessor spec) := .own sound.formed member
    rw [endpointPath_eq]
    exact .getter here (List.cons_ne_nil _ _) rfl ⟨s, failed⟩

/-- A listing fails only inside a getter, of the struct or of a child at any depth. -/
theorem listing_names (sound : expansion.Sound structio) (s : S) (out : ResponseBody) :
    borrow.FailsOnly (Reported structio (expansion.repeStruct structio) [] none)
      (expansion.listing structio borrow s out).2.returned := by
  rw [listing]
  cases went : expansion.walk structio borrow s out with
  | ok done =>
    -- The counts agree, so closing the object does not panic.
    obtain ⟨entries, _, holds⟩ := sound.formed.walk_holds went
    obtain ⟨closed, finished, _⟩ := holds.finish
    simp only [finished]
    cases borrow <;> trivial
  | error stopped =>
    -- One of the declarations stopped the walk.
    rw [walk, sound.formed.foldlM_listingEntries] at went
    obtain ⟨declaration, listed, progress, failed⟩ := Except.exists_of_foldlM_error went
    exact sound.write_names (mem_declarations_of_mem_listed listed) failed

/-- Every request that the generated code gets. -/
theorem dispatch_names (sound : expansion.Sound structio) (s : S) (segments : List Path)
    (body : Option RequestBody) (out : ResponseBody) :
    borrow.FailsOnly (Reported structio (expansion.repeStruct structio) segments body)
      (expansion.dispatch structio borrow s segments body out).2.returned := by
  cases segments with
  | nil =>
    rw [dispatch]
    cases body with
    | none =>
      apply failsOnly_serving
      exact sound.listing_names s out
    | some body =>
      -- The whole is refused or replaced under the empty path.
      simp only [root]
      split
      · exact failsOnly_respond (.refused (.inr rfl) rfl rfl)
      · apply failsOnly_serving
        apply failsOnly_readAndAck
        exact fun source => .refused (.inr rfl) rfl rfl
  | cons head tail =>
    -- The first segment names a declaration, or nothing is published under it.
    rw [sound.formed.dispatch_cons]
    cases found : expansion.declaration? head with
    | none => exact failsOnly_refuse rfl rfl
    | some declaration =>
      have member := List.mem_of_find?_eq_some found
      obtain rfl := endpoint_of_declaration? found
      -- What the head names answers, and knows its own endpoint.
      cases declaration with
      | field spec =>
        have served : spec ∈ expansion.decl.servedFields := by simpa [declarations] using member
        exact failsOnly_fieldArm sound.formed served (sound.endpoint_ne_nil member)
          fun place child => sound.children spec served place child
      | listed spec =>
        apply failsOnly_methodArm (.own sound.formed member) rfl
        · exact sound.generated spec (List.mem_append_left _ (by simpa [declarations] using member))
        · exact sound.calm _ member
      | method spec =>
        apply failsOnly_methodArm (.own sound.formed member) rfl
        · exact sound.generated spec (List.mem_append_right _ (by simpa [declarations] using member))
        · exact sound.calm _ member
      | accessor spec => exact failsOnly_accessorArm (.own sound.formed member) (sound.calm _ member)

theorem accounts (sound : expansion.Sound structio) :
    (expansion.repeStruct structio).Accounts structio := by
  -- One lemma about the dispatch covers both borrows.
  constructor
  · intro s segments body out
    exact sound.dispatch_names s segments body out
  · intro s segments body out
    exact sound.dispatch_names s segments body out

end Sound

end Expansion

namespace RepeStruct

variable {S : Type} {structio : Structio} {inner : RepeStruct S} {segments : List Path}
  {body : Option RequestBody}

/-- A body that says whether the child is there is refused at the path of the child. -/
theorem presenceWrite_names (refused : presenceWrite structio segments body = true) :
    Reported structio (inner.optional structio) segments body
      (.bodyUnexpected (pathFromSegments segments)) := by
  refine .refused (.inr ?_) rfl rfl
  -- A bodiless request writes no presence.
  cases body with
  | none => simp [presenceWrite] at refused
  | some body => rfl

/-- An absent child refuses at the path it was asked for. -/
theorem absentReply_names (out : ResponseBody) :
    Exec.FailsOnly (Reported structio (inner.optional structio) segments body)
      (absentReply structio segments body out).returned := by
  rw [absentReply, absentChild]
  by_cases whole : (segments.isEmpty && !body.isSome) = true
  · rw [if_pos whole]
    trivial
  · rw [if_neg whole]
    refine .refused ?_ rfl rfl
    -- It answers only a read of itself.
    cases segments with
    | cons head tail => exact .inl (List.cons_ne_nil _ _)
    | nil =>
      cases body with
      | none => exact absurd rfl whole
      | some body => exact .inr rfl

/-- A child that may be absent accounts for its errors if it does where it is present. -/
theorem Accounts.optional (accounts : inner.Accounts structio) :
    (inner.optional structio).Accounts structio := by
  constructor
  · intro s segments body out
    -- A write of the presence is refused before the child is asked.
    cases refused : presenceWrite structio segments body with
    | true =>
      rw [(optional_refuses structio refused s).2]
      exact presenceWrite_names refused
    | false =>
      -- An absent child answers by itself, and a present one for both.
      cases s with
      | none =>
        rw [(optional_absent structio refused).2]
        exact absentReply_names out
      | some value =>
        rw [(optional_present structio refused value).2]
        exact (accounts.handled value segments body out).mono fun error => Reported.optional
  · intro s segments body out
    cases refused : presenceWrite structio segments body with
    | true =>
      rw [(optional_refuses structio refused s).1]
      exact presenceWrite_names refused
    | false =>
      cases s with
      | none =>
        rw [(optional_absent structio refused).1]
        exact absentReply_names out
      | some value =>
        rw [(optional_present structio refused value).1]
        exact (accounts.attempted value segments body out).mono fun error => Reported.optional

end RepeStruct

theorem accounts_of_derived {structio : Structio} {S : Type} {served : RepeStruct S}
    (derived : Derived structio served) : served.Accounts structio := by
  -- By induction on the tree, with the children of a struct before it.
  induction derived with
  | optional _ accounts => exact accounts.optional
  | struct accepted named generated calm _ accounts =>
    obtain ⟨_, formed⟩ := StructDecl.wellFormed_of_compile accepted
    exact Expansion.Sound.accounts ⟨formed, named, generated, calm, accounts⟩

/--
Every failing request to a tree of derived structs, under either borrow: it reports an error, and the
error names the path of the request, with the argument that did not decode behind it, or the path of the
getter that failed inside a listing.
-/
theorem errors_name_full_paths (structio : Structio) {S : Type} {served : RepeStruct S}
    (derived : Derived structio served) (s : S) (segments : List Path) (body : Option RequestBody)
    (out : ResponseBody) :
    (∀ failure, (served.repeHandleInto s segments body out).2.returned = failure → failure ≠ .ok () →
      ∃ error, failure = .err error ∧ Reported structio served segments body error) ∧
    (∀ failure, (served.repeSharedInto s segments body out).returned = some failure →
      failure ≠ .ok () →
      ∃ error, failure = .err error ∧ Reported structio served segments body error) := by
  have accounts := accounts_of_derived derived
  constructor
  · -- The exclusive dispatch always returns.
    intro failure returned failed
    have fails : Exec.FailsOnly (Reported structio served segments body) failure :=
      returned ▸ accounts.handled s segments body out
    exact fails.exists_err fun _ => failed
  · intro failure returned failed
    have fails := accounts.attempted s segments body out
    rw [returned] at fails
    exact Exec.FailsOnly.exists_err fails fun _ => failed

section Rack

def unreadParam (name : String) : Param where
  name := name.toList
  type := "u8".toList
  T := Nat
  reader := ⟨fun _ value => (.error ⟨1, "expected a number"⟩, value),
    fun _ value => (.error ⟨1, "expected a number"⟩, value), fun offset => ⟨offset, "invalid UTF-8"⟩⟩
  default := 0
  nextValue _ value := (.error .io, value)
  nextValue_ok document value read := by simp

/-- A method of two arguments, the second of which is not read. -/
def tune : MethodSpec Nat where
  endpoint := "tune".toList
  methodIdent := "tune".toList
  arguments := severalArguments twoCalls [byteParam "a", unreadParam "b"]
  function := .ref fun s _ => .ok s
  payload := some byteWriter
  display := "u64".toList

def level : Getter Nat :=
  ⟨"level".toList, "level".toList, .ref fun _ _ => .err "offline", byteWriter, none⟩

def probe : StructDecl Nat where
  fields := []
  methods := []
  implBlock := some [.method tune, .getter level]
  noReplace := true
  listingOrder := none
  reader := lengthReader

def probeServed : RepeStruct Nat :=
  (⟨probe, ⟨[tune], [⟨level, none⟩]⟩⟩ : Expansion Nat).repeStruct jsonBeve

def rack : StructDecl (Option Nat) where
  fields := [⟨"probe".toList, none, false, false, .nested ⟨id, fun value _ => value, fun _ => rfl⟩
    (probeServed.optional jsonBeve)⟩]
  methods := []
  implBlock := none
  noReplace := true
  listingOrder := none
  reader := ⟨fun _ s => (.ok (), s), fun _ s => (.ok (), s), fun offset => ⟨offset, "unread"⟩⟩

def rackServed : RepeStruct (Option Nat) :=
  (⟨rack, .empty⟩ : Expansion (Option Nat)).repeStruct jsonBeve

/-- A rack with a probe is a tree of derived structs. -/
theorem rack_derived : Derived jsonBeve rackServed := by
  have probed : probe.compile = .ok ⟨probe, ⟨[tune], [⟨level, none⟩]⟩⟩ := rfl
  have racked : rack.compile = .ok ⟨rack, .empty⟩ := rfl
  have child : Derived jsonBeve probeServed := by
    refine .struct probed (by decide) ?_ ?_ fun field member => ?_
    · intro method member
      obtain rfl := List.mem_singleton.mp member
      exact .several twoCalls _ (by decide)
    · -- Neither the method nor the getter panics.
      intro declaration member
      have either : declaration = .method tune ∨ declaration = .accessor ⟨level, none⟩ := by
        simpa [Expansion.declarations, probe, StructDecl.servedFields] using member
      rcases either with rfl | rfl
      · intro s args unwinds
        cases unwinds
      · constructor
        · intro s args unwinds
          cases unwinds
        · intro setter absent
          cases absent
    · cases member
  refine .struct racked (by decide) ?_ ?_ ?_
  · intro method member
    cases member
  · intro declaration member
    obtain rfl := List.mem_singleton.mp member
    trivial
  · intro field member T place other nested
    obtain rfl := List.mem_singleton.mp member
    cases nested
    exact .optional child

/-- A listing of the rack, a call of the probe's method, and a path that nothing is published under. -/
theorem rack_errors_name_full_paths :
    ((rackServed.repeHandleInto (some 3) [] none (.withFormat [] .json)).2.returned =
        .err (.execution "/probe/level".toList "offline") ∧
      Reported jsonBeve rackServed [] none (.execution "/probe/level".toList "offline")) ∧
    ((rackServed.repeSharedInto (some 3) ["probe".toList, "tune".toList] (some ⟨[0x14, 8, 7, 8], .beve⟩)
          (.withFormat [] .json)).returned =
        some (.err (.decode "/probe/tune(b)".toList ⟨0, "unexpected end"⟩)) ∧
      Reported jsonBeve rackServed ["probe".toList, "tune".toList] (some ⟨[0x14, 8, 7, 8], .beve⟩)
        (.decode "/probe/tune(b)".toList ⟨0, "unexpected end"⟩)) ∧
    ((rackServed.repeSharedInto (some 3) ["probe".toList, "gain".toList] none
          (.withFormat [] .json)).returned =
        some (.err (.invalidPath "/probe/gain".toList)) ∧
      Reported jsonBeve rackServed ["probe".toList, "gain".toList] none
        (.invalidPath "/probe/gain".toList)) := by
  -- Each reply is evaluated, and its error is the one that the theorem speaks of.
  refine ⟨⟨rfl, ?_⟩, ⟨rfl, ?_⟩, ⟨rfl, ?_⟩⟩
  · obtain ⟨error, same, reported⟩ := (errors_name_full_paths jsonBeve rack_derived (some 3) []
      none (.withFormat [] .json)).1 (.err (.execution "/probe/level".toList "offline")) rfl
      (by rintro ⟨⟩)
    cases same
    exact reported
  · obtain ⟨error, same, reported⟩ := (errors_name_full_paths jsonBeve rack_derived (some 3)
      ["probe".toList, "tune".toList] (some ⟨[0x14, 8, 7, 8], .beve⟩) (.withFormat [] .json)).2
      (.err (.decode "/probe/tune(b)".toList ⟨0, "unexpected end"⟩)) rfl (by rintro ⟨⟩)
    cases same
    exact reported
  · obtain ⟨error, same, reported⟩ := (errors_name_full_paths jsonBeve rack_derived (some 3)
      ["probe".toList, "gain".toList] none (.withFormat [] .json)).2
      (.err (.invalidPath "/probe/gain".toList)) rfl (by rintro ⟨⟩)
    cases same
    exact reported

end Rack

end Repe.Derive
