import Repe.Derive.Dispatch

/-! The generated code as an implementation: it sees nothing of what a buffer already held. Beside it
the implementations the core crate provides, the default attempt and the one for an optional child. -/

namespace Repe.Derive

section Arms

variable {S A R T : Type} (structio : Structio) (borrow : Borrow) (front : Bytes)
variable (s : S) (segments tail : List Path) (body : Option RequestBody) (out : ResponseBody)

@[simp] theorem Borrow.respond_after (result : StructResult) :
    borrow.respond s (out.after front) result =
      (borrow.respond s out result).map id (Reply.after front) := rfl

@[simp] theorem Borrow.serving_after (able : Bool) (served : S × Reply borrow.Return) :
    borrow.serving able s (out.after front) (served.map id (Reply.after front)) =
      (borrow.serving able s out served).map id (Reply.after front) := by
  cases borrow with
  | exclusive => rfl
  | shared => cases able <;> rfl

theorem callAndEmit_after (ident path : Path) (function : Receiver S A R)
    {emitOk : ResponseBody → R → ResponseBody} (args : A)
    (emits : ∀ out value, emitOk (out.after front) value = (emitOk out value).after front) :
    callAndEmit borrow ident path function emitOk s args (out.after front) =
      (callAndEmit borrow ident path function emitOk s args out).map id (Reply.after front) := by
  -- The call is the same; only a value it returned is written, behind whatever is there.
  rw [callAndEmit, callAndEmit]
  rcases function.invoke s args with ⟨s', value | message | _⟩
  · show (s', _) = _
    rw [emits]
    rfl
  · rfl
  · rfl

@[simp] theorem readAndAck_after (place : Place S T) (reader : ServableRead T) (path : Path)
    (body : RequestBody) :
    readAndAck structio borrow place reader path s body (out.after front) =
      (readAndAck structio borrow place reader path s body out).map id (Reply.after front) := by
  rw [readAndAck, readAndAck]
  -- The acknowledgement is written behind the front, an error is not written.
  split
  · rw [ResponseBody.writeNull_after, Borrow.respond_after]
  · rw [Borrow.respond_after]

@[simp] theorem childCall_after (place : Place S T) (child : RepeStruct T) :
    childCall borrow place child s segments body (out.after front) =
      (childCall borrow place child s segments body out).map id (Reply.after front) := by
  -- The child promises the same of its own dispatch.
  cases borrow with
  | exclusive =>
    simp only [childCall, child.handle_after]
    rfl
  | shared =>
    simp only [childCall, child.shared_after]
    rfl

@[simp] theorem prependReply_after (key : Path) (served : S × Reply borrow.Return) :
    prependReply borrow key (served.map id (Reply.after front)) =
      (prependReply borrow key served).map id (Reply.after front) := rfl

@[simp] theorem emitLeaf_after (writer : ServableWrite T) (typed : Option (ServableWrite T))
    (value : T) :
    emitLeaf writer typed (out.after front) value = (emitLeaf writer typed out value).after front := by
  cases typed with
  | none => exact ResponseBody.write_after front out writer value
  | some slice => exact ResponseBody.writeTypedSlice_after front out slice value

@[simp] theorem emitPayload_after (payload : Option (ServableWrite R)) (value : R) :
    emitPayload structio payload (out.after front) value =
      (emitPayload structio payload out value).after front := by
  cases payload with
  | none => exact ResponseBody.writeNull_after structio front out
  | some writer => exact ResponseBody.write_after front out writer value

@[simp] theorem fieldArm_after (field : FieldSpec S) :
    fieldArm structio borrow s segments tail body (out.after front) field =
      (fieldArm structio borrow s segments tail body out field).map id (Reply.after front) := by
  rw [fieldArm, fieldArm]
  -- Each arm hands the front on to what it calls, and writes nothing itself.
  cases field.shape with
  | nested place child =>
    dsimp only
    split
    · rw [Borrow.respond_after]
    · rw [childCall_after, prependReply_after]
  | leaf place writer reader typed =>
    dsimp only
    split
    · rw [Borrow.respond_after]
    · cases body with
      | none =>
        dsimp only
        rw [emitLeaf_after, Borrow.respond_after]
      | some body =>
        dsimp only
        split
        · rw [Borrow.respond_after]
        · rw [readAndAck_after, Borrow.serving_after]

@[simp] theorem methodArm_after (method : MethodSpec S) :
    methodArm structio borrow s segments tail body (out.after front) method =
      (methodArm structio borrow s segments tail body out method).map id (Reply.after front) := by
  -- Whether the arm is served depends on the receiver alone.
  rw [methodArm, methodArm, ← Borrow.serving_after]
  congr 1
  split
  · rw [Borrow.respond_after]
  · split
    · rw [Borrow.respond_after]
    · rw [callAndEmit_after borrow front s out _ _ _ _ fun out value =>
        emitPayload_after structio front out method.payload value]

@[simp] theorem accessorArm_after (accessor : AccessorSpec S) :
    accessorArm structio borrow s segments tail body (out.after front) accessor =
      (accessorArm structio borrow s segments tail body out accessor).map id (Reply.after front) := by
  unfold accessorArm
  split
  · rw [Borrow.respond_after]
  · cases body with
    | none =>
      -- The getter is called, or the attempt declines.
      dsimp only
      rw [getterArm, getterArm, ← Borrow.serving_after, callAndEmit_after borrow front s out _ _ _ _
        fun out value => emitLeaf_after front out accessor.get.writer accessor.get.typed value]
    | some body =>
      cases accessor.set with
      | none => rw [Borrow.respond_after]
      | some set =>
        dsimp only
        rw [setterArm, setterArm, ← Borrow.serving_after]
        congr 1
        split
        · rw [Borrow.respond_after]
        · rw [callAndEmit_after borrow front s out _ _ _ _ fun out _ =>
            ResponseBody.writeNull_after structio front out]

@[simp] theorem repeCall_after (published : PublishedItems S) :
    repeCall structio borrow s segments body (out.after front) published =
      (repeCall structio borrow s segments body out published).map id (Reply.after front) := by
  cases segments with
  | nil => rfl
  | cons head tail =>
    rw [repeCall, repeCall]
    split
    · -- The search does not look at the response, so it finds the same item.
      rw [methodArm_after]
    · split
      · rw [accessorArm_after]
      · rw [Borrow.respond_after]

end Arms

section Listing

variable {S : Type} (structio : Structio) (borrow : Borrow) (front : Bytes)

def Progress.after (progress : Progress S) : Progress S :=
  { progress with obj := progress.obj.after front }

def walkAfter : Walk S borrow → Walk S borrow
  | .ok progress => .ok (progress.after front)
  | .error (left, returned) => .error (left.after front, returned)

variable (progress : Progress S)

theorem Progress.entry_after {T : Type} (writer : ServableWrite T) (name : Path) (value : T) :
    (progress.after front).entry structio writer name value =
      (progress.entry structio writer name value).after front := by
  simp only [entry, after, ObjectBody.entry_after]

theorem Progress.entryWith_after (name : Path) {produce : S → ResponseBody → S × Reply borrow.Return}
    (blind : ∀ s out, produce s (out.after front) = (produce s out).map id (Reply.after front)) :
    (progress.after front).entryWith structio borrow name produce =
      walkAfter borrow front (progress.entryWith structio borrow name produce) := by
  simp only [entryWith, after, ObjectBody.key_after, ObjectBody.valueBody_after, blind]
  rcases produce progress.self_ (progress.obj.key structio name).valueBody with ⟨s, reply⟩
  -- Rewinding goes back to the start of the object, and what is in front of it stays.
  have rewound : (front ++ reply.out.buf).take (front.length + (progress.obj.key structio name).start)
      = front ++ reply.out.buf.take (progress.obj.key structio name).start :=
    List.take_length_add_append _
  simp only [Prod.map, id_eq, Reply.after, ResponseBody.after, ObjectBody.after, rewound]
  cases borrow.rewinds reply.returned <;> cases borrow.produced reply.returned <;> rfl

theorem foldlM_after {E : Type*} (entries : List E) {step : Progress S → E → Walk S borrow}
    (blind : ∀ progress entry,
      step (progress.after front) entry = walkAfter borrow front (step progress entry)) :
    entries.foldlM step (progress.after front) =
      walkAfter borrow front (entries.foldlM step progress) := by
  -- By induction on the entries, for every object the walk has come to.
  induction entries generalizing progress with
  | nil => rfl
  | cons entry rest ih =>
    rw [List.foldlM_cons, List.foldlM_cons, blind]
    cases step progress entry with
    | error left => rfl
    | ok next => exact ih next

variable (published : PublishedItems S)

theorem accessorEntry_after (name : Path) :
    accessorEntry structio borrow published (progress.after front) name =
      walkAfter borrow front (accessorEntry structio borrow published progress name) := by
  rw [accessorEntry, accessorEntry]
  exact progress.entryWith_after structio borrow front name fun s out => by rw [repeCall_after]

theorem writeEntry_after (entry : ListingEntry S) :
    writeEntry structio borrow published (progress.after front) entry =
      walkAfter borrow front (writeEntry structio borrow published progress entry) := by
  -- One case for each kind of entry: a value that is written, or one that a callee writes.
  cases entry with
  | field field =>
    rw [writeEntry, writeEntry]
    cases field.shape with
    | nested place child =>
      apply Progress.entryWith_after
      intro s out
      rw [childCall_after, prependReply_after]
    | leaf place writer reader typed =>
      exact congrArg _ (progress.entry_after structio front writer field.endpoint _)
  | signature method => exact congrArg _ (progress.entry_after structio front structio.text _ _)
  | implNamed name =>
    rw [writeEntry, writeEntry]
    cases listedSignature published.repeMethodSignatures name with
    | none => exact accessorEntry_after structio borrow front progress published name
    | some signature => exact congrArg _ (progress.entry_after structio front structio.text _ _)
  | implSignatures =>
    rw [writeEntry, writeEntry]
    -- Texts are written one after the other.
    have texts : ∀ (methods : List (Path × Path)) (progress : Progress S),
        methods.foldl (fun progress method =>
          progress.entry structio structio.text method.1 method.2) (progress.after front) =
        (methods.foldl (fun progress method =>
          progress.entry structio structio.text method.1 method.2) progress).after front := by
      intro methods
      induction methods with
      | nil => exact fun progress => rfl
      | cons method rest ih =>
        intro progress
        rw [List.foldl_cons, List.foldl_cons, Progress.entry_after, ih]
    rw [texts]
    rfl
  | implAccessors =>
    exact foldlM_after borrow front progress _ fun progress name =>
      accessorEntry_after structio borrow front progress published name

end Listing

namespace Expansion

variable {S : Type} (structio : Structio) (borrow : Borrow) (front : Bytes) (expansion : Expansion S)
variable (s : S) (out : ResponseBody)

theorem walk_after : expansion.walk structio borrow s (out.after front) =
    walkAfter borrow front (expansion.walk structio borrow s out) := by
  rw [walk, walk, ResponseBody.object_after]
  exact foldlM_after borrow front ⟨s, out.object structio expansion.entryCount, []⟩ _
    fun progress entry => writeEntry_after structio borrow front progress expansion.published entry

theorem listing_after : expansion.listing structio borrow s (out.after front) =
    (expansion.listing structio borrow s out).map id (Reply.after front) := by
  -- The walk ends alike; what is left is to close the object or to hand on the error.
  rw [listing, listing, walk_after]
  rcases expansion.walk structio borrow s out with ⟨left, returned⟩ | done
  · rfl
  · have closes : (done.after front).obj.finish = done.obj.finish.map (ObjectBody.after front) :=
      ObjectBody.finish_after front done.obj
    simp only [walkAfter, closes]
    cases done.obj.finish <;> rfl

theorem dispatch_after (segments : List Path) (body : Option RequestBody) :
    expansion.dispatch structio borrow s segments body (out.after front) =
      (expansion.dispatch structio borrow s segments body out).map id (Reply.after front) := by
  -- The root first, then one arm after the other.
  cases segments with
  | nil =>
    rw [dispatch, dispatch]
    cases body with
    | some body =>
      rw [root, root]
      split
      · rw [Borrow.respond_after]
      · rw [readAndAck_after, Borrow.serving_after]
    | none => rw [root, root, listing_after, Borrow.serving_after]
  | cons head tail =>
    rw [dispatch, dispatch]
    split
    · rw [fieldArm_after]
    · split
      · rw [methodArm_after]
      · split
        · rw [repeCall_after]
        · rw [Borrow.respond_after]

/-- `impl RepeStruct`: the generated implementation. -/
def repeStruct : RepeStruct S where
  repeHandleInto := expansion.dispatch structio .exclusive
  repeSharedInto s segments body out := (expansion.dispatch structio .shared s segments body out).2
  repeListingDeclines := expansion.repeListingDeclines
  repeSharedServesBodies := expansion.sharedBodyTerms.any id
  handle_after front s segments body out :=
    expansion.dispatch_after structio .exclusive front s out segments body
  shared_after front s segments body out :=
    congrArg Prod.snd (expansion.dispatch_after structio .shared front s out segments body)

end Expansion

namespace RepeStruct

variable {T : Type} (structio : Structio) (inner : RepeStruct T)

/-- A hand-written exclusive dispatch with the defaults of the trait: every shared attempt declines. -/
def withDefaults
    (repeHandleInto : T → List Path → Option RequestBody → ResponseBody → T × Reply StructResult)
    (handle_after : ∀ front s segments body out, repeHandleInto s segments body (out.after front) =
      (repeHandleInto s segments body out).map id (Reply.after front)) : RepeStruct T where
  repeHandleInto
  repeSharedInto _ _ _ out := ⟨out, [], none⟩
  repeListingDeclines _ := true
  repeSharedServesBodies := true
  handle_after
  shared_after _ _ _ _ _ := rfl

/-- `refuse_presence_write`: whether a body would say whether the child is there. -/
def presenceWrite (segments : List Path) (body : Option RequestBody) : Bool :=
  segments.isEmpty && body.any (isNull structio)

def absentChild (segments : List Path) (body : Option RequestBody) : StructResult :=
  if segments.isEmpty && !body.isSome then .ok ()
  else .err (.invalidPath (pathFromSegments segments))

def absentReply (segments : List Path) (body : Option RequestBody) (out : ResponseBody) :
    Reply StructResult :=
  match absentChild segments body with
  | .ok () => ⟨out.writeNull structio, [], .ok ()⟩
  | failed => ⟨out, [], failed⟩

theorem absentReply_after (front : Bytes) (segments : List Path) (body : Option RequestBody)
    (out : ResponseBody) : absentReply structio segments body (out.after front) =
      (absentReply structio segments body out).after front := by
  rw [absentReply, absentReply]
  -- Only a read of the child itself writes something.
  split
  · rw [ResponseBody.writeNull_after]
    rfl
  · rfl

/-- `impl RepeStruct for Option<T>`: a child that is not in every build. -/
def optional : RepeStruct (Option T) where
  repeHandleInto s segments body out :=
    if presenceWrite structio segments body then
      (s, ⟨out, [], .err (.bodyUnexpected (pathFromSegments segments))⟩)
    else match s with
      | some value =>
        let called := inner.repeHandleInto value segments body out
        (some called.1, called.2)
      | none => (none, absentReply structio segments body out)
  repeSharedInto s segments body out :=
    if presenceWrite structio segments body then
      ⟨out, [], some (.err (.bodyUnexpected (pathFromSegments segments)))⟩
    else match s with
      | some value => inner.repeSharedInto value segments body out
      -- Absent is a constant, so every answer is servable here.
      | none =>
        let answered := absentReply structio segments body out
        ⟨answered.out, answered.calls, some answered.returned⟩
  repeListingDeclines
    | some value => inner.repeListingDeclines value
    | none => false
  repeSharedServesBodies := inner.repeSharedServesBodies
  handle_after front s segments body out := by
    split
    · rfl
    · cases s with
      -- A present child answers for itself.
      | some value =>
        dsimp only
        rw [inner.handle_after]
        rfl
      | none =>
        dsimp only
        rw [absentReply_after]
        rfl
  shared_after front s segments body out := by
    split
    · rfl
    · cases s with
      | some value => exact inner.shared_after front value segments body out
      | none =>
        dsimp only
        rw [absentReply_after]
        rfl

end RepeStruct

end Repe.Derive
