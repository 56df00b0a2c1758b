import Repe.Server.Registry

/-! Which function a pointer reaches in a registry: the one that was last registered under it. -/

namespace Repe.Registry

variable {M : Type → Type} {C : Type}

/-- A registry after some registrations; one that is refused leaves it as it was. -/
def after (registrations : List (Path × RegistryCallable M C)) : Registry M C :=
  registrations.foldl (fun registry registration =>
    match registry.registerFunction registration.1 registration.2 with
    | .ok registered => registered
    | .error _ => registry) new

/-- The last of some paths that is this pointer, once it has its separator in front. -/
def latest : List Path → Path → Option Nat
  | [], _ => none
  | path :: rest, pointer =>
    match latest rest pointer with
    | some later => some (later + 1)
    | none => if Mount.absolute path = pointer then some 0 else none

/-- The function that a pointer should reach: the one of the last registration under it. -/
def registered (registrations : List (Path × RegistryCallable M C)) (pointer : Path) :
    Option (RegistryCallable M C) :=
  (latest (registrations.map Prod.fst) pointer).bind fun number => registrations[number]?.map Prod.snd

def invoke [Monad M] (function : RegistryCallable M C) (params : Option RequestBody) (ctx : C)
    (requested : BodyFormat) : M (Except RegistryError (Bytes × BodyFormat)) := do
  match ← function ctx params requested with
  | .ok answer => return .ok answer
  | .error (code, message) => return .error (.execution code message)

section Latest

theorem latest_concat (paths : List Path) (path pointer : Path) :
    latest (paths ++ [path]) pointer =
      if Mount.absolute path = pointer then some paths.length else latest paths pointer := by
  induction paths with
  | nil => rfl
  | cons first rest ih =>
    rw [List.cons_append, latest, ih]
    -- The new path takes over, or the search goes on as before.
    by_cases same : Mount.absolute path = pointer
    · rw [if_pos same, if_pos same, List.length_cons]
    · rw [if_neg same, if_neg same, latest]

/-- The last path is one of them, and it is the pointer. -/
theorem absolute_of_latest {paths : List Path} {pointer : Path} {number : Nat}
    (found : latest paths pointer = some number) :
    ∃ path, paths[number]? = some path ∧ Mount.absolute path = pointer := by
  -- By induction on the paths: a later one is found first.
  induction paths generalizing number with
  | nil => cases found
  | cons first rest ih =>
    rw [latest] at found
    split at found
    · next later found' =>
      cases found
      exact ih found'
    · split at found
      · next same =>
        cases found
        exact ⟨first, rfl, same⟩
      · cases found

/-- One more registration is reached under its own pointer, and under no other one. -/
theorem registered_concat (registrations : List (Path × RegistryCallable M C)) (path : Path)
    (function : RegistryCallable M C) (pointer : Path) :
    registered (registrations ++ [(path, function)]) pointer =
      if Mount.absolute path = pointer then some function else registered registrations pointer := by
  rw [registered, List.map_append, List.map_cons, List.map_nil, latest_concat]
  split
  · simp
  · rw [registered]
    cases found : latest (registrations.map Prod.fst) pointer with
    | none => rfl
    | some number =>
      -- An earlier registration is where it was.
      obtain ⟨other, known, _⟩ := absolute_of_latest found
      have inside : number < registrations.length := by
        simpa using (List.getElem?_eq_some_iff.mp known).1
      rw [Option.bind_some, Option.bind_some, List.getElem?_append_left inside]

end Latest

section Tables

theorem canonicalKey_of_valid {pointer : Path} (below : JsonPointer.addressesRoot pointer = false)
    {tokens : List Path} (valid : JsonPointer.parse pointer = .ok tokens) :
    canonicalKey pointer = .ok pointer := by
  rw [canonicalKey, below, if_neg Bool.false_ne_true,
    (JsonPointer.validateEscapes_ok pointer).mpr ⟨tokens, valid⟩]

/-- A malformed pointer is not looked up. -/
theorem canonicalKey_of_malformed {pointer : Path}
    (malformed : JsonPointer.parse pointer = .error ⟨⟩) :
    canonicalKey pointer = .error (.invalidPointer pointer) := by
  -- The root is never malformed.
  have away : JsonPointer.addressesRoot pointer = false := by
    by_contra root
    rw [JsonPointer.parse, if_pos (by simpa using root)] at malformed
    cases malformed
  rw [canonicalKey, away, if_neg Bool.false_ne_true]
  cases checked : JsonPointer.validateEscapes pointer with
  | error error => rfl
  | ok _ =>
    obtain ⟨tokens, valid⟩ := (JsonPointer.validateEscapes_ok pointer).mp checked
    rw [malformed] at valid
    cases valid

/-- What a registration does to the entry of a valid pointer below the root. -/
theorem state_register (registry : Registry M C) (path : Path) (function : RegistryCallable M C)
    {pointer : Path} (below : JsonPointer.addressesRoot pointer = false) {tokens : List Path}
    (valid : JsonPointer.parse pointer = .ok tokens) :
    (match registry.registerFunction path function with
      | .ok registered => registered
      | .error _ => registry).state pointer =
        if Mount.absolute path = pointer then some function else registry.state pointer := by
  have normalized : (if path.head? = some '/' then path else '/' :: path) = Mount.absolute path := rfl
  simp only [registerFunction, normalized]
  by_cases same : Mount.absolute path = pointer
  · -- The path is this pointer, so it is accepted.
    rw [same, below, if_neg Bool.false_ne_true, canonicalKey_of_valid below valid, if_pos rfl]
    exact Function.update_self ..
  · rw [if_neg same]
    by_cases root : JsonPointer.addressesRoot (Mount.absolute path) = true
    · -- The root is refused.
      rw [if_pos root]
    · rw [if_neg root, canonicalKey, if_neg root]
      -- Whatever is not refused is put under its own name, which is another one.
      cases JsonPointer.validateEscapes (Mount.absolute path) with
      | error error => rfl
      | ok _ => exact Function.update_of_ne (Ne.symm same) ..

/-- The entry of a valid pointer below the root is the function last registered under it. -/
theorem state_after (registrations : List (Path × RegistryCallable M C)) {pointer : Path}
    (below : JsonPointer.addressesRoot pointer = false) {tokens : List Path}
    (valid : JsonPointer.parse pointer = .ok tokens) :
    (after registrations).state pointer = registered registrations pointer := by
  -- By induction on the registrations, from the last one back.
  induction registrations using List.reverseRecOn with
  | nil => rfl
  | append_singleton earlier registration ih =>
    rw [registered_concat, after, List.foldl_append, List.foldl_cons, List.foldl_nil,
      state_register _ _ _ below valid, ← ih]
    rfl

/-- A call goes to the function last registered under a valid pointer below the root. -/
theorem call_after [Monad M] (registrations : List (Path × RegistryCallable M C)) {pointer : Path}
    (below : JsonPointer.addressesRoot pointer = false) {tokens : List Path}
    (valid : JsonPointer.parse pointer = .ok tokens) (params : Option RequestBody) (ctx : C)
    (requested : BodyFormat) :
    (after registrations).call pointer params ctx requested =
      match registered registrations pointer with
      | some function => invoke function params ctx requested
      | none => pure (.error (.pathNotFound pointer)) := by
  have entry := state_after registrations below valid
  -- The lookup of the key finds what was registered last, or nothing.
  cases known : registered registrations pointer with
  | none =>
    have missing : (after registrations).find pointer = .error (.pathNotFound pointer) := by
      rw [find, canonicalKey_of_valid below valid]
      simp only [bind, Except.bind, entry, known]
    rw [call, missing]
  | some function =>
    have found : (after registrations).find pointer = .ok function := by
      rw [find, canonicalKey_of_valid below valid]
      simp only [bind, Except.bind, entry, known]
    rw [call, found]
    rfl

end Tables

/--
The check of a pointer accepts what the parser accepts. Below the root, a valid pointer reaches the
function of the last registration under it, which depends on the paths that were registered alone,
or none; a malformed one reaches none; and pointers that reach the same registration have the same
tokens.
-/
theorem pointers_reach_latest [Monad M] :
    (∀ pointer, JsonPointer.validateEscapes pointer = .ok () ↔
      ∃ tokens, JsonPointer.parse pointer = .ok tokens) ∧
    (∀ (registrations : List (Path × RegistryCallable M C)) (pointer : Path),
      JsonPointer.addressesRoot pointer = false →
        ((∃ tokens, JsonPointer.parse pointer = .ok tokens) →
          (after registrations).isFunction pointer = (registered registrations pointer).isSome ∧
          ∀ params ctx requested, (after registrations).call pointer params ctx requested =
            match registered registrations pointer with
            | some function => invoke function params ctx requested
            | none => pure (.error (.pathNotFound pointer))) ∧
        (JsonPointer.parse pointer = .error ⟨⟩ →
          (after registrations).isFunction pointer = false ∧
          ∀ params ctx requested, (after registrations).call pointer params ctx requested =
            pure (.error (.invalidPointer pointer)))) ∧
    ∀ (paths : List Path) (first second : Path) (number : Nat),
      latest paths first = some number → latest paths second = some number →
        JsonPointer.parse first = JsonPointer.parse second := by
  refine ⟨JsonPointer.validateEscapes_ok, fun registrations pointer below => ⟨?_, ?_⟩, ?_⟩
  · rintro ⟨tokens, valid⟩
    refine ⟨?_, call_after registrations below valid⟩
    rw [isFunction, canonicalKey_of_valid below valid, ← state_after registrations below valid]
  · intro malformed
    have refused := canonicalKey_of_malformed malformed
    refine ⟨by rw [isFunction, refused], fun params ctx requested => ?_⟩
    rw [call, find, refused]
    rfl
  · intro paths first second number one two
    -- Both are the path of that registration.
    obtain ⟨path, known, rfl⟩ := absolute_of_latest one
    obtain ⟨other, again, rfl⟩ := absolute_of_latest two
    cases known.symm.trans again
    rfl

def answering (byte : UInt8) : RegistryCallable Id Unit := fun _ _ format => .ok ([byte], format)

/-- Two registrations under one pointer, spelled with and without its separator. -/
def twice : List (Path × RegistryCallable Id Unit) :=
  [(['/', 'a'], answering 1), (['b'], answering 2), (['a'], answering 3)]

/-- The second registration under a pointer is the one that is reached. -/
theorem second_registration_reached :
    (after twice).isFunction ['/', 'a'] = true ∧
      (after twice).call ['/', 'a'] none () .json = Except.ok ([3], .json) ∧
      (after twice).isFunction ['/', '~'] = false ∧
      JsonPointer.parse ['/', 'a'] = JsonPointer.parse (Mount.absolute ['a']) := by
  -- Three cases: what is found, what is called, and a malformed pointer.
  obtain ⟨_, reached, same⟩ := pointers_reach_latest (M := Id) (C := Unit)
  obtain ⟨found, called⟩ := (reached twice ['/', 'a'] (by decide)).1 ⟨[['a']], by decide⟩
  obtain ⟨absent, _⟩ := (reached twice ['/', '~'] (by decide)).2 (by decide)
  exact ⟨found, called none () .json, absent, same [['/', 'a'], ['b'], ['a']] _ _ 2 (by decide)
    (by decide)⟩

end Repe.Registry
