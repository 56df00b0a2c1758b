import Repe.Plugin.Host
import Repe.Server.PointerLaws

/-! `Plugin::from_abi`: which metadata a host accepts, and which queries the accepted root claims. -/

namespace Repe

/-- What `repe_plugin_info` points at: each string up to its nul, or a null pointer. -/
structure RepePluginData where
  name : Option Bytes
  version : Option Bytes
  rootPath : Option Bytes

/-- What the entry points of a library return when a host loads it. -/
structure PluginAbi where
  interfaceVersion : UInt32
  info : Option RepePluginData
  -- The initializer is optional.
  init : Option Int32

inductive MetadataField where
  | name
  | version
  | rootPath
  deriving DecidableEq, Repr

inductive MetadataFault where
  | nullInfo
  | nullField (field : MetadataField)
  | notUtf8 (field : MetadataField)
  | relativeRoot (root : Path)
  | trailingSeparator (root : Path)
  deriving DecidableEq, Repr

/-- Why a host refuses a library whose symbols are all there. -/
inductive LoadError where
  | unsupportedInterfaceVersion (reported : UInt32)
  | metadata (fault : MetadataFault)
  | initFailed (code : Int32)
  deriving DecidableEq, Repr

def minSupportedInterfaceVersion : UInt32 := 3

def repePluginInterfaceVersion : UInt32 := 3

/-- The two codes of an initializer that leave a working plugin. -/
def initSucceeded (code : Int32) : Bool := code = 0 || code = 2

def stringField (bytes : Option Bytes) (field : MetadataField) : Except LoadError Path :=
  match bytes with
  | none => .error (.metadata (.nullField field))
  | some bytes =>
    match Utf8.fromUtf8 bytes with
    | none => .error (.metadata (.notUtf8 field))
    | some text => .ok text

/-- The checks of `from_abi` on the root a plugin claims. -/
def checkRootPath (root : Path) : Except LoadError Unit :=
  if root ≠ [] ∧ root.head? ≠ some '/' then .error (.metadata (.relativeRoot root))
  -- The length is that of the bytes.
  else if 1 < (Utf8.encode root).length ∧ root.getLast? = some '/' then
    .error (.metadata (.trailingSeparator root))
  else .ok ()

namespace Plugin

/-- `from_abi`: the version, the metadata and the initializer, in this order. -/
def fromAbi (abi : PluginAbi) : Except LoadError Plugin :=
  if ¬ (minSupportedInterfaceVersion ≤ abi.interfaceVersion ∧
      abi.interfaceVersion ≤ repePluginInterfaceVersion) then
    .error (.unsupportedInterfaceVersion abi.interfaceVersion)
  else match abi.info with
    | none => .error (.metadata .nullInfo)
    | some info => do
      let name ← stringField info.name .name
      let _version ← stringField info.version .version
      let rootPath ← stringField info.rootPath .rootPath
      checkRootPath rootPath
      match abi.init with
      | none => .ok { name := String.ofList name, rootPath }
      | some code =>
        if initSucceeded code then .ok { name := String.ofList name, rootPath }
        else .error (.initFailed code)

/-- The root of a loaded plugin has passed the check. -/
theorem checkRootPath_of_fromAbi {abi : PluginAbi} {plugin : Plugin}
    (loaded : fromAbi abi = .ok plugin) : checkRootPath plugin.rootPath = .ok () := by
  rw [fromAbi] at loaded
  split at loaded
  · cases loaded
  split at loaded
  · cases loaded
  next info _ =>
    -- Each of the steps has succeeded, and the last two keep the root that was read.
    simp only [bind, Except.bind] at loaded
    split at loaded
    · cases loaded
    split at loaded
    · cases loaded
    split at loaded
    · cases loaded
    split at loaded
    · cases loaded
    next checked =>
      split at loaded
      · cases loaded
        exact checked
      · split at loaded
        · cases loaded
          exact checked
        · cases loaded

theorem absolute_of_checkRootPath {root : Path} (accepted : checkRootPath root = .ok ()) :
    root = [] ∨ root.head? = some '/' := by
  rw [checkRootPath] at accepted
  -- The check refuses a root that is neither empty nor absolute.
  split at accepted
  · cases accepted
  · next absolute =>
    by_cases empty : root = []
    · exact .inl empty
    · exact .inr (by simpa [empty] using absolute)

/-- A query is claimed when it is the root, or goes on behind it with a separator. -/
theorem claims_iff (plugin : Plugin) (query : Path) :
    plugin.claims query = true ↔ ∃ rest, query = plugin.rootPath ++ rest ∧ Mount.Opens rest := by
  rw [claims]
  constructor
  · -- Behind the root comes nothing, or a separator, or the path is not claimed.
    intro claimed
    split at claimed
    · next dropped => exact ⟨[], Mount.dropPrefix_eq_some.mp dropped, .inl rfl⟩
    · next rest _ dropped =>
      exact ⟨rest, Mount.dropPrefix_eq_some.mp dropped, .inr (by simpa using claimed)⟩
    · cases claimed
  · rintro ⟨rest, split, opens⟩
    rw [Mount.dropPrefix_eq_some.mpr split]
    rcases opens with rfl | starts
    · rfl
    · obtain ⟨more, rfl⟩ := List.head?_eq_some_iff.mp starts
      rfl

def Above (root : Path) (tokens : List Path) : Prop :=
  ∃ front, JsonPointer.parse root = .ok front ∧ front <+: tokens

theorem parse_root_of_claims {plugin : Plugin} {query : Path} (claimed : plugin.claims query = true)
    (valid : ∃ tokens, JsonPointer.parse query = .ok tokens) :
    ∃ front, JsonPointer.parse plugin.rootPath = .ok front := by
  obtain ⟨rest, rfl, opens⟩ := (claims_iff plugin query).mp claimed
  exact JsonPointer.parse_ok_of_append opens valid

/-- The second spelling of the root is claimed by the empty root alone, among the others. -/
theorem claims_separator {plugin : Plugin} (other : plugin.rootPath ≠ ['/']) :
    plugin.claims ['/'] = true ↔ plugin.rootPath = [] := by
  rw [claims_iff]
  constructor
  · rintro ⟨rest, split, _⟩
    -- A root in front of a single character is empty, or that character.
    cases empty : plugin.rootPath with
    | nil => rfl
    | cons char front =>
      rw [empty, List.cons_append, List.cons.injEq, eq_comm, eq_comm (a := []),
        List.append_eq_nil_iff] at split
      exact absurd (by rw [empty, split.1, split.2.1]) other
  · intro empty
    exact ⟨['/'], by rw [empty, List.nil_append], .inr rfl⟩

/-- Every root but the single separator claims the queries that its tokens are in front of. -/
theorem claims_iff_above {plugin : Plugin} (other : plugin.rootPath ≠ ['/']) {query : Path}
    {tokens : List Path} (parsed : JsonPointer.parse query = .ok tokens) :
    plugin.claims query = true ↔ Above plugin.rootPath tokens := by
  cases valid : JsonPointer.parse plugin.rootPath with
  | error error =>
    -- A root that does not parse is in front of no query that does.
    constructor
    · intro claimed
      obtain ⟨front, read⟩ := parse_root_of_claims claimed ⟨tokens, parsed⟩
      rw [valid] at read
      cases read
    · rintro ⟨front, read, _⟩
      rw [valid] at read
      cases read
  | ok front =>
    have above : Above plugin.rootPath tokens ↔ front <+: tokens := by
      simp only [Above, valid, Except.ok.injEq, exists_eq_left']
    have root := JsonPointer.join_of_parse valid other
    rw [above]
    by_cases separator : query = ['/']
    -- The only query that is not its tokens joined.
    · subst separator
      cases parsed
      rw [claims_separator other, List.prefix_nil, ← root]
      cases front <;> simp [JsonPointer.join]
    · rw [claims_iff, ← JsonPointer.join_front_iff, JsonPointer.join_of_parse parsed separator, root]

/-- The single separator claims itself, and what goes on with an empty token. -/
theorem claims_of_separator {plugin : Plugin} (separator : plugin.rootPath = ['/']) (query : Path) :
    plugin.claims query = true ↔ query = ['/'] ∨ ['/', '/'] <+: query := by
  -- What is left behind the separator has to start with one itself.
  rw [claims_iff, separator]
  constructor
  · rintro ⟨rest, rfl, opens⟩
    rcases opens with rfl | starts
    · exact .inl rfl
    · obtain ⟨more, rfl⟩ := List.head?_eq_some_iff.mp starts
      exact .inr ⟨more, rfl⟩
  · rintro (rfl | ⟨more, rfl⟩)
    · exact ⟨[], rfl, .inl rfl⟩
    · exact ⟨'/' :: more, rfl, .inr rfl⟩

def abiOf (name version root : Path) : PluginAbi where
  interfaceVersion := 3
  info := some
    { name := some (Utf8.encode name)
      version := some (Utf8.encode version)
      rootPath := some (Utf8.encode root) }
  init := none

theorem fromAbi_abiOf (name version : Path) {root : Path} (accepted : checkRootPath root = .ok ()) :
    fromAbi (abiOf name version root) = .ok { name := String.ofList name, rootPath := root } := by
  -- The version is one of those that the host accepts.
  have supported : minSupportedInterfaceVersion ≤ (3 : UInt32) ∧
      (3 : UInt32) ≤ repePluginInterfaceVersion := by decide
  simp only [fromAbi, abiOf, supported, and_self, not_true_eq_false, if_false, stringField,
    Utf8.fromUtf8_encode, accepted, bind, Except.bind]

/--
A loaded plugin claims the queries below the tokens of its root unless that root is a single
separator, and some valid query reaches it unless an escape in the root is malformed.
-/
theorem loaded_claims_below {abi : PluginAbi} {plugin : Plugin} (loaded : fromAbi abi = .ok plugin) :
    (∀ query tokens, JsonPointer.parse query = .ok tokens →
      ((plugin.claims query = true ↔ Above plugin.rootPath tokens) ↔
        plugin.rootPath ≠ ['/'] ∨ query = ['/'] ∨ ['/', '/'] <+: query)) ∧
    ((∃ query tokens, JsonPointer.parse query = .ok tokens ∧ plugin.claims query = true) ↔
      JsonPointer.escapesComplete (Utf8.encode plugin.rootPath) = true) := by
  constructor
  · intro query tokens parsed
    by_cases separator : plugin.rootPath = ['/']
    · -- This root parses to no tokens, which are in front of everything.
      have above : Above plugin.rootPath tokens := ⟨[], by rw [separator]; rfl, List.nil_prefix⟩
      rw [claims_of_separator separator, iff_true_right above]
      simp only [separator, ne_eq, not_true_eq_false, false_or]
    · simp only [claims_iff_above separator parsed, ne_eq, separator, not_false_eq_true, true_or]
  · rw [JsonPointer.escapesComplete_encode]
    constructor
    · rintro ⟨query, tokens, parsed, claimed⟩
      rcases (JsonPointer.parse_ok_iff _).mp (parse_root_of_claims claimed ⟨tokens, parsed⟩) with
        empty | ⟨_, complete⟩
      · exact ⟨[], by rw [empty]; rfl⟩
      · exact complete
    · intro complete
      -- The root itself is such a query.
      have valid : ∃ front, JsonPointer.parse plugin.rootPath = .ok front := by
        apply (JsonPointer.parse_ok_iff _).mpr
        rcases absolute_of_checkRootPath (checkRootPath_of_fromAbi loaded) with empty | rooted
        · exact .inl empty
        · exact .inr ⟨rooted, complete⟩
      obtain ⟨front, read⟩ := valid
      exact ⟨plugin.rootPath, front, read, (claims_iff _ _).mpr ⟨[], by simp, .inl rfl⟩⟩

def escapedRoot : Path := ['/', 'a', '~', '1', 'b']

/-- A plugin whose root holds an escaped separator is reached below that root. -/
theorem escaped_root_claims_below :
    ∃ plugin, fromAbi (abiOf ['p'] ['1'] escapedRoot) = .ok plugin ∧
      (plugin.claims (escapedRoot ++ ['/', 'x']) = true ↔
        Above plugin.rootPath [['a', '/', 'b'], ['x']]) ∧
      ∃ query tokens, JsonPointer.parse query = .ok tokens ∧ plugin.claims query = true := by
  -- Loading needs the root to pass the check only.
  have loaded := @fromAbi_abiOf ['p'] ['1'] escapedRoot (by decide)
  refine ⟨_, loaded, ?_, ?_⟩
  · exact ((loaded_claims_below loaded).1 _ _ (by decide)).mpr (.inl (by decide))
  · exact (loaded_claims_below loaded).2.mpr (by decide)

/--
A root that is a single separator is accepted and parses to no tokens, but does not claim what is
below it; a root with a malformed escape is accepted and claims no valid query at all.
-/
theorem separator_root_claims_nothing_below :
    (∃ plugin, fromAbi (abiOf ['p'] ['1'] ['/']) = .ok plugin ∧
      JsonPointer.parse ['/', 'x'] = .ok [['x']] ∧ Above plugin.rootPath [['x']] ∧
      plugin.claims ['/', 'x'] = false) ∧
    ∃ plugin, fromAbi (abiOf ['p'] ['1'] ['/', 'a', '~', '2']) = .ok plugin ∧
      ∀ query tokens, JsonPointer.parse query = .ok tokens → plugin.claims query = false := by
  constructor
  · exact ⟨_, fromAbi_abiOf _ _ (by decide), by decide, ⟨[], rfl, List.nil_prefix⟩, by decide⟩
  · refine ⟨_, fromAbi_abiOf _ _ (by decide), fun query tokens parsed => ?_⟩
    -- A claimed query would parse to tokens that start with those of the root.
    by_contra claimed
    rw [Bool.not_eq_false] at claimed
    have refused : JsonPointer.parse ['/', 'a', '~', '2'] = .error ⟨⟩ := by decide
    obtain ⟨front, read⟩ := parse_root_of_claims claimed ⟨tokens, parsed⟩
    rw [refused] at read
    cases read

end Plugin

end Repe
