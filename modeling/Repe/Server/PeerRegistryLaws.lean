import Mathlib.Data.List.Induction
import Repe.Server.PeerRegistry

/-! The three maps of a peer registry refine its roster, after every sequence of operations. -/

namespace Repe

namespace PeerRegistry

variable {S : Type} {registry : PeerRegistry S} {roster : Roster S}

/-- The maps hold what the roster holds, forwards and in reverse. -/
structure Refines (registry : PeerRegistry S) (roster : Roster S) : Prop where
  peers : ∀ id, registry.get id = roster.peers id
  forward : ∀ {key : String} {id : PeerId},
    registry.aliases.lookup key = some id ↔ (key, id) ∈ roster.aliases.entries
  reverse : ∀ id, registry.aliasesFor id = roster.aliases.keysOf id

section Maps

variable (index : AList fun _ : PeerId => List String)

theorem attach_listed (id : PeerId) (key : String) :
    ((attach index id key).lookup id).getD [] = (index.lookup id).getD [] ++ [key] := by
  rw [attach, AList.lookup_insert, Option.getD_some]

theorem attach_other {id other : PeerId} (apart : other ≠ id) (key : String) :
    ((attach index id key).lookup other).getD [] = (index.lookup other).getD [] := by
  rw [attach, AList.lookup_insert_ne apart]

theorem detach_listed (previous : PeerId) (key : String) :
    ((detach index previous key).lookup previous).getD [] =
      ((index.lookup previous).getD []).filter (· ≠ key) := by
  rw [detach]
  -- A peer without a list has nothing to lose.
  cases found : index.lookup previous with
  | some keys => rw [AList.lookup_insert, Option.getD_some, Option.getD_some]
  | none => rw [found, Option.getD_none, List.filter_nil]

theorem detach_other {previous other : PeerId} (apart : other ≠ previous) (key : String) :
    ((detach index previous key).lookup other).getD [] = (index.lookup other).getD [] := by
  rw [detach]
  -- Only the list of the previous owner is written back.
  cases index.lookup previous with
  | some keys => rw [AList.lookup_insert_ne apart]
  | none => rfl

/-- A purge drops the listed keys that address the peer, and no others. -/
theorem lookup_purge (id : PeerId) (keys : List String) (aliases : AList fun _ : String => PeerId)
    (key : String) :
    (purge id aliases keys).lookup key =
      if key ∈ keys ∧ aliases.lookup key = some id then none else aliases.lookup key := by
  -- A key may be listed again, when it is gone already.
  induction keys generalizing aliases with
  | nil => simp [purge]
  | cons first rest ih =>
    rw [purge, List.foldl_cons, ← purge, ih]
    split
    · next addressed =>
      by_cases same : key = first
      · subst same
        simp [AList.lookup_erase, addressed]
      · simp [AList.lookup_erase_ne same, same]
    · next elsewhere =>
      by_cases same : key = first
      · subst same
        simp [elsewhere]
      · simp [same]

end Maps

theorem refines_new : (new : PeerRegistry S).Refines .empty where
  peers id := AList.lookup_empty id
  forward {key id} := by simp [new, Roster.empty, Ledger.empty]
  reverse id := by simp [new, aliasesFor, Roster.empty, Ledger.empty, Ledger.keysOf]

theorem Refines.insert (refines : registry.Refines roster) (peer : PeerHandle S) :
    (registry.insert peer).Refines (roster.insert peer) where
  peers id := by
    -- The peer that arrives is found, and the others as before.
    by_cases same : id = peer.peerId
    · subst same
      simp [get, PeerRegistry.insert, Roster.insert]
    · simpa [get, PeerRegistry.insert, Roster.insert, same] using refines.peers id
  forward := refines.forward
  reverse := refines.reverse

/-- A key that is given away addresses its new owner, and every other key whom it did. -/
theorem Refines.forward_assign (refines : registry.Refines roster) (id : PeerId) (key : String)
    {other : String} {owner : PeerId} :
    (registry.aliases.insert key id).lookup other = some owner ↔
      (other, owner) ∈ (roster.aliases.assign key id).entries := by
  rw [Ledger.mem_assign]
  -- The key that is given away, or another one.
  by_cases same : other = key
  · subst same
    simp [AList.lookup_insert, eq_comm]
  · rw [AList.lookup_insert_ne same, refines.forward]
    simp [same]

/-- The reverse index follows the ledger when a peer gets a key. -/
theorem Refines.reverse_assign (refines : registry.Refines roster) {id : PeerId}
    (there : registry.peers.lookup id ≠ none) (key : String) (owner : PeerId) :
    (registry.aliasPeer id key).2.aliasesFor owner =
      (roster.aliases.assign key id).keysOf owner := by
  -- By who had the key: this peer, another one, or nobody.
  have listed := refines.reverse owner
  rw [aliasesFor] at listed
  rw [PeerRegistry.aliasPeer, if_neg there]
  cases found : registry.aliases.lookup key with
  | some previous =>
    have held := refines.forward.mp found
    by_cases same : previous = id
    · -- The ledger does not change either.
      subst same
      rw [Ledger.assign_of_mem held]
      simpa only [if_pos, aliasesFor] using listed
    · -- The previous owner's list loses the key, and the new owner's list gets it at its end.
      have fresh : (key, id) ∉ roster.aliases.entries :=
        fun member => same (Ledger.owner_unique held member)
      simp only [if_neg same]
      rw [aliasesFor]
      by_cases gets : owner = id
      · subst gets
        rw [attach_listed, detach_other _ (Ne.symm same), Ledger.keysOf_assign fresh, listed]
      · rw [attach_other _ gets, Ledger.keysOf_assign_of_ne gets]
        by_cases loses : owner = previous
        · rw [loses, detach_listed, ← loses, listed]
        · -- A third peer does not have the key.
          rw [detach_other _ loses, listed, Ledger.filter_keysOf]
          exact fun member => loses (Ledger.owner_unique member held)
  | none =>
    have nobody : ∀ {holder}, (key, holder) ∉ roster.aliases.entries := by
      intro holder member
      rw [← refines.forward, found] at member
      cases member
    simp only
    rw [aliasesFor]
    by_cases gets : owner = id
    · subst gets
      rw [attach_listed, Ledger.keysOf_assign nobody, listed]
    · rw [attach_other _ gets, Ledger.keysOf_assign_of_ne gets, listed,
        Ledger.filter_keysOf nobody]

theorem aliasPeer_forward {id : PeerId} (there : registry.peers.lookup id ≠ none) (key : String) :
    (registry.aliasPeer id key).2.peers = registry.peers ∧
      (registry.aliasPeer id key).2.aliases = registry.aliases.insert key id := by
  rw [aliasPeer, if_neg there]
  -- The forward map is the same whether or not the key was taken from somebody.
  cases registry.aliases.lookup key with
  | some previous => by_cases same : previous = id <;> simp [same]
  | none => simp

/-- The maps follow the roster when a peer gets a key. -/
theorem Refines.aliasPeer (refines : registry.Refines roster) (id : PeerId) (key : String) :
    (registry.aliasPeer id key).2.Refines (roster.aliasPeer id key) := by
  by_cases there : registry.peers.lookup id = none
  -- An unknown peer gets nothing, in the registry as in the roster.
  · have absent : roster.peers id = none := (refines.peers id).symm.trans there
    rw [PeerRegistry.aliasPeer, if_pos there, Roster.aliasPeer, dif_pos absent]
    exact refines
  · have present : roster.peers id ≠ none := (refines.peers id).symm.trans_ne there
    obtain ⟨peers, aliases⟩ := aliasPeer_forward there key
    rw [Roster.aliasPeer, dif_neg present]
    refine ⟨fun owner => ?_, ?_, refines.reverse_assign there key⟩
    · rw [get, peers]
      exact refines.peers owner
    · rw [aliases]
      exact refines.forward_assign id key

theorem remove_peers (registry : PeerRegistry S) (id : PeerId) :
    (registry.remove id).2.peers = registry.peers.erase id := by
  rw [remove]
  cases registry.aliasIndex.lookup id <;> rfl

/-- A removal takes the list of the peer out of the reverse index. -/
theorem remove_reverse (registry : PeerRegistry S) (id owner : PeerId) :
    (registry.remove id).2.aliasesFor owner = if owner = id then [] else registry.aliasesFor owner := by
  rw [remove, aliasesFor]
  -- The list of the peer goes, if there is one.
  cases found : registry.aliasIndex.lookup id with
  | some keys =>
    by_cases same : owner = id
    · subst same
      simp
    · simp [same, aliasesFor]
  | none =>
    by_cases same : owner = id
    · subst same
      simp [found]
    · simp [same, aliasesFor]

/-- A removal takes the keys that address the peer, and no others, out of the forward map. -/
theorem Refines.remove_forward (refines : registry.Refines roster) (id : PeerId) (key : String) :
    (registry.remove id).2.aliases.lookup key =
      if registry.aliases.lookup key = some id then none else registry.aliases.lookup key := by
  -- The list that is purged has exactly the keys that address the peer.
  have listed : key ∈ registry.aliasesFor id ↔ registry.aliases.lookup key = some id := by
    rw [refines.reverse, Ledger.mem_keysOf, refines.forward]
  rw [aliasesFor] at listed
  rw [PeerRegistry.remove]
  cases found : registry.aliasIndex.lookup id with
  | some keys =>
    rw [found, Option.getD_some] at listed
    simp only [lookup_purge, listed, and_self]
  | none =>
    rw [found, Option.getD_none] at listed
    have elsewhere : ¬ registry.aliases.lookup key = some id :=
      fun addressed => List.not_mem_nil (listed.mpr addressed)
    rw [if_neg elsewhere]

/-- The maps follow the roster when a peer leaves. -/
theorem Refines.remove (refines : registry.Refines roster) (id : PeerId) :
    (registry.remove id).2.Refines (roster.remove id) where
  peers owner := by
    rw [get, remove_peers]
    by_cases same : owner = id
    · subst same
      simp [Roster.remove]
    · simpa [get, Roster.remove, same] using refines.peers owner
  forward {key owner} := by
    rw [refines.remove_forward, Roster.remove, Ledger.mem_release, ← refines.forward]
    split
    · next addressed =>
      -- It would have to be the key of the peer that left.
      simp only [addressed, Option.some.injEq, reduceCtorEq, false_iff, not_and]
      exact fun apart same => apart same.symm
    · next elsewhere =>
      rw [iff_and_self]
      rintro addressed rfl
      exact elsewhere addressed
  reverse owner := by
    rw [remove_reverse, Roster.remove]
    split
    · next same => rw [same, Ledger.keysOf_release]
    · next apart => rw [Ledger.keysOf_release_of_ne apart, refines.reverse]

theorem Refines.apply (refines : registry.Refines roster) (operation : Operation S) :
    (registry.apply operation).Refines (roster.apply operation) := by
  -- One lemma for each operation.
  cases operation with
  | insert peer => exact refines.insert peer
  | aliasPeer id key => exact refines.aliasPeer id key
  | remove id => exact refines.remove id

theorem refines_after (operations : List (Operation S)) :
    (after operations).Refines (.after operations) := by
  rw [after, Roster.after]
  -- Both folds go through the operations together, from any two that correspond.
  have start : (new : PeerRegistry S).Refines .empty := refines_new
  generalize (new : PeerRegistry S) = registry at start ⊢
  generalize (Roster.empty : Roster S) = roster at start ⊢
  induction operations generalizing registry roster with
  | nil => exact start
  | cons operation operations ih => exact ih _ _ (start.apply operation)

/-- Whether a key addresses a peer after the first so many operations. -/
def Addresses (operations : List (Operation S)) (count : Nat) (key : String) (id : PeerId) : Prop :=
  (after (operations.take count)).aliases.lookup key = some id

/--
One key of a peer has been its own for longer than another one: ever since a moment at which the
other one was not.
-/
def RegisteredBefore (operations : List (Operation S)) (id : PeerId) (first second : String) : Prop :=
  ∃ count ≤ operations.length, ¬ Addresses operations count second id ∧
    ∀ later, count ≤ later → later ≤ operations.length → Addresses operations later first id

section History

variable {operations : List (Operation S)} {operation : Operation S} {id : PeerId}
  {key first second : String}

theorem after_concat (operations : List (Operation S)) (operation : Operation S) :
    after (operations ++ [operation]) = (after operations).apply operation := by
  rw [after, List.foldl_append, List.foldl_cons, List.foldl_nil, after]

theorem addresses_concat {count : Nat} (within : count ≤ operations.length) :
    Addresses (operations ++ [operation]) count key id ↔ Addresses operations count key id := by
  rw [Addresses, List.take_append_of_le_length within, Addresses]

theorem addresses_length :
    Addresses operations operations.length key id ↔
      (after operations).aliases.lookup key = some id := by
  rw [Addresses, List.take_length]

theorem RegisteredBefore.concat (older : RegisteredBefore operations id first second)
    (stays : (after (operations ++ [operation])).aliases.lookup first = some id) :
    RegisteredBefore (operations ++ [operation]) id first second := by
  obtain ⟨count, inside, absent, held⟩ := older
  have size : (operations ++ [operation]).length = operations.length + 1 := by simp
  refine ⟨count, by omega, (addresses_concat inside).not.mpr absent, fun later past within => ?_⟩
  -- The one new moment is the last.
  rcases Nat.lt_or_ge operations.length later with last | earlier
  · have whole : later = (operations ++ [operation]).length := by omega
    subst whole
    exact addresses_length.mpr stays
  · exact (addresses_concat earlier).mpr (held later past earlier)

/-- A key that was there already is registered longer than one the last operation brought. -/
theorem registeredBefore_last (held : (after operations).aliases.lookup first = some id)
    (stays : (after (operations ++ [operation])).aliases.lookup first = some id)
    (fresh : (after operations).aliases.lookup second ≠ some id) :
    RegisteredBefore (operations ++ [operation]) id first second := by
  refine RegisteredBefore.concat ⟨operations.length, le_rfl, addresses_length.not.mpr fresh, ?_⟩ stays
  -- The last operation is the only moment to look at.
  intro later past within
  rw [Nat.le_antisymm within past]
  exact addresses_length.mpr held

/-- An operation shortens the list of a peer, or puts one key the peer did not have at its end. -/
theorem keysOf_apply (roster : Roster S) (operation : Operation S) (id : PeerId) :
    ((roster.apply operation).aliases.keysOf id).Sublist (roster.aliases.keysOf id) ∨
      ∃ key, (key, id) ∉ roster.aliases.entries ∧
        (roster.apply operation).aliases.keysOf id = roster.aliases.keysOf id ++ [key] := by
  cases operation with
  | insert peer => exact .inl (List.Sublist.refl _)
  | aliasPeer owner key =>
    rw [Roster.apply, Roster.aliasPeer]
    split
    · exact .inl (List.Sublist.refl _)
    · by_cases gets : id = owner
      · subst gets
        -- A key the peer has already keeps its place.
        by_cases held : (key, id) ∈ roster.aliases.entries
        · simp only [Ledger.assign_of_mem held]
          exact .inl (List.Sublist.refl _)
        · exact .inr ⟨key, held, Ledger.keysOf_assign held⟩
      · rw [Ledger.keysOf_assign_of_ne gets]
        exact .inl List.filter_sublist
  | remove owner =>
    rw [Roster.apply, Roster.remove]
    by_cases leaves : id = owner
    · rw [leaves, Ledger.keysOf_release]
      exact .inl (List.nil_sublist _)
    · rw [Ledger.keysOf_release_of_ne leaves]
      exact .inl (List.Sublist.refl _)

/-- The keys of a peer are listed in the order they were registered. -/
theorem registered_in_order (operations : List (Operation S)) (id : PeerId) :
    ((after operations).aliasesFor id).Pairwise (RegisteredBefore operations id) := by
  -- The induction is on the last operation.
  induction operations using List.reverseRecOn with
  | nil =>
    rw [(refines_after []).reverse]
    exact .nil
  | append_singleton operations operation ih =>
    have refines := refines_after operations
    have stays : ∀ {key}, key ∈ (after (operations ++ [operation])).aliasesFor id →
        (after (operations ++ [operation])).aliases.lookup key = some id := by
      intro key listed
      have now := refines_after (operations ++ [operation])
      rwa [now.reverse, Ledger.mem_keysOf, ← now.forward] at listed
    have step := keysOf_apply (Roster.after operations) operation id
    rw [← (refines.apply operation).reverse, ← refines.reverse, ← after_concat] at step
    rcases step with shorter | ⟨key, fresh, longer⟩
    -- What is left of the list was in order before.
    · refine (ih.sublist shorter).imp_of_mem fun listed _ older => ?_
      exact older.concat (stays listed)
    -- The key at the end came last.
    · rw [longer] at stays ⊢
      rw [List.pairwise_append]
      refine ⟨ih.imp_of_mem fun listed _ older => ?_, List.pairwise_singleton _ _, ?_⟩
      · exact older.concat (stays (List.mem_append_left _ listed))
      · intro first listed second single
        rw [List.mem_singleton.mp single]
        have held := listed
        rw [refines.reverse, Ledger.mem_keysOf, ← refines.forward] at held
        refine registeredBefore_last held (stays (List.mem_append_left _ listed)) ?_
        rwa [ne_eq, refines.forward]

end History

theorem keyFor_eq (registry : PeerRegistry S) (id : PeerId) :
    registry.keyFor id = (registry.aliasesFor id).head? := by
  rw [keyFor, aliasesFor]
  cases registry.aliasIndex.lookup id <;> rfl

theorem Refines.forward_iff (refines : registry.Refines roster) (key : String) (id : PeerId) :
    registry.aliases.lookup key = some id ↔
      (registry.aliasesFor id).count key = 1 ∧
        ∀ other, other ≠ id → key ∉ registry.aliasesFor other := by
  simp only [refines.reverse, refines.forward, Ledger.mem_keysOf]
  constructor
  · intro held
    refine ⟨List.count_eq_one_of_mem (Ledger.nodup_keysOf _ _) (Ledger.mem_keysOf.mpr held), ?_⟩
    exact fun other apart again => apart (Ledger.owner_unique again held)
  · -- A key that is listed once is listed.
    rintro ⟨once, _⟩
    refine Ledger.mem_keysOf.mp (List.count_pos_iff.mp ?_)
    omega

theorem Refines.owner_registered (refines : registry.Refines roster) {id : PeerId}
    (owns : registry.aliasesFor id ≠ []) : registry.get id ≠ none := by
  obtain ⟨key, listed⟩ := List.exists_mem_of_ne_nil _ owns
  rw [refines.reverse, Ledger.mem_keysOf] at listed
  -- Owners are in the roster, and the roster is the registry's.
  rw [refines.peers]
  exact roster.owned listed

theorem Refines.getBy_live (refines : registry.Refines roster) {key : String} {id : PeerId}
    (live : registry.aliases.lookup key = some id) :
    ∃ peer, registry.get id = some peer ∧ registry.getBy key = some peer := by
  -- The owner of a key is in the roster.
  have there := roster.owned (refines.forward.mp live)
  rw [← refines.peers] at there
  obtain ⟨peer, found⟩ := Option.ne_none_iff_exists'.mp there
  exact ⟨peer, found, by rw [getBy, live, Option.bind_some, found]⟩

/-- A removal deletes a peer and its aliases, and nothing else. -/
structure Removes (registry : PeerRegistry S) (id : PeerId) (removed : PeerRegistry S) : Prop where
  gone : removed.get id = none ∧ removed.keyFor id = none ∧ removed.aliasesFor id = []
  keys : ∀ key, registry.aliases.lookup key = some id →
    removed.aliases.lookup key = none ∧ removed.getBy key = none
  peers : ∀ other, other ≠ id → removed.get other = registry.get other ∧
    removed.keyFor other = registry.keyFor other ∧
    removed.aliasesFor other = registry.aliasesFor other
  others : ∀ key, registry.aliases.lookup key ≠ some id →
    removed.aliases.lookup key = registry.aliases.lookup key ∧
    removed.getBy key = registry.getBy key

/-- What a removal leaves. -/
theorem Refines.removes (refines : registry.Refines roster) (id : PeerId) :
    registry.Removes id (registry.remove id).2 := by
  have reverse := remove_reverse registry id
  have forward := refines.remove_forward id
  have peers : ∀ other, other ≠ id → (registry.remove id).2.get other = registry.get other := by
    intro other apart
    rw [get, remove_peers, AList.lookup_erase_ne apart, get]
  refine ⟨⟨?_, ?_, ?_⟩, fun key addressed => ?_, fun other apart => ?_, fun key elsewhere => ?_⟩
  · rw [get, remove_peers, AList.lookup_erase]
  · rw [keyFor_eq, reverse, if_pos rfl, List.head?_nil]
  · rw [reverse, if_pos rfl]
  · have dropped := forward key
    rw [if_pos addressed] at dropped
    exact ⟨dropped, by rw [getBy, dropped, Option.bind_none]⟩
  · exact ⟨peers other apart, by rw [keyFor_eq, reverse, if_neg apart, keyFor_eq],
      by rw [reverse, if_neg apart]⟩
  · have kept := forward key
    rw [if_neg elsewhere] at kept
    refine ⟨kept, ?_⟩
    rw [getBy, getBy, kept]
    -- The key leads to a peer that stays.
    cases found : registry.aliases.lookup key with
    | none => rfl
    | some other =>
      refine peers other ?_
      rintro rfl
      exact elsewhere found

/-- A peer gets a key behind those it has, and whoever had the key loses it. -/
structure Attaches (registry : PeerRegistry S) (id : PeerId) (key : String)
    (attached : PeerRegistry S) : Prop where
  peers : attached.peers = registry.peers
  addressed : attached.aliases.lookup key = some id
  others : ∀ other, other ≠ key → attached.aliases.lookup other = registry.aliases.lookup other
  listed : attached.aliasesFor id =
    if key ∈ registry.aliasesFor id then registry.aliasesFor id
    else registry.aliasesFor id ++ [key]
  lost : ∀ owner, owner ≠ id →
    attached.aliasesFor owner = (registry.aliasesFor owner).filter (· ≠ key)

theorem Refines.attaches (refines : registry.Refines roster) {id : PeerId}
    (there : registry.get id ≠ none) (key : String) :
    registry.Attaches id key (registry.aliasPeer id key).2 := by
  obtain ⟨peers, aliases⟩ := aliasPeer_forward there key
  have reverse := refines.reverse_assign there key
  refine ⟨peers, ?_, fun other apart => ?_, ?_, fun owner apart => ?_⟩
  · rw [aliases, AList.lookup_insert]
  · rw [aliases, AList.lookup_insert_ne apart]
  -- A key the peer has already keeps its place.
  · rw [reverse, refines.reverse]
    split
    · next held => rw [Ledger.assign_of_mem (Ledger.mem_keysOf.mp held)]
    · next fresh => exact Ledger.keysOf_assign (mt Ledger.mem_keysOf.mpr fresh)
  · rw [reverse, refines.reverse, Ledger.keysOf_assign_of_ne apart]

/--
After every sequence of operations a key addresses a peer exactly if the peer alone lists it, once;
peers that list keys are there, and are found by them; and keys are listed in the order of their
registrations.
An alias of a peer that is there gives it the key, and one of any other peer changes nothing; a removal
deletes the peer with its aliases and touches no other peer.
-/
theorem aliases_follow_their_peers (operations : List (Operation S)) :
    (∀ key id, (after operations).aliases.lookup key = some id ↔
      ((after operations).aliasesFor id).count key = 1 ∧
        ∀ other, other ≠ id → key ∉ (after operations).aliasesFor other) ∧
    (∀ id, (after operations).aliasesFor id ≠ [] → (after operations).get id ≠ none) ∧
    (∀ key id, (after operations).aliases.lookup key = some id →
      ∃ peer, (after operations).get id = some peer ∧ (after operations).getBy key = some peer) ∧
    (∀ id, ((after operations).aliasesFor id).Pairwise (RegisteredBefore operations id)) ∧
    (∀ id key, if (after operations).get id = none
      then (after operations).aliasPeer id key = (false, after operations)
      else ((after operations).aliasPeer id key).1 = true ∧
        (after operations).Attaches id key ((after operations).aliasPeer id key).2) ∧
    (∀ id, ((after operations).remove id).1 = (after operations).get id ∧
      (after operations).Removes id ((after operations).remove id).2) := by
  have refines := refines_after operations
  refine ⟨refines.forward_iff, fun id => refines.owner_registered, fun key id => refines.getBy_live,
    registered_in_order operations, fun id key => ?_, fun id => ⟨?_, refines.removes id⟩⟩
  · -- An alias of a peer that is not there is refused.
    split
    · next absent => exact if_pos absent
    · next there =>
      refine ⟨?_, refines.attaches there key⟩
      rw [get] at there
      rw [aliasPeer, if_neg there]
      cases (after operations).aliases.lookup key with
      | some previous => by_cases same : previous = id <;> simp [same]
      | none => rfl
  · rw [remove, get]
    cases (after operations).aliasIndex.lookup id <;> rfl

end PeerRegistry

end Repe
