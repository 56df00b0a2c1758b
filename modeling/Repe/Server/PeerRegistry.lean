import Mathlib.Data.List.AList
import Repe.Lib.Ledger

/-! The peers a server knows, and the keys an embedder addresses them by. -/

namespace Repe

abbrev PeerId := UInt64

structure PeerHandle (S : Type) where
  peerId : PeerId
  sink : S
  deriving DecidableEq, Repr

/-- `RegistryInner`, which one mutex guards. -/
structure PeerRegistry (S : Type) where
  peers : AList fun _ : PeerId => PeerHandle S
  aliases : AList fun _ : String => PeerId
  aliasIndex : AList fun _ : PeerId => List String

namespace PeerRegistry

variable {S : Type}

/-- `PeerRegistry::new`. -/
def new : PeerRegistry S := ⟨∅, ∅, ∅⟩

/-- `PeerRegistry::get`. -/
def get (registry : PeerRegistry S) (id : PeerId) : Option (PeerHandle S) :=
  registry.peers.lookup id

/-- `PeerRegistry::get_by`. -/
def getBy (registry : PeerRegistry S) (key : String) : Option (PeerHandle S) :=
  (registry.aliases.lookup key).bind registry.get

/-- `PeerRegistry::aliases_for`. -/
def aliasesFor (registry : PeerRegistry S) (id : PeerId) : List String :=
  (registry.aliasIndex.lookup id).getD []

/-- `PeerRegistry::key_for`. -/
def keyFor (registry : PeerRegistry S) (id : PeerId) : Option String :=
  (registry.aliasIndex.lookup id).bind List.head?

/-- `PeerRegistry::insert`. -/
def insert (registry : PeerRegistry S) (peer : PeerHandle S) : PeerRegistry S :=
  { registry with peers := registry.peers.insert peer.peerId peer }

def detach (index : AList fun _ : PeerId => List String) (previous : PeerId) (key : String) :
    AList fun _ : PeerId => List String :=
  match index.lookup previous with
  | some keys => index.insert previous (keys.filter (· ≠ key))
  | none => index

def attach (index : AList fun _ : PeerId => List String) (id : PeerId) (key : String) :
    AList fun _ : PeerId => List String :=
  index.insert id ((index.lookup id).getD [] ++ [key])

/-- `PeerRegistry::alias`. -/
def aliasPeer (registry : PeerRegistry S) (id : PeerId) (key : String) :
    Bool × PeerRegistry S :=
  if registry.peers.lookup id = none then (false, registry)
  else
    let aliases := registry.aliases.insert key id
    match registry.aliases.lookup key with
    | some previous =>
      -- The key addressed this same peer, which lists it already.
      if previous = id then (true, { registry with aliases := aliases })
      else
        -- The key addressed a different peer.
        let detached := detach registry.aliasIndex previous key
        (true, { registry with aliases := aliases, aliasIndex := attach detached id key })
    | none =>
      (true, { registry with aliases := aliases, aliasIndex := attach registry.aliasIndex id key })

def purge (id : PeerId) (aliases : AList fun _ : String => PeerId) (keys : List String) :
    AList fun _ : String => PeerId :=
  keys.foldl
    (fun aliases key => if aliases.lookup key = some id then aliases.erase key else aliases) aliases

/-- `PeerRegistry::remove`. -/
def remove (registry : PeerRegistry S) (id : PeerId) : Option (PeerHandle S) × PeerRegistry S :=
  let removed := registry.peers.lookup id
  let peers := registry.peers.erase id
  match registry.aliasIndex.lookup id with
  | some keys =>
    (removed, ⟨peers, purge id registry.aliases keys, registry.aliasIndex.erase id⟩)
  | none => (removed, { registry with peers := peers })

/-- An operation that takes the lock to change the registry. -/
inductive Operation (S : Type) where
  | insert (peer : PeerHandle S)
  | aliasPeer (id : PeerId) (key : String)
  | remove (id : PeerId)
  deriving DecidableEq, Repr

def apply (registry : PeerRegistry S) : Operation S → PeerRegistry S
  | .insert peer => registry.insert peer
  | .aliasPeer id key => (registry.aliasPeer id key).2
  | .remove id => (registry.remove id).2

def after (operations : List (Operation S)) : PeerRegistry S := operations.foldl apply new

end PeerRegistry

/-- What a registry is for: the peers there are, and the ledger of the keys they own. -/
structure Roster (S : Type) where
  peers : PeerId → Option (PeerHandle S)
  aliases : Ledger String PeerId
  owned : ∀ {key : String} {id : PeerId}, (key, id) ∈ aliases.entries → peers id ≠ none

namespace Roster

variable {S : Type}

def empty : Roster S where
  peers := fun _ => none
  aliases := .empty
  owned member := absurd member List.not_mem_nil

def insert (roster : Roster S) (peer : PeerHandle S) : Roster S where
  peers := Function.update roster.peers peer.peerId (some peer)
  aliases := roster.aliases
  owned {key id} member := by
    by_cases same : id = peer.peerId
    · rw [same, Function.update_self]
      exact Option.some_ne_none peer
    · rw [Function.update_of_ne same]
      exact roster.owned member

def aliasPeer (roster : Roster S) (id : PeerId) (key : String) : Roster S :=
  if there : roster.peers id = none then roster
  else
    { peers := roster.peers
      aliases := roster.aliases.assign key id
      owned := fun member => by
        rcases Ledger.mem_assign.mp member with ⟨_, rfl⟩ | ⟨_, before⟩
        · exact there
        · exact roster.owned before }

def remove (roster : Roster S) (id : PeerId) : Roster S where
  peers := Function.update roster.peers id none
  aliases := roster.aliases.release id
  owned {key other} member := by
    obtain ⟨apart, before⟩ := Ledger.mem_release.mp member
    rw [Function.update_of_ne apart]
    exact roster.owned before

def apply (roster : Roster S) : PeerRegistry.Operation S → Roster S
  | .insert peer => roster.insert peer
  | .aliasPeer id key => roster.aliasPeer id key
  | .remove id => roster.remove id

def after (operations : List (PeerRegistry.Operation S)) : Roster S := operations.foldl apply empty

end Roster

end Repe
