import Repe.Lib.Transition
import Mathlib.Data.List.Nodup

/-! Histories of a shared object, and what makes a run of one linearizable: every operation takes effect
in one step, between its invocation and its return. -/

namespace Linearize

variable {ι ρ σ : Type}

/-- What the callers of a shared object see of it. -/
inductive Event (ι ρ : Type) where
  | invoked (op : ι)
  | returned (op : ι) (result : ρ)
  deriving DecidableEq, Repr

/-- A run as its callers see it, and the operations in the order in which they took effect. -/
structure Record (ι ρ : Type) where
  history : List (Event ι ρ)
  effects : List (ι × ρ)
  deriving DecidableEq, Repr

namespace Record

/-- Nothing has happened yet. -/
def empty : Record ι ρ := ⟨[], []⟩

/-- A caller starts an operation. -/
def invoke (record : Record ι ρ) (op : ι) : Record ι ρ :=
  { record with history := record.history ++ [.invoked op] }

/-- An operation takes effect, with the result its caller will be given. -/
def take (record : Record ι ρ) (op : ι) (result : ρ) : Record ι ρ :=
  { record with effects := record.effects ++ [(op, result)] }

/-- A caller is given the result of its operation. -/
def respond (record : Record ι ρ) (op : ι) (result : ρ) : Record ι ρ :=
  { record with history := record.history ++ [.returned op result] }

/-- The operations that took effect. -/
def taken (record : Record ι ρ) : List ι := record.effects.map Prod.fst

end Record

/-- One operation returned before another was invoked. -/
def Precedes (history : List (Event ι ρ)) (first second : ι) : Prop :=
  ∃ before after, history = before ++ after ∧ (∃ result, Event.returned first result ∈ before) ∧
    Event.invoked second ∈ after

/-- One operation took effect before another did. -/
def Before (effects : List (ι × ρ)) (first second : ι) : Prop :=
  ∃ before after, effects = before ++ after ∧ first ∈ before.map Prod.fst ∧
    second ∈ after.map Prod.fst

/-- What a sequential object answers to operations in order, and the state it ends in. -/
def replay (apply : σ → ι → ρ × σ) : σ → List ι → List ρ × σ
  | state, [] => ([], state)
  | state, op :: ops =>
    let (result, next) := apply state op
    let (results, final) := replay apply next ops
    (result :: results, final)

/-- One more operation is applied where the others end. -/
theorem replay_concat (apply : σ → ι → ρ × σ) (state : σ) (ops : List ι) (op : ι) :
    replay apply state (ops ++ [op]) =
      ((replay apply state ops).1 ++ [(apply (replay apply state ops).2 op).1],
        (apply (replay apply state ops).2 op).2) := by
  -- By induction on the operations before it, from any state.
  induction ops generalizing state with
  | nil => rfl
  | cons first ops ih =>
    simp only [List.cons_append, replay, ih]

/-- A history that ends in another event than the invocation in question. -/
theorem Precedes.of_concat {history : List (Event ι ρ)} {event : Event ι ρ} {first second : ι}
    (precedes : Precedes (history ++ [event]) first second) (other : event ≠ .invoked second) :
    Precedes history first second := by
  obtain ⟨before, after, split, returned, invoked⟩ := precedes
  -- The last event is the last of the second part, which is not empty.
  rcases List.eq_nil_or_concat' after with rfl | ⟨rest, last, rfl⟩
  · cases invoked
  · rw [← List.append_assoc] at split
    obtain ⟨same, lasts⟩ := List.append_inj' split rfl
    cases lasts
    refine ⟨before, rest, same, returned, ?_⟩
    rcases List.mem_append.mp invoked with inside | atEnd
    · exact inside
    · exact absurd (List.mem_singleton.mp atEnd).symm other

/-- What is ordered stays so when more operations take effect. -/
theorem Before.concat {effects : List (ι × ρ)} {first second : ι} (ordered : Before effects first second)
    (effect : ι × ρ) : Before (effects ++ [effect]) first second := by
  obtain ⟨before, after, rfl, early, late⟩ := ordered
  -- The new effect is behind both.
  refine ⟨before, after ++ [effect], List.append_assoc .., early, ?_⟩
  rw [List.map_append]
  exact List.mem_append_left _ late

/--
A run is explained by a sequential object: the operations, one at a time in the order in which they took
effect, have the results their callers were given and lead to the state the run ended in.

That order is one the callers can believe in. Nothing takes effect before it is invoked or after it has
returned, so an operation that returned before another was invoked comes before it.
-/
structure Linearized (apply : σ → ι → ρ × σ) (start final : σ) (record : Record ι ρ) : Prop where
  legal : replay apply start record.taken = (record.effects.map Prod.snd, final)
  once : record.taken.Nodup
  invoked : ∀ op ∈ record.taken, Event.invoked op ∈ record.history
  returned : ∀ op result, Event.returned op result ∈ record.history → (op, result) ∈ record.effects
  ordered : ∀ first second, Precedes record.history first second → second ∈ record.taken →
    Before record.effects first second

namespace Linearized

variable {apply : σ → ι → ρ × σ} {start final : σ} {record : Record ι ρ}

/-- A run in which nothing has happened. -/
theorem empty (start : σ) : Linearized apply start start (Record.empty : Record ι ρ) where
  legal := rfl
  once := List.nodup_nil
  invoked _ member := by cases member
  returned _ _ member := by cases member
  ordered _ _ _ member := by cases member

/-- An operation that is invoked has no effect yet. -/
theorem invoke (linearized : Linearized apply start final record) {op : ι}
    (fresh : Event.invoked op ∉ record.history) :
    Linearized apply start final (record.invoke op) where
  legal := linearized.legal
  once := linearized.once
  invoked other member := List.mem_append_left _ (linearized.invoked other member)
  returned other result member := by
    rcases List.mem_append.mp member with earlier | last
    · exact linearized.returned other result earlier
    · cases List.mem_singleton.mp last
  ordered first second precedes member := by
    -- What took effect was invoked earlier, so this is not the operation in question.
    have other : Event.invoked op ≠ Event.invoked (ρ := ρ) second := by
      intro same
      exact fresh (same ▸ linearized.invoked second member)
    exact linearized.ordered first second (precedes.of_concat other) member

/-- An operation takes effect as the sequential object has it. -/
theorem take (linearized : Linearized apply start final record) {op : ι} {result : ρ} {next : σ}
    (pending : Event.invoked op ∈ record.history) (fresh : op ∉ record.taken)
    (applied : apply final op = (result, next)) :
    Linearized apply start next (record.take op result) := by
  have taken : (record.take op result).taken = record.taken ++ [op] := List.map_append
  constructor
  · rw [taken, replay_concat, linearized.legal, applied, Record.take, List.map_append]
    rfl
  · rw [taken]
    exact linearized.once.append (List.nodup_singleton op) (by simpa using fresh)
  · intro other member
    rw [taken] at member
    rcases List.mem_append.mp member with earlier | last
    · exact linearized.invoked other earlier
    · exact List.mem_singleton.mp last ▸ pending
  · intro other result' member
    exact List.mem_append_left _ (linearized.returned other result' member)
  · intro first second precedes member
    rw [taken] at member
    rcases List.mem_append.mp member with earlier | last
    · exact (linearized.ordered first second precedes earlier).concat _
    · -- What returned has taken effect, so it is in front of the new one.
      obtain ⟨before, after, split, ⟨result', returned⟩, _⟩ := precedes
      have effect := linearized.returned first result' (split ▸ List.mem_append_left _ returned)
      exact ⟨record.effects, [(op, result)], rfl, List.mem_map_of_mem effect, by simpa using last⟩

/-- A caller is given the result with which its operation took effect. -/
theorem respond (linearized : Linearized apply start final record) {op : ι} {result : ρ}
    (taken : (op, result) ∈ record.effects) :
    Linearized apply start final (record.respond op result) where
  legal := linearized.legal
  once := linearized.once
  invoked other member := List.mem_append_left _ (linearized.invoked other member)
  returned other result' member := by
    rcases List.mem_append.mp member with earlier | last
    · exact linearized.returned other result' earlier
    · cases List.mem_singleton.mp last
      exact taken
  ordered first second precedes member :=
    linearized.ordered first second (precedes.of_concat (by rintro ⟨⟩)) member

end Linearized

end Linearize
