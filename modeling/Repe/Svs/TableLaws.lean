import Repe.Svs.Table

/-! What clients can rely on whatever the interleaving of their requests on one session table. -/

namespace Repe.Svs

namespace SessionTable

/-- What holds of a table in every state that requests can bring it to. -/
structure Coherent (table : SessionTable) : Prop where
  counter : table.nextId = 1 + UInt64.ofNat table.streams.length
  ids : ∀ (stream : Nat) (opened : Opened), table.streams[stream]? = some opened →
    opened.id = 1 + UInt64.ofNat stream
  served : ∀ (stream : Nat) (opened : Opened), table.streams[stream]? = some opened →
    (opened.log.map Prod.snd, opened.session) =
      (Session.new opened.messages).nexts opened.log.length
  listed : ∀ id stream, table.sessions.lookup id = some stream →
    ∃ opened, table.streams[stream]? = some opened ∧ opened.id = id ∧
      opened.inserted = true ∧ opened.cancelled = false
  drawn : ∀ call stream, table.opens call = .drawn stream →
    ∃ opened, table.streams[stream]? = some opened ∧ opened.inserted = false ∧
      opened.cancelled = false
  replied : ∀ call stream response, table.opens call = .answered stream response →
    ∃ opened, table.streams[stream]? = some opened ∧ opened.id = response.streamId
  owned : ∀ call other stream, (table.opens call).stream = some stream →
    (table.opens other).stream = some stream → other = call
  calls : ∀ call, table.Sound call (table.nexts call)

/-- What every step leaves of the streams there were: they only get on, and none is listed twice. -/
structure Evolves (table after : SessionTable) : Prop where
  streams : ∀ (stream : Nat) (opened : Opened), table.streams[stream]? = some opened →
    ∃ later : Opened, after.streams[stream]? = some later ∧ later.id = opened.id ∧
      (opened.inserted = true → later.inserted = true) ∧ opened.log ⊆ later.log
  listed : ∀ stream, after.Listed stream → table.Listed stream ∨
    ∀ opened, table.streams[stream]? = some opened → opened.inserted = false

variable {handler : OpenHandler} {table after : SessionTable}

/-- What a `next` request knows stays true while the streams get on. -/
theorem Sound.evolve {call : Nat} {next : NextCall} (evolves : Evolves table after)
    (sound : table.Sound call next) : after.Sound call next := by
  cases next with
  | idle => trivial
  | refused error => trivial
  | found stream id =>
    obtain ⟨opened, known, inserted, same⟩ := sound
    obtain ⟨later, still, keeps, stays, _⟩ := evolves.streams stream opened known
    exact ⟨later, still, stays inserted, keeps.trans same⟩
  | pulled stream id answer =>
    obtain ⟨opened, known, inserted, same, logged⟩ := sound
    obtain ⟨later, still, keeps, stays, grows⟩ := evolves.streams stream opened known
    exact ⟨later, still, stays inserted, keeps.trans same, grows logged⟩
  | answered stream answer =>
    obtain ⟨⟨opened, known, inserted, logged⟩, released⟩ := sound
    obtain ⟨later, still, keeps, stays, grows⟩ := evolves.streams stream opened known
    refine ⟨⟨later, still, stays inserted, grows logged⟩, ?_⟩
    intro ends relisted
    -- Only a stream that was never listed can be listed anew.
    rcases evolves.listed stream relisted with before | fresh
    · exact released ends before
    · rw [fresh opened known] at inserted
      cases inserted

theorem modified {streams : List Opened} {change : Opened → Opened} {stream other : Nat}
    {later : Opened} (found : (streams.modify stream change)[other]? = some later) :
    ∃ opened, streams[other]? = some opened ∧
      later = if stream = other then change opened else opened := by
  -- A change keeps the number of every stream.
  rw [List.getElem?_modify] at found
  obtain ⟨opened, known, same⟩ := Option.map_eq_some_iff.mp found
  exact ⟨opened, known, same.symm⟩

theorem forall_modified {streams : List Opened} {change : Opened → Opened} {stream : Nat}
    {fact : Nat → Opened → Prop}
    (before : ∀ (other : Nat) opened, streams[other]? = some opened → fact other opened)
    (changed : ∀ opened, fact stream opened → fact stream (change opened)) :
    ∀ (other : Nat) later, (streams.modify stream change)[other]? = some later →
      fact other later := by
  intro other later found
  obtain ⟨opened, known, same⟩ := modified found
  have held := before other opened known
  rw [same]
  -- The stream is the changed one, or as it was.
  split
  · next own =>
    subst own
    exact changed opened held
  · exact held

theorem known_modify {streams : List Opened} {opened : Opened} {stream other : Nat}
    (change : Opened → Opened) (known : streams[other]? = some opened) (differs : stream ≠ other) :
    (streams.modify stream change)[other]? = some opened := by
  simp [known, differs]

theorem known_modify_self {streams : List Opened} {opened : Opened} {stream : Nat}
    (change : Opened → Opened) (known : streams[stream]? = some opened) :
    (streams.modify stream change)[stream]? = some (change opened) := by
  simp [known]

theorem known_modify_id {streams : List Opened} {change : Opened → Opened} {opened : Opened}
    {stream other : Nat} (kept : ∀ opened, (change opened).id = opened.id)
    (known : streams[other]? = some opened) :
    ∃ later, (streams.modify stream change)[other]? = some later ∧ later.id = opened.id := by
  -- A change keeps the id of its stream.
  by_cases own : stream = other
  · subst own
    exact ⟨_, known_modify_self change known, kept opened⟩
  · exact ⟨opened, known_modify change known own, rfl⟩

theorem evolves_of_modify {change : Opened → Opened} {stream : Nat}
    (kept : ∀ opened, (change opened).id = opened.id ∧
      (opened.inserted = true → (change opened).inserted = true) ∧
      opened.log ⊆ (change opened).log)
    (streams : after.streams = table.streams.modify stream change)
    (listed : ∀ stream, after.Listed stream → table.Listed stream ∨
      ∀ opened, table.streams[stream]? = some opened → opened.inserted = false) :
    Evolves table after := by
  refine ⟨?_, listed⟩
  intro other opened known
  refine ⟨if stream = other then change opened else opened, ?_, ?_⟩
  · rw [streams, List.getElem?_modify, known]
    rfl
  · -- The changed stream goes on as it may, the others stay.
    split
    · exact kept opened
    · exact ⟨rfl, id, List.Subset.refl _⟩

theorem evolves_of_unlisting (streams : after.streams = table.streams)
    (listed : ∀ stream, after.Listed stream → table.Listed stream) : Evolves table after := by
  -- Streams that did not change got on trivially.
  refine ⟨?_, fun stream relisted => .inl (listed stream relisted)⟩
  intro stream opened known
  exact ⟨opened, streams ▸ known, rfl, id, List.Subset.refl _⟩

theorem calls_become {call : Nat} {next : NextCall}
    (calls : ∀ other, table.Sound other (table.nexts other)) (sound : table.Sound call next)
    (other : Nat) : (table.become call next).Sound other ((table.become call next).nexts other) := by
  -- What a request knows is about streams and listing, which are as before.
  have same : ∀ other next', (table.become call next).Sound other next' = table.Sound other next' := by
    intro other next'
    cases next' <;> rfl
  rw [same]
  by_cases own : other = call
  · subst own
    simpa [become] using sound
  · simpa [become, own] using calls other

theorem lookup_of_erase {sessions : AList fun _ : UInt64 => Nat} {gone id : UInt64} {stream : Nat}
    (found : (sessions.erase gone).lookup id = some stream) :
    id ≠ gone ∧ sessions.lookup id = some stream := by
  -- An erased id is not found any more.
  by_cases same : id = gone
  · rw [same, AList.lookup_erase] at found
    cases found
  · rw [AList.lookup_erase_ne same] at found
    exact ⟨same, found⟩

theorem appended {streams : List Opened} {fresh later : Opened} {stream : Nat}
    (found : (streams ++ [fresh])[stream]? = some later) :
    streams[stream]? = some later ∨ stream = streams.length ∧ later = fresh := by
  -- The new stream is the last one.
  by_cases old : stream < streams.length
  · rw [List.getElem?_append_left old] at found
    exact .inl found
  · rw [List.getElem?_append_right (by omega)] at found
    obtain ⟨index, same⟩ := List.getElem?_eq_some_iff.mp found
    simp only [List.length_singleton] at index
    refine .inr ⟨by omega, ?_⟩
    rw [← same]
    simp

theorem known_append {streams : List Opened} {opened : Opened} {stream : Nat} (fresh : Opened)
    (known : streams[stream]? = some opened) : (streams ++ [fresh])[stream]? = some opened := by
  obtain ⟨index, _⟩ := List.getElem?_eq_some_iff.mp known
  rw [List.getElem?_append_left index, known]

/-- The number of a stream that an `open` request started. -/
theorem Coherent.started {call stream : Nat} (coherent : table.Coherent)
    (started : (table.opens call).stream = some stream) : stream < table.streams.length := by
  have known : ∃ opened, table.streams[stream]? = some opened := by
    -- Only the two phases past the draw have a stream.
    cases phase : table.opens call with
    | idle => simp [phase, OpenCall.stream] at started
    | refused error => simp [phase, OpenCall.stream] at started
    | drawn number =>
      simp only [phase, OpenCall.stream, Option.some.injEq] at started
      obtain ⟨opened, known, _⟩ := coherent.drawn call number phase
      exact ⟨opened, started ▸ known⟩
    | answered number response =>
      simp only [phase, OpenCall.stream, Option.some.injEq] at started
      obtain ⟨opened, known, _⟩ := coherent.replied call number response phase
      exact ⟨opened, started ▸ known⟩
  obtain ⟨opened, known⟩ := known
  exact (List.getElem?_eq_some_iff.mp known).1

theorem Coherent.drawn_ne {call stream number : Nat} {opened : Opened} (coherent : table.Coherent)
    (known : table.streams[stream]? = some opened) (inserted : opened.inserted = true)
    (drawn : table.opens call = .drawn number) : stream ≠ number := by
  intro own
  -- A stream that was only drawn is not inserted yet.
  obtain ⟨record, also, fresh, _⟩ := coherent.drawn call number drawn
  rw [← own, known] at also
  cases also
  rw [fresh] at inserted
  cases inserted

/-- An inserted stream may change: no `open` is about to insert it. -/
theorem Coherent.drawn_modify {stream : Nat} {opened : Opened} {change : Opened → Opened}
    (coherent : table.Coherent) (known : table.streams[stream]? = some opened)
    (inserted : opened.inserted = true) (call number : Nat)
    (drawn : table.opens call = .drawn number) :
    ∃ record, (table.streams.modify stream change)[number]? = some record ∧
      record.inserted = false ∧ record.cancelled = false := by
  -- The stream that changes is not the one of this `open`.
  obtain ⟨record, also, rest⟩ := coherent.drawn call number drawn
  exact ⟨record, known_modify _ also (coherent.drawn_ne known inserted drawn), rest⟩

/-- An `open` that has returned only cares for the id of its stream. -/
theorem Coherent.replied_modify {stream : Nat} {change : Opened → Opened}
    (coherent : table.Coherent) (kept : ∀ opened, (change opened).id = opened.id)
    (call number : Nat) (response : OpenResponse)
    (answered : table.opens call = .answered number response) :
    ∃ record, (table.streams.modify stream change)[number]? = some record ∧
      record.id = response.streamId := by
  obtain ⟨record, also, same⟩ := coherent.replied call number response answered
  rw [← same]
  exact known_modify_id kept also

/-- Streams belong to one `open` each, also after one of these got on with a stream of its own. -/
theorem owned_update {opens : Nat → OpenCall} {call : Nat} {next : OpenCall}
    (owned : ∀ call other stream, (opens call).stream = some stream →
      (opens other).stream = some stream → other = call)
    (own : ∀ other stream, other ≠ call → next.stream = some stream →
      (opens other).stream ≠ some stream) :
    ∀ one other stream, (Function.update opens call next one).stream = some stream →
      (Function.update opens call next other).stream = some stream → other = one := by
  intro one other stream first second
  -- Two requests with one stream are the same, or one of them is the one that got on.
  by_cases mine : one = call
  · by_cases also : other = call
    · exact also.trans mine.symm
    · simp only [mine, Function.update_self] at first
      simp only [Function.update_of_ne also] at second
      exact absurd second (own other stream also first)
  · simp only [Function.update_of_ne mine] at first
    by_cases also : other = call
    · simp only [also, Function.update_self] at second
      exact absurd first (own one stream mine second)
    · simp only [Function.update_of_ne also] at second
      exact owned one other stream first second

/-- An `open` that is refused keeps a table coherent. -/
theorem coherent_refuse {call : Nat} (code : ErrorCode) (text : String)
    (coherent : table.Coherent) : (table.refuse call code text).Coherent := by
  -- A refused call has no stream, so only its own entry has to be looked at.
  refine { coherent with drawn := ?_, replied := ?_, owned := ?_, calls := ?_ }
  · intro other stream drawn
    by_cases own : other = call
    · simp [refuse, own] at drawn
    · simp only [refuse, Function.update_of_ne own] at drawn
      exact coherent.drawn other stream drawn
  · intro other stream response answered
    by_cases own : other = call
    · simp [refuse, own] at answered
    · simp only [refuse, Function.update_of_ne own] at answered
      exact coherent.replied other stream response answered
  · refine owned_update coherent.owned ?_
    intro other stream _ started
    simp [OpenCall.stream] at started
  · intro other
    exact Sound.evolve (evolves_of_unlisting rfl fun _ => id) (coherent.calls other)

theorem evolves_draw (call : Nat) (messages : List Msg) :
    Evolves table (table.openStep call (.resolved messages)) := by
  refine ⟨?_, fun stream relisted => .inl relisted⟩
  intro stream opened known
  exact ⟨opened, known_append _ known, rfl, id, List.Subset.refl _⟩

/-- An `open` that draws an id keeps a table coherent. -/
theorem coherent_draw {call : Nat} (messages : List Msg) (coherent : table.Coherent) :
    (table.openStep call (.resolved messages)).Coherent where
  counter := by
    simp only [openStep, coherent.counter, List.length_append, List.length_singleton,
      UInt64.ofNat_add, UInt64.add_assoc]
    rfl
  ids := by
    intro stream opened found
    rcases appended found with old | ⟨last, rfl⟩
    · exact coherent.ids stream opened old
    · rw [last, ← coherent.counter]
  served := by
    intro stream opened found
    rcases appended found with old | ⟨_, rfl⟩
    · exact coherent.served stream opened old
    · rfl
  listed := by
    intro id stream found
    obtain ⟨opened, known, rest⟩ := coherent.listed id stream found
    exact ⟨opened, known_append _ known, rest⟩
  drawn := by
    intro other stream drawn
    by_cases own : other = call
    · simp only [openStep, own, Function.update_self, OpenCall.drawn.injEq] at drawn
      subst drawn
      exact ⟨_, List.getElem?_concat_length, rfl, rfl⟩
    · simp only [openStep, Function.update_of_ne own] at drawn
      obtain ⟨opened, known, rest⟩ := coherent.drawn other stream drawn
      exact ⟨opened, known_append _ known, rest⟩
  replied := by
    intro other stream response answered
    by_cases own : other = call
    · simp [openStep, own] at answered
    · simp only [openStep, Function.update_of_ne own] at answered
      obtain ⟨opened, known, same⟩ := coherent.replied other stream response answered
      exact ⟨opened, known_append _ known, same⟩
  owned := by
    refine owned_update coherent.owned ?_
    intro other stream _ fresh started
    -- The number of the new stream belongs to no earlier request.
    have earlier := coherent.started started
    simp only [OpenCall.stream, Option.some.injEq] at fresh
    omega
  calls := by
    intro other
    exact Sound.evolve (evolves_draw call messages) (coherent.calls other)

theorem Coherent.listed_insert {call stream : Nat} {opened : Opened} (coherent : table.Coherent)
    (drawn : table.opens call = .drawn stream) {id : UInt64} {other : Nat}
    (found : (table.insertStep handler call stream opened).sessions.lookup id = some other) :
    (id = opened.id ∧ other = stream) ∨
      (other ≠ stream ∧ table.sessions.lookup id = some other) := by
  -- By the id that is looked up.
  by_cases same : id = opened.id
  · rw [same] at found
    simp only [insertStep, AList.lookup_insert, Option.some.injEq] at found
    exact .inl ⟨same, found.symm⟩
  · simp only [insertStep, AList.lookup_insert_ne same] at found
    obtain ⟨record, also, _, inserted, _⟩ := coherent.listed id other found
    exact .inr ⟨coherent.drawn_ne also inserted drawn, found⟩

/-- The listing of a stream lists one that was not listed before. -/
theorem evolves_insert {call stream : Nat} {opened : Opened} (coherent : table.Coherent)
    (drawn : table.opens call = .drawn stream) (known : table.streams[stream]? = some opened) :
    Evolves table (table.insertStep handler call stream opened) := by
  obtain ⟨record, also, fresh, _⟩ := coherent.drawn call stream drawn
  rw [known] at also
  cases also
  refine evolves_of_modify ?_ rfl ?_
  · intro opened
    exact ⟨rfl, fun _ => rfl, List.Subset.refl _⟩
  · rintro number ⟨id, found⟩
    -- The new stream was not listed, and every other one was.
    rcases coherent.listed_insert drawn found with ⟨_, own⟩ | ⟨_, before⟩
    · refine .inr ?_
      intro record also
      rw [own, known] at also
      cases also
      exact fresh
    · exact .inl ⟨id, before⟩

/-- The listing of a stream keeps a table coherent. -/
theorem coherent_insert {call stream : Nat} {opened : Opened} (coherent : table.Coherent)
    (drawn : table.opens call = .drawn stream) (known : table.streams[stream]? = some opened) :
    (table.insertStep handler call stream opened).Coherent := by
  obtain ⟨record, also, fresh, uncancelled⟩ := coherent.drawn call stream drawn
  rw [known] at also
  cases also
  have started : (table.opens call).stream = some stream := by rw [drawn]; rfl
  -- The parts in the order of the invariant; the stream of this call is changed, no other.
  refine ⟨?_, ?_, ?_, ?_, ?_, ?_, ?_, ?_⟩
  · simpa [insertStep] using coherent.counter
  · exact forall_modified coherent.ids fun _ id => id
  · exact forall_modified coherent.served fun _ served => served
  · intro id other found
    rcases coherent.listed_insert drawn found with ⟨sameId, own⟩ | ⟨differs, before⟩
    · subst own
      exact ⟨_, known_modify_self _ known, sameId.symm, rfl, uncancelled⟩
    · obtain ⟨record, also, facts⟩ := coherent.listed id other before
      exact ⟨record, known_modify _ also differs.symm, facts⟩
  · intro other number drawn'
    by_cases own : other = call
    · simp [insertStep, own] at drawn'
    · simp only [insertStep, Function.update_of_ne own] at drawn'
      obtain ⟨record, also, rest⟩ := coherent.drawn other number drawn'
      refine ⟨record, known_modify _ also ?_, rest⟩
      intro same
      exact own (coherent.owned call other stream started (by rw [drawn', same]; rfl))
  · intro other number response answered
    by_cases own : other = call
    · simp only [insertStep, own, Function.update_self, OpenCall.answered.injEq] at answered
      obtain ⟨rfl, rfl⟩ := answered
      exact ⟨_, known_modify_self _ known, rfl⟩
    · simp only [insertStep, Function.update_of_ne own] at answered
      obtain ⟨record, also, same⟩ := coherent.replied other number response answered
      refine ⟨record, known_modify _ also ?_, same⟩
      intro shared
      exact own (coherent.owned call other stream started (by rw [answered, shared]; rfl))
  · refine owned_update coherent.owned ?_
    intro other number differs own also
    simp only [OpenCall.stream, Option.some.injEq] at own
    exact differs (coherent.owned call other stream started (own ▸ also))
  · intro other
    exact Sound.evolve (evolves_insert coherent drawn known) (coherent.calls other)

/-- A lookup keeps a table coherent. -/
theorem coherent_lookup {call : Nat} (request : Option UInt64) (coherent : table.Coherent) :
    (table.lookupStep call request).Coherent := by
  -- A lookup changes one call, and no stream.
  have become : ∀ next, table.Sound call next → (table.become call next).Coherent := by
    intro next sound
    exact { coherent with calls := calls_become coherent.calls sound }
  unfold lookupStep
  split
  · exact become _ trivial
  · next id =>
    split
    · exact become _ trivial
    · next stream found =>
      obtain ⟨opened, known, same, inserted, _⟩ := coherent.listed id stream found
      exact become _ ⟨opened, known, inserted, same⟩

theorem served_pull {opened : Opened} (call : Nat)
    (served : (opened.log.map Prod.snd, opened.session) =
      (Session.new opened.messages).nexts opened.log.length) :
    ((opened.log ++ [(call, opened.session.next.1)]).map Prod.snd, opened.session.next.2) =
      (Session.new opened.messages).nexts (opened.log ++ [(call, opened.session.next.1)]).length := by
  -- The log is one pull longer, and so are the pulls in a row.
  rw [List.length_append, List.length_singleton, Session.nexts, ← served]
  simp

theorem evolves_pull (call stream : Nat) (id : UInt64) (opened : Opened) :
    Evolves table (table.pullStep call stream id opened) := by
  -- The log only grows, and the listing stays.
  refine evolves_of_modify ?_ rfl ?_
  · intro opened
    exact ⟨rfl, fun inserted => inserted, List.subset_append_left _ _⟩
  · intro number listed
    exact .inl listed

/-- A pull keeps a table coherent. -/
theorem coherent_pull {call stream : Nat} {id : UInt64} {opened : Opened}
    (coherent : table.Coherent) (found : table.nexts call = .found stream id)
    (known : table.streams[stream]? = some opened) :
    (table.pullStep call stream id opened).Coherent := by
  have holds := coherent.calls call
  rw [found] at holds
  obtain ⟨record, also, inserted, same⟩ := holds
  rw [known] at also
  cases also
  -- The change concerns one stream, which keeps its id and its flags.
  refine ⟨?_, ?_, ?_, ?_, coherent.drawn_modify known inserted,
    coherent.replied_modify fun _ => rfl, coherent.owned, ?_⟩
  · simpa [pullStep, become] using coherent.counter
  · exact forall_modified coherent.ids fun _ id => id
  · exact forall_modified coherent.served fun _ served => served_pull call served
  · intro id other listed
    obtain ⟨record, also, facts⟩ := coherent.listed id other listed
    by_cases own : stream = other
    · subst own
      exact ⟨_, known_modify_self _ also, facts⟩
    · exact ⟨record, known_modify _ also own, facts⟩
  · refine calls_become ?_ ?_
    · intro other
      have evolves := @evolves_pull table call stream id opened
      exact Sound.evolve ⟨evolves.streams, evolves.listed⟩ (coherent.calls other)
    · exact ⟨_, known_modify_self _ known, inserted, same, List.mem_concat_self⟩

theorem lookup_of_answer {sessions : AList fun _ : UInt64 => Nat} {answer : Answer} {id other : UInt64}
    {number : Nat}
    (found : (if answer.ends then sessions.erase id else sessions).lookup other = some number) :
    (answer.ends = true → other ≠ id) ∧ sessions.lookup other = some number := by
  -- An answer that ends its stream takes it off the list.
  split at found
  · obtain ⟨differs, before⟩ := lookup_of_erase found
    exact ⟨fun _ => differs, before⟩
  · next goes => exact ⟨fun ends => absurd ends goes, found⟩

theorem evolves_answer (call stream : Nat) (id : UInt64) (answer : Answer) :
    Evolves table (table.answerStep call stream id answer) := by
  refine evolves_of_unlisting rfl ?_
  rintro number ⟨other, found⟩
  exact ⟨other, (lookup_of_answer found).2⟩

/-- An answer keeps a table coherent. -/
theorem coherent_answer {call stream : Nat} {id : UInt64} {answer : Answer}
    (coherent : table.Coherent) (pulled : table.nexts call = .pulled stream id answer) :
    (table.answerStep call stream id answer).Coherent := by
  have holds := coherent.calls call
  rw [pulled] at holds
  obtain ⟨opened, known, inserted, same, logged⟩ := holds
  -- Whether the stream ended or not, no listing is new.
  refine { coherent with listed := ?_, calls := ?_ }
  · intro other number found
    exact coherent.listed other number (lookup_of_answer found).2
  · refine calls_become ?_ ?_
    · intro other
      have evolves := @evolves_answer table call stream id answer
      exact Sound.evolve ⟨evolves.streams, evolves.listed⟩ (coherent.calls other)
    · refine ⟨⟨opened, known, inserted, logged⟩, ?_⟩
      rintro ends ⟨other, found⟩
      obtain ⟨differs, before⟩ := lookup_of_answer found
      -- The stream was listed under its own id only.
      obtain ⟨record, also, own, _⟩ := coherent.listed other stream before
      rw [known] at also
      cases also
      exact differs ends (own.symm.trans same)

/-- A cancellation lists no stream. -/
theorem evolves_cancel (request : Option UInt64) : Evolves table (table.cancelStep request) := by
  cases request with
  | none => exact evolves_of_unlisting rfl fun _ => id
  | some id =>
    -- An id that is not listed changes nothing but the map.
    cases listed : table.sessions.lookup id with
    | none =>
      simp only [cancelStep, listed]
      refine evolves_of_unlisting rfl ?_
      rintro number ⟨other, found⟩
      exact ⟨other, (lookup_of_erase found).2⟩
    | some stream =>
      simp only [cancelStep, listed]
      refine evolves_of_modify ?_ rfl ?_
      · intro opened
        exact ⟨rfl, fun inserted => inserted, List.Subset.refl _⟩
      · rintro number ⟨other, found⟩
        exact .inl ⟨other, (lookup_of_erase found).2⟩

/-- A cancellation keeps a table coherent. -/
theorem coherent_cancel (request : Option UInt64) (coherent : table.Coherent) :
    (table.cancelStep request).Coherent := by
  cases request with
  | none => exact coherent
  | some id =>
    cases listed : table.sessions.lookup id with
    | none =>
      have evolves := @evolves_cancel table (some id)
      simp only [cancelStep, listed] at evolves ⊢
      refine { coherent with listed := ?_, calls := ?_ }
      · intro other number found
        exact coherent.listed other number (lookup_of_erase found).2
      · intro other
        exact Sound.evolve evolves (coherent.calls other)
    | some stream =>
      have evolves := @evolves_cancel table (some id)
      simp only [cancelStep, listed] at evolves ⊢
      -- The cancelled stream was listed under this id, and under no other.
      obtain ⟨opened, known, same, inserted, _⟩ := coherent.listed id stream listed
      refine ⟨?_, ?_, ?_, ?_, coherent.drawn_modify known inserted,
        coherent.replied_modify fun _ => rfl, coherent.owned, ?_⟩
      · simpa using coherent.counter
      · exact forall_modified coherent.ids fun _ id => id
      · exact forall_modified coherent.served fun _ served => served
      · intro other number found
        obtain ⟨differs, before⟩ := lookup_of_erase found
        obtain ⟨record, also, own, rest⟩ := coherent.listed other number before
        refine ⟨record, known_modify _ also ?_, own, rest⟩
        intro cancelled
        rw [← cancelled, known] at also
        cases also
        exact differs (own.symm.trans same)
      · intro other
        exact Sound.evolve evolves (coherent.calls other)

/-- What a step of the table is, for each request that can take it. -/
inductive Moves (handler : OpenHandler) (table : SessionTable) : TableEvent → SessionTable → Prop where
  | opens {call : Nat} {request : OpenRequest} (idle : table.opens call = .idle) :
    Moves handler table (.open call request) (table.openStep call request)
  | inserts {call stream : Nat} {opened : Opened} (drawn : table.opens call = .drawn stream)
    (known : table.streams[stream]? = some opened) :
    Moves handler table (.insert call) (table.insertStep handler call stream opened)
  | looksUp {call : Nat} {request : Option UInt64} (idle : table.nexts call = .idle) :
    Moves handler table (.lookup call request) (table.lookupStep call request)
  | pulls {call stream : Nat} {id : UInt64} {opened : Opened}
    (found : table.nexts call = .found stream id) (known : table.streams[stream]? = some opened) :
    Moves handler table (.pull call) (table.pullStep call stream id opened)
  | answers {call stream : Nat} {id : UInt64} {answer : Answer}
    (pulled : table.nexts call = .pulled stream id answer) :
    Moves handler table (.answer call) (table.answerStep call stream id answer)
  | cancels (request : Option UInt64) :
    Moves handler table (.cancel request) (table.cancelStep request)

theorem moves_of_step {event : TableEvent} (taken : table.step handler event = some after) :
    Moves handler table event after := by
  -- Each request has one phase in which it can take its step.
  cases event with
  | «open» call request =>
    simp only [step] at taken
    split at taken
    · next idle =>
      cases taken
      exact .opens idle
    · simp at taken
  | insert call =>
    simp only [step] at taken
    split at taken
    · next stream drawn =>
      obtain ⟨opened, known, rfl⟩ := Option.map_eq_some_iff.mp taken
      exact .inserts drawn known
    · simp at taken
  | lookup call request =>
    simp only [step] at taken
    split at taken
    · next idle =>
      cases taken
      exact .looksUp idle
    · simp at taken
  | pull call =>
    simp only [step] at taken
    split at taken
    · next stream id found =>
      obtain ⟨opened, known, rfl⟩ := Option.map_eq_some_iff.mp taken
      exact .pulls found known
    · simp at taken
  | answer call =>
    simp only [step] at taken
    split at taken
    · next stream id answer pulled =>
      cases taken
      exact .answers pulled
    · simp at taken
  | cancel request =>
    cases taken
    exact .cancels request

/-- Every step keeps a table coherent. -/
theorem coherent_step {event : TableEvent} (coherent : table.Coherent)
    (taken : table.step handler event = some after) : after.Coherent := by
  -- One lemma for each event, once the guards of the step are known to hold.
  cases moves_of_step taken with
  | @opens call request idle =>
    cases request with
    | malformed => exact coherent_refuse _ _ coherent
    | unknown resource => exact coherent_refuse _ _ coherent
    | resolved messages => exact coherent_draw messages coherent
  | inserts drawn known => exact coherent_insert coherent drawn known
  | @looksUp call request idle => exact coherent_lookup request coherent
  | pulls found known => exact coherent_pull coherent found known
  | answers pulled => exact coherent_answer coherent pulled
  | cancels request => exact coherent_cancel request coherent

/-- Every step only gets the streams on. -/
theorem evolves_step {event : TableEvent} (coherent : table.Coherent)
    (taken : table.step handler event = some after) : Evolves table after := by
  cases moves_of_step taken with
  | @opens call request idle =>
    cases request with
    | malformed => exact evolves_of_unlisting rfl fun _ => id
    | unknown resource => exact evolves_of_unlisting rfl fun _ => id
    | resolved messages => exact evolves_draw call messages
  | inserts drawn known => exact evolves_insert coherent drawn known
  | @looksUp call request idle =>
    -- Whatever is found, only the request gets on.
    unfold lookupStep
    split
    · exact evolves_of_unlisting rfl fun _ => id
    · split <;> exact evolves_of_unlisting rfl fun _ => id
  | pulls found known => exact evolves_pull _ _ _ _
  | answers pulled => exact evolves_answer _ _ _ _
  | cancels request => exact evolves_cancel request

theorem coherent_new : Coherent new := by
  refine ⟨rfl, ?_, ?_, ?_, ?_, ?_, ?_, fun _ => trivial⟩
  all_goals simp [new, OpenCall.stream]

theorem coherent_run {events : List TableEvent}
    (ran : Transition.run (step handler) new events = some table) : table.Coherent := by
  apply Transition.invariant_of_run Coherent _ coherent_new ran
  intro state event after coherent taken
  exact coherent_step coherent taken

theorem Coherent.answers {stream : Nat} {opened : Opened} (coherent : table.Coherent)
    (known : table.streams[stream]? = some opened) :
    opened.log.map Prod.snd = ((Session.new opened.messages).nexts opened.log.length).1 :=
  congrArg Prod.fst (coherent.served stream opened known)

/-- A `next` on the stream answered last or an error, or a `cancel` took it out of the table. -/
def Over (table : SessionTable) (stream : Nat) : Prop :=
  (∃ call answer, table.nexts call = .answered stream answer ∧ answer.ends = true) ∨
    ∃ opened, table.streams[stream]? = some opened ∧ opened.cancelled = true

/-- A stream that is over is not listed. -/
theorem Coherent.unlisted {stream : Nat} (coherent : table.Coherent) (ended : table.Over stream) :
    ¬table.Listed stream := by
  rcases ended with ⟨call, answer, answered, ends⟩ | ⟨opened, known, cancelled⟩
  -- A request that answered the end has unlisted the stream; so has a cancel.
  · have sound := coherent.calls call
    rw [answered] at sound
    exact sound.2 ends
  · intro listed
    obtain ⟨id, found⟩ := listed
    obtain ⟨record, also, _, _, uncancelled⟩ := coherent.listed id stream found
    rw [known] at also
    cases also
    rw [cancelled] at uncancelled
    cases uncancelled

theorem Coherent.ids_apart {first second : Nat} {one other : Opened} (coherent : table.Coherent)
    (known : table.streams[first]? = some one) (also : table.streams[second]? = some other)
    (differ : first ≠ second) (near : first < second + 2 ^ 64 ∧ second < first + 2 ^ 64) :
    one.id ≠ other.id := by
  rw [coherent.ids first one known, coherent.ids second other also]
  intro same
  -- The ids are the numbers of the streams, modulo the width of the counter.
  have equal := congrArg UInt64.toNat ((UInt64.add_right_inj 1).mp same)
  simp only [UInt64.toNat_ofNat'] at equal
  omega

/-- Only one request got the last chunk of a stream. -/
theorem Coherent.one_last {stream first second : Nat} {one other : Bytes}
    (coherent : table.Coherent) (got : table.nexts first = .answered stream (.ok (one, true)))
    (also : table.nexts second = .answered stream (.ok (other, true))) : first = second := by
  have sound := coherent.calls first
  have sound' := coherent.calls second
  rw [got] at sound
  rw [also] at sound'
  obtain ⟨⟨opened, known, _, logged⟩, _⟩ := sound
  obtain ⟨⟨record, same, _, logged'⟩, _⟩ := sound'
  rw [known] at same
  cases same
  -- The pulls on the session mark at most one of their answers.
  have lasts : (opened.log.filter fun entry => entry.2.isLast).length ≤ 1 := by
    have bound := Session.nexts_lasts opened.messages opened.log.length
    rw [← coherent.answers known, List.countP_map] at bound
    rw [← List.countP_eq_length_filter]
    exact bound
  have entry : (first, Except.ok (one, true)) ∈ opened.log.filter fun entry => entry.2.isLast :=
    List.mem_filter.mpr ⟨logged, rfl⟩
  have entry' : (second, Except.ok (other, true)) ∈ opened.log.filter fun entry => entry.2.isLast :=
    List.mem_filter.mpr ⟨logged', rfl⟩
  generalize opened.log.filter (fun entry => entry.2.isLast) = marked at lasts entry entry'
  match marked, lasts, entry, entry' with
  | [only], _, entry, entry' =>
    have equal := (List.mem_singleton.mp entry).trans (List.mem_singleton.mp entry').symm
    exact congrArg Prod.fst equal

/-- A `next` that looks up a stream that is over is refused, unless another has its id by now. -/
theorem Coherent.refused {stream call : Nat} {opened : Opened} (coherent : table.Coherent)
    (ended : table.Over stream)
    (only : ∀ (other : Nat) record, table.streams[other]? = some record → record.id = opened.id →
      other = stream)
    (taken : table.step handler (.lookup call (some opened.id)) = some after) :
    ∃ error, after.nexts call = .refused error := by
  -- Nothing else is listed under this id, and the stream itself is not.
  have absent : table.sessions.lookup opened.id = none := by
    apply Option.eq_none_iff_forall_ne_some.mpr
    intro other found
    obtain ⟨record, also, same, _⟩ := coherent.listed opened.id other found
    exact coherent.unlisted ended ⟨opened.id, only other record also same ▸ found⟩
  cases moves_of_step taken with
  | looksUp idle => exact ⟨_, by simp [lookupStep, absent, become]; rfl⟩

/--
In every interleaving of `open`, `next` and `cancel` requests: the ids of opens less than `2 ^ 64`
apart differ; the chunks of a stream, in the order of its lock, are a beginning of its producer's;
one request at most got the last; and a stream that is over is not listed and serves nobody.
-/
theorem streams_served_in_every_interleaving (handler : OpenHandler) {events : List TableEvent}
    (ran : Transition.run (step handler) new events = some table) :
    (∀ first second one other response response', first ≠ second →
      table.opens first = .answered one response →
      table.opens second = .answered other response' →
      one < other + 2 ^ 64 ∧ other < one + 2 ^ 64 → response.streamId ≠ response'.streamId) ∧
    ∀ (stream : Nat) opened, table.streams[stream]? = some opened →
      (opened.log.map Prod.snd).filterMap Answer.chunk <+: chunkSequence opened.messages ∧
      (∀ call answer, table.nexts call = .answered stream answer →
        (call, answer) ∈ opened.log) ∧
      (∀ first second one other, table.nexts first = .answered stream (.ok (one, true)) →
        table.nexts second = .answered stream (.ok (other, true)) → first = second) ∧
      (table.Over stream → ¬table.Listed stream ∧
        ((∀ (other : Nat) record, table.streams[other]? = some record → record.id = opened.id →
            other = stream) →
          ∀ call after, table.step handler (.lookup call (some opened.id)) = some after →
            ∃ error, after.nexts call = .refused error)) := by
  have coherent := coherent_run ran
  refine ⟨?_, ?_⟩
  · intro first second one other response response' differ replied replied' near
    obtain ⟨opened, known, id⟩ := coherent.replied first one response replied
    obtain ⟨record, also, id'⟩ := coherent.replied second other response' replied'
    rw [← id, ← id']
    refine coherent.ids_apart known also ?_ near
    -- Every stream belongs to one `open` only.
    intro same
    apply differ
    exact coherent.owned second first other (by rw [replied']; rfl) (by rw [replied, same]; rfl)
  · intro stream opened known
    refine ⟨?_, ?_, fun _ _ _ _ => coherent.one_last, ?_⟩
    · rw [coherent.answers known]
      exact Session.nexts_chunks opened.messages opened.log.length
    · intro call answer answered
      have sound := coherent.calls call
      rw [answered] at sound
      obtain ⟨⟨record, also, _, logged⟩, _⟩ := sound
      rw [known] at also
      cases also
      exact logged
    · intro ended
      exact ⟨coherent.unlisted ended, fun only _ _ => coherent.refused ended only⟩

/-- A stream of two chunks is pulled to its end by two requests; a third is refused. -/
theorem two_chunks_served :
    ∃ table, Transition.run (step ⟨1, .zstd⟩) new
        [.open 0 (.resolved [.chunk [1], .chunk [2], .finished]), .insert 0,
          .lookup 0 (some 1), .lookup 1 (some 1), .pull 1, .pull 0, .answer 0, .answer 1,
          .lookup 2 (some 1)] = some table ∧
      table.nexts 0 = .answered 0 (.ok ([2], true)) ∧
      table.nexts 1 = .answered 0 (.ok ([1], false)) ∧
      table.nexts 2 = .refused (.invalidQuery, "svs next: unknown stream_id 1") ∧
      ¬table.Listed 0 := by
  have reached : ∃ table, Transition.run (step ⟨1, .zstd⟩) new
        [.open 0 (.resolved [.chunk [1], .chunk [2], .finished]), .insert 0,
          .lookup 0 (some 1), .lookup 1 (some 1), .pull 1, .pull 0, .answer 0, .answer 1,
          .lookup 2 (some 1)] = some table ∧
      table.nexts 0 = .answered 0 (.ok ([2], true)) ∧
      table.nexts 1 = .answered 0 (.ok ([1], false)) ∧
      table.nexts 2 = .refused (.invalidQuery, "svs next: unknown stream_id 1") ∧
      (table.streams[0]?).isSome = true := ⟨_, rfl, rfl, rfl, rfl, rfl⟩
  obtain ⟨table, ran, first, second, third, opened⟩ := reached
  obtain ⟨opened, known⟩ := Option.isSome_iff_exists.mp opened
  have served := (streams_served_in_every_interleaving ⟨1, .zstd⟩ ran).2 0 opened known
  -- The call that got the last chunk has ended the stream.
  have ended : table.Over 0 := .inl ⟨0, _, first, rfl⟩
  exact ⟨table, ran, first, second, third, (served.2.2.2 ended).1⟩

def opensInARow : Nat → List TableEvent
  | 0 => []
  | count + 1 => opensInARow count ++ [.open count (.resolved []), .insert count]

/-- Any number of streams can be opened. -/
theorem run_opensInARow (handler : OpenHandler) (count : Nat) :
    ∃ table, Transition.run (step handler) new (opensInARow count) = some table ∧
      table.streams.length = count ∧ (∀ call, count ≤ call → table.opens call = .idle) ∧
      ∀ call, call < count → ∃ response, table.opens call = .answered call response := by
  -- One open after another, each by a request of its own.
  induction count with
  | zero => exact ⟨new, rfl, rfl, fun _ _ => rfl, fun _ below => absurd below (by omega)⟩
  | succ count ih =>
    obtain ⟨table, ran, length, idle, answered⟩ := ih
    have here := idle count (le_refl count)
    refine ⟨(table.openStep count (.resolved [])).insertStep handler count table.streams.length
      ⟨table.nextId, [], .new [], [], false, false⟩, ?_, ?_, ?_, ?_⟩
    · rw [opensInARow, Transition.run_append _ ran]
      simp only [Transition.run, step, here, openStep, Option.bind_some, Function.update_self,
        List.getElem?_concat_length, Option.map_some]
    · simp [insertStep, openStep, length]
    · intro call above
      have other : call ≠ count := by omega
      simp only [insertStep, openStep, Function.update_of_ne other]
      exact idle call (by omega)
    · intro call below
      by_cases own : call = count
      · subst own
        exact ⟨_, by simp only [insertStep, Function.update_self, length]; rfl⟩
      · simp only [insertStep, openStep, Function.update_of_ne own]
        exact answered call (by omega)

/-- After `2 ^ 64` opens the counter is back at the first id, which is handed out again. -/
theorem first_id_handed_out_again :
    ∃ events table response response',
      Transition.run (step ⟨1, .zstd⟩) new events = some table ∧
      table.opens 0 = .answered 0 response ∧ table.opens (2 ^ 64) = .answered (2 ^ 64) response' ∧
      response.streamId = response'.streamId := by
  obtain ⟨table, ran, _, _, answered⟩ := run_opensInARow ⟨1, .zstd⟩ (2 ^ 64 + 1)
  have coherent := coherent_run ran
  obtain ⟨response, replied⟩ := answered 0 (by omega)
  obtain ⟨response', replied'⟩ := answered (2 ^ 64) (by omega)
  -- The ids of two streams are their numbers, up to the width of the counter.
  obtain ⟨opened, known, id⟩ := coherent.replied 0 0 response replied
  obtain ⟨record, also, id'⟩ := coherent.replied (2 ^ 64) (2 ^ 64) response' replied'
  refine ⟨_, table, response, response', ran, replied, replied', ?_⟩
  rw [← id, ← id', coherent.ids 0 opened known, coherent.ids (2 ^ 64) record also]
  rfl

end SessionTable

end Repe.Svs
