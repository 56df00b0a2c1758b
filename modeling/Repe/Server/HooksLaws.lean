import Repe.Server.Hooks

/-! Every disconnect hook fires once, behind the connect hooks, and leaves nothing of the peer in the
registry. -/

namespace Repe

namespace HookConfig

/-- A server that was built with a registry removes its peers. -/
theorem mem_onDisconnect {registrations : List HookRegistration}
    (attached : .withPeerRegistry ∈ registrations) :
    .registry ∈ (ofRegistrations registrations).onDisconnect := by
  -- No call on the builder takes a hook away.
  have kept : ∀ (rest : List HookRegistration) (hooks : HookConfig), .registry ∈ hooks.onDisconnect →
      .registry ∈ (rest.foldl register hooks).onDisconnect := by
    intro rest
    induction rest with
    | nil => exact fun hooks member => member
    | cons first rest ih =>
      intro hooks member
      apply ih
      cases first <;> simp [register, member]
  obtain ⟨before, after, rfl⟩ := List.append_of_mem attached
  rw [ofRegistrations, List.foldl_append, List.foldl_cons]
  apply kept
  simp [register]

end HookConfig

namespace HookedConnection

variable {S : Type} {M : Type → Type} {C : Type} [Monad M] {debugAssertions : Bool}
  {hooks : HookConfig} {handshake : Bool} {t : Target} {router : Router M C}
  {hooked after : HookedConnection S}

/-- The hooks that were called, by how far the connection is. -/
def Orderly (hooks : HookConfig) (handshake : Bool) (hooked : HookedConnection S) : Prop :=
  match hooked.phase with
  | .connecting calls => hooked.calls ++ calls = hooks.connectCalls handshake
  | .serving => hooked.calls = hooks.connectCalls handshake
  | .closing rest => ∃ called fired, hooked.calls = called ++ fired.map .disconnected ∧
    called <+: hooks.connectCalls handshake ∧ fired ++ rest = hooks.onDisconnect

theorem orderly_afterConnect {calls : List HookCall} (phase : hooked.phase = afterConnect calls)
    (order : hooked.calls ++ calls = hooks.connectCalls handshake) :
    hooked.Orderly hooks handshake := by
  unfold Orderly
  rw [phase]
  -- On with the next connect hook, or with the traffic.
  cases calls with
  | nil => simpa [afterConnect] using order
  | cons call calls => simpa [afterConnect] using order

theorem orderly_dropGuard (called : hooked.calls <+: hooks.connectCalls handshake) :
    (hooked.dropGuard hooks).Orderly hooks handshake :=
  ⟨hooked.calls, [], by simp [dropGuard], called, by simp⟩

/-- What a step of a connection can do, with what has to be the case for it. -/
inductive Steps (hooks : HookConfig) (hooked : HookedConnection S) :
    HookEvent S → HookedConnection S → Prop where
  | connected {panics : Bool} {call : HookCall} {calls : List HookCall}
      (phase : hooked.phase = .connecting (call :: calls)) :
      Steps hooks hooked (.call panics) (hooked.called call (afterConnect calls))
  | unwound {panics : Bool} {call : HookCall} {calls : List HookCall}
      (phase : hooked.phase = .connecting (call :: calls)) :
      Steps hooks hooked (.call panics) ((hooked.called call .serving).dropGuard hooks)
  | worked {event : WsEvent} (conn : WsConnection) :
      Steps hooks hooked (.work event) { hooked with conn }
  | left {why : Exit} (phase : hooked.phase = .serving) (ready : hooked.canLeave why = true) :
      Steps hooks hooked (.leave why) (hooked.dropGuard hooks)
  | fired {hook : Hook} {rest : List Hook} (phase : hooked.phase = .closing (hook :: rest)) :
      Steps hooks hooked .fire (hooked.called (.disconnected hook) (.closing rest))
  | shutdown : Steps hooks hooked .shutdown { hooked with cancelled := true }
  | operated (operation : PeerRegistry.Operation S) :
      Steps hooks hooked (.operate operation)
        { hooked with registry := hooked.registry.apply operation }

/-- Every step is one of these. -/
theorem steps_of_step {event : HookEvent S}
    (taken : hooked.step debugAssertions hooks t router event = some after) :
    Steps hooks hooked event after := by
  cases event with
  | call panics =>
    simp only [step] at taken
    split at taken
    · next phase =>
      split at taken
      · cases taken
        exact .unwound phase
      · cases taken
        exact .connected phase
    · cases taken
  | work event =>
    -- In either phase with traffic, only the connection itself gets on.
    simp only [step] at taken
    split at taken
    · cases taken
    · obtain ⟨conn, _, rfl⟩ := Option.map_eq_some_iff.mp taken
      exact .worked conn
    · split at taken
      · cases taken
      · obtain ⟨conn, _, rfl⟩ := Option.map_eq_some_iff.mp taken
        exact .worked conn
  | leave why =>
    simp only [step] at taken
    split at taken
    · next phase =>
      split at taken
      · next ready =>
        cases taken
        exact .left phase ready
      · cases taken
    · cases taken
  | fire =>
    simp only [step] at taken
    split at taken
    · next phase =>
      cases taken
      exact .fired phase
    · cases taken
  | shutdown =>
    cases taken
    exact .shutdown
  | operate operation =>
    cases taken
    exact .operated operation

/-- Every step keeps the hooks in order. -/
theorem orderly_step {event : HookEvent S} (orderly : hooked.Orderly hooks handshake)
    (taken : hooked.step debugAssertions hooks t router event = some after) :
    after.Orderly hooks handshake := by
  cases steps_of_step taken with
  | connected phase =>
    simp only [Orderly, phase] at orderly
    refine orderly_afterConnect rfl ?_
    simpa [called] using orderly
  | @unwound _ call calls phase =>
    -- The hook that panics is the last one that ran.
    simp only [Orderly, phase] at orderly
    apply orderly_dropGuard
    exact ⟨calls, by simpa [called] using orderly⟩
  | worked conn => exact orderly
  | left phase ready =>
    simp only [Orderly, phase] at orderly
    apply orderly_dropGuard
    exact ⟨[], by rw [List.append_nil, orderly]⟩
  | @fired hook rest phase =>
    -- One hook goes from those to come to those that fired.
    simp only [Orderly, phase] at orderly
    obtain ⟨front, fired, order, connects, all⟩ := orderly
    exact ⟨front, fired ++ [hook], by simp [called, order], connects, by simpa using all⟩
  | shutdown => exact orderly
  | operated operation => exact orderly

theorem Orderly.not_removed (orderly : hooked.Orderly hooks handshake) {calls : List HookCall}
    (phase : hooked.phase = .connecting calls) : ¬hooked.Removed := by
  simp only [Orderly, phase] at orderly
  intro removed
  -- Up to here all calls are connect calls.
  have member : .disconnected .registry ∈ hooks.connectCalls handshake := by
    rw [← orderly]
    exact List.mem_append_left _ removed
  unfold HookConfig.connectCalls at member
  split at member <;> simp at member

/-- What is known of the registry: its maps agree, and the peer is gone once it was removed. -/
structure Known (hooked : HookedConnection S) : Prop where
  refines : ∃ roster, hooked.registry.Refines roster
  gone : hooked.Removed → hooked.registry.get hooked.peer.peerId = none

/-- A peer that is gone stays so unless it is inserted. -/
theorem get_apply {registry : PeerRegistry S} {id : PeerId} {operation : PeerRegistry.Operation S}
    (gone : registry.get id = none) (other : ∀ peer, operation = .insert peer → peer.peerId ≠ id) :
    (registry.apply operation).get id = none := by
  cases operation with
  | insert peer =>
    rw [← gone]
    exact AList.lookup_insert_ne (other peer rfl).symm
  | aliasPeer owner key =>
    -- An alias never adds a peer.
    by_cases there : registry.peers.lookup owner = none
    · simpa [PeerRegistry.apply, PeerRegistry.aliasPeer, there] using gone
    · simpa [PeerRegistry.apply, PeerRegistry.get,
        (PeerRegistry.aliasPeer_forward there key).1] using gone
  | remove owner =>
    simp only [PeerRegistry.apply, PeerRegistry.get, PeerRegistry.remove_peers]
    by_cases same : id = owner
    · rw [same, AList.lookup_erase]
    · rw [AList.lookup_erase_ne same]
      exact gone

/-- A call of a hook keeps what is known of the registry. -/
theorem Known.called (known : hooked.Known) (call : HookCall) (phase : ConnectionPhase)
    (before : ∀ hook, call = .connected hook → ¬hooked.Removed) :
    (hooked.called call phase).Known := by
  obtain ⟨roster, refines⟩ := known.refines
  -- A call of any other hook does not remove the peer.
  have earlier : call ≠ .disconnected .registry → (hooked.called call phase).Removed →
      hooked.Removed := by
    intro differs removed
    rcases List.mem_append.mp removed with earlier | now
    · exact earlier
    · exact absurd (List.mem_singleton.mp now).symm differs
  cases call with
  | connected hook =>
    cases hook with
    | registry =>
      refine ⟨⟨_, refines.insert hooked.peer⟩, fun gone => ?_⟩
      exact absurd (earlier (by simp) gone) (before _ rfl)
    | embedder number => exact ⟨⟨roster, refines⟩, fun gone => known.gone (earlier (by simp) gone)⟩
  | connectedCtx number => exact ⟨⟨roster, refines⟩, fun gone => known.gone (earlier (by simp) gone)⟩
  | disconnected hook =>
    cases hook with
    | registry =>
      refine ⟨⟨_, refines.remove hooked.peer.peerId⟩, fun _ => ?_⟩
      show (hooked.registry.remove _).2.get _ = none
      rw [PeerRegistry.get, PeerRegistry.remove_peers]
      exact AList.lookup_erase _ _
    | embedder number => exact ⟨⟨roster, refines⟩, fun gone => known.gone (earlier (by simp) gone)⟩

/-- Every step after which nobody inserts the peer again keeps what is known of the registry. -/
theorem known_step {event : HookEvent S} (orderly : hooked.Orderly hooks handshake)
    (known : hooked.Known) (leaves : hooked.Leaves event)
    (taken : hooked.step debugAssertions hooks t router event = some after) : after.Known := by
  cases steps_of_step taken with
  | connected phase => exact known.called _ _ fun _ _ => orderly.not_removed phase
  | @unwound _ call calls phase =>
    -- The drop of the guard has not called a hook yet.
    have later := known.called call .serving fun _ _ => orderly.not_removed phase
    exact ⟨later.refines, later.gone⟩
  | worked conn => exact ⟨known.refines, known.gone⟩
  | left phase ready => exact ⟨known.refines, known.gone⟩
  | fired phase => exact known.called _ _ nofun
  | shutdown => exact ⟨known.refines, known.gone⟩
  | operated operation =>
    obtain ⟨roster, refines⟩ := known.refines
    refine ⟨⟨_, refines.apply operation⟩, fun removed => ?_⟩
    apply get_apply (known.gone removed)
    rintro peer rfl same
    exact leaves same removed

theorem Known.absent (known : hooked.Known) (removed : hooked.Removed) :
    Absent hooked.registry hooked.peer.peerId := by
  obtain ⟨roster, refines⟩ := known.refines
  have gone := known.gone removed
  -- In the roster, only a peer that is there owns keys.
  have unowned : ∀ key, (key, hooked.peer.peerId) ∉ roster.aliases.entries := by
    intro key member
    exact roster.owned member ((refines.peers _).symm.trans gone)
  refine ⟨gone, fun key found => unowned key (refines.forward.mp found), ?_⟩
  rw [refines.reverse]
  apply List.eq_nil_iff_forall_not_mem.mpr
  intro key member
  exact unowned key (Ledger.mem_keysOf.mp member)

theorem orderly_run {peer : PeerHandle S} {registry : PeerRegistry S} {conn : WsConnection}
    {events : List (HookEvent S)}
    (ran : Transition.run (step debugAssertions hooks t router)
      (accepted hooks handshake peer registry conn) events = some hooked) :
    hooked.Orderly hooks handshake := by
  refine Transition.invariant_of_run (Orderly hooks handshake) ?_ ?_ ran
  · intro state event later orderly taken
    exact orderly_step orderly taken
  · -- At first every connect call is still to come.
    exact orderly_afterConnect rfl rfl

/-- What is known of the registry after a run in which nobody inserts the peer again. -/
theorem known_run {peer : PeerHandle S} {operations : List (PeerRegistry.Operation S)}
    {conn : WsConnection} {events : List (HookEvent S)}
    (leaves : Transition.Meets (step debugAssertions hooks t router) Leaves
      (accepted hooks handshake peer (.after operations) conn) events)
    (ran : Transition.run (step debugAssertions hooks t router)
      (accepted hooks handshake peer (.after operations) conn) events = some hooked) :
    hooked.Known := by
  -- The order of the calls is needed to know when the registry was told.
  have both : hooked.Orderly hooks handshake ∧ hooked.Known := by
    refine Transition.invariant_of_meets (fun state => state.Orderly hooks handshake ∧ state.Known)
      ?_ ?_ leaves ran
    · intro state event later inv allowed taken
      exact ⟨orderly_step inv.1 taken, known_step inv.1 inv.2 allowed taken⟩
    · exact ⟨orderly_afterConnect rfl rfl, ⟨_, PeerRegistry.refines_after operations⟩, nofun⟩
  exact both.2

theorem guard_ends {rest : List Hook} (phase : hooked.phase = .closing rest) :
    ∃ after, Transition.run (step debugAssertions hooks t router) hooked
      (List.replicate rest.length .fire) = some after ∧ after.phase = .closing [] := by
  -- Each hook returns, and leaves one less to come.
  induction rest generalizing hooked with
  | nil => exact ⟨hooked, rfl, phase⟩
  | cons hook rest ih =>
    have fires : hooked.step debugAssertions hooks t router .fire =
        some (hooked.called (.disconnected hook) (.closing rest)) := by
      simp only [step, phase]
    obtain ⟨after, ran, ended⟩ := @ih (hooked.called (.disconnected hook) (.closing rest)) rfl
    refine ⟨after, ?_, ended⟩
    rw [List.length_cons, List.replicate_succ]
    exact Transition.run_cons.mpr ⟨_, fires, ran⟩

/--
In every run of a connection, its calls are some of the connect hooks in order and then the
disconnect hooks in order, of which there are none before the guard is dropped and all of them, once
each, behind its drop; the drop gets to its end; and as long as nobody inserts the peer again once
it was removed, the registry knows neither the peer nor an alias of it from then on.
-/
theorem disconnect_hooks_fire_once (debugAssertions : Bool) (registrations : List HookRegistration)
    (attached : .withPeerRegistry ∈ registrations) (handshake : Bool) (t : Target)
    (router : Router M C) (peer : PeerHandle S) (operations : List (PeerRegistry.Operation S))
    (conn : WsConnection) {events : List (HookEvent S)} {hooked : HookedConnection S}
    (ran : Transition.run (step debugAssertions (.ofRegistrations registrations) t router)
      (accepted (.ofRegistrations registrations) handshake peer (.after operations) conn) events =
        some hooked) :
    let hooks := HookConfig.ofRegistrations registrations
    (∃ called fired, hooked.calls = called ++ fired.map .disconnected ∧
        called <+: hooks.connectCalls handshake ∧ fired <+: hooks.onDisconnect ∧
        (fired ≠ [] → ∃ rest, hooked.phase = .closing rest) ∧
        (hooked.phase = .closing [] → fired = hooks.onDisconnect)) ∧
      (∀ rest, hooked.phase = .closing rest →
        ∃ after, Transition.run (step debugAssertions hooks t router) hooked
          (List.replicate rest.length .fire) = some after ∧ after.phase = .closing []) ∧
      (Transition.Meets (step debugAssertions hooks t router) Leaves
          (accepted hooks handshake peer (.after operations) conn) events →
        hooked.phase = .closing [] → Absent hooked.registry hooked.peer.peerId) := by
  intro hooks
  have orderly := orderly_run ran
  refine ⟨?_, fun rest phase => guard_ends phase, fun leaves closed => ?_⟩
  · unfold Orderly at orderly
    split at orderly
    · next calls phase =>
      exact ⟨hooked.calls, [], by simp, ⟨calls, orderly⟩, List.nil_prefix, by simp, by simp [phase]⟩
    · next phase =>
      exact ⟨hooked.calls, [], by simp, ⟨[], by simp [hooks, orderly]⟩, List.nil_prefix, by simp,
        by simp [phase]⟩
    · next rest phase =>
      obtain ⟨called, fired, order, front, all⟩ := orderly
      refine ⟨called, fired, order, front, ⟨rest, all⟩, fun _ => ⟨rest, phase⟩, fun closed => ?_⟩
      rw [phase] at closed
      cases closed
      simpa using all
  · -- The hook of the registry is among those that were called.
    simp only [Orderly, closed] at orderly
    obtain ⟨called, fired, order, _, all⟩ := orderly
    rw [List.append_nil] at all
    apply (known_run leaves ran).absent
    rw [Removed, order, all]
    exact List.mem_append_right _ (List.mem_map.mpr ⟨_, HookConfig.mem_onDisconnect attached, rfl⟩)

def somePeer : PeerHandle Unit := ⟨4, ()⟩

/-- A connection with room for one message, before any traffic. -/
def quietConn : WsConnection := .opened Nat.one_pos 0

/-- A connect hook that panics, and a handler that asks for an alias before and after. -/
def panickingHook : List (HookEvent Unit) :=
  [.call false, .operate (.aliasPeer 4 "early"), .call true, .fire,
    .operate (.aliasPeer 4 "late")]

/-- The peer of a connection whose connect hook panicked is gone, with its aliases. -/
theorem panicking_hook_leaves_nothing :
    ∃ hooked, Transition.run (step true
          (.ofRegistrations [.withPeerRegistry, .onPeerConnect 0]) .release64
          (Router.new : Router Id Unit))
        (accepted (.ofRegistrations [.withPeerRegistry, .onPeerConnect 0]) false somePeer
          (.after []) quietConn) panickingHook = some hooked ∧
      hooked.calls = [.connected .registry, .connected (.embedder 0), .disconnected .registry] ∧
      Absent hooked.registry hooked.peer.peerId := by
  have leaves : Transition.Meets (step true
      (.ofRegistrations [.withPeerRegistry, .onPeerConnect 0]) .release64
      (Router.new : Router Id Unit)) Leaves
      (accepted (.ofRegistrations [.withPeerRegistry, .onPeerConnect 0]) false somePeer
        (.after []) quietConn) panickingHook := by
    refine Transition.meets_of_forall fun event member hooked => ?_
    simp only [panickingHook, List.mem_cons, List.not_mem_nil, or_false] at member
    -- None of these events inserts a peer.
    rcases member with rfl | rfl | rfl | rfl | rfl <;> trivial
  refine ⟨_, rfl, rfl, ?_⟩
  exact (disconnect_hooks_fire_once true [.withPeerRegistry, .onPeerConnect 0] (by decide) false
    .release64 Router.new somePeer [] quietConn (by rfl)).2.2 leaves rfl

/-- A disconnect hook of the embedder, behind the one of the registry, that inserts the peer again. -/
def insertingHook : List (HookEvent Unit) :=
  [.call false, .leave .aborted, .fire, .operate (.insert somePeer), .fire]

/-- The peer of such a connection is in the registry when all hooks have fired. -/
theorem inserting_hook_brings_the_peer_back :
    ∃ hooked, Transition.run (step true
          (.ofRegistrations [.withPeerRegistry, .onPeerDisconnect 0]) .release64
          (Router.new : Router Id Unit))
        (accepted (.ofRegistrations [.withPeerRegistry, .onPeerDisconnect 0]) false somePeer
          (.after []) quietConn) insertingHook = some hooked ∧
      hooked.phase = .closing [] ∧ hooked.registry.get hooked.peer.peerId = some somePeer :=
  ⟨_, rfl, rfl, rfl⟩

end HookedConnection

end Repe
