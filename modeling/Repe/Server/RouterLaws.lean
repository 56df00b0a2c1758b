import Repe.Server.Router

/-! What a router caches after any registrations, and why their order does not matter. -/

namespace Repe

variable {M : Type → Type} {C : Type}

/-- A request that is dispatched or rejected is a notify exactly if its flag is one. -/
theorem route_notify [Monad M] (router : Router M C) (header : Header) (query : Bytes) :
    (∃ handler path, route router header query = .dispatch handler (header.notify == 1) path) ∨
      ∃ code message, route router header query = .reject (header.notify == 1) code message := by
  -- Every branch hands the flag on.
  unfold route
  dsimp only
  split
  · exact .inr ⟨_, _, rfl⟩
  · split
    · split
      · exact .inr ⟨_, _, rfl⟩
      · split
        · exact .inl ⟨_, _, rfl⟩
        · exact .inr ⟨_, _, rfl⟩
    · exact .inr ⟨_, _, rfl⟩

/-- A request passed through middlewares, the first one outermost, and then to a handler. -/
def chain (middlewares : List (Middleware M C)) (ctx : Option C)
    (leaf : Message → M HandlerResult) : Message → M HandlerResult :=
  middlewares.foldr (fun middleware rest req => middleware req ⟨rest, ctx⟩) leaf

/-- A dispatched handler is a handler behind a chain of middlewares, at every entry point. -/
structure Runs (middlewares : List (Middleware M C)) (handler dispatched : HandlerErased M C) :
    Prop where
  handle : ∀ req, dispatched.handle req = chain middlewares none handler.handle req
  handleWithCtx : ∀ req ctx, dispatched.handleWithCtx req ctx =
    chain middlewares (some ctx) (handler.handleWithCtx · ctx) req
  /-- Middlewares see owned messages only, so the borrowing entry point copies the view for them. -/
  handleView : ∀ view ctx, dispatched.handleView view ctx =
    if middlewares.isEmpty then handler.handleView view ctx
    else chain middlewares (some ctx) (handler.handleWithCtx · ctx) view.toMessage
  execution : dispatched.execution = handler.execution

theorem nextRun_eq_chain (handler : HandlerErased M C) (ctx : Option C)
    (middlewares : List (Middleware M C)) :
    nextRun handler ctx middlewares = chain middlewares ctx (nextRun handler ctx []) := by
  -- Each middleware is given the rest of the pipeline, which is the rest of the chain.
  induction middlewares with
  | nil => rfl
  | cons middleware rest ih =>
    funext req
    rw [nextRun, ih]
    rfl

/-- Wrapping a handler puts the middlewares in front of it, in their order. -/
theorem runs_wrapWithMiddlewares (handler : HandlerErased M C)
    (middlewares : List (Middleware M C)) :
    Runs middlewares handler (wrapWithMiddlewares handler middlewares) := by
  unfold wrapWithMiddlewares
  cases middlewares with
  | nil => exact ⟨fun _ => rfl, fun _ _ => rfl, fun _ _ => rfl, rfl⟩
  | cons middleware rest =>
    simp only [List.isEmpty_cons, Bool.false_eq_true, if_false]
    constructor
    -- With no middleware left the handler runs, at the entry point that has the context or not.
    · intro req
      exact congrFun (nextRun_eq_chain handler none _) req
    · intro req ctx
      exact congrFun (nextRun_eq_chain handler (some ctx) _) req
    · intro view ctx
      simp only [List.isEmpty_cons, Bool.false_eq_true, if_false]
      exact congrFun (nextRun_eq_chain handler (some ctx) _) view.toMessage
    · rfl

inductive Registration (M : Type → Type) (C : Type) where
  | route (path : Path) (raw : HandlerErased M C)
  | registry (pathPrefix : Path) (raw : HandlerErased M C)
  | mountedStruct (root : Path) (raw : HandlerErased M C)
  | fallback (raw : HandlerErased M C)
  | middleware (layer : Middleware M C)
  | mountFallthrough (enabled : Bool)

namespace Registration

def routeAt (path : Path) : Registration M C → Option (HandlerErased M C)
  | .route registered raw => if registered = path then some raw else none
  | _ => none

def registryMount : Registration M C → Option (Path × HandlerErased M C)
  | .registry pathPrefix raw => some (pathPrefix, raw)
  | _ => none

def structMount : Registration M C → Option (Path × HandlerErased M C)
  | .mountedStruct root raw => some (root, raw)
  | _ => none

def fallbackHandler : Registration M C → Option (HandlerErased M C)
  | .fallback raw => some raw
  | _ => none

def layer : Registration M C → Option (Middleware M C)
  | .middleware layer => some layer
  | _ => none

def toggle : Registration M C → Option Bool
  | .mountFallthrough enabled => some enabled
  | _ => none

/-- Two sequences hold the same registrations, and keep the order within each kind. -/
structure Reorders (ops others : List (Registration M C)) : Prop where
  routes : ∀ path, ops.filterMap (routeAt path) = others.filterMap (routeAt path)
  registries : ops.filterMap registryMount = others.filterMap registryMount
  structs : ops.filterMap structMount = others.filterMap structMount
  fallbacks : ops.filterMap fallbackHandler = others.filterMap fallbackHandler
  middlewares : ops.filterMap layer = others.filterMap layer
  toggles : ops.filterMap toggle = others.filterMap toggle

end Registration

/-- What a router was registered with, before anything is composed or wrapped. -/
@[ext] structure Registered (M : Type → Type) (C : Type) where
  routes : Path → Option (HandlerErased M C)
  registries : List (Path × HandlerErased M C)
  structs : List (Path × HandlerErased M C)
  fallback : Option (HandlerErased M C)
  middlewares : List (Middleware M C)
  toggle : Option Bool

namespace Registered

def empty : Registered M C := ⟨fun _ => none, [], [], none, [], none⟩

def add (registered : Registered M C) : Registration M C → Registered M C
  | .route path raw => { registered with routes := Function.update registered.routes path (some raw) }
  | .registry pathPrefix raw =>
    { registered with registries := registered.registries ++ [(pathPrefix, raw)] }
  | .mountedStruct root raw => { registered with structs := registered.structs ++ [(root, raw)] }
  | .fallback raw => { registered with fallback := some raw }
  | .middleware layer => { registered with middlewares := registered.middlewares ++ [layer] }
  | .mountFallthrough enabled => { registered with toggle := some enabled }

def collect (ops : List (Registration M C)) : Registered M C :=
  ops.foldl add empty

theorem collect_concat (ops : List (Registration M C)) (op : Registration M C) :
    collect (ops ++ [op]) = (collect ops).add op := by
  simp [collect]

/-- A component that each registration extends holds the registrations of its kind, in order. -/
theorem collect_list {α : Type} (component : Registered M C → List α)
    (kind : Registration M C → Option α) (fresh : component empty = [])
    (grows : ∀ registered op, component (registered.add op) = component registered ++ (kind op).toList)
    (ops : List (Registration M C)) : component (collect ops) = ops.filterMap kind := by
  -- By induction from the end, since registrations are added there.
  induction ops using List.reverseRecOn with
  | nil => exact fresh
  | append_singleton ops op ih =>
    rw [collect_concat, grows, ih, List.filterMap_append]
    cases given : kind op <;> simp [given]

/-- A component that each registration replaces holds the last registration of its kind. -/
theorem collect_last {α : Type} (component : Registered M C → Option α)
    (kind : Registration M C → Option α) (fresh : component empty = none)
    (replaces : ∀ registered op, component (registered.add op) = (kind op).or (component registered))
    (ops : List (Registration M C)) : component (collect ops) = (ops.filterMap kind).getLast? := by
  -- By induction from the end, where the last registration is.
  induction ops using List.reverseRecOn with
  | nil => exact fresh
  | append_singleton ops op ih =>
    rw [collect_concat, replaces, ih, List.filterMap_append, List.getLast?_append]
    cases given : kind op <;> simp [given]

theorem collect_routes (path : Path) (ops : List (Registration M C)) :
    (collect ops).routes path = (ops.filterMap (Registration.routeAt path)).getLast? := by
  apply collect_last (·.routes path) (Registration.routeAt path) rfl
  intro registered op
  -- Only a route at this path replaces it.
  cases op with
  | route other raw =>
    by_cases here : other = path
    · simp [add, Registration.routeAt, here]
    · simp [add, Registration.routeAt, here, Function.update_of_ne (Ne.symm here)]
  | _ => rfl

theorem collect_registries (ops : List (Registration M C)) :
    (collect ops).registries = ops.filterMap Registration.registryMount := by
  apply collect_list (·.registries) Registration.registryMount rfl
  intro registered op
  cases op <;> simp [add, Registration.registryMount]

theorem collect_structs (ops : List (Registration M C)) :
    (collect ops).structs = ops.filterMap Registration.structMount := by
  apply collect_list (·.structs) Registration.structMount rfl
  intro registered op
  cases op <;> simp [add, Registration.structMount]

theorem collect_fallback (ops : List (Registration M C)) :
    (collect ops).fallback = (ops.filterMap Registration.fallbackHandler).getLast? := by
  apply collect_last (·.fallback) Registration.fallbackHandler rfl
  intro registered op
  cases op <;> simp [add, Registration.fallbackHandler]

theorem collect_middlewares (ops : List (Registration M C)) :
    (collect ops).middlewares = ops.filterMap Registration.layer := by
  apply collect_list (·.middlewares) Registration.layer rfl
  intro registered op
  cases op <;> simp [add, Registration.layer]

theorem collect_toggle (ops : List (Registration M C)) :
    (collect ops).toggle = (ops.filterMap Registration.toggle).getLast? := by
  apply collect_last (·.toggle) Registration.toggle rfl
  intro registered op
  cases op <;> simp [add, Registration.toggle]

theorem collect_of_reorders {ops others : List (Registration M C)}
    (reorders : Registration.Reorders ops others) : collect ops = collect others := by
  -- Each component is read off the registrations of one kind, which are the same in both.
  apply Registered.ext
  · funext path
    rw [collect_routes, collect_routes, reorders.routes]
  · rw [collect_registries, collect_registries, reorders.registries]
  · rw [collect_structs, collect_structs, reorders.structs]
  · rw [collect_fallback, collect_fallback, reorders.fallbacks]
  · rw [collect_middlewares, collect_middlewares, reorders.middlewares]
  · rw [collect_toggle, collect_toggle, reorders.toggles]

variable [Monad M]

/-- A mount composed with the fallback, when fallthrough was switched on and there is one. -/
def composed (registered : Registered M C) (raw : HandlerErased M C) : HandlerErased M C :=
  match registered.toggle, registered.fallback with
  | some true, some fallback => mountFallthrough raw fallback
  | _, _ => raw

def wrapped (registered : Registered M C) (raw : HandlerErased M C) : RouterMapEntry M C :=
  ⟨raw, wrapWithMiddlewares raw registered.middlewares⟩

def mounted (registered : Registered M C) (normalize : Path → Path)
    (mount : Path × HandlerErased M C) : MountEntry M C :=
  ⟨normalize mount.1, mount.2,
    wrapWithMiddlewares (registered.composed mount.2) registered.middlewares⟩

def router (registered : Registered M C) : Router M C where
  inner path := (registered.routes path).map registered.wrapped
  structs := registered.structs.map (registered.mounted Mount.structRoot)
  registries := registered.registries.map (registered.mounted Mount.normalizeMount)
  fallback := registered.fallback.map registered.wrapped
  middlewares := registered.middlewares
  mountFallthrough := registered.toggle.getD false

end Registered

namespace Router

variable [Monad M]

def register (router : Router M C) : Registration M C → Router M C
  | .route path raw => router.insertRoute path raw
  | .registry pathPrefix raw => router.registerRegistry pathPrefix raw
  | .mountedStruct root raw => router.registerStruct root raw
  | .fallback raw => router.registerFallback raw
  | .middleware layer => router.registerMiddleware layer
  | .mountFallthrough enabled => router.setMountFallthrough enabled

def build (ops : List (Registration M C)) : Router M C :=
  ops.foldl register new

/-- A router with the flag, the raw fallback and the middlewares registered composes as registered. -/
theorem mountDispatched_eq {router : Router M C} {registered : Registered M C}
    (flag : router.mountFallthrough = registered.toggle.getD false)
    (fallback : router.fallback.map (·.raw) = registered.fallback)
    (middlewares : router.middlewares = registered.middlewares) (raw : HandlerErased M C) :
    router.mountDispatched raw =
      wrapWithMiddlewares (registered.composed raw) registered.middlewares := by
  have composes : router.composed raw = registered.composed raw := by
    unfold composed Registered.composed
    rw [flag, ← fallback]
    -- Fallthrough was never switched, or switched off, or on.
    rcases registered.toggle with _ | _ | _ <;> rcases router.fallback with _ | entry <;> rfl
  rw [mountDispatched, composes, middlewares]

/-- A rebuild brings mounts up to date that were stored for an earlier state of the router. -/
theorem rebuildMountDispatch_eq {router : Router M C} {before registered : Registered M C}
    (inner : router.inner = fun path => (registered.routes path).map registered.wrapped)
    (registries : router.registries =
      registered.registries.map (before.mounted Mount.normalizeMount))
    (structs : router.structs = registered.structs.map (before.mounted Mount.structRoot))
    (fallback : router.fallback = registered.fallback.map registered.wrapped)
    (middlewares : router.middlewares = registered.middlewares)
    (flag : router.mountFallthrough = registered.toggle.getD false) :
    router.rebuildMountDispatch = registered.router := by
  -- The rebuild uses the router as it is now, and only the raw mounts of the earlier state.
  have dispatched : ∀ raw, router.mountDispatched raw =
      wrapWithMiddlewares (registered.composed raw) registered.middlewares := by
    apply mountDispatched_eq flag ?_ middlewares
    rw [fallback]
    cases registered.fallback <;> rfl
  unfold rebuildMountDispatch Registered.router
  simp only [registries, structs, inner, fallback, middlewares, flag, List.map_map, dispatched]
  rfl

theorem router_mountDispatched (registered : Registered M C) (raw : HandlerErased M C) :
    registered.router.mountDispatched raw =
      wrapWithMiddlewares (registered.composed raw) registered.middlewares := by
  -- Only the way the fallback is stored differs.
  apply mountDispatched_eq rfl ?_ rfl
  simp only [Registered.router]
  cases registered.fallback <;> rfl

/-- Every registrar stores what the registration amounts to. -/
theorem register_eq (registered : Registered M C) (op : Registration M C) :
    registered.router.register op = (registered.add op).router := by
  cases op with
  | route path raw =>
    -- The other paths keep what they had, and nothing else looks at the routes.
    have inner : (registered.router.insertRoute path raw).inner =
        ((registered.add (.route path raw)).router).inner := by
      funext other
      by_cases here : other = path
      · subst here
        simp [insertRoute, Registered.router, Registered.add, Registered.wrapped]
      · simp [insertRoute, Registered.router, Registered.add, Function.update_of_ne here]
        rfl
    exact congrArg (fun inner => { registered.router with inner := inner }) inner
  | registry pathPrefix raw =>
    -- The new mount is composed with what is registered so far; no other mount changes.
    have registries : (registered.router.registerRegistry pathPrefix raw).registries =
        ((registered.add (.registry pathPrefix raw)).router).registries := by
      simp only [registerRegistry, Registered.router, Registered.add, List.map_append]
      rw [← Registered.router, router_mountDispatched]
      rfl
    exact congrArg (fun registries => { registered.router with registries := registries }) registries
  | mountedStruct root raw =>
    have structs : (registered.router.registerStruct root raw).structs =
        ((registered.add (.mountedStruct root raw)).router).structs := by
      simp only [registerStruct, Registered.router, Registered.add, List.map_append]
      rw [← Registered.router, router_mountDispatched]
      rfl
    exact congrArg (fun structs => { registered.router with structs := structs }) structs
  | fallback raw => exact rebuildMountDispatch_eq rfl rfl rfl rfl rfl rfl
  | middleware layer =>
    -- Routes and the fallback are wrapped again, and the mounts rebuilt.
    apply rebuildMountDispatch_eq ?_ rfl rfl ?_ rfl rfl
    · funext path
      simp only [Registered.router, Option.map_map]
      rfl
    · simp only [Registered.router, Option.map_map]
      rfl
  | mountFallthrough enabled =>
    simp only [register, setMountFallthrough]
    split
    · next same =>
      -- The flag already has this value, so the mounts are composed as they should be.
      have composes : (registered.add (.mountFallthrough enabled)).composed = registered.composed := by
        funext raw
        simp only [Registered.router] at same
        subst same
        simp only [Registered.composed, Registered.add]
        rcases registered.toggle with _ | _ | _ <;> rcases registered.fallback with _ | _ <;> rfl
      have mounts : ∀ normalize, (registered.add (.mountFallthrough enabled)).mounted normalize =
          registered.mounted normalize := by
        intro normalize
        funext mount
        simp only [Registered.mounted, composes]
        rfl
      have flag : registered.toggle.getD false = enabled := same
      simp only [Registered.router, mounts]
      simp only [Registered.add, flag, Option.getD_some]
      rfl
    · exact rebuildMountDispatch_eq rfl rfl rfl rfl rfl rfl

theorem build_eq (ops : List (Registration M C)) : build ops = (Registered.collect ops).router := by
  -- Each registrar stores what the registrations so far amount to.
  induction ops using List.reverseRecOn with
  | nil => rfl
  | append_singleton ops op ih =>
    rw [Registered.collect_concat, ← register_eq, ← ih]
    simp [build]

/-- Every entry a router stores is dispatched behind the middlewares, mounts after composition. -/
structure Cached (router : Router M C) : Prop where
  routes : ∀ path entry, router.inner path = some entry →
    Runs router.middlewares entry.raw entry.dispatched
  fallback : ∀ entry, router.fallback = some entry →
    Runs router.middlewares entry.raw entry.dispatched
  registries : ∀ entry ∈ router.registries,
    Runs router.middlewares (router.composed entry.raw) entry.dispatched
  structs : ∀ entry ∈ router.structs,
    Runs router.middlewares (router.composed entry.raw) entry.dispatched

omit [Monad M] in
theorem runs_of_wrapped {registered : Registered M C} {raw : Option (HandlerErased M C)}
    {entry : RouterMapEntry M C} (stored : raw.map registered.wrapped = some entry) :
    Runs registered.middlewares entry.raw entry.dispatched := by
  obtain ⟨handler, _, same⟩ := Option.map_eq_some_iff.mp stored
  subst same
  exact runs_wrapWithMiddlewares handler registered.middlewares

theorem runs_of_mounted {registered : Registered M C} {normalize : Path → Path}
    {mounts : List (Path × HandlerErased M C)} {entry : MountEntry M C}
    (stored : entry ∈ mounts.map (registered.mounted normalize)) :
    Runs registered.middlewares (registered.router.composed entry.raw) entry.dispatched := by
  obtain ⟨mount, _, same⟩ := List.mem_map.mp stored
  -- The stored form was built from what is registered, which is what the router composes.
  have dispatched := router_mountDispatched registered mount.2
  rw [mountDispatched] at dispatched
  subst same
  change Runs _ (registered.router.composed mount.2)
    (wrapWithMiddlewares (registered.composed mount.2) registered.middlewares)
  rw [← dispatched]
  exact runs_wrapWithMiddlewares _ _

theorem router_cached (registered : Registered M C) : registered.router.Cached where
  routes _ _ stored := runs_of_wrapped stored
  fallback _ stored := runs_of_wrapped stored
  registries _ stored := runs_of_mounted stored
  structs _ stored := runs_of_mounted stored

/--
After any registrations the router stores what was registered, and every stored handler is dispatched
behind the current middlewares in registration order; a mount is composed with the current fallback
exactly when fallthrough is on and there is one.
Registrations that keep the order within each kind make routers that answer every request alike.
-/
theorem dispatch_independent_of_registration_order (detached : Path → C)
    (ops : List (Registration M C)) :
    (build ops).Cached ∧
      (∀ path, ((build ops).inner path).map (·.raw) =
        (ops.filterMap (Registration.routeAt path)).getLast?) ∧
      ((build ops).registries.map fun entry => (entry.mount, entry.raw)) =
        (ops.filterMap Registration.registryMount).map (Prod.map Mount.normalizeMount id) ∧
      ((build ops).structs.map fun entry => (entry.mount, entry.raw)) =
        (ops.filterMap Registration.structMount).map (Prod.map Mount.structRoot id) ∧
      (build ops).middlewares = ops.filterMap Registration.layer ∧
      (build ops).fallback.map (·.raw) = (ops.filterMap Registration.fallbackHandler).getLast? ∧
      (build ops).mountFallthrough = (ops.filterMap Registration.toggle).getLast?.getD false ∧
      ∀ others, Registration.Reorders ops others →
        (∀ path, (build ops).get path = (build others).get path) ∧
        ∀ view, routeRequestView detached (build ops) view =
          routeRequestView detached (build others) view := by
  refine ⟨?_, ?_, ?_, ?_, ?_, ?_, ?_, ?_⟩
  · rw [build_eq]
    exact router_cached _
  -- Each kind of entry is read off the registrations of that kind.
  · intro path
    rw [build_eq, ← Registered.collect_routes]
    simp only [Registered.router]
    cases (Registered.collect ops).routes path <;> rfl
  · rw [build_eq, ← Registered.collect_registries]
    simp only [Registered.router, List.map_map]
    rfl
  · rw [build_eq, ← Registered.collect_structs]
    simp only [Registered.router, List.map_map]
    rfl
  · rw [build_eq]
    exact Registered.collect_middlewares ops
  · rw [build_eq, ← Registered.collect_fallback]
    simp only [Registered.router]
    cases (Registered.collect ops).fallback <;> rfl
  · rw [build_eq, ← Registered.collect_toggle]
    rfl
  · intro others reorders
    have same : build ops = build others := by
      rw [build_eq, build_eq, Registered.collect_of_reorders reorders]
    rw [same]
    exact ⟨fun _ => rfl, fun _ => rfl⟩

/-- A handler that answers every request with an empty response of its id. -/
def answerEmpty : HandlerErased Id Unit where
  handle req := .ok (MessageBuilder.build { id := req.header.id })
  handleWithCtx req _ := .ok (MessageBuilder.build { id := req.header.id })
  handleView view _ := .ok (MessageBuilder.build { id := view.header.id })
  execution := .inline

def findNothing : HandlerErased Id Unit where
  handle _ := .ok (MessageBuilder.build { ec := ErrorCode.methodNotFound.toU32 })
  handleWithCtx _ _ := .ok (MessageBuilder.build { ec := ErrorCode.methodNotFound.toU32 })
  handleView _ _ := .ok (MessageBuilder.build { ec := ErrorCode.methodNotFound.toU32 })
  execution := .inline

/-- A fallback may come before or after the mount whose misses it serves. -/
theorem fallback_registered_early_or_late :
    let late : List (Registration Id Unit) :=
      [.mountedStruct ['/', 'a'] findNothing, .fallback answerEmpty, .mountFallthrough true]
    let early : List (Registration Id Unit) :=
      [.mountFallthrough true, .fallback answerEmpty, .mountedStruct ['/', 'a'] findNothing]
    ((build late).structs.map fun entry => (entry.mount, entry.raw)) =
        [(['/', 'a'], findNothing)] ∧
      ∀ path, (build late).get path = (build early).get path := by
  intro late early
  obtain ⟨_, _, _, structs, _, _, _, alike⟩ :=
    dispatch_independent_of_registration_order (fun _ => ()) late
  -- Each kind of registration occurs once, so no order is changed.
  exact ⟨structs, (alike early ⟨fun _ => rfl, rfl, rfl, rfl, rfl, rfl⟩).1⟩

end Router

end Repe
