import Repe.Lib.Transition
import Repe.Server.PeerRegistryLaws
import Repe.Server.WebSocket

/-! The connect and disconnect hooks around one WebSocket connection, and the registry that they and
everybody else share. -/

namespace Repe

inductive Hook where
  | registry
  | embedder (number : Nat)
  deriving DecidableEq, Repr

structure HookConfig where
  onConnect : List Hook
  onConnectCtx : List Nat
  onDisconnect : List Hook
  deriving DecidableEq, Repr

inductive HookRegistration where
  | withPeerRegistry
  | onPeerConnect (number : Nat)
  | onPeerConnectWithHandshake (number : Nat)
  | onPeerDisconnect (number : Nat)
  deriving DecidableEq, Repr

namespace HookConfig

def register (hooks : HookConfig) : HookRegistration → HookConfig
  | .withPeerRegistry =>
    { hooks with
      onConnect := hooks.onConnect ++ [.registry]
      onDisconnect := hooks.onDisconnect ++ [.registry] }
  | .onPeerConnect number => { hooks with onConnect := hooks.onConnect ++ [.embedder number] }
  | .onPeerConnectWithHandshake number =>
    { hooks with onConnectCtx := hooks.onConnectCtx ++ [number] }
  | .onPeerDisconnect number =>
    { hooks with onDisconnect := hooks.onDisconnect ++ [.embedder number] }

/-- The hooks of a server that was built by a sequence of calls. -/
def ofRegistrations (registrations : List HookRegistration) : HookConfig :=
  registrations.foldl register ⟨[], [], []⟩

end HookConfig

inductive HookCall where
  | connected (hook : Hook)
  | connectedCtx (number : Nat)
  | disconnected (hook : Hook)
  deriving DecidableEq, Repr

/-- The calls before a connection is served; the handshake is there if it was captured. -/
def HookConfig.connectCalls (hooks : HookConfig) (handshake : Bool) : List HookCall :=
  -- The handshake-aware hooks come after the plain ones.
  hooks.onConnect.map .connected ++ if handshake then hooks.onConnectCtx.map .connectedCtx else []

/-- Where `handle_connection_with_config` is. -/
inductive ConnectionPhase where
  /-- Among the connect hooks, with these to come. -/
  | connecting (calls : List HookCall)
  | serving
  /-- In the drop of the guard, or past it, with these disconnect hooks to come. -/
  | closing (hooks : List Hook)
  deriving DecidableEq, Repr

/-- Why a connection leaves the `select!`. -/
inductive Exit where
  /-- `reader_task` returned: a close, the end of the stream, a transport error, a malformed frame. -/
  | returned
  | unwound
  /-- The writer is gone, which the reader finds out when it sends. -/
  | writerGone
  | cancelled
  | aborted
  deriving DecidableEq, Repr

/-- A connection with its hooks, and the registry it shares with everybody else. -/
structure HookedConnection (S : Type) where
  peer : PeerHandle S
  registry : PeerRegistry S
  conn : WsConnection
  cancelled : Bool
  phase : ConnectionPhase
  calls : List HookCall

inductive HookEvent (S : Type) where
  | call (panics : Bool)
  | work (event : WsEvent)
  | leave (why : Exit)
  | fire
  | shutdown
  /--
  Anybody else takes the lock of the registry: a handler of this connection on the reader or off it,
  a hook of the embedder, another connection.
  -/
  | operate (operation : PeerRegistry.Operation S)

namespace HookedConnection

variable {S : Type}

def afterConnect : List HookCall → ConnectionPhase
  | [] => .serving
  | calls => .connecting calls

def accepted (hooks : HookConfig) (handshake : Bool) (peer : PeerHandle S)
    (registry : PeerRegistry S) (conn : WsConnection) : HookedConnection S :=
  ⟨peer, registry, conn, false, afterConnect (hooks.connectCalls handshake), []⟩

/-- `Drop for DisconnectGuard`, up to its first hook. -/
def dropGuard (hooks : HookConfig) (hooked : HookedConnection S) : HookedConnection S :=
  { hooked with cancelled := true, phase := .closing hooks.onDisconnect }

/-- The reader is at an `await`, and not inside a handler. -/
def awaits (conn : WsConnection) : Bool :=
  match conn.reader with
  | .reading => true
  | .busy number =>
    match conn.requests[number]? with
    | some ⟨_, _, .replying _⟩ => true
    | _ => false
  | .returned _ | .unwound => false

def sends (conn : WsConnection) : Bool :=
  match conn.reader with
  | .busy number =>
    match conn.requests[number]? with
    | some ⟨_, _, .replying _⟩ => true
    | _ => false
  | _ => false

/-- A step of `reader_task`, rather than of a task, the writer or a `PeerHandle`. -/
def ofReader : WsEvent → Bool
  | .frame _ | .transportFailed _ | .ended | .inlineEnds _ | .send => true
  | .taskEnds _ _ | .taskSends _ | .taskLeaves _ | .drain | .push _ => false

/-- What has to be the case for a connection to leave in this way. -/
def canLeave (hooked : HookedConnection S) : Exit → Bool
  | .returned =>
    match hooked.conn.reader with
    | .returned _ => true
    | _ => false
  | .unwound =>
    match hooked.conn.reader with
    | .unwound => true
    | _ => false
  | .writerGone => sends hooked.conn
  -- A task is left at an `await` only.
  | .cancelled => hooked.cancelled && awaits hooked.conn
  | .aborted => awaits hooked.conn

/--
Whether this hook unwinds; the `debug_assert!` of `insert` is the only way for the one of the
registry.
-/
def unwinds (debugAssertions : Bool) (hooked : HookedConnection S) (panics : Bool) : HookCall → Bool
  | .connected .registry => debugAssertions && (hooked.registry.get hooked.peer.peerId).isSome
  | _ => panics

def effect (hooked : HookedConnection S) : HookCall → PeerRegistry S
  | .connected .registry => hooked.registry.insert hooked.peer
  | .disconnected .registry => (hooked.registry.remove hooked.peer.peerId).2
  -- What other hooks do to the registry are operations of somebody else.
  | _ => hooked.registry

def called (hooked : HookedConnection S) (call : HookCall) (phase : ConnectionPhase) :
    HookedConnection S :=
  { hooked with registry := hooked.effect call, phase, calls := hooked.calls ++ [call] }

variable {M : Type → Type} {C : Type} [Monad M]

def step (debugAssertions : Bool) (hooks : HookConfig) (t : Target) (router : Router M C)
    (hooked : HookedConnection S) : HookEvent S → Option (HookedConnection S)
  | .call panics =>
    match hooked.phase with
    | .connecting (call :: calls) =>
      if hooked.unwinds debugAssertions panics call then
        -- Unwinding drops the guard, which was built first.
        some ((hooked.called call .serving).dropGuard hooks)
      else some (hooked.called call (afterConnect calls))
    | _ => none
  | .work event =>
    match hooked.phase with
    | .connecting _ => none
    | .serving => (hooked.conn.step t router event).map fun conn => { hooked with conn }
    -- The tasks of a connection and its writer outlive the reader.
    | .closing _ =>
      if ofReader event then none
      else (hooked.conn.step t router event).map fun conn => { hooked with conn }
  | .leave why =>
    match hooked.phase with
    | .serving => if hooked.canLeave why then some (hooked.dropGuard hooks) else none
    | _ => none
  | .fire =>
    match hooked.phase with
    | .closing (hook :: rest) => some (hooked.called (.disconnected hook) (.closing rest))
    | _ => none
  | .shutdown => some { hooked with cancelled := true }
  | .operate operation => some { hooked with registry := hooked.registry.apply operation }

def Removed (hooked : HookedConnection S) : Prop := .disconnected .registry ∈ hooked.calls

/-- Nobody inserts the peer again once the hook of the registry has removed it. -/
def Leaves (hooked : HookedConnection S) : HookEvent S → Prop
  | .operate (.insert peer) => peer.peerId = hooked.peer.peerId → ¬hooked.Removed
  | _ => True

structure Absent (registry : PeerRegistry S) (id : PeerId) : Prop where
  entry : registry.get id = none
  aliases : ∀ key, registry.aliases.lookup key ≠ some id
  keys : registry.aliasesFor id = []

end HookedConnection

end Repe
