import Repe.Io.Read
import Repe.Server.Router

/-! The connection loops of the two TCP servers, from the bytes of the peer to the bytes of the answers. -/

namespace Repe.Tcp

open ByteStream

/-- Handlers work on the program the server is part of, and may unwind. -/
abbrev Handling (S : Type) := Proc S Empty

def isEof : RepeError → Bool
  | .io error => error.kind == .unexpectedEof
  | _ => false

/-- What the two servers do differently in a loop of the same shape. -/
structure Carrier (σ : Type) where
  read : Proc σ RepeError Bytes
  respond : Message → Bytes → Exec RepeError Bytes
  hangsUp : RepeError → Bool

section Carriers

variable {σ : Type} (t : Target)

/-- The blocking server: a peer that hangs up, even inside a frame, is no error. -/
def blocking (reader : Reader IoError σ) : Carrier σ :=
  ⟨readMessageInto t reader, respondSync t, isEof⟩

/-- The async server without a write timeout: every error of a read is passed on. -/
def awaited (runtime : Nat → Proc σ IoError Bytes) : Carrier σ :=
  ⟨readMessageIntoAsync t runtime, respondAsync t, fun _ => false⟩

end Carriers

structure Pass (S : Type) where
  /-- What the other connections have done to the program since the last pass. -/
  others : S → S
  quits : Bool
  /-- The write or the flush fails after this many bytes of the frame have left. -/
  broken : Option (Nat × IoError)

def Pass.Quiet {S : Type} (pass : Pass S) : Prop :=
  pass.quits = false ∧ pass.broken = none

instance {S : Type} (pass : Pass S) : Decidable pass.Quiet :=
  inferInstanceAs (Decidable (_ ∧ _))

structure Conn (σ S : Type) where
  reader : σ
  program : S
  sent : Bytes

inductive Ending where
  | returned (result : Except RepeError Unit)
  | unwound
  deriving DecidableEq, Repr

section Loop

variable {σ S C : Type} (t : Target) (carrier : Carrier σ) (detached : Path → C)
  (router : Router (Handling S) C)

def answer (conn : Conn σ S) (pass : Pass S) (view : MessageView) : Conn σ S × Option Ending :=
  match routeRequestView detached router view (pass.others conn.program) with
  | (.ok none, program) => ({ conn with program }, none)
  | (.ok (some response), program) =>
    match carrier.respond response view.query with
    | .ok frame =>
      match pass.broken with
      | none => ({ conn with program, sent := conn.sent ++ frame }, none)
      | some (left, error) =>
        ({ conn with program, sent := conn.sent ++ frame.take left },
          some (.returned (.error (.io error))))
    | .err error => ({ conn with program }, some (.returned (.error error)))
    | .panic => ({ conn with program }, some .unwound)
  | (.panic, program) => ({ conn with program }, some .unwound)

/-- One pass of `handle_connection`: read a frame, and answer it. -/
def turn (conn : Conn σ S) (pass : Pass S) : Conn σ S × Option Ending :=
  -- A timeout drops the reader with whatever part of a frame it has read.
  if pass.quits then (conn, some (.returned (.ok ())))
  else match carrier.read conn.reader with
    | (.err error, reader) =>
      ({ conn with reader },
        some (.returned (if carrier.hangsUp error then .ok () else .error error)))
    | (.panic, reader) => ({ conn with reader }, some .unwound)
    | (.ok buf, reader) =>
      match MessageView.fromSlice t buf with
      | .ok view => answer carrier detached router { conn with reader } pass view
      | .err error => ({ conn with reader }, some (.returned (.error error)))
      | .panic => ({ conn with reader }, some .unwound)

/-- `handle_connection`: pass after pass, until one of them ends the loop. -/
def serve : Conn σ S → List (Pass S) → Conn σ S × Option Ending
  | conn, [] => (conn, none)
  | conn, pass :: passes =>
    match turn t carrier detached router conn pass with
    | (after, none) => serve after passes
    | (after, some ending) => (after, some ending)

end Loop

end Repe.Tcp
