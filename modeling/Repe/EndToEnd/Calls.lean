import Repe.Client.Correlation
import Repe.Server.TcpConnectionLaws

/-! Concurrent calls of one client on a TCP server: whose answer each of them returns. -/

namespace Repe.Tcp

open ByteStream

variable {σ S C : Type} {t : Target} {ahead : σ → Incoming} {carrier : Carrier σ} (detached : Path → C)
  (router : Router (Handling S) C) (limit : Nat)

/--
Concurrent calls over one TCP connection return the answers to their own requests.

A client has made calls and notifies in any interleaving, and put their frames on a connection in any
order. The server has got a front of these frames, none of them torn by a request that was given up,
wherever the stream or one of its own writes broke; and the client has read frames off a front of what
was sent back. The handlers answer requests up to the limit with honest responses, and the async server
has no write timeout. Then a call that returns a message returns what the router has answered to the
request of this call, at the program that the requests served before it have left.
-/
theorem calls_return_their_own_answers (server : IsServer t ahead carrier)
    (answering : Answering t detached router limit) (client : ClientKind) {events : List Event}
    {state : ClientState} (own : ∀ caller request, .forward caller request ∉ events)
    (ran : Transition.run (ClientState.step client) .connected events = some state)
    (few : state.drawn < 2 ^ 64) (written : List Message)
    (wrote : ∀ request ∈ written, request.header.notify = 1 ∨ ∃ caller,
      (state.calls caller).phase.begun = true ∧ (state.calls caller).request = request)
    (wellFormed : ∀ request ∈ written, request.WellFormed t)
    (small : ∀ request ∈ written, request.toVec.length ≤ limit) (start : σ) (program : S)
    (arrives : bytesOf (ahead start) <+: framesOf written) (passes : List (Pass S))
    (parsed : ∀ reply ∈ state.received, reply.WellFormed t)
    (read : framesOf state.received
      <+: (serve t carrier detached router ⟨start, program, []⟩ passes).1.sent)
    {caller : CallId} {message : Message}
    (returned : (state.calls caller).phase = .returned (.ok message)) :
    ∃ front back, written = front ++ (state.calls caller).request :: back ∧
      Answered detached router program passes front (state.calls caller).request message := by
  obtain ⟨requests, rest, cut, served⟩ := served_serve server.faithful answering ⟨start, program, []⟩
    (bounded_of_front written wellFormed small arrives) passes
  -- What was served is a front of what was written.
  obtain ⟨unserved, rfl⟩ : requests <+: written := by
    refine frames_front served.wellFormed wellFormed (List.IsPrefix.trans ⟨bytesOf rest, ?_⟩ arrives)
    rw [served.stream, bytesOf_append, bytesOf_map]
  have views : ∀ request ∈ requests, frameSize (viewOf request) ≤ limit := by
    intro request member
    have short := small request (List.mem_append_left _ member)
    rw [Message.toVec_length] at short
    exact short
  -- What was read is a front of the replies.
  have replies : state.received <+: (exchange detached router program passes requests).2 := by
    refine frames_front parsed
      (fun reply member => (exchange_wellFormed answering views program passes reply member).1)
      (read.trans ⟨cut, ?_⟩)
    rw [served.sent, List.nil_append]
  obtain ⟨named, number, found, _⟩ := (Transition.invariant_of_run ClientState.Tracked
    (fun _ _ _ kept taken => ClientState.Tracked.step kept taken) ClientState.connected_tracked
    ran).returned returned
  obtain ⟨front, request, back, rfl, answered⟩ :=
    answered_of_exchange (replies.subset (List.mem_of_getElem? found))
  obtain ⟨pass, response, after, here, routed, rfl⟩ := answered
  obtain ⟨_, _, again, silent, honest⟩ := answering.routed (views request (by simp))
    (pass.others (exchange detached router program passes front).1)
  rw [routed] at again
  cases again
  -- The request is no notify, and its id tells which call has written it.
  rcases wrote request (by simp) with notify | ⟨other, begun, rfl⟩
  · cases silent.mpr notify
  · have id : (response.framed (state.calls other).request.query).header.id
        = (state.calls other).id := (honest response rfl).1.id
    have same := (ClientState.numbered_of_run own ran).apart few begun
      (show (state.calls caller).phase.begun = true by rw [returned]; rfl) (id.symm.trans named)
    subst same
    exact ⟨front, back ++ unserved, by simp, pass, response, after, here, routed, rfl⟩

def rootCall : MessageBuilder :=
  { id := 1, query := [47], queryFormat := QueryFormat.jsonPointer.toU16 }

/-- What the counting server replies to it, after others have counted to five. -/
def rootReply : Message := (MessageBuilder.build { id := 1, body := [5] }).framed [47]

def rootEvents : List Event :=
  [.call 0 rootCall, .register 0, .move 0 .lockWriter, .move 0 .writeOk, .frame rootReply (some 0),
    .deliver, .move 0 .receive]

/-- The call returns the count that its own request was given. -/
theorem root_call_returns_its_count :
    ∃ state, Transition.run (ClientState.step .blocking) .connected rootEvents = some state ∧
      ∃ front back, [rootCall.build] = front ++ (state.calls 0).request :: back ∧
        Answered (fun _ => ()) tallyRouter 0 [⟨(· + 5), false, none⟩] front (state.calls 0).request
          rootReply := by
  -- The run of the client is evaluated, and the run of the server with its hypotheses.
  have reached : ∃ state, Transition.run (ClientState.step .blocking) .connected rootEvents
      = some state ∧ (state.calls 0).phase = .returned (.ok rootReply) ∧ state.drawn < 2 ^ 64 ∧
      (state.calls 0).request = rootCall.build ∧ state.received = [rootReply] :=
    ⟨_, rfl, rfl, by decide, rfl, rfl⟩
  obtain ⟨state, ran, returned, few, request, received⟩ := reached
  refine ⟨state, ran, calls_return_their_own_answers (fun _ => ()) tallyRouter 4096
    (.blocking socket_delivers) tally_answering .blocking (by simp [rootEvents]) ran few
    [rootCall.build] ?_ (by decide) (by decide)
    [.data 49 (rootCall.build.toVec.drop 1)] 0 (by decide) _ (by rw [received]; decide)
    (by rw [received]; decide +kernel) returned⟩
  intro other member
  rw [List.mem_singleton.mp member]
  exact .inr ⟨0, by rw [returned]; rfl, request⟩

end Repe.Tcp
