import Repe.Server.Respond
import Repe.Wire.MessageLaws

/-! When the four carriers put the same frame on the wire, and when they do not. -/

namespace Repe

namespace Header

/-- A header with its query and body lengths replaced, and their sum as its total length. -/
def patched (header : Header) (queryLength bodyLength : UInt64) : Header :=
  { header with
    queryLength
    bodyLength
    length := UInt64.ofNat headerSize + queryLength + bodyLength }

theorem encode_inj {first second : Header} {rest rest' : Bytes}
    (same : first.encode ++ rest = second.encode ++ rest') : first = second := by
  -- Both headers are read back from the same bytes.
  have parsed := congrArg parse same
  rwa [parse_encode, parse_encode] at parsed

end Header

section Sums

variable (t : Target)

theorem framedLength_value {queryLength bodyLength length : UInt64}
    (returned : framedLength t queryLength bodyLength = .ok length) :
    length = UInt64.ofNat headerSize + queryLength + bodyLength := by
  obtain ⟨first, sum, returned⟩ := Exec.bind_eq_ok.mp returned
  rw [t.addU64_value returned, t.addU64_value sum]

/-- A total below the width of `u64` is returned, and is the sum. -/
theorem framedLength_fits {queryLength bodyLength : UInt64}
    (fits : headerSize + queryLength.toNat + bodyLength.toNat < 2 ^ 64) :
    framedLength t queryLength bodyLength
        = .ok (UInt64.ofNat headerSize + queryLength + bodyLength) ∧
      (UInt64.ofNat headerSize + queryLength + bodyLength).toNat
        = headerSize + queryLength.toNat + bodyLength.toNat := by
  have size : (UInt64.ofNat headerSize).toNat = headerSize := rfl
  have first : (UInt64.ofNat headerSize + queryLength).toNat = headerSize + queryLength.toNat := by
    rw [UInt64.toNat_add_of_fits (by omega), size]
  -- The second sum starts from the exact first one.
  have second : (UInt64.ofNat headerSize + queryLength).toNat + bodyLength.toNat < 2 ^ 64 := by omega
  constructor
  · rw [framedLength, t.addU64_ok (by omega), Exec.ok_bind, t.addU64_ok second]
  · rw [UInt64.toNat_add_of_fits second, first]

/-- Counts whose total fits survive their casts, and so does the total. -/
theorem framedLength_counts {query body : Nat} (counted : headerSize + query + body < 2 ^ 64) :
    (UInt64.ofNat query).toNat = query ∧ (UInt64.ofNat body).toNat = body ∧
      framedLength t (UInt64.ofNat query) (UInt64.ofNat body)
        = .ok (UInt64.ofNat headerSize + UInt64.ofNat query + UInt64.ofNat body) ∧
      (UInt64.ofNat headerSize + UInt64.ofNat query + UInt64.ofNat body).toNat
        = headerSize + query + body := by
  have querySame : (UInt64.ofNat query).toNat = query :=
    UInt64.toNat_ofNat_of_lt' (show query < 2 ^ 64 by omega)
  have bodySame : (UInt64.ofNat body).toNat = body :=
    UInt64.toNat_ofNat_of_lt' (show body < 2 ^ 64 by omega)
  -- A count below the width of `u64` is its own cast.
  have fits : headerSize + (UInt64.ofNat query).toNat + (UInt64.ofNat body).toNat < 2 ^ 64 := by
    rwa [querySame, bodySame]
  obtain ⟨returned, sum⟩ := framedLength_fits t fits
  rw [querySame, bodySame] at sum
  exact ⟨querySame, bodySame, returned, sum⟩

end Sums

section Carriers

variable (t : Target) {response : Message} {requestQuery frame : Bytes}

theorem echo_unstamped (unstamped : requestQuery.isEmpty ∨ ¬ response.query.isEmpty) :
    responseEchoQuery response requestQuery = response.query := by
  rw [responseEchoQuery]
  split
  · rename_i empty
    -- The response has no query, so the request has none either.
    have none : requestQuery = [] := by simpa [empty] using unstamped
    rw [none, List.isEmpty_iff.mp empty]
  · rfl

theorem echo_stamped (stamped : ¬ (requestQuery.isEmpty ∨ ¬ response.query.isEmpty)) :
    responseEchoQuery response requestQuery = requestQuery := by
  have empty : response.query.isEmpty := by simpa using (not_or.mp stamped).2
  rw [responseEchoQuery, if_pos empty]

/-- A header whose lengths are patched, with the query and body behind it. -/
def framedWith (header : Header) (bodyLength : UInt64) (query body : Bytes) : Bytes :=
  (header.patched (UInt64.ofNat query.length) bodyLength).encode ++ query ++ body

theorem respondSync_eq :
    respondSync t response requestQuery
      = framedLength t (UInt64.ofNat (responseEchoQuery response requestQuery).length)
          (UInt64.ofNat response.body.length) >>= fun _ =>
        .ok (framedWith response.header (UInt64.ofNat response.body.length)
          (responseEchoQuery response requestQuery) response.body) := by
  simp only [respondSync, writeViewResponse, writeMessageStreaming]
  -- The sum is taken before anything is written, so a failure of it is the whole result.
  cases sum : framedLength t (UInt64.ofNat (responseEchoQuery response requestQuery).length)
      (UInt64.ofNat response.body.length) with
  | err error => rfl
  | panic => rfl
  | ok length =>
    rw [framedLength_value t sum]
    -- Writing an empty query as a block or leaving the block out is the same.
    cases query : responseEchoQuery response requestQuery <;> simp [framedWith, Header.patched]

/-- The async writer frames with the body length the handler's header claims. -/
theorem respondAsync_eq :
    respondAsync t response requestQuery
      = framedLength t (UInt64.ofNat (responseEchoQuery response requestQuery).length)
          response.header.bodyLength >>= fun _ =>
        .ok (framedWith response.header response.header.bodyLength
          (responseEchoQuery response requestQuery) response.body) := by
  simp only [respondAsync, writeViewResponseAsync]
  cases sum : framedLength t (UInt64.ofNat (responseEchoQuery response requestQuery).length)
      response.header.bodyLength with
  | err error => rfl
  | panic => rfl
  | ok length =>
    rw [framedLength_value t sum]
    -- Neither an empty query nor an empty body leaves a trace in the frame.
    cases query : responseEchoQuery response requestQuery <;> cases body : response.body <;>
      simp [framedWith, Header.patched]

/-- A stamped response is framed like the async one, an unstamped one exactly as the handler left it. -/
theorem respondWebSocket_eq (capacity : Nat)
    (addressable : t.Addressable (headerSize
      + (responseEchoQuery response requestQuery).length + response.body.length)) :
    respondWebSocket t capacity response requestQuery =
      if requestQuery.isEmpty ∨ ¬ response.query.isEmpty then .ok response.toVec
      else framedLength t (UInt64.ofNat requestQuery.length) response.header.bodyLength >>= fun _ =>
        .ok (framedWith response.header response.header.bodyLength requestQuery response.body) := by
  simp only [respondWebSocket, stampResponseQuery, Exec.pure_eq]
  split
  · -- The message is serialized as it came from the handler.
    rename_i unstamped
    rw [echo_unstamped unstamped, ← Message.toVec_length] at addressable
    exact Message.intoWireBytes_eq t capacity response addressable
  · -- The stamp replaces the query and its length, and the total with them.
    rename_i stamped
    rw [echo_stamped stamped] at addressable
    cases sum : framedLength t (UInt64.ofNat requestQuery.length) response.header.bodyLength with
    | err error => rfl
    | panic => rfl
    | ok length =>
      simp only [Exec.ok_bind]
      rw [framedLength_value t sum,
        Message.intoWireBytes_eq t capacity _ (by simpa using addressable), Message.toVec_eq]
      rfl

/-- One frame comes out of all four carriers, and the exact parser accepts it. -/
def CarriersAgree (capacity : Nat) (routeRequestView : MessageView → Option Message)
    (request : Bytes) (response : Message) (requestQuery : Bytes) : Prop :=
  ∃ frame, respondSync t response requestQuery = .ok frame ∧
    callInto t routeRequestView request = .ok (true, frame) ∧
    respondAsync t response requestQuery = .ok frame ∧
    respondWebSocket t capacity response requestQuery = .ok frame ∧
    (Message.fromSliceExact t frame).Returns

/-- A response the carriers agree on: its header tells the truth about everything they leave alone. -/
structure Framable (response : Message) (requestQuery : Bytes) : Prop where
  spec : response.header.spec = repeSpec
  bodyLength : response.header.bodyLength.toNat = response.body.length
  counted : headerSize + (responseEchoQuery response requestQuery).length + response.body.length
    < 2 ^ 64
  addressable : t.Addressable
    (headerSize + (responseEchoQuery response requestQuery).length + response.body.length)
  /-- Either the request's query is stamped in, or the other two lengths are right already. -/
  lengths : (requestQuery ≠ [] ∧ response.query = []) ∨
    (response.header.queryLength.toNat = response.query.length ∧
      response.header.length.toNat = headerSize + response.query.length + response.body.length)

/-- The blocking writer's frame is accepted exactly when its magic is right and its total fits. -/
theorem framedWith_returns (header : Header) (query body : Bytes) :
    (Message.fromSliceExact t
        (framedWith header (UInt64.ofNat body.length) query body)).Returns ↔
      header.spec = repeSpec ∧ headerSize + query.length + body.length < 2 ^ 64 ∧
        t.Addressable (headerSize + query.length + body.length) := by
  have parsed : Header.parse (framedWith header (UInt64.ofNat body.length) query body)
      = header.patched (UInt64.ofNat query.length) (UInt64.ofNat body.length) := by
    rw [framedWith, List.append_assoc, Header.parse_encode]
  have length : (framedWith header (UInt64.ofNat body.length) query body).length
      = headerSize + query.length + body.length := by
    simp [framedWith, Nat.add_assoc]
  rw [Message.fromSliceExact_returns, parsed, length]
  -- Casting a length to `u64` can only make it smaller.
  have queryCast : (UInt64.ofNat query.length).toNat ≤ query.length := by
    rw [UInt64.toNat_ofNat']
    exact Nat.mod_le _ _
  have bodyCast : (UInt64.ofNat body.length).toNat ≤ body.length := by
    rw [UInt64.toNat_ofNat']
    exact Nat.mod_le _ _
  have total : (header.patched (UInt64.ofNat query.length) (UInt64.ofNat body.length)).total
      = headerSize + (UInt64.ofNat query.length).toNat + (UInt64.ofNat body.length).toNat := rfl
  constructor
  · -- The frame is as long as its header says, so no cast has lost anything.
    rintro ⟨_, spec, counted, addressable, _, whole⟩
    rw [whole] at counted addressable
    exact ⟨spec, counted, addressable⟩
  · -- Casts of counts that fit are exact, and the sum of them is the total.
    rintro ⟨spec, counted, addressable⟩
    obtain ⟨querySame, bodySame, _, sum⟩ := framedLength_counts t counted
    rw [querySame, bodySame] at total
    exact ⟨by omega, spec, by omega, by rwa [total], by rw [total]; exact sum.symm, total⟩

theorem eq_ofNat_of_toNat {length : UInt64} {count : Nat} (counts : length.toNat = count) :
    length = UInt64.ofNat count := by
  rw [← counts, UInt64.ofNat_toNat]

theorem framedWith_inj {header header' : Header} {bodyLength : UInt64} {query body rest : Bytes}
    (same : framedWith header bodyLength query body = header'.encode ++ rest) :
    header.patched (UInt64.ofNat query.length) bodyLength = header' := by
  rw [framedWith, List.append_assoc] at same
  exact Header.encode_inj same

theorem callInto_eq {routeRequestView : MessageView → Option Message} {request : Bytes}
    {view : MessageView} (parsed : MessageView.fromSliceExact t request = .ok view)
    (routed : routeRequestView view = some response) :
    callInto t routeRequestView request
      = respondSync t response view.query >>= fun frame => .ok (true, frame) := by
  rw [callInto, parsed]
  simp only [routed, respondSync]
  -- Both report whatever the writer does.
  cases writeViewResponse t response view.query <;> rfl

/-- Carriers that agree on an acceptable frame leave the header no room to lie. -/
theorem framable_of_agree {capacity : Nat} (sync : respondSync t response requestQuery = .ok frame)
    (async : respondAsync t response requestQuery = .ok frame)
    (socket : respondWebSocket t capacity response requestQuery = .ok frame)
    (accepted : (Message.fromSliceExact t frame).Returns) : Framable t response requestQuery := by
  rw [respondSync_eq, Exec.bind_eq_ok] at sync
  obtain ⟨_, _, syncFrame⟩ := sync
  obtain rfl := Exec.ok.inj syncFrame
  rw [respondAsync_eq, Exec.bind_eq_ok] at async
  obtain ⟨_, _, asyncFrame⟩ := async
  obtain ⟨spec, counted, addressable⟩ := (framedWith_returns t _ _ _).mp accepted
  obtain ⟨_, size, _⟩ := framedLength_counts t counted
  -- Equal frames have equal headers, so the claimed body length is the real one.
  have whole := Exec.ok.inj asyncFrame
  rw [framedWith.eq_1 response.header (UInt64.ofNat response.body.length), List.append_assoc] at whole
  have claimed : response.header.bodyLength = UInt64.ofNat response.body.length :=
    congrArg Header.bodyLength (framedWith_inj whole)
  refine ⟨spec, by rw [claimed, size], counted, addressable, ?_⟩
  rw [respondWebSocket_eq t capacity addressable] at socket
  split at socket
  · -- Nothing was stamped, so the response's own header is the blocking writer's.
    rename_i unstamped
    rw [echo_unstamped unstamped] at socket counted
    have whole := (Exec.ok.inj socket).symm
    rw [Message.toVec_eq, List.append_assoc] at whole
    have headers := framedWith_inj whole
    obtain ⟨querySize, _, _, sum⟩ := framedLength_counts t counted
    refine .inr ⟨?_, ?_⟩
    · rw [← congrArg Header.queryLength headers]
      exact querySize
    · rw [← congrArg Header.length headers]
      exact sum
  · -- A stamp was called for, which is the other way to be framable.
    rename_i stamped
    simp only [not_or, Decidable.not_not, List.isEmpty_iff] at stamped
    exact .inl stamped

/-- A framable response comes out of every carrier as the blocking writer's frame. -/
theorem agree_of_framable {capacity : Nat} (framable : Framable t response requestQuery) :
    respondSync t response requestQuery
        = .ok (framedWith response.header (UInt64.ofNat response.body.length)
          (responseEchoQuery response requestQuery) response.body) ∧
      respondAsync t response requestQuery
        = .ok (framedWith response.header (UInt64.ofNat response.body.length)
          (responseEchoQuery response requestQuery) response.body) ∧
      respondWebSocket t capacity response requestQuery
        = .ok (framedWith response.header (UInt64.ofNat response.body.length)
          (responseEchoQuery response requestQuery) response.body) := by
  -- With the body length right, the three totals are one sum.
  have claimed := eq_ofNat_of_toNat framable.bodyLength
  obtain ⟨_, _, returned, sum⟩ := framedLength_counts t framable.counted
  refine ⟨?_, ?_, ?_⟩
  · rw [respondSync_eq, returned, Exec.ok_bind]
  · rw [respondAsync_eq, claimed, returned, Exec.ok_bind]
  · rw [respondWebSocket_eq t capacity framable.addressable]
    split
    · -- Nothing is stamped, so every length was right before.
      rename_i unstamped
      rw [echo_unstamped unstamped] at sum ⊢
      rcases framable.lengths with ⟨some, none⟩ | ⟨queryLength, length⟩
      · simp [some, none] at unstamped
      · -- The header is already the one the blocking writer would patch in.
        have own : response.header = response.header.patched
            (UInt64.ofNat response.query.length) (UInt64.ofNat response.body.length) := by
          have total : response.header.length = UInt64.ofNat headerSize
              + UInt64.ofNat response.query.length + UInt64.ofNat response.body.length := by
            apply UInt64.toNat_inj.mp
            rw [length, sum]
          rw [Header.patched, ← total, ← eq_ofNat_of_toNat queryLength, ← claimed]
        rw [framedWith, ← own, Message.toVec_eq]
    · rename_i stamped
      rw [echo_stamped stamped] at returned ⊢
      rw [claimed, returned, Exec.ok_bind]

/-- A response whose body was filled in after its header was made. -/
def staleResponse : Message :=
  { MessageBuilder.build { id := 7 } with body := [1] }

end Carriers

end Repe
