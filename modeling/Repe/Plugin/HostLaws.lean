import Repe.Plugin.Host
import Repe.Plugin.RuntimeLaws

/-! Which requests a plugin's host answers under their own id. -/

namespace Repe

section Frames

variable (t : Target)

/-- The frame of a parsed request is assembled from its parts. -/
theorem writeMessageStreaming_toVec {request : Message} (wellFormed : request.WellFormed t) :
    ∃ blocks, writeMessageStreaming t request.header request.query
        (UInt64.ofNat request.body.length) [request.body] = .ok blocks ∧
      blocks.flatten = request.toVec := by
  obtain ⟨spec, queryLength, bodyLength, length, addressable⟩ := wellFormed
  rw [Message.toVec_length] at addressable
  have counted : headerSize + request.query.length + request.body.length < 2 ^ 64 := by
    rw [← length]
    exact request.header.length.toNat_lt
  obtain ⟨_, _, returned, sum⟩ := framedLength_counts t counted
  -- The lengths that are filled in are those the request came with.
  have total : UInt64.ofNat headerSize + UInt64.ofNat request.query.length
      + UInt64.ofNat request.body.length = request.header.length := by
    apply UInt64.toNat_inj.mp
    rw [length, sum]
  -- So the header is written as it was read.
  rw [writeMessageStreaming, returned, Exec.ok_bind, total, ← eq_ofNat_of_toNat queryLength,
    ← eq_ofNat_of_toNat bodyLength]
  refine ⟨_, rfl, ?_⟩
  rw [Message.toVec_eq]
  cases request.query <;> simp

theorem Sendable.framed {response : Message} {query : Bytes} (sendable : Sendable t response query) :
    (respondSync t response query).Returns := by
  -- What fits in memory fits in the fields of the header.
  obtain ⟨counted, _⟩ := t.lt_of_le_isizeMax sendable.size
  obtain ⟨_, _, returned, _⟩ := framedLength_counts t counted
  rw [respondSync_eq, returned]
  exact ⟨_, rfl⟩

theorem framedWith_parsed {header : Header} {bodyLength : UInt64} {query body : Bytes}
    {message : Message}
    (parsed : Message.fromSlice t (framedWith header bodyLength query body) = .ok message) :
    header.spec = repeSpec ∧ message.header.id = header.id := by
  obtain ⟨_, valid, _, rfl⟩ := (Message.fromSlice_ok t).mp parsed
  rw [framedWith, List.append_assoc, Header.parse_encode] at valid ⊢
  exact ⟨valid.spec, rfl⟩

theorem fromSlice_of_exact {bytes : Bytes} {message : Message}
    (parsed : Message.fromSliceExact t bytes = .ok message) :
    Message.fromSlice t bytes = .ok message :=
  ((Message.fromSliceExact_ok t).mp parsed).1

theorem PluginError.frame_small (error : PluginError) : error.frame.length ≤ t.isizeMax := by
  have width : 2 ^ 15 ≤ 2 ^ (min t.usizeBits 64 - 1) :=
    Nat.pow_le_pow_right (by decide) (by have := t.wide; omega)
  -- The text is the only part whose length varies.
  have length : error.frame.length = headerSize + 0 + (utf8Bytes error.text).length := by
    rw [frame, Message.writeTo_flatten, Message.toVec_length]
    rfl
  have short := error.text_length
  simp only [headerSize] at length
  rw [Target.isizeMax]
  omega

end Frames

namespace Plugin

section Forwarding

variable (t : Target) (plugin : Plugin) {call : RawRequest → RepeBuffer} {address : Nat}
  (header : Header) (query : Bytes) {frame bytes : Bytes}

theorem forward_of_parsed {message : Message}
    (responded : call (.pointing address frame) = .borrowing bytes)
    (enough : headerSize ≤ bytes.length) (size : bytes.length ≤ t.isizeMax)
    (parsed : Message.fromSlice t bytes = .ok message) :
    plugin.forward t call address header query frame = .ok message := by
  have some : bytes.length ≠ 0 := by simp only [headerSize] at enough; omega
  rw [RepeBuffer.borrowing_of_length enough] at responded
  simp [forward, callInto, responded, some, Nat.not_lt.mpr size, parsed]

/-- A response that the host cannot read is reported under the id of the request. -/
theorem forward_of_unreadable (responded : call (.pointing address frame) = .borrowing bytes)
    (enough : headerSize ≤ bytes.length)
    (unreadable : t.isizeMax < bytes.length ∨ ∀ message, Message.fromSlice t bytes ≠ .ok message) :
    ∃ message, plugin.forward t call address header query frame = .ok message ∧
      message.header.id = header.id := by
  have some : bytes.length ≠ 0 := by simp only [headerSize] at enough; omega
  rw [RepeBuffer.borrowing_of_length enough] at responded
  -- The host looks at the size first, and at the frame only if it could have been allocated.
  by_cases size : t.isizeMax < bytes.length
  · exact ⟨_, by simp only [forward, callInto, responded, if_neg some, if_pos size]; rfl, rfl⟩
  · cases parsed : Message.fromSlice t bytes with
    | ok message => exact absurd parsed (unreadable.resolve_left size message)
    | panic => exact absurd parsed (Message.fromSlice_ne_panic t bytes)
    | err error =>
      simp only [forward, callInto, responded, if_neg some, if_neg size, List.take_length, parsed]
      exact ⟨_, rfl, rfl⟩

theorem forward_of_empty (responded : (call (.pointing address frame)).size = 0)
    (loud : header.notify ≠ 1) :
    ∃ message, plugin.forward t call address header query frame = .ok message ∧
      message.header.id = header.id :=
  ⟨_, by simp only [forward, callInto, responded, if_true, if_neg loud]; rfl, rfl⟩

end Forwarding

section Ids

variable {C : Type} (t : Target) (detached : Path → C)

/--
A plugin's router answers a request under its id: its handler gives a message that id, and a panic
is reported by the host or the id is the one of the plugin's report.
-/
structure KeepsId (router : Router Unwinding C) (view : MessageView) : Prop where
  answering : ∀ handler path response,
    route router view.header view.query = .dispatch handler false path →
    handler.handleView view (detached path) = .ok (.ok response) →
    Sendable t response view.query → response.header.id = view.header.id
  panicking : Panics t detached router view → view.header.notify ≠ 0 ∨ view.header.id = 0

/-- A router answers with its handler's message, or under the id of the request. -/
theorem routed_id {router : Router Unwinding C} {view : MessageView} {response : Message}
    (loud : view.header.notify ≠ 1)
    (routed : routeRequestView detached router view = .ok (some response)) :
    response.header.id = view.header.id ∨ ∃ handler path,
      route router view.header view.query = .dispatch handler false path ∧
        handler.handleView view (detached path) = .ok (.ok response) := by
  -- The router makes up a message for a rejection and for an error, and both are under the id.
  have flag : (view.header.notify == 1) = false := by simpa using loud
  rcases route_notify router view.header view.query with
    ⟨handler, path, found⟩ | ⟨code, message, found⟩
  · rw [flag] at found
    rw [routeRequestView, found] at routed
    obtain ⟨result, handled, routed⟩ := Exec.bind_eq_ok.mp routed
    cases result with
    | ok message =>
      cases routed
      exact .inr ⟨handler, path, found, handled⟩
    | error error =>
      cases routed
      exact .inl rfl
  · rw [flag] at found
    rw [routeRequestView, found] at routed
    cases routed
    exact .inl rfl

theorem routed_of_handled {router : Router Unwinding C} {view : MessageView} {response : Message}
    {handler : HandlerErased Unwinding C} {path : Path}
    (found : route router view.header view.query = .dispatch handler false path)
    (handled : handler.handleView view (detached path) = .ok (.ok response)) :
    routeRequestView detached router view = .ok (some response) := by
  rw [routeRequestView, found]
  simp only [dispatchView, handled]
  rfl

/-- A router that answers keeps the id exactly if its answer has it or cannot be sent. -/
theorem keepsId_of_answered {router : Router Unwinding C} {view : MessageView} {response : Message}
    {frame : Bytes} (loud : view.header.notify ≠ 1)
    (routed : routeRequestView detached router view = .ok (some response))
    (framed : respondSync t response view.query = .ok frame) :
    KeepsId t detached router view ↔
      (Sendable t response view.query → response.header.id = view.header.id) := by
  constructor
  · intro keeps sendable
    rcases routed_id detached loud routed with same | ⟨handler, path, found, handled⟩
    · exact same
    · exact keeps.answering handler path response found handled sendable
  · -- There is one answer, and it was framed without a panic.
    intro same
    refine ⟨?_, ?_⟩
    · intro handler path other found handled
      cases routed.symm.trans (routed_of_handled detached found handled)
      exact same
    · rintro (unwound | ⟨other, answered, fails⟩)
      · cases routed.symm.trans unwound
      · cases routed.symm.trans answered
        exact absurd ⟨frame, framed⟩ fails

/-- A router that unwinds keeps the id exactly if the host makes the report, or the id is zero. -/
theorem keepsId_of_panics {router : Router Unwinding C} {view : MessageView}
    (panics : Panics t detached router view) :
    KeepsId t detached router view ↔ view.header.notify ≠ 0 ∨ view.header.id = 0 := by
  refine ⟨fun keeps => keeps.panicking panics, fun reported => ⟨?_, fun _ => reported⟩⟩
  intro handler path response found handled sendable
  have routed := routed_of_handled detached found handled
  -- A sendable response is framed, so nothing would have unwound.
  rcases panics with unwound | ⟨other, answered, fails⟩
  · cases routed.symm.trans unwound
  · cases routed.symm.trans answered
    exact absurd (sendable.framed t) fails

/--
A plugin answers a request under its id: its router does, or nobody gets as far as a router and the
id is the one of the plugin's errors.
-/
def AnswersUnderId (runtime : PluginRuntime C) (buffer : ResponseBuffer) (address : Nat)
    (request : Message) : Prop :=
  (∀ router, PluginRuntime.Reaches t runtime buffer address request.toVec router →
      KeepsId t detached router ⟨request.header, request.query, request.body⟩) ∧
    ((∀ router, ¬ PluginRuntime.Reaches t runtime buffer address request.toVec router) →
      request.header.id = 0)

variable (plugin : Plugin) {runtime : PluginRuntime C} {buffer : ResponseBuffer} {address : Nat}
  {request : Message}

theorem forward_of_error {error : PluginError} {frame : Bytes}
    (responded : runtime.exported t detached buffer (.pointing address frame)
      = .borrowing error.frame) (header : Header) (query : Bytes) :
    plugin.forward t (runtime.exported t detached buffer) address header query frame
      = .ok error.message :=
  plugin.forward_of_parsed t header query responded error.frame_length (error.frame_small t)
    (fromSlice_of_exact t (error.frame_parses t))

/--
A router's answer is forwarded under the id of the request exactly if it has that id, or the host
cannot read it and reports that.
-/
theorem forward_answered_iff {response : Message} {frame : Bytes}
    (responded : runtime.exported t detached buffer (.pointing address request.toVec)
      = .borrowing frame)
    (framed : respondSync t response request.query = .ok frame) :
    (∃ message, plugin.forward t (runtime.exported t detached buffer) address request.header
        request.query request.toVec = .ok message ∧ message.header.id = request.header.id) ↔
      (Sendable t response request.query → response.header.id = request.header.id) := by
  have whole := respondSync_frame t framed
  have length : frame.length = headerSize
      + (responseEchoQuery response request.query).length + response.body.length := by
    rw [whole, framedWith_length]
  have enough : headerSize ≤ frame.length := by omega
  by_cases sendable : Sendable t response request.query
  · -- The answer parses, and is forwarded with its id.
    obtain ⟨message, accepted⟩ := sendable.returns t framed
    have sliced := fromSlice_of_exact t accepted
    have forwarded := plugin.forward_of_parsed t request.header request.query responded enough
      (by rw [length]; exact sendable.size) sliced
    rw [whole] at sliced
    obtain ⟨_, kept⟩ := framedWith_parsed t sliced
    simp only [forwarded, Exec.ok.injEq, exists_eq_left', kept, sendable, true_imp_iff]
  · -- The answer is too long or is no frame, which the host reports.
    have unreadable : t.isizeMax < frame.length ∨
        ∀ message, Message.fromSlice t frame ≠ .ok message := by
      by_cases size : frame.length ≤ t.isizeMax
      · refine .inr fun message sliced => sendable ⟨?_, by rwa [length] at size⟩
        rw [whole] at sliced
        exact (framedWith_parsed t sliced).1
      · exact .inl (Nat.lt_of_not_le size)
    have reported := plugin.forward_of_unreadable t request.header request.query responded enough
      unreadable
    exact ⟨fun _ is => absurd is sendable, fun _ => reported⟩

/-- A panic is reported under the id of the request exactly if the host does it, or the id is zero. -/
theorem forward_panicked_iff (loud : request.header.notify ≠ 1)
    (responded : runtime.exported t detached buffer (.pointing address request.toVec)
      = PluginRuntime.guarded request.header.notify .panic) :
    (∃ message, plugin.forward t (runtime.exported t detached buffer) address request.header
        request.query request.toVec = .ok message ∧ message.header.id = request.header.id) ↔
      request.header.notify ≠ 0 ∨ request.header.id = 0 := by
  by_cases zero : request.header.notify = 0
  · -- The plugin reports the panic itself, and nobody knows the id there.
    have error : runtime.exported t detached buffer (.pointing address request.toVec)
        = .borrowing PluginError.handlerPanicked.frame := by
      rw [responded, PluginRuntime.guarded, zero, if_neg (by simp)]
    rw [forward_of_error t detached plugin error]
    simp only [Exec.ok.injEq, exists_eq_left', zero, ne_eq, not_true_eq_false, false_or]
    exact eq_comm
  · -- The plugin takes the request for a notify, and the host notices that nothing came back.
    have quiet : (runtime.exported t detached buffer (.pointing address request.toVec)).size
        = 0 := by
      rw [responded, PluginRuntime.guarded, if_pos zero]
      rfl
    have reported := plugin.forward_of_empty t request.header request.query quiet loud
    exact ⟨fun _ => .inl zero, fun _ => reported⟩

/-- What is forwarded to a plugin is answered under its id exactly if the plugin does so. -/
theorem forward_keeps_iff (wellFormed : request.WellFormed t) (loud : request.header.notify ≠ 1) :
    (∃ message, plugin.forward t (runtime.exported t detached buffer) address request.header
        request.query request.toVec = .ok message ∧ message.header.id = request.header.id) ↔
      AnswersUnderId t detached runtime buffer address request := by
  have parsed : MessageView.fromSliceExact t request.toVec
      = .ok ⟨request.header, request.query, request.body⟩ :=
    (MessageView.fromSliceExact_ok t).mpr (Message.fromSliceExact_complete t wellFormed)
  by_cases reached : ∃ router, PluginRuntime.Reaches t runtime buffer address request.toVec router
  · obtain ⟨router, reaches⟩ := reached
    -- The router is the only one there is, so the condition is about it.
    have condition : AnswersUnderId t detached runtime buffer address request ↔
        KeepsId t detached router ⟨request.header, request.query, request.body⟩ := by
      refine ⟨fun answers => answers.1 router reaches, fun keeps => ⟨?_, ?_⟩⟩
      · intro other again
        rwa [← reaches.unique t again]
      · intro stopped
        exact absurd reaches (stopped router)
    rw [condition]
    have served := served_callInto t detached router parsed
    have responded : runtime.exported t detached buffer (.pointing address request.toVec) = _ :=
      PluginRuntime.call_of_reaches t detached reaches parsed
    generalize router.callInto t detached request.toVec = outcome at served responded
    -- The router kept silent, answered, or unwound.
    cases served with
    | quiet routed => exact absurd ((routeRequestView_none_iff detached routed).mp rfl) loud
    | @answered response frame routed framed =>
      rw [keepsId_of_answered t detached loud routed framed]
      exact forward_answered_iff t detached plugin responded framed
    | unwound panics =>
      rw [keepsId_of_panics t detached panics]
      exact forward_panicked_iff t detached plugin loud responded
  · -- The runtime answers with an error of its own.
    have stopped := not_exists.mp reached
    obtain ⟨error, responded⟩ := PluginRuntime.call_of_not_reaches t detached
      (PluginRuntime.headerSize_le t parsed) stopped
    rw [forward_of_error t detached plugin responded]
    simp only [Exec.ok.injEq, exists_eq_left']
    constructor
    · intro zero
      exact ⟨fun router reaches => absurd reaches (stopped router), fun _ => zero.symm⟩
    · intro answers
      exact (answers.2 stopped).symm

end Ids

def rootPlugin : Plugin := ⟨"calculator", []⟩

end Plugin

end Repe
