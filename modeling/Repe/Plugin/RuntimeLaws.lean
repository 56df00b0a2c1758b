import Repe.Io.WriteLaws
import Repe.Plugin.Runtime
import Repe.Server.RespondLaws
import Repe.Server.RouterLaws

/-! Which calls of a plugin come back empty, and that every other response is a frame. -/

namespace Repe

theorem RepeBuffer.borrowing_of_length {bytes : Bytes} (enough : headerSize ≤ bytes.length) :
    RepeBuffer.borrowing bytes = ⟨some bytes, bytes.length⟩ := by
  cases bytes with
  | nil => simp [headerSize] at enough
  | cons byte rest => rfl

section Frames

variable (t : Target)

namespace PluginError

theorem text_length (error : PluginError) : (utf8Bytes error.text).length ≤ 200 := by
  cases error <;> decide +kernel

theorem message_wellFormed (error : PluginError) : error.message.WellFormed t := by
  -- The texts of the runtime are short on every target.
  have short : headerSize + 0 + (utf8Bytes error.text).length < 2 ^ 16 := by
    have := error.text_length
    simp only [headerSize]
    omega
  exact Message.build_wellFormed t _ (Nat.lt_trans short (by decide)) (t.small_addressable short)

theorem frame_parses (error : PluginError) :
    Message.fromSliceExact t error.frame = .ok error.message := by
  rw [frame, Message.writeTo_flatten]
  exact Message.fromSliceExact_complete t (error.message_wellFormed t)

theorem frame_length (error : PluginError) : headerSize ≤ error.frame.length := by
  rw [frame, Message.writeTo_flatten, Message.toVec_length]
  omega

end PluginError

theorem ResponseBuffer.errorResponse_eq (buffer : ResponseBuffer) (error : PluginError) :
    ∃ reported : PluginError, buffer.errorResponse error = .borrowing reported.frame := by
  -- Without a buffer a static frame takes the place of the error.
  cases buffer with
  | free base capacity => exact ⟨error, rfl⟩
  | borrowed => exact ⟨.bufferUnavailable, rfl⟩
  | destroyed => exact ⟨.bufferUnavailable, rfl⟩

/-- A response that the blocking writer makes a frame of: it carries the magic, and fits memory. -/
structure Sendable (response : Message) (query : Bytes) : Prop where
  spec : response.header.spec = repeSpec
  size : headerSize + (responseEchoQuery response query).length + response.body.length ≤ t.isizeMax

theorem respondSync_frame {response : Message} {query frame : Bytes}
    (framed : respondSync t response query = .ok frame) :
    frame = framedWith response.header (UInt64.ofNat response.body.length)
      (responseEchoQuery response query) response.body := by
  rw [respondSync_eq, Exec.bind_eq_ok] at framed
  obtain ⟨_, _, framed⟩ := framed
  exact (Exec.ok.inj framed).symm

theorem framedWith_length (header : Header) (bodyLength : UInt64) (query body : Bytes) :
    (framedWith header bodyLength query body).length = headerSize + query.length + body.length := by
  simp [framedWith, Nat.add_assoc]

theorem Sendable.returns {response : Message} {query frame : Bytes}
    (sendable : Sendable t response query) (framed : respondSync t response query = .ok frame) :
    (Message.fromSliceExact t frame).Returns := by
  -- The frame that was sent has the lengths it announces.
  rw [respondSync_frame t framed]
  obtain ⟨counted, addressable⟩ := t.lt_of_le_isizeMax sendable.size
  exact (framedWith_returns t _ _ _).mpr ⟨sendable.spec, counted, addressable⟩

end Frames

section Routing

variable {C : Type} (t : Target) (detached : Path → C)

/-- The router keeps silent exactly on a notify. -/
theorem routeRequestView_none_iff {router : Router Unwinding C} {view : MessageView}
    {response : Option Message} (routed : routeRequestView detached router view = .ok response) :
    response = none ↔ view.header.notify = 1 := by
  -- Whether the request is dispatched or rejected, its flag decides.
  rcases route_notify router view.header view.query with
    ⟨handler, path, found⟩ | ⟨code, message, found⟩
  · rw [routeRequestView, found] at routed
    obtain ⟨result, _, routed⟩ := Exec.bind_eq_ok.mp routed
    cases loud : view.header.notify == 1 with
    | true =>
      rw [loud] at routed
      cases routed
      simpa using loud
    | false =>
      rw [loud] at routed
      cases result <;> cases routed <;> simpa using loud
  · rw [routeRequestView, found] at routed
    cases loud : view.header.notify == 1 <;> rw [loud] at routed <;> cases routed <;>
      simpa using loud

/-- Serving a request unwinds: in its handler, or when its response is framed. -/
def Panics (router : Router Unwinding C) (view : MessageView) : Prop :=
  routeRequestView detached router view = .panic ∨
    ∃ response, routeRequestView detached router view = .ok (some response) ∧
      ¬ (respondSync t response view.query).Returns

inductive Served (router : Router Unwinding C) (view : MessageView) :
    Unwinding (Bool × Bytes) → Prop
  | quiet (routed : routeRequestView detached router view = .ok none) :
      Served router view (.ok (false, []))
  | answered {response : Message} {frame : Bytes}
      (routed : routeRequestView detached router view = .ok (some response))
      (framed : respondSync t response view.query = .ok frame) : Served router view (.ok (true, frame))
  | unwound (panics : Panics t detached router view) : Served router view .panic

/-- A router that is called with a frame routes it. -/
theorem served_callInto (router : Router Unwinding C) {request : Bytes} {view : MessageView}
    (parsed : MessageView.fromSliceExact t request = .ok view) :
    Served t detached router view (router.callInto t detached request) := by
  -- The frame parses, so the router sees it; what is routed is then framed by the blocking writer.
  rw [Router.callInto, parsed]
  dsimp only
  cases routed : routeRequestView detached router view with
  | err error => cases error
  | panic => exact .unwound (.inl routed)
  | ok response =>
    rw [Exec.ok_bind]
    cases response with
    | none =>
      simp only [callInto, parsed]
      exact .quiet routed
    | some response =>
      rw [callInto_eq t parsed rfl]
      -- The writer's outcome is that of the call.
      cases framed : respondSync t response view.query with
      | ok frame => exact .answered routed framed
      | err error =>
        refine .unwound (.inr ⟨response, routed, ?_⟩)
        rintro ⟨frame, returned⟩
        cases framed.symm.trans returned
      | panic =>
        refine .unwound (.inr ⟨response, routed, ?_⟩)
        rintro ⟨frame, returned⟩
        cases framed.symm.trans returned

end Routing

namespace PluginRuntime

variable {C : Type} (t : Target) (detached : Path → C)

/-- The runtime has a router, or gets this one from its constructor. -/
def Offers (runtime : PluginRuntime C) (router : Router Unwinding C) : Prop :=
  runtime.router = some router ∨
    runtime.router = none ∧ runtime.buildFailed = false ∧ runtime.build = .ok router

/-- `get_or_build` returns the router that is offered. -/
theorem getOrBuild_of_offers {runtime : PluginRuntime C} {router : Router Unwinding C}
    (offers : runtime.Offers router) :
    ∃ here after, runtime.getOrBuild = (some (router, here), after) := by
  -- The router is there already, or this call builds it.
  rcases offers with built | ⟨empty, latch, returned⟩
  · exact ⟨false, runtime, by rw [getOrBuild, built]⟩
  · refine ⟨true, { runtime with router := some router }, ?_⟩
    rw [getOrBuild, empty]
    simp [latch, returned]

/-- `get_or_build` returns nothing when there is no router to offer. -/
theorem getOrBuild_of_not_offers {runtime : PluginRuntime C}
    (nothing : ∀ router, ¬ runtime.Offers router) :
    ∃ after, runtime.getOrBuild = (none, after) := by
  cases built : runtime.router with
  | some router => exact absurd (.inl built) (nothing router)
  | none =>
    -- The latch is set, or the constructor unwinds now.
    cases latch : runtime.buildFailed with
    | true => exact ⟨runtime, by simp [getOrBuild, built, latch]⟩
    | false =>
      cases returned : runtime.build with
      | ok router => exact absurd (.inr ⟨built, latch, returned⟩) (nothing router)
      | err error => cases error
      | panic => exact ⟨_, by rw [getOrBuild, built]; simp only [latch, returned]; rfl⟩

structure Reaches (runtime : PluginRuntime C) (buffer : ResponseBuffer) (address : Nat)
    (frame : Bytes) (router : Router Unwinding C) : Prop where
  serving : runtime.shutdown = false
  size : frame.length ≤ t.isizeMax
  apart : buffer.aliases address frame.length = false
  offers : runtime.Offers router
  free : ∃ base capacity, buffer = .free base capacity

theorem slice_pointing {address : Nat} {frame : Bytes} (enough : headerSize ≤ frame.length) :
    (RawRequest.pointing address frame).slice = some (address, frame) := by
  have some : frame.length ≠ 0 := by simp only [headerSize] at enough; omega
  simp [RawRequest.slice, RawRequest.size, some]

def guarded (notify : UInt8) : Unwinding (Bool × Bytes) → RepeBuffer
  | .ok (true, frame) => .borrowing frame
  | .ok (false, _) => .empty
  | .panic => if notify ≠ 0 then .empty else .borrowing PluginError.handlerPanicked.frame

theorem requestedNotify_eq {address : Nat} {frame : Bytes} {view : MessageView}
    (parsed : MessageView.fromSliceExact t frame = .ok view) (size : frame.length ≤ t.isizeMax) :
    requestedNotify t (.pointing address frame) = (view.header.notify != 0) := by
  -- The guard decodes the header again, from the bytes it was parsed from.
  obtain ⟨sliced, _⟩ := (Message.fromSliceExact_ok t).mp ((MessageView.fromSliceExact_ok t).mp parsed)
  obtain ⟨enough, valid, _, same⟩ := (Message.fromSlice_ok t).mp sliced
  have header : view.header = Header.parse frame := congrArg Message.header same
  have decoded : Header.decode t (frame.take headerSize) = .ok view.header := by
    rw [Header.decode_take t enough, header]
    exact (Header.decode_ok t).mpr ⟨enough, rfl, valid⟩
  have readable : ¬ (frame.length < headerSize ∨ t.isizeMax < frame.length) := by omega
  rw [requestedNotify, if_neg readable, decoded]

theorem headerSize_le {frame : Bytes} {view : MessageView}
    (parsed : MessageView.fromSliceExact t frame = .ok view) : headerSize ≤ frame.length := by
  obtain ⟨sliced, _⟩ := (Message.fromSliceExact_ok t).mp ((MessageView.fromSliceExact_ok t).mp parsed)
  exact ((Message.fromSlice_ok t).mp sliced).1

variable {runtime : PluginRuntime C} {buffer : ResponseBuffer} {address : Nat} {frame : Bytes}

/-- A call that gets as far as a router has its answer. -/
theorem call_of_reaches {router : Router Unwinding C} {view : MessageView}
    (reaches : Reaches t runtime buffer address frame router)
    (parsed : MessageView.fromSliceExact t frame = .ok view) :
    (runtime.call t detached buffer (.pointing address frame)).1
      = guarded view.header.notify (router.callInto t detached frame) := by
  obtain ⟨serving, size, apart, offers, base, capacity, rfl⟩ := reaches
  obtain ⟨here, after, built⟩ := getOrBuild_of_offers offers
  -- No check before the dispatch stops the call.
  have dispatched : runtime.callUnguarded t detached (.free base capacity) (.pointing address frame)
      = (router.callInto t detached frame >>= fun answer =>
          .ok (if answer.1 then .borrowing answer.2 else .empty), after) := by
    have addressable : ¬ t.isizeMax < (RawRequest.pointing address frame).size := Nat.not_lt.mpr size
    rw [callUnguarded, serving, if_neg Bool.false_ne_true, if_neg addressable,
      slice_pointing (headerSize_le t parsed)]
    simp only [apart, Bool.false_eq_true, if_false, built]
    rfl
  rw [call, dispatched, requestedNotify_eq t parsed size]
  -- The guard stands behind the dispatch, and looks at the flag only after a panic.
  cases router.callInto t detached frame with
  | err error => cases error
  | ok answer =>
    obtain ⟨answered, out⟩ := answer
    cases answered <;> rfl
  | panic =>
    simp only [Exec.panic_bind, guarded, bne_iff_ne]
    split <;> rfl

/-- A call that does not get as far as a router has an error of the runtime. -/
theorem call_of_not_reaches (enough : headerSize ≤ frame.length)
    (stopped : ∀ router, ¬ Reaches t runtime buffer address frame router) :
    ∃ error : PluginError, (runtime.call t detached buffer (.pointing address frame)).1
      = .borrowing error.frame := by
  -- The checks are made in this order, and the first one that fails has the error.
  rw [call, callUnguarded]
  cases serving : runtime.shutdown with
  | true =>
    simp only [if_true]
    exact buffer.errorResponse_eq .shutDown
  | false =>
    simp only [Bool.false_eq_true, if_false]
    by_cases size : t.isizeMax < (RawRequest.pointing address frame).size
    · simp only [if_pos size]
      exact buffer.errorResponse_eq .tooLarge
    · simp only [if_neg size, slice_pointing enough]
      cases apart : buffer.aliases address frame.length with
      | true =>
        simp only [if_true]
        exact buffer.errorResponse_eq .aliased
      | false =>
        simp only [Bool.false_eq_true, if_false]
        by_cases offered : ∃ router, runtime.Offers router
        · -- Only the buffer can be missing, and no handler runs without it.
          obtain ⟨router, offers⟩ := offered
          obtain ⟨here, after, built⟩ := getOrBuild_of_offers offers
          simp only [built]
          cases buffer with
          | free base capacity =>
            exact absurd ⟨serving, Nat.not_lt.mp size, apart, offers, base, capacity, rfl⟩
              (stopped router)
          | borrowed => exact ⟨.bufferUnavailable, rfl⟩
          | destroyed => exact ⟨.bufferUnavailable, rfl⟩
        · obtain ⟨after, failed⟩ := getOrBuild_of_not_offers (not_exists.mp offered)
          simp only [failed]
          exact buffer.errorResponse_eq .constructorPanicked

theorem Reaches.unique {router other : Router Unwinding C}
    (reaches : Reaches t runtime buffer address frame router)
    (again : Reaches t runtime buffer address frame other) : router = other := by
  -- Both are what `get_or_build` returns.
  obtain ⟨here, after, built⟩ := getOrBuild_of_offers reaches.offers
  obtain ⟨here', after', built'⟩ := getOrBuild_of_offers again.offers
  rw [built] at built'
  cases built'
  rfl

theorem borrowing_size {bytes : Bytes} (enough : headerSize ≤ bytes.length) :
    (RepeBuffer.borrowing bytes).size ≠ 0 := by
  -- Every frame has a header.
  rw [RepeBuffer.borrowing_of_length enough]
  simp only [headerSize] at enough
  exact Nat.ne_of_gt (Nat.lt_of_lt_of_le (by decide) enough)

/-- A router's answer is empty for a notify only, as long as a panic is under one of the two flags. -/
theorem guarded_empty_iff {router : Router Unwinding C} {view : MessageView}
    {outcome : Unwinding (Bool × Bytes)} (served : Served t detached router view outcome)
    (flags : Panics t detached router view → view.header.notify = 0 ∨ view.header.notify = 1) :
    (guarded view.header.notify outcome).size = 0 ↔ view.header.notify = 1 := by
  cases served with
  | quiet routed =>
    -- The router keeps silent on a notify only.
    have notify := (routeRequestView_none_iff detached routed).mp rfl
    simp [guarded, RepeBuffer.empty, notify]
  | @answered response frame routed framed =>
    -- It answers everything else, with at least a header.
    have loud : view.header.notify ≠ 1 := fun notify =>
      absurd ((routeRequestView_none_iff detached routed).mpr notify) (by simp)
    have enough : headerSize ≤ frame.length := by
      rw [respondSync_frame t framed, framedWith_length]
      omega
    simp [guarded, loud, borrowing_size enough]
  | unwound panics =>
    -- After a panic the flag is looked at once more.
    rcases flags panics with zero | one
    · simp [guarded, zero, borrowing_size (PluginError.frame_length _)]
    · simp [guarded, one, RepeBuffer.empty]

/-- Every answer of a router that is not empty is a frame, if its response is sendable. -/
theorem guarded_frame {router : Router Unwinding C} {view : MessageView}
    {outcome : Unwinding (Bool × Bytes)} (served : Served t detached router view outcome)
    (sendable : ∀ response, routeRequestView detached router view = .ok (some response) →
      Sendable t response view.query)
    (some : (guarded view.header.notify outcome).size ≠ 0) :
    ∃ bytes, guarded view.header.notify outcome = .borrowing bytes ∧
      (Message.fromSliceExact t bytes).Returns := by
  -- Silence is excluded, so a response was framed or the handler unwound.
  cases served with
  | quiet routed => exact absurd rfl some
  | answered routed framed => exact ⟨_, rfl, (sendable _ routed).returns t framed⟩
  | unwound panics =>
    by_cases zero : view.header.notify = 0
    · exact ⟨_, by simp only [guarded, zero, ne_eq, not_true_eq_false, if_false],
        _, PluginError.frame_parses t .handlerPanicked⟩
    · exact absurd (by simp [guarded, zero, RepeBuffer.empty]) some

/--
A call with a well-formed frame comes back empty exactly if it got as far as a router and the frame
is a notify, as long as serving panics under one of the two flags only.
Every other response is one frame, as long as a handler's message carries the magic and fits memory.
-/
theorem empty_responses_answer_notifies (runtime : PluginRuntime C) (buffer : ResponseBuffer)
    (address : Nat) {frame : Bytes} {view : MessageView}
    (parsed : MessageView.fromSliceExact t frame = .ok view) :
    ((∀ router, Reaches t runtime buffer address frame router → Panics t detached router view →
        view.header.notify = 0 ∨ view.header.notify = 1) →
      ((runtime.call t detached buffer (.pointing address frame)).1.size = 0 ↔
        (∃ router, Reaches t runtime buffer address frame router) ∧ view.header.notify = 1)) ∧
    ((runtime.call t detached buffer (.pointing address frame)).1.size ≠ 0 →
      (∀ router response, Reaches t runtime buffer address frame router →
        routeRequestView detached router view = .ok (some response) →
        Sendable t response view.query) →
      ∃ bytes, (runtime.call t detached buffer (.pointing address frame)).1 = .borrowing bytes ∧
        (Message.fromSliceExact t bytes).Returns) := by
  by_cases reached : ∃ router, Reaches t runtime buffer address frame router
  · -- The router's answer is the response.
    obtain ⟨router, reaches⟩ := reached
    have served := served_callInto t detached router parsed
    rw [call_of_reaches t detached reaches parsed]
    constructor
    · intro flags
      rw [guarded_empty_iff t detached served (flags router reaches)]
      exact ⟨fun notify => ⟨⟨router, reaches⟩, notify⟩, And.right⟩
    · intro some sendable
      exact guarded_frame t detached served (fun response => sendable router response reaches) some
  · -- An error of the runtime answers notifies too.
    obtain ⟨error, response⟩ :=
      call_of_not_reaches t detached (headerSize_le t parsed) (not_exists.mp reached)
    rw [response]
    refine ⟨fun _ => ⟨fun none => absurd none (borrowing_size error.frame_length), ?_⟩, ?_⟩
    · intro notify
      exact absurd notify.1 reached
    · intro _ _
      exact ⟨_, rfl, _, error.frame_parses t⟩

/-- A plugin that serves every path with a handler that does the same on every request. -/
def constantPlugin (result : Unwinding HandlerResult) : PluginRuntime Unit :=
  { new .panic with
    router := some (Router.new.registerFallback
      ⟨fun _ => result, fun _ _ => result, fun _ _ => result, .inline⟩) }

def flaggedRequest (notify : UInt8) : Message :=
  let request := MessageBuilder.build
    { id := 9, query := [47], queryFormat := QueryFormat.jsonPointer.toU16 }
  { request with header := { request.header with notify } }

/-- A notify is answered after the shutdown, and a response without the magic is no frame. -/
theorem plugin_breaks_the_notify_rule :
    ({ constantPlugin .panic with shutdown := true }.call .release64 (fun _ => ()) (.free 1 0)
      (.pointing 64 (flaggedRequest 1).toVec)).1.size ≠ 0 ∧
    ((constantPlugin (.ok (.ok ⟨{ Header.new with spec := 0 }, [], []⟩))).call .release64
      (fun _ => ()) (.free 1 0) (.pointing 64 (flaggedRequest 0).toVec)).1.data.map
      (Message.fromSliceExact .release64) = some (.err (.invalidSpec 0)) := by
  decide +kernel

/-- A notify comes back empty, whether it is served or its handler panics. -/
theorem served_notify_is_empty :
    ((constantPlugin (.ok (.ok (MessageBuilder.build {})))).call .release64 (fun _ => ()) (.free 1 0)
      (.pointing 64 (flaggedRequest 1).toVec)).1.size = 0 ∧
    ((constantPlugin .panic).call .release64 (fun _ => ()) (.free 1 0)
      (.pointing 64 (flaggedRequest 1).toVec)).1.size = 0 := by
  have parsed : MessageView.fromSliceExact .release64 (flaggedRequest 1).toVec
      = .ok ⟨(flaggedRequest 1).header, [47], []⟩ := by decide +kernel
  -- Both runtimes get as far as their router, with the flag of a notify.
  constructor
  · exact ((empty_responses_answer_notifies .release64 (fun _ => ()) _ (.free 1 0) 64 parsed).1
      fun _ _ _ => .inr rfl).mpr ⟨⟨_, rfl, by decide, by decide, .inl rfl, _, _, rfl⟩, rfl⟩
  · exact ((empty_responses_answer_notifies .release64 (fun _ => ()) _ (.free 1 0) 64 parsed).1
      fun _ _ _ => .inr rfl).mpr ⟨⟨_, rfl, by decide, by decide, .inl rfl, _, _, rfl⟩, rfl⟩

end PluginRuntime

end Repe
