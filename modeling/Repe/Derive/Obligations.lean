import Repe.Derive.DispatchLaws

/-! What the trait asks of an implementation in its documentation, and that the one for an optional
child gives what it gets. -/

namespace Repe.Derive

variable {S : Type}

namespace RepeStruct

/-- The documented obligations of an implementation that overrides the shared attempt. -/
structure Obliged (served : RepeStruct S) : Prop where
  declines : ∀ s segments body out, (served.repeSharedInto s segments body out).returned = none →
    (served.repeSharedInto s segments body out).out = out
  answers : ∀ s segments body out result,
    (served.repeSharedInto s segments body out).returned = some result →
      (served.repeHandleInto s segments body out).2.returned = result ∧
        (served.repeHandleInto s segments body out).2.out
          = (served.repeSharedInto s segments body out).out
  listing : ∀ s out, served.repeListingDeclines s = false →
    (served.repeSharedInto s [] none out).returned.isSome

/-- What the shared attempt answers, the exclusive dispatch answers without a change to the struct. -/
def Unmoved (served : RepeStruct S) : Prop :=
  ∀ s segments body out, (served.repeSharedInto s segments body out).returned.isSome →
    (served.repeHandleInto s segments body out).1 = s

section Optional

variable (structio : Structio) {inner : RepeStruct S} {segments : List Path}
  {body : Option RequestBody} {out : ResponseBody}

theorem optional_refuses (refused : presenceWrite structio segments body = true) (s : Option S) :
    (inner.optional structio).repeSharedInto s segments body out
        = ⟨out, [], some (.err (.bodyUnexpected (pathFromSegments segments)))⟩ ∧
      (inner.optional structio).repeHandleInto s segments body out
        = (s, ⟨out, [], .err (.bodyUnexpected (pathFromSegments segments))⟩) := by
  simp only [optional, refused, if_true, and_self]

theorem optional_present (accepted : presenceWrite structio segments body = false) (value : S) :
    (inner.optional structio).repeSharedInto (some value) segments body out
        = inner.repeSharedInto value segments body out ∧
      (inner.optional structio).repeHandleInto (some value) segments body out
        = (inner.repeHandleInto value segments body out).map some id := by
  simp only [optional, accepted, Bool.false_eq_true, if_false, Prod.map, id, and_self]

theorem optional_absent (accepted : presenceWrite structio segments body = false) :
    (inner.optional structio).repeSharedInto none segments body out
        = ⟨(absentReply structio segments body out).out, (absentReply structio segments body out).calls,
            some (absentReply structio segments body out).returned⟩ ∧
      (inner.optional structio).repeHandleInto none segments body out
        = (none, absentReply structio segments body out) := by
  simp only [optional, accepted, Bool.false_eq_true, if_false, and_self]

/--
An implementation for an optional child meets the obligations if the child's does, and no request
makes a child come or go.
-/
theorem optional_meets_obligations (obliged : inner.Obliged) :
    (inner.optional structio).Obliged ∧
      ∀ s segments body out,
        ((inner.optional structio).repeHandleInto s segments body out).1.isSome = s.isSome := by
  refine ⟨⟨?_, ?_, ?_⟩, ?_⟩
  · intro s segments body out declined
    cases refused : presenceWrite structio segments body with
    | true => simp [optional_refuses structio refused] at declined
    | false =>
      cases s with
      | none => simp [optional_absent structio refused] at declined
      | some value =>
        -- Only a child that is there can decline.
        rw [(optional_present structio refused value).1] at declined ⊢
        exact obliged.declines value segments body out declined
  · intro s segments body out result answered
    cases refused : presenceWrite structio segments body with
    | true =>
      rw [(optional_refuses structio refused s).1] at answered ⊢
      rw [(optional_refuses structio refused s).2]
      exact ⟨Option.some.inj answered, rfl⟩
    | false =>
      cases s with
      | none =>
        rw [(optional_absent structio refused).1] at answered ⊢
        rw [(optional_absent structio refused).2]
        exact ⟨Option.some.inj answered, rfl⟩
      | some value =>
        rw [(optional_present structio refused value).1] at answered ⊢
        rw [(optional_present structio refused value).2]
        exact obliged.answers value segments body out result answered
  · intro s out answers
    cases s with
    -- The own path of an absent child is answered with a null.
    | none => rfl
    | some value => exact obliged.listing value out answers
  · intro s segments body out
    cases refused : presenceWrite structio segments body with
    | true => rw [(optional_refuses structio refused s).2]
    | false =>
      cases s with
      | none => rw [(optional_absent structio refused).2]
      | some value => rw [(optional_present structio refused value).2]; rfl

end Optional

/-- A number that is read under either borrow, and written under the exclusive one only. -/
def gauge : RepeStruct Nat where
  repeHandleInto s _ body out := match body with
    | none => (s, ⟨out.write byteWriter s, [], .ok ()⟩)
    | some body => (body.bytes.length, ⟨out.writeNull jsonBeve, [], .ok ()⟩)
  repeSharedInto s _ body out := match body with
    | none => ⟨out.write byteWriter s, [], some (.ok ())⟩
    | some _ => ⟨out, [], none⟩
  repeListingDeclines _ := false
  repeSharedServesBodies := false
  handle_after front s segments body out := by
    cases body with
    | none => simp only [ResponseBody.write_after]; rfl
    | some body => simp only [ResponseBody.writeNull_after]; rfl
  shared_after front s segments body out := by
    cases body with
    | none => simp only [ResponseBody.write_after]; rfl
    | some body => rfl

/-- A gauge answers a read under either borrow, and declines a write under the shared one. -/
theorem gauge_obliged : gauge.Obliged := by
  refine ⟨?_, ?_, fun s out _ => rfl⟩
  · -- A read is answered, so it is a write that was declined.
    intro s segments body out declined
    cases body with
    | none => cases declined
    | some body => rfl
  · intro s segments body out result answered
    cases body with
    | none => exact ⟨Option.some.inj answered, rfl⟩
    | some body => cases answered

theorem gauge_unmoved : gauge.Unmoved := by
  intro s segments body out answered
  -- Reads move nothing, and a write is not answered.
  cases body with
  | none => rfl
  | some body => cases answered

/-- A gauge that may be absent: a body sets one that is there, and does not bring in another. -/
theorem optional_gauge_meets_obligations :
    let written : Option Nat → Option Nat := fun s =>
      ((gauge.optional jsonBeve).repeHandleInto s [] (some ⟨[1, 2], .beve⟩)
        (.withFormat [] .beve)).1
    gauge.Obliged ∧ (gauge.optional jsonBeve).Obliged ∧
      (written (some 9)).isSome = true ∧ (written none).isSome = false := by
  obtain ⟨obliged, present⟩ := optional_meets_obligations jsonBeve gauge_obliged
  exact ⟨gauge_obliged, obliged, present _ _ _ _, present _ _ _ _⟩

end RepeStruct

end Repe.Derive
