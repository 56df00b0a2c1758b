import Repe.Io.Write
import Repe.Wire.MessageLaws

/-! The four ways a message becomes wire bytes, and the move inside the body's own allocation. -/

namespace Repe

namespace Message

theorem writeTo_flatten (message : Message) : message.writeTo.flatten = message.toVec := by
  rw [Message.writeTo, Message.toVec_eq]
  -- An empty part leaves no trace in either.
  cases query : message.query <;> cases body : message.body <;> simp

end Message

theorem shiftBody_eq_movedBack {buf : Bytes} {bodyLen prefixLen : Nat}
    (inside : prefixLen + bodyLen ≤ buf.length) :
    shiftBody buf bodyLen prefixLen = .ok (movedBack buf prefixLen bodyLen bodyLen) := by
  rw [shiftBody]
  split
  · rw [copyWithin, if_pos ⟨by omega, inside⟩, movedBack_total inside]
  · -- An empty body is not moved, and no byte of it is.
    have empty : bodyLen = 0 := by omega
    rw [empty, movedBack]

variable (t : Target)

end Repe
