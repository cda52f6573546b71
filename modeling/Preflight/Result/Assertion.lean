import Preflight.Fault

/-!
# Assertions

A check asserts conditions one after the other.  The status of an assertion may be given by its
text; a text that spells no status is refused before anything is changed.
-/

namespace Preflight

structure Assertion where
  type : String
  status : StatusLabel
  reason : String
  message : String
  impact : Option Impact

/-- Changes of a result, which may fail on the way; a failure keeps what was changed until then. -/
abbrev Edit := ExceptT Fault (StateM Result)

namespace Assertion

/-- The condition that is asserted at a time; its status has to be one of those that there are. -/
def condition (a : Assertion) (time : Timestamp) : Except Fault Condition :=
  match a.status.spelled? with
  | some status => .ok ⟨a.type, .known status, a.reason, a.message, a.impact, time⟩
  | none => .error (.value (.conditionStatus a.status.text))

/-- Puts the asserted condition in the place of the first one of its type, or at the end. -/
def set (a : Assertion) (time : Timestamp) : Edit Unit := do
  let c ← ExceptT.mk (pure (a.condition time))
  modify fun r => r.setCondition c

end Assertion

end Preflight
