import Preflight.Timestamp

/-!
# Conditions

A condition is one requirement that a check has looked at: whether it is met, why, and what its
violation means for an upgrade.
-/

namespace Preflight

inductive ConditionStatus where
  /-- The requirement is met. -/
  | met
  /-- The requirement is violated. -/
  | violated
  /-- The requirement could not be evaluated. -/
  | undetermined
  deriving DecidableEq, Repr

/-- What a condition has in the place of its status.  A bare text is compared like the status that
it spells, but makes the condition invalid. -/
inductive StatusLabel where
  | known (status : ConditionStatus)
  | bare (text : String)
  deriving DecidableEq, Repr

/-- What a violated requirement means for an upgrade. -/
inductive Impact where
  | blocking
  | advisory
  | none
  deriving DecidableEq, Repr

structure Condition where
  type : String
  status : StatusLabel
  reason : String
  message : String
  impact : Option Impact
  time : Timestamp
  deriving DecidableEq, Repr

namespace ConditionStatus

def name : ConditionStatus → String
  | met => "True"
  | violated => "False"
  | undetermined => "Unknown"

def ofName? (s : String) : Option ConditionStatus :=
  [met, violated, undetermined].find? (·.name = s)

end ConditionStatus

namespace StatusLabel

def text : StatusLabel → String
  | known status => status.name
  | bare text => text

/-- The status that the label spells. -/
def spelled? : StatusLabel → Option ConditionStatus
  | known status => some status
  | bare text => ConditionStatus.ofName? text

/-- Whether the label spells the given status. -/
def spells (label : StatusLabel) (status : ConditionStatus) : Bool := label.spelled? == some status

end StatusLabel

namespace Impact

def name : Impact → String
  | blocking => "blocking"
  | advisory => "advisory"
  | none => "none"

def ofName? (s : String) : Option Impact :=
  [blocking, advisory, none].find? (·.name = s)

end Impact

end Preflight
