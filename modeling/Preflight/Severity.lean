import Preflight.Condition
import Preflight.Text.Blank
import Preflight.Text.Lowercase

/-!
# Severity

The severity of a list of conditions is that of its worst member, whatever the order: a violated
requirement is critical, an undetermined one a warning, and a list of met requirements is
informational.  The empty list has no severity.
-/

namespace Preflight

inductive Severity where
  | info
  | warning
  | critical
  deriving DecidableEq, Repr

/-- The label of a whole result, one for each severity. -/
inductive Verdict where
  | pass
  | fail
  | error
  deriving DecidableEq, Repr

/-- The least severity that is displayed. -/
inductive MinimumSeverity where
  | all
  | info
  | warning
  | critical
  deriving DecidableEq, Repr

namespace Severity

def name : Severity → String
  | info => "info"
  | warning => "warning"
  | critical => "critical"

def rank : Severity → Nat
  | info => 0
  | warning => 1
  | critical => 2

def ofConditions (conditions : List Condition) : Option Severity :=
  if conditions.isEmpty then none
  else if conditions.any (·.status.spells .violated) then some critical
  else if conditions.any (·.status.spells .undetermined) then some warning
  else some info

def verdict : Severity → Verdict
  | critical => .fail
  | warning => .error
  | info => .pass

end Severity

namespace Verdict

def name : Verdict → String
  | pass => "Pass"
  | fail => "Fail"
  | error => "Error"

def ofConditions (conditions : List Condition) : Option Verdict :=
  (Severity.ofConditions conditions).map Severity.verdict

end Verdict

namespace MinimumSeverity

def name : MinimumSeverity → String
  | all => ""
  | info => "info"
  | warning => "warning"
  | critical => "critical"

/-- The severity that the threshold names, if it leaves anything out. -/
def threshold? : MinimumSeverity → Option Severity
  | all => none
  | info => none
  | warning => some .warning
  | critical => some .critical

/-- Whether a finding of this severity is displayed. -/
def includes (minimum : MinimumSeverity) (severity : Option Severity) : Bool :=
  match minimum.threshold?, severity with
  | none, _ => true
  | some _, none => false
  | some least, some found => decide (least.rank ≤ found.rank)

/-- How a threshold is compared with names: without the blanks around it and in lower case. -/
def normalize (s : String) : String := Text.lower (Text.strip s)

/-- Reads a threshold; the empty text and the word for all of them filter nothing. -/
def parse? (s : String) : Option MinimumSeverity :=
  let word := normalize s
  if word = "" || word = "all" then some all
  else [info, warning, critical].find? (·.name = word)

end MinimumSeverity

end Preflight
