import Preflight.Run.Incident
import Preflight.Severity

/-!
# Reports

The outcome of a run: the results that were collected, the incidents, and whether the run was cut
short.
-/

namespace Preflight

/-- A collected result.  The sequence is the position of its invocation in the run. -/
structure Execution where
  checkId : String
  category : Category
  sequence : Nat
  result : Result

structure Report where
  executions : List Execution
  incidents : List Run.Incident
  skipped : List String
  incomplete : Bool
  abandoned : Nat
  abandonedChecks : List String
  current : Option Version
  target : Option Version
  durationMs : Int

namespace Execution

def severity (e : Execution) : Option Severity := Severity.ofConditions e.result.conditions

def verdict (e : Execution) : Option Verdict := Verdict.ofConditions e.result.conditions

end Execution

namespace Report

def inCategory (r : Report) (category : Category) : List Execution :=
  r.executions.filter (·.category == category)

/-- The executions by category in display order, in the order of the run within each of them. -/
def ordered (r : Report) : List Execution := Category.displayOrder.flatMap r.inCategory

/-- The executions that a threshold leaves, in the order given. -/
def shown (minimum : MinimumSeverity) (executions : List Execution) : List Execution :=
  executions.filter fun e => minimum.includes e.severity

def hasSeverity (r : Report) (severity : Severity) : Bool :=
  r.executions.any (·.severity == some severity)

end Report

end Preflight
