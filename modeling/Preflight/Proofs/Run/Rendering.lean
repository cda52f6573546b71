import Preflight.Proofs.Report.Entry
import Preflight.Proofs.Run.History
import Preflight.Proofs.Run.Waiting

/-!
# Runs that can be rendered

A run collects accepted results only, whatever pool it leaves its invocations to, and an accepted
result has a severity and fits into a table.  Of what a result may hold in the place of a text,
accepting it leaves out the values of its annotations: one that is not a text goes into the report,
and then the report has no structured form.
-/

namespace Preflight.Run

open Preflight.Action

namespace Attempt

end Attempt

/-- A check whose results have one annotation, with a value of any kind. -/
def annotator (value : Document) : Check :=
  { reporter .runtime with validate := fun _ _ => pure (.result (.single value .met)) }

theorem Attempt.accept_single (value : Document) (status : ConditionStatus) :
    accept (.result (.single value status)) = .ok (.single value status) := by
  rw [accept, Result.validate_eq_ok_iff.2 (Result.wellFormed_single value status)]

end Preflight.Run
