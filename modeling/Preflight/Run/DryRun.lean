import Preflight.Run.Incident
import Preflight.Run.Resolve

/-!
# Dry runs

Sorting the selected checks by whether they would run, without running any of them.
-/

namespace Preflight.Run

structure DryRun where
  applicable : List String
  skipped : List String
  failed : List String
  incidents : List Incident

namespace DryRun

def empty : DryRun := ⟨[], [], [], []⟩

/-- Asks each check in turn whether it applies. -/
def ofChecks (current target : Option Version) : List Check → StateM Clock DryRun
  | [] => return empty
  | check :: rest => do
    match ← (check.canApply current target).outcome with
    | .error cause => do
      let later ← ofChecks current target rest
      return { later with
        failed := check.id :: later.failed
        incidents := ⟨check.id, .applicability, cause⟩ :: later.incidents }
    | .ok true => do
      let later ← ofChecks current target rest
      return { later with applicable := check.id :: later.applicable }
    | .ok false => do
      let later ← ofChecks current target rest
      return { later with skipped := check.id :: later.skipped }

end DryRun

/-- Which of the selected checks would run for a pair of versions. -/
def dryRun (r : Registry) (selectors : List String) (filter : Option Category)
    (current target : Option Version) : Action DryRun := do
  let checks ← Action.ofExcept (resolve r selectors filter)
  DryRun.ofChecks current target checks

end Preflight.Run
