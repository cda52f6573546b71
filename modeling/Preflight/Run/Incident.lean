import Preflight.Check.Basic

/-!
# Incidents

A failure of a check that a run has recorded, with the stage in which it happened.
-/

namespace Preflight.Run

inductive Stage where
  /-- While it was decided whether the check applies. -/
  | applicability
  /-- While the instances of a resource type were listed. -/
  | listing (resourceType : String)
  /-- While the check looked at a target, or in the result that it returned. -/
  | invocation (resource : Option String)
  deriving DecidableEq, Repr

structure Incident where
  checkId : String
  stage : Stage
  cause : Fault
  deriving Repr

namespace Incident

/-- The incident as a failure of its own. -/
def fault (incident : Incident) : Fault :=
  match incident.stage with
  | .applicability => .applicability incident.checkId incident.cause
  | .listing resourceType => .invocation incident.checkId incident.cause (some resourceType)
  | .invocation resource => .invocation incident.checkId incident.cause resource

def message (incident : Incident) : String := incident.fault.message

/-- What is logged when the incident happens. -/
def warning (incident : Incident) : String :=
  match incident.stage with
  | .listing resourceType =>
    s!"Failed to list {resourceType} for {incident.checkId}: {incident.cause.message}"
  | _ => incident.message

end Incident

end Preflight.Run
