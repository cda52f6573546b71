import Preflight.Result.Basic

/-!
# Standard findings

The words that conditions use, and the findings that several checks share.  Every finding is put
under its condition type, so that a later one of the same type replaces it.
-/

namespace Preflight.Finding

/-- What is needed of a condition besides its time. -/
structure Draft where
  type : String
  status : ConditionStatus
  reason : String
  message : String
  impact : Option Impact
  deriving DecidableEq, Repr

def Draft.at (draft : Draft) (time : Timestamp) : Condition :=
  ⟨draft.type, .known draft.status, draft.reason, draft.message, draft.impact, time⟩

def compatible (message : String) : Draft :=
  ⟨"Compatible", .met, "VersionCompatible", message, none⟩

def incompatible (message : String) (impact : Option Impact) : Draft :=
  ⟨"Compatible", .violated, "VersionIncompatible", message, impact⟩

def available (message : String) : Draft :=
  ⟨"Available", .met, "ResourceFound", message, none⟩

def unavailable (message : String) : Draft :=
  ⟨"Available", .violated, "ResourceNotFound", message, none⟩

def configured (reason message : String) : Draft :=
  ⟨"Configured", .met, reason, message, none⟩

def misconfigured (reason message : String) (impact : Option Impact) : Draft :=
  ⟨"Configured", .violated, reason, message, impact⟩

def componentNotConfigured (component : String) : Draft :=
  misconfigured "ResourceNotFound"
    s!"{component} component is not configured in DataScienceCluster" none

def serviceNotConfigured (service : String) : Draft :=
  misconfigured "ResourceNotFound" s!"{service} is not configured in DSCInitialization" none

def clusterNotFound : Draft := unavailable "No DataScienceCluster found"

def initializationNotFound : Draft := unavailable "No DSCInitialization found"

end Preflight.Finding
