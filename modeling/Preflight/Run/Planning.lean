import Preflight.Run.Incident

/-!
# Planning a run

Planning turns checks into invocations.  A check that does not apply is skipped, and one that judges
workload instances gets an invocation for each instance that its resource types list.  Once the run
is over, planning stops: the check at hand and all that follow are abandoned.

Instances may be listed by another reader than the one that the targets are given.  A run lets a
pool of workers list them, whose reader answers with what is seen of each listing when it is waited
for.
-/

namespace Preflight.Run

structure Invocation where
  check : Check
  target : Target

/-- The instances of a check, unless the run was over before all of them were listed. -/
structure Discovery where
  instances : List Manifest
  incidents : List (String × Fault)
  cutShort : Bool

namespace Discovery

def finished : Discovery := ⟨[], [], false⟩

def stopped : Discovery := ⟨[], [], true⟩

/-- Lists the types one after the other.  A type that is not served has no instances. -/
def ofTypes (context : Context) (reader : Reader) : List ResourceType → StateM Clock Discovery
  | [] => return finished
  | t :: rest => do
    if context.expired (← get).now then return stopped
    match ← (reader.list t).outcome with
    | .ok instances => do
      let later ← ofTypes context reader rest
      return { later with instances := instances ++ later.instances }
    | .error (.typeNotServed _) => ofTypes context reader rest
    | .error (.reported .timeout _) => return stopped
    | .error cause => do
      let later ← ofTypes context reader rest
      return { later with incidents := (t.text, cause) :: later.incidents }

end Discovery

structure Planning where
  invocations : List Invocation
  incidents : List Incident
  skipped : List String
  abandonedChecks : List String

namespace Planning

def empty : Planning := ⟨[], [], [], []⟩

/-- What is left to do when the run is over before these checks were planned. -/
def abandoned (checks : List Check) : Planning := { empty with abandonedChecks := checks.map (·.id) }

def withIncidents (incidents : List Incident) (p : Planning) : Planning :=
  { p with incidents := incidents ++ p.incidents }

def withSkipped (id : String) (p : Planning) : Planning := { p with skipped := id :: p.skipped }

def withInvocations (invocations : List Invocation) (p : Planning) : Planning :=
  { p with invocations := invocations ++ p.invocations }

def listingIncidents (check : Check) (failures : List (String × Fault)) : List Incident :=
  failures.map fun (resourceType, cause) => ⟨check.id, .listing resourceType, cause⟩

/-- Plans the checks in order.  `base` is the target without an instance, and `lister` lists the
instances. -/
def ofChecks (context : Context) (base : Target) (checks : List Check)
    (lister : Reader := base.reader) : StateM Clock Planning :=
  match checks with
  | [] => return empty
  | check :: rest => do
    if context.expired (← get).now then return abandoned (check :: rest)
    match ← (check.canApply base.current base.target).outcome with
    | .error cause => do
      let later ← ofChecks context base rest lister
      return later.withIncidents [⟨check.id, .applicability, cause⟩]
    | .ok false => do
      let later ← ofChecks context base rest lister
      return later.withSkipped check.id
    | .ok true =>
      if check.isIn .workload then do
        let found ← Discovery.ofTypes context lister check.resourceTypes
        let incidents := listingIncidents check found.incidents
        if found.cutShort then return (abandoned (check :: rest)).withIncidents incidents
        let targets := found.instances.map fun m => { base with resource := some m }
        let later ← ofChecks context base rest lister
        return (later.withInvocations (targets.map (⟨check, ·⟩))).withIncidents incidents
      else do
        let later ← ofChecks context base rest lister
        return later.withInvocations [⟨check, base⟩]

end Planning

end Preflight.Run
