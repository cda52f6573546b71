import Preflight.Check.Basic
import Preflight.Manifest.Path

/-!
# Checks of components and services

Components that the next major release removes must not be managed by the platform any more.  Their
state stands in the one object of a type that the whole cluster shares.
-/

namespace Preflight.Catalog

/-- The annotation with the version that a finding is about. -/
def versionKey : String := "check.opendatahub.io/target-version"

/-- The annotation with the state of a component. -/
def stateKey : String := "component.opendatahub.io/management-state"

/-- The state of a component that the platform looks after. -/
def managed : String := "Managed"

/-- Applies to upgrades from the second major release to a later one. -/
def appliesToUpgrade (current target : Option Version) : Action Bool :=
  return Version.isMajorUpgrade current target 2 3

/-- The one object of a type, none if there is no such object. -/
def singleton? (reader : Reader) (t : ResourceType) : Action (Option Manifest) :=
  tryCatch (return some (← reader.singleton t)) fun
    | .notFound .. => return none
    | fault => throw fault

def annotateVersion (target : Target) (r : Result) : Result :=
  match target.version with
  | some version => r.annotate versionKey (.text version.render)
  | none => r

def annotateState (state : String) (r : Result) : Result := r.annotate stateKey (.text state)

/-- Puts a finding into a result at the present time. -/
def report (r : Result) (draft : Finding.Draft) : Action Result :=
  return r.setCondition (draft.at (← Action.stamp))

/-! ## Findings about a state -/

def kueueFinding (state : String) : Finding.Draft :=
  if state = managed then
    Finding.incompatible (s!"Kueue is managed by OpenShift AI (state: {state}) but will be removed " ++
      "in RHOAI 3.x - migrate to RHBOK operator") (some .blocking)
  else
    Finding.compatible s!"Kueue configuration (state: {state}) is compatible with RHOAI 3.x"

def serviceMeshFinding (state : String) : Finding.Draft :=
  if state = managed then
    Finding.incompatible (s!"ServiceMesh is managed by OpenShift AI (state: {state}) but will be " ++
      "removed in RHOAI 3.x - set it to Removed before upgrading") (some .blocking)
  else
    Finding.compatible s!"ServiceMesh configuration (state: {state}) is compatible with RHOAI 3.x"

def codeFlareFinding (state : Option String) : Finding.Draft :=
  let shown := state.getD "not configured"
  if state = some managed then
    Finding.incompatible (s!"CodeFlare is enabled (state: {managed}) but will be removed in " ++
      "RHOAI 3.x - set it to Removed and migrate RayClusters to KubeRay") (some .blocking)
  else
    Finding.configured "RequirementsMet"
      s!"CodeFlare is not managed (state: {shown}) - ready for RHOAI 3.x"

/-! ## The checks -/

/-- Judges a block whose state has to be configured. -/
def judgeBlock (r : Result) (target : Target) (m : Manifest) (path : String)
    (unconfigured : Finding.Draft) (finding : String → Finding.Draft) : Action Returned := do
  match ← Action.ofExcept (m.document.managementState path) with
  | none => return .result (← report r unconfigured)
  | some state =>
    return .result (← report (annotateVersion target (annotateState state r)) (finding state))

def kueueDescription : String :=
  "Validates that Kueue managed option is not used before upgrading from " ++
    "RHOAI 2.x to 3.x (managed option will be removed)"

def kueue : Check where
  kind := "KueueManagedRemovalCheck"
  id := "components.kueue.managed-removal"
  name := "Components :: Kueue :: Managed Removal (3.x)"
  description := kueueDescription
  category := .known .component
  resourceTypes := []
  canApply := appliesToUpgrade
  validate _ target := do
    let r := Check.newResult .component kueueDescription "kueue" "managed-removal"
    match ← singleton? target.reader .dataScienceCluster with
    | none => return .result (← report r Finding.clusterNotFound)
    | some m =>
      judgeBlock r target m "spec.components.kueue" (Finding.componentNotConfigured "Kueue")
        kueueFinding

def codeFlareDescription : String :=
  "Validates that CodeFlare is disabled before upgrading from RHOAI 2.x to 3.x " ++
    "(component will be removed)"

def codeFlare : Check where
  kind := "CodeFlareRemovalCheck"
  id := "components.codeflare.removal"
  name := "Components :: CodeFlare :: Removal (3.x)"
  description := codeFlareDescription
  category := .known .component
  resourceTypes := []
  canApply := appliesToUpgrade
  validate _ target := do
    let r := Check.newResult .component codeFlareDescription "codeflare" "removal"
    match ← singleton? target.reader .dataScienceCluster with
    | none => return .result (← report r Finding.clusterNotFound)
    | some m => do
      let state ← Action.ofExcept (m.document.managementState "spec.components.codeflare")
      let r := annotateVersion target r
      let r := match state with
        | some state => annotateState state r
        | none => r
      return .result (← report r (codeFlareFinding state))

def serviceMeshDescription : String :=
  "Validates that ServiceMesh is not managed by the platform before upgrading " ++
    "from RHOAI 2.x to 3.x (service will be removed)"

def serviceMesh : Check where
  kind := "ServiceMeshRemovalCheck"
  id := "services.servicemesh.removal"
  name := "Services :: ServiceMesh :: Removal (3.x)"
  description := serviceMeshDescription
  category := .known .service
  resourceTypes := []
  canApply := appliesToUpgrade
  validate _ target := do
    let r := Check.newResult .service serviceMeshDescription "servicemesh" "removal"
    match ← singleton? target.reader .dscInitialization with
    | none => return .result (← report r Finding.initializationNotFound)
    | some m =>
      judgeBlock r target m "spec.serviceMesh" (Finding.serviceNotConfigured "ServiceMesh")
        serviceMeshFinding

end Preflight.Catalog
