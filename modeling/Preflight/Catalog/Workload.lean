import Preflight.Catalog.Component

/-!
# Checks of workloads

These look at one instance each.  An instance that is affected is referred to in the result.
-/

namespace Preflight.Catalog

/-- The annotation with the number of affected instances. -/
def impactedKey : String := "workload.opendatahub.io/impacted-count"

/-- The finalizer of clusters whose access is controlled by a component that is removed. -/
def accessFinalizer : String := "ray.openshift.ai/oauth-finalizer"

def rayFinalizerDescription : String :=
  "Lists RayClusters managed by CodeFlare that will be impacted in RHOAI 3.x " ++
    "(CodeFlare not available)"

def rayFinding (key : String) (isManaged : Bool) : Finding.Draft :=
  if isManaged then
    Finding.incompatible (s!"RayCluster {key} is managed by CodeFlare ({accessFinalizer}) " ++
      "and will be impacted in RHOAI 3.x - migrate it before upgrading") (some .blocking)
  else Finding.compatible s!"RayCluster {key} is not managed by CodeFlare"

def rayFinalizer : Check where
  kind := "RayCodeFlareFinalizerCheck"
  id := "workloads.ray.codeflare-finalizer"
  name := "Workloads :: Ray :: CodeFlare Managed (3.x)"
  description := rayFinalizerDescription
  category := .known .workload
  resourceTypes := [.rayCluster]
  canApply := appliesToUpgrade
  validate _ target := do
    let m := target.resource.getD ⟨[]⟩
    let r := annotateVersion target
      (Check.newResult .workload rayFinalizerDescription "ray" "codeflare-finalizer")
    let key ← Action.ofExcept m.key
    let finalizers ← Action.ofExcept m.finalizers
    if finalizers.any (·.isText accessFinalizer) then
      let r := r.annotate impactedKey (.text "1")
      let r := r.addImpacted (← Action.ofExcept m.reference)
      return .result (← report r (rayFinding key true))
    else return .result (← report (r.annotate impactedKey (.text "0")) (rayFinding key false))

/-- The annotation of a notebook with the name of its profile. -/
def profileNameKey : String := "opendatahub.io/accelerator-name"

/-- The annotation of a notebook with the namespace of its profile. -/
def profileNamespaceKey : String := "opendatahub.io/accelerator-profile-namespace"

/-- The names of the profiles in a namespace, in all of them if none is given. -/
def profileNames (scope : Document) : List Manifest → Except Fault (List String)
  | [] => .ok []
  | profile :: rest => do
    let isHere ← if scope.isGiven then (profile.namespaceName).map scope.isText else .ok true
    if isHere then return (← profile.name) :: (← profileNames scope rest)
    else profileNames scope rest

def notebookDescription : String :=
  "Validates that Notebooks referencing AcceleratorProfiles point at existing " ++
    "profiles and flags them for migration to HardwareProfiles"

def unusedProfileFinding (key : String) : Finding.Draft :=
  Finding.configured "VersionCompatible" s!"Notebook {key} does not use an AcceleratorProfile"

def profileFinding (key profile : String) (isPresent : Bool) : Finding.Draft :=
  if isPresent then
    Finding.misconfigured "ConfigurationInvalid"
      (s!"Notebook {key} uses AcceleratorProfile '{profile}' - migrate to " ++
        "HardwareProfiles before upgrading") (some .advisory)
  else
    Finding.misconfigured "ResourceNotFound"
      (s!"Notebook {key} references AcceleratorProfile '{profile}' which does not " ++
        "exist - ensure the AcceleratorProfile exists and migrate to HardwareProfiles")
      (some .blocking)

def notebookProfile : Check where
  kind := "NotebookAcceleratorProfileCheck"
  id := "workloads.notebook.accelerator-profile"
  name := "Workloads :: Notebook :: AcceleratorProfile Migration"
  description := notebookDescription
  category := .known .workload
  resourceTypes := [.notebook]
  canApply _ _ := return true
  validate context target := do
    let m := target.resource.getD ⟨[]⟩
    let r := Check.newResult .workload notebookDescription "notebook" "accelerator-profile"
    let key ← Action.ofExcept m.key
    let annotations ← Action.ofExcept m.annotations
    let profile := (Document.field? annotations profileNameKey).getD (.text "")
    if profile.isGiven then
      let r := r.addImpacted (← Action.ofExcept m.reference)
      let scope := (Document.field? annotations profileNamespaceKey).getD (.text "")
      context.raiseIfExpired
      let profiles ← target.reader.listServed .acceleratorProfile
      let names ← Action.ofExcept (profileNames scope profiles)
      let shown ← Action.ofExcept profile.asText
      return .result (← report r (profileFinding key shown (names.any (profile.isText ·))))
    else return .result (← report r (unusedProfileFinding key))

end Preflight.Catalog
