/-!
# Resource types

The kinds of objects that a cluster can serve, and those that the checks know by name.
-/

namespace Preflight

structure ResourceType where
  group : String
  version : String
  kind : String
  plural : String
  namespaced : Bool
  deriving DecidableEq, Repr

namespace ResourceType

/-- The group and version as objects state them; the core group is left out. -/
def apiVersion (t : ResourceType) : String :=
  if t.group = "" then t.version else s!"{t.group}/{t.version}"

/-- The plural with version and group. -/
def text (t : ResourceType) : String :=
  if t.group = "" then s!"{t.plural}.{t.version}" else s!"{t.plural}.{t.version}.{t.group}"

def dataScienceCluster : ResourceType :=
  ⟨"datasciencecluster.opendatahub.io", "v1", "DataScienceCluster", "datascienceclusters", false⟩

def dscInitialization : ResourceType :=
  ⟨"dscinitialization.opendatahub.io", "v1", "DSCInitialization", "dscinitializations", false⟩

def subscription : ResourceType :=
  ⟨"operators.coreos.com", "v1alpha1", "Subscription", "subscriptions", true⟩

def clusterServiceVersion : ResourceType :=
  ⟨"operators.coreos.com", "v1alpha1", "ClusterServiceVersion", "clusterserviceversions", true⟩

def rayCluster : ResourceType := ⟨"ray.io", "v1", "RayCluster", "rayclusters", true⟩

def notebook : ResourceType := ⟨"kubeflow.org", "v1", "Notebook", "notebooks", true⟩

def acceleratorProfile : ResourceType :=
  ⟨"dashboard.opendatahub.io", "v1", "AcceleratorProfile", "acceleratorprofiles", true⟩

/-- The types that every cluster of the platform serves. -/
def wellKnown : List ResourceType :=
  [dataScienceCluster, dscInitialization, subscription, clusterServiceVersion, rayCluster,
   notebook, acceleratorProfile]

end ResourceType

end Preflight
