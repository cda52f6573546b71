import Preflight.Catalog.Dependency
import Preflight.Catalog.Workload
import Preflight.Registry.Basic

/-!
# The catalogue

Every check that comes with the program, in the order in which they are registered.
-/

namespace Preflight.Catalog

def checks : List Check :=
  [kueue, codeFlare, serviceMesh, certManager, rayFinalizer, notebookProfile]

/-- The registry of all of them. -/
def registry : Except Fault Registry := Registry.ofChecks checks

end Preflight.Catalog
