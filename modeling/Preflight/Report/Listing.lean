import Preflight.Report.Basic
import Preflight.Report.Entry

/-!
# Structured reports

The list of results as a document: the versions of the run and an entry for each result that is
shown.  Both structured formats print this one document.
-/

namespace Preflight

structure Listing where
  clusterVersion : Option String
  targetVersion : Option String
  items : List ResultEntry
  deriving DecidableEq, Repr

namespace Listing

/-- The kind of the document. -/
def kind : String := "DiagnosticResultList"

def outline (l : Listing) : Outline :=
  .fields [
    ("kind", .text kind),
    ("metadata", .fields (optionalText "clusterVersion" l.clusterVersion ++
      optionalText "targetVersion" l.targetVersion)),
    ("items", .list (l.items.map ResultEntry.outline))]

end Listing

namespace Report

/-- The executions of a report that a threshold leaves, in display order. -/
def displayed (r : Report) (minimum : MinimumSeverity) : List Execution := shown minimum r.ordered

def listing (r : Report) (minimum : MinimumSeverity) : Except Fault Listing := do
  let items ← (r.displayed minimum).mapM fun e => e.result.entry
  return ⟨r.current.map Version.render, r.target.map Version.render, items⟩

end Report

end Preflight
