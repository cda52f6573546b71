import Preflight.Yaml.Grammar
import Preflight.Yaml.Unfold

/-!
# Reading YAML

A YAML text as documents.
-/

namespace Preflight.Yaml

/-- The document that a graph writes. -/
def DocumentGraph.document (g : DocumentGraph) : Except Flaw Document := g.nodes.document g.root

/-- The documents of a text; those in front of a flaw are built before it is reported. -/
def readAll (s : String) : Except Flaw (List Document) := do
  let stream := DocumentStream.ofString s
  let documents ← stream.graphs.mapM DocumentGraph.document
  match stream.flaw with
  | some flaw => throw flaw
  | none => return documents

/-- The only document of a text, empty for a text without documents. -/
def readSingle (s : String) : Except Flaw Document := do
  match ← Parse.onlyDocument.run' (Reading.ofString s) with
  | some graph => graph.document
  | none => return .null

end Preflight.Yaml
