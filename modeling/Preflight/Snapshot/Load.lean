import Preflight.Files
import Preflight.Json.Reader
import Preflight.Snapshot.Basic
import Preflight.Snapshot.Flatten
import Preflight.Yaml.Read

/-!
# Loading snapshots

A dump is a JSON text if its name says so, and otherwise a YAML text with any number of documents.
-/

namespace Preflight.Snapshot

/-- How deeply an object of a JSON text may be nested.  This stands for the recursion limit of the
interpreter that the program runs in: so many levels can be copied before it gives up. -/
def deepest : Nat := 490

/-- Whether a value is nested in more levels than are left. -/
def exceeds (levels : Nat) (d : Document) : Bool := levels < d.depth

/-- The snapshot of objects of which none is nested too deeply. -/
def ofShallow (objects : List Document) : Except Fault Snapshot := do
  let front := objects.takeWhile fun d => !exceeds deepest d
  let found ← ofDocuments front none
  match objects.drop front.length with
  | [] => return found
  | deep :: _ => throw (if (manifest? deep).isSome then .tooDeep else .config .notAnObject)

/-- A dump that cannot be read. -/
def faultOf (path : Path) : Flaw → Fault
  | .malformed => .config (.unparsableSnapshot path.text)
  | .unusable fault => fault

/-- The snapshot that the text of a dump writes. -/
def ofText (path : Path) (text : String) : Except Fault Snapshot := do
  if path.suffix = ".json" then
    let document ← (Json.read text).mapError (faultOf path)
    ofShallow (← objectsOf [document])
  else
    let documents ← (Yaml.readAll text).mapError (faultOf path)
    ofDocuments (← objectsOf documents) none

/-- The snapshot of a dump. -/
def load (files : Files) (path : Path) : Except Fault Snapshot := do
  match ← files.entryAt path with
  | none => throw (.config (.snapshotNotFound path.text))
  | some .directory => throw (.isDirectory path.text)
  | some (.file content) => ofText path (Files.textOf content)

end Preflight.Snapshot
