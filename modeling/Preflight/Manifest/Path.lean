import Preflight.Document.Basic
import Preflight.Fault
import Preflight.Text.Split

/-!
# Paths into documents

A path names a nested value by the keys that lead to it, joined by points.  It resolves when every
key is found in a mapping.
-/

namespace Preflight.Document

/-- The value that the keys lead to. -/
def follow (d : Document) : List String → Option Document
  | [] => some d
  | key :: keys =>
    match d.get? key with
    | none => none
    | some value => value.follow keys

/-- The value at a dotted path. -/
def lookup (d : Document) (path : String) : Option Document :=
  d.follow (Text.splitText '.' path)

/-- The management state of the block at a path: nothing when it is absent or empty. -/
def managementState (d : Document) (path : String) : Except Fault (Option String) :=
  match d.lookup s!"{path}.managementState" with
  | none => .ok none
  | some .null => .ok none
  | some (.text state) => .ok (if state = "" then none else some state)
  | some other => .error (.value (.stateNotText path other.kindName))

end Preflight.Document
