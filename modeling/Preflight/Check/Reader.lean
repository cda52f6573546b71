import Preflight.Action
import Preflight.Snapshot.Basic

/-!
# Readers

What a check may ask of a cluster: the objects of a type, and one object by its name.
-/

namespace Preflight

structure Reader where
  list : ResourceType → Action (List Manifest)
  get : ResourceType → String → Option String → Action Manifest

namespace Reader

/-- The reader of a fixed snapshot. -/
def ofSnapshot (s : Snapshot) : Reader where
  list t := Action.ofExcept (s.list t)
  get t name scope := Action.ofExcept (s.get t name scope)

/-- The objects of a type, none if the cluster does not serve it. -/
def listServed (reader : Reader) (t : ResourceType) : Action (List Manifest) :=
  tryCatch (reader.list t) fun
    | .typeNotServed _ => return []
    | fault => throw fault

/-- The first object of a type that has one object for the whole cluster.  If there are more, it has
to have a name to tell it by. -/
def singleton (reader : Reader) (t : ResourceType) : Action Manifest := do
  match ← reader.listServed t with
  | [] => throw (.notFound t.text "<singleton>" none)
  | [m] => return m
  | m :: _ => do
    discard (Action.ofExcept m.name)
    return m

end Reader

end Preflight
