import Preflight.Manifest.Basic
import Preflight.Text.Lowercase
import Preflight.Text.Split

/-!
# Snapshots

A snapshot is a list of cluster objects with the types that the cluster serves.  Unless the served
types are given, they are the well-known ones and a type for each further kind of object.
-/

namespace Preflight

structure Snapshot where
  served : List ResourceType
  objects : List Manifest

namespace Snapshot

instance : Inhabited Snapshot := ⟨⟨[], []⟩⟩

/-- The group and the version of an API version; the group ends at the last slash. -/
def splitApiVersion (s : String) : String × String :=
  match Text.splitLast? '/' s.toList with
  | some (group, version) => (String.ofList group, String.ofList version)
  | none => ("", s)

/-- The type of an object as far as it can be told from the object. -/
def inferType (m : Manifest) : Except Fault ResourceType := do
  let (group, version) := splitApiVersion (← m.fieldText "apiVersion")
  let kind ← m.fieldText "kind"
  let scope ← m.namespaceName
  return ⟨group, version, kind, Text.lower kind ++ "s", scope != ""⟩

/-- A mapping that states its version and kind. -/
def manifest? (d : Document) : Option Manifest :=
  match d.entries? with
  | some entries =>
    let m : Manifest := ⟨entries⟩
    if (m.field? "apiVersion").isSome && (m.field? "kind").isSome then some m else none
  | none => none

/-- Adds an object, and its type if the served types are open and none of them covers it. -/
def add (openTypes : Bool) (s : Snapshot) (d : Document) : Except Fault Snapshot :=
  match manifest? d with
  | none => .error (.config .notAnObject)
  | some m =>
    if openTypes && !s.served.any (·.covers m) then do
      return ⟨s.served ++ [← inferType m], s.objects ++ [m]⟩
    else .ok ⟨s.served, s.objects ++ [m]⟩

def addAll (openTypes : Bool) (s : Snapshot) : List Document → Except Fault Snapshot
  | [] => .ok s
  | d :: rest =>
    match s.add openTypes d with
    | .error fault => .error fault
    | .ok s => s.addAll openTypes rest

/-- The snapshot of a list of objects. -/
def ofDocuments (objects : List Document) (served : Option (List ResourceType)) :
    Except Fault Snapshot :=
  match served with
  | some types => addAll false ⟨types, []⟩ objects
  | none => addAll true ⟨ResourceType.wellKnown, []⟩ objects

/-- The snapshot without objects. -/
def empty : Snapshot := ⟨ResourceType.wellKnown, []⟩

/-- Every object of a served type, in order. -/
def list (s : Snapshot) (t : ResourceType) : Except Fault (List Manifest) :=
  if s.served.contains t then .ok (s.objects.filter (t.covers ·))
  else .error (.typeNotServed t.text)

/-- The first of the objects with this type, name and, if one is asked for, namespace. -/
def find? (t : ResourceType) (name : String) (scope : Option String) :
    List Manifest → Except Fault (Option Manifest)
  | [] => .ok none
  | m :: rest =>
    if t.covers m then do
      if (← m.name) = name then
        match scope with
        | none => return some m
        | some wanted => if (← m.namespaceName) = wanted then return some m else find? t name scope rest
      else find? t name scope rest
    else find? t name scope rest

def get (s : Snapshot) (t : ResourceType) (name : String) (scope : Option String) :
    Except Fault Manifest :=
  if s.served.contains t then do
    match ← find? t name scope s.objects with
    | some m => return m
    | none => throw (.notFound t.text name scope)
  else .error (.typeNotServed t.text)

end Snapshot

end Preflight
