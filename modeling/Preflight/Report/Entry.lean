import Preflight.Fault
import Preflight.Outline

/-!
# Entries of structured reports

The part of a structured report that one result becomes.  Fields without a value are absent, and so
are empty lists of annotations and of impacted objects.
-/

namespace Preflight

structure ConditionEntry where
  type : String
  status : String
  reason : String
  message : String
  time : String
  impact : Option String
  deriving DecidableEq, Repr

structure ReferenceEntry where
  apiVersion : Option String
  kind : String
  namespaceName : Option String
  name : String
  deriving DecidableEq, Repr

structure ResultEntry where
  group : String
  kind : String
  name : String
  annotations : Option (List (String × String))
  description : String
  conditions : List ConditionEntry
  impacted : Option (List ReferenceEntry)
  deriving DecidableEq, Repr

/-- A text that is empty counts as absent. -/
def nonemptyText (s : String) : Option String := if s = "" then none else some s

/-- A list that is empty counts as absent. -/
def nonemptyList {α : Type} (items : List α) : Option (List α) :=
  if items.isEmpty then none else some items

namespace Condition

/-- The entry of a condition, which has to have a proper status. -/
def entry (c : Condition) : Except Fault ConditionEntry :=
  match c.status with
  | .known status =>
    .ok ⟨c.type, status.name, c.reason, c.message, c.time.inDocument, c.impact.map Impact.name⟩
  | .bare _ => .error (.noField "str" "value")

end Condition

namespace ObjectReference

def entry (o : ObjectReference) : ReferenceEntry :=
  ⟨nonemptyText o.apiVersion, o.kind, nonemptyText o.namespaceName, o.name⟩

end ObjectReference

/-- The text that a value is, or that its bytes encode. -/
def Document.encodedText? : Document → Option String
  | text s => some s
  | bytes content => String.fromUTF8? (ByteArray.mk content.toArray)
  | _ => none

namespace Result

/-- An annotation, whose value has to be a text or to encode one. -/
def annotationText : String × Document → Except Fault (String × String)
  | (key, value) =>
    match value.encodedText? with
    | some s => .ok (key, s)
    | none => .error (.annotationNotText key)

def entry (r : Result) : Except Fault ResultEntry := do
  let annotations ← r.annotations.mapM annotationText
  let conditions ← r.conditions.mapM Condition.entry
  return ⟨r.group, r.kind, r.name, nonemptyList annotations, r.description, conditions,
    nonemptyList (r.impacted.map ObjectReference.entry)⟩

end Result

/-- A field of an outline, left out without a value. -/
def optionalField (name : String) (value : Option Outline) : List (String × Outline) :=
  match value with
  | none => []
  | some value => [(name, value)]

def optionalText (name : String) (value : Option String) : List (String × Outline) :=
  optionalField name (value.map Outline.text)

namespace ConditionEntry

def outline (c : ConditionEntry) : Outline :=
  .fields ([("type", .text c.type), ("status", .text c.status), ("reason", .text c.reason),
    ("message", .text c.message), ("lastTransitionTime", .text c.time)] ++
    optionalText "impact" c.impact)

end ConditionEntry

namespace ReferenceEntry

def outline (o : ReferenceEntry) : Outline :=
  .fields (optionalText "apiVersion" o.apiVersion ++ [("kind", .text o.kind)] ++
    optionalText "namespace" o.namespaceName ++ [("name", .text o.name)])

end ReferenceEntry

namespace ResultEntry

def annotationOutline (annotations : List (String × String)) : Outline :=
  .fields (annotations.map fun (key, value) => (key, .text value))

def outline (r : ResultEntry) : Outline :=
  .fields ([
    ("metadata", .fields ([("group", .text r.group), ("kind", .text r.kind),
      ("name", .text r.name)] ++
      optionalField "annotations" (r.annotations.map annotationOutline))),
    ("spec", .fields [("description", .text r.description)]),
    ("status", .fields [("conditions", .list (r.conditions.map ConditionEntry.outline))])] ++
    optionalField "impactedObjects"
      (r.impacted.map fun items => .list (items.map ReferenceEntry.outline)))

end ResultEntry

end Preflight
