import Preflight.Document.Shown
import Preflight.Fault
import Preflight.ResourceType

/-!
# Cluster objects

A cluster object is a mapping with metadata.  The metadata may be missing, but where it is given it
has to be a mapping: every access to other metadata fails in the same way.
-/

namespace Preflight

structure Manifest where
  entries : List (Document × Document)

namespace Document

/-- The members of a value that can be gone through one by one. -/
def members? (d : Document) : Option (List Document) :=
  match d.opened with
  | list items => some items
  | set items => some items
  | pair first second => some [first, second]
  | map entries => some (entries.map Prod.fst)
  | text s => some (s.toList.map fun c => text (String.ofList [c]))
  | bytes content => some (content.map fun byte => int byte.toNat)
  | _ => none

def members (d : Document) : Except Fault (List Document) :=
  match d.members? with
  | some items => .ok items
  | none => .error (.kind (.notIterable d.qualifiedKindName))

/-- Adds the entry that a member of a list of pairs stands for. -/
def addPair (entries : List (Document × Document)) (index : Nat) (item : Document) :
    Except Fault (List (Document × Document)) :=
  match item.members? with
  | none => .error (.kind (.entryNotSequence index))
  | some [key, value] =>
    match key.unfitForKey? with
    | none => .ok (insertEntry entries key value)
    | some unfit => .error (.kind (.notKey unfit.kindName))
  | some items => .error (.value (.entryLength index items.length))

def addPairs (entries : List (Document × Document)) (index : Nat) :
    List Document → Except Fault (List (Document × Document))
  | [] => .ok entries
  | item :: items =>
    match addPair entries index item with
    | .error fault => .error fault
    | .ok entries => addPairs entries (index + 1) items

/-- The entries of a mapping, or of a value whose members are pairs. -/
def asEntries (d : Document) : Except Fault (List (Document × Document)) :=
  match d.entries? with
  | some entries => .ok entries
  | none => do addPairs [] 0 (← d.members)

/-- The text of a value in a name or a message. -/
def asText (d : Document) : Except Fault String := d.plain.mapError .value

end Document

namespace Manifest

instance : Inhabited Manifest := ⟨⟨[]⟩⟩

def document (m : Manifest) : Document := .map m.entries

def field? (m : Manifest) (key : String) : Option Document := Document.field? m.entries key

/-- A field as text, empty when it is absent. -/
def fieldText (m : Manifest) (key : String) : Except Fault String :=
  ((m.field? key).getD (.text "")).asText

/-- The entries of the metadata, none when the metadata is not given. -/
def metadata (m : Manifest) : Except Fault (List (Document × Document)) :=
  match m.field? "metadata" with
  | none => .ok []
  | some d =>
    match d.entries? with
    | some entries => .ok entries
    | none => if d.isGiven then .error (.noField d.qualifiedKindName "get") else .ok []

def metadataField? (m : Manifest) (key : String) : Except Fault (Option Document) := do
  return Document.field? (← m.metadata) key

/-- A metadata field that is absent or not given counts as the fallback. -/
def metadataOr (m : Manifest) (key : String) (fallback : Document) : Except Fault Document := do
  match ← m.metadataField? key with
  | some d => return if d.isGiven then d else fallback
  | none => return fallback

def name (m : Manifest) : Except Fault String := do
  ((← m.metadataField? "name").getD (.text "")).asText

/-- The namespace, empty for an object of the whole cluster. -/
def namespaceName (m : Manifest) : Except Fault String := do
  (← m.metadataOr "namespace" (.text "")).asText

def annotations (m : Manifest) : Except Fault (List (Document × Document)) := do
  (← m.metadataOr "annotations" (.map [])).asEntries

def finalizers (m : Manifest) : Except Fault (List Document) := do
  (← m.metadataOr "finalizers" (.list [])).members

/-- The name, with the namespace in front if there is one. -/
def key (m : Manifest) : Except Fault String := do
  let scope ← m.namespaceName
  let name ← m.name
  return if scope = "" then name else s!"{scope}/{name}"

/-- The kind and the key. -/
def describe (m : Manifest) : Except Fault String := do
  let kind ← m.fieldText "kind"
  return s!"{kind} {← m.key}"

def reference (m : Manifest) : Except Fault ObjectReference := do
  return ⟨← m.fieldText "kind", ← m.name, ← m.namespaceName, ← m.fieldText "apiVersion"⟩

/-- Whether the field is the given text. -/
def fieldIs (m : Manifest) (key value : String) : Bool :=
  match m.field? key with
  | some d => d.isText value
  | none => false

end Manifest

/-- Whether the object states this version and kind. -/
def ResourceType.covers (t : ResourceType) (m : Manifest) : Bool :=
  m.fieldIs "apiVersion" t.apiVersion && m.fieldIs "kind" t.kind

end Preflight
