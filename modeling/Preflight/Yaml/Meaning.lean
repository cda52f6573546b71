import Preflight.Document.SetOrder
import Preflight.Yaml.Merge
import Preflight.Yaml.Value

/-!
# What nodes mean

A scalar means a value, and a collection means other nodes.  Collections are filled in the order in
which they are met, from the root on, and all nodes of one are met before the next one is filled; so
of several flaws the one nearest to the root counts, and at one distance the first.
-/

namespace Preflight.Yaml

inductive Meaning where
  | scalar (value : Document)
  | list (items : List NodeId)
  | pairs (items : List (NodeId × NodeId))
  | set (members : List Document)
  | map (entries : List (Document × NodeId))

instance : Inhabited Meaning := ⟨.scalar .null⟩

/-- The nodes of a document with what is known about them. -/
structure Understanding where
  graph : Graph
  /-- What the nodes mean that were met, by their places. -/
  meanings : Array (Option Meaning)
  /-- The collections that have not been filled yet, the last one first. -/
  waiting : List NodeId

abbrev Understand := StateT Understanding (Except Flaw)

namespace Graph

/-- The text of a scalar.  A mapping stands for the value under its default key. -/
def scalarText (g : Graph) (id : NodeId) : Nat → Except Flaw String
  | 0 => .error .tooDeep
  | fuel + 1 =>
    match g.node id with
    | .scalar _ text => .ok text
    | .list _ _ => .error .malformed
    | .map _ entries =>
      match entries.find? fun (key, _) => g.tagOf key = .default with
      | some (_, value) => g.scalarText value fuel
      | none => .error .malformed

/-- The text of a node, which is a scalar or stands for one. -/
def textAt (g : Graph) (id : NodeId) : Except Flaw String := g.scalarText id (g.size + 1)

def isMap (g : Graph) (id : NodeId) : Bool :=
  match g.node id with
  | .map _ _ => true
  | _ => false

/-- The value of a node that is tagged as a scalar.  Moments have to be written as they are. -/
def scalarAt (g : Graph) (id : NodeId) : Except Flaw Document := do
  if !(g.tagOf id).isScalar then throw .malformed
  let text ← g.textAt id
  if g.tagOf id = .moment && g.isMap id then throw (.unusable (.kind (.notText "list")))
  scalarValue (g.tagOf id) text

/-- Whether a node is the word for no number. -/
def isNaNWord (g : Graph) (id : NodeId) : Bool :=
  g.tagOf id = .float &&
    match g.textAt id with
    | .ok text => spellsNaN text
    | .error _ => false

end Graph

/-- An entry of a mapping whose key is known. -/
structure Entry where
  keyId : NodeId
  key : Document
  value : NodeId

/-- Whether two entries have the same key: equal values, one node, or the word for no number twice. -/
def Entry.hasKeyOf (a : Entry) (graph : Graph) (b : Entry) : Bool :=
  a.key.sameKey b.key || a.keyId = b.keyId ||
    (graph.isNaNWord a.keyId && graph.isNaNWord b.keyId)

namespace Understand

def malformed {α : Type} : Understand α := throw .malformed

def record (id : NodeId) (meaning : Meaning) : Understand Unit :=
  modify fun found => { found with meanings := found.meanings.setIfInBounds id (some meaning) }

/-- What a node means, if it was met. -/
def meaning? (id : NodeId) : Understand (Option Meaning) := do
  return (← get).meanings.getD id none

/-- Meets a node: a scalar has its value from then on, and a collection waits to be filled. -/
def meet (id : NodeId) : Understand Unit := do
  if (← meaning? id).isSome then return
  let graph := (← get).graph
  if (graph.tagOf id).isCollection then
    record id (.list [])
    modify fun found => { found with waiting := id :: found.waiting }
  else record id (.scalar (← graph.scalarAt id))

/-- Meets a node that is a key.  Collections are no keys. -/
def meetKey (id : NodeId) : Understand Document := do
  meet id
  match ← meaning? id with
  | some (.scalar value) => return value
  | _ => malformed

/-- Adds an entry.  A key that is present keeps its place and takes the new value. -/
def insertEntry (graph : Graph) (entry : Entry) : List Entry → List Entry
  | [] => [entry]
  | present :: rest =>
    if present.hasKeyOf graph entry then
      { present with value := entry.value } :: rest
    else present :: insertEntry graph entry rest

/-- The entries of a mapping after those of the mappings merged into it. -/
def entries (id : NodeId) : Understand (List Entry) := do
  if !(← get).graph.isMap id then malformed
  let graph ← (← get).graph.merged id
  modify fun found => { found with graph }
  (graph.entriesOf id).foldlM (fun before (keyId, value) => do
    let key ← meetKey keyId
    meet value
    return insertEntry graph ⟨keyId, key, value⟩ before) []

/-- The items of a list. -/
def items (id : NodeId) : Understand (List NodeId) := do
  match (← get).graph.node id with
  | .list _ items => return items
  | _ => malformed

/-- An item of a list of mappings of one entry each. -/
def pair (id : NodeId) : Understand (NodeId × NodeId) := do
  match (← get).graph.node id with
  | .map _ [(key, value)] => do
    meet key
    meet value
    return (key, value)
  | _ => malformed

/-- Fills a collection with the nodes it consists of. -/
def fill (id : NodeId) : Understand Unit := do
  match (← get).graph.tagOf id with
  | .list => do
    let items ← items id
    items.forM meet
    record id (.list items)
  | .pairs => record id (.pairs (← (← items id).mapM pair))
  | .set => record id (.set (Document.inSetOrder ((← entries id).map (·.key))))
  | _ => record id (.map ((← entries id).map fun entry => (entry.key, entry.value)))

/-- Fills the collections that wait, and those that are met in doing so.  The bound is a number of
rounds. -/
def fillAll : Nat → Understand Unit
  | 0 => return
  | rounds + 1 => do
    let waiting := (← get).waiting
    if waiting.isEmpty then return
    modify fun found => { found with waiting := [] }
    waiting.reverse.forM fill
    fillAll rounds

end Understand

/-- What the nodes of a graph mean that can be reached from the root. -/
def Graph.meanings (g : Graph) (root : NodeId) : Except Flaw (Array (Option Meaning)) := do
  let start : Understanding := ⟨g, Array.replicate g.size none, []⟩
  let (_, found) ← ((Understand.meet root *> Understand.fillAll (g.size + 1)).run start)
  return found.meanings

end Preflight.Yaml
