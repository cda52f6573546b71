import Preflight.Yaml.Scalar

/-!
# Nodes

What a YAML document writes: scalars as text, collections, and the tag of each of them, which says
which kind of value the node stands for.  A node can be named and referred to, also from inside
itself, so the nodes form a graph and refer to each other by their places in it.
-/

namespace Preflight.Yaml

inductive Tag where
  | null
  | bool
  | int
  | float
  | bytes
  | moment
  | text
  | list
  | map
  | set
  | pairs
  | merge
  | default
  | unknown
  deriving DecidableEq, Repr

/-- The place of a node in its graph. -/
abbrev NodeId := Nat

inductive Node where
  | scalar (tag : Tag) (text : String)
  | list (tag : Tag) (items : List NodeId)
  | map (tag : Tag) (entries : List (NodeId × NodeId))

/-- The nodes of a document by their places. -/
abbrev Graph := Array Node

namespace Tag

/-- The start of the full names of the standard tags. -/
def standardStart : String := "tag:yaml.org,2002:"

def standardNames : List (String × Tag) :=
  [("null", null), ("bool", bool), ("int", int), ("float", float), ("binary", bytes),
   ("timestamp", moment), ("str", text), ("seq", list), ("map", map), ("set", set),
   ("omap", pairs), ("pairs", pairs), ("merge", merge), ("value", default)]

/-- The tag of a full name. -/
def ofName (name : String) : Tag :=
  ((standardNames.find? fun (short, _) => standardStart ++ short = name).map Prod.snd).getD unknown

def ofScalarKind : ScalarKind → Tag
  | .null => null
  | .bool => bool
  | .int => int
  | .float => float
  | .moment => moment
  | .merge => merge
  | .default => default
  | .indicator => unknown
  | .text => text

/-- Whether values with this tag are collections. -/
def isCollection (tag : Tag) : Bool := [list, map, set, pairs].contains tag

/-- Whether values with this tag are scalars.  Nothing else has a value. -/
def isScalar (tag : Tag) : Bool := [null, bool, int, float, bytes, moment, text].contains tag

end Tag

namespace Node

/-- The node that stands where nothing is written. -/
def empty : Node := .scalar .null ""

instance : Inhabited Node := ⟨empty⟩

def tag : Node → Tag
  | scalar tag _ => tag
  | list tag _ => tag
  | map tag _ => tag

def withTag (tag : Tag) : Node → Node
  | scalar _ text => scalar tag text
  | list _ items => list tag items
  | map _ entries => map tag entries

end Node

namespace Graph

def node (g : Graph) (id : NodeId) : Node := g.getD id .empty

def tagOf (g : Graph) (id : NodeId) : Tag := (g.node id).tag

def put (g : Graph) (id : NodeId) (node : Node) : Graph := g.setIfInBounds id node

end Graph

end Preflight.Yaml
