import Preflight.Yaml.Meaning

/-!
# Unfolding nodes

The document that a node means, with the parts of a collection in their places.  A node that occurs
several times is unfolded once where it leads to no loop.  A collection from which a loop leads back to
itself, or to a collection around it, becomes a knot.
-/

namespace Preflight.Yaml

/-- A document with the loops in it. -/
structure Unfolding where
  document : Document
  /-- Whether the document has knots or loops in it. -/
  recurs : Bool
  /-- The labels of the loops that lead out of the document. -/
  loose : List NodeId

namespace Unfolding

def ofScalar (d : Document) : Unfolding := ⟨d, false, []⟩

/-- A collection of parts. -/
def gather (document : Document) (parts : List Unfolding) : Unfolding :=
  ⟨document, parts.any (·.recurs), parts.flatMap (·.loose)⟩

/-- The document of a node.  A collection that loops lead out of is a knot. -/
def close (id : NodeId) (found : Unfolding) : Unfolding :=
  if found.loose.isEmpty then found
  else ⟨.knot id found.document, true, found.loose.filter (· ≠ id)⟩

end Unfolding

/-- The nodes that were unfolded without a loop. -/
abbrev Unfold := StateM (Array (Option Document))

namespace Unfold

/-- The document of a node with the collections around it. -/
def node (meanings : Array (Option Meaning)) (around : List NodeId) (id : NodeId) :
    Nat → Unfold Unfolding
  | 0 => return .ofScalar .null
  | fuel + 1 => do
    if around.contains id then return ⟨.loop id, true, [id]⟩
    match (← get).getD id none with
    | some document => return .ofScalar document
    | none =>
      let inside := id :: around
      let found ← match (meanings.getD id none).getD default with
        | .scalar value => pure (Unfolding.ofScalar value)
        | .set members => pure (Unfolding.ofScalar (.set members))
        | .list items => do
          let parts ← items.mapM fun item => node meanings inside item fuel
          pure (Unfolding.gather (.list (parts.map (·.document))) parts)
        | .pairs items => do
          let pairs ← items.mapM fun item => do
            let first ← node meanings inside item.1 fuel
            let second ← node meanings inside item.2 fuel
            return Unfolding.gather (.pair first.document second.document) [first, second]
          pure (Unfolding.gather (.list (pairs.map (·.document))) pairs)
        | .map entries => do
          let parts ← entries.mapM fun entry => node meanings inside entry.2 fuel
          let entries := List.zipWith (fun entry part => (entry.1, part.document)) entries parts
          pure (Unfolding.gather (.map entries) parts)
      let found := found.close id
      if !found.recurs then modify fun memo => memo.setIfInBounds id (some found.document)
      return found

end Unfold

/-- The document that the root of a graph means. -/
def Graph.document (g : Graph) (root : NodeId) : Except Flaw Document := do
  let meanings ← g.meanings root
  let memo := Array.replicate g.size none
  return ((Unfold.node meanings [] root (g.size + 1)).run memo).1.document

end Preflight.Yaml
