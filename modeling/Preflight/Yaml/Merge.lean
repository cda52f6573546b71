import Preflight.Document.Flaw
import Preflight.Yaml.Node

/-!
# Merging

An entry under a merge key stands for the entries of the mappings that it refers to.  They come in
front of the entries that the mapping has itself, so they give way to those.  Merging a mapping first
merges what it refers to, and takes the merge keys out of the graph one by one, so that it comes to an
end also where a mapping refers to itself.
-/

namespace Preflight.Yaml

namespace Graph

def entriesOf (g : Graph) (id : NodeId) : List (NodeId × NodeId) :=
  match g.node id with
  | .map _ entries => entries
  | _ => []

def putEntries (g : Graph) (id : NodeId) (entries : List (NodeId × NodeId)) : Graph :=
  g.put id (.map (g.tagOf id) entries)

/-- The number of merge keys in the graph. -/
def mergeCount (g : Graph) : Nat :=
  (g.toList.map fun
    | .map _ entries => entries.countP fun (key, _) => g.tagOf key = .merge
    | _ => 0).foldl (· + ·) 0

/-- The entries in front of the first merge key, its value, and the entries behind it. -/
def splitAtMerge? (g : Graph) :
    List (NodeId × NodeId) → Option (List (NodeId × NodeId) × NodeId × List (NodeId × NodeId))
  | [] => none
  | (key, value) :: rest =>
    if g.tagOf key = .merge then some ([], value, rest)
    else (splitAtMerge? g rest).map fun (before, found, after) =>
      ((key, value) :: before, found, after)

/-- Default keys are texts where all entries of a mapping count. -/
def fixDefaultKeys (g : Graph) (entries : List (NodeId × NodeId)) : Graph :=
  entries.foldl (fun g (key, _) =>
    if g.tagOf key = .default then g.put key ((g.node key).withTag .text) else g) g

mutual

/-- The graph with the merge keys of a mapping replaced.  `found` are the entries that merge keys
have contributed so far. -/
def mergeFrom (g : Graph) (id : NodeId) (found : List (NodeId × NodeId)) :
    Nat → Except Flaw Graph
  | 0 => .ok g
  | fuel + 1 =>
    match g.splitAtMerge? (g.entriesOf id) with
    | some (before, value, after) => do
      let (g, contributed) ← contribution (g.putEntries id (before ++ after)) value fuel
      mergeFrom g id (found ++ contributed) fuel
    | none =>
      let entries := found ++ g.entriesOf id
      .ok ((g.putEntries id entries).fixDefaultKeys entries)

/-- What a merged value contributes: the entries of a mapping, or of a list of mappings, the last one
first. -/
def contribution (g : Graph) (value : NodeId) : Nat → Except Flaw (Graph × List (NodeId × NodeId))
  | 0 => .error .malformed
  | fuel + 1 =>
    match g.node value with
    | .map _ _ => do
      let g ← mergeFrom g value [] fuel
      return (g, g.entriesOf value)
    | .list _ items => listContribution g [] items fuel
    | .scalar _ _ => .error .malformed

def listContribution (g : Graph) (found : List (NodeId × NodeId)) (items : List NodeId) :
    Nat → Except Flaw (Graph × List (NodeId × NodeId))
  | 0 => .error .malformed
  | fuel + 1 =>
    match items with
    | [] => .ok (g, found)
    | item :: items =>
      match g.node item with
      | .map _ _ => do
        let g ← mergeFrom g item [] fuel
        listContribution g (g.entriesOf item ++ found) items fuel
      | _ => .error .malformed

end

/-- The graph with the merge keys of a mapping replaced. -/
def merged (g : Graph) (id : NodeId) : Except Flaw Graph :=
  let longest := (g.toList.map fun
    | .list _ items => items.length
    | _ => 0).foldl max 0
  g.mergeFrom id [] ((g.mergeCount + 1) * (longest + 3))

end Graph

end Preflight.Yaml
