import Preflight.Manifest.Basic

/-!
# Flattening dumps

A dump may hold its objects one by one, in lists, or under the items of a mapping of kind `List`, to
any depth.  Flattening leaves the objects in order and drops empty documents.
-/

namespace Preflight.Snapshot

/-- Whether a mapping only lists other objects. -/
def isListing (entries : List (Document × Document)) : Bool :=
  match Document.field? entries "kind" with
  | some kind => kind.isText "List"
  | none => false

/-- Members that are no containers, without the empty ones. -/
def plainMembers (d : Document) : Except Fault (List Document) := do
  return (← d.members).filter fun
    | .null => false
    | _ => true

/-- The knots around a place, by their labels. -/
abbrev Knots := List (Nat × Document)

/-- A part of a document on its own, with the knots around it in the places of their loops. -/
def alone (around : Knots) (d : Document) : Document :=
  around.foldl (fun d (label, knot) => .bind label knot d) d

mutual

/-- The objects of a document that stands inside some knots.  Lists that contain themselves have no
end. -/
def flattenOne (around : Knots) : Document → Except Fault (List Document)
  | .null => .ok []
  | .list items => flatten around items
  | .map entries =>
    if isListing entries then flattenListing around entries
    else .ok [alone around (.map entries)]
  | .knot label body =>
    flattenOne ((label, alone around (.knot label body)) :: around) body
  | .loop _ => .error .tooDeep
  | d => .ok [alone around d]

/-- The objects of a list of documents. -/
def flatten (around : Knots) : List Document → Except Fault (List Document)
  | [] => .ok []
  | d :: rest => do return (← flattenOne around d) ++ (← flatten around rest)

/-- The objects under the items of a listing. -/
def flattenListing (around : Knots) :
    List (Document × Document) → Except Fault (List Document)
  | [] => .ok []
  | (key, value) :: rest =>
    if key.isText "items" then flattenItems around value else flattenListing around rest

/-- The objects of the value under the items of a listing.  Of a mapping these are the keys. -/
def flattenItems (around : Knots) : Document → Except Fault (List Document)
  | .list items => flatten around items
  | .knot label body => flattenItems ((label, alone around (.knot label body)) :: around) body
  | .loop label =>
    let knot := (around.lookup label).getD .null
    if knot.entries?.isSome then plainMembers knot else .error .tooDeep
  | d => if d.isGiven then plainMembers d else .ok []

end

/-- The objects of a dump. -/
def objectsOf (documents : List Document) : Except Fault (List Document) := flatten [] documents

end Preflight.Snapshot
