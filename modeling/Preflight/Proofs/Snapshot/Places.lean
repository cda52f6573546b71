import Preflight.Proofs.Action
import Preflight.Snapshot.Flatten

/-!
# What flattening comes across

Flattening walks through lists and listings until it comes to objects, or to one of two things that
have to be looked at more closely: the value under the items of a listing, where it is no list, and
a collection at a place inside itself.  The walk never fails; what it comes across decides, one after
the other, whether flattening does.
-/

namespace Preflight.Snapshot

/-- What the walk through a dump comes across. -/
inductive Place where
  | object (d : Document)
  /-- The value under the items of a listing; its members are taken for objects. -/
  | spread (d : Document)
  /-- A collection inside itself. -/
  | endless

namespace Place

def objects : Place → Except Fault (List Document)
  | object d => .ok [d]
  | spread d => plainMembers d
  | endless => .error .tooDeep

/-- The places that hold no objects, with what comes out there. -/
inductive Blocks : Place → Fault → Prop where
  | spread {d : Document} (hmembers : d.members? = none) :
      Blocks (.spread d) (.kind (.notIterable d.qualifiedKindName))
  | endless : Blocks .endless .tooDeep

theorem objects_eq_error_iff {place : Place} {fault : Fault} :
    place.objects = .error fault ↔ place.Blocks fault := by
  constructor
  · intro hfailed
    cases place with
    | object d => cases hfailed
    | spread d =>
      cases hmembers : d.members? with
      | none =>
        rw [objects, plainMembers, Document.members, hmembers] at hfailed
        cases hfailed
        exact .spread hmembers
      | some members =>
        rw [objects, plainMembers, Document.members, hmembers] at hfailed
        cases hfailed
    | endless =>
      cases hfailed
      exact .endless
  · intro hblocks
    cases hblocks with
    | spread hmembers =>
      rw [objects, plainMembers, Document.members, hmembers]
      rfl
    | endless => rfl

/-- The objects of all the places. -/
def gather (places : List Place) : Except Fault (List Document) :=
  (places.mapM objects).map List.flatten

theorem gather_singleton (place : Place) : gather [place] = place.objects := by
  rw [gather, List.mapM_cons]
  cases place.objects with
  | error fault => rfl
  | ok found => exact congrArg Except.ok (List.append_nil found)

theorem gather_append (places others : List Place) :
    gather (places ++ others) = do return (← gather places) ++ (← gather others) := by
  rw [gather, gather, gather, List.mapM_append]
  cases places.mapM objects with
  | error fault => rfl
  | ok found =>
    cases others.mapM objects with
    | error fault => rfl
    | ok later => exact congrArg Except.ok List.flatten_append

theorem gather_eq_error_iff {places : List Place} {fault : Fault} :
    gather places = .error fault ↔
      ∃ before place after, places = before ++ place :: after ∧
        (∀ earlier ∈ before, ∀ found, ¬earlier.Blocks found) ∧ place.Blocks fault := by
  have hopen (place : Place) :
      (∃ found, place.objects = .ok found) ↔ ∀ fault, ¬place.Blocks fault := by
    simp only [← objects_eq_error_iff]
    cases place.objects <;> simp
  simp only [gather, Fault.map_eq_error_iff, Fault.mapM_eq_error_iff, hopen, objects_eq_error_iff]

end Place

/-! ## The walk -/

mutual

/-- The places of a document that stands inside some knots. -/
def placesIn (around : Knots) : Document → List Place
  | .null => []
  | .list items => places around items
  | .map entries =>
    if isListing entries then placesListed around entries
    else [.object (alone around (.map entries))]
  | .knot label body => placesIn ((label, alone around (.knot label body)) :: around) body
  | .loop _ => [.endless]
  | d => [.object (alone around d)]

/-- The places of a list of documents. -/
def places (around : Knots) : List Document → List Place
  | [] => []
  | d :: rest => placesIn around d ++ places around rest

/-- The places of a listing, which are those under its items. -/
def placesListed (around : Knots) : List (Document × Document) → List Place
  | [] => []
  | (key, value) :: rest =>
    if key.isText "items" then placesUnder around value else placesListed around rest

/-- The places of the value under the items of a listing. -/
def placesUnder (around : Knots) : Document → List Place
  | .list items => places around items
  | .knot label body => placesUnder ((label, alone around (.knot label body)) :: around) body
  | .loop label =>
    let knot := (around.lookup label).getD .null
    if knot.entries?.isSome then [.spread knot] else [.endless]
  | d => if d.isGiven then [.spread d] else []

end

mutual

theorem flattenOne_eq_gather (around : Knots) (d : Document) :
    flattenOne around d = Place.gather (placesIn around d) := by
  cases d with
  | null => rfl
  | list items => rw [flattenOne, placesIn, flatten_eq_gather around items]
  | map entries =>
    rw [flattenOne, placesIn]
    split
    · exact flattenListing_eq_gather around entries
    · rfl
  | knot label body =>
    rw [flattenOne, placesIn]
    exact flattenOne_eq_gather _ body
  | _ => rfl

theorem flatten_eq_gather (around : Knots) (documents : List Document) :
    flatten around documents = Place.gather (places around documents) := by
  cases documents with
  | nil => rfl
  | cons d rest =>
    rw [flatten, places, Place.gather_append, flattenOne_eq_gather around d,
      flatten_eq_gather around rest]

theorem flattenListing_eq_gather (around : Knots) (entries : List (Document × Document)) :
    flattenListing around entries = Place.gather (placesListed around entries) := by
  match entries with
  | [] => rfl
  | (key, value) :: rest =>
    rw [flattenListing, placesListed]
    split
    · exact flattenItems_eq_gather around value
    · exact flattenListing_eq_gather around rest

theorem flattenItems_eq_gather (around : Knots) (d : Document) :
    flattenItems around d = Place.gather (placesUnder around d) := by
  have hspread (d : Document) : (if d.isGiven then plainMembers d else .ok []) =
      Place.gather (if d.isGiven then [.spread d] else []) := by
    split
    · exact (Place.gather_singleton (.spread d)).symm
    · rfl
  cases d with
  | list items => rw [flattenItems, placesUnder, flatten_eq_gather around items]
  | knot label body =>
    rw [flattenItems, placesUnder]
    exact flattenItems_eq_gather _ body
  | loop label =>
    rw [flattenItems, placesUnder]
    split
    · exact (Place.gather_singleton (.spread _)).symm
    · rfl
  | _ => exact hspread _

end

/-- Flattening a dump gathers the objects of the places that the walk comes to. -/
theorem objectsOf_eq_gather (documents : List Document) :
    objectsOf documents = Place.gather (places [] documents) :=
  flatten_eq_gather [] documents

end Preflight.Snapshot
