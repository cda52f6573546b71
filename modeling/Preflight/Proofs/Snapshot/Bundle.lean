import Mathlib.Data.List.Basic
import Mathlib.Data.List.Forall2
import Mathlib.Logic.Relation
import Preflight.Proofs.Document.Entries
import Preflight.Proofs.Fault
import Preflight.Snapshot.Flatten

/-!
# Bundles of documents

A list and a listing are bundles: they stand for the documents that they hold.  Flattening opens the
bundles and nothing else.  So it does not matter how documents are bundled, and what is left are the
objects of a dump, each of them once and in the order of their places.
-/

namespace Preflight

namespace Snapshot

/-! ## Bundles and objects -/

/-- A list, or a listing with a list or nothing under its items, holds documents. -/
inductive Bundles : Document → List Document → Prop where
  | list (items : List Document) : Bundles (.list items) items
  | listing {entries : List (Document × Document)} {items : List Document}
      (hlisting : isListing entries = true)
      (hitems : Document.field? entries "items" = some (.list items)) :
      Bundles (.map entries) items
  | bare {entries : List (Document × Document)} (hlisting : isListing entries = true)
      (hnothing : ∀ d, Document.field? entries "items" = some d → d.isGiven = false) :
      Bundles (.map entries) []

/-- A document that is neither empty nor a list nor a listing, and no collection inside itself. -/
def IsObject : Document → Prop
  | .null => False
  | .list _ => False
  | .map entries => isListing entries = false
  | .knot _ _ => False
  | .loop _ => False
  | _ => True

/-- A tree of bundles with objects, or nothing, at its ends. -/
inductive Regular : Document → Prop where
  | null : Regular .null
  | object {d : Document} (hobject : IsObject d) : Regular d
  | bundle {d : Document} {items : List Document} (hbundles : Bundles d items)
      (hitems : ∀ item ∈ items, Regular item) : Regular d

theorem Bundles.not_isObject {d : Document} {items : List Document} (hbundles : Bundles d items) :
    ¬IsObject d := by
  cases hbundles with
  | list => exact id
  | listing hlisting hitems => exact ne_false_of_eq_true hlisting
  | bare hlisting hnothing => exact ne_false_of_eq_true hlisting

theorem eq_nil_of_not_given {items : List Document}
    (hnothing : (Document.list items).isGiven = false) : items = [] := by
  simpa [Document.isGiven] using hnothing

/-- What a bundle holds is determined. -/
theorem Bundles.items_eq {d : Document} {items others : List Document} (hbundles : Bundles d items)
    (hagain : Bundles d others) : items = others := by
  cases hbundles with
  | list =>
    cases hagain
    rfl
  | listing hlisting hitems =>
    cases hagain with
    | listing _ hothers => simpa [hitems] using hothers
    | bare _ hnothing => exact eq_nil_of_not_given (hnothing _ hitems)
  | bare hlisting hnothing =>
    cases hagain with
    | listing _ hothers => exact (eq_nil_of_not_given (hnothing _ hothers)).symm
    | bare => rfl

/-- The usual listing of some documents. -/
def listing (items : List Document) : Document :=
  .map [(.text "kind", .text "List"), (.text "items", .list items)]

theorem bundles_listing (items : List Document) : Bundles (listing items) items :=
  @Bundles.listing _ items rfl rfl

/-! ## Flattening bundles -/

theorem flatten_append (around : Knots) (left right : List Document) :
    flatten around (left ++ right) =
      do return (← flatten around left) ++ (← flatten around right) := by
  induction left with
  | nil =>
    rw [List.nil_append, flatten]
    cases flatten around right <;> rfl
  | cons d rest ih =>
    rw [List.cons_append, flatten, flatten, ih]
    cases flattenOne around d with
    | error fault => rfl
    | ok first =>
      cases flatten around rest with
      | error fault => rfl
      | ok found =>
        cases flatten around right with
        | error fault => rfl
        | ok later => exact congrArg Except.ok (List.append_assoc first found later).symm

theorem flatten_singleton (around : Knots) (d : Document) :
    flatten around [d] = flattenOne around d := by
  rw [flatten, flatten]
  cases flattenOne around d with
  | error fault => rfl
  | ok found => exact congrArg Except.ok (List.append_nil found)

/-- What is not given has no documents in it. -/
theorem flattenItems_of_not_given (around : Knots) (d : Document) (hnothing : d.isGiven = false) :
    flattenItems around d = .ok [] := by
  match d with
  | .list items =>
    cases items with
    | nil => rfl
    | cons item rest => cases hnothing
  | .knot label body =>
    rw [flattenItems]
    exact flattenItems_of_not_given _ body hnothing
  | .loop label => cases hnothing
  | .null | .bool _ | .int _ | .float _ | .text _ | .date _ | .moment _ | .bytes _ | .set _
  | .pair _ _ | .map _ => exact if_neg (Bool.eq_false_iff.1 hnothing)

theorem flattenListing_eq (around : Knots) (entries : List (Document × Document)) :
    flattenListing around entries =
      match Document.field? entries "items" with
      | some d => flattenItems around d
      | none => .ok [] := by
  induction entries with
  | nil => rfl
  | cons entry rest ih =>
    obtain ⟨key, value⟩ := entry
    rw [flattenListing, ih, Document.field?_cons]
    split <;> rfl

/-- A bundle is flattened like the documents that it holds. -/
theorem flattenOne_of_bundles {d : Document} {items : List Document} (hbundles : Bundles d items)
    (around : Knots) : flattenOne around d = flatten around items := by
  cases hbundles with
  | list => rw [flattenOne]
  | @listing entries items hlisting hitems =>
    rw [flattenOne, if_pos hlisting, flattenListing_eq, hitems]
    exact flattenItems.eq_1 around items
  | @bare entries hlisting hnothing =>
    rw [flattenOne, if_pos hlisting, flattenListing_eq, flatten]
    cases hitems : Document.field? entries "items" with
    | none => rfl
    | some d => exact flattenItems_of_not_given around d (hnothing d hitems)

theorem flattenOne_of_isObject {d : Document} (hobject : IsObject d) :
    flattenOne [] d = .ok [d] := by
  cases d with
  | map entries =>
    rw [flattenOne, if_neg (Bool.eq_false_iff.1 hobject)]
    rfl
  | null => exact hobject.elim
  | list items => exact hobject.elim
  | knot label body => exact hobject.elim
  | loop label => exact hobject.elim
  | _ => rfl

theorem objectsOf_of_forall_isObject {documents : List Document}
    (hobjects : ∀ d ∈ documents, IsObject d) : objectsOf documents = .ok documents := by
  induction documents with
  | nil => rfl
  | cons d rest ih =>
    obtain ⟨hd, hrest⟩ := List.forall_mem_cons.1 hobjects
    have hlater : flatten [] rest = .ok rest := ih hrest
    rw [objectsOf, flatten, flattenOne_of_isObject hd, hlater]
    rfl

/-! ## Regrouping -/

/-- One step of bundling: documents that stand next to each other are put into a bundle, in the dump
itself or in a bundle at any depth. -/
inductive Bundled : List Document → List Document → Prop where
  | here {group : List Document} {bundle : Document} (before after : List Document)
      (hbundles : Bundles bundle group) :
      Bundled (before ++ group ++ after) (before ++ bundle :: after)
  | inside {items others : List Document} {bundle other : Document}
      (before after : List Document) (hbundles : Bundles bundle items)
      (hothers : Bundles other others) (hbundled : Bundled items others) :
      Bundled (before ++ bundle :: after) (before ++ other :: after)

/-- The same documents in other bundles. -/
abbrev Regrouped : List Document → List Document → Prop := Relation.EqvGen Bundled

/-- A whole dump in one bundle. -/
theorem regrouped_of_bundles {bundle : Document} {documents : List Document}
    (hbundles : Bundles bundle documents) : Regrouped documents [bundle] := by
  apply Relation.EqvGen.rel
  simpa using Bundled.here [] [] hbundles

/-- Two documents in the same place of a dump that are flattened alike. -/
theorem objectsOf_congr {inner outer : List Document} (before after : List Document)
    (hsame : objectsOf inner = objectsOf outer) :
    objectsOf (before ++ inner ++ after) = objectsOf (before ++ outer ++ after) := by
  rw [objectsOf, objectsOf] at hsame ⊢
  rw [flatten_append, flatten_append, flatten_append, flatten_append, hsame]

theorem Bundles.objectsOf_eq {bundle : Document} {group : List Document}
    (hbundles : Bundles bundle group) : objectsOf [bundle] = objectsOf group := by
  rw [objectsOf, flatten_singleton, flattenOne_of_bundles hbundles, objectsOf]

theorem Bundled.objectsOf_eq {documents others : List Document} (hbundled : Bundled documents others) :
    objectsOf documents = objectsOf others := by
  induction hbundled with
  | @here group bundle before after hbundles =>
    rw [List.append_cons before bundle after]
    exact objectsOf_congr before after hbundles.objectsOf_eq.symm
  | @inside items others bundle other before after hbundles hothers hbundled ih =>
    rw [List.append_cons before bundle after, List.append_cons before other after]
    apply objectsOf_congr
    calc objectsOf [bundle] = objectsOf items := hbundles.objectsOf_eq
      _ = objectsOf others := ih
      _ = objectsOf [other] := hothers.objectsOf_eq.symm

theorem objectsOf_regrouped {documents others : List Document}
    (hregrouped : Regrouped documents others) : objectsOf documents = objectsOf others := by
  induction hregrouped with
  | rel _ _ hbundled => exact hbundled.objectsOf_eq
  | refl => rfl
  | symm _ _ _ ih => exact ih.symm
  | trans _ _ _ _ _ hfirst hsecond => exact hfirst.trans hsecond

/-! ## Places -/

/-- The object stands at a place of a document: the path there has an index for each bundle. -/
inductive StandsAt : Document → List Nat → Document → Prop where
  | here {d : Document} (hobject : IsObject d) : StandsAt d [] d
  | inside {d item object : Document} {items : List Document} {index : Nat} {place : List Nat}
      (hbundles : Bundles d items) (hitem : items[index]? = some item)
      (hstands : StandsAt item place object) : StandsAt d (index :: place) object

/-- The object stands at a place of a row of documents. -/
def StandsIn (documents : List Document) (place : List Nat) (object : Document) : Prop :=
  ∃ index inner d, place = index :: inner ∧ documents[index]? = some d ∧ StandsAt d inner object

/-- The objects are those that stand at the places of something, each of them once, from left to
right. -/
def Collects (stands : List Nat → Document → Prop) (objects : List Document) : Prop :=
  ∃ places : List (List Nat), places.Pairwise (· < ·) ∧
    (∀ place, place ∈ places ↔ ∃ object, stands place object) ∧
    List.Forall₂ stands places objects

theorem standsAt_of_bundles_iff {d : Document} {items : List Document} (hbundles : Bundles d items)
    {place : List Nat} {object : Document} :
    StandsAt d place object ↔ StandsIn items place object := by
  constructor
  · intro hstands
    cases hstands with
    | here hobject => exact absurd hobject hbundles.not_isObject
    | inside hagain hitem hstands =>
      cases hbundles.items_eq hagain
      exact ⟨_, _, _, rfl, hitem, hstands⟩
  · rintro ⟨index, inner, item, rfl, hitem, hstands⟩
    exact .inside hbundles hitem hstands

theorem collects_of_isObject {d : Document} (hobject : IsObject d) : Collects (StandsAt d) [d] := by
  refine ⟨[[]], List.pairwise_singleton _ _, fun place => ?_, .cons (.here hobject) .nil⟩
  rw [List.mem_singleton]
  constructor
  · rintro rfl
    exact ⟨d, .here hobject⟩
  · rintro ⟨object, hstands⟩
    cases hstands with
    | here => rfl
    | inside hbundles => exact absurd hobject hbundles.not_isObject

theorem collects_null : Collects (StandsAt .null) [] := by
  refine ⟨[], .nil, fun place => ?_, .nil⟩
  apply iff_of_false
  · exact List.not_mem_nil
  · rintro ⟨object, hstands⟩
    cases hstands with
    | here hobject => exact hobject
    | inside hbundles => cases hbundles

theorem collects_nil : Collects (StandsIn []) [] := by
  refine ⟨[], .nil, fun place => ?_, .nil⟩
  apply iff_of_false
  · exact List.not_mem_nil
  · rintro ⟨object, index, inner, d, -, hindex, -⟩
    cases hindex

/-- The places of a row when one more document stands in front of it. -/
def moveBehind : List Nat → List Nat
  | [] => []
  | index :: place => (index + 1) :: place

theorem standsIn_cons_iff {d : Document} {rest : List Document} {place : List Nat}
    {object : Document} : StandsIn (d :: rest) place object ↔
      (∃ inner, place = 0 :: inner ∧ StandsAt d inner object) ∨
        ∃ later, place = moveBehind later ∧ StandsIn rest later object := by
  constructor
  · rintro ⟨index, inner, found, rfl, hindex, hstands⟩
    cases index with
    | zero =>
      cases hindex
      exact .inl ⟨inner, rfl, hstands⟩
    | succ index => exact .inr ⟨index :: inner, rfl, index, inner, found, rfl, hindex, hstands⟩
  · rintro (⟨inner, rfl, hstands⟩ | ⟨later, rfl, index, inner, found, rfl, hindex, hstands⟩)
    · exact ⟨0, inner, d, rfl, rfl, hstands⟩
    · exact ⟨index + 1, inner, found, rfl, hindex, hstands⟩

/-- The places in the first document come before those in the rest of the row. -/
theorem pairwise_places {inner behind : List (List Nat)} (hinner : inner.Pairwise (· < ·))
    (hbehind : behind.Pairwise (· < ·)) (hindexed : ∀ place ∈ behind, place ≠ []) :
    (inner.map (0 :: ·) ++ behind.map moveBehind).Pairwise (· < ·) := by
  apply List.pairwise_append.2 ⟨?_, ?_, ?_⟩
  · rw [List.pairwise_map]
    exact hinner.imp fun hlt => List.cons_lt_cons_iff.2 (.inr ⟨rfl, hlt⟩)
  · rw [List.pairwise_map]
    apply hbehind.imp_of_mem
    intro left right hleft hright hlt
    obtain ⟨leftIndex, leftPlace, rfl⟩ := List.exists_cons_of_ne_nil (hindexed left hleft)
    obtain ⟨rightIndex, rightPlace, rfl⟩ := List.exists_cons_of_ne_nil (hindexed right hright)
    rw [List.cons_lt_cons_iff] at hlt
    rw [moveBehind, moveBehind, List.cons_lt_cons_iff]
    simpa using hlt
  · intro left hleft right hright
    obtain ⟨leftPlace, -, rfl⟩ := List.mem_map.1 hleft
    obtain ⟨place, hplace, rfl⟩ := List.mem_map.1 hright
    obtain ⟨index, rightPlace, rfl⟩ := List.exists_cons_of_ne_nil (hindexed place hplace)
    exact List.cons_lt_cons_iff.2 (.inl (Nat.succ_pos index))

/-- The places at which something stands, moved. -/
theorem mem_map_places_iff {stands : List Nat → Document → Prop} {places : List (List Nat)}
    (hplaces : ∀ place, place ∈ places ↔ ∃ object, stands place object)
    {move : List Nat → List Nat} {place : List Nat} :
    place ∈ places.map move ↔ ∃ object inner, place = move inner ∧ stands inner object := by
  rw [List.mem_map]
  constructor
  · rintro ⟨inner, hmem, rfl⟩
    obtain ⟨object, hstands⟩ := (hplaces inner).1 hmem
    exact ⟨object, inner, rfl, hstands⟩
  · rintro ⟨object, inner, rfl, hstands⟩
    exact ⟨inner, (hplaces inner).2 ⟨object, hstands⟩, rfl⟩

theorem Collects.cons {d : Document} {rest first later : List Document}
    (hfirst : Collects (StandsAt d) first) (hlater : Collects (StandsIn rest) later) :
    Collects (StandsIn (d :: rest)) (first ++ later) := by
  obtain ⟨inner, hinner, hinnerPlaces, hinnerStands⟩ := hfirst
  obtain ⟨behind, hbehind, hbehindPlaces, hbehindStands⟩ := hlater
  have hindexed : ∀ place ∈ behind, place ≠ [] := by
    intro place hmem
    obtain ⟨object, index, inner, found, rfl, -⟩ := (hbehindPlaces place).1 hmem
    exact List.cons_ne_nil index inner
  refine ⟨inner.map (0 :: ·) ++ behind.map moveBehind, pairwise_places hinner hbehind hindexed,
    fun place => ?_, ?_⟩
  · simp only [standsIn_cons_iff, exists_or]
    rw [List.mem_append, mem_map_places_iff hinnerPlaces, mem_map_places_iff hbehindPlaces]
  · apply List.rel_append
    · apply List.forall₂_map_left_iff.2
      exact hinnerStands.imp fun _ _ hstands => standsIn_cons_iff.2 (.inl ⟨_, rfl, hstands⟩)
    · apply List.forall₂_map_left_iff.2
      exact hbehindStands.imp fun _ _ hstands => standsIn_cons_iff.2 (.inr ⟨_, rfl, hstands⟩)

/-! ## The objects of regular documents -/

/-- Flattening finds the objects that stand somewhere, and nothing else. -/
def Finds (found : Except Fault (List Document)) (stands : List Nat → Document → Prop) : Prop :=
  ∃ objects, found = .ok objects ∧ (∀ d ∈ objects, IsObject d) ∧ Collects stands objects

theorem finds_flatten {documents : List Document}
    (hfinds : ∀ d ∈ documents, Finds (flattenOne [] d) (StandsAt d)) :
    Finds (flatten [] documents) (StandsIn documents) := by
  induction documents with
  | nil => exact ⟨[], rfl, List.forall_mem_nil _, collects_nil⟩
  | cons d rest ih =>
    obtain ⟨hd, hrest⟩ := List.forall_mem_cons.1 hfinds
    obtain ⟨first, hfirst, hfirstObjects, hfirstCollects⟩ := hd
    obtain ⟨later, hlater, hlaterObjects, hlaterCollects⟩ := ih hrest
    refine ⟨first ++ later, ?_, ?_, hfirstCollects.cons hlaterCollects⟩
    · rw [flatten, hfirst, hlater]
      rfl
    · exact List.forall_mem_append.2 ⟨hfirstObjects, hlaterObjects⟩

theorem Regular.finds {d : Document} (hregular : Regular d) :
    Finds (flattenOne [] d) (StandsAt d) := by
  induction hregular with
  | null => exact ⟨[], rfl, List.forall_mem_nil _, collects_null⟩
  | @object d hobject =>
    exact ⟨[d], flattenOne_of_isObject hobject, List.forall_mem_singleton.2 hobject,
      collects_of_isObject hobject⟩
  | @bundle d items hbundles hitems ih =>
    have hsame : StandsAt d = StandsIn items := by
      funext place object
      exact propext (standsAt_of_bundles_iff hbundles)
    rw [flattenOne_of_bundles hbundles, hsame]
    exact finds_flatten ih

end Snapshot

end Preflight
