import Preflight.Proofs.Report.Entry

/-!
# Reading structured reports

A structured report is a tree of named fields.  Whoever gets it reads it by the names, and finds in
it the results that are shown, in their order, and for each of them the conditions in their order.
-/

namespace Preflight

/-! ## Fields -/

namespace Outline

/-- The value of a field, nothing if there is no such field. -/
def field? (name : String) : Outline → Option Outline
  | fields entries => entries.lookup name
  | _ => none

/-- The items of a list that is the value of a field. -/
def itemsOf (name : String) (o : Outline) : List Outline :=
  match o.field? name with
  | some (list items) => items
  | _ => []

def textOf? (name : String) (o : Outline) : Option String :=
  match o.field? name with
  | some (text s) => some s
  | _ => none

/-- The statuses of the conditions of a result. -/
def statuses (result : Outline) : List String :=
  match result.field? "status" with
  | some status => (status.itemsOf "conditions").filterMap (textOf? "status")
  | none => []

/-- The conditions of a result. -/
def conditions (result : Outline) : List Outline :=
  match result.field? "status" with
  | some status => status.itemsOf "conditions"
  | none => []

end Outline

theorem ResultEntry.statuses_outline (entry : ResultEntry) :
    entry.outline.statuses = entry.conditions.map (·.status) := by
  have hstatus (c : ConditionEntry) : c.outline.textOf? "status" = some c.status := rfl
  have hconditions : entry.outline.statuses =
      (entry.conditions.map ConditionEntry.outline).filterMap (Outline.textOf? "status") := rfl
  rw [hconditions, List.filterMap_map, ← List.filterMap_eq_map]
  exact congrArg (List.filterMap · entry.conditions) (funext hstatus)

theorem Listing.itemsOf_outline (listing : Listing) :
    listing.outline.itemsOf "items" = listing.items.map ResultEntry.outline := rfl

theorem ResultEntry.conditions_outline (entry : ResultEntry) :
    entry.outline.conditions = entry.conditions.map ConditionEntry.outline := rfl

/-! ## Results and their entries -/

theorem ConditionStatus.name_injective : Function.Injective name := by
  intro left right hname
  cases left <;> cases right <;> first | rfl | exact absurd hname (by decide)

theorem Result.conditions_of_entry {r : Result} {entry : ResultEntry}
    (hentry : r.entry = .ok entry) :
    List.Forall₂ (fun c written => c.entry = .ok written) r.conditions entry.conditions := by
  obtain ⟨annotations, -, hrest⟩ := Fault.bind_eq_ok_iff.1 hentry
  obtain ⟨conditions, hconditions, hvalue⟩ := Fault.bind_eq_ok_iff.1 hrest
  cases hvalue
  exact Fault.mapM_eq_ok_iff.1 hconditions

theorem Report.displayed_of_listing {report : Report} {minimum : MinimumSeverity}
    {listing : Listing} (hlisting : report.listing minimum = .ok listing) :
    List.Forall₂ (fun execution entry => execution.result.entry = .ok entry)
      (report.displayed minimum) listing.items := by
  obtain ⟨items, hitems, hvalue⟩ := Fault.bind_eq_ok_iff.1 hlisting
  cases hvalue
  exact Fault.mapM_eq_ok_iff.1 hitems

end Preflight
