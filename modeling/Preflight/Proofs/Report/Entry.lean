import Preflight.Proofs.Result.WellFormed
import Preflight.Report.Listing
import Preflight.Report.Table

/-!
# Results that can be rendered

A table needs of a result that its conditions have proper statuses.  A structured report needs, on
top of that, that every annotation is a text, which accepting a result does not look at.
-/

namespace Preflight

namespace Result

/-- The value of every annotation is a text, or encodes one. -/
def TextAnnotated (r : Result) : Prop :=
  ∀ pair ∈ r.annotations, ∃ s, pair.2.encodedText? = some s

theorem annotationText_isOk_iff (pair : String × Document) :
    (∃ entry, annotationText pair = .ok entry) ↔ ∃ s, pair.2.encodedText? = some s := by
  rw [annotationText]
  cases pair.2.encodedText? <;> simp

end Result

theorem Condition.entry_isOk_iff {c : Condition} :
    (∃ entry, c.entry = .ok entry) ↔ ∃ status, c.status = .known status := by
  rw [entry]
  cases c.status <;> simp

namespace Result

variable {r : Result}

theorem entry_isOk_iff : (∃ entry, r.entry = .ok entry) ↔
    r.TextAnnotated ∧ ∀ c ∈ r.conditions, ∃ status, c.status = .known status := by
  simp only [TextAnnotated, ← annotationText_isOk_iff, ← Condition.entry_isOk_iff,
    ← Fault.mapM_isOk_iff]
  constructor
  · rintro ⟨entry, hentry⟩
    obtain ⟨annotations, hannotations, hrest⟩ := Fault.bind_eq_ok_iff.1 hentry
    obtain ⟨conditions, hconditions, -⟩ := Fault.bind_eq_ok_iff.1 hrest
    exact ⟨⟨annotations, hannotations⟩, conditions, hconditions⟩
  · rintro ⟨⟨annotations, hannotations⟩, conditions, hconditions⟩
    exact ⟨_, Fault.bind_eq_ok_iff.2 ⟨annotations, hannotations,
      Fault.bind_eq_ok_iff.2 ⟨conditions, hconditions, rfl⟩⟩⟩

/-- Of what a structured report asks, accepting a result leaves open only the annotations. -/
theorem WellFormed.entry_isOk_iff (hwell : r.WellFormed) :
    (∃ entry, r.entry = .ok entry) ↔ r.TextAnnotated := by
  rw [Result.entry_isOk_iff]
  exact and_iff_left fun c hmem => (hwell.conditions c hmem).status

end Result

theorem Table.row_isOk {r : Result} {c : Condition} (hwell : c.WellFormed) :
    ∃ row, Table.row r c = .ok row := by
  obtain ⟨status, hstatus⟩ := hwell.status
  have hglyph : Table.glyph c.status = .ok (Table.glyphOf status) := by
    rw [hstatus]
    rfl
  exact ⟨_, Fault.bind_eq_ok_iff.2 ⟨_, hglyph, rfl⟩⟩

theorem Table.rows_isOk {executions : List Execution}
    (hwell : ∀ execution ∈ executions, execution.result.WellFormed) :
    ∃ rows, Table.rows executions = .ok rows := by
  have hgroups : ∃ groups, executions.mapM
      (fun e => e.result.conditions.mapM (Table.row e.result)) = .ok groups := by
    apply Fault.mapM_isOk_iff.2
    intro execution hmem
    apply Fault.mapM_isOk_iff.2
    intro c hcondition
    exact Table.row_isOk ((hwell execution hmem).conditions c hcondition)
  obtain ⟨groups, hgroups⟩ := hgroups
  exact ⟨_, Fault.bind_eq_ok_iff.2 ⟨groups, hgroups, rfl⟩⟩

theorem Category.mem_displayOrder (category : Category) : category ∈ displayOrder := by
  cases category <;> decide

namespace Report

variable {report : Report} {minimum : MinimumSeverity}

/-- What is displayed is what was collected and passes the threshold. -/
theorem mem_displayed {execution : Execution} : execution ∈ report.displayed minimum ↔
    execution ∈ report.executions ∧ minimum.includes execution.severity := by
  simp [displayed, shown, ordered, inCategory, Category.mem_displayOrder]

theorem listing_isOk_iff : (∃ listing, report.listing minimum = .ok listing) ↔
    ∀ execution ∈ report.displayed minimum, ∃ entry, execution.result.entry = .ok entry := by
  rw [← Fault.mapM_isOk_iff]
  constructor
  · rintro ⟨listing, hlisting⟩
    obtain ⟨items, hitems, -⟩ := Fault.bind_eq_ok_iff.1 hlisting
    exact ⟨items, hitems⟩
  · rintro ⟨items, hitems⟩
    exact ⟨_, Fault.bind_eq_ok_iff.2 ⟨items, hitems, rfl⟩⟩

end Report

end Preflight
