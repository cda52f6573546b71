import Preflight.Proofs.Grouping
import Preflight.Proofs.Report.Reading
import Preflight.Proofs.Rows

/-!
# The table and the document show the same

Both forms of a report start from the executions that are displayed.  Whoever has the document can
work out every row of the table from it, in the order of the table, and the counts that the summary
states.  So neither form drops, repeats or moves a condition that the other one shows.
-/

namespace Preflight

/-! ## The table as a reader of the document works it out -/

/-- The severity of a single condition. -/
def ConditionStatus.severity : ConditionStatus → Severity
  | met => .info
  | violated => .critical
  | undetermined => .warning

namespace Outline

/-- A text within a part of a result. -/
def partOf? (part name : String) (result : Outline) : Option String :=
  (result.field? part).bind (textOf? name)

/-- A condition in a document, with the result that it belongs to. -/
structure Finding where
  result : Outline
  condition : Outline

namespace Finding

def status? (finding : Finding) : Option ConditionStatus :=
  (finding.condition.textOf? "status").bind ConditionStatus.ofName?

def isPassed (finding : Finding) : Bool := finding.condition.textOf? "status" == some "True"

/-- The cells of the row for a finding. -/
def cells? (describe : Bool) (finding : Finding) : Option (List String) := do
  let status ← finding.status?
  let group ← finding.result.partOf? "metadata" "group"
  let kind ← finding.result.partOf? "metadata" "kind"
  let name ← finding.result.partOf? "metadata" "name"
  let message ← finding.condition.textOf? "message"
  let description ← finding.result.partOf? "spec" "description"
  return [Table.glyphOf status, group, kind, name, status.severity.name, message] ++
    (if describe then [description] else [])

end Finding

def findingsOf (result : Outline) : List Finding := result.conditions.map (⟨result, ·⟩)

/-- The findings of a document, result by result and condition by condition. -/
def findings (document : Outline) : List Finding := (document.itemsOf "items").flatMap findingsOf

/-- The line of a summary that counts the findings of a document. -/
def countLine (document : Outline) : String :=
  let total := document.findings.length
  let passed := document.findings.countP (·.isPassed)
  let failed := document.findings.countP (!·.isPassed)
  s!"Summary: Total: {total} | Passed: {passed} | Failed: {failed}"

end Outline

/-! ## Rows and findings -/

/-- A row of a table shows a finding of a document. -/
structure Table.Row.Shows (row : Row) (finding : Outline.Finding) : Prop where
  cells : ∀ describe, finding.cells? describe = some (row.cells describe)
  passed : finding.isPassed = decide (row.glyph = glyphOf .met)

theorem Severity.ofConditions_singleton {c : Condition} {status : ConditionStatus}
    (hstatus : c.status = .known status) : ofConditions [c] = some status.severity := by
  cases status <;> simp [ofConditions, hstatus, StatusLabel.spells, StatusLabel.spelled?,
    ConditionStatus.severity]

namespace Table

theorem row_eq_of_status {r : Result} {c : Condition} {status : ConditionStatus}
    (hstatus : c.status = .known status) :
    row r c = .ok ⟨glyphOf status, r.group, r.kind, r.name, status.severity.name, c.message,
      r.description⟩ := by
  rw [row, Severity.ofConditions_singleton hstatus, hstatus]
  rfl

variable {r : Result} {entry : ResultEntry}

theorem shows_of_row {c : Condition} {written : ConditionEntry} {row : Row}
    (hentry : r.entry = .ok entry) (hwritten : c.entry = .ok written)
    (hrow : Table.row r c = .ok row) : row.Shows ⟨entry.outline, written.outline⟩ := by
  obtain ⟨status, hstatus⟩ := Condition.entry_isOk_iff.1 ⟨written, hwritten⟩
  rw [row_eq_of_status hstatus] at hrow
  cases hrow
  rw [Condition.entry, hstatus] at hwritten
  cases hwritten
  obtain ⟨annotations, -, hrest⟩ := Fault.bind_eq_ok_iff.1 hentry
  obtain ⟨conditions, -, hvalue⟩ := Fault.bind_eq_ok_iff.1 hrest
  cases hvalue
  constructor
  · intro describe
    cases status <;> cases describe <;> rfl
  · cases status <;> rfl

/-- The rows of a result show its conditions, one for each and in their order. -/
theorem shows_of_rows {group : List Row} (hentry : r.entry = .ok entry)
    (hgroup : r.conditions.mapM (row r) = .ok group) :
    List.Forall₂ Row.Shows group entry.outline.findingsOf := by
  rw [Fault.mapM_eq_ok_iff] at hgroup
  have hconditions := Result.conditions_of_entry hentry
  rw [Outline.findingsOf, ResultEntry.conditions_outline, List.map_map]
  generalize r.conditions = conditions at hgroup hconditions
  generalize entry.conditions = entries at hconditions
  induction hconditions generalizing group with
  | nil =>
    cases hgroup
    exact .nil
  | cons hwritten hlater ih =>
    cases hgroup with
    | cons hrow hrest => exact .cons (shows_of_row hentry hwritten hrow) (ih hrest)

theorem rows_cons_eq_ok_iff {execution : Execution} {rest : List Execution} {all : List Row} :
    rows (execution :: rest) = .ok all ↔ ∃ group later,
      execution.result.conditions.mapM (row execution.result) = .ok group ∧
        rows rest = .ok later ∧ all = group ++ later := by
  rw [rows, rows, List.mapM_cons]
  cases execution.result.conditions.mapM (row execution.result) with
  | error fault => simp [bind, Except.bind]
  | ok group =>
    cases rest.mapM fun e => e.result.conditions.mapM (row e.result) with
    | error fault => simp [bind, Except.bind]
    | ok later => simp [bind, Except.bind, pure, Except.pure, eq_comm]

/-- The rows of executions show the findings of a document with an entry for each execution. -/
theorem shows_of_entries {executions : List Execution} {items : List ResultEntry} {all : List Row}
    (hitems : List.Forall₂ (fun execution entry => execution.result.entry = .ok entry) executions
      items)
    (hall : rows executions = .ok all) :
    List.Forall₂ Row.Shows all ((items.map ResultEntry.outline).flatMap Outline.findingsOf) := by
  induction hitems generalizing all with
  | nil =>
    cases hall
    exact .nil
  | cons hentry hlater ih =>
    obtain ⟨group, later, hgroup, hrest, rfl⟩ := rows_cons_eq_ok_iff.1 hall
    rw [List.map_cons, List.flatMap_cons]
    exact List.rel_append (shows_of_rows hentry hgroup) (ih hrest)

/-! ## The summary -/

/-- The counts over the rows are those over the findings that they show. -/
theorem summary_eq {document : Outline} {all : List Row} (report : Report)
    (hshows : List.Forall₂ Row.Shows all document.findings) :
    summary report all = (durationText report.durationMs).map fun time =>
      ["", rule, document.countLine, s!"Total time: {time}s"] := by
  have htotal : all.length = document.findings.length := hshows.length_eq
  have hpassed : (all.filter (·.glyph = glyphOf .met)).length =
      document.findings.countP (·.isPassed) := by
    rw [← List.countP_eq_length_filter]
    exact Rows.countP_eq hshows fun row finding hshow => hshow.passed.symm
  have hall : document.findings.length =
      document.findings.countP (·.isPassed) + document.findings.countP (!·.isPassed) := by
    simpa using List.length_eq_countP_add_countP Outline.Finding.isPassed
  have hfailed : document.findings.length - document.findings.countP (·.isPassed) =
      document.findings.countP (!·.isPassed) := by omega
  rw [summary, htotal, hpassed, hfailed]
  cases durationText report.durationMs <;> rfl

end Table

namespace Report

variable {report : Report} {minimum : MinimumSeverity} {rows : List Table.Row}

/-- A table ends with its summary. -/
theorem tableLines_eq {options : RenderOptions} (hrows : report.rows options.minimum = .ok rows) :
    ∃ before, report.tableLines options = (Table.summary report rows).map (before ++ ·) := by
  have hpure : report.rows options.minimum = pure rows := hrows
  rw [tableLines, hpure, pure_bind]
  -- Once the rows are known, the summary is the only part that can fail.
  generalize Table.summary report rows = summary
  cases summary with
  | error fault => exact ⟨[], rfl⟩
  | ok found => exact ⟨_, rfl⟩

/-! ## What is displayed -/

theorem ordered_perm (report : Report) : report.ordered.Perm report.executions :=
  Grouping.perm_flatMap_filter_of_mem Execution.category
    (show Category.displayOrder.Nodup by decide) fun e _ => Category.mem_displayOrder e.category

/-- What is displayed, grouped by category, and within each category in the order of the run. -/
theorem displayed_eq (report : Report) (minimum : MinimumSeverity) :
    report.displayed minimum = Category.displayOrder.flatMap fun category =>
      report.executions.filter fun e => minimum.includes e.severity && e.category == category := by
  simp only [displayed, shown, ordered, List.filter_flatMap, inCategory, List.filter_filter]

/-- A document and the rows of a table show the same: the executions that pass a threshold. -/
structure Agreement (report : Report) (minimum : MinimumSeverity) (listing : Listing)
    (rows : List Table.Row) : Prop where
  /-- Every execution that passes the threshold is displayed once. -/
  once : (report.displayed minimum).Perm
    (report.executions.filter (minimum.includes ·.severity))
  grouped : report.displayed minimum = Category.displayOrder.flatMap fun category =>
    report.executions.filter fun e => minimum.includes e.severity && e.category == category
  /-- The document has the entries of what is displayed. -/
  items : List.Forall₂ (fun execution entry => execution.result.entry = .ok entry)
    (report.displayed minimum) listing.items
  /-- The table has a row for each condition of the document. -/
  shows : List.Forall₂ Table.Row.Shows rows listing.outline.findings
  /-- The page ends with the counts over the document. -/
  counts : ∀ options : RenderOptions, options.minimum = minimum → ∃ before,
    report.tableLines options = (Table.durationText report.durationMs).map fun time =>
      before ++ ["", Table.rule, listing.outline.countLine, s!"Total time: {time}s"]

/-- Valid results with texts for annotations have a document and rows of a table, and the two
agree. -/
theorem exists_agreement (hvalid : ∀ execution ∈ report.executions,
      execution.result.validate = .ok ())
    (htexts : ∀ execution ∈ report.executions, execution.result.TextAnnotated)
    (minimum : MinimumSeverity) :
    ∃ listing rows, report.listing minimum = .ok listing ∧ report.rows minimum = .ok rows ∧
      Agreement report minimum listing rows := by
  have hwell : ∀ execution ∈ report.displayed minimum, execution.result.WellFormed :=
    fun execution hmem => Result.validate_eq_ok_iff.1 (hvalid execution (mem_displayed.1 hmem).1)
  have hentries : ∀ execution ∈ report.displayed minimum,
      ∃ entry, execution.result.entry = .ok entry :=
    fun execution hmem =>
      (hwell execution hmem).entry_isOk_iff.2 (htexts execution (mem_displayed.1 hmem).1)
  obtain ⟨listing, hlisting⟩ := listing_isOk_iff.2 hentries
  obtain ⟨rows, hrows⟩ : ∃ rows, report.rows minimum = .ok rows := Table.rows_isOk hwell
  have hitems := displayed_of_listing hlisting
  have hshows : List.Forall₂ Table.Row.Shows rows listing.outline.findings :=
    Table.shows_of_entries hitems hrows
  refine ⟨listing, rows, hlisting, hrows, report.ordered_perm.filter _,
    report.displayed_eq minimum, hitems, hshows, ?_⟩
  rintro options rfl
  obtain ⟨before, hlines⟩ := tableLines_eq hrows
  refine ⟨before, ?_⟩
  rw [hlines, Table.summary_eq report hshows]
  cases Table.durationText report.durationMs <;> rfl

/-- Results of two categories, not in display order, of which one passes no threshold. -/
def shuffled : Report where
  executions := [⟨"c", .workload, 0, .single (.text "3") .violated⟩,
    ⟨"a", .component, 1, .single (.text "4") .undetermined⟩,
    ⟨"b", .component, 2, .single (.text "5") .met⟩]
  incidents := []
  skipped := []
  incomplete := false
  abandoned := 0
  abandonedChecks := []
  current := none
  target := none
  durationMs := 0

theorem exists_agreement_shuffled :
    (∀ execution ∈ shuffled.executions, execution.result.validate = .ok ()) ∧
    (∀ execution ∈ shuffled.executions, execution.result.TextAnnotated) ∧
    (shuffled.displayed .warning).map (·.checkId) = ["a", "c"] ∧
    ∃ listing rows, shuffled.listing .warning = .ok listing ∧ shuffled.rows .warning = .ok rows ∧
      rows.map (·.glyph) = ["⚠", "✗"] ∧
      listing.outline.countLine = "Summary: Total: 2 | Passed: 0 | Failed: 2" ∧
      Agreement shuffled .warning listing rows := by
  have hvalid : ∀ execution ∈ shuffled.executions, execution.result.validate = .ok () := by
    simp [shuffled, Result.validate_eq_ok_iff, Result.wellFormed_single]
  have htexts : ∀ execution ∈ shuffled.executions, execution.result.TextAnnotated := by
    simp [shuffled, Result.TextAnnotated, Result.single, Document.encodedText?]
  obtain ⟨listing, rows, hlisting, hrows, hagreement⟩ := exists_agreement hvalid htexts .warning
  have hglyphs : (shuffled.rows .warning).map (List.map (·.glyph)) = .ok ["⚠", "✗"] := rfl
  have hcounts : (shuffled.listing .warning).map (·.outline.countLine) =
      .ok "Summary: Total: 2 | Passed: 0 | Failed: 2" := rfl
  rw [hrows] at hglyphs
  rw [hlisting] at hcounts
  exact ⟨hvalid, htexts, rfl, listing, rows, hlisting, hrows, Except.ok.inj hglyphs,
    Except.ok.inj hcounts, hagreement⟩

end Report

end Preflight
