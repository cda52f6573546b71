import Preflight.Command.Basic
import Preflight.Proofs.Report.Reading
import Preflight.Proofs.Rows

/-!
# Exit codes and structured reports

The exit code of a run is worked out from the severities of what is shown.  A structured report
shows no severities, only the statuses of conditions, as texts.  They are enough: whoever reads the
report can work out the exit code again, and nothing that the report hides has a part in it.
-/

namespace Preflight

/-! ## Working out a failure from a document -/

namespace Outline

/-- Whether a result has a violated condition. -/
def isViolated (result : Outline) : Bool := result.statuses.contains "False"

/-- Whether a result has a condition that could not be evaluated, and none that is violated. -/
def isUndetermined (result : Outline) : Bool :=
  result.statuses.contains "Unknown" && !result.isViolated

/-- Whether the results of a document fail a run. -/
def fails (failOnCritical failOnWarning : Bool) (document : Outline) : Bool :=
  (failOnCritical && (document.itemsOf "items").any isViolated) ||
    (failOnWarning && (document.itemsOf "items").any isUndetermined)

end Outline

/-! ## Severities and statuses -/

theorem Condition.spells_iff {c : Condition} {entry : ConditionEntry} (hentry : c.entry = .ok entry)
    (status : ConditionStatus) : c.status.spells status ↔ entry.status = status.name := by
  rw [Condition.entry] at hentry
  split at hentry
  · rename_i known hknown
    cases hentry
    simp [hknown, StatusLabel.spells, StatusLabel.spelled?, ConditionStatus.name_injective.eq_iff]
  · cases hentry

namespace Severity

variable {conditions : List Condition}

theorem ofConditions_eq_critical_iff :
    ofConditions conditions = some critical ↔ ∃ c ∈ conditions, c.status.spells .violated := by
  rw [← List.any_eq_true, ofConditions]
  by_cases hempty : conditions = []
  · simp [hempty]
  rw [if_neg (by simpa using hempty)]
  cases conditions.any (·.status.spells .violated) <;>
    cases conditions.any (·.status.spells .undetermined) <;> simp

theorem ofConditions_eq_warning_iff :
    ofConditions conditions = some warning ↔
      (∃ c ∈ conditions, c.status.spells .undetermined) ∧
        ¬∃ c ∈ conditions, c.status.spells .violated := by
  rw [← List.any_eq_true, ← List.any_eq_true, ofConditions]
  by_cases hempty : conditions = []
  · simp [hempty]
  rw [if_neg (by simpa using hempty)]
  cases conditions.any (·.status.spells .violated) <;>
    cases conditions.any (·.status.spells .undetermined) <;> simp

end Severity

/-! ## Results and their entries -/

namespace Result

variable {r : Result} {entry : ResultEntry}

/-- A status that some condition has is written in the entry. -/
theorem exists_spells_iff (hentry : r.entry = .ok entry) (status : ConditionStatus) :
    (∃ c ∈ r.conditions, c.status.spells status) ↔ status.name ∈ entry.outline.statuses := by
  rw [ResultEntry.statuses_outline, List.mem_map]
  exact Rows.exists_mem_iff (conditions_of_entry hentry) fun c written hwritten =>
    Condition.spells_iff hwritten status

theorem isViolated_iff (hentry : r.entry = .ok entry) :
    Severity.ofConditions r.conditions = some .critical ↔ entry.outline.isViolated := by
  rw [Severity.ofConditions_eq_critical_iff, exists_spells_iff hentry, Outline.isViolated,
    List.contains_iff_mem]
  rfl

theorem isUndetermined_iff (hentry : r.entry = .ok entry) :
    Severity.ofConditions r.conditions = some .warning ↔ entry.outline.isUndetermined := by
  rw [Severity.ofConditions_eq_warning_iff, exists_spells_iff hentry, exists_spells_iff hentry]
  simp [Outline.isUndetermined, Outline.isViolated, ConditionStatus.name]

end Result

namespace Report

variable {report : Report} {minimum : MinimumSeverity} {listing : Listing}

/-- A severity is found among what is shown exactly when the document has a result that shows it. -/
theorem contains_shown_iff (hlisting : report.listing minimum = .ok listing) {severity : Severity}
    {shows : Outline → Bool}
    (hshows : ∀ (r : Result) (entry : ResultEntry), r.entry = .ok entry →
      (Severity.ofConditions r.conditions = some severity ↔ shows entry.outline)) :
    ((shown minimum report.executions).map Execution.severity).contains (some severity) =
      (listing.outline.itemsOf "items").any shows := by
  have hdisplayed : (∃ execution ∈ report.displayed minimum, execution.severity = some severity) ↔
      ∃ entry ∈ listing.items, shows entry.outline :=
    Rows.exists_mem_iff (displayed_of_listing hlisting) fun execution entry hentry =>
      hshows execution.result entry hentry
  rw [Bool.eq_iff_iff, List.contains_iff_mem, List.mem_map, Listing.itemsOf_outline,
    List.any_map, List.any_eq_true]
  refine Iff.trans ?_ hdisplayed
  simp only [mem_displayed, shown, List.mem_filter]

/-- Whether a run fails depends on what is shown only. -/
theorem fails_shown (report : Report) (policy : FailurePolicy) :
    fails { report with executions := shown policy.minimum report.executions } policy =
      report.fails policy := by
  simp only [fails, shown, List.filter_filter, Bool.and_self]

end Report

namespace Command

/-- The exit code of a run is what can be worked out from its structured report and from whether it
was cut short.  Results that the report hides have no part in it. -/
theorem exitCodeOf_eq_of_listing {config : Config} {report : Report}
    (hvalid : ∀ execution ∈ report.executions, execution.result.validate = .ok ())
    (htexts : ∀ execution ∈ report.executions, execution.result.TextAnnotated) :
    (∃ listing, report.listing config.minimum = .ok listing ∧
      exitCodeOf config report =
        if report.incomplete ||
          listing.outline.fails config.failOnCritical config.failOnWarning then 1 else 0) ∧
    exitCodeOf config { report with
      executions := Report.shown config.minimum report.executions } = exitCodeOf config report := by
  constructor
  · have hentries : ∀ execution ∈ report.displayed config.minimum,
        ∃ entry, execution.result.entry = .ok entry := by
      intro execution hmem
      obtain ⟨hexecuted, -⟩ := Report.mem_displayed.1 hmem
      have hwell := Result.validate_eq_ok_iff.1 (hvalid execution hexecuted)
      exact hwell.entry_isOk_iff.2 (htexts execution hexecuted)
    obtain ⟨listing, hlisting⟩ := Report.listing_isOk_iff.2 hentries
    have hcritical := Report.contains_shown_iff hlisting fun r entry => Result.isViolated_iff
    have hwarning := Report.contains_shown_iff hlisting fun r entry => Result.isUndetermined_iff
    refine ⟨listing, hlisting, ?_⟩
    simp only [exitCodeOf, Report.fails, policyOf, hcritical, hwarning, Outline.fails,
      Bool.or_assoc]
    rfl
  · exact congrArg (fun failed => if failed then Outcome.findings else Outcome.passed)
      (Report.fails_shown report (policyOf config))

/-- Two results, of which only the violated one is shown. -/
def mixed : Report where
  executions := [⟨"a", .component, 0, .single (.text "3") .undetermined⟩,
    ⟨"b", .workload, 1, .single (.text "4") .violated⟩]
  incidents := []
  skipped := []
  incomplete := false
  abandoned := 0
  abandonedChecks := []
  current := none
  target := none
  durationMs := 0

theorem exitCodeOf_mixed :
    let config := { Config.standard with minimum := .critical, failOnWarning := true }
    (∀ execution ∈ mixed.executions, execution.result.validate = .ok ()) ∧
    (∀ execution ∈ mixed.executions, execution.result.TextAnnotated) ∧
    (∃ listing, mixed.listing config.minimum = .ok listing ∧ listing.items.length = 1 ∧
      exitCodeOf config mixed = if mixed.incomplete || listing.outline.fails true true
        then 1 else 0) ∧
    exitCodeOf config mixed = 1 := by
  intro config
  have hvalid : ∀ execution ∈ mixed.executions, execution.result.validate = .ok () := by
    simp [mixed, Result.validate_eq_ok_iff, Result.wellFormed_single]
  have htexts : ∀ execution ∈ mixed.executions, execution.result.TextAnnotated := by
    simp [mixed, Result.TextAnnotated, Result.single, Document.encodedText?]
  have hcodes : ∃ listing, mixed.listing config.minimum = .ok listing ∧
      exitCodeOf config mixed =
        if mixed.incomplete || listing.outline.fails true true then 1 else 0 :=
    (exitCodeOf_eq_of_listing hvalid htexts).1
  obtain ⟨listing, hlisting, hcode⟩ := hcodes
  refine ⟨hvalid, htexts, ⟨listing, hlisting, ?_, hcode⟩, rfl⟩
  rw [← (Report.displayed_of_listing hlisting).length_eq]
  rfl

end Command

end Preflight
