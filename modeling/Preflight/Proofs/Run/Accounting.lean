import Preflight.Proofs.Run.Rendering

/-!
# The accounts of a run

Planning puts every check that it deals with into one of three classes, and collecting ends every
invocation in one of three ways.  Both facts are about one step; a run adds the steps up.
-/

namespace Preflight

namespace Run.Incident

def isApplicability (incident : Incident) : Bool := incident.stage == .applicability

/-- An invocation failed, not a listing. -/
def isInvocation (incident : Incident) : Bool :=
  match incident.stage with
  | .invocation _ => true
  | _ => false

end Run.Incident

namespace Report

open Run

/-- The checks of which it is recorded that they could not say whether they apply, once for each
record. -/
def unclear (report : Report) : List String :=
  (report.incidents.filter Incident.isApplicability).map (·.checkId)

def failures (report : Report) : List Incident := report.incidents.filter Incident.isInvocation

end Report

namespace Run

/-! ## The classes of checks -/

def Step.failure? (step : Step) : Option Incident :=
  match step.decision with
  | .failed cause => some ⟨step.check.id, .applicability, cause⟩
  | _ => none

theorem filter_listingIncidents {test : Incident → Bool}
    (htest : ∀ id type cause, test ⟨id, .listing type, cause⟩ = false) (check : Check)
    (failures : List (String × Fault)) :
    (Planning.listingIncidents check failures).filter test = [] := by
  apply List.filter_eq_nil_iff.2
  intro incident hmem
  obtain ⟨failure, -, rfl⟩ := List.mem_map.1 hmem
  simp [htest]

theorem Step.filter_incidents {test : Incident → Bool}
    (htest : ∀ id type cause, test ⟨id, .listing type, cause⟩ = false) (step : Step) :
    step.incidents.filter test = step.failure?.toList.filter test := by
  obtain ⟨check, decision⟩ := step
  cases decision with
  | failed cause => rfl
  | skipped => rfl
  | alone => rfl
  | perInstance listings => exact filter_listingIncidents htest check _

namespace Course

/-- Each step counts for its check in exactly one of the classes. -/
theorem count_classes (course : Course) (id : String) :
    (course.skipped.map (·.id)).count id + (course.failed.map (·.id)).count id +
      (course.planned.map (·.id)).count id = (course.steps.map (·.check.id)).count id := by
  rw [skipped, failed, planned]
  induction course.steps with
  | nil => rfl
  | cons step rest ih =>
    obtain ⟨check, decision⟩ := step
    cases decision <;>
      simp [Decision.isSkipped, Decision.isFailed, Decision.isPlanned, List.count_cons] at ih ⊢ <;>
      omega

/-- Apart from failed listings, planning records that checks could not say whether they apply. -/
theorem filter_incidents {test : Incident → Bool}
    (htest : ∀ id type cause, test ⟨id, .listing type, cause⟩ = false) (course : Course) :
    course.incidents.filter test = (course.steps.filterMap Step.failure?).filter test := by
  have hunfinished : course.unfinishedIncidents.filter test = [] := by
    rw [unfinishedIncidents]
    split
    · rfl
    · exact filter_listingIncidents htest _ _
  rw [incidents, List.filter_append, hunfinished, List.append_nil]
  induction course.steps with
  | nil => rfl
  | cons step rest ih =>
    rw [List.flatMap_cons, List.filter_append, Step.filter_incidents htest, ih,
      ← List.filter_append]
    cases hfailure : step.failure? <;> simp [hfailure]

theorem unclear_incidents (course : Course) :
    (course.incidents.filter Incident.isApplicability).map (·.checkId) =
      course.failed.map (·.id) := by
  rw [filter_incidents (fun _ _ _ => rfl), failed]
  induction course.steps with
  | nil => rfl
  | cons step rest ih =>
    obtain ⟨check, decision⟩ := step
    cases decision with
    | failed cause => exact congrArg (check.id :: ·) ih
    | skipped => exact ih
    | alone => exact ih
    | perInstance listings => exact ih

theorem failures_incidents (course : Course) :
    course.incidents.filter Incident.isInvocation = [] := by
  rw [filter_incidents (fun _ _ _ => rfl)]
  apply List.filter_eq_nil_iff.2
  intro incident hmem
  obtain ⟨step, -, hfailure⟩ := List.mem_filterMap.1 hmem
  obtain ⟨check, decision⟩ := step
  cases decision <;> cases hfailure
  exact Bool.false_ne_true

theorem check_mem_planned {course : Course} {base : Target} :
    ∀ invocation ∈ course.invocations base, invocation.check ∈ course.planned := by
  intro invocation hmem
  obtain ⟨⟨check, decision⟩, hstep, hof⟩ := List.mem_flatMap.1 hmem
  have hplanned : decision.isPlanned ∧ invocation.check = check := by
    cases decision with
    | failed cause => cases hof
    | skipped => cases hof
    | alone =>
      rw [List.mem_singleton.1 hof]
      exact ⟨rfl, rfl⟩
    | perInstance listings =>
      obtain ⟨target, -, rfl⟩ := List.mem_map.1 hof
      exact ⟨rfl, rfl⟩
  exact List.mem_map.2 ⟨_, List.mem_filter.2 ⟨hstep, hplanned.1⟩, hplanned.2.symm⟩

/-- Only checks that planning was given are invoked. -/
theorem Taken.check_mem {context : Context} {base given : Target} {checks : List Check}
    {clock : Clock} {course : Course} (htaken : Taken context base checks clock course) :
    ∀ invocation ∈ course.invocations given, invocation.check ∈ checks := by
  intro invocation hmem
  obtain ⟨step, hstep, hcheck⟩ := List.mem_map.1 (check_mem_planned invocation hmem)
  rw [htaken.checks_eq, ← hcheck]
  exact List.mem_append_left _ (List.mem_map_of_mem (List.mem_filter.1 hstep).1)

end Course

/-! ## The ends of invocations -/

namespace Attempt

theorem eq_of_incident? {attempt : Attempt} {incident : Incident}
    (hincident : attempt.incident? = some incident) : ∃ cause,
      attempt.outcome = .error cause ∧ incident =
        ⟨attempt.invocation.check.id, .invocation attempt.invocation.target.place, cause⟩ := by
  rw [incident?] at hincident
  split at hincident
  · cases hincident
  rename_i cause houtcome
  split at hincident
  · cases hincident
  cases hincident
  exact ⟨cause, houtcome, rfl⟩

end Attempt

/-- How a run whose planning came to its end is reported: everything planned was tried in order,
and each attempt ended as one execution, as one recorded failure, or abandoned. -/
structure Ended (history : History) (report : Report) : Prop where
  tried : history.attempts.map (·.invocation) = history.invocations
  executions : report.executions = Collection.executionsOf 0 history.attempts
  failures : report.failures = history.attempts.filterMap Attempt.incident?
  abandoned : report.abandoned = history.attempts.countP Attempt.isAbandoned
  once : ∀ attempt ∈ history.attempts, ∀ sequence,
    (attempt.execution? sequence).toList.length + attempt.incident?.toList.length +
      attempt.isAbandoned.toNat = 1

namespace History

variable {registry : Registry} {reader : Reader} {request : Request} {clock : Clock}
variable {history : History} {durationMs : Int}

/-- The checks of a run are different checks of its registry. -/
theorem Happened.checks_nodup (hhappened : history.Happened registry reader request clock) :
    (history.checks.map (·.id)).Nodup :=
  resolve_nodup hhappened.resolved

theorem Happened.checks_eq (hhappened : history.Happened registry reader request clock) :
    history.checks = history.course.steps.map (·.check) ++ history.course.abandoned := by
  obtain ⟨context, htaken⟩ := hhappened.taken
  exact htaken.checks_eq

theorem Happened.mem_invocations (hhappened : history.Happened registry reader request clock) :
    ∀ attempt ∈ history.attempts, attempt.invocation ∈ history.invocations := by
  intro attempt hmem
  by_cases hcomplete : history.course.abandoned = []
  · rw [← hhappened.tried hcomplete]
    exact List.mem_map_of_mem hmem
  · simp [hhappened.untried hcomplete] at hmem

theorem Happened.mem_checks_of_planned
    (hhappened : history.Happened registry reader request clock) :
    ∀ check ∈ history.course.planned, check ∈ history.checks := by
  intro check hmem
  obtain ⟨step, hstep, rfl⟩ := List.mem_map.1 hmem
  rw [hhappened.checks_eq]
  exact List.mem_append_left _ (List.mem_map_of_mem (List.mem_filter.1 hstep).1)

theorem Happened.category (hhappened : history.Happened registry reader request clock)
    (hreachable : registry.Reachable) : ∀ attempt ∈ history.attempts,
      ∃ category, attempt.invocation.check.category = .known category := by
  intro attempt hmem
  have hplanned := Course.check_mem_planned _ (hhappened.mem_invocations attempt hmem)
  have hchecks := hhappened.mem_checks_of_planned _ hplanned
  exact hreachable.category _ (mem_of_mem_resolve hhappened.resolved _ hchecks)

theorem unclear_report : (history.report request durationMs).unclear =
    history.course.failed.map (·.id) := by
  have hattempts : (history.attempts.filterMap Attempt.incident?).filter
      Incident.isApplicability = [] := by
    apply List.filter_eq_nil_iff.2
    intro incident hmem
    obtain ⟨attempt, -, hincident⟩ := List.mem_filterMap.1 hmem
    obtain ⟨cause, -, rfl⟩ := Attempt.eq_of_incident? hincident
    exact Bool.false_ne_true
  rw [Report.unclear, report, List.filter_append, hattempts, List.append_nil,
    Course.unclear_incidents]

theorem failures_report : (history.report request durationMs).failures =
    history.attempts.filterMap Attempt.incident? := by
  rw [Report.failures, report, List.filter_append, Course.failures_incidents, List.nil_append]
  apply List.filter_eq_self.2
  intro incident hmem
  obtain ⟨attempt, -, hincident⟩ := List.mem_filterMap.1 hmem
  obtain ⟨cause, -, rfl⟩ := Attempt.eq_of_incident? hincident
  rfl

theorem Happened.ended_report (hhappened : history.Happened registry reader request clock)
    (hreachable : registry.Reachable) (hcomplete : history.course.abandoned = []) :
    Ended history (history.report request durationMs) where
  tried := hhappened.tried hcomplete
  executions := rfl
  failures := failures_report
  abandoned := by simp [report, abandoned, hcomplete]
  once attempt hmem sequence := by
    obtain ⟨category, hcategory⟩ := hhappened.category hreachable attempt hmem
    exact attempt.ends_once sequence hcategory

theorem Happened.one_class (hhappened : history.Happened registry reader request clock) :
    ∀ step ∈ history.course.steps,
      (history.report request durationMs).skipped.count step.check.id +
        (history.report request durationMs).unclear.count step.check.id +
        (history.course.planned.map (·.id)).count step.check.id = 1 := by
  intro step hmem
  have hnodup : (history.course.steps.map (·.check.id)).Nodup := by
    have hall := hhappened.checks_nodup
    rw [hhappened.checks_eq, List.map_append, List.map_map] at hall
    exact (List.nodup_append.1 hall).1
  have hclasses := history.course.count_classes step.check.id
  rw [hnodup.count, if_pos (List.mem_map_of_mem hmem)] at hclasses
  rw [unclear_report]
  exact hclasses

theorem Happened.executed_planned (hhappened : history.Happened registry reader request clock) :
    ∀ execution ∈ (history.report request durationMs).executions,
      execution.checkId ∈ history.course.planned.map (·.id) := by
  intro execution hmem
  obtain ⟨⟨attempt, sequence⟩, hattempt, hexecution⟩ := List.mem_filterMap.1 hmem
  rw [(Attempt.of_execution? hexecution).1]
  have hmade := hhappened.mem_invocations attempt (List.fst_mem_of_mem_zipIdx hattempt)
  exact List.mem_map_of_mem (Course.check_mem_planned _ hmade)

end History

/-- How a report accounts for the checks and the invocations of a run. -/
structure Accounted (history : History) (report : Report) : Prop where
  /-- The checks that planning left are the last of the selected ones. -/
  suffix : history.checks.map (·.id) =
    history.course.steps.map (·.check.id) ++ report.abandonedChecks
  /-- Every check before them is skipped, failed or planned, once and only one of the three. -/
  classes : ∀ step ∈ history.course.steps,
    report.skipped.count step.check.id + report.unclear.count step.check.id +
      (history.course.planned.map (·.id)).count step.check.id = 1
  /-- A check that was skipped or failed is not invoked and has no execution. -/
  invoked : ∀ invocation ∈ history.invocations, invocation.check ∈ history.course.planned
  executed : ∀ execution ∈ report.executions,
    execution.checkId ∈ history.course.planned.map (·.id)
  /-- When planning was cut short, nothing that was planned is tried. -/
  cut : report.abandonedChecks ≠ [] → report.executions = [] ∧ report.failures = [] ∧
    report.abandoned = history.invocations.length + report.abandonedChecks.length
  /-- Otherwise every invocation is counted once. -/
  ended : report.abandonedChecks = [] → Ended history report
  total : report.abandonedChecks = [] → report.executions.length + report.failures.length +
    report.abandoned = history.invocations.length
  incomplete : report.incomplete = true ↔ 0 < report.abandoned

theorem History.Happened.accounted_report {registry : Registry} {reader : Reader}
    {request : Request} {clock : Clock} {history : History} {durationMs : Int}
    (hhappened : history.Happened registry reader request clock)
    (hreachable : registry.Reachable) : Accounted history (history.report request durationMs) where
  suffix := by
    rw [hhappened.checks_eq, List.map_append, List.map_map]
    rfl
  classes := hhappened.one_class
  invoked := Course.check_mem_planned
  executed := hhappened.executed_planned
  cut hcut := by
    have habandoned : history.course.abandoned ≠ [] := by simpa [History.report] using hcut
    have huntried := hhappened.untried habandoned
    refine ⟨?_, ?_, ?_⟩
    · simp [History.report, huntried, Collection.executionsOf]
    · simp [History.failures_report, huntried]
    · simp [History.report, History.abandoned, habandoned]
  ended hcomplete := hhappened.ended_report hreachable (by simpa [History.report] using hcomplete)
  total hcomplete := by
    have hended : Ended history (history.report request durationMs) :=
      hhappened.ended_report hreachable (by simpa [History.report] using hcomplete)
    rw [hended.executions, hended.failures, hended.abandoned, ← hended.tried, List.length_map]
    exact Collection.length_summary (hhappened.category hreachable) 0
  incomplete := by simp [History.report]

/-- Every run in the prompt pool that returns accounts for what it selected and for what it
planned. -/
theorem execute_accounted {registry : Registry} {reader : Reader} {request : Request}
    {clock : Clock} {outcome : Outcome} (hreachable : registry.Reachable)
    (hreturns : (execute registry reader request).ReturnsAt clock outcome) :
    ∃ history, History.ofRun registry reader request clock = .ok history ∧
      history.Happened registry reader request clock ∧ Accounted history outcome.report := by
  obtain ⟨history, hhistory, -, durationMs, -, rfl⟩ := execute_returnsAt_iff.1 hreturns
  have hhappened := History.happened hhistory
  exact ⟨history, hhistory, hhappened, hhappened.accounted_report hreachable⟩

/-- A check that takes a second for each target, and then asks whether to stop. -/
def paced (id : String) : Check :=
  { annotator (.text "3") with
    id
    validate := fun context _ => do
      Action.advance (.ofInt 1)
      context.raiseIfExpired
      return .result (.single (.text "3") .met) }

/-- Checks of every class: one does not apply, one cannot say whether it applies, and of those that
apply the last one judges instances. -/
def assortment : Registry where
  checks := [
    { reporter .runtime with id := "absent", canApply := fun _ _ => pure false },
    { reporter .runtime with
      id := "broken", canApply := fun _ _ => throw (.reported .runtime "no answer") },
    paced "first", paced "second",
    { reporter .runtime with
      id := "third", category := .known .workload, resourceTypes := [.notebook] }]
  frozen := false

theorem resolve_assortment :
    resolve assortment [Selector.wildcard] none = .ok assortment.checks := by
  have hids : assortment.checks.Pairwise fun a b => Check.idLe a b := by decide
  have hdisplay : assortment.checks.Pairwise fun a b => Check.displayLe a b := by decide
  exact resolve_wildcard hids hdisplay (by decide) false

theorem reachable_assortment : assortment.Reachable :=
  Registry.reachable_of_ofChecks (show Registry.ofChecks assortment.checks = .ok _ from rfl)

/-- A reader whose listings fail in some way. -/
def faltering (kind : ReportedKind) : Reader :=
  { barren with list := fun _ => throw (.reported kind "no answer") }

/-- A run of two seconds over checks of every class, in which the listing for one of them fails and
another is cut off. -/
theorem execute_accounted_assortment :
    ∃ outcome,
      (execute assortment (faltering .runtime) (.within 2)).ReturnsAt beginning outcome ∧
      outcome.report.skipped = ["absent"] ∧
      outcome.report.incidents.map (·.checkId) = ["broken", "third"] ∧
      outcome.report.executions.map (·.checkId) = ["first"] ∧
      outcome.report.abandoned = 1 ∧ outcome.report.incomplete = true ∧
      ∃ history, History.ofRun assortment (faltering .runtime) (.within 2) beginning =
          .ok history ∧
        history.Happened assortment (faltering .runtime) (.within 2) beginning ∧
        Accounted history outcome.report := by
  have hpositive : Duration.isSpent (.whole 2) = false := by decide
  obtain ⟨durationMs, hreturns⟩ :=
    execute_within resolve_assortment (faltering .runtime) .prompt hpositive
      (by decide +kernel) (by decide +kernel) (by decide +kernel)
  have haccounted := execute_accounted reachable_assortment hreturns
  have hskipped : (History.within 2 (faltering .runtime) assortment.checks).course.skipped.map
      (·.id) = ["absent"] := by decide +kernel
  have hincidents : ((History.within 2 (faltering .runtime) assortment.checks).course.incidents ++
      (History.within 2 (faltering .runtime) assortment.checks).attempts.filterMap
        Attempt.incident?).map (·.checkId) = ["broken", "third"] := by decide +kernel
  have hexecutions : (Collection.executionsOf 0
      (History.within 2 (faltering .runtime) assortment.checks).attempts).map (·.checkId) =
        ["first"] := by decide +kernel
  have habandoned :
      (History.within 2 (faltering .runtime) assortment.checks).abandoned = 1 := by decide +kernel
  generalize History.within 2 (faltering .runtime) assortment.checks = history at *
  exact ⟨_, hreturns, hskipped, hincidents, hexecutions, habandoned,
    decide_eq_true (habandoned ▸ Nat.one_pos), haccounted⟩

end Run

end Preflight
