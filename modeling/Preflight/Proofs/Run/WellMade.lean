import Preflight.Proofs.Catalog.WellMade
import Preflight.Proofs.Run.Workloads

/-!
# Runs of the catalogue record no refused result

A run records a failure when a check cannot say whether it applies, when instances cannot be listed,
and when a check fails or hands back something that is not accepted.  On a snapshot the catalogue
leaves only one of these: that a check fails on the objects that it looks at.
-/

namespace Preflight

open Fault (Within within_ok within_error)

/-- The check can always say whether it applies. -/
theorem Catalog.canApply_isOk {check : Check} (hmem : check ∈ checks)
    (current target : Option Version) (clock : Clock) :
    ∃ verdict, ((check.canApply current target).runAt clock).1 = .ok verdict := by
  simp only [checks, List.mem_cons, List.not_mem_nil, or_false] at hmem
  rcases hmem with rfl | rfl | rfl | rfl | rfl | rfl <;> exact ⟨_, rfl⟩

namespace Run

open Preflight.Action

variable {registry : Registry} {request : Request} {clock : Clock} {s : Snapshot}

/-- A failure that planning records is the failure of a check that was asked whether it applies or
of a listing. -/
theorem Course.cause_of_mem_incidents {course : Course} {incident : Incident}
    (hmem : incident ∈ course.incidents) :
    (∃ step ∈ course.steps, step.decision.verdict = .error incident.cause) ∨
      ∃ listing ∈ course.listings, ∃ type, listing.failure? = some (type, incident.cause) := by
  have hlisted {check : Check} {listings : List Listing}
      (hin : incident ∈ Planning.listingIncidents check (listings.filterMap Listing.failure?)) :
      ∃ listing ∈ listings, ∃ type, listing.failure? = some (type, incident.cause) := by
    obtain ⟨⟨type, cause⟩, hfailed, rfl⟩ := List.mem_map.1 hin
    obtain ⟨listing, hlisting, hfailure⟩ := List.mem_filterMap.1 hfailed
    exact ⟨listing, hlisting, type, hfailure⟩
  obtain hstep | hunfinished := List.mem_append.1 hmem
  · obtain ⟨⟨check, decision⟩, hstep, hin⟩ := List.mem_flatMap.1 hstep
    cases decision with
    | failed cause =>
      rw [List.mem_singleton.1 hin]
      exact .inl ⟨_, hstep, rfl⟩
    | skipped => cases hin
    | alone => cases hin
    | perInstance listings =>
      obtain ⟨listing, hlisting, hfailure⟩ := hlisted hin
      refine .inr ⟨listing, List.mem_append_left _ ?_, hfailure⟩
      exact List.mem_flatMap.2 ⟨_, hstep, hlisting⟩
  · rw [unfinishedIncidents] at hunfinished
    split at hunfinished
    · cases hunfinished
    · obtain ⟨listing, hlisting, hfailure⟩ := hlisted hunfinished
      exact .inr ⟨listing, List.mem_append_right _ hlisting, hfailure⟩

/-- The only failure of a listing on a snapshot is not recorded. -/
theorem Listing.failure?_list (s : Snapshot) (t : ResourceType) :
    Listing.failure? ⟨t, s.list t⟩ = none := by
  by_cases hserved : t ∈ s.served
  · rw [Snapshot.list_of_served hserved]
    rfl
  · rw [Snapshot.list_of_unserved hserved]
    rfl

/-- What a check of the catalogue finds is accepted, and it fails outside the program's own
domain. -/
theorem Attempt.foreign_answer {invocation : Invocation} (hmem : invocation.check ∈ Catalog.checks)
    (hreader : invocation.target.reader = .ofSnapshot s) (context : Context) (moment : Clock) :
    Within Fault.IsForeign (answer context invocation moment) := by
  obtain ⟨category, -, hyields⟩ := Catalog.finishes_of_mem hmem
  have hreturned := hyields s context invocation.target hreader
  cases hrun : ((invocation.check.validate context invocation.target).runAt moment).1 with
  | error fault =>
    rw [answer, hrun]
    exact within_error (hreturned.within_runAt moment fault hrun)
  | ok returned =>
    obtain ⟨r, rfl, hmade⟩ := hreturned.meets_of_runAt hrun
    rw [answer_of_wellFormed (Result.validate_eq_ok_iff.1 hmade.accepted) hrun]
    exact within_ok r

/-- However such an invocation was tried, what it came to is accepted or a failure of that kind. -/
theorem Attempt.Made.foreign {context : Context} {invocation : Invocation} {attempt : Attempt}
    (hmade : Made context invocation attempt) (hmem : invocation.check ∈ Catalog.checks)
    (hreader : invocation.target.reader = .ofSnapshot s) :
    Within Fault.IsForeign attempt.outcome := by
  cases hmade with
  | late hover => exact within_error rfl
  | answered hbefore => exact foreign_answer hmem hreader context _

namespace History

variable {history : History} {durationMs : Int}

theorem Happened.course_incidents_of_snapshot
    (hhappened : history.Happened registry (.ofSnapshot s) request clock)
    (hregistered : ∀ check ∈ history.checks, check ∈ Catalog.checks) :
    history.course.incidents = [] := by
  obtain ⟨context, htaken⟩ := hhappened.taken
  rw [List.eq_nil_iff_forall_not_mem]
  intro incident hmem
  obtain ⟨step, hstep, hfailed⟩ | ⟨listing, hlisting, type, hfailure⟩ :=
    Course.cause_of_mem_incidents hmem
  · have hcheck : step.check ∈ history.checks := by
      rw [hhappened.checks_eq]
      exact List.mem_append_left _ (List.mem_map_of_mem hstep)
    obtain ⟨moment, hanswered⟩ := htaken.answered step hstep
    obtain ⟨verdict, hverdict⟩ := Catalog.canApply_isOk (hregistered _ hcheck)
      history.base.current history.base.target moment
    rw [hanswered, hfailed] at hverdict
    cases hverdict
  · obtain ⟨moment, hlisted⟩ := htaken.listed listing hlisting
    rw [hhappened.base_eq] at hlisted
    obtain ⟨t, found⟩ := listing
    have hlists : found = s.list t := hlisted
    rw [hlists, Listing.failure?_list] at hfailure
    cases hfailure

/-- Every failure that a run of checks of the catalogue records is a failure of one of them on the
objects that it looked at. -/
theorem Happened.foreign_incidents
    (hhappened : history.Happened registry (.ofSnapshot s) request clock)
    (hregistered : ∀ check ∈ history.checks, check ∈ Catalog.checks) :
    ∀ incident ∈ (history.report request durationMs).incidents, incident.cause.IsForeign := by
  intro incident hmem
  rw [report, hhappened.course_incidents_of_snapshot hregistered, List.nil_append] at hmem
  obtain ⟨attempt, hattempt, hincident⟩ := List.mem_filterMap.1 hmem
  have hinvoked := hhappened.mem_invocations attempt hattempt
  have hcheck : attempt.invocation.check ∈ Catalog.checks :=
    hregistered _ (hhappened.mem_checks_of_planned _ (Course.check_mem_planned _ hinvoked))
  have hreader : attempt.invocation.target.reader = .ofSnapshot s := by
    rw [Course.reader_of_mem _ _ hinvoked, hhappened.base_eq]
  obtain ⟨cause, hcause, rfl⟩ := Attempt.eq_of_incident? hincident
  obtain ⟨context, -, -, -, htried⟩ := hhappened.ran
  by_cases hcomplete : history.course.abandoned = []
  · have hmade := Attempt.made_of_mem (htried hcomplete) attempt hattempt
    exact hmade.foreign hcheck hreader _ hcause
  · rw [hhappened.untried hcomplete] at hattempt
    cases hattempt

end History

/-- Every check of the catalogue, on whatever is in a snapshot and whatever it is asked about, fails
or hands back a well-made result under the group of its category.  So what a run of the catalogue in
the prompt pool records is never that a result was refused. -/
theorem catalog_wellMade :
    (∀ check ∈ Catalog.checks, ∃ category, check.category = .known category ∧
      ∀ (s : Snapshot) (context : Context) (target : Target) (clock : Clock),
        target.reader = .ofSnapshot s →
        (∃ fault, ((check.validate context target).runAt clock).1 = .error fault) ∨
          ∃ r, ((check.validate context target).runAt clock).1 = .ok (.result r) ∧
            Catalog.WellMade category r) ∧
    ∀ (registry : Registry) (s : Snapshot) (request : Request) (clock : Clock) (outcome : Outcome),
      Catalog.registry = .ok registry →
      (execute registry (.ofSnapshot s) request).ReturnsAt clock outcome →
      ∀ incident ∈ outcome.report.incidents, ¬incident.cause.IsValidation := by
  constructor
  · intro check hmem
    obtain ⟨category, hcategory, hyields⟩ := Catalog.finishes_of_mem hmem
    refine ⟨category, hcategory, fun s context target clock hreader => ?_⟩
    cases hrun : ((check.validate context target).runAt clock).1 with
    | error fault => exact .inl ⟨fault, rfl⟩
    | ok returned =>
      obtain ⟨r, rfl, hmade⟩ := (hyields s context target hreader).meets_of_runAt hrun
      exact .inr ⟨r, rfl, hmade⟩
  · intro registry s request clock outcome hregistry hreturns incident hmem
    obtain ⟨history, hhistory, -, durationMs, -, rfl⟩ := execute_returnsAt_iff.1 hreturns
    have hhappened := History.happened hhistory
    have hregistered : ∀ check ∈ history.checks, check ∈ Catalog.checks := by
      intro check hcheck
      have hin := mem_of_mem_resolve hhappened.resolved check hcheck
      rwa [show registry = ⟨Catalog.checks, false⟩ from Except.ok.inj hregistry.symm] at hin
    exact (hhappened.foreign_incidents hregistered incident hmem).not_isValidation

/-- A cluster in which the state of a component is a number. -/
def unruly : Snapshot :=
  ⟨ResourceType.wellKnown,
    [⟨[(.text "apiVersion", .text "datasciencecluster.opendatahub.io/v1"),
      (.text "kind", .text "DataScienceCluster"),
      (.text "spec", .map [(.text "components",
        .map [(.text "kueue", .map [(.text "managementState", .int 3)])])])]⟩]⟩

/-- The request to run the checks of components before an upgrade to the next major release. -/
def Request.components : Request := { Request.upgrade with selectors := ["components"] }

/-- The check of that component fails on it, and the run of all checks of components still
returns. -/
theorem catalog_wellMade_unruly :
    (∃ fault, ((Catalog.kueue.validate .unlimited ⟨.ofSnapshot unruly, none, none, none⟩).runAt
      beginning).1 = .error fault ∧ ¬fault.IsValidation) ∧
    (∃ r, ((Catalog.codeFlare.validate .unlimited ⟨.ofSnapshot unruly, none, none, none⟩).runAt
      beginning).1 = .ok (.result r) ∧ Catalog.WellMade .component r) ∧
    ∃ outcome, (execute ⟨Catalog.checks, false⟩ (.ofSnapshot unruly)
        .components).ReturnsAt beginning outcome ∧
      ∀ incident ∈ outcome.report.incidents, ¬incident.cause.IsValidation := by
  obtain ⟨hchecks, hruns⟩ := catalog_wellMade
  refine ⟨⟨_, rfl, id⟩, ?_, ?_⟩
  · obtain ⟨category, hcategory, hreturned⟩ :=
      hchecks Catalog.codeFlare (by simp [Catalog.checks])
    cases hcategory
    obtain ⟨fault, hfault⟩ | hmade :=
      hreturned unruly .unlimited ⟨.ofSnapshot unruly, none, none, none⟩ beginning rfl
    · cases hfault
    · exact hmade
  · have hnone : ∀ t ∈ Catalog.workloadTypes, (unruly.instances t).isEmpty = true := by decide
    have hwell : ∀ t ∈ Catalog.workloadTypes, ∀ m ∈ unruly.instances t, m.WellNamed := by
      intro t ht m hm
      rw [List.isEmpty_iff.1 (hnone t ht)] at hm
      cases hm
    obtain ⟨checks, hresolve⟩ := resolve_isOk ⟨Catalog.checks, false⟩ none
      (show Selector.validateAll ["components"] = .ok () from rfl)
    have hunlimited : Request.components.IsUnlimited := Request.isUnlimited_upgrade
    obtain ⟨history, hhistory, hdescribable, hduration⟩ :=
      History.told_of_snapshot hunlimited hresolve (mem_of_mem_resolve hresolve) hwell
        (show beginning.now.isNaN = false from rfl) rfl
    have hreturns := execute_returnsAt_iff.2 ⟨history, hhistory, hdescribable, 0, hduration, rfl⟩
    exact ⟨_, hreturns, hruns _ unruly _ beginning _ rfl hreturns⟩

end Run

end Preflight
