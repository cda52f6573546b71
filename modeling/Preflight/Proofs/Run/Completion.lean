import Preflight.Proofs.Run.Accounting

/-!
# Runs without a deadline

A run without a deadline is never over, so it leaves nothing out for lack of time.  What it takes
for a sign that time has run out is the kind of a failure, and a check or a reader can report a
failure of that kind on its own account: then the run is marked as incomplete all the same.
-/

namespace Preflight.Run

/-- No deadline is set, because there is no timeout or because it is spent from the start. -/
def Request.IsUnlimited (request : Request) : Prop :=
  ∀ duration, request.timeout = some duration → duration.isSpent

structure History.Unhurried (history : History) : Prop where
  listings : ∀ listing ∈ history.course.listings, listing.timedOut = false
  attempts : ∀ attempt ∈ history.attempts, attempt.isAbandoned = false

/-- The run did everything that it was asked to do, and the report says so. -/
structure Completed (history : History) (report : Report) : Prop where
  unmarked : report.incomplete = false
  none_abandoned : report.abandoned = 0
  none_left : report.abandonedChecks = []
  /-- Every selected check is skipped, failed or planned, once and only one of the three. -/
  classes : ∀ check ∈ history.checks,
    report.skipped.count check.id + report.unclear.count check.id +
      (history.course.planned.map (·.id)).count check.id = 1
  ended : Ended history report
  once : ∀ attempt ∈ history.attempts, ∀ sequence,
    (attempt.execution? sequence).toList.length + attempt.incident?.toList.length = 1

theorem withTimeout_of_isUnlimited {request : Request} (hunlimited : request.IsUnlimited)
    (now : Binary64) : Context.withTimeout request.timeout now = .ok .unlimited := by
  simp only [Context.withTimeout]
  split
  · rfl
  · rename_i duration htimeout
    rw [if_pos (hunlimited duration htimeout)]

namespace History

variable {registry : Registry} {reader : Reader} {request : Request} {clock : Clock}
variable {history : History} {durationMs : Int}

/-- Without a deadline, whatever was listed or tried came to what the reader or the check itself
answered. -/
theorem Happened.answered (hhappened : history.Happened registry reader request clock)
    (hunlimited : request.IsUnlimited) :
    (∀ listing ∈ history.course.listings,
      ∃ moment, listing.outcome = ((reader.list listing.type).runAt moment).1) ∧
    ∀ attempt ∈ history.attempts,
      ∃ moment, attempt.outcome = Attempt.answer .unlimited attempt.invocation moment := by
  obtain ⟨context, hcontext, -, htaken, hmade⟩ := hhappened.ran
  rw [withTimeout_of_isUnlimited hunlimited] at hcontext
  cases hcontext
  constructor
  · have hlisted := htaken.listed
    rw [hhappened.base_eq] at hlisted
    exact hlisted
  · intro attempt hmem
    by_cases hcomplete : history.course.abandoned = []
    · have hthis := Attempt.made_of_mem (hmade hcomplete) attempt hmem
      generalize attempt.invocation = invocation at hthis
      cases hthis with
      | late hover => cases hover
      | answered hbefore => exact ⟨_, rfl⟩
    · simp [hhappened.untried hcomplete] at hmem

/-- A run without a deadline is completed exactly when nothing in it claimed to have run out of
time. -/
theorem Happened.completed_iff (hhappened : history.Happened registry reader request clock)
    (hreachable : registry.Reachable) (hunlimited : request.IsUnlimited) :
    Completed history (history.report request durationMs) ↔ history.Unhurried := by
  obtain ⟨context, hcontext, -, htaken, -⟩ := hhappened.ran
  rw [withTimeout_of_isUnlimited hunlimited] at hcontext
  cases hcontext
  have hleft := htaken.abandoned_eq_nil_iff fun _ => rfl
  constructor
  · intro hcompleted
    have hplanned : history.course.abandoned = [] := by
      simpa [report] using hcompleted.none_left
    have hcount := hcompleted.ended.abandoned.symm.trans hcompleted.none_abandoned
    exact ⟨hleft.1 hplanned, by simpa using List.countP_eq_zero.1 hcount⟩
  · intro hunhurried
    have hplanned := hleft.2 hunhurried.listings
    have hended : Ended history (history.report request durationMs) :=
      hhappened.ended_report hreachable hplanned
    have hcount : history.attempts.countP Attempt.isAbandoned = 0 :=
      List.countP_eq_zero.2 (by simpa using hunhurried.attempts)
    have hnone : history.abandoned = 0 := by simp [abandoned, hplanned, hcount]
    refine ⟨by simp [report, hnone], hnone, by simp [report, hplanned], ?_, hended, ?_⟩
    · intro check hmem
      rw [hhappened.checks_eq, hplanned, List.append_nil] at hmem
      obtain ⟨step, hstep, rfl⟩ := List.mem_map.1 hmem
      exact hhappened.one_class step hstep
    · intro attempt hmem sequence
      have honce := hended.once attempt hmem sequence
      rwa [hunhurried.attempts attempt hmem] at honce

end History

/-- A run in the prompt pool without a deadline that returns did everything that it was asked to do,
unless a listing or a check claimed to have run out of time; and this it claimed on its own
account. -/
theorem execute_completed_iff {registry : Registry} {reader : Reader} {request : Request}
    {clock : Clock} {outcome : Outcome} (hreachable : registry.Reachable)
    (hunlimited : request.IsUnlimited)
    (hreturns : (execute registry reader request).ReturnsAt clock outcome) :
    ∃ history, History.ofRun registry reader request clock = .ok history ∧
      history.Happened registry reader request clock ∧
      (Completed history outcome.report ↔ history.Unhurried) ∧
      (∀ listing ∈ history.course.listings,
        ∃ moment, listing.outcome = ((reader.list listing.type).runAt moment).1) ∧
      ∀ attempt ∈ history.attempts,
        ∃ moment, attempt.outcome = Attempt.answer .unlimited attempt.invocation moment := by
  obtain ⟨history, hhistory, -, durationMs, -, rfl⟩ := execute_returnsAt_iff.1 hreturns
  have hhappened := History.happened hhistory
  exact ⟨history, hhistory, hhappened, hhappened.completed_iff hreachable hunlimited,
    hhappened.answered hunlimited⟩

theorem execute_completed_reporter :
    ∃ outcome,
      (execute ⟨[reporter .runtime], false⟩ barren .everything).ReturnsAt beginning outcome ∧
      Request.everything.IsUnlimited ∧
      ∃ history, History.ofRun ⟨[reporter .runtime], false⟩ barren .everything beginning =
          .ok history ∧
        Completed history outcome.report := by
  have hreturns := execute_reporter .runtime barren
  have hunlimited : Request.everything.IsUnlimited := fun _ htimeout => by cases htimeout
  obtain ⟨history, hhistory, -, hiff, -⟩ :=
    execute_completed_iff (reachable_reporter .runtime) hunlimited hreturns
  have hsame := hhistory
  rw [History.ofRun_reporter] at hsame
  cases hsame
  refine ⟨_, hreturns, hunlimited, _, hhistory, hiff.2 ⟨?_, ?_⟩⟩
  · exact List.forall_mem_nil _
  · exact List.forall_mem_singleton.2 rfl

/-- A check that reports a timeout of its own leaves the run incomplete, without any deadline. -/
theorem execute_incomplete_without_deadline :
    Request.everything.timeout = none ∧
      ∃ outcome, (execute ⟨[reporter .timeout], false⟩ barren .everything).ReturnsAt beginning
          outcome ∧
        outcome.report.incomplete = true ∧ outcome.report.abandoned = 1 ∧
        outcome.report.executions = [] ∧ outcome.report.failures = [] :=
  ⟨rfl, _, execute_reporter .timeout barren, rfl, rfl, rfl, rfl⟩

end Preflight.Run
