import Preflight.Proofs.Run.History

/-!
# Runs that return

What a check or a reader fails with is recorded, or the check or the invocation is counted as
abandoned.  The name of an object is worked out apart from this: an object that is not well named
ends the run that tried it, and its report is lost.
-/

namespace Preflight.Run

/-- The deadline can be computed from the timeout. -/
def Request.TimeoutFits (request : Request) : Prop :=
  ∀ duration, request.timeout = some duration →
    duration.isSpent ∨ ∃ seconds, duration.seconds = .ok seconds

/-- Every failure of a run is recorded, or what failed is counted as abandoned.  A type that is not
served has no instances, which is no failure. -/
structure Recorded (history : History) (report : Report) : Prop where
  applicability : ∀ step ∈ history.course.steps, ∀ cause, step.decision = .failed cause →
    ⟨step.check.id, .applicability, cause⟩ ∈ report.incidents
  listing : ∀ step ∈ history.course.steps, ∀ listing ∈ step.decision.listings,
    ∀ cause, listing.outcome = .error cause → (∃ text, cause = .typeNotServed text) ∨
      ⟨step.check.id, .listing listing.type.text, cause⟩ ∈ report.incidents
  /-- The listings made for the check at which planning stopped. -/
  unfinished : ∀ listing ∈ history.course.unfinished, ∀ cause, listing.outcome = .error cause →
    (∃ text, cause = .typeNotServed text) ∨ ∃ check ∈ history.course.abandoned.head?,
      (listing.timedOut ∧ check.id ∈ report.abandonedChecks) ∨
        ⟨check.id, .listing listing.type.text, cause⟩ ∈ report.incidents
  invocation : ∀ attempt ∈ history.attempts, ∀ cause, attempt.outcome = .error cause →
    attempt.isAbandoned ∨
      ⟨attempt.invocation.check.id, .invocation attempt.invocation.target.place, cause⟩ ∈
        report.incidents
  counted : report.abandonedChecks.length + history.attempts.countP Attempt.isAbandoned ≤
    report.abandoned

theorem withTimeout_isOk_iff (request : Request) (now : Binary64) :
    (∃ context, Context.withTimeout request.timeout now = .ok context) ↔ request.TimeoutFits := by
  simp only [Context.withTimeout, Request.TimeoutFits]
  cases request.timeout with
  | none => simp
  | some duration =>
    by_cases hspent : duration.isSpent
    · simp [hspent]
    · cases hseconds : duration.seconds <;>
        simp [hspent, hseconds, bind, Except.bind, pure, Except.pure]

/-- A failed listing that did not time out is recorded, unless its type is not served. -/
theorem Listing.failure?_of_error {listing : Listing} {cause : Fault}
    (houtcome : listing.outcome = .error cause) :
    (∃ text, cause = .typeNotServed text) ∨ listing.timedOut ∨
      listing.failure? = some (listing.type.text, cause) := by
  by_cases hserved : ∃ text, cause = .typeNotServed text
  · exact .inl hserved
  by_cases htime : ∃ text, cause = .reported .timeout text
  · obtain ⟨text, rfl⟩ := htime
    exact .inr (.inl (by simp [timedOut, houtcome]))
  obtain ⟨type, outcome⟩ := listing
  cases houtcome
  exact .inr (.inr (failure?_error (not_exists.1 hserved) (not_exists.1 htime)))

theorem mem_listingIncidents {check : Check} {listings : List Listing} {listing : Listing}
    {cause : Fault} (hmem : listing ∈ listings)
    (hfailure : listing.failure? = some (listing.type.text, cause)) :
    ⟨check.id, .listing listing.type.text, cause⟩ ∈
      Planning.listingIncidents check (listings.filterMap Listing.failure?) :=
  List.mem_map.2 ⟨_, List.mem_filterMap.2 ⟨listing, hmem, hfailure⟩, rfl⟩

namespace History

variable {registry : Registry} {reader : Reader} {request : Request} {clock : Clock}
variable {history : History} {durationMs : Int}

theorem mem_incidents_of_step {step : Step} {incident : Incident}
    (hstep : step ∈ history.course.steps) (hincident : incident ∈ step.incidents) :
    incident ∈ (history.report request durationMs).incidents :=
  List.mem_append_left _ (List.mem_append_left _ (List.mem_flatMap.2 ⟨step, hstep, hincident⟩))

theorem Happened.recorded_report (hhappened : history.Happened registry reader request clock) :
    Recorded history (history.report request durationMs) where
  applicability step hstep cause hfailed := by
    apply mem_incidents_of_step hstep
    rw [Step.incidents, hfailed]
    exact List.mem_singleton.2 rfl
  listing step hstep listing hlisting cause houtcome := by
    obtain ⟨context, htaken⟩ := hhappened.taken
    have hintime := htaken.not_timedOut step hstep listing hlisting
    rcases Listing.failure?_of_error houtcome with hunserved | htimedOut | hfailure
    · exact .inl hunserved
    · simp [hintime] at htimedOut
    · refine .inr (mem_incidents_of_step hstep ?_)
      obtain ⟨check, decision⟩ := step
      cases decision with
      | failed cause => cases hlisting
      | skipped => cases hlisting
      | alone => cases hlisting
      | perInstance listings => exact mem_listingIncidents hlisting hfailure
  unfinished listing hlisting cause houtcome := by
    obtain ⟨context, htaken⟩ := hhappened.taken
    obtain ⟨check, rest, -, hleft, -⟩ := htaken.unfinished_answered (List.ne_nil_of_mem hlisting)
    have hfirst : check ∈ history.course.abandoned.head? := by rw [hleft]; rfl
    rcases Listing.failure?_of_error houtcome with hunserved | htimedOut | hfailure
    · exact .inl hunserved
    · refine .inr ⟨check, hfirst, .inl ⟨htimedOut, ?_⟩⟩
      simp [report, hleft]
    · refine .inr ⟨check, hfirst, .inr ?_⟩
      apply List.mem_append_left
      apply List.mem_append_right
      rw [Course.unfinishedIncidents, hleft]
      exact mem_listingIncidents hlisting hfailure
  invocation attempt hattempt cause houtcome := by
    by_cases habandoned : attempt.isAbandoned
    · exact .inl habandoned
    · refine .inr (List.mem_append_right _ (List.mem_filterMap.2 ⟨attempt, hattempt, ?_⟩))
      rw [Attempt.isAbandoned, houtcome] at habandoned
      rw [Attempt.incident?, houtcome]
      exact if_neg habandoned
  counted := by
    by_cases hcomplete : history.course.abandoned = []
    · simp [report, abandoned, hcomplete]
    · simp [report, abandoned, hcomplete, hhappened.untried hcomplete]

/-- Every target that was tried can be described exactly when every planned one can that was not
left out. -/
theorem Happened.describable_iff (hhappened : history.Happened registry reader request clock) :
    history.Describable ↔ (history.course.abandoned = [] → ∀ invocation ∈ history.invocations,
      ∀ m, invocation.target.resource = some m → m.WellNamed) := by
  by_cases hcomplete : history.course.abandoned = []
  · simp only [Describable, hcomplete, true_implies, ← hhappened.tried hcomplete,
      List.forall_mem_map, Target.describable_iff]
  · simp [Describable, hcomplete, hhappened.untried hcomplete]

theorem ofRun_isOk_iff (hvalid : Selector.validateAll request.selectors = .ok ()) :
    (∃ history, ofRun registry reader request clock = .ok history) ↔ request.TimeoutFits := by
  obtain ⟨checks, hchecks⟩ := resolve_isOk registry request.category hvalid
  rw [← withTimeout_isOk_iff request clock.now]
  rw [ofRun]
  rw [hchecks]
  cases Context.withTimeout request.timeout clock.now <;> simp

end History

/-- A run of accepted selectors in the prompt pool returns exactly when its timeout fits, the time
that it took can be measured, and no object that it was about to judge is badly named.  If it
returns, it has recorded every failure. -/
theorem execute_returns_iff {registry : Registry} {reader : Reader} {request : Request}
    {clock : Clock} (hvalid : Selector.validateAll request.selectors = .ok ()) :
    ((∃ outcome, (execute registry reader request).ReturnsAt clock outcome) ↔
      request.TimeoutFits ∧ ∀ history, History.ofRun registry reader request clock = .ok history →
        (history.course.abandoned = [] → ∀ invocation ∈ history.invocations,
          ∀ m, invocation.target.resource = some m → m.WellNamed) ∧
        ∃ durationMs, milliseconds clock.now history.finish.now = .ok durationMs) ∧
    ∀ outcome, (execute registry reader request).ReturnsAt clock outcome →
      ∃ history, History.ofRun registry reader request clock = .ok history ∧
        history.Happened registry reader request clock ∧ Recorded history outcome.report := by
  constructor
  · constructor
    · rintro ⟨outcome, hreturns⟩
      obtain ⟨history, hhistory, hdescribable, durationMs, hduration, -⟩ :=
        execute_returnsAt_iff.1 hreturns
      refine ⟨(History.ofRun_isOk_iff hvalid).1 ⟨history, hhistory⟩, fun other hother => ?_⟩
      cases hhistory.symm.trans hother
      exact ⟨(History.happened hhistory).describable_iff.1 hdescribable, durationMs, hduration⟩
    · rintro ⟨hfits, htellable⟩
      obtain ⟨history, hhistory⟩ := (History.ofRun_isOk_iff hvalid).2 hfits
      obtain ⟨hnamed, durationMs, hduration⟩ := htellable history hhistory
      exact ⟨_, execute_returnsAt_iff.2 ⟨history, hhistory,
        (History.happened hhistory).describable_iff.2 hnamed, durationMs, hduration, rfl⟩⟩
  · intro outcome hreturns
    obtain ⟨history, hhistory, -, durationMs, -, rfl⟩ := execute_returnsAt_iff.1 hreturns
    have hhappened := History.happened hhistory
    exact ⟨history, hhistory, hhappened, hhappened.recorded_report⟩

theorem execute_returns_reporter :
    Selector.validateAll Request.everything.selectors = .ok () ∧
      ∃ outcome,
        (execute ⟨[reporter .runtime], false⟩ barren .everything).ReturnsAt beginning outcome ∧
        ∃ history, Recorded history outcome.report := by
  have hvalid : Selector.validateAll Request.everything.selectors = .ok () := rfl
  have hreturns := execute_reporter .runtime barren
  obtain ⟨history, -, -, hrecorded⟩ := (execute_returns_iff hvalid).2 _ hreturns
  exact ⟨hvalid, _, hreturns, history, hrecorded⟩

def inspector : Check :=
  { reporter .runtime with category := .known .workload, resourceTypes := [.notebook] }

/-- A notebook whose metadata is a text. -/
def unnamed : Document :=
  .map [(.text "apiVersion", .text "kubeflow.org/v1"), (.text "kind", .text "Notebook"),
    (.text "metadata", .text "x")]

/-- One notebook that is not well named ends the run of accepted selectors over an accepted
snapshot. -/
theorem execute_fails_of_unnamed :
    Selector.validateAll Request.everything.selectors = .ok () ∧
      ∃ snapshot, Snapshot.ofDocuments [unnamed] none = .ok snapshot ∧
        ((execute ⟨[inspector], false⟩ (.ofSnapshot snapshot) .everything).runAt beginning).1 =
          .error (.noField "str" "get") := by
  refine ⟨rfl, _, rfl, ?_⟩
  rw [execute_runAt, History.ofRun_singleton]
  rfl

end Preflight.Run
