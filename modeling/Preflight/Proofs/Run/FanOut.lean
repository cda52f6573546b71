import Preflight.Proofs.Run.Accounting
import Preflight.Proofs.Run.Rendering

/-!
# How a run fans out

The checks of a run are dealt with in display order.  A check that judges workload instances is
invoked once for each instance that its types list, type by type; any other check is invoked once.
Executions are numbered by their invocations, so they are already in the order in which reports show
them.
-/

namespace Preflight

namespace Run

/-! ## What is planned for a check -/

/-- The invocations on the instances that some types list, type by type and in the order of each
list, and the failures that are recorded.  A type that is not served has no instances.  The listings
are made one after the other, from a first moment to a last one. -/
inductive Listed (base : Target) (check : Check) :
    List ResourceType → Clock → List Invocation → List Incident → Clock → Prop where
  | done (clock : Clock) : Listed base check [] clock [] [] clock
  | served {type : ResourceType} {rest : List ResourceType} {clock listed finish : Clock}
      {found : List Manifest} {invocations : List Invocation} {incidents : List Incident}
      (hlisting : (base.reader.list type).runAt clock = (.ok found, listed))
      (hrest : Listed base check rest listed invocations incidents finish) :
      Listed base check (type :: rest) clock
        (found.map (fun m => ⟨check, { base with resource := some m }⟩) ++ invocations) incidents
        finish
  | unserved {type : ResourceType} {rest : List ResourceType} {clock listed finish : Clock}
      {text : String} {invocations : List Invocation} {incidents : List Incident}
      (hlisting : (base.reader.list type).runAt clock = (.error (.typeNotServed text), listed))
      (hrest : Listed base check rest listed invocations incidents finish) :
      Listed base check (type :: rest) clock invocations incidents finish
  | failed {type : ResourceType} {rest : List ResourceType} {clock listed finish : Clock}
      {cause : Fault} {invocations : List Invocation} {incidents : List Incident}
      (hlisting : (base.reader.list type).runAt clock = (.error cause, listed))
      (hserved : ∀ text, cause ≠ .typeNotServed text)
      (hintime : ∀ text, cause ≠ .reported .timeout text)
      (hrest : Listed base check rest listed invocations incidents finish) :
      Listed base check (type :: rest) clock invocations
        (⟨check.id, .listing type.text, cause⟩ :: incidents) finish

/-- The invocations that are planned for a check and the failures that are recorded for it, by what
it answers when it is asked whether it applies. -/
inductive FansOut (base : Target) (check : Check) (clock : Clock) :
    List Invocation → List Incident → Clock → Prop where
  | failed {cause : Fault} {asked : Clock}
      (hasked : (check.canApply base.current base.target).runAt clock = (.error cause, asked)) :
      FansOut base check clock [] [⟨check.id, .applicability, cause⟩] asked
  | skipped {asked : Clock}
      (hasked : (check.canApply base.current base.target).runAt clock = (.ok false, asked)) :
      FansOut base check clock [] [] asked
  | alone {asked : Clock}
      (hasked : (check.canApply base.current base.target).runAt clock = (.ok true, asked))
      (hcategory : ¬check.isIn .workload) :
      FansOut base check clock [⟨check, base⟩] [] asked
  | perInstance {asked finish : Clock} {invocations : List Invocation} {incidents : List Incident}
      (hasked : (check.canApply base.current base.target).runAt clock = (.ok true, asked))
      (hcategory : check.isIn .workload)
      (hlisted : Listed base check check.resourceTypes asked invocations incidents finish) :
      FansOut base check clock invocations incidents finish

/-- What is planned for a row of checks, one check after the other. -/
inductive FanOut (base : Target) :
    List Check → Clock → List Invocation → List Incident → Clock → Prop where
  | done (clock : Clock) : FanOut base [] clock [] [] clock
  | step {check : Check} {rest : List Check} {clock dealt finish : Clock}
      {first later : List Invocation} {failures others : List Incident}
      (hfirst : FansOut base check clock first failures dealt)
      (hrest : FanOut base rest dealt later others finish) :
      FanOut base (check :: rest) clock (first ++ later) (failures ++ others) finish

variable {context : Context} {base : Target} {check : Check} {checks : List Check}
variable {clock finish : Clock} {invocations : List Invocation} {incidents : List Incident}

theorem Step.invocations_perInstance_cons (listing : Listing) (rest : List Listing) :
    Step.invocations base ⟨check, .perInstance (listing :: rest)⟩ =
      listing.instances.map (fun m => ⟨check, { base with resource := some m }⟩) ++
        Step.invocations base ⟨check, .perInstance rest⟩ := by
  simp [Step.invocations]

theorem Step.incidents_perInstance_cons (listing : Listing) (rest : List Listing) :
    Step.incidents ⟨check, .perInstance (listing :: rest)⟩ =
      Planning.listingIncidents check listing.failure?.toList ++
        Step.incidents ⟨check, .perInstance rest⟩ := by
  cases hfailure : listing.failure? <;> simp [Step.incidents, Planning.listingIncidents, hfailure]

/-- A survey that was not cut short goes through all the types, one listing for each. -/
theorem Survey.listed_of_complete {types : List ResourceType} (check : Check)
    (hcomplete : ¬(ofTypes context base.reader types clock).cutShort) :
    Listed base check types clock
      (Step.invocations base
        ⟨check, .perInstance (ofTypes context base.reader types clock).listings⟩)
      (Step.incidents ⟨check, .perInstance (ofTypes context base.reader types clock).listings⟩)
      (ofTypes context base.reader types clock).finish := by
  fun_induction ofTypes context base.reader types clock with
  | case1 clock => exact .done clock
  | case2 type rest clock hover => simp at hcomplete
  | case3 type rest clock hbefore outcome listed hlisting htimedOut => simp at hcomplete
  | case4 type rest clock hbefore outcome listed hlisting hintime ih =>
    have hlater := ih hcomplete
    rw [after, Step.invocations_perInstance_cons, Step.incidents_perInstance_cons]
    cases outcome with
    | ok found => exact .served hlisting hlater
    | error cause =>
      by_cases hserved : ∃ text, cause = .typeNotServed text
      · obtain ⟨text, rfl⟩ := hserved
        exact .unserved hlisting hlater
      have hnot : ∀ text, cause ≠ .reported .timeout text := by
        rintro text rfl
        exact hintime rfl
      rw [Listing.failure?_error (not_exists.1 hserved) hnot]
      exact .failed hlisting (not_exists.1 hserved) hnot hlater

theorem Step.Taken.fansOut {decision : Decision}
    (htaken : Step.Taken context base check clock decision finish) :
    FansOut base check clock (Step.invocations base ⟨check, decision⟩)
      (Step.incidents ⟨check, decision⟩) finish := by
  cases htaken with
  | failed hasked => exact .failed hasked
  | skipped hasked => exact .skipped hasked
  | alone hasked hcategory => exact .alone hasked hcategory
  | perInstance hasked hcategory hcomplete =>
    exact .perInstance hasked hcategory (Survey.listed_of_complete check hcomplete)

/-- Planning that comes to its end fans out all the checks. -/
theorem Course.Taken.fanOut {course : Course} (htaken : Taken context base checks clock course)
    (hcomplete : course.abandoned = []) :
    FanOut base checks clock (course.invocations base) course.incidents course.finish := by
  induction htaken with
  | finished clock => exact .done clock
  | late hover => cases hcomplete
  | interrupted hbefore hasked hcut => cases hcomplete
  | step hbefore hstep hlater ih =>
    rw [incidents_after, Course.invocations, after, List.flatMap_cons]
    exact .step hstep.fansOut (ih hcomplete)

/-! ## The order of invocations -/

theorem Listed.check_eq {types : List ResourceType}
    (hlisted : Listed base check types clock invocations incidents finish) :
    ∀ invocation ∈ invocations, invocation.check = check := by
  induction hlisted with
  | done clock => simp
  | served hlisting hrest ih =>
    intro invocation hmem
    rcases List.mem_append.1 hmem with hfirst | hlater
    · obtain ⟨m, -, rfl⟩ := List.mem_map.1 hfirst
      rfl
    · exact ih invocation hlater
  | unserved hlisting hrest ih => exact ih
  | failed hlisting hserved hintime hrest ih => exact ih

theorem FansOut.check_eq (hfans : FansOut base check clock invocations incidents finish) :
    ∀ invocation ∈ invocations, invocation.check = check := by
  cases hfans with
  | failed hasked => simp
  | skipped hasked => simp
  | alone hasked hcategory => simp
  | perInstance hasked hcategory hlisted => exact hlisted.check_eq

theorem FanOut.check_mem (hfan : FanOut base checks clock invocations incidents finish) :
    ∀ invocation ∈ invocations, invocation.check ∈ checks := by
  induction hfan with
  | done clock => simp
  | step hfirst hrest ih =>
    intro invocation hmem
    rcases List.mem_append.1 hmem with hthis | hlater
    · rw [hfirst.check_eq invocation hthis]
      exact List.mem_cons_self
    · exact List.mem_cons_of_mem _ (ih invocation hlater)

/-- The invocations on sorted checks have their categories in display order. -/
theorem FanOut.pairwise_rank (hfan : FanOut base checks clock invocations incidents finish)
    (hsorted : checks.Pairwise Check.ComesBefore) :
    invocations.Pairwise fun a b => a.check.category.rank ≤ b.check.category.rank := by
  induction hfan with
  | done clock => exact .nil
  | @step check rest clock dealt finish first later failures others hfirst hrest ih =>
    obtain ⟨hbefore, hlater⟩ := List.pairwise_cons.1 hsorted
    refine List.pairwise_append.2 ⟨?_, ih hlater, ?_⟩
    · apply List.pairwise_of_forall_mem_list
      intro a ha b hb
      have hsame : a.check = b.check := (hfirst.check_eq a ha).trans (hfirst.check_eq b hb).symm
      exact Nat.le_of_eq (congrArg (·.category.rank) hsame)
    · intro a ha b hb
      rw [hfirst.check_eq a ha]
      rcases hbefore b.check (hrest.check_mem b hb) with hlt | ⟨heq, -⟩
      · exact Nat.le_of_lt hlt
      · exact Nat.le_of_eq heq

end Run

/-! ## Executions -/

/-- Executions whose categories are in display order are shown as they are. -/
theorem flatMap_filter_category {executions : List Execution}
    (hsorted : executions.Pairwise fun a b => a.category.rank ≤ b.category.rank) :
    Category.displayOrder.flatMap (fun category => executions.filter (·.category == category)) =
      executions := by
  induction executions with
  | nil => rfl
  | cons first rest ih =>
    obtain ⟨hfirst, hrest⟩ := List.pairwise_cons.1 hsorted
    have hnone : ∀ category : Category, category.rank < first.category.rank →
        rest.filter (·.category == category) = [] := by
      intro category hlt
      apply List.filter_eq_nil_iff.2
      intro later hmem hsame
      have hle := hfirst later hmem
      rw [beq_iff_eq.1 hsame] at hle
      omega
    have hlater := ih hrest
    simp only [Category.displayOrder, List.flatMap_cons, List.flatMap_nil, List.append_nil,
      List.filter_cons] at hlater ⊢
    -- The categories before that of the first execution do not occur any more.
    cases hcategory : first.category with
    | component => simpa using hlater
    | service =>
      rw [hcategory] at hnone
      simpa [hnone .component (by decide)] using hlater
    | dependency =>
      rw [hcategory] at hnone
      simpa [hnone .component (by decide), hnone .service (by decide)] using hlater
    | workload =>
      rw [hcategory] at hnone
      simpa [hnone .component (by decide), hnone .service (by decide),
        hnone .dependency (by decide)] using hlater

namespace Run

variable {registry : Registry} {reader : Reader} {request : Request} {clock : Clock}
variable {history : History} {durationMs : Int}

theorem Collection.pairwise_sequence (sequence : Nat) (attempts : List Attempt) :
    (executionsOf sequence attempts).Pairwise fun a b => a.sequence < b.sequence := by
  have hpositions : (attempts.zipIdx sequence).Pairwise fun a b => a.2 < b.2 := by
    apply List.pairwise_map.1
    rw [List.zipIdx_map_snd]
    exact List.pairwise_lt_range'
  apply List.pairwise_filterMap.2
  refine hpositions.imp fun {a b} hlt => ?_
  intro earlier hearlier later hlater
  rw [(Attempt.of_execution? hearlier).2.2.1, (Attempt.of_execution? hlater).2.2.1]
  exact hlt

/-- The execution has the position of its invocation in the plan, and the result that the check came
to there. -/
def Positioned (history : History) (request : Request) (clock : Clock) (execution : Execution) :
    Prop :=
  ∃ invocation, history.invocations[execution.sequence]? = some invocation ∧
    execution.checkId = invocation.check.id ∧
    invocation.check.category = .known execution.category ∧
    ∃ context moment, Context.withTimeout request.timeout clock.now = .ok context ∧
      Attempt.answer context invocation moment = .ok execution.result

/-- How a run whose planning came to its end fans out, and how its report keeps the order. -/
structure FannedOut (history : History) (request : Request) (clock : Clock) (report : Report) :
    Prop where
  sorted : history.checks.Pairwise Check.ComesBefore
  /-- Apart from failed invocations, the report records what planning found. -/
  planned : ∃ incidents,
    FanOut history.base history.checks clock history.invocations incidents history.course.finish ∧
      report.incidents = incidents ++ report.failures
  positioned : ∀ execution ∈ report.executions, Positioned history request clock execution
  increasing : report.executions.Pairwise fun a b => a.sequence < b.sequence
  ordered : report.ordered = report.executions

namespace History

theorem Happened.sorted (hhappened : history.Happened registry reader request clock) :
    history.checks.Pairwise Check.ComesBefore :=
  resolve_sorted hhappened.resolved

theorem Happened.fanOut (hhappened : history.Happened registry reader request clock)
    (hcomplete : history.course.abandoned = []) :
    FanOut history.base history.checks clock history.invocations history.course.incidents
      history.course.finish := by
  obtain ⟨context, htaken⟩ := hhappened.taken
  exact htaken.fanOut hcomplete

theorem Happened.positioned (hhappened : history.Happened registry reader request clock)
    (hcomplete : history.course.abandoned = []) :
    ∀ execution ∈ Collection.executionsOf 0 history.attempts,
      Positioned history request clock execution := by
  intro execution hmem
  obtain ⟨attempt, hattempt, hexecution⟩ := Collection.mem_executionsOf.1 hmem
  obtain ⟨hid, hcategory, -, houtcome⟩ := Attempt.of_execution? hexecution
  obtain ⟨context, hcontext, -, -, hmade⟩ := hhappened.ran
  have hthis := Attempt.made_of_mem (hmade hcomplete) attempt (List.mem_of_getElem? hattempt)
  refine ⟨attempt.invocation, ?_, hid, hcategory, context, ?_⟩
  · rw [← hhappened.tried hcomplete, List.getElem?_map, hattempt]
    rfl
  generalize attempt.invocation = invocation at hthis
  cases hthis with
  | late hover => cases houtcome
  | @answered moment hbefore => exact ⟨moment, hcontext, houtcome⟩

/-- Executions follow the order of the invocations, and so they are in display order. -/
theorem Happened.ordered_report (hhappened : history.Happened registry reader request clock)
    (hcomplete : history.course.abandoned = []) :
    (history.report request durationMs).ordered =
      (history.report request durationMs).executions := by
  apply flatMap_filter_category
  have hranks := (hhappened.fanOut hcomplete).pairwise_rank hhappened.sorted
  refine (Collection.pairwise_sequence 0 history.attempts).imp_of_mem ?_
  intro earlier later hearlier hlater hlt
  obtain ⟨before, hbefore, -, hbeforeCategory, -⟩ :=
    hhappened.positioned hcomplete earlier hearlier
  obtain ⟨behind, hbehind, -, hbehindCategory, -⟩ :=
    hhappened.positioned hcomplete later hlater
  obtain ⟨hfirst, rfl⟩ := List.getElem?_eq_some_iff.1 hbefore
  obtain ⟨hsecond, rfl⟩ := List.getElem?_eq_some_iff.1 hbehind
  have hle := List.pairwise_iff_getElem.1 hranks _ _ hfirst hsecond hlt
  rw [hbeforeCategory, hbehindCategory] at hle
  exact hle

theorem Happened.fannedOut_report (hhappened : history.Happened registry reader request clock)
    (hcomplete : history.course.abandoned = []) :
    FannedOut history request clock (history.report request durationMs) where
  sorted := hhappened.sorted
  planned := ⟨_, hhappened.fanOut hcomplete, by rw [failures_report]; rfl⟩
  positioned := hhappened.positioned hcomplete
  increasing := Collection.pairwise_sequence 0 history.attempts
  ordered := hhappened.ordered_report hcomplete

end History

/-- A run in the prompt pool that returns and leaves no check out has fanned out the selected checks
in display order, and it reports the executions in the order of their invocations. -/
theorem execute_fans_out {outcome : Outcome}
    (hreturns : (execute registry reader request).ReturnsAt clock outcome)
    (hcomplete : outcome.report.abandonedChecks = []) :
    ∃ history, History.ofRun registry reader request clock = .ok history ∧
      history.Happened registry reader request clock ∧
      FannedOut history request clock outcome.report := by
  obtain ⟨history, hhistory, -, durationMs, -, rfl⟩ := execute_returnsAt_iff.1 hreturns
  have hhappened := History.happened hhistory
  have hplanned : history.course.abandoned = [] := by simpa [History.report] using hcomplete
  exact ⟨history, hhistory, hhappened, hhappened.fannedOut_report hplanned⟩

/-- A check of notebooks and clusters whose results have one annotation. -/
def examiner : Check :=
  { annotator (.text "3") with
    category := .known .workload
    resourceTypes := [.rayCluster, .notebook] }

def notebook : Manifest :=
  ⟨[(.text "apiVersion", .text "kubeflow.org/v1"), (.text "kind", .text "Notebook")]⟩

/-- Two notebooks on a cluster that serves no other types. -/
def notebooks : Reader := .ofSnapshot ⟨[.notebook], [notebook, notebook]⟩

def History.ofExaminer : History :=
  let base : Target := ⟨notebooks, none, none, none⟩
  let bound : Target := { base with resource := some notebook }
  let attempt : Attempt := ⟨⟨examiner, bound⟩, true, .ok (.single (.text "3") .met)⟩
  ⟨base, [examiner],
    ⟨[⟨examiner, .perInstance [⟨.rayCluster, .error (.typeNotServed ResourceType.rayCluster.text)⟩,
      ⟨.notebook, .ok [notebook, notebook]⟩]⟩], [], [], beginning⟩,
    [attempt, attempt], beginning⟩

theorem History.ofRun_examiner :
    ofRun ⟨[examiner], false⟩ notebooks .everything beginning = .ok ofExaminer := by
  rw [ofRun_singleton, ofExaminer, ← Attempt.accept_single (.text "3") .met]
  rfl

theorem execute_examiner :
    (execute ⟨[examiner], false⟩ notebooks .everything).ReturnsAt beginning
      ⟨History.ofExaminer.report .everything 0, History.ofExaminer.events⟩ := by
  refine execute_returnsAt_iff.2 ⟨_, History.ofRun_examiner, ?_, 0, milliseconds_beginning, rfl⟩
  intro attempt hmem
  have hbound : attempt.invocation.target.resource = some notebook := by
    revert attempt
    simp [History.ofExaminer]
  refine Target.describable_iff.2 fun m hm => ?_
  cases hbound.symm.trans hm
  exact Manifest.describe_isOk_iff.1 ⟨_, rfl⟩

theorem execute_fans_out_examiner :
    ∃ outcome, (execute ⟨[examiner], false⟩ notebooks .everything).ReturnsAt beginning outcome ∧
      outcome.report.abandonedChecks = [] ∧ outcome.report.executions.map (·.sequence) = [0, 1] ∧
      ∃ history, History.ofRun ⟨[examiner], false⟩ notebooks .everything beginning = .ok history ∧
        FannedOut history .everything beginning outcome.report := by
  have hcomplete : (History.ofExaminer.report .everything 0).abandonedChecks = [] := rfl
  obtain ⟨history, hhistory, -, hfanned⟩ := execute_fans_out execute_examiner hcomplete
  exact ⟨_, execute_examiner, hcomplete, rfl, history, hhistory, hfanned⟩

end Run

end Preflight
