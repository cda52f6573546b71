import Preflight.Proofs.Run.Accounting
import Preflight.Run.DryRun

/-!
# Dry runs foretell runs

A dry run and a run ask every check whether it applies, in two loops of their own.  When the answers
depend on the versions only, both sort the checks in the same way, as far as the run gets.
-/

namespace Preflight

namespace Check

/-- What the check answers when it is asked at a moment, nothing if it fails to answer. -/
def applies? (check : Check) (current target : Option Version) (moment : Clock) : Option Bool :=
  ((check.canApply current target).runAt moment).1.toOption

/-- Whether a check applies depends on the versions only. -/
def IsTimeless (check : Check) : Prop :=
  ∀ current target moment other,
    check.applies? current target moment = check.applies? current target other

def answering (current target : Option Version) (answer : Option Bool) (checks : List Check) :
    List Check :=
  checks.filter fun check => check.applies? current target Run.beginning == answer

/-- Asked at any moment, a timeless check goes to the checks that give its answer. -/
theorem answering_cons {current target : Option Version} {check : Check}
    (htimeless : check.IsTimeless) {given : Option Bool} {moment : Clock}
    (hgiven : check.applies? current target moment = given)
    (answer : Option Bool) (rest : List Check) :
    answering current target answer (check :: rest) =
      if given == answer then check :: answering current target answer rest
      else answering current target answer rest := by
  rw [answering, List.filter_cons, htimeless current target Run.beginning moment, hgiven]
  rfl

end Check

/-- Those of some identities that are not the identities of abandoned checks. -/
def Report.spared (report : Report) (ids : List String) : List String :=
  ids.filter fun id => !report.abandonedChecks.contains id

namespace Run

open Preflight.Action

variable {current target : Option Version} {checks : List Check}

/-! ## What a dry run finds -/

namespace DryRun

/-- The lists of a dry run sort the checks by their answers. -/
structure Sorted (plan : DryRun) (current target : Option Version) (checks : List Check) :
    Prop where
  applicable : plan.applicable = (Check.answering current target (some true) checks).map (·.id)
  skipped : plan.skipped = (Check.answering current target (some false) checks).map (·.id)
  failed : plan.failed = (Check.answering current target none checks).map (·.id)

theorem sorted_ofChecks (current target : Option Version)
    (htimeless : ∀ check ∈ checks, check.IsTimeless) (clock : Clock) :
    Sorted ((ofChecks current target checks).run clock).1 current target checks := by
  induction checks generalizing clock with
  | nil => exact ⟨rfl, rfl, rfl⟩
  | cons check rest ih =>
    obtain ⟨hfirst, hrest⟩ := List.forall_mem_cons.1 htimeless
    cases hasked : (check.canApply current target).runAt clock with
    | mk verdict asked =>
      have hlater := ih hrest asked
      have hgiven : check.applies? current target clock = verdict.toOption := by
        rw [Check.applies?, hasked]
      have hcons := Check.answering_cons hfirst hgiven
      rw [ofChecks, run_bind,
        show (check.canApply current target).outcome.run clock = (verdict, asked) from hasked]
      match verdict with
      | .error cause =>
        refine ⟨?_, ?_, ?_⟩ <;> rw [hcons]
        · exact hlater.applicable
        · exact hlater.skipped
        · exact congrArg (check.id :: ·) hlater.failed
      | .ok true =>
        refine ⟨?_, ?_, ?_⟩ <;> rw [hcons]
        · exact congrArg (check.id :: ·) hlater.applicable
        · exact hlater.skipped
        · exact hlater.failed
      | .ok false =>
        refine ⟨?_, ?_, ?_⟩ <;> rw [hcons]
        · exact hlater.applicable
        · exact congrArg (check.id :: ·) hlater.skipped
        · exact hlater.failed

end DryRun

theorem answering_perm (current target : Option Version) (checks : List Check) :
    (Check.answering current target (some true) checks ++
      Check.answering current target (some false) checks ++
      Check.answering current target none checks).Perm checks := by
  simp only [Check.answering]
  induction checks with
  | nil => exact .nil
  | cons check rest ih =>
    simp only [List.filter_cons]
    match check.applies? current target beginning with
    | some true => exact ih.cons check
    | some false =>
      apply List.Perm.trans _ (ih.cons check)
      exact List.perm_middle.append_right _
    | none => exact List.perm_middle.trans (ih.cons check)

/-! ## What a run finds -/

theorem Course.Taken.applies?_eq {context : Context} {base : Target} {clock : Clock}
    {course : Course} (htaken : Taken context base checks clock course)
    (htimeless : ∀ check ∈ checks, check.IsTimeless) : ∀ step ∈ course.steps,
      step.check.applies? base.current base.target beginning = step.decision.verdict.toOption := by
  intro step hmem
  obtain ⟨moment, hanswered⟩ := htaken.answered step hmem
  have hcheck : step.check ∈ checks := by
    rw [htaken.checks_eq]
    exact List.mem_append_left _ (List.mem_map_of_mem hmem)
  rw [htimeless _ hcheck _ _ beginning moment, Check.applies?, hanswered]

theorem Course.Taken.classes_eq {context : Context} {base : Target} {clock : Clock}
    {course : Course} (htaken : Taken context base checks clock course)
    (htimeless : ∀ check ∈ checks, check.IsTimeless) :
    let dealt := course.steps.map (·.check)
    course.planned = Check.answering base.current base.target (some true) dealt ∧
      course.skipped = Check.answering base.current base.target (some false) dealt ∧
      course.failed = Check.answering base.current base.target none dealt := by
  have hanswer := htaken.applies?_eq htimeless
  simp only [planned, skipped, failed, Check.answering, List.filter_map]
  refine ⟨?_, ?_, ?_⟩ <;> refine congrArg _ (List.filter_congr fun step hmem => ?_) <;>
    rw [Function.comp, hanswer step hmem] <;> cases step.decision <;> rfl

theorem mem_of_mem_answering {answer : Option Bool} {check : Check}
    (hmem : check ∈ Check.answering current target answer checks) : check ∈ checks :=
  (List.mem_filter.1 hmem).1

theorem Course.Taken.planned_applies {context : Context} {base : Target} {clock : Clock}
    {course : Course} (htaken : Taken context base checks clock course)
    (htimeless : ∀ check ∈ checks, check.IsTimeless) : ∀ check ∈ course.planned,
      check ∈ Check.answering base.current base.target (some true) checks := by
  intro check hmem
  rw [(htaken.classes_eq htimeless).1] at hmem
  rw [htaken.checks_eq, Check.answering, List.filter_append]
  exact List.mem_append_left _ hmem

/-- The check at which planning stopped applies, if a listing failed for it. -/
theorem Course.Taken.unfinished_applies {context : Context} {base : Target} {clock : Clock}
    {course : Course} (htaken : Taken context base checks clock course)
    (htimeless : ∀ check ∈ checks, check.IsTimeless) : ∀ incident ∈ course.unfinishedIncidents,
      ∃ check ∈ Check.answering base.current base.target (some true) checks,
        check.id = incident.checkId := by
  intro incident hmem
  have hlisted : course.unfinished ≠ [] := by
    intro hnone
    rw [unfinishedIncidents, hnone] at hmem
    split at hmem <;> cases hmem
  obtain ⟨check, rest, moment, hleft, hanswered⟩ := htaken.unfinished_answered hlisted
  rw [unfinishedIncidents, hleft] at hmem
  obtain ⟨failure, -, rfl⟩ := List.mem_map.1 hmem
  have hcheck : check ∈ checks := by
    rw [htaken.checks_eq, hleft]
    exact List.mem_append_right _ List.mem_cons_self
  have hanswer : check.applies? base.current base.target beginning = some true := by
    rw [htimeless check hcheck _ _ beginning moment, Check.applies?, hanswered]
    rfl
  exact ⟨check, List.mem_filter.2 ⟨hcheck, by simp [hanswer]⟩, rfl⟩

/-- Planning records of the checks that apply that a listing failed, and of no others. -/
theorem Course.Taken.listed_applies {context : Context} {base : Target} {clock : Clock}
    {course : Course} (htaken : Taken context base checks clock course)
    (htimeless : ∀ check ∈ checks, check.IsTimeless) : ∀ incident ∈ course.incidents,
      incident.isApplicability = false →
        ∃ check ∈ Check.answering base.current base.target (some true) checks,
          check.id = incident.checkId := by
  intro incident hmem hother
  rcases List.mem_append.1 hmem with hdealt | hunfinished
  · obtain ⟨⟨check, decision⟩, hstep, hof⟩ := List.mem_flatMap.1 hdealt
    cases decision with
    | failed cause =>
      rw [List.mem_singleton.1 hof] at hother
      cases hother
    | skipped => cases hof
    | alone => cases hof
    | perInstance listings =>
      obtain ⟨failure, -, rfl⟩ := List.mem_map.1 hof
      have hplanned : check ∈ course.planned :=
        List.mem_map_of_mem (f := (·.check)) (List.mem_filter.2 ⟨hstep, rfl⟩)
      exact ⟨check, htaken.planned_applies htimeless check hplanned, rfl⟩
  · exact htaken.unfinished_applies htimeless incident hunfinished

/-! ## Both in comparison -/

/-- The lists of a dry run divide the identities of the checks and keep their order. -/
structure DryRun.Divides (plan : DryRun) (ids : List String) : Prop where
  applicable : plan.applicable.Sublist ids
  skipped : plan.skipped.Sublist ids
  failed : plan.failed.Sublist ids
  all : (plan.applicable ++ plan.skipped ++ plan.failed).Perm ids

theorem DryRun.Sorted.divides {plan : DryRun} (hsorted : plan.Sorted current target checks) :
    plan.Divides (checks.map (·.id)) where
  applicable := by
    rw [hsorted.applicable]
    exact List.filter_sublist.map _
  skipped := by
    rw [hsorted.skipped]
    exact List.filter_sublist.map _
  failed := by
    rw [hsorted.failed]
    exact List.filter_sublist.map _
  all := by
    rw [hsorted.applicable, hsorted.skipped, hsorted.failed, ← List.map_append, ← List.map_append]
    exact (answering_perm current target checks).map _

/-- What a dry run says of the checks that a run dealt with is what the run did with them. -/
structure DryRun.Foretells (plan : DryRun) (history : History) (report : Report) : Prop where
  skipped : report.spared plan.skipped = report.skipped
  failed : report.spared plan.failed = report.unclear
  applicable : report.spared plan.applicable = history.course.planned.map (·.id)
  executed : ∀ execution ∈ report.executions, execution.checkId ∈ plan.applicable
  /-- Failed listings and invocations are those of applicable checks. -/
  recorded : ∀ incident ∈ report.incidents, incident.isApplicability = false →
    incident.checkId ∈ plan.applicable

/-- Of the checks that give an answer, those are spared that do so among the first ones. -/
theorem spared_answering (report : Report) {dealt left : List Check}
    (hnodup : ((dealt ++ left).map (·.id)).Nodup)
    (hleft : report.abandonedChecks = left.map (·.id)) (current target : Option Version)
    (answer : Option Bool) :
    report.spared ((Check.answering current target answer (dealt ++ left)).map (·.id)) =
      (Check.answering current target answer dealt).map (·.id) := by
  rw [List.map_append, List.nodup_append] at hnodup
  obtain ⟨-, -, hdisjoint⟩ := hnodup
  have hdealt : report.spared ((Check.answering current target answer dealt).map (·.id)) =
      (Check.answering current target answer dealt).map (·.id) := by
    apply List.filter_eq_self.2
    intro id hmem
    obtain ⟨check, hcheck, rfl⟩ := List.mem_map.1 hmem
    have hid : check.id ∈ dealt.map (·.id) := List.mem_map_of_mem (mem_of_mem_answering hcheck)
    have hspared : check.id ∉ left.map (·.id) := fun habandoned => hdisjoint _ hid _ habandoned rfl
    simpa [hleft] using hspared
  have hnone : report.spared ((Check.answering current target answer left).map (·.id)) = [] := by
    apply List.filter_eq_nil_iff.2
    intro id hmem
    obtain ⟨check, hcheck, rfl⟩ := List.mem_map.1 hmem
    simpa [hleft] using ⟨check, mem_of_mem_answering hcheck, rfl⟩
  have hsplit : Check.answering current target answer (dealt ++ left) =
      Check.answering current target answer dealt ++ Check.answering current target answer left :=
    List.filter_append ..
  rw [hsplit, List.map_append, Report.spared, List.filter_append]
  exact (congrArg₂ (· ++ ·) hdealt hnone).trans (List.append_nil _)

namespace History

variable {registry : Registry} {reader : Reader} {request : Request} {clock : Clock}
variable {history : History} {durationMs : Int}

theorem Happened.planned_applies (hhappened : history.Happened registry reader request clock)
    (htimeless : ∀ check ∈ history.checks, check.IsTimeless) :
    ∀ check ∈ history.course.planned,
      check ∈ Check.answering request.current request.target (some true) history.checks := by
  obtain ⟨context, htaken⟩ := hhappened.taken
  rw [hhappened.base_eq] at htaken
  exact htaken.planned_applies htimeless

theorem Happened.recorded_applies (hhappened : history.Happened registry reader request clock)
    (htimeless : ∀ check ∈ history.checks, check.IsTimeless) :
    ∀ incident ∈ (history.report request durationMs).incidents, incident.isApplicability = false →
      ∃ check ∈ Check.answering request.current request.target (some true) history.checks,
        check.id = incident.checkId := by
  intro incident hmem hother
  rcases List.mem_append.1 hmem with hplanning | hcollected
  · obtain ⟨context, htaken⟩ := hhappened.taken
    rw [hhappened.base_eq] at htaken
    exact htaken.listed_applies htimeless incident hplanning hother
  · obtain ⟨attempt, hattempt, hincident⟩ := List.mem_filterMap.1 hcollected
    obtain ⟨cause, -, rfl⟩ := Attempt.eq_of_incident? hincident
    have hplanned := Course.check_mem_planned _ (hhappened.mem_invocations attempt hattempt)
    exact ⟨_, hhappened.planned_applies htimeless _ hplanned, rfl⟩

theorem Happened.foretold {plan : DryRun}
    (hhappened : history.Happened registry reader request clock)
    (htimeless : ∀ check ∈ history.checks, check.IsTimeless)
    (hsorted : plan.Sorted request.current request.target history.checks) :
    plan.Foretells history (history.report request durationMs) := by
  obtain ⟨context, htaken⟩ := hhappened.taken
  rw [hhappened.base_eq] at htaken
  obtain ⟨hplanned, hskipped, hfailed⟩ := htaken.classes_eq htimeless
  have hnodup := hhappened.checks_nodup
  rw [hhappened.checks_eq] at hnodup
  have hspared := spared_answering (history.report request durationMs) hnodup rfl request.current
    request.target
  rw [← hhappened.checks_eq] at hspared
  refine ⟨?_, ?_, ?_, ?_, ?_⟩
  · rw [hsorted.skipped, hspared, ← hskipped]
    rfl
  · rw [hsorted.failed, hspared, ← hfailed, unclear_report]
  · rw [hsorted.applicable, hspared, ← hplanned]
  · intro execution hmem
    obtain ⟨check, hcheck, hid⟩ := List.mem_map.1 (hhappened.executed_planned execution hmem)
    rw [hsorted.applicable, ← hid]
    exact List.mem_map_of_mem (hhappened.planned_applies htimeless check hcheck)
  · intro incident hmem hother
    obtain ⟨check, hcheck, hid⟩ := hhappened.recorded_applies htimeless incident hmem hother
    rw [hsorted.applicable, ← hid]
    exact List.mem_map_of_mem hcheck

end History

/-- A dry run at any moment foretells every run in the prompt pool that returns, as far as that gets,
when the checks answer by the versions only. -/
theorem dryRun_foretells {registry : Registry} {reader : Reader} {request : Request}
    {clock : Clock} {outcome : Outcome} (htimeless : ∀ check ∈ registry.checks, check.IsTimeless)
    (hreturns : (execute registry reader request).ReturnsAt clock outcome) (moment : Clock) :
    ∃ plan history,
      (dryRun registry request.selectors request.category request.current request.target).ReturnsAt
        moment plan ∧
      History.ofRun registry reader request clock = .ok history ∧
      history.Happened registry reader request clock ∧
      plan.Divides (history.checks.map (·.id)) ∧ plan.Foretells history outcome.report := by
  obtain ⟨history, hhistory, -, durationMs, -, rfl⟩ := execute_returnsAt_iff.1 hreturns
  have hhappened := History.happened hhistory
  have hselected : ∀ check ∈ history.checks, check.IsTimeless := fun check hmem =>
    htimeless check (mem_of_mem_resolve hhappened.resolved check hmem)
  have hsorted := DryRun.sorted_ofChecks request.current request.target hselected moment
  refine ⟨_, history, ?_, hhistory, hhappened, hsorted.divides,
    hhappened.foretold hselected hsorted⟩
  rw [ReturnsAt, dryRun, runAt_bind, hhappened.resolved]
  rfl

/-- The listing for the last check times out, so that the check is abandoned, and with it the run.
Of the others one is skipped and one fails. -/
theorem dryRun_foretells_assortment :
    (∀ check ∈ assortment.checks, check.IsTimeless) ∧
      ∃ outcome,
        (execute assortment (faltering .timeout) .everything).ReturnsAt beginning outcome ∧
        outcome.report.skipped = ["absent"] ∧ outcome.report.unclear = ["broken"] ∧
        outcome.report.abandonedChecks = ["third"] ∧
        ∃ plan history,
          (dryRun assortment [Selector.wildcard] none none none).ReturnsAt beginning plan ∧
          History.ofRun assortment (faltering .timeout) .everything beginning = .ok history ∧
          history.Happened assortment (faltering .timeout) .everything beginning ∧
          plan.Divides (history.checks.map (·.id)) ∧ plan.Foretells history outcome.report := by
  have htimeless : ∀ check ∈ assortment.checks, check.IsTimeless := by
    simp only [assortment, List.forall_mem_cons]
    exact ⟨fun _ _ _ _ => rfl, fun _ _ _ _ => rfl, fun _ _ _ _ => rfl, fun _ _ _ _ => rfl,
      fun _ _ _ _ => rfl, List.forall_mem_nil _⟩
  have hreturns := execute_returnsAt_iff.2 ⟨_, History.ofRun_everything resolve_assortment
    (faltering .timeout) beginning, List.forall_mem_nil _, 0, milliseconds_beginning, rfl⟩
  exact ⟨htimeless, _, hreturns, rfl, rfl, rfl, dryRun_foretells htimeless hreturns beginning⟩

end Run

end Preflight
