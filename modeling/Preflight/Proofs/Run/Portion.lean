import Preflight.Proofs.Rows
import Preflight.Proofs.Run.Completion
import Preflight.Proofs.Run.FanOut
import Preflight.Proofs.Run.Instances

/-!
# The part of a run that belongs to one check

Identities tell the checks of a run apart, so what is planned, executed and recorded for one of them
can be singled out of the whole run.  On a snapshot a check of workloads that applies is planned
once for each instance, and where it never fails, each of the instances has its execution, in order,
and nothing is recorded.
-/

namespace Preflight

/-- The executions of the check with an identity. -/
def Report.executionsOf (report : Report) (id : String) : List Execution :=
  report.executions.filter (·.checkId == id)

namespace Run

variable {base : Target} {check : Check} {checks : List Check} {clock finish : Clock}
variable {invocations : List Invocation} {incidents : List Incident} {s : Snapshot}

/-! ## What is planned for one check -/

theorem Listed.checkId_eq {types : List ResourceType}
    (hlisted : Listed base check types clock invocations incidents finish) :
    ∀ incident ∈ incidents, incident.checkId = check.id := by
  induction hlisted with
  | done clock => simp
  | served hlisting hrest ih => exact ih
  | unserved hlisting hrest ih => exact ih
  | failed hlisting hserved hintime hrest ih => exact List.forall_mem_cons.2 ⟨rfl, ih⟩

theorem FansOut.checkId_eq (hfans : FansOut base check clock invocations incidents finish) :
    ∀ incident ∈ incidents, incident.checkId = check.id := by
  cases hfans with
  | failed hasked => simp
  | skipped hasked => simp
  | alone hasked hcategory => simp
  | perInstance hasked hcategory hlisted => exact hlisted.checkId_eq

theorem FanOut.checkId_mem (hfan : FanOut base checks clock invocations incidents finish) :
    ∀ incident ∈ incidents, incident.checkId ∈ checks.map (·.id) := by
  induction hfan with
  | done clock => simp
  | step hfirst hrest ih =>
    intro incident hmem
    rcases List.mem_append.1 hmem with hthis | hlater
    · rw [hfirst.checkId_eq incident hthis]
      exact List.mem_cons_self
    · exact List.mem_cons_of_mem _ (ih incident hlater)

/-- Of what is planned for a row of checks, each check has the part that is planned for it. -/
theorem FanOut.of_mem (hfan : FanOut base checks clock invocations incidents finish)
    (hnodup : (checks.map (·.id)).Nodup) (hmem : check ∈ checks) :
    ∃ moment dealt, FansOut base check moment
      (invocations.filter (·.check.id == check.id)) (incidents.filter (·.checkId == check.id))
      dealt := by
  induction hfan with
  | done clock => cases hmem
  | @step first rest clock dealt finish planned later failures others hfirst hrest ih =>
    have hnew : first.id ∉ rest.map (·.id) := (List.nodup_cons.1 hnodup).1
    have hothers : (rest.map (·.id)).Nodup := (List.nodup_cons.1 hnodup).2
    have hplanned : ∀ invocation ∈ planned, invocation.check.id = first.id :=
      fun invocation hin => congrArg Check.id (hfirst.check_eq invocation hin)
    rw [List.filter_append, List.filter_append, Rows.filter_of_forall_key hplanned,
      Rows.filter_of_forall_key hfirst.checkId_eq]
    rcases List.mem_cons.1 hmem with rfl | hlater
    · have hnone : later.filter (·.check.id == check.id) = [] := by
        apply List.filter_eq_nil_iff.2
        intro invocation hin hsame
        apply hnew
        rw [← beq_iff_eq.1 hsame]
        exact List.mem_map_of_mem (hrest.check_mem invocation hin)
      have hquiet : others.filter (·.checkId == check.id) = [] := by
        apply List.filter_eq_nil_iff.2
        intro incident hin hsame
        apply hnew
        rw [← beq_iff_eq.1 hsame]
        exact hrest.checkId_mem incident hin
      rw [if_pos rfl, if_pos rfl, hnone, hquiet, List.append_nil, List.append_nil]
      exact ⟨clock, dealt, hfirst⟩
    · have hdifferent : first.id ≠ check.id := by
        intro hsame
        apply hnew
        rw [hsame]
        exact List.mem_map_of_mem hlater
      rw [if_neg hdifferent, if_neg hdifferent, List.nil_append, List.nil_append]
      exact ih hothers hlater

/-! ## The instances of a snapshot -/

/-- On a snapshot every instance of each type is a target, and no listing fails. -/
theorem Listed.of_snapshot {types : List ResourceType} (hreader : base.reader = .ofSnapshot s)
    (hlisted : Listed base check types clock invocations incidents finish) :
    invocations = (types.flatMap s.instances).map (bound base check) ∧ incidents = [] := by
  have hlists (t : ResourceType) (moment : Clock) :
      (base.reader.list t).runAt moment = (s.list t, moment) := by
    rw [hreader]
    rfl
  induction hlisted with
  | done clock => exact ⟨rfl, rfl⟩
  | @served type rest clock listed finish found later others hlisting hrest ih =>
    obtain ⟨hlater, hothers⟩ := ih
    rw [hlists] at hlisting
    have hfound : s.instances type = found := by
      rw [Snapshot.instances, (Prod.mk.inj hlisting).1]
    refine ⟨?_, hothers⟩
    rw [hlater, List.flatMap_cons, List.map_append, hfound]
    rfl
  | @unserved type rest clock listed finish text later others hlisting hrest ih =>
    obtain ⟨hlater, hothers⟩ := ih
    rw [hlists] at hlisting
    have hnone : s.instances type = [] := by
      rw [Snapshot.instances, (Prod.mk.inj hlisting).1]
    refine ⟨?_, hothers⟩
    rw [hlater, List.flatMap_cons, hnone, List.nil_append]
  | @failed type rest clock listed finish cause later others hlisting hserved hintime hrest ih =>
    rw [hlists] at hlisting
    by_cases hknown : type ∈ s.served
    · rw [Snapshot.list_of_served hknown] at hlisting
      cases hlisting
    · rw [Snapshot.list_of_unserved hknown] at hlisting
      cases hlisting
      exact absurd rfl (hserved _)

/-- A check of workloads that applies gets a target for each of its instances. -/
theorem FansOut.of_snapshot (hreader : base.reader = .ofSnapshot s)
    (hcategory : check.isIn .workload)
    (happlies : ∀ moment, ((check.canApply base.current base.target).runAt moment).1 = .ok true)
    (hfans : FansOut base check clock invocations incidents finish) :
    invocations = (check.resourceTypes.flatMap s.instances).map (bound base check) ∧
      incidents = [] := by
  have hanswer := happlies clock
  cases hfans with
  | failed hasked =>
    rw [hasked] at hanswer
    cases hanswer
  | skipped hasked =>
    rw [hasked] at hanswer
    cases hanswer
  | alone hasked hother => exact absurd hcategory hother
  | perInstance hasked hsame hlisted => exact hlisted.of_snapshot hreader

/-! ## What is executed for one check -/

/-- The execution of a check that judged an instance, with what it came to at some moment. -/
def ExecutedOn (base : Target) (check : Check) (m : Manifest) (execution : Execution) : Prop :=
  ∃ moment, Attempt.answer .unlimited (bound base check m) moment = .ok execution.result

/-- What becomes of an attempt is put under the identity of its check. -/
theorem Attempt.checkId_of_mem_execution? (attempt : Attempt) (sequence : Nat) :
    ∀ execution ∈ (attempt.execution? sequence).toList,
      execution.checkId = attempt.invocation.check.id := by
  intro execution hmem
  exact (of_execution? (Option.mem_toList.1 hmem)).1

/-- The invocations of a check that never fails each have their execution, in order, and none of
them is recorded as failed. -/
theorem Attempt.executed_of_made {attempts : List Attempt} {id : String}
    {judged : Invocation → Result → Prop}
    (hmade : List.Forall₂ (Made .unlimited) invocations attempts)
    (hsound : ∀ invocation ∈ invocations, invocation.check.id = id →
      (∃ category, invocation.check.category = .known category) ∧
        ∀ moment, ∃ result, answer .unlimited invocation moment = .ok result ∧
          judged invocation result)
    (sequence : Nat) :
    List.Forall₂
        (fun invocation execution =>
          (∃ moment, answer .unlimited invocation moment = .ok execution.result) ∧
            judged invocation execution.result)
        (invocations.filter (·.check.id == id))
        ((Collection.executionsOf sequence attempts).filter (·.checkId == id)) ∧
      ∀ incident ∈ attempts.filterMap incident?, incident.checkId ≠ id := by
  induction hmade generalizing sequence with
  | nil => exact ⟨.nil, by simp⟩
  | @cons invocation attempt rest others hfirst hrest ih =>
    obtain ⟨hthis, hlater⟩ := List.forall_mem_cons.1 hsound
    obtain ⟨hexecuted, hquiet⟩ := ih hlater (sequence + 1)
    have hkey := attempt.checkId_of_mem_execution? sequence
    rw [Collection.executionsOf_cons, List.filter_append, Rows.filter_of_forall_key hkey,
      List.filter_cons, hfirst.invocation_eq]
    by_cases hid : invocation.check.id = id
    · obtain ⟨⟨category, hcategory⟩, hanswers⟩ := hthis hid
      cases hfirst with
      | late hover => cases hover
      | @answered moment hbefore =>
        obtain ⟨result, hanswer, hjudged⟩ := hanswers moment
        have hnone : incident? ⟨invocation, true, answer .unlimited invocation moment⟩ = none := by
          rw [hanswer]
          rfl
        rw [if_pos (beq_iff_eq.2 hid), if_pos hid, List.filterMap_cons_none hnone]
        simp only [execution?, hanswer, hcategory, Option.toList_some, List.singleton_append]
        exact ⟨.cons ⟨⟨moment, hanswer⟩, hjudged⟩ hexecuted, hquiet⟩
    · rw [if_neg (mt beq_iff_eq.1 hid), if_neg hid, List.nil_append]
      refine ⟨hexecuted, fun incident hmem => ?_⟩
      rcases List.mem_filterMap.1 hmem with ⟨failing, hfailing, hincident⟩
      rcases List.mem_cons.1 hfailing with rfl | hother
      · obtain ⟨cause, -, rfl⟩ := eq_of_incident? hincident
        rw [hfirst.invocation_eq]
        exact hid
      · exact hquiet incident (List.mem_filterMap.2 ⟨failing, hother, hincident⟩)

namespace History

variable {registry : Registry} {request : Request} {history : History}

/-- In a run over a snapshot, a check of workloads that applies and never fails has one execution
for each of its instances, in order, and nothing is recorded of it. -/
theorem Happened.executed (hhappened : history.Happened registry (.ofSnapshot s) request clock)
    (hunlimited : request.IsUnlimited) (hcomplete : history.course.abandoned = [])
    (hmem : check ∈ history.checks) (hcategory : check.category = .known .workload)
    (happlies : ∀ moment,
      ((check.canApply request.current request.target).runAt moment).1 = .ok true)
    {instances : List Manifest} (hinstances : check.resourceTypes.flatMap s.instances = instances)
    {judged : Manifest → Result → Prop}
    (hsound : ∀ m ∈ instances, ∀ moment, ∃ result,
      Attempt.answer .unlimited (bound history.base check m) moment = .ok result ∧
        judged m result)
    (durationMs : Int) :
    List.Forall₂
        (fun m execution =>
          ExecutedOn history.base check m execution ∧ judged m execution.result)
        instances ((history.report request durationMs).executionsOf check.id) ∧
      ∀ incident ∈ (history.report request durationMs).incidents, incident.checkId ≠ check.id := by
  obtain ⟨context, hcontext, -, -, hmade⟩ := hhappened.ran
  rw [withTimeout_of_isUnlimited hunlimited] at hcontext
  cases hcontext
  have hbase := hhappened.base_eq
  have hworkload : check.isIn .workload := by
    rw [Check.isIn, hcategory]
    rfl
  obtain ⟨moment, dealt, hfans⟩ :=
    (hhappened.fanOut hcomplete).of_mem hhappened.checks_nodup hmem
  obtain ⟨hplanned, hquiet⟩ :=
    hfans.of_snapshot (s := s) (by rw [hbase]) hworkload (by rw [hbase]; exact happlies)
  rw [hinstances] at hplanned
  have hanswers : ∀ invocation ∈ history.invocations, invocation.check.id = check.id →
      (∃ category, invocation.check.category = .known category) ∧ ∀ moment, ∃ result,
        Attempt.answer .unlimited invocation moment = .ok result ∧
          ∀ m ∈ invocation.target.resource, judged m result := by
    intro invocation hin hid
    have hkept : invocation ∈ history.invocations.filter (·.check.id == check.id) :=
      List.mem_filter.2 ⟨hin, beq_iff_eq.2 hid⟩
    rw [hplanned] at hkept
    obtain ⟨m, hinstance, rfl⟩ := List.mem_map.1 hkept
    refine ⟨⟨.workload, hcategory⟩, fun moment => ?_⟩
    obtain ⟨result, hanswer, hjudged⟩ := hsound m hinstance moment
    refine ⟨result, hanswer, ?_⟩
    rintro _ ⟨⟩
    exact hjudged
  obtain ⟨hexecuted, hunfailing⟩ := Attempt.executed_of_made (hmade hcomplete) hanswers 0
  constructor
  · rw [hplanned, List.forall₂_map_left_iff] at hexecuted
    exact hexecuted.imp fun m execution hboth => ⟨hboth.1, hboth.2 m rfl⟩
  · apply List.forall_mem_append.2 ⟨?_, hunfailing⟩
    intro incident hin hid
    have hkept : incident ∈ history.course.incidents.filter (·.checkId == check.id) :=
      List.mem_filter.2 ⟨hin, beq_iff_eq.2 hid⟩
    rw [hquiet] at hkept
    cases hkept

end History

end Run

end Preflight
