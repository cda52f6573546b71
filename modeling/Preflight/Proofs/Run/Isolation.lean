import Preflight.Proofs.Run.Completion
import Preflight.Proofs.Run.Rendering
import Preflight.Proofs.Run.Revision
import Preflight.Proofs.Run.Waiting

/-!
# Isolation of checks

Two runs without a deadline over registries that differ in how one check judges its targets are
planned alike and try the same invocations.  The changed check reaches the others in two ways.  It
hands on the moment at which it ends.  And when it says that time has run out, the run takes itself
to be over: the invocations behind it that have not ended by then are passed over, so one of the
reports lacks what they came to.
-/

namespace Preflight

namespace Report

/-- What a report says of the checks of all other identities. -/
def executionsBut (id : String) (report : Report) : List Execution :=
  report.executions.filter (·.checkId != id)

def incidentsBut (id : String) (report : Report) : List Run.Incident :=
  report.incidents.filter (·.checkId != id)

/-- Of the other checks the first report says what the second says, but that it lacks some
invocations that had not ended when the run turned to them. -/
structure Lacks (id : String) (pool : Run.Pool) (less full : Report) : Prop where
  executions : (less.executionsBut id).Sublist (full.executionsBut id)
  incidents : (less.incidentsBut id).Sublist (full.incidentsBut id)
  unended : ∀ execution ∈ full.executionsBut id,
    execution ∈ less.executionsBut id ∨ pool.invocation execution.sequence ≠ .ended
  /-- A report that is complete lacks nothing, nor does one for which every invocation has ended. -/
  same : (less.incomplete = false ∨ ∀ sequence, pool.invocation sequence = .ended) →
    less.executionsBut id = full.executionsBut id ∧ less.incidentsBut id = full.incidentsBut id

end Report

namespace Run

open Preflight.Action

variable {id : String} {validate : Context → Target → Action Returned} {pool : Pool}
variable {alike : Clock → Clock → Prop} {registry : Registry}

/-- No check but the changed one can tell moments that are alike from each other.  When only equal
moments are alike, this asks of the changed check that it takes the time that it took before, and
nothing of the others.  When the others do not look at the clock, any two moments may be alike. -/
structure Indifferent (alike : Clock → Clock → Prop) (registry : Registry) (id : String)
    (validate : Context → Target → Action Returned) : Prop where
  refl : ∀ moment, alike moment moment
  others : ∀ check ∈ registry.checks, check.id ≠ id → ∀ target moment other,
    alike moment other →
      ((check.validate .unlimited target).runAt moment).1 =
          ((check.validate .unlimited target).runAt other).1 ∧
        alike ((check.validate .unlimited target).runAt moment).2
          ((check.validate .unlimited target).runAt other).2
  changed : ∀ check ∈ registry.checks, check.id = id → ∀ target moment other,
    alike moment other →
      alike ((check.validate .unlimited target).runAt moment).2
        ((validate .unlimited target).runAt other).2

/-- A check that takes the time that it took before is changed without any other noticing. -/
theorem Indifferent.of_sameTime
    (htime : ∀ check ∈ registry.checks, check.id = id → ∀ target moment,
      ((check.validate .unlimited target).runAt moment).2 =
        ((validate .unlimited target).runAt moment).2) :
    Indifferent Eq registry id validate where
  refl _ := rfl
  others := by
    rintro check - - target moment _ rfl
    exact ⟨rfl, rfl⟩
  changed := by
    rintro check hmem heq target moment _ rfl
    exact htime check hmem heq target moment

namespace Invocation

/-- Invocations in one place of two plans.  Unless their check is the changed one they are the same,
and come to the same at moments that are alike. -/
structure Corresponds (alike : Clock → Clock → Prop) (id : String) (first second : Invocation) :
    Prop where
  target : second.target = first.target
  checkId : second.check.id = first.check.id
  same : first.check.id ≠ id → second = first
  answers : first.check.id ≠ id → ∀ moment other, alike moment other →
    Attempt.answer .unlimited second other = Attempt.answer .unlimited first moment
  ends : ∀ moment other, alike moment other →
    alike ((first.check.validate .unlimited first.target).runAt moment).2
      ((second.check.validate .unlimited second.target).runAt other).2

/-- Which of the two plans comes first makes no difference. -/
theorem Corresponds.flip {first second : Invocation} (h : Corresponds alike id first second) :
    Corresponds (flip alike) id second first where
  target := h.target.symm
  checkId := h.checkId.symm
  same hne := (h.same (h.checkId ▸ hne)).symm
  answers hne moment other halike := (h.answers (h.checkId ▸ hne) other moment halike).symm
  ends moment other halike := h.ends other moment halike

theorem corresponds_revised (hindifferent : Indifferent alike registry id validate)
    {invocation : Invocation} (hregistered : invocation.check ∈ registry.checks) :
    Corresponds alike id invocation (invocation.revised id validate) := by
  obtain ⟨check, target⟩ := invocation
  by_cases hchanged : check.id = id
  · refine ⟨rfl, check.id_revised, absurd hchanged, absurd hchanged, fun moment other halike => ?_⟩
    rw [revised, Check.validate_revised hchanged]
    exact hindifferent.changed check hregistered hchanged target moment other halike
  · have hothers := hindifferent.others check hregistered hchanged target
    rw [revised, Check.revised_of_ne hchanged]
    refine ⟨rfl, rfl, fun _ => rfl, fun _ moment other halike => ?_, fun moment other halike =>
      (hothers moment other halike).2⟩
    rw [Attempt.answer, Attempt.answer, (hothers moment other halike).1]

end Invocation

namespace Attempt

/-- Attempts with their places.  Unless their check is the changed one, the first came to what the
second came to, or was passed over before it had ended. -/
structure Lacks (id : String) (pool : Pool) (less full : Attempt × Nat) : Prop where
  place : less.2 = full.2
  target : less.1.invocation.target = full.1.invocation.target
  checkId : less.1.invocation.check.id = full.1.invocation.check.id
  kept : less.1.invocation.check.id ≠ id → less.1.invocation = full.1.invocation ∧
    (less.1.outcome = full.1.outcome ∨
      less.1.isAbandoned = true ∧ pool.invocation less.2 ≠ .ended)

variable {first second : Invocation} {moment other : Clock}

/-- One invocation, tried in two runs of which the second is taken to be over if the first is. -/
theorem lacks_ofInvocation (pool : Pool) (sequence : Nat)
    (h : Invocation.Corresponds alike id first second) (halike : alike moment other)
    {isOver later : Bool} (hover : isOver = true → later = true) :
    Lacks id pool (((ofInvocation .unlimited second pool sequence later).run other).1, sequence)
        (((ofInvocation .unlimited first pool sequence isOver).run moment).1, sequence) ∧
      alike ((ofInvocation .unlimited first pool sequence isOver).run moment).2
        ((ofInvocation .unlimited second pool sequence later).run other).2 := by
  have hbefore (clock : Clock) : ¬Context.unlimited.expired clock.now := Bool.false_ne_true
  rw [ofInvocation_run_pool, ofInvocation_run_pool, if_neg (hbefore moment), if_neg (hbefore other)]
  refine ⟨⟨rfl, h.target, h.checkId, fun hne => ?_⟩, h.ends moment other halike⟩
  have hother : first.check.id ≠ id := h.checkId ▸ hne
  have hanswer := h.answers hother moment other halike
  refine ⟨h.same hother, ?_⟩
  by_cases hended : pool.invocation sequence = .ended
  · exact .inl (by rw [found_of_ended hended, found_of_ended hended, hanswer])
  cases later with
  | true =>
    refine .inr ⟨?_, hended⟩
    rw [isAbandoned, found_of_passedOver hended]
    rfl
  | false =>
    -- Neither run is taken to be over, and without a deadline there is no end to a wait.
    have hwaits : isOver = false :=
      Bool.eq_false_iff.2 fun htrue => absurd (hover htrue) (by decide)
    rw [hwaits, found_of_awaited, found_of_awaited, Pool.seen_of_remaining_eq_none rfl,
      Pool.seen_of_remaining_eq_none rfl]
    exact .inl hanswer

variable {firsts seconds : List Invocation}

/-- Once the second run is taken to be over, it lacks whatever has not ended. -/
theorem lacks_ofInvocations_of_over
    (hrow : List.Forall₂ (Invocation.Corresponds alike id) firsts seconds)
    (halike : alike moment other) (sequence : Nat) (isOver : Bool) :
    List.Forall₂ (Lacks id pool)
      (((ofInvocations .unlimited seconds pool sequence true).run other).1.zipIdx sequence)
      (((ofInvocations .unlimited firsts pool sequence isOver).run moment).1.zipIdx sequence) := by
  induction hrow generalizing moment other sequence isOver with
  | nil => exact .nil
  | cons hfirst hrest ih =>
    obtain ⟨hhead, hnext⟩ :=
      lacks_ofInvocation pool sequence hfirst halike (fun _ : isOver = true => rfl)
    simp only [ofInvocations, run_bind, Bool.true_or]
    exact .cons hhead (ih hnext (sequence + 1) _)

/-- From the first place on at which only one of the runs is taken to be over, it is that run that
lacks something. -/
theorem lacks_ofInvocations (pool : Pool)
    (hrow : List.Forall₂ (Invocation.Corresponds alike id) firsts seconds)
    (halike : alike moment other) (sequence : Nat) :
    List.Forall₂ (Lacks id pool)
        (((ofInvocations .unlimited seconds pool sequence).run other).1.zipIdx sequence)
        (((ofInvocations .unlimited firsts pool sequence).run moment).1.zipIdx sequence) ∨
      List.Forall₂ (Lacks id pool)
        (((ofInvocations .unlimited firsts pool sequence).run moment).1.zipIdx sequence)
        (((ofInvocations .unlimited seconds pool sequence).run other).1.zipIdx sequence) := by
  induction hrow generalizing moment other sequence with
  | nil => exact .inl .nil
  | @cons first second rest others hfirst hrest ih =>
    obtain ⟨hsecond, hnext⟩ := lacks_ofInvocation pool sequence hfirst halike
      (fun hover : false = true => hover)
    obtain ⟨hlacks, -⟩ := lacks_ofInvocation pool sequence hfirst.flip halike
      (fun hover : false = true => hover)
    have hbehind : List.Forall₂ (Invocation.Corresponds (flip alike) id) others rest :=
      hrest.flip.imp fun _ _ => Invocation.Corresponds.flip
    simp only [ofInvocations, run_bind, Bool.false_or]
    cases hlater : ((ofInvocation .unlimited second pool sequence).run other).1.isAbandoned with
    | true => exact .inl (.cons hsecond (lacks_ofInvocations_of_over hrest hnext _ _))
    | false =>
      cases hover : ((ofInvocation .unlimited first pool sequence).run moment).1.isAbandoned with
      | true => exact .inr (.cons hlacks (lacks_ofInvocations_of_over hbehind hnext _ _))
      | false => exact (ih hnext (sequence + 1)).imp (.cons hsecond) (.cons hlacks)

end Attempt

/-! ## What is reported of the other checks -/

namespace Attempt

variable {less full : Attempt × Nat}

theorem Lacks.execution_eq (h : Lacks id pool less full)
    (hsame : less.1.invocation.check.id ≠ id → less.1.outcome = full.1.outcome) :
    (less.1.execution? less.2).filter (·.checkId != id) =
      (full.1.execution? full.2).filter (·.checkId != id) := by
  by_cases hchanged : less.1.invocation.check.id = id
  · have hnone (item : Attempt × Nat) (heq : item.1.invocation.check.id = id) :
        (item.1.execution? item.2).filter (·.checkId != id) = none := by
      apply Option.filter_eq_none_iff.2
      intro execution hexecution hkept
      rw [(of_execution? hexecution).1] at hkept
      exact bne_iff_ne.1 hkept heq
    rw [hnone less hchanged, hnone full (h.checkId ▸ hchanged)]
  · rw [execution?, execution?, hsame hchanged, (h.kept hchanged).1, h.place]

theorem Lacks.incident_eq (h : Lacks id pool less full)
    (hsame : less.1.invocation.check.id ≠ id → less.1.outcome = full.1.outcome) :
    less.1.incident?.filter (·.checkId != id) = full.1.incident?.filter (·.checkId != id) := by
  by_cases hchanged : less.1.invocation.check.id = id
  · have hnone (attempt : Attempt) (heq : attempt.invocation.check.id = id) :
        attempt.incident?.filter (·.checkId != id) = none := by
      apply Option.filter_eq_none_iff.2
      intro incident hincident hkept
      obtain ⟨cause, -, rfl⟩ := eq_of_incident? hincident
      exact bne_iff_ne.1 hkept heq
    rw [hnone less.1 hchanged, hnone full.1 (h.checkId ▸ hchanged)]
  · rw [incident?, incident?, hsame hchanged, (h.kept hchanged).1]

/-- What came of an invocation that had ended is the same in both runs. -/
theorem Lacks.outcome_eq (h : Lacks id pool less full)
    (hlost : less.1.isAbandoned = false ∨ pool.invocation less.2 = .ended)
    (hne : less.1.invocation.check.id ≠ id) : less.1.outcome = full.1.outcome := by
  rcases (h.kept hne).2 with hsame | ⟨habandoned, hunended⟩
  · exact hsame
  · rcases hlost with hkept | hended
    · rw [hkept] at habandoned
      cases habandoned
    · exact absurd hended hunended

end Attempt

namespace History

/-- Of the other checks the first run lacks some invocations that had not ended. -/
def Lacks (id : String) (pool : Pool) (less full : History) : Prop :=
  List.Forall₂ (Attempt.Lacks id pool) (less.attempts.zipIdx 0) (full.attempts.zipIdx 0)

variable {less full : History} {request : Request} {durationMs otherMs : Int}

theorem executionsBut_report (history : History) (request : Request) (durationMs : Int)
    (id : String) : (history.report request durationMs).executionsBut id =
      (history.attempts.zipIdx 0).filterMap
        (fun item => (item.1.execution? item.2).filter (·.checkId != id)) :=
  List.filter_filterMap ..

theorem incidentsBut_report (history : History) (request : Request) (durationMs : Int)
    (id : String) : (history.report request durationMs).incidentsBut id =
      history.course.incidents.filter (·.checkId != id) ++ (history.attempts.zipIdx 0).filterMap
        (fun item => item.1.incident?.filter (·.checkId != id)) := by
  have hplaces : history.attempts.filterMap Attempt.incident? =
      (history.attempts.zipIdx 0).filterMap (fun item => item.1.incident?) := by
    conv_lhs => rw [← List.zipIdx_map_fst 0 history.attempts, List.filterMap_map]
    rfl
  rw [Report.incidentsBut, report, List.filter_append, hplaces, List.filter_filterMap]

/-- A report that is complete is of a run in which nothing was abandoned. -/
theorem not_isAbandoned_of_complete {history : History}
    (hcomplete : (history.report request durationMs).incomplete = false) :
    ∀ attempt ∈ history.attempts, attempt.isAbandoned = false := by
  have hnone : history.abandoned = 0 := by simpa [report] using hcomplete
  rw [abandoned] at hnone
  split at hnone
  · simpa using List.countP_eq_zero.1 hnone
  · rename_i hcut
    have hpositive := List.length_pos_iff.2 (mt List.isEmpty_iff.2 hcut)
    omega

theorem Lacks.targets_eq (h : Lacks id pool less full) :
    less.attempts.map (·.invocation.target) = full.attempts.map (·.invocation.target) := by
  have hplaces (history : History) : history.attempts.map (·.invocation.target) =
      (history.attempts.zipIdx 0).map (·.1.invocation.target) := by
    conv_lhs => rw [← List.zipIdx_map_fst 0 history.attempts, List.map_map]
    rfl
  rw [hplaces, hplaces, ← List.forall₂_eq_eq_eq, List.forall₂_map_left_iff,
    List.forall₂_map_right_iff]
  exact h.imp fun _ _ => Attempt.Lacks.target

theorem describable_iff_targets (history : History) :
    history.Describable ↔
      ∀ target ∈ history.attempts.map (·.invocation.target), target.Describable := by
  rw [List.forall_mem_map, Describable]

theorem Lacks.describable_iff (h : Lacks id pool less full) :
    less.Describable ↔ full.Describable := by
  rw [describable_iff_targets, describable_iff_targets, h.targets_eq]

/-- What a run lacks, its report lacks. -/
theorem Lacks.report (h : Lacks id pool less full)
    (hplanned : less.course.incidents = full.course.incidents) :
    Report.Lacks id pool (less.report request durationMs) (full.report request otherMs) := by
  constructor
  case executions =>
    rw [executionsBut_report, executionsBut_report]
    refine Rows.filterMap_sublist h fun item other hlacks => ?_
    by_cases habandoned : item.1.isAbandoned = true
    · rw [Attempt.execution?_of_isAbandoned habandoned]
      exact .inl rfl
    · exact .inr (hlacks.execution_eq (hlacks.outcome_eq (.inl (by simpa using habandoned))))
  case incidents =>
    rw [incidentsBut_report, incidentsBut_report, hplanned, List.append_sublist_append_left]
    refine Rows.filterMap_sublist h fun item other hlacks => ?_
    by_cases habandoned : item.1.isAbandoned = true
    · rw [Attempt.incident?_of_isAbandoned habandoned]
      exact .inl rfl
    · exact .inr (hlacks.incident_eq (hlacks.outcome_eq (.inl (by simpa using habandoned))))
  case unended =>
    rw [executionsBut_report, executionsBut_report]
    intro execution hmem
    obtain ⟨item, hitem, hexecution⟩ := List.mem_filterMap.1 hmem
    obtain ⟨other, hother, hlacks⟩ := Rows.exists_mem_of_mem h.flip item hitem
    by_cases hended : pool.invocation execution.sequence = .ended
    · refine .inl (List.mem_filterMap.2 ⟨other, hother, ?_⟩)
      have hsequence := (Attempt.of_execution? (Option.filter_eq_some_iff.1 hexecution).1).2.2.1
      rw [hsequence, ← hlacks.place] at hended
      rw [hlacks.execution_eq (hlacks.outcome_eq (.inr hended)), hexecution]
    · exact .inr hended
  case same =>
    intro hcase
    have hkept : ∀ item ∈ less.attempts.zipIdx 0,
        item.1.isAbandoned = false ∨ pool.invocation item.2 = .ended := by
      intro item hmem
      rcases hcase with hcomplete | hended
      · have hattempt := List.fst_mem_of_mem_zipIdx hmem
        exact .inl (not_isAbandoned_of_complete hcomplete _ hattempt)
      · exact .inr (hended _)
    have hrow := (List.forall₂_and_left _ _).2 ⟨hkept, h⟩
    rw [executionsBut_report, executionsBut_report, incidentsBut_report, incidentsBut_report,
      hplanned]
    refine ⟨Rows.filterMap_eq hrow ?_, congrArg _ (Rows.filterMap_eq hrow ?_)⟩
    · rintro item other ⟨hkeeps, hlacks⟩
      exact hlacks.execution_eq (hlacks.outcome_eq hkeeps)
    · rintro item other ⟨hkeeps, hlacks⟩
      exact hlacks.incident_eq (hlacks.outcome_eq hkeeps)

end History

/-! ## Two runs -/

namespace History

/-- Two runs that differ in one check only. -/
structure Parallel (id : String) (pool : Pool) (first second : History) : Prop where
  skipped : second.course.skipped.map (·.id) = first.course.skipped.map (·.id)
  incidents : second.course.incidents = first.course.incidents
  attempts : second.Lacks id pool first ∨ first.Lacks id pool second

variable {reader : Reader} {request : Request} {clock : Clock}

theorem parallel_ofChecks (hindifferent : Indifferent alike registry id validate)
    {checks : List Check} (hregistered : ∀ check ∈ checks, check ∈ registry.checks)
    (base : Target) (clock : Clock) (pool : Pool) :
    Parallel id pool (ofChecks .unlimited base checks clock pool)
      (ofChecks .unlimited base (checks.map (Check.revised id validate)) clock pool) := by
  have htaken := Course.taken_ofChecks .unlimited base checks clock
  rw [ofChecks, ofChecks, Pool.lister_unlimited, Course.ofChecks_revised]
  generalize Course.ofChecks .unlimited base checks clock = course at htaken
  have hrow : List.Forall₂ (Invocation.Corresponds alike id) (course.invocations base)
      ((course.invocations base).map (Invocation.revised id validate)) := by
    rw [List.forall₂_map_right_iff, List.forall₂_same]
    intro invocation hmem
    exact Invocation.corresponds_revised hindifferent (hregistered _ (htaken.check_mem _ hmem))
  have hattempts := Attempt.lacks_ofInvocations pool hrow (hindifferent.refl course.finish) 0
  have hempty : (course.revised id validate).abandoned.isEmpty = course.abandoned.isEmpty := by
    simp [Course.revised]
  rw [hempty, Course.invocations_revised]
  split
  · exact ⟨course.skipped_revised, course.incidents_revised, hattempts⟩
  · exact ⟨course.skipped_revised, course.incidents_revised, .inl .nil⟩

/-- Two runs over registries that differ in one check both have a history, or neither has. -/
theorem ofRun_revised (hindifferent : Indifferent alike registry id validate)
    (hunlimited : request.IsUnlimited) (reader : Reader) (clock : Clock) (pool : Pool) :
    (∃ fault, ofRun registry reader request clock pool = .error fault ∧
        ofRun (registry.revised id validate) reader request clock pool = .error fault) ∨
      ∃ first second, ofRun registry reader request clock pool = .ok first ∧
        ofRun (registry.revised id validate) reader request clock pool = .ok second ∧
        Parallel id pool first second := by
  rw [ofRun, ofRun, withTimeout_of_isUnlimited hunlimited, resolve_revised]
  cases hresolved : resolve registry request.selectors request.category with
  | error fault => exact .inl ⟨fault, rfl, rfl⟩
  | ok checks =>
    have hregistered := mem_of_mem_resolve hresolved
    exact .inr ⟨_, _, rfl, rfl, parallel_ofChecks hindifferent hregistered _ clock pool⟩

theorem Parallel.describable_iff {first second : History} (h : Parallel id pool first second) :
    first.Describable ↔ second.Describable :=
  h.attempts.elim (fun hlacks => hlacks.describable_iff.symm) Lacks.describable_iff

end History

/-- The time that a run takes can be written in milliseconds. -/
def IsMeasurable (registry : Registry) (reader : Reader) (request : Request) (pool : Pool)
    (clock : Clock) : Prop :=
  ∃ durationMs, milliseconds clock.now
    ((execute registry reader request pool).runAt clock).2.now = .ok durationMs

theorem isMeasurable_iff {reader : Reader} {request : Request} {clock : Clock} {history : History}
    (hhistory : History.ofRun registry reader request clock pool = .ok history) :
    IsMeasurable registry reader request pool clock ↔
      ∃ durationMs, milliseconds clock.now history.finish.now = .ok durationMs := by
  rw [IsMeasurable, execute_runAt, hhistory]

/-- Changing how one check judges its targets changes whether a run without a deadline returns only
where one of the two runs takes a time that cannot be measured.  Of the other checks the reports say
the same, but that one of them may lack invocations that had not ended when the run turned to them;
a report that is complete lacks none. -/
theorem execute_isolates {reader : Reader} {request : Request} {clock : Clock} (pool : Pool)
    (hunlimited : request.IsUnlimited) (hindifferent : Indifferent alike registry id validate) :
    (IsMeasurable registry reader request pool clock →
      IsMeasurable (registry.revised id validate) reader request pool clock →
        ((∃ outcome, (execute registry reader request pool).ReturnsAt clock outcome) ↔
          ∃ outcome,
            (execute (registry.revised id validate) reader request pool).ReturnsAt clock outcome)) ∧
    ∀ outcome changed, (execute registry reader request pool).ReturnsAt clock outcome →
      (execute (registry.revised id validate) reader request pool).ReturnsAt clock changed →
        changed.report.skipped = outcome.report.skipped ∧
          (changed.report.Lacks id pool outcome.report ∨
            outcome.report.Lacks id pool changed.report) := by
  rcases History.ofRun_revised hindifferent hunlimited reader clock pool with
    ⟨fault, hfirst, hsecond⟩ | ⟨first, second, hfirst, hsecond, hparallel⟩
  · rw [exists_returnsAt_iff, exists_returnsAt_iff]
    simp [execute_returnsAt_iff, hfirst, hsecond]
  rw [isMeasurable_iff hfirst, isMeasurable_iff hsecond, exists_returnsAt_iff, exists_returnsAt_iff]
  simp only [execute_returnsAt_iff, hfirst, hsecond, Except.ok.injEq, exists_eq_left']
  constructor
  · intro hmeasured hchanged
    exact and_congr hparallel.describable_iff (iff_of_true hmeasured hchanged)
  · rintro outcome changed ⟨-, durationMs, -, rfl⟩ ⟨-, otherMs, -, rfl⟩
    exact ⟨hparallel.skipped, hparallel.attempts.imp (·.report hparallel.incidents)
      (·.report hparallel.incidents.symm)⟩

/-- A check behind the reporter that comes to a result. -/
def successor : Check := { annotator (.text "3") with id := "successor" }

/-- A check that fails in some way, and one behind it. -/
def succession (kind : ReportedKind) : Registry := ⟨[reporter kind, successor], false⟩

/-- The pool in which the second invocation has not been taken up when the run turns to it. -/
def Pool.slow : Pool :=
  { prompt with invocation := fun sequence => if sequence = 0 then .ended else .pending }

/-- The failing check is tried first.  What becomes of the one behind it is left open. -/
def History.ofSuccession (kind : ReportedKind) (started : Bool) (outcome : Except Fault Result) :
    History :=
  let base : Target := ⟨barren, none, none, none⟩
  ⟨base, (succession kind).checks,
    ⟨[⟨reporter kind, .alone⟩, ⟨successor, .alone⟩], [], [], beginning⟩,
    [⟨⟨reporter kind, base⟩, true, .error (.reported kind "no answer")⟩,
      ⟨⟨successor, base⟩, started, outcome⟩], beginning⟩

theorem resolve_succession (kind : ReportedKind) :
    resolve (succession kind) [Selector.wildcard] none = .ok (succession kind).checks := by
  have hlt : ¬"successor" < "reporter" := by decide
  have hids : Check.idLe (reporter kind) successor := congrArg (!·) (decide_eq_false hlt)
  have hdisplay : Check.displayLe (reporter kind) successor := by
    rw [Check.displayLe, hids]
    rfl
  have hnodup : ((succession kind).checks.map (·.id)).Nodup :=
    show ["reporter", "successor"].Nodup by decide
  exact resolve_wildcard (List.pairwise_pair.2 hids) (List.pairwise_pair.2 hdisplay) hnodup false

theorem execute_succession {kind : ReportedKind} {started : Bool} {outcome : Except Fault Result}
    (hhistory : History.ofRun (succession kind) barren .everything beginning pool =
      .ok (.ofSuccession kind started outcome)) :
    (execute (succession kind) barren .everything pool).ReturnsAt beginning
      ⟨(History.ofSuccession kind started outcome).report .everything 0,
        (History.ofSuccession kind started outcome).events⟩ := by
  refine execute_returnsAt_iff.2 ⟨_, hhistory, ?_, 0, milliseconds_beginning, rfl⟩
  simp [History.Describable, History.ofSuccession, Target.Describable, Target.describe]

/-- Where every invocation has ended by the time at which the run turns to it, and where the first
check fails otherwise than by saying that time has run out, the second is judged. -/
theorem ofRun_succession (kind : ReportedKind)
    (hpool : pool = .prompt ∨ pool = .slow ∧ kind = .runtime) :
    History.ofRun (succession kind) barren .everything beginning pool =
      .ok (.ofSuccession kind true (.ok (.single (.text "3") .met))) := by
  rw [History.ofRun_everything (resolve_succession kind) barren beginning pool,
    History.ofSuccession, ← Attempt.accept_single]
  rcases hpool with rfl | ⟨rfl, rfl⟩
  · cases kind <;> rfl
  · rfl

/-- A check that says that time has run out leaves the run incomplete, but not the check behind it
unjudged, if that one has ended by the time at which the run turns to it. -/
theorem execute_isolates_successor :
    ∃ outcome changed,
      (execute (succession .runtime) barren .everything).ReturnsAt beginning outcome ∧
      (execute ((succession .runtime).revised "reporter" (reporter .deadline).validate) barren
        .everything).ReturnsAt beginning changed ∧
      outcome.report.incomplete = false ∧ changed.report.incomplete = true ∧
      (outcome.report.executionsBut "reporter").length = 1 ∧
      changed.report.executionsBut "reporter" = outcome.report.executionsBut "reporter" := by
  have hunlimited : Request.everything.IsUnlimited := fun _ htimeout => by cases htimeout
  have hindifferent :
      Indifferent Eq (succession .runtime) "reporter" (reporter .deadline).validate := by
    apply Indifferent.of_sameTime
    intro check hmem heq target moment
    simp only [succession, List.mem_cons, List.not_mem_nil, or_false] at hmem
    rcases hmem with rfl | rfl
    · rfl
    · exact absurd heq (by decide)
  have hrevised : (succession .runtime).revised "reporter" (reporter .deadline).validate =
      succession .deadline := rfl
  have hfirst := execute_succession (ofRun_succession .runtime (.inl rfl))
  have hsecond := execute_succession (ofRun_succession .deadline (.inl rfl))
  rw [← hrevised] at hsecond
  obtain ⟨-, hsame⟩ := execute_isolates .prompt hunlimited hindifferent
  have hended : ∀ sequence, Pool.prompt.invocation sequence = .ended := fun _ => rfl
  refine ⟨_, _, hfirst, hsecond, rfl, rfl, rfl, ?_⟩
  rcases (hsame _ _ hfirst hsecond).2 with hlacks | hlacks
  · exact (hlacks.same (.inr hended)).1
  · exact (hlacks.same (.inr hended)).1.symm

/-- The same change, in a pool that has not taken up the check behind it: what that check comes to
is lost, without any deadline. -/
theorem execute_loses_successor :
    Request.everything.timeout = none ∧
      ∃ outcome changed,
        (execute (succession .runtime) barren .everything .slow).ReturnsAt beginning outcome ∧
        (execute ((succession .runtime).revised "reporter" (reporter .deadline).validate) barren
          .everything .slow).ReturnsAt beginning changed ∧
        (outcome.report.executionsBut "reporter").length = 1 ∧
        changed.report.executionsBut "reporter" = [] ∧ changed.report.abandoned = 2 := by
  have hfirst := execute_succession (ofRun_succession .runtime (.inr ⟨rfl, rfl⟩))
  have hhistory : History.ofRun (succession .deadline) barren .everything beginning .slow =
      .ok (.ofSuccession .deadline false (.error (.reported .timeout ""))) := by
    rw [History.ofRun_everything (resolve_succession .deadline) barren beginning .slow]
    rfl
  exact ⟨rfl, _, _, hfirst, execute_succession hhistory, rfl, rfl, rfl⟩

end Run

end Preflight
