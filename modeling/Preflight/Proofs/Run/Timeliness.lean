import Preflight.Proofs.Check.Deadline
import Preflight.Proofs.Run.Accounting
import Preflight.Proofs.Run.Log
import Preflight.Proofs.Run.Rendering

/-!
# Nothing starts after the deadline

A run asks whether it is over before each of its calls, and makes none once it is.  What was begun
in time is kept, however late it comes to its end: an invocation that was judged is an execution or
a recorded failure, unless the check itself reports that time has run out.
-/

namespace Preflight.Run

open Preflight.Action

variable {registry : Registry} {reader : Reader} {request : Request} {clock : Clock}

/-! ## Abandoned attempts -/

namespace Attempt

theorem isAbandoned_leftOver (invocations : List Invocation) :
    ∀ attempt ∈ invocations.map leftOver, attempt.isAbandoned :=
  List.forall_mem_map.2 fun _ _ => rfl

end Attempt

namespace Collection

theorem executionsOf_append (sequence : Nat) (first rest : List Attempt) :
    executionsOf sequence (first ++ rest) =
      executionsOf sequence first ++ executionsOf (sequence + first.length) rest := by
  simp only [executionsOf, List.zipIdx_append, List.filterMap_append]

/-- Abandoned attempts at the end of a row add no execution to it. -/
theorem executionsOf_append_abandoned (sequence : Nat) (first : List Attempt)
    {abandoned : List Attempt} (habandoned : ∀ attempt ∈ abandoned, attempt.isAbandoned) :
    executionsOf sequence (first ++ abandoned) = executionsOf sequence first := by
  have hnone : executionsOf (sequence + first.length) abandoned = [] := by
    apply List.filterMap_eq_nil_iff.2
    intro numbered hmem
    have hattempt := habandoned numbered.1 (List.fst_mem_of_mem_zipIdx hmem)
    exact Attempt.execution?_of_isAbandoned hattempt numbered.2
  rw [executionsOf_append, hnone, List.append_nil]

/-- Abandoned attempts at the end of a row add no failure to it. -/
theorem incidents_append_abandoned (first : List Attempt) {abandoned : List Attempt}
    (habandoned : ∀ attempt ∈ abandoned, attempt.isAbandoned) :
    (first ++ abandoned).filterMap Attempt.incident? = first.filterMap Attempt.incident? := by
  have hnone : abandoned.filterMap Attempt.incident? = [] :=
    List.filterMap_eq_nil_iff.2 fun attempt hmem =>
      Attempt.incident?_of_isAbandoned (habandoned attempt hmem)
  rw [List.filterMap_append, hnone, List.append_nil]

end Collection

/-! ## What a report has of what was judged -/

/-- That a result is refused is no sign that time has run out. -/
theorem Attempt.not_isAbandonment_of_accept {returned : Returned} {cause : Fault}
    (hrefused : accept returned = .error cause) : ¬cause.isAbandonment := by
  cases returned with
  | other kindName =>
    cases hrefused
    exact Bool.false_ne_true
  | result result =>
    rw [accept] at hrefused
    split at hrefused
    · cases hrefused
    · cases hrefused
      exact Bool.false_ne_true

/-- What became of the invocation that was judged from a moment on: the check reported that time had
run out, or the report has an execution for it, or a failure. -/
inductive Collected (context : Context) (report : Report) (invocation : Invocation)
    (moment : Clock) (sequence : Nat) : Prop where
  | cutOff {cause : Fault} (habandonment : cause.isAbandonment)
      (hraised : ((invocation.check.validate context invocation.target).runAt moment).1 =
        .error cause)
  | executed {execution : Execution} (hmem : execution ∈ report.executions)
      (hcheck : execution.checkId = invocation.check.id) (hsequence : execution.sequence = sequence)
      (hanswer : Attempt.answer context invocation moment = .ok execution.result)
  | failed {cause : Fault} (hkept : ¬cause.isAbandonment)
      (hmem : ⟨invocation.check.id, .invocation invocation.target.place, cause⟩ ∈ report.failures)
      (hanswer : Attempt.answer context invocation moment = .error cause)

/-- How a run goes on that has planned everything.  The planned invocations are judged in order, up
to the first that is reached too late, and what is left from there on is abandoned. -/
structure Tried (context : Context) (finish : Clock) (history : History)
    (judgements : List (Invocation × Clock)) (left : List Invocation) (report : Report) : Prop where
  planned : history.invocations = judgements.map Prod.fst ++ left
  reached : left ≠ [] → context.expired finish.now
  attempts : history.attempts =
    judgements.map (Attempt.judged context) ++ left.map Attempt.leftOver
  executions : report.executions =
    Collection.executionsOf 0 (judgements.map (Attempt.judged context))
  failures : report.failures =
    (judgements.map (Attempt.judged context)).filterMap Attempt.incident?
  abandoned : report.abandoned =
    (judgements.map (Attempt.judged context)).countP Attempt.isAbandoned + left.length
  collected : ∀ sequence invocation moment,
    judgements[sequence]? = some (invocation, moment) →
      Collected context report invocation moment sequence

namespace History

variable {context : Context} {history : History} {durationMs : Int}

/-- A judged attempt of a check with a category ends as its check ended it. -/
theorem collected_of_judged {report : Report} {judgements : List (Invocation × Clock)}
    (hcategory : ∀ judgement ∈ judgements,
      ∃ category, judgement.1.check.category = .known category)
    (hexecutions : report.executions =
      Collection.executionsOf 0 (judgements.map (Attempt.judged context)))
    (hfailures : report.failures =
      (judgements.map (Attempt.judged context)).filterMap Attempt.incident?)
    {sequence : Nat} {invocation : Invocation} {moment : Clock}
    (hjudgement : judgements[sequence]? = some (invocation, moment)) :
    Collected context report invocation moment sequence := by
  have hmem := List.mem_of_getElem? hjudgement
  have hattempt : (judgements.map (Attempt.judged context))[sequence]? =
      some (Attempt.judged context (invocation, moment)) := by
    rw [List.getElem?_map, hjudgement]
    rfl
  obtain ⟨category, hknown⟩ : ∃ category, invocation.check.category = .known category :=
    hcategory _ hmem
  cases hanswer : Attempt.answer context invocation moment with
  | ok result =>
    have hexecution : (Attempt.judged context (invocation, moment)).execution? sequence =
        some ⟨invocation.check.id, category, sequence, result⟩ := by
      simp only [Attempt.execution?, Attempt.judged, hanswer, hknown]
    have hexecuted : ⟨invocation.check.id, category, sequence, result⟩ ∈ report.executions := by
      rw [hexecutions]
      exact Collection.mem_executionsOf.2 ⟨_, hattempt, hexecution⟩
    exact .executed hexecuted rfl rfl hanswer
  | error cause =>
    by_cases habandonment : cause.isAbandonment
    · -- Refusing a result never counts as running out of time, so the check itself has raised this.
      rw [Attempt.answer] at hanswer
      split at hanswer
      · exact absurd habandonment (Attempt.not_isAbandonment_of_accept hanswer)
      · rename_i raised hraised
        cases hanswer
        exact .cutOff habandonment hraised
    · have hincident : (Attempt.judged context (invocation, moment)).incident? =
          some ⟨invocation.check.id, .invocation invocation.target.place, cause⟩ := by
        simp only [Attempt.incident?, Attempt.judged, hanswer, habandonment, Bool.false_eq_true,
          if_false]
      refine .failed habandonment ?_ hanswer
      rw [hfailures]
      exact List.mem_filterMap.2 ⟨_, List.mem_of_getElem? hattempt, hincident⟩

theorem ofChecks_of_complete {base : Target} {checks : List Check} {course : Course}
    (hcourse : Course.ofChecks context base checks clock = course)
    (hcomplete : course.abandoned = []) :
    ofChecks context base checks clock = ⟨base, checks, course,
      ((Attempt.ofInvocations context (course.invocations base)).run course.finish).1,
      ((Attempt.ofInvocations context (course.invocations base)).run course.finish).2⟩ := by
  rw [ofChecks_prompt, hcourse, if_pos (List.isEmpty_iff.2 hcomplete)]
  rfl

theorem ofChecks_of_cut {base : Target} {checks : List Check} {course : Course}
    (hcourse : Course.ofChecks context base checks clock = course)
    (hcut : course.abandoned ≠ []) :
    ofChecks context base checks clock = ⟨base, checks, course, [], course.finish⟩ := by
  rw [ofChecks_prompt, hcourse, if_neg (by simpa using hcut)]

end History

/-- What a run calls, all of it before its end, and what of it is in the report. -/
structure Timely (context : Context) (start finish : Clock) (history : History)
    (log : List Called) (report : Report) : Prop where
  /-- Each call is made when the one before it has come to its end. -/
  chained : Chained context history.base start log finish
  intime : ∀ called ∈ log, ¬context.expired called.moment.now
  /-- The checks that planning dealt with were asked in order, and at most one more. -/
  asked : ∃ last, log.filterMap (Called.answer? history.base) = history.course.answers ++ last ∧
    last.map Prod.fst <+: history.course.abandoned
  listed : log.filterMap (Called.listing? history.base) = history.course.listings
  /-- When planning was cut short, nothing was judged. -/
  cut : report.abandonedChecks ≠ [] →
    log.filterMap Called.judgement? = [] ∧ report.executions = [] ∧ report.failures = []
  tried : report.abandonedChecks = [] → ∃ left,
    Tried context finish history (log.filterMap Called.judgement?) left report

namespace History

variable {context : Context} {base : Target} {checks : List Check} {durationMs : Int}

theorem timely_of_cut {course : Course}
    (htaken : Course.Taken context base checks clock course) (hcut : course.abandoned ≠ []) :
    ∃ log, Timely context clock course.finish ⟨base, checks, course, [], course.finish⟩ log
      (report ⟨base, checks, course, [], course.finish⟩ request durationMs) := by
  obtain ⟨log, last, hlog, hlast⟩ := htaken.exists_log
  refine ⟨log, hlog.chained, hlog.intime, ⟨last, hlog.answers_eq, hlast⟩, hlog.listings_eq, ?_, ?_⟩
  · intro habandoned
    exact ⟨hlog.judgements_eq, rfl, failures_report⟩
  · intro hcomplete
    exact absurd (List.map_eq_nil_iff.1 hcomplete) hcut

theorem timely_of_complete {course : Course}
    (hcategory : ∀ check ∈ checks, ∃ category, check.category = .known category)
    (htaken : Course.Taken context base checks clock course) (hcomplete : course.abandoned = [])
    {attempts : List Attempt} {finish : Clock}
    (hattempts : (Attempt.ofInvocations context (course.invocations base)).run course.finish =
      (attempts, finish)) :
    ∃ log, Timely context clock finish ⟨base, checks, course, attempts, finish⟩ log
      (report ⟨base, checks, course, attempts, finish⟩ request durationMs) := by
  obtain ⟨first, last, hfirst, hlast⟩ := htaken.exists_log
  obtain ⟨rest, judgements, left, hrest, hplanned, hmade, hleft⟩ :=
    Attempt.exists_log_ofInvocations context base (course.invocations base) course.finish
  rw [hattempts] at hrest hmade hleft
  dsimp only at hrest hmade hleft
  -- The calls of planning and those of trying make up the log of the run.
  have hlog := hfirst.append hrest
  rw [List.append_nil, List.append_nil, List.nil_append] at hlog
  have habandoned := Attempt.isAbandoned_leftOver left
  have hexecutions : Collection.executionsOf 0 attempts =
      Collection.executionsOf 0 (judgements.map (Attempt.judged context)) := by
    rw [hmade, Collection.executionsOf_append_abandoned 0 _ habandoned]
  have hfailures : attempts.filterMap Attempt.incident? =
      (judgements.map (Attempt.judged context)).filterMap Attempt.incident? := by
    rw [hmade, Collection.incidents_append_abandoned _ habandoned]
  have hcount : attempts.countP Attempt.isAbandoned =
      (judgements.map (Attempt.judged context)).countP Attempt.isAbandoned + left.length := by
    rw [hmade, List.countP_append, List.countP_eq_length.2 habandoned, List.length_map]
  have hjudged : ∀ judgement ∈ judgements,
      ∃ category, judgement.1.check.category = .known category := by
    intro judgement hmem
    have hinvocation : judgement.1 ∈ course.invocations base := by
      rw [hplanned]
      exact List.mem_append_left _ (List.mem_map_of_mem hmem)
    exact hcategory _ (htaken.check_mem _ hinvocation)
  refine ⟨first ++ rest, hlog.chained, hlog.intime, ⟨last, hlog.answers_eq, hlast⟩,
    hlog.listings_eq, ?_, ?_⟩
  · intro hcut
    have hnone : course.abandoned.map (·.id) = [] := by rw [hcomplete, List.map_nil]
    exact absurd hnone hcut
  · intro _
    rw [hlog.judgements_eq]
    refine ⟨left, hplanned, hleft, hmade, hexecutions, failures_report.trans hfailures, ?_, ?_⟩
    · rw [report, abandoned, if_pos (List.isEmpty_iff.2 hcomplete)]
      exact hcount
    · intro sequence invocation moment hjudgement
      exact collected_of_judged hjudged hexecutions (failures_report.trans hfailures) hjudgement

theorem exists_timely (hcategory : ∀ check ∈ checks, ∃ category, check.category = .known category) :
    ∃ log, Timely context clock (ofChecks context base checks clock).finish
      (ofChecks context base checks clock) log
      ((ofChecks context base checks clock).report request durationMs) := by
  have htaken := Course.taken_ofChecks context base checks clock
  by_cases hcomplete : (Course.ofChecks context base checks clock).abandoned = []
  · rw [ofChecks_of_complete rfl hcomplete]
    exact timely_of_complete hcategory htaken hcomplete rfl
  · rw [ofChecks_of_cut rfl hcomplete]
    exact timely_of_cut htaken hcomplete

end History

/-- A run in the prompt pool with a timeout that returns has called nothing at or after its deadline.
What it judged is a first part of what it planned; all of that is in the report, and nothing else
is. -/
theorem execute_timely {duration : Duration} {outcome : Outcome} (hreachable : registry.Reachable)
    (htimeout : request.timeout = some duration) (hunspent : duration.isSpent = false)
    (hreturns : (execute registry reader request).ReturnsAt clock outcome) :
    ∃ seconds history log, duration.seconds = .ok seconds ∧
      History.ofRun registry reader request clock = .ok history ∧
      (∀ called ∈ log, (clock.now.add seconds).le called.moment.now = false) ∧
      Timely ⟨some (clock.now.add seconds), false⟩ clock
        ((execute registry reader request).runAt clock).2 history log outcome.report := by
  obtain ⟨history, hhistory, -, durationMs, -, rfl⟩ := execute_returnsAt_iff.1 hreturns
  have hfinish : ((execute registry reader request).runAt clock).2 = history.finish := by
    rw [execute_runAt, hhistory]
  obtain ⟨context, checks, hcontext, hresolved, hofChecks⟩ := History.ofRun_eq_ok_iff.1 hhistory
  rw [htimeout] at hcontext
  obtain ⟨seconds, hseconds, rfl⟩ := (Context.withTimeout_eq_ok_iff hunspent).1 hcontext
  have hcategory : ∀ check ∈ checks, ∃ category, check.category = .known category :=
    fun check hmem => hreachable.category check (mem_of_mem_resolve hresolved check hmem)
  obtain ⟨log, htimely⟩ : ∃ log, Timely ⟨some (clock.now.add seconds), false⟩ clock history.finish
      history log (history.report request durationMs) := by
    rw [hofChecks]
    exact History.exists_timely hcategory
  rw [hfinish]
  refine ⟨seconds, history, log, hseconds, hhistory, ?_, htimely⟩
  intro called hmem
  exact Bool.eq_false_iff.2 (htimely.intime called hmem)

def paces : Registry := ⟨[paced "first", paced "second", paced "third"], false⟩

theorem resolve_paces : resolve paces [Selector.wildcard] none = .ok paces.checks := by
  have hids : paces.checks.Pairwise fun a b => Check.idLe a b := by decide
  have hdisplay : paces.checks.Pairwise fun a b => Check.displayLe a b := by decide
  exact resolve_wildcard hids hdisplay (by decide) false

theorem reachable_paces : paces.Reachable :=
  Registry.reachable_of_ofChecks (show Registry.ofChecks paces.checks = .ok _ from rfl)

/-- In two seconds the first check comes to its end.  The second asks too late whether to stop, and
the third is left. -/
theorem execute_timely_paces :
    ∃ outcome, (execute paces barren (.within 2)).ReturnsAt beginning outcome ∧
      outcome.report.executions.length = 1 ∧ outcome.report.abandoned = 2 ∧
      ∃ seconds history log, Duration.seconds (.whole 2) = .ok seconds ∧
        History.ofRun paces barren (.within 2) beginning = .ok history ∧
        (∀ called ∈ log, (beginning.now.add seconds).le called.moment.now = false) ∧
        Timely ⟨some (beginning.now.add seconds), false⟩ beginning
          ((execute paces barren (.within 2)).runAt beginning).2 history log outcome.report := by
  have hpositive : Duration.isSpent (.whole 2) = false := by decide
  obtain ⟨durationMs, hreturns⟩ := execute_within resolve_paces barren .prompt hpositive
    (by decide +kernel) (by decide +kernel) (by decide +kernel)
  have hone : (Collection.executionsOf 0
      (History.within 2 barren paces.checks).attempts).length = 1 := by
    decide +kernel
  have htwo : (History.within 2 barren paces.checks).abandoned = 2 := by decide +kernel
  generalize History.within 2 barren paces.checks = history at hreturns hone htwo
  exact ⟨_, hreturns, hone, htwo, execute_timely reachable_paces rfl hpositive hreturns⟩

end Preflight.Run
