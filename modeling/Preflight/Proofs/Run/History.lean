import Preflight.Proofs.Check.Deadline
import Preflight.Proofs.Registry.WellFormed
import Preflight.Proofs.Run.Collection
import Preflight.Proofs.Run.Course
import Preflight.Proofs.Run.Resolve

/-!
# Histories of runs

A history holds everything that happened in a run: the checks that were selected, the course that
planning took, and every attempt.  A run returns exactly when its history can be told, and its
report is then what the history adds up to.  What is shown of histories therefore holds of every
report that a run returns.  `History.Happened` says what can have happened in the prompt pool, in
which every task has ended when the run turns to it.
-/

namespace Preflight.Run

open Preflight.Action

structure History where
  base : Target
  checks : List Check
  course : Course
  attempts : List Attempt
  finish : Clock

namespace History

/-- Plans the checks and tries what was planned.  Nothing is tried when planning was cut short. -/
def ofChecks (context : Context) (base : Target) (checks : List Check) (clock : Clock)
    (pool : Pool := .prompt) : History :=
  let course :=
    Course.ofChecks context { base with reader := pool.lister context base.reader } checks clock
  if course.abandoned.isEmpty then
    let (attempts, finish) :=
      (Attempt.ofInvocations context (course.invocations base) pool).run course.finish
    ⟨base, checks, course, attempts, finish⟩
  else ⟨base, checks, course, [], course.finish⟩

/-- In the prompt pool the instances are listed by the reader itself. -/
theorem ofChecks_prompt (context : Context) (base : Target) (checks : List Check) (clock : Clock) :
    ofChecks context base checks clock =
      if (Course.ofChecks context base checks clock).abandoned.isEmpty then
        let (attempts, finish) := (Attempt.ofInvocations context
          ((Course.ofChecks context base checks clock).invocations base)).run
            (Course.ofChecks context base checks clock).finish
        ⟨base, checks, Course.ofChecks context base checks clock, attempts, finish⟩
      else ⟨base, checks, Course.ofChecks context base checks clock, [],
        (Course.ofChecks context base checks clock).finish⟩ := rfl

/-- The history of a run that starts at a moment, unless its timeout or a selector is refused. -/
def ofRun (registry : Registry) (reader : Reader) (request : Request) (clock : Clock)
    (pool : Pool := .prompt) : Except Fault History :=
  match Context.withTimeout request.timeout clock.now with
  | .error fault => .error fault
  | .ok context =>
    match resolve registry request.selectors request.category with
    | .error fault => .error fault
    | .ok checks =>
      .ok (ofChecks context ⟨reader, request.current, request.target, none⟩ checks clock pool)

def invocations (history : History) : List Invocation :=
  history.course.invocations history.base

/-- The invocations that did not come to an end.  A check that was left unplanned counts once. -/
def abandoned (history : History) : Nat :=
  if history.course.abandoned.isEmpty then history.attempts.countP Attempt.isAbandoned
  else history.invocations.length + history.course.abandoned.length

/-- The report that a history adds up to. -/
def report (history : History) (request : Request) (durationMs : Int) : Report where
  executions := Collection.executionsOf 0 history.attempts
  incidents := history.course.incidents ++ history.attempts.filterMap Attempt.incident?
  skipped := history.course.skipped.map (·.id)
  incomplete := decide (0 < history.abandoned)
  abandoned := history.abandoned
  abandonedChecks := history.course.abandoned.map (·.id)
  current := request.current
  target := request.target
  durationMs := durationMs

def events (history : History) : List Event :=
  history.attempts.filterMap startEvent? ++ history.attempts.filterMap Attempt.completion?

/-- Every target that was tried has a name that messages can use. -/
def Describable (history : History) : Prop :=
  ∀ attempt ∈ history.attempts, attempt.invocation.target.Describable

def conclude (history : History) (request : Request) (start : Binary64) : Except Fault Outcome :=
  if history.course.abandoned.isEmpty then
    match Collection.ofAttempts 0 history.attempts with
    | .error fault => .error fault
    | .ok collection =>
      (milliseconds start history.finish.now).map fun durationMs =>
        ⟨finished request (history.course.planning history.base) collection durationMs,
          history.attempts.filterMap startEvent? ++ collection.events⟩
  else
    (milliseconds start history.finish.now).map fun durationMs =>
      ⟨cutShort request (history.course.planning history.base) durationMs, []⟩

end History

/-- A run is taking a history and concluding from it. -/
theorem execute_runAt (registry : Registry) (reader : Reader) (request : Request) (clock : Clock)
    (pool : Pool) :
    (execute registry reader request pool).runAt clock =
      match History.ofRun registry reader request clock pool with
      | .error fault => (.error fault, clock)
      | .ok history => (history.conclude request clock.now, history.finish) := by
  rw [execute, History.ofRun]
  simp only [runAt_bind, runAt_now, runAt_ofExcept]
  cases Context.withTimeout request.timeout clock.now with
  | error fault => rfl
  | ok context =>
    cases resolve registry request.selectors request.category with
    | error fault => rfl
    | ok checks =>
      simp only [runAt_liftM, Planning.ofChecks_run_lister]
      rw [History.ofChecks]
      generalize Course.ofChecks context _ checks clock = course
      generalize (⟨reader, request.current, request.target, none⟩ : Target) = base
      have hempty : (course.planning base).abandonedChecks.isEmpty = course.abandoned.isEmpty := by
        simp [Course.planning]
      rw [hempty]
      by_cases hcomplete : course.abandoned.isEmpty
      · simp only [hcomplete, if_true, runAt_bind, runAt_liftM, runAt_ofExcept, runAt_now]
        rw [show (course.planning base).invocations = course.invocations base from rfl]
        cases (Attempt.ofInvocations context (course.invocations base) pool).run course.finish with
        | mk attempts finish =>
          simp only [History.conclude, hcomplete, if_true]
          cases Collection.ofAttempts 0 attempts with
          | error fault => rfl
          | ok collection =>
            dsimp only
            cases milliseconds clock.now finish.now <;> rfl
      · simp only [hcomplete, Bool.false_eq_true, if_false, runAt_bind, runAt_ofExcept, runAt_now,
          History.conclude]
        cases milliseconds clock.now course.finish.now <;> rfl

namespace History

variable {registry : Registry} {reader : Reader} {request : Request} {clock : Clock}
variable {history : History}

structure Happened (history : History) (registry : Registry) (reader : Reader) (request : Request)
    (clock : Clock) : Prop where
  base_eq : history.base = ⟨reader, request.current, request.target, none⟩
  resolved : resolve registry request.selectors request.category = .ok history.checks
  /-- The plan of the run is what its course adds up to.  When planning came to its end, everything
  that was planned is tried, in order. -/
  ran : ∃ context, Context.withTimeout request.timeout clock.now = .ok context ∧
    ((Planning.ofChecks context history.base history.checks).run clock).1 =
      history.course.planning history.base ∧
    Course.Taken context history.base history.checks clock history.course ∧
    (history.course.abandoned = [] →
      List.Forall₂ (Attempt.Made context) history.invocations history.attempts)
  untried : history.course.abandoned ≠ [] → history.attempts = []

theorem happened (hhistory : ofRun registry reader request clock = .ok history) :
    history.Happened registry reader request clock := by
  rw [ofRun] at hhistory
  split at hhistory
  · cases hhistory
  rename_i context hcontext
  split at hhistory
  · cases hhistory
  rename_i checks hresolved
  generalize hbase : (⟨reader, request.current, request.target, none⟩ : Target) = base at hhistory
  have htaken := Course.taken_ofChecks context base checks clock
  have hplan := congrArg Prod.fst (Planning.ofChecks_run context base checks clock)
  rw [ofChecks_prompt] at hhistory
  generalize Course.ofChecks context base checks clock = course at hhistory htaken hplan
  by_cases hcomplete : course.abandoned.isEmpty
  · simp only [hcomplete, if_true] at hhistory
    cases hhistory
    refine ⟨hbase.symm, hresolved, ⟨context, hcontext, hplan, htaken, fun _ => ?_⟩, fun hcut => ?_⟩
    · exact Attempt.made_ofInvocations _ _ _
    · exact absurd (List.isEmpty_iff.1 hcomplete) hcut
  · simp only [hcomplete, Bool.false_eq_true, if_false] at hhistory
    cases hhistory
    have hsome : course.abandoned ≠ [] := by simpa using hcomplete
    exact ⟨hbase.symm, hresolved,
      ⟨context, hcontext, hplan, htaken, fun hnone => absurd hnone hsome⟩, fun _ => rfl⟩

theorem Happened.taken (hhappened : history.Happened registry reader request clock) :
    ∃ context, Course.Taken context history.base history.checks clock history.course := by
  obtain ⟨context, -, -, htaken, -⟩ := hhappened.ran
  exact ⟨context, htaken⟩

theorem Happened.tried (hhappened : history.Happened registry reader request clock)
    (hcomplete : history.course.abandoned = []) :
    history.attempts.map (·.invocation) = history.invocations := by
  obtain ⟨context, -, -, -, hmade⟩ := hhappened.ran
  exact Attempt.map_invocation_of_made (hmade hcomplete)

/-! ## Reports are summaries of histories -/

theorem finished_eq_report (hcomplete : history.course.abandoned = []) (durationMs : Int) :
    finished request (history.course.planning history.base)
      (Collection.summary 0 history.attempts) durationMs = history.report request durationMs := by
  simp [finished, report, abandoned, hcomplete, Collection.summary, Course.planning]

theorem cutShort_eq_report (hcut : history.course.abandoned ≠ []) (huntried : history.attempts = [])
    (durationMs : Int) :
    cutShort request (history.course.planning history.base) durationMs =
      history.report request durationMs := by
  have hpositive : 0 < history.course.abandoned.length := List.length_pos_iff.2 hcut
  have habandoned : history.abandoned =
      history.invocations.length + history.course.abandoned.length := by
    simp [abandoned, hcut]
  have hincomplete : decide (0 < history.abandoned) = true := by
    simpa [habandoned] using Nat.add_pos_right _ hpositive
  rw [report, hincomplete, habandoned]
  simp [cutShort, invocations, huntried, Collection.executionsOf, Course.planning]

/-- A history that can be told is concluded with what it adds up to. -/
theorem conclude_eq_ok_iff {start : Binary64} {outcome : Outcome}
    (huntried : history.course.abandoned ≠ [] → history.attempts = []) :
    history.conclude request start = .ok outcome ↔
      history.Describable ∧ ∃ durationMs, milliseconds start history.finish.now = .ok durationMs ∧
        outcome = ⟨history.report request durationMs, history.events⟩ := by
  rw [conclude]
  by_cases hcut : history.course.abandoned = []
  · simp only [hcut, List.isEmpty_nil, if_true, ← finished_eq_report hcut]
    constructor
    · intro hok
      split at hok
      · cases hok
      rename_i collection hcollected
      have hdescribable := Collection.describable_of_ofAttempts hcollected
      rw [Collection.ofAttempts_eq_summary hdescribable] at hcollected
      cases hcollected
      exact ⟨hdescribable, Fault.map_eq_ok_iff.1 hok⟩
    · rintro ⟨hdescribable, hduration⟩
      rw [Collection.ofAttempts_eq_summary hdescribable]
      exact Fault.map_eq_ok_iff.2 hduration
  · have hdescribable : history.Describable := by simp [Describable, huntried hcut]
    have hevents : history.events = [] := by simp [events, huntried hcut]
    simp only [List.isEmpty_iff, hcut, if_false, hdescribable, true_and, hevents,
      ← cutShort_eq_report hcut (huntried hcut)]
    exact Fault.map_eq_ok_iff

theorem ofRun_eq_ok_iff {pool : Pool} : ofRun registry reader request clock pool = .ok history ↔
    ∃ context checks, Context.withTimeout request.timeout clock.now = .ok context ∧
      resolve registry request.selectors request.category = .ok checks ∧
        history = ofChecks context ⟨reader, request.current, request.target, none⟩ checks clock
          pool := by
  rw [ofRun]
  cases Context.withTimeout request.timeout clock.now with
  | error fault => simp
  | ok context =>
    cases resolve registry request.selectors request.category with
    | error fault => simp
    | ok checks => simp [eq_comm]

/-- In any pool, nothing is tried when planning was cut short. -/
theorem attempts_eq_nil_of_ofRun {pool : Pool}
    (hhistory : ofRun registry reader request clock pool = .ok history)
    (hcut : history.course.abandoned ≠ []) : history.attempts = [] := by
  obtain ⟨context, checks, -, -, rfl⟩ := ofRun_eq_ok_iff.1 hhistory
  rw [ofChecks] at hcut ⊢
  dsimp only at hcut ⊢
  split at hcut
  · rename_i hcomplete
    exact absurd (List.isEmpty_iff.1 hcomplete) hcut
  · rename_i hleft
    rw [if_neg hleft]

end History

/-- A run returns exactly when it has a history that can be told, and then it returns what the
history adds up to. -/
theorem execute_returnsAt_iff {registry : Registry} {reader : Reader} {request : Request}
    {clock : Clock} {pool : Pool} {outcome : Outcome} :
    (execute registry reader request pool).ReturnsAt clock outcome ↔
      ∃ history, History.ofRun registry reader request clock pool = .ok history ∧
        history.Describable ∧
        ∃ durationMs, milliseconds clock.now history.finish.now = .ok durationMs ∧
          outcome = ⟨history.report request durationMs, history.events⟩ := by
  rw [ReturnsAt, execute_runAt]
  cases hhistory : History.ofRun registry reader request clock pool with
  | error fault => simp
  | ok history =>
    simpa using History.conclude_eq_ok_iff (History.attempts_eq_nil_of_ofRun hhistory)

theorem exists_returnsAt_iff {registry : Registry} {reader : Reader} {request : Request}
    {clock : Clock} {pool : Pool} :
    (∃ outcome, (execute registry reader request pool).ReturnsAt clock outcome) ↔
      ∃ history, History.ofRun registry reader request clock pool = .ok history ∧
        history.Describable ∧
        ∃ durationMs, milliseconds clock.now history.finish.now = .ok durationMs := by
  simp only [execute_returnsAt_iff]
  constructor
  · rintro ⟨-, history, hhistory, hdescribable, durationMs, hduration, -⟩
    exact ⟨history, hhistory, hdescribable, durationMs, hduration⟩
  · rintro ⟨history, hhistory, hdescribable, durationMs, hduration⟩
    exact ⟨_, history, hhistory, hdescribable, durationMs, hduration, rfl⟩

/-! ## Runs of a few checks -/

/-- The request to run every check, without versions and without a deadline. -/
def Request.everything : Request := ⟨[Selector.wildcard], none, none, none, none⟩

theorem History.ofRun_everything {registry : Registry} {checks : List Check}
    (hresolve : resolve registry [Selector.wildcard] none = .ok checks) (reader : Reader)
    (clock : Clock) (pool : Pool := .prompt) :
    History.ofRun registry reader Request.everything clock pool =
      .ok (History.ofChecks .unlimited ⟨reader, none, none, none⟩ checks clock pool) := by
  simp only [History.ofRun, Request.everything, Context.withTimeout, hresolve]

/-- The request to run every check within some whole seconds. -/
def Request.within (seconds : Int) : Request :=
  { Request.everything with timeout := some (.whole seconds) }

theorem History.ofRun_singleton (check : Check) (reader : Reader) (clock : Clock) :
    History.ofRun ⟨[check], false⟩ reader Request.everything clock =
      .ok (History.ofChecks .unlimited ⟨reader, none, none, none⟩ [check] clock) :=
  ofRun_everything (resolve_singleton check false) reader clock

/-- The moment from which clocks count. -/
def beginning : Clock := ⟨.zero, default⟩

theorem milliseconds_beginning : milliseconds beginning.now beginning.now = .ok 0 := by
  have helapsed : ((Binary64.zero.sub .zero).mul (Binary64.ofInt 1000)).truncate? = some 0 := by
    decide +kernel
  simp only [milliseconds, beginning, helapsed]

def barren : Reader := .ofSnapshot ⟨[], []⟩

/-- The history of checks when some whole seconds are given to them. -/
def History.within (seconds : Int) (reader : Reader) (checks : List Check)
    (pool : Pool := .prompt) : History :=
  ofChecks ⟨some (beginning.now.add (.ofInt seconds)), false⟩ ⟨reader, none, none, none⟩ checks
    beginning pool

theorem execute_within {registry : Registry} {checks : List Check}
    (hresolve : resolve registry [Selector.wildcard] none = .ok checks) (reader : Reader)
    (pool : Pool) {seconds : Int} (hpositive : Duration.isSpent (.whole seconds) = false)
    (hfinite : (Binary64.ofInt seconds).isInfinite = false)
    (hunbound : (History.within seconds reader checks pool).attempts.all
      (·.invocation.target.resource.isNone))
    (htime : (((History.within seconds reader checks pool).finish.now.sub beginning.now).mul
      (.ofInt 1000)).truncate?.isSome) :
    ∃ durationMs, (execute registry reader (.within seconds) pool).ReturnsAt beginning
      ⟨(History.within seconds reader checks pool).report (.within seconds) durationMs,
        (History.within seconds reader checks pool).events⟩ := by
  have hseconds : Duration.seconds (.whole seconds) = .ok (.ofInt seconds) := by
    simp only [Duration.seconds, hfinite, Bool.false_eq_true, if_false]
  have hhistory : History.ofRun registry reader (.within seconds) beginning pool =
      .ok (History.within seconds reader checks pool) :=
    History.ofRun_eq_ok_iff.2 ⟨_, _, (Context.withTimeout_eq_ok_iff hpositive).2 ⟨_, hseconds, rfl⟩,
      hresolve, rfl⟩
  obtain ⟨durationMs, hdurationMs⟩ := Option.isSome_iff_exists.1 htime
  refine ⟨durationMs, execute_returnsAt_iff.2 ⟨_, hhistory, ?_, durationMs, ?_, rfl⟩⟩
  · intro attempt hmem
    have hnone := List.all_eq_true.1 hunbound attempt hmem
    rw [Target.Describable, Target.describe, Option.isNone_iff_eq_none.1 hnone]
    exact ⟨none, rfl⟩
  · rw [milliseconds]
    simp only [hdurationMs]

/-- A check that applies to everything and reports a failure of one kind. -/
def reporter (kind : ReportedKind) : Check where
  kind := "Reporter"
  id := "reporter"
  name := "Reporter"
  description := "Reports a failure"
  category := .known .component
  resourceTypes := []
  canApply _ _ := pure true
  validate _ _ := throw (.reported kind "no answer")

theorem reachable_reporter (kind : ReportedKind) : Registry.Reachable ⟨[reporter kind], false⟩ :=
  Registry.reachable_of_ofChecks (show Registry.ofChecks [reporter kind] = .ok _ from rfl)

def History.ofReporter (kind : ReportedKind) (reader : Reader) : History :=
  let base : Target := ⟨reader, none, none, none⟩
  ⟨base, [reporter kind], ⟨[⟨reporter kind, .alone⟩], [], [], beginning⟩,
    [⟨⟨reporter kind, base⟩, true, .error (.reported kind "no answer")⟩], beginning⟩

theorem History.ofRun_reporter (kind : ReportedKind) (reader : Reader) :
    History.ofRun ⟨[reporter kind], false⟩ reader Request.everything beginning =
      .ok (History.ofReporter kind reader) := by
  rw [ofRun_singleton]
  rfl

theorem execute_reporter (kind : ReportedKind) (reader : Reader) :
    (execute ⟨[reporter kind], false⟩ reader Request.everything).ReturnsAt beginning
      ⟨(History.ofReporter kind reader).report Request.everything 0,
        (History.ofReporter kind reader).events⟩ := by
  refine execute_returnsAt_iff.2 ⟨_, History.ofRun_reporter kind reader, ?_, 0, ?_, rfl⟩
  · simp [History.Describable, History.ofReporter, Target.Describable, Target.describe]
  · exact milliseconds_beginning

end Preflight.Run
