import Preflight.Proofs.Check.Heeding
import Preflight.Proofs.Check.TimeLeft
import Preflight.Proofs.Run.Timeliness

/-!
# More time loses nothing that can be waited for

Two runs that differ in their timeouts go the same way until the one with less time cuts something
off.  A listing that it cuts off ends its planning.  After an invocation that it cuts off it only
takes what has ended already, so it still reports nothing that the other run does not report.

All this holds as long as the time that is left can be waited for.  A clock counts up to some number
of seconds, and a longer wait for a task that has not ended is a failure of that task.
-/

namespace Preflight.Run

open Preflight.Action

/-! ## Waiting with more time -/

namespace Pool

/-- The task has ended, or the wait for it is not too long. -/
def Bears (pool : Pool) (context : Context) (progress : Progress) (moment : Clock) : Prop :=
  progress = .ended ∨
    ∀ left, context.remaining moment.now = some left → pool.longestWait.lt left = false

variable {α : Type} {pool first second : Pool} {context shorter longer : Context}
variable {progress early late : Progress} {start finish : Clock} {outcome : Except Fault α}

/-- The run that waits for a task sees what it comes to, or that time ran out before its end. -/
theorem Bears.seen_eq_or (hbears : pool.Bears context progress start) (finish : Clock)
    (outcome : Except Fault α) :
    pool.seen context progress start finish outcome = outcome ∨
      pool.seen context progress start finish outcome = .error (.reported .timeout "") ∧
        progress ≠ .ended ∧ ∃ left, context.remaining start.now = some left ∧
          (finish.now.sub start.now).le left = false := by
  rw [seen]
  split
  · exact .inl rfl
  rename_i hunended
  split
  · exact .inl rfl
  rename_i left hleft
  have hpending : progress ≠ .ended := by simpa [Progress.isEnded] using hunended
  rw [if_neg (Bool.eq_false_iff.1 ((hbears.resolve_left hpending) left hleft))]
  split
  · exact .inl rfl
  · rename_i hlate
    exact .inr ⟨rfl, hpending, left, hleft, Bool.eq_false_iff.2 hlate⟩

/-- What becomes of one task in two runs of which the second has more time. -/
structure Compare (first second : Pool) (shorter longer : Context) (early late : Progress)
    (moment : Clock) : Prop where
  ended : early = .ended → late = .ended
  left : ∀ more, longer.remaining moment.now = some more →
    ∃ less, shorter.remaining moment.now = some less ∧ less.le more
  short : first.Bears shorter early moment
  long : second.Bears longer late moment

/-- Both runs see the same of a task, or the one with less time sees that time ran out. -/
theorem Compare.seen_eq_or (h : Compare first second shorter longer early late start)
    (finish : Clock) (outcome : Except Fault α) :
    first.seen shorter early start finish outcome =
        second.seen longer late start finish outcome ∨
      first.seen shorter early start finish outcome = .error (.reported .timeout "") := by
  rcases h.short.seen_eq_or finish outcome with hearly | ⟨hearly, -⟩
  swap
  · exact .inr hearly
  rcases h.long.seen_eq_or finish outcome with hlate | ⟨-, hunended, more, hmore, hlate⟩
  · exact .inl (hearly.trans hlate.symm)
  -- With more time the task was cut off, so it was also with less.
  obtain ⟨less, hless, hle⟩ := h.left more hmore
  have hpending : early ≠ .ended := mt h.ended hunended
  have hcut : ¬(finish.now.sub start.now).le less := by
    intro hintime
    rw [Binary64.le_trans hintime hle] at hlate
    cases hlate
  have hwaits : ¬first.longestWait.lt less :=
    Bool.eq_false_iff.1 (h.short.resolve_left hpending less hless)
  have hended : ¬early.isEnded := by simpa [Progress.isEnded] using hpending
  right
  rw [seen, if_neg hended, hless]
  dsimp only
  rw [if_neg hwaits, if_neg hcut]

variable {sequence : Nat} {isOver later : Bool}

/-- The same of an invocation, when the run with less time is taken to be over if the other is. -/
theorem Compare.collected_eq_or
    (h : Compare first second shorter longer (first.invocation sequence)
      (second.invocation sequence) start)
    (hover : later = true → isOver = true) (finish : Clock) (outcome : Except Fault α) :
    first.collected shorter sequence isOver start finish outcome =
        second.collected longer sequence later start finish outcome ∨
      first.collected shorter sequence isOver start finish outcome =
        .error (.reported .timeout "") := by
  simp only [collected]
  by_cases hpassed : isOver && !(first.invocation sequence).isEnded
  · exact .inr (if_pos hpassed)
  rw [if_neg hpassed]
  by_cases hlate : later && !(second.invocation sequence).isEnded
  · -- The run with less time is over as well, so the invocation has ended for it.
    have hboth := hover (Bool.and_eq_true_iff.1 hlate).1
    have hended : first.invocation sequence = .ended := by
      simpa [hboth, Progress.isEnded] using hpassed
    simp [h.ended hended, Progress.isEnded] at hlate
  · rw [if_neg hlate]
    exact h.seen_eq_or finish outcome

/-- What is found of an invocation that was cut off is that it was. -/
theorem Bears.collected_of_isAbandonment
    (hbears : pool.Bears context (pool.invocation sequence) start) (isOver : Bool) (finish : Clock)
    {cause : Fault}
    (hcause : cause.isAbandonment) :
    ∃ found, pool.collected context sequence isOver start finish (.error cause : Except Fault α) =
      .error found ∧ found.isAbandonment := by
  simp only [collected]
  split
  · exact ⟨_, rfl, rfl⟩
  rcases hbears.seen_eq_or finish (.error cause : Except Fault α) with hseen | ⟨hseen, -⟩
  · exact ⟨cause, hseen, hcause⟩
  · exact ⟨_, hseen, rfl⟩

end Pool

/-- Two runs from one start, of which the second has more time. -/
structure Prolongs (first second : Pool) (shorter longer : Context) (start : Clock) : Prop where
  sooner : ∀ moment, longer.expired moment → shorter.expired moment
  listing : ∀ type moment, moment.NotBefore start →
    Pool.Compare first second shorter longer (first.listing type moment)
      (second.listing type moment) moment
  invocation : ∀ sequence moment, moment.NotBefore start →
    Pool.Compare first second shorter longer (first.invocation sequence)
      (second.invocation sequence) moment

variable {first second : Pool} {shorter longer : Context} {start : Clock}

/-! ## Planning with more time -/

theorem Listing.timedOut_of_timeout (type : ResourceType) (text : String) :
    timedOut ⟨type, .error (.reported .timeout text)⟩ = true := rfl

/-- Two surveys are the same, or the one with less time was cut short within the other. -/
theorem Survey.eq_or_cutShort (hprolongs : Prolongs first second shorter longer start)
    {reader : Reader} (hages : reader.Ages) (types : List ResourceType) {clock : Clock}
    (hlater : clock.NotBefore start) :
    ofTypes shorter (first.lister shorter reader) types clock =
        ofTypes longer (second.lister longer reader) types clock ∧
      (ofTypes shorter (first.lister shorter reader) types clock).finish.NotBefore start ∨
    (ofTypes shorter (first.lister shorter reader) types clock).cutShort ∧
      (ofTypes shorter (first.lister shorter reader) types clock).listings.filterMap
          Listing.failure? <+:
        (ofTypes longer (second.lister longer reader) types clock).listings.filterMap
          Listing.failure? := by
  induction types generalizing clock with
  | nil => exact .inl ⟨rfl, hlater⟩
  | cons type rest ih =>
    by_cases hover : shorter.expired clock.now
    · right
      rw [ofTypes, if_pos hover]
      exact ⟨rfl, List.nil_prefix⟩
    have hgoes : ¬longer.expired clock.now := fun hlate => hover (hprolongs.sooner clock.now hlate)
    rw [ofTypes, ofTypes, if_neg hover, if_neg hgoes, Pool.runAt_list_lister,
      Pool.runAt_list_lister]
    dsimp only
    have hlisted : ((reader.list type).runAt clock).2.NotBefore start :=
      (hages type clock).trans hlater
    rcases (hprolongs.listing type clock hlater).seen_eq_or ((reader.list type).runAt clock).2
      ((reader.list type).runAt clock).1 with hsame | hcut
    · rw [hsame]
      split
      · exact .inl ⟨rfl, hlisted⟩
      rcases ih hlisted with ⟨hrest, hfinish⟩ | ⟨hshort, hearlier⟩
      · exact .inl ⟨congrArg (after _) hrest, hfinish⟩
      · refine .inr ⟨hshort, ?_⟩
        simp only [after, List.filterMap_cons]
        split
        · exact hearlier
        · exact (List.prefix_cons_inj _).2 hearlier
    · -- The survey with less time ends with this listing, which is no failure.
      rw [hcut, if_pos (Listing.timedOut_of_timeout type "")]
      exact .inr ⟨rfl, List.nil_prefix⟩

namespace Course

/-- Two courses are the same, or the one with less time was stopped within the other. -/
inductive Precedes (start : Clock) : Course → Course → Prop where
  | same {course : Course} (hfinish : course.finish.NotBefore start) :
      Precedes start course course
  | stopped {early late : Course} (hstopped : early.abandoned ≠ [])
      (hincidents : early.incidents <+: late.incidents) : Precedes start early late

theorem Precedes.after {early late : Course} (hprecedes : Precedes start early late)
    (step : Step) : Precedes start (early.after step) (late.after step) := by
  cases hprecedes with
  | same hfinish => exact .same hfinish
  | stopped hstopped hincidents =>
    refine .stopped hstopped ?_
    rw [incidents_after, incidents_after]
    exact (List.prefix_append_right_inj _).2 hincidents

theorem precedes_ofChecks (hprolongs : Prolongs first second shorter longer start)
    {base : Target} (hreader : base.reader.Ages) {checks : List Check}
    (hages : ∀ check ∈ checks, (check.canApply base.current base.target).Ages) {clock : Clock}
    (hlater : clock.NotBefore start) :
    Precedes start
      (ofChecks shorter { base with reader := first.lister shorter base.reader } checks clock)
      (ofChecks longer { base with reader := second.lister longer base.reader } checks clock) := by
  induction checks generalizing clock with
  | nil => exact .same hlater
  | cons check rest ih =>
    obtain ⟨hthis, hothers⟩ := List.forall_mem_cons.1 hages
    by_cases hover : shorter.expired clock.now
    · rw [ofChecks, if_pos hover]
      exact .stopped (List.cons_ne_nil check rest) List.nil_prefix
    have hgoes : ¬longer.expired clock.now := fun hlate => hover (hprolongs.sooner clock.now hlate)
    rw [ofChecks, ofChecks, if_neg hover, if_neg hgoes]
    dsimp only
    have hasked : ((check.canApply base.current base.target).runAt clock).2.NotBefore start :=
      (hthis clock).trans hlater
    generalize (check.canApply base.current base.target).runAt clock = run at hasked
    obtain ⟨cause | applies, asked⟩ := run
    · exact (ih hothers hasked).after _
    cases applies with
    | false => exact (ih hothers hasked).after _
    | true =>
      dsimp only
      split
      swap
      · exact (ih hothers hasked).after _
      rcases Survey.eq_or_cutShort hprolongs hreader check.resourceTypes hasked with
        ⟨hsame, hfinish⟩ | ⟨hcut, hearlier⟩
      · rw [← hsame]
        split
        · exact .same hfinish
        · exact (ih hothers hfinish).after _
      · -- The failures that were still recorded are the first of those of the other survey.
        rw [if_pos hcut]
        refine .stopped (List.cons_ne_nil check rest) ?_
        have hincidents := hearlier.map fun failure : String × Fault =>
          (⟨check.id, .listing failure.1, failure.2⟩ : Incident)
        split
        · exact hincidents
        · rw [incidents_after]
          exact hincidents.trans (List.prefix_append _ _)

end Course

/-! ## Trying with more time -/

namespace Attempt

/-- With less time the attempt was abandoned or came to the same. -/
def KeptBy (early late : Attempt) : Prop :=
  early.isAbandoned = true ∨ early.invocation = late.invocation ∧ early.outcome = late.outcome

theorem isAbandoned_of_error {attempt : Attempt} {cause : Fault}
    (houtcome : attempt.outcome = .error cause) (hcause : cause.isAbandonment) :
    attempt.isAbandoned = true := by
  rw [isAbandoned, houtcome]
  exact hcause

/-- When the run with less time is over, whatever the other one still tries makes no difference. -/
theorem keptBy_leftOver (invocations : List Invocation) (pool : Pool) (sequence : Nat)
    (isOver : Bool) (clock : Clock) :
    List.Forall₂ KeptBy (invocations.map leftOver)
      ((ofInvocations longer invocations pool sequence isOver).run clock).1 := by
  induction invocations generalizing sequence isOver clock with
  | nil => exact .nil
  | cons invocation rest ih =>
    rw [ofInvocations, run_bind, run_bind]
    exact .cons (.inl rfl) (ih _ _ _)

theorem keptBy_ofInvocations (hprolongs : Prolongs first second shorter longer start)
    {invocations : List Invocation}
    (hheeds : ∀ invocation ∈ invocations,
      Heeds fun context => invocation.check.validate context invocation.target)
    (hages : ∀ invocation ∈ invocations, ∀ context,
      (invocation.check.validate context invocation.target).Ages) {clock : Clock}
    (hlater : clock.NotBefore start) (sequence : Nat) {isOver later : Bool}
    (hover : later = true → isOver = true) :
    List.Forall₂ KeptBy ((ofInvocations shorter invocations first sequence isOver).run clock).1
      ((ofInvocations longer invocations second sequence later).run clock).1 := by
  induction invocations generalizing clock sequence isOver later with
  | nil => exact .nil
  | cons invocation rest ih =>
    by_cases hends : shorter.expired clock.now
    · rw [ofInvocations_run_of_over hends]
      exact keptBy_leftOver _ _ _ _ _
    have hgoes : ¬longer.expired clock.now := fun hlate => hends (hprolongs.sooner clock.now hlate)
    obtain ⟨hfirst, hrest⟩ := List.forall_mem_cons.1 hheeds
    obtain ⟨hthis, hothers⟩ := List.forall_mem_cons.1 hages
    have hcompare := hprolongs.invocation sequence clock hlater
    rw [ofInvocations, ofInvocations, run_bind, run_bind, run_bind, run_bind,
      ofInvocation_run_pool, ofInvocation_run_pool, if_neg hends, if_neg hgoes]
    dsimp only
    rcases hfirst.runAt_eq_or_cutOff hprolongs.sooner clock with hsame | ⟨cutAt, hcut, hexpired⟩
    · have hanswer : answer shorter invocation clock = answer longer invocation clock := by
        rw [answer, answer, hsame]
      rw [found, hanswer, hsame]
      rcases hcompare.collected_eq_or hover
        ((invocation.check.validate longer invocation.target).runAt clock).2
        (answer longer invocation clock) with heq | htimeout
      · rw [heq]
        refine .cons (.inr ⟨rfl, rfl⟩)
          (ih hrest hothers ((hthis longer clock).trans hlater) _ fun hlate => ?_)
        rw [Bool.or_eq_true] at hlate ⊢
        exact hlate.imp hover id
      · rw [htimeout]
        exact .cons (.inl rfl) (ih hrest hothers ((hthis longer clock).trans hlater) _
          fun _ => Bool.or_true isOver)
    · -- The check was stopped, so the run with less time is over.
      obtain ⟨cause, hcause, habandoned⟩ :=
        hcompare.short.collected_of_isAbandonment isOver cutAt (α := Result) (rfl :
          Fault.deadlinePassed.isAbandonment = true)
      have hanswer : answer shorter invocation clock = .error .deadlinePassed := by
        rw [answer, hcut]
      rw [found, hanswer, hcut, hcause, ofInvocations_run_of_over hexpired]
      exact .cons (.inl (isAbandoned_of_error rfl habandoned)) (keptBy_leftOver _ _ _ _ _)

variable {early late : List Attempt}

theorem executionsOf_sublist (hkept : List.Forall₂ KeptBy early late) :
    (Collection.executionsOf 0 early).Sublist (Collection.executionsOf 0 late) := by
  refine Rows.filterMap_sublist (Rows.forall₂_zipIdx hkept 0) ?_
  rintro ⟨attempt, sequence⟩ ⟨other, place⟩ ⟨hpair, rfl⟩
  rcases hpair with habandoned | ⟨hinvocation, houtcome⟩
  · exact .inl (execution?_of_isAbandoned habandoned _)
  · right
    dsimp only at hinvocation houtcome ⊢
    rw [execution?, execution?, hinvocation, houtcome]

theorem incidents_sublist (hkept : List.Forall₂ KeptBy early late) :
    (early.filterMap incident?).Sublist (late.filterMap incident?) := by
  refine Rows.filterMap_sublist hkept fun attempt other hpair => ?_
  rcases hpair with habandoned | ⟨hinvocation, houtcome⟩
  · exact .inl (incident?_of_isAbandoned habandoned)
  · right
    rw [incident?, incident?, hinvocation, houtcome]

end Attempt

/-! ## Runs with more time -/

namespace History

/-- What one history reports is among what the other one reports, in the same order. -/
structure Among (early late : History) : Prop where
  executions : (Collection.executionsOf 0 early.attempts).Sublist
    (Collection.executionsOf 0 late.attempts)
  incidents : (early.course.incidents ++ early.attempts.filterMap Attempt.incident?).Sublist
    (late.course.incidents ++ late.attempts.filterMap Attempt.incident?)

theorem among_ofChecks (hprolongs : Prolongs first second shorter longer start) {base : Target}
    (hreader : base.reader.Ages) {checks : List Check}
    (happlies : ∀ check ∈ checks, (check.canApply base.current base.target).Ages)
    (hages : ∀ check ∈ checks, ∀ context target, (check.validate context target).Ages)
    (hheeds : ∀ check ∈ checks, ∀ target, Heeds fun context => check.validate context target) :
    Among (ofChecks shorter base checks start first)
      (ofChecks longer base checks start second) := by
  have htaken := Course.taken_ofChecks shorter
    { base with reader := first.lister shorter base.reader } checks start
  have hprecedes := Course.precedes_ofChecks hprolongs hreader happlies (.refl start)
  rw [ofChecks, ofChecks]
  generalize Course.ofChecks shorter _ checks start = early at hprecedes htaken
  generalize Course.ofChecks longer _ checks start = late at hprecedes
  cases hprecedes with
  | same hfinish =>
    split
    · have hplanned : ∀ invocation ∈ early.invocations base, invocation.check ∈ checks :=
        htaken.check_mem
      have hkept := Attempt.keptBy_ofInvocations hprolongs
        (fun invocation hmem => hheeds _ (hplanned invocation hmem) _)
        (fun invocation hmem context => hages _ (hplanned invocation hmem) context _) hfinish 0
        (fun hover : false = true => hover)
      exact ⟨Attempt.executionsOf_sublist hkept,
        (List.append_sublist_append_left _).2 (Attempt.incidents_sublist hkept)⟩
    · exact ⟨List.Sublist.refl _, List.Sublist.refl _⟩
  | stopped hstopped hincidents =>
    -- A run that was stopped while it planned has tried nothing.
    rw [if_neg (by simpa using hstopped)]
    split
    all_goals
      refine ⟨List.nil_sublist _, ?_⟩
      rw [List.filterMap_nil, List.append_nil]
      exact (hincidents.trans (List.prefix_append _ _)).sublist

end History

/-! ## The runs -/

namespace Pool

/-- Every task has ended by the time at which the run turns to it. -/
structure IsPrompt (pool : Pool) : Prop where
  listing : ∀ type moment, pool.listing type moment = .ended
  invocation : ∀ sequence, pool.invocation sequence = .ended

/-- Nothing needs to be waited for in the pool, or the whole run can be waited for. -/
def CanWait (pool : Pool) (context : Context) (start : Clock) : Prop :=
  pool.IsPrompt ∨
    ∀ left, context.remaining start.now = some left → pool.longestWait.lt left = false

/-- Whatever has ended in one pool has ended in the other. -/
structure Lags (slower faster : Pool) : Prop where
  listing : ∀ type moment, slower.listing type moment = .ended →
    faster.listing type moment = .ended
  invocation : ∀ sequence, slower.invocation sequence = .ended →
    faster.invocation sequence = .ended

variable {pool : Pool} {timeout : Option Duration} {context : Context} {clock moment : Clock}

/-- What can be waited for at the start of a run can be waited for later on. -/
theorem CanWait.bears (hwaits : pool.CanWait context clock)
    (hmade : Context.withTimeout timeout clock.now = .ok context)
    (hlater : moment.NotBefore clock) {progress : Progress}
    (hprompt : pool.IsPrompt → progress = .ended) : pool.Bears context progress moment := by
  refine hwaits.imp hprompt fun hstart less hless => ?_
  obtain ⟨more, hmore, hle⟩ := Context.exists_remaining_of_notBefore hmade hlater hless
  refine Bool.eq_false_iff.2 fun htooLong => ?_
  exact Bool.eq_false_iff.1 (hstart more hmore) (Binary64.lt_of_lt_of_le htooLong hle)

end Pool

variable {registry : Registry} {reader : Reader} {request : Request} {clock : Clock}

theorem prolongs_of_longer {shorter : Duration} {longer : Option Duration} {early late : Context}
    (hunspent : shorter.isSpent = false)
    (hlonger : ∀ duration, longer = some duration → shorter.le duration)
    (hearly : Context.withTimeout (some shorter) clock.now = .ok early)
    (hlate : Context.withTimeout longer clock.now = .ok late) (hlags : first.Lags second)
    (hshort : first.CanWait early clock) (hlong : second.CanWait late clock) :
    Prolongs first second early late clock where
  sooner _ hover := Context.expired_of_expired_longer hunspent hlonger hearly hlate hover
  listing type moment hlater :=
    { ended := hlags.listing type moment
      left := fun _ => Context.exists_remaining_of_longer hunspent hlonger hearly hlate
      short := hshort.bears hearly hlater fun hprompt => hprompt.listing type moment
      long := hlong.bears hlate hlater fun hprompt => hprompt.listing type moment }
  invocation sequence _ hlater :=
    { ended := hlags.invocation sequence
      left := fun _ => Context.exists_remaining_of_longer hunspent hlonger hearly hlate
      short := hshort.bears hearly hlater fun hprompt => hprompt.invocation sequence
      long := hlong.bears hlate hlater fun hprompt => hprompt.invocation sequence }

/-- Of two runs of checks that heed the end of a run, the one with less time reports only what the
one with more time reports, in the same order: executions with the same results and the same
numbers, and failures.  In the run with more time every task has come at least as far when the run
turns to it, and in both runs the time that is left can be waited for where a task has not ended. -/
theorem execute_prolonged {shorter : Duration} {longer : Option Duration}
    {outcome prolonged : Outcome}
    (hheeds : ∀ check ∈ registry.checks, ∀ target,
      Heeds fun context => check.validate context target)
    (hages : ∀ check ∈ registry.checks, check.Ages) (hreader : reader.Ages)
    (hunspent : shorter.isSpent = false)
    (hlonger : ∀ duration, longer = some duration → shorter.le duration)
    (hlags : first.Lags second)
    (hshortWaits : ∀ context, Context.withTimeout (some shorter) clock.now = .ok context →
      first.CanWait context clock)
    (hlongWaits : ∀ context, Context.withTimeout longer clock.now = .ok context →
      second.CanWait context clock)
    (hshort : (execute registry reader { request with timeout := some shorter } first).ReturnsAt
      clock outcome)
    (hlong : (execute registry reader { request with timeout := longer } second).ReturnsAt
      clock prolonged) :
    outcome.report.executions.Sublist prolonged.report.executions ∧
      outcome.report.incidents.Sublist prolonged.report.incidents := by
  obtain ⟨early, hearly, -, earlyMs, -, rfl⟩ := execute_returnsAt_iff.1 hshort
  obtain ⟨late, hlate, -, lateMs, -, rfl⟩ := execute_returnsAt_iff.1 hlong
  obtain ⟨context, checks, hcontext, hresolved, rfl⟩ := History.ofRun_eq_ok_iff.1 hearly
  obtain ⟨context', checks', hcontext', hresolved', rfl⟩ := History.ofRun_eq_ok_iff.1 hlate
  rw [hresolved] at hresolved'
  cases hresolved'
  have hprolongs := prolongs_of_longer hunspent hlonger hcontext hcontext' hlags
    (hshortWaits _ hcontext) (hlongWaits _ hcontext')
  have hregistered := mem_of_mem_resolve hresolved
  let base : Target := ⟨reader, request.current, request.target, none⟩
  have hamong := History.among_ofChecks hprolongs (show base.reader.Ages from hreader)
    (fun check hmem => (hages check (hregistered check hmem)).canApply _ _)
    (fun check hmem => (hages check (hregistered check hmem)).validate)
    (fun check hmem => hheeds check (hregistered check hmem))
  exact ⟨hamong.executions, hamong.incidents⟩

theorem heeds_paces :
    ∀ check ∈ paces.checks, ∀ target, Heeds fun context => check.validate context target := by
  intro check hmem target
  have hpaced (id : String) : Heeds fun context => (paced id).validate context target :=
    .bind (.steady _) fun _ => .bind .poll fun _ => .steady _
  simp only [paces, List.mem_cons, List.not_mem_nil, or_false] at hmem
  rcases hmem with rfl | rfl | rfl
  · exact hpaced "first"
  · exact hpaced "second"
  · exact hpaced "third"

theorem ages_paces : ∀ check ∈ paces.checks, check.Ages := by
  have hpaced (id : String) : (paced id).Ages := by
    refine ⟨fun _ _ => ages_pure true, fun context target => ?_⟩
    have hsecond : (advance (.ofInt 1)).Ages := ages_advance (by decide +kernel) (by decide +kernel)
    exact hsecond.bind fun _ => context.ages_raiseIfExpired.bind fun _ => ages_pure _
  intro check hmem
  simp only [paces, List.mem_cons, List.not_mem_nil, or_false] at hmem
  rcases hmem with rfl | rfl | rfl
  · exact hpaced "first"
  · exact hpaced "second"
  · exact hpaced "third"

/-- The pool in which no task has ended when the run turns to it. -/
def Pool.busy : Pool :=
  { prompt with listing := fun _ _ => .underway, invocation := fun _ => .underway }

/-- The history of the paced checks in that pool when some whole seconds are given to them. -/
def History.ofPaces (seconds : Int) : History := within seconds barren paces.checks .busy

theorem execute_paces {seconds : Int} (hpositive : Duration.isSpent (.whole seconds) = false)
    (hfinite : (Binary64.ofInt seconds).isInfinite = false)
    (hunbound : (History.ofPaces seconds).attempts.all (·.invocation.target.resource.isNone))
    (htime : (((History.ofPaces seconds).finish.now.sub beginning.now).mul
      (.ofInt 1000)).truncate?.isSome) :
    ∃ durationMs, (execute paces barren (.within seconds) .busy).ReturnsAt beginning
      ⟨(History.ofPaces seconds).report (.within seconds) durationMs,
        (History.ofPaces seconds).events⟩ :=
  execute_within resolve_paces barren .busy hpositive hfinite hunbound htime

theorem Pool.canWait_busy {seconds : Int} (hpositive : Duration.isSpent (.whole seconds) = false)
    (hshort : busy.longestWait.lt
      (Context.left (beginning.now.add (.ofInt seconds)) beginning.now) = false)
    (context : Context)
    (hmade : Context.withTimeout (some (.whole seconds)) beginning.now = .ok context) :
    busy.CanWait context beginning := by
  obtain ⟨x, hseconds, rfl⟩ := (Context.withTimeout_eq_ok_iff hpositive).1 hmade
  obtain ⟨rfl, -⟩ := Duration.seconds_whole hseconds
  right
  intro left hleft
  rw [Context.remaining_deadline] at hleft
  cases hleft
  exact hshort

/-- No check has ended when the run turns to it.  In two seconds one of them comes to its end, in
four all of them do. -/
theorem execute_prolonged_paces :
    ∃ outcome prolonged,
      (execute paces barren (.within 2) .busy).ReturnsAt beginning outcome ∧
      (execute paces barren (.within 4) .busy).ReturnsAt beginning prolonged ∧
      outcome.report.executions.length = 1 ∧ prolonged.report.executions.length = 3 ∧
      outcome.report.executions.Sublist prolonged.report.executions ∧
      outcome.report.incidents.Sublist prolonged.report.incidents := by
  have hpositive : Duration.isSpent (.whole 2) = false := by decide
  have hlong : Duration.isSpent (.whole 4) = false := by decide
  obtain ⟨shortMs, hshort⟩ := execute_paces hpositive
    (by decide +kernel) (by decide +kernel) (by decide +kernel)
  obtain ⟨longMs, hprolonged⟩ := execute_paces hlong
    (by decide +kernel) (by decide +kernel) (by decide +kernel)
  have hone : (Collection.executionsOf 0 (History.ofPaces 2).attempts).length = 1 := by
    decide +kernel
  have hthree : (Collection.executionsOf 0 (History.ofPaces 4).attempts).length = 3 := by
    decide +kernel
  have hlonger : ∀ duration, some (Duration.whole 4) = some duration →
      (Duration.whole 2).le duration := by
    intro duration hduration
    cases hduration
    decide
  have hages : barren.Ages := fun type => .refl
  have hlags : Pool.busy.Lags .busy := ⟨fun _ _ => id, fun _ => id⟩
  have hshortWaits := Pool.canWait_busy hpositive (by decide +kernel)
  have hlongWaits := Pool.canWait_busy hlong (by decide +kernel)
  generalize History.ofPaces 2 = early at hshort hone
  generalize History.ofPaces 4 = late at hprolonged hthree
  exact ⟨_, _, hshort, hprolonged, hone, hthree, execute_prolonged heeds_paces ages_paces hages
    hpositive hlonger hlags hshortWaits hlongWaits hshort hprolonged⟩

/-- Ten seconds are enough for all the checks.  With a timeout of ten thousand million seconds none
of them can be waited for, and all of them are recorded as failed. -/
theorem execute_prolonged_loses :
    (Duration.whole 10).le (.whole 10000000000) = true ∧
      ∃ outcome prolonged,
        (execute paces barren (.within 10) .busy).ReturnsAt beginning outcome ∧
        (execute paces barren (.within 10000000000) .busy).ReturnsAt beginning prolonged ∧
        outcome.report.executions.length = 3 ∧ prolonged.report.executions.length = 0 ∧
        prolonged.report.incidents.map (·.cause.message) =
          List.replicate 3 (RangeDefect.message .waitTooLong) := by
  obtain ⟨shortMs, hshort⟩ := execute_paces (show Duration.isSpent (.whole 10) = false by decide)
    (by decide +kernel) (by decide +kernel) (by decide +kernel)
  obtain ⟨longMs, hprolonged⟩ := execute_paces
    (show Duration.isSpent (.whole 10000000000) = false by decide)
    (by decide +kernel) (by decide +kernel) (by decide +kernel)
  have hthree : (Collection.executionsOf 0 (History.ofPaces 10).attempts).length = 3 := by
    decide +kernel
  have hnone : (Collection.executionsOf 0 (History.ofPaces 10000000000).attempts).length = 0 := by
    decide +kernel
  have htooLong : ((History.ofPaces 10000000000).course.incidents ++
      (History.ofPaces 10000000000).attempts.filterMap Attempt.incident?).map
        (·.cause.message) = List.replicate 3 (RangeDefect.message .waitTooLong) := by
    decide +kernel
  generalize History.ofPaces 10 = early at hshort hthree
  generalize History.ofPaces 10000000000 = late at hprolonged hnone htooLong
  exact ⟨by decide, _, _, hshort, hprolonged, hthree, hnone, htooLong⟩

end Preflight.Run
