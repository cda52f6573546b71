import Preflight.Proofs.Action
import Preflight.Run.Planning

/-!
# The course of planning

A plan adds up what planning found and forgets how it was found.  The course of planning keeps every
step: what was decided about each check, every listing that was made for it with its outcome, and
the checks at which planning stopped.  A plan is the summary of its course, so whatever is shown of
courses, by going through the cases of one step, holds of plans.
-/

namespace Preflight.Run

open Preflight.Action

structure Listing where
  type : ResourceType
  outcome : Except Fault (List Manifest)

namespace Listing

def instances (listing : Listing) : List Manifest :=
  match listing.outcome with
  | .ok found => found
  | .error _ => []

/-- A listing that was cut off by its own report that time had run out. -/
def timedOut (listing : Listing) : Bool :=
  match listing.outcome with
  | .error (.reported .timeout _) => true
  | _ => false

/-- The failure of a listing that a run records.  A type that is not served is none. -/
def failure? (listing : Listing) : Option (String × Fault) :=
  match listing.outcome with
  | .ok _ => none
  | .error (.typeNotServed _) => none
  | .error (.reported .timeout _) => none
  | .error cause => some (listing.type.text, cause)

end Listing

/-- The listings that were made for a check, and whether planning stopped before the last of its
types was listed. -/
structure Survey where
  listings : List Listing
  cutShort : Bool
  finish : Clock

namespace Survey

def after (listing : Listing) (later : Survey) : Survey :=
  { later with listings := listing :: later.listings }

def ofTypes (context : Context) (reader : Reader) : List ResourceType → Clock → Survey
  | [], clock => ⟨[], false, clock⟩
  | type :: rest, clock =>
    if context.expired clock.now then ⟨[], true, clock⟩
    else
      let (outcome, listed) := (reader.list type).runAt clock
      if Listing.timedOut ⟨type, outcome⟩ then ⟨[⟨type, outcome⟩], true, listed⟩
      else after ⟨type, outcome⟩ (ofTypes context reader rest listed)

def discovery (survey : Survey) : Discovery :=
  ⟨survey.listings.flatMap Listing.instances, survey.listings.filterMap Listing.failure?,
    survey.cutShort⟩

end Survey

inductive Decision where
  /-- It could not be decided whether the check applies. -/
  | failed (cause : Fault)
  | skipped
  /-- One invocation without an instance. -/
  | alone
  /-- An invocation for each instance that was listed. -/
  | perInstance (listings : List Listing)

namespace Decision

/-- What the check answered when it was asked whether it applies. -/
def verdict : Decision → Except Fault Bool
  | failed cause => .error cause
  | skipped => .ok false
  | alone => .ok true
  | perInstance _ => .ok true

def listings : Decision → List Listing
  | perInstance listings => listings
  | _ => []

/-- Whether targets were found for the check, possibly none. -/
def isPlanned : Decision → Bool
  | alone => true
  | perInstance _ => true
  | _ => false

def isSkipped : Decision → Bool
  | skipped => true
  | _ => false

def isFailed : Decision → Bool
  | failed _ => true
  | _ => false

end Decision

structure Step where
  check : Check
  decision : Decision

namespace Step

def invocations (base : Target) (step : Step) : List Invocation :=
  match step.decision with
  | .alone => [⟨step.check, base⟩]
  | .perInstance listings =>
    ((listings.flatMap Listing.instances).map fun m => { base with resource := some m }).map
      (⟨step.check, ·⟩)
  | _ => []

def incidents (step : Step) : List Incident :=
  match step.decision with
  | .failed cause => [⟨step.check.id, .applicability, cause⟩]
  | .perInstance listings =>
    Planning.listingIncidents step.check (listings.filterMap Listing.failure?)
  | _ => []

end Step

/-- The steps of planning in order.  Where planning stopped, `abandoned` are the checks that were
left, and `unfinished` the listings already made for the first of them. -/
structure Course where
  steps : List Step
  unfinished : List Listing
  abandoned : List Check
  finish : Clock

namespace Course

def after (step : Step) (later : Course) : Course := { later with steps := step :: later.steps }

def ofChecks (context : Context) (base : Target) : List Check → Clock → Course
  | [], clock => ⟨[], [], [], clock⟩
  | check :: rest, clock =>
    if context.expired clock.now then ⟨[], [], check :: rest, clock⟩
    else
      match (check.canApply base.current base.target).runAt clock with
      | (.error cause, asked) => after ⟨check, .failed cause⟩ (ofChecks context base rest asked)
      | (.ok false, asked) => after ⟨check, .skipped⟩ (ofChecks context base rest asked)
      | (.ok true, asked) =>
        if check.isIn .workload then
          let survey := Survey.ofTypes context base.reader check.resourceTypes asked
          if survey.cutShort then ⟨[], survey.listings, check :: rest, survey.finish⟩
          else after ⟨check, .perInstance survey.listings⟩
            (ofChecks context base rest survey.finish)
        else after ⟨check, .alone⟩ (ofChecks context base rest asked)

def listings (course : Course) : List Listing :=
  course.steps.flatMap (·.decision.listings) ++ course.unfinished

/-- The checks for which targets were found. -/
def planned (course : Course) : List Check :=
  (course.steps.filter (·.decision.isPlanned)).map (·.check)

def skipped (course : Course) : List Check :=
  (course.steps.filter (·.decision.isSkipped)).map (·.check)

def failed (course : Course) : List Check :=
  (course.steps.filter (·.decision.isFailed)).map (·.check)

def invocations (base : Target) (course : Course) : List Invocation :=
  course.steps.flatMap (Step.invocations base)

/-- The failed listings of the check at which planning stopped. -/
def unfinishedIncidents (course : Course) : List Incident :=
  match course.abandoned with
  | [] => []
  | check :: _ =>
    Planning.listingIncidents check (course.unfinished.filterMap Listing.failure?)

def incidents (course : Course) : List Incident :=
  course.steps.flatMap Step.incidents ++ course.unfinishedIncidents

def planning (base : Target) (course : Course) : Planning where
  invocations := course.invocations base
  incidents := course.incidents
  skipped := course.skipped.map (·.id)
  abandonedChecks := course.abandoned.map (·.id)

end Course

/-! ## Plans are summaries of courses -/

theorem Listing.failure?_error {type : ResourceType} {cause : Fault}
    (hserved : ∀ text, cause ≠ .typeNotServed text)
    (htime : ∀ text, cause ≠ .reported .timeout text) :
    Listing.failure? ⟨type, .error cause⟩ = some (type.text, cause) := by
  rw [failure?]
  split <;> simp_all

theorem Listing.timedOut_error {type : ResourceType} {cause : Fault}
    (htime : ∀ text, cause ≠ .reported .timeout text) :
    Listing.timedOut ⟨type, .error cause⟩ = false := by
  rw [timedOut]
  split <;> simp_all

/-- Discovering the instances of a check is making a survey and adding it up. -/
theorem Discovery.ofTypes_run (context : Context) (reader : Reader) (types : List ResourceType)
    (clock : Clock) :
    (Discovery.ofTypes context reader types).run clock =
      ((Survey.ofTypes context reader types clock).discovery,
        (Survey.ofTypes context reader types clock).finish) := by
  induction types generalizing clock with
  | nil => rfl
  | cons type rest ih =>
    rw [Discovery.ofTypes, Survey.ofTypes, run_unlessOver, run_bind]
    by_cases hover : context.expired clock.now
    · rw [if_pos hover, if_pos hover]
      rfl
    rw [if_neg hover, if_neg hover]
    cases hlisting : (reader.list type).runAt clock with
    | mk outcome listed =>
      have hrun : (reader.list type).outcome.run clock = (outcome, listed) := hlisting
      rw [hrun]
      dsimp only
      -- The four ways in which a discovery goes on are those of `Listing.failure?`.
      split
      case h_1 found =>
        rw [run_bind, ih]
        rfl
      case h_2 text =>
        rw [ih]
        rfl
      case h_3 text => rfl
      case h_4 cause hserved htime =>
        rw [run_bind, ih, Listing.timedOut_error htime]
        simp only [Survey.discovery, Survey.after, Bool.false_eq_true, if_false,
          List.filterMap_cons, Listing.failure?_error hserved htime]
        rfl

/-- Planning with some reader to list the instances is taking the course of a target that holds this
reader, and adding it up. -/
theorem Planning.ofChecks_run_lister (context : Context) (base : Target) (checks : List Check)
    (lister : Reader) (clock : Clock) :
    (Planning.ofChecks context base checks lister).run clock =
      ((Course.ofChecks context { base with reader := lister } checks clock).planning base,
        (Course.ofChecks context { base with reader := lister } checks clock).finish) := by
  induction checks generalizing clock with
  | nil => rfl
  | cons check rest ih =>
    rw [Planning.ofChecks, Course.ofChecks, run_unlessOver, run_bind]
    by_cases hover : context.expired clock.now
    · rw [if_pos hover, if_pos hover]
      rfl
    rw [if_neg hover, if_neg hover]
    cases hasked : (check.canApply base.current base.target).runAt clock with
    | mk verdict asked =>
      have hrun : (check.canApply base.current base.target).outcome.run clock =
          (verdict, asked) := hasked
      rw [hrun]
      dsimp only
      split
      case h_1 cause =>
        rw [run_bind, ih]
        rfl
      case h_2 =>
        rw [run_bind, ih]
        rfl
      case h_3 =>
        by_cases hworkload : check.isIn .workload
        · rw [if_pos hworkload, run_bind, Discovery.ofTypes_run]
          by_cases hcut : (Survey.ofTypes context lister check.resourceTypes asked).cutShort
          · simp only [Survey.discovery, hcut, hworkload, if_true, withIncidents, abandoned, empty,
              List.append_nil]
            rfl
          · simp only [Survey.discovery, hcut, hworkload, if_true, Bool.false_eq_true, if_false]
            rw [run_bind, ih]
            simp only [Course.planning, Course.after, Course.invocations, Course.incidents,
              List.flatMap_cons, List.append_assoc]
            rfl
        · simp only [hworkload, Bool.false_eq_true, if_false]
          rw [run_bind, ih]
          rfl

/-- Planning is taking the course and adding it up. -/
theorem Planning.ofChecks_run (context : Context) (base : Target) (checks : List Check)
    (clock : Clock) :
    (Planning.ofChecks context base checks).run clock =
      ((Course.ofChecks context base checks clock).planning base,
        (Course.ofChecks context base checks clock).finish) :=
  ofChecks_run_lister context base checks base.reader clock

/-! ## What one step can do -/

inductive Step.Taken (context : Context) (base : Target) (check : Check) (clock : Clock) :
    Decision → Clock → Prop where
  | failed {cause : Fault} {asked : Clock}
      (hasked : (check.canApply base.current base.target).runAt clock = (.error cause, asked)) :
      Taken context base check clock (.failed cause) asked
  | skipped {asked : Clock}
      (hasked : (check.canApply base.current base.target).runAt clock = (.ok false, asked)) :
      Taken context base check clock .skipped asked
  | alone {asked : Clock}
      (hasked : (check.canApply base.current base.target).runAt clock = (.ok true, asked))
      (hcategory : ¬check.isIn .workload) :
      Taken context base check clock .alone asked
  | perInstance {asked : Clock}
      (hasked : (check.canApply base.current base.target).runAt clock = (.ok true, asked))
      (hcategory : check.isIn .workload)
      (hcomplete : ¬(Survey.ofTypes context base.reader check.resourceTypes asked).cutShort) :
      Taken context base check clock
        (.perInstance (Survey.ofTypes context base.reader check.resourceTypes asked).listings)
        (Survey.ofTypes context base.reader check.resourceTypes asked).finish

/-- The courses that planning can take.  It ends when every check has been dealt with, when the run
is over before the next check, or within the listings for a check. -/
inductive Course.Taken (context : Context) (base : Target) :
    List Check → Clock → Course → Prop where
  | finished (clock : Clock) : Taken context base [] clock ⟨[], [], [], clock⟩
  | late {check : Check} {rest : List Check} {clock : Clock} (hover : context.expired clock.now) :
      Taken context base (check :: rest) clock ⟨[], [], check :: rest, clock⟩
  | interrupted {check : Check} {rest : List Check} {clock asked : Clock}
      (hbefore : ¬context.expired clock.now)
      (hasked : (check.canApply base.current base.target).runAt clock = (.ok true, asked))
      (hcut : (Survey.ofTypes context base.reader check.resourceTypes asked).cutShort) :
      Taken context base (check :: rest) clock
        ⟨[], (Survey.ofTypes context base.reader check.resourceTypes asked).listings,
          check :: rest, (Survey.ofTypes context base.reader check.resourceTypes asked).finish⟩
  | step {check : Check} {rest : List Check} {clock dealt : Clock} {decision : Decision}
      {later : Course} (hbefore : ¬context.expired clock.now)
      (hstep : Step.Taken context base check clock decision dealt)
      (hlater : Taken context base rest dealt later) :
      Taken context base (check :: rest) clock (later.after ⟨check, decision⟩)

/-- The course that planning takes is one of them. -/
theorem Course.taken_ofChecks (context : Context) (base : Target) (checks : List Check)
    (clock : Clock) : Taken context base checks clock (ofChecks context base checks clock) := by
  fun_induction ofChecks context base checks clock with
  | case1 clock => exact .finished clock
  | case2 check rest clock hover => exact .late hover
  | case3 check rest clock hbefore cause asked hasked ih => exact .step hbefore (.failed hasked) ih
  | case4 check rest clock hbefore asked hasked ih => exact .step hbefore (.skipped hasked) ih
  | case5 check rest clock hbefore asked hasked hcategory survey hcut =>
    exact .interrupted hbefore hasked hcut
  | case6 check rest clock hbefore asked hasked hcategory survey hcomplete ih =>
    exact .step hbefore (.perInstance hasked hcategory hcomplete) ih
  | case7 check rest clock hbefore asked hasked hcategory ih =>
    exact .step hbefore (.alone hasked hcategory) ih

/-! ## What every course keeps -/

/-- Only the last listing of a survey can have timed out, and then the survey was cut short. -/
theorem Survey.not_timedOut_of_complete {context : Context} {reader : Reader}
    {types : List ResourceType} {clock : Clock}
    (hcomplete : ¬(ofTypes context reader types clock).cutShort) :
    ∀ listing ∈ (ofTypes context reader types clock).listings, listing.timedOut = false := by
  fun_induction ofTypes context reader types clock with
  | case1 clock => simp
  | case2 type rest clock hover => simp at hcomplete
  | case3 type rest clock hbefore outcome listed hlisting htimedOut => simp at hcomplete
  | case4 type rest clock hbefore outcome listed hlisting hintime ih =>
    simpa [after, hintime] using ih hcomplete

/-- While the run is not over, only a listing that timed out cuts a survey short. -/
theorem Survey.exists_timedOut_of_cutShort {context : Context} {reader : Reader}
    {types : List ResourceType} {clock : Clock}
    (hnever : ∀ moment, context.expired moment = false)
    (hcut : (ofTypes context reader types clock).cutShort) :
    ∃ listing ∈ (ofTypes context reader types clock).listings, listing.timedOut = true := by
  fun_induction ofTypes context reader types clock with
  | case1 clock => simp at hcut
  | case2 type rest clock hover => simp [hnever] at hover
  | case3 type rest clock hbefore outcome listed hlisting htimedOut => simpa using htimedOut
  | case4 type rest clock hbefore outcome listed hlisting hintime ih =>
    obtain ⟨listing, hmem, htimedOut⟩ := ih hcut
    exact ⟨listing, List.mem_cons_of_mem _ hmem, htimedOut⟩

theorem Survey.listed {context : Context} {reader : Reader} {types : List ResourceType}
    {clock : Clock} : ∀ listing ∈ (ofTypes context reader types clock).listings,
      ∃ moment, listing.outcome = ((reader.list listing.type).runAt moment).1 := by
  fun_induction ofTypes context reader types clock with
  | case1 clock => simp
  | case2 type rest clock hover => simp
  | case3 type rest clock hbefore outcome listed hlisting htimedOut =>
    simpa using ⟨clock, by rw [hlisting]⟩
  | case4 type rest clock hbefore outcome listed hlisting hintime ih =>
    simpa [after] using ⟨⟨clock, by rw [hlisting]⟩, ih⟩

variable {context : Context} {base : Target} {check : Check} {checks : List Check} {clock : Clock}
variable {decision : Decision} {dealt : Clock} {course : Course}

namespace Step.Taken

theorem answered (htaken : Taken context base check clock decision dealt) :
    ((check.canApply base.current base.target).runAt clock).1 = decision.verdict := by
  cases htaken with
  | failed hasked => rw [hasked]; rfl
  | skipped hasked => rw [hasked]; rfl
  | alone hasked hcategory => rw [hasked]; rfl
  | perInstance hasked hcategory hcomplete => rw [hasked]; rfl

theorem not_timedOut (htaken : Taken context base check clock decision dealt) :
    ∀ listing ∈ decision.listings, listing.timedOut = false := by
  cases htaken with
  | failed hasked => simp [Decision.listings]
  | skipped hasked => simp [Decision.listings]
  | alone hasked hcategory => simp [Decision.listings]
  | perInstance hasked hcategory hcomplete => exact Survey.not_timedOut_of_complete hcomplete

theorem listed (htaken : Taken context base check clock decision dealt) :
    ∀ listing ∈ decision.listings,
      ∃ moment, listing.outcome = ((base.reader.list listing.type).runAt moment).1 := by
  cases htaken with
  | failed hasked => simp [Decision.listings]
  | skipped hasked => simp [Decision.listings]
  | alone hasked hcategory => simp [Decision.listings]
  | perInstance hasked hcategory hcomplete => exact Survey.listed

end Step.Taken

theorem Course.listings_after (step : Step) (later : Course) :
    (later.after step).listings = step.decision.listings ++ later.listings := by
  simp [listings, after]

theorem Course.incidents_after (step : Step) (later : Course) :
    (later.after step).incidents = step.incidents ++ later.incidents := by
  simp [incidents, after, unfinishedIncidents]

namespace Course.Taken

/-- Planning deals with a first part of the checks, in order, and abandons the rest. -/
theorem checks_eq (htaken : Taken context base checks clock course) :
    checks = course.steps.map (·.check) ++ course.abandoned := by
  induction htaken with
  | finished clock => rfl
  | late hover => rfl
  | interrupted hbefore hasked hcut => rfl
  | step hbefore hstep hlater ih => simp [after, ← ih]

theorem not_timedOut (htaken : Taken context base checks clock course) :
    ∀ step ∈ course.steps, ∀ listing ∈ step.decision.listings, listing.timedOut = false := by
  induction htaken with
  | finished clock => simp
  | late hover => simp
  | interrupted hbefore hasked hcut => simp
  | step hbefore hstep hlater ih => simpa [after] using ⟨hstep.not_timedOut, ih⟩

/-- While the run is not over, planning stops exactly at a listing that timed out. -/
theorem abandoned_eq_nil_iff (htaken : Taken context base checks clock course)
    (hnever : ∀ moment, context.expired moment = false) :
    course.abandoned = [] ↔ ∀ listing ∈ course.listings, listing.timedOut = false := by
  induction htaken with
  | finished clock => simp [listings]
  | late hover => simp [hnever] at hover
  | interrupted hbefore hasked hcut =>
    obtain ⟨listing, hmem, htimedOut⟩ := Survey.exists_timedOut_of_cutShort hnever hcut
    constructor
    · intro habandoned
      cases habandoned
    · intro hnone
      have hintime := hnone listing (by simpa [listings] using hmem)
      simp [hintime] at htimedOut
  | step hbefore hstep hlater ih =>
    rw [listings_after, List.forall_mem_append]
    exact ih.trans (and_iff_right hstep.not_timedOut).symm

/-- A check was decided about by what it answered at some moment. -/
theorem answered (htaken : Taken context base checks clock course) :
    ∀ step ∈ course.steps, ∃ moment,
      ((step.check.canApply base.current base.target).runAt moment).1 = step.decision.verdict := by
  induction htaken with
  | finished clock => simp
  | late hover => simp
  | interrupted hbefore hasked hcut => simp
  | step hbefore hstep hlater ih => simpa [after] using ⟨⟨_, hstep.answered⟩, ih⟩

/-- Every listing that planning made came to what the reader answered at some moment. -/
theorem listed (htaken : Taken context base checks clock course) :
    ∀ listing ∈ course.listings,
      ∃ moment, listing.outcome = ((base.reader.list listing.type).runAt moment).1 := by
  induction htaken with
  | finished clock => simp [listings]
  | late hover => simp [listings]
  | interrupted hbefore hasked hcut => simpa [listings] using Survey.listed
  | step hbefore hstep hlater ih =>
    rw [listings_after, List.forall_mem_append]
    exact ⟨hstep.listed, ih⟩

/-- Listings are made only for a check that applies. -/
theorem unfinished_answered (htaken : Taken context base checks clock course)
    (hlisted : course.unfinished ≠ []) : ∃ check rest moment, course.abandoned = check :: rest ∧
      ((check.canApply base.current base.target).runAt moment).1 = .ok true := by
  induction htaken with
  | finished clock => simp at hlisted
  | late hover => simp at hlisted
  | @interrupted check rest clock asked hbefore hasked hcut =>
    exact ⟨check, rest, clock, rfl, by rw [hasked]⟩
  | step hbefore hstep hlater ih => exact ih hlisted

end Course.Taken

end Preflight.Run
