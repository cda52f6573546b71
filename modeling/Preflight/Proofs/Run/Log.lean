import Preflight.Proofs.Run.History
import Preflight.Proofs.Run.Waiting

/-!
# What a run calls, and when

A run leaves its own control in three kinds of calls: it asks a check whether it applies, it has the
instances of a type listed, and it has a target judged.  A log holds the calls of a run with the
moments at which they are made.  Each call is made when the one before it has come to its end, and
what the run found out can be read off its log again; so a log leaves no call out.
-/

namespace Preflight.Run

open Preflight.Action

inductive Call where
  /-- A check is asked whether it applies. -/
  | asks (check : Check)
  /-- The instances of a type are listed. -/
  | lists (type : ResourceType)
  /-- A check judges a target. -/
  | judges (invocation : Invocation)

structure Called where
  call : Call
  moment : Clock

namespace Called

/-- The moment at which the call has come to its end. -/
def finish (context : Context) (base : Target) (called : Called) : Clock :=
  match called.call with
  | .asks check => ((check.canApply base.current base.target).runAt called.moment).2
  | .lists type => ((base.reader.list type).runAt called.moment).2
  | .judges invocation =>
    ((invocation.check.validate context invocation.target).runAt called.moment).2

/-- What a check answers to the question whether it applies. -/
def answer? (base : Target) (called : Called) : Option (Check × Except Fault Bool) :=
  match called.call with
  | .asks check => some (check, ((check.canApply base.current base.target).runAt called.moment).1)
  | _ => none

def listing? (base : Target) (called : Called) : Option Listing :=
  match called.call with
  | .lists type => some ⟨type, ((base.reader.list type).runAt called.moment).1⟩
  | _ => none

/-- The invocation that is judged, with the moment from which on. -/
def judgement? (called : Called) : Option (Invocation × Clock) :=
  match called.call with
  | .judges invocation => some (invocation, called.moment)
  | _ => none

end Called

/-- Calls of which each is made when the one before it has come to its end. -/
inductive Chained (context : Context) (base : Target) : Clock → List Called → Clock → Prop where
  | nil (clock : Clock) : Chained context base clock [] clock
  | cons {called : Called} {rest : List Called} {finish : Clock}
      (hrest : Chained context base (called.finish context base) rest finish) :
      Chained context base called.moment (called :: rest) finish

theorem Chained.append {context : Context} {base : Target} {start between finish : Clock}
    {first rest : List Called} (hfirst : Chained context base start first between)
    (hrest : Chained context base between rest finish) :
    Chained context base start (first ++ rest) finish := by
  induction hfirst with
  | nil clock => exact hrest
  | cons htail ih => exact .cons (ih hrest)

/-- The log of a part of a run that is never over at a call, with what is found out in this part. -/
structure Logged (context : Context) (base : Target) (start : Clock) (log : List Called)
    (finish : Clock) (answers : List (Check × Except Fault Bool)) (listings : List Listing)
    (judgements : List (Invocation × Clock)) : Prop where
  chained : Chained context base start log finish
  intime : ∀ called ∈ log, ¬context.expired called.moment.now
  answers_eq : log.filterMap (Called.answer? base) = answers
  listings_eq : log.filterMap (Called.listing? base) = listings
  judgements_eq : log.filterMap Called.judgement? = judgements

variable {context : Context} {base : Target} {check : Check} {checks : List Check} {clock : Clock}

namespace Logged

theorem nil (context : Context) (base : Target) (clock : Clock) :
    Logged context base clock [] clock [] [] [] :=
  ⟨.nil clock, List.forall_mem_nil _, rfl, rfl, rfl⟩

theorem single (call : Call) (hbefore : ¬context.expired clock.now) :
    Logged context base clock [⟨call, clock⟩] (Called.finish context base ⟨call, clock⟩)
      (Called.answer? base ⟨call, clock⟩).toList (Called.listing? base ⟨call, clock⟩).toList
      (Called.judgement? ⟨call, clock⟩).toList where
  chained := @Chained.cons context base ⟨call, clock⟩ [] _ (.nil _)
  intime := List.forall_mem_singleton.2 hbefore
  answers_eq := by cases call <;> rfl
  listings_eq := by cases call <;> rfl
  judgements_eq := by cases call <;> rfl

variable {start between finish : Clock} {first rest : List Called}
variable {answers later : List (Check × Except Fault Bool)} {listings others : List Listing}
variable {judgements more : List (Invocation × Clock)}

theorem append (hfirst : Logged context base start first between answers listings judgements)
    (hrest : Logged context base between rest finish later others more) :
    Logged context base start (first ++ rest) finish (answers ++ later) (listings ++ others)
      (judgements ++ more) where
  chained := hfirst.chained.append hrest.chained
  intime := List.forall_mem_append.2 ⟨hfirst.intime, hrest.intime⟩
  answers_eq := by rw [List.filterMap_append, hfirst.answers_eq, hrest.answers_eq]
  listings_eq := by rw [List.filterMap_append, hfirst.listings_eq, hrest.listings_eq]
  judgements_eq := by rw [List.filterMap_append, hfirst.judgements_eq, hrest.judgements_eq]

end Logged

/-! ## The calls of planning -/

theorem Survey.exists_log (context : Context) (base : Target) (types : List ResourceType)
    (clock : Clock) :
    ∃ log, Logged context base clock log (ofTypes context base.reader types clock).finish []
      (ofTypes context base.reader types clock).listings [] := by
  induction types generalizing clock with
  | nil => exact ⟨[], .nil context base clock⟩
  | cons type rest ih =>
    rw [ofTypes]
    by_cases hover : context.expired clock.now
    · rw [if_pos hover]
      exact ⟨[], .nil context base clock⟩
    rw [if_neg hover]
    have hlists : Logged context base clock _ _ _ _ _ := .single (.lists type) hover
    obtain ⟨log, hlog⟩ := ih ((base.reader.list type).runAt clock).2
    dsimp only
    split
    · exact ⟨_, hlists⟩
    · exact ⟨_, hlists.append hlog⟩

theorem Step.Taken.exists_log {decision : Decision} {dealt : Clock}
    (hbefore : ¬context.expired clock.now)
    (htaken : Taken context base check clock decision dealt) :
    ∃ log, Logged context base clock log dealt [(check, decision.verdict)] decision.listings
      [] := by
  have hasks : Logged context base clock _ _ _ _ _ := .single (.asks check) hbefore
  have hverdict := htaken.answered
  simp only [Called.finish, Called.answer?, Option.toList_some, hverdict] at hasks
  cases htaken with
  | failed hasked =>
    rw [hasked] at hasks
    exact ⟨_, hasks⟩
  | skipped hasked =>
    rw [hasked] at hasks
    exact ⟨_, hasks⟩
  | alone hasked hcategory =>
    rw [hasked] at hasks
    exact ⟨_, hasks⟩
  | @perInstance asked hasked hcategory hcomplete =>
    rw [hasked] at hasks
    obtain ⟨log, hlog⟩ := Survey.exists_log context base check.resourceTypes asked
    exact ⟨_, hasks.append hlog⟩

/-- What the checks that planning dealt with answered, in order. -/
def Course.answers (course : Course) : List (Check × Except Fault Bool) :=
  course.steps.map fun step => (step.check, step.decision.verdict)

/-- Planning asks the checks that it deals with, and at most one more: the one for which it could
not list everything. -/
theorem Course.Taken.exists_log {course : Course}
    (htaken : Taken context base checks clock course) :
    ∃ log last, Logged context base clock log course.finish (course.answers ++ last)
        course.listings [] ∧ last.map Prod.fst <+: course.abandoned := by
  induction htaken with
  | finished clock => exact ⟨[], [], .nil context base clock, List.prefix_rfl⟩
  | @late check rest clock hover =>
    exact ⟨[], [], .nil context base clock, List.nil_prefix⟩
  | @interrupted check rest clock asked hbefore hasked hcut =>
    have hasks : Logged context base clock _ _ _ _ _ := .single (.asks check) hbefore
    simp only [Called.finish, Called.answer?, Option.toList_some, hasked] at hasks
    obtain ⟨log, hlog⟩ := Survey.exists_log context base check.resourceTypes asked
    exact ⟨_, [(check, .ok true)], hasks.append hlog, (List.prefix_cons_inj _).2 List.nil_prefix⟩
  | step hbefore hstep hlater ih =>
    obtain ⟨first, hfirst⟩ := hstep.exists_log hbefore
    obtain ⟨log, last, hlog, hlast⟩ := ih
    refine ⟨first ++ log, last, ?_, hlast⟩
    rw [listings_after]
    exact hfirst.append hlog

/-! ## The calls of trying -/

namespace Attempt

/-- What becomes of an invocation that is judged from a moment on. -/
def judged (context : Context) (judgement : Invocation × Clock) : Attempt :=
  ⟨judgement.1, true, answer context judgement.1 judgement.2⟩

/-- Invocations are judged in order, and from some point on they are left because the run is
over. -/
theorem exists_log_ofInvocations (context : Context) (base : Target)
    (invocations : List Invocation) (clock : Clock) :
    ∃ log judgements left,
      Logged context base clock log ((ofInvocations context invocations).run clock).2 [] []
        judgements ∧
      invocations = judgements.map Prod.fst ++ left ∧
      ((ofInvocations context invocations).run clock).1 =
        judgements.map (judged context) ++ left.map leftOver ∧
      (left ≠ [] → context.expired ((ofInvocations context invocations).run clock).2.now) := by
  induction invocations generalizing clock with
  | nil => exact ⟨[], [], [], .nil context base clock, rfl, rfl, fun hleft => absurd rfl hleft⟩
  | cons invocation rest ih =>
    by_cases hover : context.expired clock.now
    · rw [ofInvocations_run_of_over hover]
      exact ⟨[], [], invocation :: rest, .nil context base clock, rfl, rfl, fun _ => hover⟩
    have hjudges : Logged context base clock _ _ _ _ _ := .single (.judges invocation) hover
    obtain ⟨log, judgements, left, hlog, hplanned, hattempts, hleft⟩ :=
      ih ((invocation.check.validate context invocation.target).runAt clock).2
    rw [ofInvocations_cons, run_bind, run_bind, ofInvocation_run, if_neg hover]
    refine ⟨_, (invocation, clock) :: judgements, left, hjudges.append hlog, ?_, ?_, hleft⟩
    · rw [List.map_cons, List.cons_append, ← hplanned]
    · rw [List.map_cons, List.cons_append, ← hattempts]
      rfl

end Attempt

end Preflight.Run
