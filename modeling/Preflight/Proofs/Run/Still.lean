import Preflight.Proofs.Check.Still
import Preflight.Proofs.Run.Accounting

/-!
# Runs that take no time

A run passes on the moment at which one call ends to the next one.  Where the reader and the checks
take no time, the run ends at the moment at which it starts, and its duration can be told.
-/

namespace Preflight

theorem Binary64.sub_self_of_finite {x : Binary64} (hnumber : x.isNaN = false)
    (hbounded : x.isInfinite = false) : x.sub x = .zero := by
  cases x with
  | nan => cases hnumber
  | infinity negative => cases hbounded
  | finite negative units representable =>
    have hsum : signedUnits negative units + signedUnits (!negative) units = 0 := by
      cases negative <;> simp [signedUnits]
    simp only [sub, neg, add, hsum, ofUnits, if_true, Bool.and_not_self]
    rfl

namespace Run

open Preflight.Action

variable {context : Context} {base : Target} {checks : List Check} {clock : Clock}

theorem milliseconds_self {now : Binary64} (hnumber : now.isNaN = false)
    (hbounded : now.isInfinite = false) : milliseconds now now = .ok 0 := by
  have hzero : Binary64.zero.sub .zero = .zero := Binary64.sub_self_of_finite rfl rfl
  have hnone := milliseconds_beginning
  rw [milliseconds, show beginning.now = .zero from rfl, hzero] at hnone
  rw [milliseconds, Binary64.sub_self_of_finite hnumber hbounded]
  exact hnone

theorem Survey.finish_of_still {reader : Reader} (hstill : reader.Still)
    (types : List ResourceType) (clock : Clock) :
    (ofTypes context reader types clock).finish = clock := by
  induction types with
  | nil => rfl
  | cons t rest ih =>
    rw [ofTypes]
    split
    · rfl
    have hlisted := hstill t clock
    cases hlisting : (reader.list t).runAt clock with
    | mk outcome listed =>
      rw [hlisting] at hlisted
      cases hlisted
      dsimp only
      split
      · rfl
      · exact ih

theorem Step.Taken.dealt_of_still {check : Check} {decision : Decision} {dealt : Clock}
    (hstill : check.Still) (hreader : base.reader.Still)
    (htaken : Taken context base check clock decision dealt) : dealt = clock := by
  have hasked := hstill.canApply base.current base.target clock
  cases htaken with
  | failed hanswer => rw [← hasked, hanswer]
  | skipped hanswer => rw [← hasked, hanswer]
  | alone hanswer hcategory => rw [← hasked, hanswer]
  | perInstance hanswer hcategory hcomplete =>
    rw [Survey.finish_of_still hreader, ← hasked, hanswer]

theorem Course.Taken.finish_of_still {course : Course} (hreader : base.reader.Still)
    (htaken : Taken context base checks clock course) (hstill : ∀ check ∈ checks, check.Still) :
    course.finish = clock := by
  induction htaken with
  | finished clock => rfl
  | late hover => rfl
  | @interrupted check rest clock asked hbefore hanswer hcut =>
    have hasked := (hstill check List.mem_cons_self).canApply base.current base.target clock
    rw [Survey.finish_of_still hreader, ← hasked, hanswer]
  | step hbefore hstep hlater ih =>
    obtain ⟨hcheck, hrest⟩ := List.forall_mem_cons.1 hstill
    exact (ih hrest).trans (hstep.dealt_of_still hcheck hreader)

theorem Attempt.finish_of_still {invocations : List Invocation}
    (hstill : ∀ invocation ∈ invocations,
      invocation.check.Still ∧ invocation.target.reader.Still) (clock : Clock) :
    ((ofInvocations context invocations).run clock).2 = clock := by
  induction invocations with
  | nil => rfl
  | cons invocation rest ih =>
    obtain ⟨⟨hcheck, hreader⟩, hrest⟩ := List.forall_mem_cons.1 hstill
    have hjudged := hcheck.validate context invocation.target hreader clock
    have hfirst : ((ofInvocation context invocation).run clock).2 = clock := by
      rw [ofInvocation_run]
      split
      · rfl
      · exact hjudged
    rw [ofInvocations_cons, run_bind, run_bind, hfirst]
    exact ih hrest

theorem Course.reader_of_mem (course : Course) :
    ∀ invocation ∈ course.invocations base, invocation.target.reader = base.reader := by
  intro invocation hmem
  obtain ⟨⟨check, decision⟩, -, hof⟩ := List.mem_flatMap.1 hmem
  cases decision with
  | failed cause => cases hof
  | skipped => cases hof
  | alone =>
    rw [List.mem_singleton.1 hof]
  | perInstance listings =>
    obtain ⟨target, htarget, rfl⟩ := List.mem_map.1 hof
    obtain ⟨m, -, rfl⟩ := List.mem_map.1 htarget
    rfl

/-- A run of checks that take no time, on a reader that takes none, ends when it starts. -/
theorem History.finish_of_still (hreader : base.reader.Still)
    (hstill : ∀ check ∈ checks, check.Still) :
    (ofChecks context base checks clock).finish = clock := by
  have htaken := Course.taken_ofChecks context base checks clock
  have hplanned := htaken.finish_of_still hreader hstill
  rw [ofChecks_prompt]
  split
  · have htried : ∀ invocation ∈ (Course.ofChecks context base checks clock).invocations base,
        invocation.check.Still ∧ invocation.target.reader.Still := by
      intro invocation hmem
      refine ⟨hstill _ (htaken.check_mem invocation hmem), ?_⟩
      rw [Course.reader_of_mem _ invocation hmem]
      exact hreader
    exact (Attempt.finish_of_still htried _).trans hplanned
  · exact hplanned

end Run

end Preflight
