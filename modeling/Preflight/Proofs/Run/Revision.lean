import Preflight.Proofs.Run.Course
import Preflight.Proofs.Run.Resolve

/-!
# Revised checks

Registries that differ in how the check of one identity judges its targets, and in nothing else.
Neither selecting nor planning looks at how a check judges, so both come to the same, but for the
revised check itself.
-/

namespace Preflight

variable {id : String} {validate : Context → Target → Action Returned}

namespace Check

/-- The check with another way to judge its targets, if it has the given identity. -/
def revised (id : String) (validate : Context → Target → Action Returned) (check : Check) : Check :=
  if check.id = id then { check with validate := validate } else check

theorem revised_of_ne {check : Check} (hne : check.id ≠ id) : check.revised id validate = check :=
  if_neg hne

theorem validate_revised {check : Check} (heq : check.id = id) :
    (check.revised id validate).validate = validate := by
  rw [revised, if_pos heq]

/-- A view of checks that leaves out how they judge is the same of a revised check. -/
theorem apply_revised {α : Type} (view : Check → α)
    (hview : ∀ check : Check, view { check with validate := validate } = view check)
    (check : Check) : view (check.revised id validate) = view check := by
  rw [revised]
  split
  · exact hview check
  · rfl

@[simp]
theorem id_revised (check : Check) : (check.revised id validate).id = check.id :=
  apply_revised Check.id (fun _ => rfl) check

@[simp]
theorem category_revised (check : Check) :
    (check.revised id validate).category = check.category :=
  apply_revised category (fun _ => rfl) check

@[simp]
theorem resourceTypes_revised (check : Check) :
    (check.revised id validate).resourceTypes = check.resourceTypes :=
  apply_revised resourceTypes (fun _ => rfl) check

@[simp]
theorem canApply_revised (check : Check) :
    (check.revised id validate).canApply = check.canApply :=
  apply_revised canApply (fun _ => rfl) check

@[simp]
theorem isIn_revised (check : Check) (category : Category) :
    (check.revised id validate).isIn category = check.isIn category :=
  apply_revised (isIn · category) (fun _ => rfl) check

theorem sortById_map_revised (checks : List Check) :
    sortById (checks.map (revised id validate)) = (sortById checks).map (revised id validate) := by
  symm
  apply List.map_mergeSort
  intro a ha b hb
  simp [idLe]

theorem sortForDisplay_map_revised (checks : List Check) :
    sortForDisplay (checks.map (revised id validate)) =
      (sortForDisplay checks).map (revised id validate) := by
  symm
  apply List.map_mergeSort
  intro a ha b hb
  simp [displayLe, idLe]

end Check

/-! ## Selecting -/

theorem Selector.filterChecks_map {test : Check → Except InvalidPattern Bool}
    {revise : Check → Check} (htest : ∀ check, test (revise check) = test check)
    (checks : List Check) :
    filterChecks test (checks.map revise) = (filterChecks test checks).map (List.map revise) := by
  induction checks with
  | nil => rfl
  | cons check rest ih =>
    rw [List.map_cons, filterChecks, filterChecks, htest, ih]
    cases test check with
    | error fault => rfl
    | ok selected =>
      cases filterChecks test rest with
      | error fault => rfl
      | ok found => cases selected <;> rfl

namespace Registry

/-- The registry with the check of one identity revised. -/
def revised (id : String) (validate : Context → Target → Action Returned) (r : Registry) :
    Registry :=
  { r with checks := r.checks.map (Check.revised id validate) }

theorem all_revised (r : Registry) :
    (r.revised id validate).all = r.all.map (Check.revised id validate) :=
  Check.sortById_map_revised r.checks

theorem selected_revised (r : Registry) (pattern : String) (filter : Option Category) :
    (r.revised id validate).selected pattern filter =
      (r.selected pattern filter).map (List.map (Check.revised id validate)) := by
  have hpasses : (fun check : Check => check.passes filter) ∘ Check.revised id validate =
      fun check => check.passes filter := by
    funext check
    exact Check.apply_revised (·.passes filter) (fun _ => rfl) check
  have hselects (check : Check) :
      Selector.selects pattern (check.revised id validate) = Selector.selects pattern check :=
    Check.apply_revised (Selector.selects pattern) (fun _ => rfl) check
  rw [selected, selected]
  cases Selector.validate pattern with
  | error fault => rfl
  | ok accepted =>
    dsimp only
    rw [all_revised, List.filter_map, hpasses]
    exact Selector.filterChecks_map hselects _

end Registry

namespace Run

theorem addNew_map_revised (found checks : List Check) :
    addNew (found.map (Check.revised id validate)) (checks.map (Check.revised id validate)) =
      (addNew found checks).map (Check.revised id validate) := by
  induction checks generalizing found with
  | nil => rfl
  | cons check rest ih =>
    have hknown : (found.map (Check.revised id validate)).any
        (·.id == (check.revised id validate).id) = found.any (·.id == check.id) := by
      simp [List.any_map, Function.comp_def]
    rw [List.map_cons, addNew, addNew, hknown, ih]
    split
    · rfl
    · rw [← ih, List.map_append, List.map_singleton]

theorem collect_revised (r : Registry) (filter : Option Category) (selectors : List String)
    (found : List Check) :
    collect (r.revised id validate) filter (found.map (Check.revised id validate)) selectors =
      (collect r filter found selectors).map (List.map (Check.revised id validate)) := by
  induction selectors generalizing found with
  | nil => rfl
  | cons pattern rest ih =>
    rw [collect, collect, Registry.selected_revised]
    cases r.selected pattern filter with
    | error fault => rfl
    | ok checks =>
      simp only [Except.map]
      rw [addNew_map_revised]
      exact ih _

/-- Revising a registry revises what is resolved. -/
theorem resolve_revised (r : Registry) (selectors : List String) (filter : Option Category) :
    resolve (r.revised id validate) selectors filter =
      (resolve r selectors filter).map (List.map (Check.revised id validate)) := by
  have hcollect : collect (r.revised id validate) filter [] selectors =
      (collect r filter [] selectors).map (List.map (Check.revised id validate)) :=
    collect_revised r filter selectors []
  rw [resolve, resolve, hcollect]
  cases collect r filter [] selectors with
  | error fault => rfl
  | ok found => exact congrArg Except.ok (Check.sortForDisplay_map_revised found)

/-! ## Planning -/

def Invocation.revised (id : String) (validate : Context → Target → Action Returned)
    (invocation : Invocation) : Invocation :=
  { invocation with check := invocation.check.revised id validate }

def Step.revised (id : String) (validate : Context → Target → Action Returned) (step : Step) :
    Step :=
  { step with check := step.check.revised id validate }

theorem Step.invocations_revised (base : Target) (step : Step) :
    (step.revised id validate).invocations base =
      (step.invocations base).map (Invocation.revised id validate) := by
  obtain ⟨check, decision⟩ := step
  cases decision with
  | failed cause => rfl
  | skipped => rfl
  | alone => rfl
  | perInstance listings =>
    simp [Step.invocations, Step.revised, Invocation.revised, Function.comp_def]

theorem Step.incidents_revised (step : Step) :
    (step.revised id validate).incidents = step.incidents := by
  obtain ⟨check, decision⟩ := step
  cases decision <;> simp [Step.incidents, Step.revised, Planning.listingIncidents]

namespace Course

def revised (id : String) (validate : Context → Target → Action Returned) (course : Course) :
    Course :=
  { course with
    steps := course.steps.map (Step.revised id validate)
    abandoned := course.abandoned.map (Check.revised id validate) }

/-- The course of planning revised checks is that of the checks, revised. -/
theorem ofChecks_revised (context : Context) (base : Target) (checks : List Check) (clock : Clock) :
    ofChecks context base (checks.map (Check.revised id validate)) clock =
      (ofChecks context base checks clock).revised id validate := by
  induction checks generalizing clock with
  | nil => rfl
  | cons check rest ih =>
    rw [List.map_cons, ofChecks, ofChecks, Check.canApply_revised, Check.isIn_revised,
      Check.resourceTypes_revised]
    simp only [ih]
    -- What is decided about the check does not depend on how it judges.
    by_cases hover : context.expired clock.now
    · rw [if_pos hover, if_pos hover]
      rfl
    rw [if_neg hover, if_neg hover]
    rcases (check.canApply base.current base.target).runAt clock with ⟨cause | applies, asked⟩
    · rfl
    cases applies with
    | false => rfl
    | true =>
      dsimp only
      split
      · split <;> rfl
      · rfl

theorem invocations_revised (base : Target) (course : Course) :
    (course.revised id validate).invocations base =
      (course.invocations base).map (Invocation.revised id validate) := by
  simp only [invocations, revised, List.flatMap_map, List.map_flatMap, Step.invocations_revised]

theorem incidents_revised (course : Course) :
    (course.revised id validate).incidents = course.incidents := by
  have hunfinished : (course.revised id validate).unfinishedIncidents =
      course.unfinishedIncidents := by
    obtain ⟨steps, unfinished, abandoned, finish⟩ := course
    cases abandoned with
    | nil => rfl
    | cons check rest => simp [unfinishedIncidents, revised, Planning.listingIncidents]
  rw [incidents, incidents, hunfinished]
  simp only [revised, List.flatMap_map, Step.incidents_revised]

theorem skipped_revised (course : Course) :
    (course.revised id validate).skipped.map (·.id) = course.skipped.map (·.id) := by
  simp [skipped, revised, Step.revised, List.filter_map, Function.comp_def]

end Course

end Run

end Preflight
