import Preflight.Catalog
import Preflight.Proofs.Registry.Rearranged
import Preflight.Proofs.Run.History
import Preflight.Run.DryRun

/-!
# Runs over rearranged registries

Resolving selectors asks a registry query after query, and nothing else of a run or a dry run looks at
the registry.  So the order in which checks were registered shows nowhere: not in what is selected,
not in the plan, and not in the position of an invocation or in where a deadline cuts the run short.
-/

namespace Preflight.Run

variable {first second : Registry}

theorem collect_rearranged (hsame : first.Rearranged second) (filter : Option Category)
    (selectors : List String) (found : List Check) :
    collect first filter found selectors = collect second filter found selectors := by
  induction selectors generalizing found with
  | nil => rfl
  | cons pattern rest ih =>
    rw [collect, collect, hsame.selected_eq]
    cases second.selected pattern filter with
    | error defect => rfl
    | ok checks => exact ih (addNew found checks)

theorem resolve_rearranged (hsame : first.Rearranged second) (selectors : List String)
    (filter : Option Category) : resolve first selectors filter = resolve second selectors filter := by
  rw [resolve, resolve, collect_rearranged hsame]

/-- Nothing that is asked of the registries or run over them tells one from the other. -/
structure Interchangeable (first second : Registry) : Prop where
  answer : ∀ request, first.answer request = second.answer request
  resolve : ∀ selectors filter, resolve first selectors filter = resolve second selectors filter
  dryRun : ∀ selectors filter current target,
    dryRun first selectors filter current target = dryRun second selectors filter current target
  execute : ∀ reader request pool,
    execute first reader request pool = execute second reader request pool

theorem interchangeable_of_rearranged (hsame : first.Rearranged second) :
    Interchangeable first second where
  answer := hsame.answer_eq
  resolve := resolve_rearranged hsame
  dryRun selectors filter current target := by
    rw [dryRun, dryRun, resolve_rearranged hsame]
  execute reader request pool := by
    rw [execute, execute, resolve_rearranged hsame]

/-- Complete checks are registered in any order with the same success: where an identity is repeated,
both orders are refused, and otherwise the two registries are interchangeable, whatever has been
asked of both before. -/
theorem ofChecks_interchangeable {checks others : List Check} (hperm : checks.Perm others)
    (hcomplete : ∀ check ∈ checks, check.Complete) :
    (¬(checks.map (·.id)).Nodup →
      (∃ id, Registry.ofChecks checks = .error (.duplicateCheck id)) ∧
        ∃ id, Registry.ofChecks others = .error (.duplicateCheck id)) ∧
    ((checks.map (·.id)).Nodup →
      ∃ first second, Registry.ofChecks checks = .ok first ∧ Registry.ofChecks others = .ok second ∧
        ∀ requests, Interchangeable (first.afterAll requests) (second.afterAll requests)) := by
  have hothers : ∀ check ∈ others, check.Complete :=
    fun check hmem => hcomplete check (hperm.mem_iff.2 hmem)
  have hids : (checks.map (·.id)).Nodup ↔ (others.map (·.id)).Nodup :=
    (hperm.map (·.id)).nodup_iff
  obtain ⟨hfilled, hrefused⟩ := Registry.ofChecks_of_complete hcomplete
  obtain ⟨hfilled', hrefused'⟩ := Registry.ofChecks_of_complete hothers
  constructor
  · intro hrepeated
    exact ⟨hrefused hrepeated, hrefused' (mt hids.2 hrepeated)⟩
  · intro hnodup
    have hfirst := hfilled hnodup
    have hsecond := hfilled' (hids.1 hnodup)
    have hsame : Registry.Rearranged ⟨checks, false⟩ ⟨others, false⟩ :=
      ⟨hperm, rfl, (Registry.reachable_of_ofChecks hfirst).wellFormed,
        (Registry.reachable_of_ofChecks hsecond).wellFormed⟩
    refine ⟨_, _, hfirst, hsecond, ?_⟩
    intro requests
    exact interchangeable_of_rearranged (hsame.afterAll requests)

/-- The catalogue from its last check to its first is another registry, and a run over it comes to
the same. -/
theorem ofChecks_interchangeable_catalog :
    ∃ first second, Registry.ofChecks Catalog.checks = .ok first ∧
      Registry.ofChecks Catalog.checks.reverse = .ok second ∧
      first.checks.map (·.id) ≠ second.checks.map (·.id) ∧
      ∀ reader request pool,
        execute first reader request pool = execute second reader request pool := by
  have hregistered : Registry.ofChecks Catalog.checks = .ok ⟨Catalog.checks, false⟩ := rfl
  have hreversed : Registry.ofChecks Catalog.checks.reverse =
      .ok ⟨Catalog.checks.reverse, false⟩ := rfl
  have hwell := (Registry.reachable_of_ofChecks hregistered).wellFormed
  have hcomplete : ∀ check ∈ Catalog.checks, check.Complete :=
    fun check hmem => Registry.complete_of_requireComplete (hwell.complete check hmem)
  obtain ⟨-, hsame⟩ := ofChecks_interchangeable (List.reverse_perm Catalog.checks).symm hcomplete
  obtain ⟨first, second, hfirst, hsecond, hinterchangeable⟩ := hsame hwell.ids_nodup
  cases hregistered.symm.trans hfirst
  cases hreversed.symm.trans hsecond
  exact ⟨_, _, hregistered, hreversed, by decide, (hinterchangeable []).execute⟩

end Preflight.Run
