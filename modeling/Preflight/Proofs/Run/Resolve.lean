import Preflight.Proofs.Check.Order
import Preflight.Proofs.Registry.Selected
import Preflight.Run.Resolve

/-!
# What resolving finds

The resolved checks are checks of the registry, no two of them with one identity, and resolving
cannot fail on selectors that were accepted.
-/

namespace Preflight.Run

variable {r : Registry} {filter : Option Category} {selectors : List String}

theorem addNew_nodup {found : List Check} (hfound : (found.map (·.id)).Nodup)
    (checks : List Check) : ((addNew found checks).map (·.id)).Nodup := by
  fun_induction addNew found checks with
  | case1 found => exact hfound
  | case2 found check rest hknown ih => exact ih hfound
  | case3 found check rest hnew ih =>
    apply ih
    have hfresh : check.id ∉ found.map (·.id) := by simpa using hnew
    simpa [List.nodup_append, hfound] using hfresh

theorem mem_addNew {found checks : List Check} {check : Check}
    (hmem : check ∈ addNew found checks) :
    check ∈ found ∨ check ∈ checks := by
  fun_induction addNew found checks with
  | case1 found => exact .inl hmem
  | case2 found next rest hknown ih => exact (ih hmem).imp_right (List.mem_cons_of_mem _)
  | case3 found next rest hnew ih =>
    rcases ih hmem with hearlier | hlater
    · rcases List.mem_append.1 hearlier with hold | hnext
      · exact .inl hold
      · exact .inr (by simp_all)
    · exact .inr (List.mem_cons_of_mem _ hlater)

/-- Collecting keeps what was found free of repetitions and within the registry. -/
theorem collect_spec {found checks : List Check} (hnodup : (found.map (·.id)).Nodup)
    (hregistered : ∀ check ∈ found, check ∈ r.checks)
    (hcollect : collect r filter found selectors = .ok checks) :
    (checks.map (·.id)).Nodup ∧ ∀ check ∈ checks, check ∈ r.checks := by
  induction selectors generalizing found with
  | nil => cases hcollect; exact ⟨hnodup, hregistered⟩
  | cons pattern rest ih =>
    rw [collect] at hcollect
    split at hcollect
    · cases hcollect
    rename_i selected hselected
    apply ih (addNew_nodup hnodup selected) _ hcollect
    intro check hmem
    exact (mem_addNew hmem).elim (hregistered check)
      fun hfound => ((Registry.mem_selected_iff hselected check).1 hfound).1

theorem collect_isOk (r : Registry) (filter : Option Category)
    (hvalid : ∀ pattern ∈ selectors, Selector.validate pattern = .ok ()) (found : List Check) :
    ∃ checks, collect r filter found selectors = .ok checks := by
  induction selectors generalizing found with
  | nil => exact ⟨found, rfl⟩
  | cons pattern rest ih =>
    obtain ⟨hpattern, hrest⟩ := List.forall_mem_cons.1 hvalid
    obtain ⟨selected, hselected⟩ := r.selected_isOk filter hpattern
    obtain ⟨checks, hchecks⟩ := ih hrest (addNew found selected)
    exact ⟨checks, by rw [collect, hselected]; exact hchecks⟩

theorem resolve_eq_ok {checks : List Check} (hresolve : resolve r selectors filter = .ok checks) :
    ∃ found, collect r filter [] selectors = .ok found ∧ checks = Check.sortForDisplay found := by
  rw [resolve] at hresolve
  split at hresolve
  · rename_i found hfound
    cases hresolve
    exact ⟨found, hfound, rfl⟩
  · cases hresolve

/-- No two of the resolved checks share an identity. -/
theorem resolve_nodup {checks : List Check} (hresolve : resolve r selectors filter = .ok checks) :
    (checks.map (·.id)).Nodup := by
  obtain ⟨found, hfound, rfl⟩ := resolve_eq_ok hresolve
  have hnodup := (collect_spec (by simp) (by simp) hfound).1
  exact ((List.mergeSort_perm found _).map (·.id)).nodup_iff.2 hnodup

/-- The resolved checks are in display order. -/
theorem resolve_sorted {checks : List Check}
    (hresolve : resolve r selectors filter = .ok checks) : checks.Pairwise Check.ComesBefore := by
  have hnodup := resolve_nodup hresolve
  obtain ⟨found, -, rfl⟩ := resolve_eq_ok hresolve
  exact Check.pairwise_sortForDisplay hnodup

theorem mem_of_mem_resolve {checks : List Check}
    (hresolve : resolve r selectors filter = .ok checks) : ∀ check ∈ checks, check ∈ r.checks := by
  obtain ⟨found, hfound, rfl⟩ := resolve_eq_ok hresolve
  intro check hmem
  exact (collect_spec (by simp) (by simp) hfound).2 check (List.mem_mergeSort.1 hmem)

theorem resolve_isOk (r : Registry) (filter : Option Category)
    (hvalid : Selector.validateAll selectors = .ok ()) :
    ∃ checks, resolve r selectors filter = .ok checks := by
  obtain ⟨found, hfound⟩ :=
    collect_isOk r filter (Selector.validate_of_validateAll hvalid) []
  exact ⟨_, by rw [resolve, hfound]⟩

theorem addNew_of_nodup {found checks : List Check}
    (hnodup : ((found ++ checks).map (·.id)).Nodup) : addNew found checks = found ++ checks := by
  induction checks generalizing found with
  | nil => rw [addNew, List.append_nil]
  | cons check rest ih =>
    have hnew : ¬found.any (·.id == check.id) := by
      rw [List.map_append, List.nodup_append] at hnodup
      have hapart := hnodup.2.2
      simp only [List.mem_map, List.map_cons, List.mem_cons] at hapart
      simpa using fun known hmem => hapart _ ⟨known, hmem, rfl⟩ _ (.inl rfl)
    rw [addNew, if_neg hnew, ih (by simpa using hnodup), List.append_assoc, List.singleton_append]

theorem filterChecks_wildcard (checks : List Check) :
    Selector.filterChecks (Selector.selects Selector.wildcard) checks = .ok checks := by
  induction checks with
  | nil => rfl
  | cons check rest ih =>
    have hselects : Selector.selects Selector.wildcard check = .ok true := rfl
    rw [Selector.filterChecks, hselects, ih]
    rfl

/-- The wildcard resolves to all checks, which stay as they are if they are sorted already. -/
theorem resolve_wildcard {checks : List Check} (hids : checks.Pairwise fun a b => Check.idLe a b)
    (hdisplay : checks.Pairwise fun a b => Check.displayLe a b)
    (hnodup : (checks.map (·.id)).Nodup) (frozen : Bool) :
    resolve ⟨checks, frozen⟩ [Selector.wildcard] none = .ok checks := by
  have hvalid : Selector.validate Selector.wildcard = .ok () := rfl
  have hall : Registry.all ⟨checks, frozen⟩ = checks := List.mergeSort_of_pairwise hids
  have hpass : checks.filter (·.passes none) = checks := List.filter_eq_self.2 fun _ _ => rfl
  have hnew : addNew [] checks = checks := addNew_of_nodup hnodup
  have hcollect : collect ⟨checks, frozen⟩ none [] [Selector.wildcard] = .ok checks := by
    simp only [collect, Registry.selected, hvalid, hall, hpass, filterChecks_wildcard, hnew]
  rw [resolve, hcollect]
  exact congrArg Except.ok (List.mergeSort_of_pairwise hdisplay)

theorem resolve_singleton (check : Check) (frozen : Bool) :
    resolve ⟨[check], frozen⟩ [Selector.wildcard] none = .ok [check] :=
  resolve_wildcard (List.pairwise_singleton _ _) (List.pairwise_singleton _ _)
    (List.pairwise_singleton _ _) frozen

end Preflight.Run
