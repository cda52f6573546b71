import Preflight.Registry.Basic

/-!
# What selectors select

An accepted selector can be evaluated on every check, so selecting fails only where a selector is
refused.  A list of selectors is refused with the reason of the first of them that is.
-/

namespace Preflight

namespace Selector

variable {patterns : List String} {test : Check → Except InvalidPattern Bool}

/-! ## Single selectors -/

theorem selects_isOk {pattern : String} (hvalid : validate pattern = .ok ()) (check : Check) :
    ∃ selected, selects pattern check = .ok selected := by
  rw [selects]
  split
  · exact ⟨true, rfl⟩
  rename_i hwildcard
  split
  · exact ⟨_, rfl⟩
  rename_i hgroup
  split
  · exact ⟨true, rfl⟩
  have hcompile : ∃ tokens, compile pattern = .ok tokens := by
    cases htokens : compile pattern with
    | ok tokens => exact ⟨tokens, rfl⟩
    | error fault =>
      simp only [validate, hwildcard, hgroup, htokens] at hvalid
      split at hvalid <;> cases hvalid
  obtain ⟨tokens, htokens⟩ := hcompile
  exact ⟨_, by rw [htokens]⟩

theorem filterChecks_isOk (htest : ∀ check, ∃ passed, test check = .ok passed)
    (checks : List Check) : ∃ found, filterChecks test checks = .ok found := by
  induction checks with
  | nil => exact ⟨[], rfl⟩
  | cons check rest ih =>
    obtain ⟨passed, hpassed⟩ := htest check
    obtain ⟨found, hfound⟩ := ih
    exact ⟨_, by simp only [filterChecks, hpassed, hfound]; rfl⟩

/-- The checks that pass a test are in their old order, and they are those on which it holds. -/
theorem filterChecks_spec {checks found : List Check}
    (hfound : filterChecks test checks = .ok found) :
    found.Sublist checks ∧ ∀ check, check ∈ found ↔ check ∈ checks ∧ test check = .ok true := by
  induction checks generalizing found with
  | nil =>
    cases hfound
    simp
  | cons check rest ih =>
    rw [filterChecks] at hfound
    split at hfound
    · cases hfound
    rename_i selected hselected
    cases htail : filterChecks test rest with
    | error fault => simp [htail, Except.map] at hfound
    | ok tail =>
      rw [htail] at hfound
      cases hfound
      obtain ⟨hsublist, hmem⟩ := ih htail
      cases selected with
      | true =>
        refine ⟨hsublist.cons_cons check, fun other => ?_⟩
        simp only [if_true, List.mem_cons, hmem]
        constructor
        · rintro (rfl | ⟨hrest, htest⟩)
          · exact ⟨.inl rfl, hselected⟩
          · exact ⟨.inr hrest, htest⟩
        · rintro ⟨rfl | hrest, htest⟩
          · exact .inl rfl
          · exact .inr ⟨hrest, htest⟩
      | false =>
        refine ⟨hsublist.cons check, fun other => ?_⟩
        simp only [Bool.false_eq_true, if_false, List.mem_cons, hmem]
        constructor
        · rintro ⟨hrest, htest⟩
          exact ⟨.inr hrest, htest⟩
        · rintro ⟨rfl | hrest, htest⟩
          · rw [hselected] at htest
            cases htest
          · exact ⟨hrest, htest⟩

/-! ## Lists of selectors -/

theorem validateEach_eq_ok_iff :
    validateEach patterns = .ok () ↔ ∀ pattern ∈ patterns, validate pattern = .ok () := by
  induction patterns with
  | nil => simp [validateEach]
  | cons pattern rest ih =>
    rw [validateEach, List.forall_mem_cons]
    cases hpattern : validate pattern with
    | error fault => simp
    | ok accepted => simpa using ih

theorem exists_refused_of_validateEach {fault : InvalidPattern}
    (hrefused : validateEach patterns = .error fault) :
    ∃ pattern ∈ patterns, validate pattern = .error fault := by
  induction patterns with
  | nil => cases hrefused
  | cons pattern rest ih =>
    rw [validateEach] at hrefused
    split at hrefused
    · obtain ⟨later, hmem, hlater⟩ := ih hrefused
      exact ⟨later, List.mem_cons_of_mem _ hmem, hlater⟩
    · cases hrefused
      exact ⟨pattern, List.mem_cons_self, ‹_›⟩

theorem validateAll_of_ne_nil (hsome : patterns ≠ []) :
    validateAll patterns = validateEach patterns := by
  rw [validateAll, if_neg]
  rwa [List.isEmpty_iff]

theorem validate_of_validateAll (hvalid : validateAll patterns = .ok ()) :
    ∀ pattern ∈ patterns, validate pattern = .ok () := by
  apply validateEach_eq_ok_iff.1
  rw [validateAll] at hvalid
  split at hvalid
  · cases hvalid
  · exact hvalid

/-- Accepted selectors can be tried on every check, and then some selector selects it or none. -/
theorem anySelects_spec (hvalid : ∀ pattern ∈ patterns, validate pattern = .ok ())
    (check : Check) : ∃ selected, anySelects check patterns = .ok selected ∧
      (selected = true ↔ ∃ pattern ∈ patterns, selects pattern check = .ok true) := by
  induction patterns with
  | nil => exact ⟨false, rfl, by simp⟩
  | cons pattern rest ih =>
    obtain ⟨hpattern, hrest⟩ := List.forall_mem_cons.1 hvalid
    obtain ⟨first, hfirst⟩ := selects_isOk hpattern check
    rw [anySelects, hfirst]
    cases first with
    | true => exact ⟨true, rfl, by simp [hfirst]⟩
    | false =>
      obtain ⟨later, hlater, hiff⟩ := ih hrest
      exact ⟨later, hlater, by simp [hiff, hfirst]⟩

theorem anySelects_singleton (pattern : String) (check : Check) :
    anySelects check [pattern] = selects pattern check := by
  rw [anySelects]
  split
  · exact Eq.symm ‹_›
  · rw [anySelects]
    exact Eq.symm ‹_›
  · exact Eq.symm ‹_›

end Selector

namespace Registry

variable {r : Registry} {pattern : String} {filter : Option Category}

theorem selected_isOk (r : Registry) (filter : Option Category)
    (hvalid : Selector.validate pattern = .ok ()) :
    ∃ found, r.selected pattern filter = .ok found := by
  rw [selected]
  rw [hvalid]
  exact Selector.filterChecks_isOk (Selector.selects_isOk hvalid) _

/-- A query by a selector fails exactly when the selector is refused, whatever is registered. -/
theorem selected_eq_error_iff {fault : InvalidPattern} :
    r.selected pattern filter = .error fault ↔ Selector.validate pattern = .error fault := by
  cases hvalid : Selector.validate pattern with
  | error refusal =>
    rw [selected]
    simp only [hvalid, Except.error.injEq]
  | ok accepted =>
    obtain ⟨found, hfound⟩ := r.selected_isOk filter hvalid
    simp [hfound]

/-- A query finds the registered checks that pass the filter and that the selector selects. -/
theorem mem_selected_iff {found : List Check} (hfound : r.selected pattern filter = .ok found)
    (check : Check) :
    check ∈ found ↔
      check ∈ r.checks ∧ check.passes filter = true ∧
        Selector.selects pattern check = .ok true := by
  rw [selected] at hfound
  split at hfound
  · cases hfound
  rw [(Selector.filterChecks_spec hfound).2 check, List.mem_filter, all, Check.sortById,
    List.mem_mergeSort, and_assoc]

end Registry

end Preflight
