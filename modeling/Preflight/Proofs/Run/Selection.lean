import Mathlib.Data.List.Nodup
import Preflight.Catalog
import Preflight.Proofs.Registry.WellFormed
import Preflight.Proofs.Run.Resolve

/-!
# Two ways to select

A run resolves its selectors one query after the other and sorts what it found for display; a list
of checks can also be gone through once and each check tried on all selectors.  Both refuse the same
selectors with the same reason, and both find the same checks.
-/

namespace Preflight

namespace Registry

/-- Two registered checks with one identity are one check. -/
theorem WellFormed.eq_of_id {r : Registry} (hwell : r.WellFormed) {a b : Check}
    (ha : a ∈ r.checks) (hb : b ∈ r.checks) (hid : a.id = b.id) : a = b :=
  List.inj_on_of_nodup_map hwell.ids_nodup ha hb hid

theorem sortById_all (r : Registry) : Check.sortById r.all = r.all :=
  List.mergeSort_of_pairwise
    (List.pairwise_mergeSort Check.idLe_trans Check.idLe_total r.checks)

end Registry

namespace Run

variable {r : Registry} {filter : Option Category} {selectors : List String}

/-- The check passes the filter and some selector selects it. -/
def Chosen (filter : Option Category) (selectors : List String) (check : Check) : Prop :=
  check.passes filter = true ∧
    ∃ pattern ∈ selectors, Selector.selects pattern check = .ok true

/-! ## Query after query -/

/-- Where identities tell checks apart, adding those with a new identity loses none. -/
theorem mem_addNew_iff {all found checks : List Check}
    (hown : ∀ a ∈ all, ∀ b ∈ all, a.id = b.id → a = b) (hfound : ∀ check ∈ found, check ∈ all)
    (hchecks : ∀ check ∈ checks, check ∈ all) (check : Check) :
    check ∈ addNew found checks ↔ check ∈ found ∨ check ∈ checks := by
  fun_induction addNew found checks with
  | case1 found => simp
  | case2 found next rest hknown ih =>
    obtain ⟨hnext, hrest⟩ := List.forall_mem_cons.1 hchecks
    obtain ⟨known, hmem, hsame⟩ := List.any_eq_true.1 hknown
    have heq : known = next := hown known (hfound known hmem) next hnext (by simpa using hsame)
    rw [ih hfound hrest, List.mem_cons]
    constructor
    · exact Or.imp_right .inr
    · rintro (hold | rfl | hlater)
      · exact .inl hold
      · exact .inl (heq ▸ hmem)
      · exact .inr hlater
  | case3 found next rest hnew ih =>
    obtain ⟨hnext, hrest⟩ := List.forall_mem_cons.1 hchecks
    have hadded : ∀ check ∈ found ++ [next], check ∈ all := by
      intro check hmem
      rcases List.mem_append.1 hmem with hold | hthis
      · exact hfound check hold
      · rwa [List.mem_singleton.1 hthis]
    rw [ih hadded hrest, List.mem_append, List.mem_singleton, List.mem_cons, or_assoc]

theorem collect_eq_error_iff {found : List Check} {fault : InvalidPattern} :
    collect r filter found selectors = .error fault ↔
      Selector.validateEach selectors = .error fault := by
  induction selectors generalizing found with
  | nil => simp [collect, Selector.validateEach]
  | cons pattern rest ih =>
    rw [collect, Selector.validateEach]
    cases hvalid : Selector.validate pattern with
    | error refusal =>
      have hrefused : r.selected pattern filter = .error refusal :=
        Registry.selected_eq_error_iff.2 hvalid
      simp [hrefused]
    | ok accepted =>
      obtain ⟨checks, hchecks⟩ := r.selected_isOk filter hvalid
      simp [hchecks, ih]

theorem mem_collect_iff (hwell : r.WellFormed) {found checks : List Check}
    (hfound : ∀ check ∈ found, check ∈ r.checks)
    (hcollect : collect r filter found selectors = .ok checks) (check : Check) :
    check ∈ checks ↔ check ∈ found ∨ check ∈ r.checks ∧ Chosen filter selectors check := by
  induction selectors generalizing found with
  | nil =>
    cases hcollect
    simp [Chosen]
  | cons pattern rest ih =>
    rw [collect] at hcollect
    split at hcollect
    · cases hcollect
    rename_i selected hselected
    have hmem := Registry.mem_selected_iff hselected
    have hregistered : ∀ check ∈ selected, check ∈ r.checks :=
      fun check hin => ((hmem check).1 hin).1
    have hadd := mem_addNew_iff (fun a ha b hb => hwell.eq_of_id ha hb) hfound hregistered
    have hboth : ∀ check ∈ addNew found selected, check ∈ r.checks := by
      intro check hin
      exact ((hadd check).1 hin).elim (hfound check) (hregistered check)
    rw [ih hboth hcollect, hadd, hmem, or_assoc]
    simp only [Chosen, List.mem_cons, exists_eq_or_imp, and_or_left]

theorem resolve_eq_error_iff {defect : InvalidPattern} :
    resolve r selectors filter = .error (.invalidPattern defect) ↔
      Selector.validateEach selectors = .error defect := by
  have hcollect : collect r filter [] selectors = .error defect ↔
      Selector.validateEach selectors = .error defect := collect_eq_error_iff
  rw [← hcollect, resolve]
  cases collect r filter [] selectors <;> simp

theorem mem_resolve_iff (hwell : r.WellFormed) {checks : List Check}
    (hresolve : resolve r selectors filter = .ok checks) (check : Check) :
    check ∈ checks ↔ check ∈ r.checks ∧ Chosen filter selectors check := by
  obtain ⟨found, hfound, rfl⟩ := resolve_eq_ok hresolve
  rw [Check.sortForDisplay, List.mem_mergeSort, mem_collect_iff hwell (by simp) hfound]
  simp

theorem validateEach_of_resolve {checks : List Check}
    (hresolve : resolve r selectors filter = .ok checks) :
    Selector.validateEach selectors = .ok () := by
  cases hvalid : Selector.validateEach selectors with
  | ok accepted => rfl
  | error defect =>
    rw [resolve_eq_error_iff.2 hvalid] at hresolve
    cases hresolve

/-- Selectors that are the same up to order and repetition resolve to the same checks. -/
theorem resolve_congr (hwell : r.WellFormed) {others : List String} {checks : List Check}
    (hsame : ∀ pattern, pattern ∈ others ↔ pattern ∈ selectors)
    (hresolve : resolve r selectors filter = .ok checks) :
    resolve r others filter = .ok checks := by
  have hvalid : ∀ pattern ∈ others, Selector.validate pattern = .ok () := by
    intro pattern hmem
    exact Selector.validateEach_eq_ok_iff.1 (validateEach_of_resolve hresolve) pattern
      ((hsame pattern).1 hmem)
  obtain ⟨found, hfound⟩ := collect_isOk r filter hvalid []
  have hothers : resolve r others filter = .ok (Check.sortForDisplay found) := by
    rw [resolve, hfound]
  have hmem : ∀ check, check ∈ Check.sortForDisplay found ↔ check ∈ checks := by
    intro check
    simp only [mem_resolve_iff hwell hothers, mem_resolve_iff hwell hresolve, Chosen, hsame]
  have hperm : (Check.sortForDisplay found).Perm checks :=
    (List.perm_ext_iff_of_nodup (resolve_nodup hothers).of_map (resolve_nodup hresolve).of_map).2
      hmem
  rw [hothers, hperm.eq_of_pairwise (fun a b _ _ hab hba => absurd hba hab.asymm)
    (resolve_sorted hothers) (resolve_sorted hresolve)]

/-! ## Check after check -/

/-- Accepted selectors select the chosen ones of the registered checks, by identity. -/
theorem select_spec (hwell : r.WellFormed) (hsome : selectors ≠ [])
    (hvalid : ∀ pattern ∈ selectors, Selector.validate pattern = .ok ()) :
    ∃ selected, Selector.select r.all selectors filter = .ok selected ∧
      (∀ check, check ∈ selected ↔ check ∈ r.checks ∧ Chosen filter selectors check) ∧
      selected.Pairwise fun a b => a.id < b.id := by
  have haccepted : Selector.validateAll selectors = .ok () := by
    rw [Selector.validateAll_of_ne_nil hsome]
    exact Selector.validateEach_eq_ok_iff.2 hvalid
  have hany : ∀ check, Selector.anySelects check selectors = .ok true ↔
      ∃ pattern ∈ selectors, Selector.selects pattern check = .ok true := by
    intro check
    obtain ⟨passed, hpassed, hiff⟩ := Selector.anySelects_spec hvalid check
    rw [hpassed, ← hiff, Except.ok.injEq]
  obtain ⟨selected, hselected⟩ := Selector.filterChecks_isOk
    (fun check => (Selector.anySelects_spec hvalid check).imp fun _ hpassed => hpassed.1)
    (r.all.filter (·.passes filter))
  obtain ⟨hsublist, hmem⟩ := Selector.filterChecks_spec hselected
  refine ⟨selected, ?_, fun check => ?_, ?_⟩
  · rw [Selector.select, haccepted, Registry.sortById_all]
    exact hselected
  · rw [hmem, hany, List.mem_filter, Registry.all, Check.sortById, List.mem_mergeSort, Chosen,
      and_assoc]
  · exact (Check.pairwise_sortById hwell.ids_nodup).sublist
      (hsublist.trans List.filter_sublist)

theorem select_eq_error {defect : InvalidPattern} (hsome : selectors ≠ [])
    (hrefused : Selector.validateEach selectors = .error defect) :
    Selector.select r.all selectors filter = .error defect := by
  rw [Selector.select, Selector.validateAll_of_ne_nil hsome, hrefused]

/-- A query by one selector selects from the list of all checks. -/
theorem selected_eq_select (r : Registry) (pattern : String) (filter : Option Category) :
    r.selected pattern filter = Selector.select r.all [pattern] filter := by
  have htest : (Selector.anySelects · [pattern]) = Selector.selects pattern :=
    funext (Selector.anySelects_singleton pattern)
  rw [Registry.selected, Selector.select, Selector.validateAll_of_ne_nil (by simp),
    Registry.sortById_all, htest, Selector.validateEach, Selector.validateEach]
  cases Selector.validate pattern <;> rfl

/-! ## Both ways together -/

/-- What resolving selectors and selecting from the list of all checks come to: one refusal, or the
same checks in two orders. -/
inductive Agreement (r : Registry) (selectors : List String) (filter : Option Category) : Prop where
  | refused {pattern : String} {defect : InvalidPattern} (hmem : pattern ∈ selectors)
      (hrefused : Selector.validate pattern = .error defect)
      (hresolve : resolve r selectors filter = .error (.invalidPattern defect))
      (hselect : Selector.select r.all selectors filter = .error defect)
  | found {resolved selected : List Check}
      (hvalid : ∀ pattern ∈ selectors, Selector.validate pattern = .ok ())
      (hresolve : resolve r selectors filter = .ok resolved)
      (hselect : Selector.select r.all selectors filter = .ok selected)
      (hresolved : ∀ check, check ∈ resolved ↔ check ∈ r.checks ∧ Chosen filter selectors check)
      (hselected : ∀ check, check ∈ selected ↔ check ∈ r.checks ∧ Chosen filter selectors check)
      (hdisplayed : resolved.Pairwise Check.ComesBefore)
      (hsorted : selected.Pairwise fun a b => a.id < b.id)

theorem agreement (hwell : r.WellFormed) (hsome : selectors ≠ []) :
    Agreement r selectors filter := by
  cases hvalid : Selector.validateEach selectors with
  | error defect =>
    obtain ⟨pattern, hmem, hrefused⟩ := Selector.exists_refused_of_validateEach hvalid
    exact .refused hmem hrefused (resolve_eq_error_iff.2 hvalid) (select_eq_error hsome hvalid)
  | ok accepted =>
    have heach := Selector.validateEach_eq_ok_iff.1 hvalid
    obtain ⟨found, hfound⟩ := collect_isOk r filter heach []
    have hresolve : resolve r selectors filter = .ok (Check.sortForDisplay found) := by
      rw [resolve, hfound]
    obtain ⟨selected, hselect, hmem, hsorted⟩ := select_spec hwell hsome heach
    exact .found heach hresolve hselect (mem_resolve_iff hwell hresolve) hmem
      (resolve_sorted hresolve) hsorted

/-- Resolving agrees with selecting from all checks, it depends on which selectors there are and not
on their order or repetition, and a query by one selector is a selection. -/
theorem resolve_agrees (hreachable : r.Reachable) (hsome : selectors ≠ [])
    (filter : Option Category) :
    Agreement r selectors filter ∧
      (∀ others checks, (∀ pattern, pattern ∈ others ↔ pattern ∈ selectors) →
        resolve r selectors filter = .ok checks → resolve r others filter = .ok checks) ∧
      ∀ pattern, r.selected pattern filter = Selector.select r.all [pattern] filter := by
  have hwell := hreachable.wellFormed
  refine ⟨agreement hwell hsome, ?_, ?_⟩
  · intro others checks hsame hresolve
    exact resolve_congr hwell hsame hresolve
  · intro pattern
    exact selected_eq_select r pattern filter

/-- Selectors of three kinds that overlap, one of them twice. -/
theorem resolve_agrees_catalog :
    ∃ checks, resolve ⟨Catalog.checks, false⟩ ["components", "*.*.removal", "components"] none =
        .ok checks ∧ Catalog.codeFlare ∈ checks ∧ Catalog.serviceMesh ∈ checks ∧
      resolve ⟨Catalog.checks, false⟩ ["*.*.removal", "components"] none = .ok checks := by
  have hreachable : Registry.Reachable ⟨Catalog.checks, false⟩ :=
    Registry.reachable_of_ofChecks (show Registry.ofChecks Catalog.checks = .ok _ from rfl)
  have hsome : ["components", "*.*.removal", "components"] ≠ [] := by simp
  obtain ⟨hagree, hsame, -⟩ := resolve_agrees hreachable hsome none
  cases hagree with
  | refused hmem hrefused =>
    have hvalid : ∀ pattern ∈ ["components", "*.*.removal", "components"],
        Selector.validate pattern = .ok () := by decide
    rw [hvalid _ hmem] at hrefused
    cases hrefused
  | found hvalid hresolve hselect hresolved hselected hdisplayed hsorted =>
    refine ⟨_, hresolve, ?_, ?_, ?_⟩
    · exact (hresolved _).2 ⟨by simp [Catalog.checks], rfl, "components", by simp, rfl⟩
    · exact (hresolved _).2 ⟨by simp [Catalog.checks], rfl, "*.*.removal", by simp, by decide⟩
    · exact hsame _ _ (by simp) hresolve

end Run

end Preflight
