import Preflight.Proofs.Glob.Acceptance
import Preflight.Proofs.Run.Selection

/-!
# Checks selected by their identity

A registry accepts every identity that is not empty, but an identity that is used as a selector is
read like any other one.  It has to be readable as a pattern, although no pattern is needed to find
its check, and the plural name of a category stands for the checks of this category only.  These are
the two ways in which a registered check can escape its own identity.
-/

namespace Preflight

theorem Registry.WellFormed.id_ne_empty {r : Registry} (hwell : r.WellFormed) {check : Check}
    (hmem : check ∈ r.checks) : check.id ≠ "" := by
  intro hempty
  have hcomplete := hwell.complete check hmem
  rw [Registry.requireComplete, if_pos hempty] at hcomplete
  cases hcomplete

namespace Check

/-- The identity is not the plural name of a category that the check is not in. -/
def KeepsName (check : Check) : Prop :=
  ∀ category, Category.ofGroup? check.id = some category → check.isIn category = true

/-- The identity can be read as a pattern, and it stands for no category of other checks. -/
def Findable (check : Check) : Prop :=
  (∃ tokens, Selector.compile check.id = .ok tokens) ∧ check.KeepsName

end Check

namespace Selector

/-- The identity of a check selects it unless the identity stands for another category. -/
theorem selects_id_iff {check : Check} : selects check.id check = .ok true ↔ check.KeepsName := by
  rw [selects, Check.KeepsName]
  split
  · rename_i hwildcard
    have hnone : Category.ofGroup? check.id = none := by
      rw [hwildcard]
      rfl
    simp [hnone]
  · cases Category.ofGroup? check.id <;> simp

/-- The identity of a registered check is accepted if it can be read as a pattern. -/
theorem validate_id_iff {r : Registry} (hwell : r.WellFormed) {check : Check}
    (hmem : check ∈ r.checks) :
    validate check.id = .ok () ↔ ∃ tokens, compile check.id = .ok tokens := by
  rw [validate_eq_ok_iff]
  exact and_iff_right (hwell.id_ne_empty hmem)

/-- It is refused with the reason for which it cannot be read. -/
theorem validate_id_eq_error_iff {r : Registry} (hwell : r.WellFormed) {check : Check}
    (hmem : check ∈ r.checks) {fault : InvalidPattern} :
    validate check.id = .error fault ↔ compile check.id = .error fault := by
  cases hcompile : compile check.id with
  | ok tokens => simp [(validate_id_iff hwell hmem).2 ⟨tokens, hcompile⟩]
  | error refusal =>
    have hshortcut : ¬(decide (check.id = wildcard) || (Category.ofGroup? check.id).isSome) := by
      intro hshortcut
      have hvalid : validate check.id = .ok () := by
        rw [validate, if_neg (hwell.id_ne_empty hmem), if_pos hshortcut]
      obtain ⟨tokens, htokens⟩ := (validate_id_iff hwell hmem).1 hvalid
      rw [hcompile] at htokens
      cases htokens
    have hrefused : validate check.id = .error refusal := by
      rw [validate, if_neg (hwell.id_ne_empty hmem), if_neg hshortcut, hcompile]
    rw [hrefused, Except.error.injEq, Except.error.injEq]

end Selector

namespace Registry

variable {r : Registry} {check : Check}

theorem WellFormed.selected_id_iff (hwell : r.WellFormed) (hmem : check ∈ r.checks) :
    (∃ found, r.selected check.id none = .ok found ∧ check ∈ found) ↔ check.Findable := by
  rw [Check.Findable, ← Selector.validate_id_iff hwell hmem, ← Selector.selects_id_iff]
  constructor
  · rintro ⟨found, hfound, hin⟩
    refine ⟨?_, ((mem_selected_iff hfound check).1 hin).2.2⟩
    cases hvalid : Selector.validate check.id with
    | ok accepted => rfl
    | error fault =>
      rw [selected_eq_error_iff.2 hvalid] at hfound
      cases hfound
  · rintro ⟨hvalid, hselects⟩
    obtain ⟨found, hfound⟩ := r.selected_isOk none hvalid
    exact ⟨found, hfound, (mem_selected_iff hfound check).2 ⟨hmem, rfl, hselects⟩⟩

end Registry

namespace Run

variable {r : Registry} {check : Check}

theorem validateEach_singleton (pattern : String) :
    Selector.validateEach [pattern] = Selector.validate pattern := by
  rw [Selector.validateEach, Selector.validateEach]
  cases Selector.validate pattern <;> rfl

theorem resolve_id_iff (hwell : r.WellFormed) (hmem : check ∈ r.checks) :
    (∃ found, resolve r [check.id] none = .ok found ∧ check ∈ found) ↔ check.Findable := by
  have hchosen : Chosen none [check.id] check ↔ check.KeepsName := by
    simp [Chosen, Check.passes, Selector.selects_id_iff]
  rw [Check.Findable, ← Selector.validate_id_iff hwell hmem, ← hchosen]
  constructor
  · rintro ⟨found, hfound, hin⟩
    have hvalid := validateEach_of_resolve hfound
    rw [validateEach_singleton] at hvalid
    exact ⟨hvalid, ((mem_resolve_iff hwell hfound check).1 hin).2⟩
  · rintro ⟨hvalid, hthis⟩
    obtain ⟨found, hfound⟩ := collect_isOk r none (List.forall_mem_singleton.2 hvalid) []
    have hresolve : resolve r [check.id] none = .ok (Check.sortForDisplay found) := by
      rw [resolve, hfound]
    exact ⟨_, hresolve, (mem_resolve_iff hwell hresolve check).2 ⟨hmem, hthis⟩⟩

theorem resolve_id_eq_error_iff (hwell : r.WellFormed) (hmem : check ∈ r.checks)
    {fault : Fault} :
    resolve r [check.id] none = .error fault ↔
      ∃ defect, Selector.compile check.id = .error defect ∧ fault = .invalidPattern defect := by
  have hrefused : ∀ defect, Selector.compile check.id = .error defect ↔
      collect r none [] [check.id] = .error defect := by
    intro defect
    rw [collect_eq_error_iff, validateEach_singleton, Selector.validate_id_eq_error_iff hwell hmem]
  simp only [hrefused, resolve]
  cases collect r none [] [check.id] <;> simp [eq_comm]

/-- A query for the identity of a registered check and resolving this identity both find the check
exactly if the identity can be read as a pattern and is not the plural name of another category.
They fail only with the defect for which the identity cannot be read; otherwise they find other
checks or none. -/
theorem own_identity_found_iff (hreachable : r.Reachable) (hmem : check ∈ r.checks) :
    ((∃ found, r.selected check.id none = .ok found ∧ check ∈ found) ↔ check.Findable) ∧
    ((∃ found, resolve r [check.id] none = .ok found ∧ check ∈ found) ↔ check.Findable) ∧
    (∀ defect, r.selected check.id none = .error defect ↔
      Selector.compile check.id = .error defect) ∧
    (∀ fault, resolve r [check.id] none = .error fault ↔
      ∃ defect, Selector.compile check.id = .error defect ∧ fault = .invalidPattern defect) := by
  have hwell := hreachable.wellFormed
  refine ⟨hwell.selected_id_iff hmem, resolve_id_iff hwell hmem, ?_, ?_⟩
  · intro defect
    exact Registry.selected_eq_error_iff.trans (Selector.validate_id_eq_error_iff hwell hmem)
  · intro fault
    exact resolve_id_eq_error_iff hwell hmem

/-- A check of the catalog under another identity. -/
def renamed (id : String) : Check := { Catalog.codeFlare with id := id }

/-- The identity of this check does not match itself as a pattern, but it is read as one. -/
theorem own_identity_found_bracketed :
    ∃ found, resolve ⟨[renamed "components", renamed "train[v2]"], false⟩ ["train[v2]"] none =
      .ok found ∧ renamed "train[v2]" ∈ found := by
  have hreachable : Registry.Reachable ⟨[renamed "components", renamed "train[v2]"], false⟩ :=
    Registry.reachable_of_ofChecks
      (show Registry.ofChecks [renamed "components", renamed "train[v2]"] = .ok _ from rfl)
  have hmem : renamed "train[v2]" ∈ [renamed "components", renamed "train[v2]"] := by simp
  have hnone : Category.ofGroup? "train[v2]" = none := by decide
  have hkeeps : (renamed "train[v2]").KeepsName := by
    intro category hgroup
    cases hnone.symm.trans hgroup
  exact (own_identity_found_iff hreachable hmem).2.1.2 ⟨⟨_, rfl⟩, hkeeps⟩

/-- One of these components has an identity that is no pattern, and the other one is called like the
services. -/
theorem own_identity_missed :
    ∃ r : Registry, r.Reachable ∧
      (∃ check ∈ r.checks,
        r.selected check.id none = .error ⟨check.id, .malformed .unterminatedClass⟩ ∧
        resolve r [check.id] none =
          .error (.invalidPattern ⟨check.id, .malformed .unterminatedClass⟩)) ∧
      ∃ check ∈ r.checks,
        (∃ found, r.selected check.id none = .ok found ∧ check ∉ found) ∧
        ∃ found, resolve r [check.id] none = .ok found ∧ check ∉ found := by
  have hreachable : Registry.Reachable ⟨[renamed "[", renamed "services"], false⟩ :=
    Registry.reachable_of_ofChecks
      (show Registry.ofChecks [renamed "[", renamed "services"] = .ok _ from rfl)
  have hmem : renamed "services" ∈ [renamed "[", renamed "services"] := by simp
  have hforeign : ¬(renamed "services").Findable := by
    rintro ⟨-, hkeeps⟩
    exact absurd (hkeeps .service rfl) (by decide)
  have hvalid : Selector.validate "services" = .ok () := rfl
  refine ⟨⟨[renamed "[", renamed "services"], false⟩, hreachable, ?_, ?_⟩
  · exact ⟨renamed "[", by simp, rfl, rfl⟩
  refine ⟨renamed "services", hmem, ?_, ?_⟩
  · obtain ⟨found, hfound⟩ := Registry.selected_isOk _ none hvalid
    refine ⟨found, hfound, fun hin => hforeign ?_⟩
    exact (hreachable.wellFormed.selected_id_iff hmem).1 ⟨found, hfound, hin⟩
  · obtain ⟨found, hfound⟩ :=
      resolve_isOk _ none (show Selector.validateAll ["services"] = .ok () from rfl)
    refine ⟨found, hfound, fun hin => hforeign ?_⟩
    exact (resolve_id_iff hreachable.wellFormed hmem).1 ⟨found, hfound, hin⟩

end Run

end Preflight
