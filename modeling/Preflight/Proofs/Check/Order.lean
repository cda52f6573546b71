import Preflight.Check.Basic

/-!
# The orders of checks

Queries answer in the order of identities, and runs deal with checks in display order: by category,
and within a category by identity.  Checks that have identities of their own come in strictly
increasing order.
-/

namespace Preflight.Check

/-- Before by category, and within a category by identity. -/
def ComesBefore (a b : Check) : Prop :=
  a.category.rank < b.category.rank ∨ a.category.rank = b.category.rank ∧ a.id < b.id

theorem idLe_iff (a b : Check) : idLe a b ↔ a.id ≤ b.id := by
  rw [idLe, Bool.not_eq_true', decide_eq_false_iff_not]
  exact String.not_lt

theorem idLe_trans (a b c : Check) (hab : idLe a b) (hbc : idLe b c) : idLe a c := by
  rw [idLe_iff] at hab hbc ⊢
  exact String.le_trans hab hbc

theorem idLe_total (a b : Check) : idLe a b || idLe b a := by
  rw [Bool.or_eq_true, idLe_iff, idLe_iff]
  exact String.le_total a.id b.id

/-- Sorted checks with identities of their own are in strictly increasing order. -/
theorem pairwise_sortById {checks : List Check} (hnodup : (checks.map (·.id)).Nodup) :
    (sortById checks).Pairwise fun a b => a.id < b.id := by
  have hsorted : (sortById checks).Pairwise fun a b => idLe a b :=
    List.pairwise_mergeSort idLe_trans idLe_total checks
  have hperm : ((sortById checks).map (·.id)).Perm (checks.map (·.id)) :=
    (List.mergeSort_perm checks idLe).map (·.id)
  refine hsorted.imp₂ (fun a b hle hne => ?_) (List.pairwise_map.1 (hperm.nodup_iff.2 hnodup))
  apply String.not_le.1
  intro hback
  exact hne (String.le_antisymm ((idLe_iff a b).1 hle) hback)

/-- Checks with identities of their own are sorted alike, in whatever order they come. -/
theorem sortById_eq_of_perm {checks others : List Check} (hperm : checks.Perm others)
    (hnodup : (checks.map (·.id)).Nodup) : sortById checks = sortById others := by
  have hothers : (others.map (·.id)).Nodup := (hperm.map (·.id)).nodup_iff.1 hnodup
  have hsorted : (sortById checks).Perm (sortById others) :=
    (List.mergeSort_perm checks idLe).trans (hperm.trans (List.mergeSort_perm others idLe).symm)
  apply hsorted.eq_of_pairwise _ (pairwise_sortById hnodup) (pairwise_sortById hothers)
  intro a b _ _ hab hba
  exact absurd hba (String.lt_asymm hab)

theorem ComesBefore.asymm {a b : Check} (hab : a.ComesBefore b) : ¬b.ComesBefore a := by
  rintro (hrank | ⟨hrank, hid⟩)
  · rcases hab with hlt | ⟨heq, -⟩ <;> omega
  · rcases hab with hlt | ⟨-, hlt⟩
    · omega
    · exact String.lt_asymm hlt hid

theorem displayLe_iff (a b : Check) : displayLe a b ↔
    a.category.rank < b.category.rank ∨ a.category.rank = b.category.rank ∧ a.id ≤ b.id := by
  rw [displayLe, Bool.or_eq_true, Bool.and_eq_true, decide_eq_true_iff, beq_iff_eq, idLe_iff]

theorem displayLe_trans (a b c : Check) (hab : displayLe a b) (hbc : displayLe b c) :
    displayLe a c := by
  rw [displayLe_iff] at hab hbc ⊢
  rcases hab with hab | ⟨hab, hids⟩
  · exact .inl (by omega)
  rcases hbc with hbc | ⟨hbc, hmore⟩
  · exact .inl (by omega)
  · exact .inr ⟨hab.trans hbc, String.le_trans hids hmore⟩

theorem displayLe_total (a b : Check) : displayLe a b || displayLe b a := by
  rw [Bool.or_eq_true, displayLe_iff, displayLe_iff]
  rcases Nat.lt_trichotomy a.category.rank b.category.rank with hlt | heq | hgt
  · exact .inl (.inl hlt)
  · exact (String.le_total a.id b.id).imp (fun hle => .inr ⟨heq, hle⟩)
      fun hle => .inr ⟨heq.symm, hle⟩
  · exact .inr (.inl hgt)

/-- Sorted checks with identities of their own come one before the other. -/
theorem pairwise_sortForDisplay {checks : List Check}
    (hnodup : ((sortForDisplay checks).map (·.id)).Nodup) :
    (sortForDisplay checks).Pairwise ComesBefore := by
  have hsorted : (sortForDisplay checks).Pairwise fun a b => displayLe a b :=
    List.pairwise_mergeSort displayLe_trans displayLe_total checks
  refine hsorted.imp₂ (fun a b hle hne => ?_) (List.pairwise_map.1 hnodup)
  refine ((displayLe_iff a b).1 hle).imp_right fun ⟨heq, hids⟩ => ⟨heq, ?_⟩
  apply String.not_le.1
  intro hback
  exact hne (String.le_antisymm hids hback)

end Preflight.Check
