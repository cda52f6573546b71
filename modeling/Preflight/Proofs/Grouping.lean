import Mathlib.Data.List.Basic

/-!
# Grouping by a key

A row of items is taken apart into one group for each of some keys, the items of a group in the order
in which they stand in the row.  As long as the keys differ, no item gets into two groups, and if
the keys are all that occur, none is left out.
-/

namespace Preflight.Grouping

variable {α κ : Type} [BEq κ] [LawfulBEq κ]

/-- Grouping by different keys neither drops nor repeats anything that has one of the keys. -/
theorem perm_flatMap_filter (key : α → κ) (items : List α) {keys : List κ}
    (hnodup : keys.Nodup) :
    (keys.flatMap fun k => items.filter (key · == k)).Perm
      (items.filter fun item => keys.contains (key item)) := by
  induction keys with
  | nil => simp
  | cons k rest ih =>
    obtain ⟨hfresh, hrest⟩ := List.nodup_cons.1 hnodup
    have hfirst : items.filter (key · == k) =
        (items.filter fun item => (k :: rest).contains (key item)).filter (key · == k) := by
      rw [List.filter_filter]
      apply List.filter_congr
      intro item _
      by_cases heq : key item = k <;> simp [heq]
    -- What has one of the other keys is what is left when the items of the first key are taken out.
    have hothers : items.filter (fun item => rest.contains (key item)) =
        (items.filter fun item => (k :: rest).contains (key item)).filter (!key · == k) := by
      rw [List.filter_filter]
      apply List.filter_congr
      intro item _
      by_cases heq : key item = k <;> simp [heq, hfresh]
    rw [List.flatMap_cons]
    apply ((ih hrest).append_left _).trans
    rw [hfirst, hothers]
    exact List.filter_append_perm _ _

/-- With a group for each key that occurs, grouping only rearranges the items. -/
theorem perm_flatMap_filter_of_mem (key : α → κ) {items : List α} {keys : List κ}
    (hnodup : keys.Nodup) (hkeys : ∀ item ∈ items, key item ∈ keys) :
    (keys.flatMap fun k => items.filter (key · == k)).Perm items := by
  have hgrouped := perm_flatMap_filter key items hnodup
  have hall : (items.filter fun item => keys.contains (key item)) = items :=
    List.filter_eq_self.2 fun item hmem => List.contains_iff_mem.2 (hkeys item hmem)
  rw [hall] at hgrouped
  exact hgrouped

end Preflight.Grouping
