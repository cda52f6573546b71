import Mathlib.Data.List.Forall2

/-!
# Rows of related items

Two rows correspond when their items are related one by one.  What is told of each pair carries over
to what is filtered out of the rows, counted in them or found among their members.
-/

namespace Preflight.Rows

variable {α β γ : Type} {relates : α → β → Prop} {left : List α} {right : List β}

/-- Each member of the first row has its counterpart in the second. -/
theorem exists_mem_of_mem (hrow : List.Forall₂ relates left right) :
    ∀ a ∈ left, ∃ b ∈ right, relates a b := by
  induction hrow with
  | nil => exact List.forall_mem_nil _
  | cons hfirst hrest ih =>
    refine List.forall_mem_cons.2 ⟨⟨_, List.mem_cons_self, hfirst⟩, fun a hmem => ?_⟩
    obtain ⟨b, hb, hrelated⟩ := ih a hmem
    exact ⟨b, List.mem_cons_of_mem _ hb, hrelated⟩

/-- Two rows that correspond have members that correspond. -/
theorem exists_mem_iff (hrow : List.Forall₂ relates left right) {p : α → Prop} {q : β → Prop}
    (hiff : ∀ a b, relates a b → (p a ↔ q b)) : (∃ a ∈ left, p a) ↔ ∃ b ∈ right, q b := by
  induction hrow with
  | nil => simp
  | cons hfirst hrest ih => simp [hiff _ _ hfirst, ih]

/-- Two rows of which the members correspond have as many members of corresponding kinds. -/
theorem countP_eq (hrow : List.Forall₂ relates left right) {p : α → Bool} {q : β → Bool}
    (heq : ∀ a b, relates a b → p a = q b) : left.countP p = right.countP q := by
  induction hrow with
  | nil => rfl
  | cons hfirst hrest ih => rw [List.countP_cons, List.countP_cons, ih, heq _ _ hfirst]

/-- Items that all have one key are kept by a filter on that key, and dropped by one on another. -/
theorem filter_of_forall_key {key : α → String} {items : List α} {own : String}
    (hown : ∀ item ∈ items, key item = own) (id : String) :
    items.filter (key · == id) = if own = id then items else [] := by
  split
  · rename_i hsame
    apply List.filter_eq_self.2
    intro item hmem
    rw [hown item hmem, hsame, beq_self_eq_true]
  · rename_i hother
    apply List.filter_eq_nil_iff.2
    intro item hmem
    rw [hown item hmem, beq_iff_eq]
    exact hother

/-- Rows of which the items are turned into the same values. -/
theorem filterMap_eq (hrow : List.Forall₂ relates left right) {view : α → Option γ}
    {other : β → Option γ} (hview : ∀ a b, relates a b → view a = other b) :
    left.filterMap view = right.filterMap other := by
  induction hrow with
  | nil => rfl
  | cons hfirst hrest ih => rw [List.filterMap_cons, List.filterMap_cons, hview _ _ hfirst, ih]

/-- Rows of which an item of the first is turned into nothing, or both into the same. -/
theorem filterMap_sublist (hrow : List.Forall₂ relates left right) {view : α → Option γ}
    {other : β → Option γ} (hview : ∀ a b, relates a b → view a = none ∨ view a = other b) :
    (left.filterMap view).Sublist (right.filterMap other) := by
  induction hrow with
  | nil => exact List.Sublist.slnil
  | @cons a b rest others hfirst hrest ih =>
    rw [List.filterMap_cons, List.filterMap_cons]
    rcases hview a b hfirst with hnone | hsame
    · rw [hnone]
      cases other b with
      | none => exact ih
      | some value => exact ih.cons value
    · rw [hsame]
      cases other b with
      | none => exact ih
      | some value => exact ih.cons_cons value

/-- Rows that correspond do so with the numbers of their places. -/
theorem forall₂_zipIdx (hrow : List.Forall₂ relates left right) (start : Nat) :
    List.Forall₂ (fun a b => relates a.1 b.1 ∧ a.2 = b.2) (left.zipIdx start)
      (right.zipIdx start) := by
  induction hrow generalizing start with
  | nil => exact .nil
  | cons hfirst hrest ih => exact .cons ⟨hfirst, rfl⟩ (ih (start + 1))

end Preflight.Rows
