import Preflight.Result.Basic

/-!
# Annotations that are set

Setting an annotation changes what stands under its key, in the place of the key if the key is there
already, and leaves the other annotations as they are.
-/

namespace Preflight.Result

/-- Setting an annotation puts it among those that there are. -/
theorem mem_of_mem_annotateIn {annotations : List (String × Document)} {key : String}
    {value : Document} {pair : String × Document}
    (hmem : pair ∈ annotateIn annotations key value) :
    pair = (key, value) ∨ pair ∈ annotations := by
  induction annotations with
  | nil => exact .inl (List.mem_singleton.1 hmem)
  | cons first rest ih =>
    obtain ⟨present, old⟩ := first
    rw [annotateIn] at hmem
    split at hmem
    · rename_i hpresent
      obtain rfl | hrest := List.mem_cons.1 hmem
      · exact .inl (by rw [hpresent])
      · exact .inr (List.mem_cons_of_mem _ hrest)
    · obtain rfl | hrest := List.mem_cons.1 hmem
      · exact .inr List.mem_cons_self
      · exact (ih hrest).imp_right (List.mem_cons_of_mem _)

theorem lookup_cons (annotations : List (String × Document)) (key other : String)
    (value : Document) : ((key, value) :: annotations).lookup other =
      if other = key then some value else annotations.lookup other := by
  rw [List.lookup_cons]
  by_cases hother : other = key
  · rw [if_pos hother, beq_iff_eq.2 hother]
  · rw [if_neg hother, beq_false_of_ne hother]

/-- Setting an annotation changes what is found under its key and nothing else. -/
theorem lookup_annotateIn (annotations : List (String × Document)) (key other : String)
    (value : Document) : (annotateIn annotations key value).lookup other =
      if other = key then some value else annotations.lookup other := by
  induction annotations with
  | nil => exact lookup_cons [] key other value
  | cons first rest ih =>
    obtain ⟨present, old⟩ := first
    rw [annotateIn, lookup_cons]
    by_cases hpresent : present = key
    · rw [if_pos hpresent, lookup_cons, hpresent]
      by_cases hother : other = key
      · rw [if_pos hother, if_pos hother]
      · rw [if_neg hother, if_neg hother, if_neg hother]
    · rw [if_neg hpresent, lookup_cons, ih]
      by_cases hfirst : other = present
      · have hother : other ≠ key := hfirst ▸ hpresent
        rw [if_pos hfirst, if_neg hother, if_pos hfirst]
      · rw [if_neg hfirst, if_neg hfirst]

end Preflight.Result
