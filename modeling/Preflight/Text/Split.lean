/-!
# Splitting at a separator

A text splits into the pieces between the occurrences of one character.  There is always at least
one piece, and joining the pieces restores the text.
-/

namespace Preflight.Text

def split (separator : Char) : List Char → List (List Char)
  | [] => [[]]
  | c :: rest =>
    if c = separator then [] :: split separator rest
    else
      match split separator rest with
      | [] => [[c]]
      | piece :: pieces => (c :: piece) :: pieces

theorem split_ne_nil (separator : Char) (cs : List Char) : split separator cs ≠ [] := by
  cases cs with
  | nil => simp [split]
  | cons c rest =>
    unfold split
    split
    · simp
    · split <;> simp

/-- A separator ends a piece, so the pieces of two texts joined by it are those of both. -/
theorem split_append_cons (separator : Char) (left right : List Char) :
    split separator (left ++ separator :: right) =
      split separator left ++ split separator right := by
  induction left with
  | nil => simp [split]
  | cons c rest ih =>
    by_cases h : c = separator
    · simp [split, h, ih]
    · have hne := split_ne_nil separator rest
      cases hs : split separator rest with
      | nil => exact absurd hs hne
      | cons piece pieces => simp [split, h, ih, hs]

/-- Joining the pieces restores the text. -/
theorem intercalate_split (separator : Char) (cs : List Char) :
    [separator].intercalate (split separator cs) = cs := by
  induction cs with
  | nil => rfl
  | cons c rest ih =>
    have hne := split_ne_nil separator rest
    by_cases hc : c = separator
    · rw [split, if_pos hc, List.intercalate_cons_of_ne_nil hne, ih, hc]
      rfl
    rw [split, if_neg hc]
    cases hs : split separator rest with
    | nil => exact absurd hs hne
    | cons piece pieces =>
      rw [hs] at ih
      cases pieces with
      | nil => rw [← ih, List.intercalate_singleton, List.intercalate_singleton]
      | cons next later =>
        rw [List.intercalate_cons_cons] at ih
        rw [← ih, List.intercalate_cons_cons]
        rfl

theorem notMem_of_mem_split {separator : Char} {cs piece : List Char}
    (hmem : piece ∈ split separator cs) : separator ∉ piece := by
  induction cs generalizing piece with
  | nil => simp_all [split]
  | cons c rest ih =>
    rw [split] at hmem
    split at hmem
    · rcases List.mem_cons.1 hmem with rfl | hrest
      · exact List.not_mem_nil
      · exact ih hrest
    rename_i hc
    split at hmem
    · cases List.mem_singleton.1 hmem
      simpa using Ne.symm hc
    rename_i first pieces hs
    rw [hs] at ih
    rcases List.mem_cons.1 hmem with rfl | hrest
    · simpa [Ne.symm hc] using ih List.mem_cons_self
    · exact ih (List.mem_cons_of_mem _ hrest)

theorem split_of_notMem {separator : Char} {cs : List Char} (hplain : separator ∉ cs) :
    split separator cs = [cs] := by
  induction cs with
  | nil => rfl
  | cons c rest ih =>
    rw [List.mem_cons, not_or] at hplain
    rw [split, if_neg (Ne.symm hplain.1), ih hplain.2]

/-- Two pieces are what stands on either side of the only separator. -/
theorem split_eq_pair_iff {separator : Char} {cs left right : List Char} :
    split separator cs = [left, right] ↔
      cs = left ++ separator :: right ∧ separator ∉ left ∧ separator ∉ right := by
  constructor
  · intro hsplit
    have hjoined := intercalate_split separator cs
    have hpieces (piece : List Char) (hmem : piece ∈ split separator cs) : separator ∉ piece :=
      notMem_of_mem_split hmem
    rw [hsplit] at hjoined hpieces
    exact ⟨by simpa [List.intercalate] using hjoined.symm, hpieces left (by simp),
      hpieces right (by simp)⟩
  · rintro ⟨rfl, hleft, hright⟩
    rw [split_append_cons, split_of_notMem hleft, split_of_notMem hright]
    rfl

def splitText (separator : Char) (s : String) : List String :=
  (split separator s.toList).map String.ofList

/-- What stands before and after the last occurrence of the separator. -/
def splitLast? (separator : Char) : List Char → Option (List Char × List Char)
  | [] => none
  | c :: rest =>
    match splitLast? separator rest with
    | some (before, after) => some (c :: before, after)
    | none => if c = separator then some ([], rest) else none

theorem splitLast?_eq_none_iff {separator : Char} {cs : List Char} :
    splitLast? separator cs = none ↔ separator ∉ cs := by
  induction cs with
  | nil => simp [splitLast?]
  | cons c rest ih =>
    rw [splitLast?, List.mem_cons, not_or, ← ih]
    cases splitLast? separator rest with
    | none => simp [eq_comm]
    | some parts => simp

/-- The last separator is the one with no other behind it. -/
theorem splitLast?_append_cons {separator : Char} (before : List Char) {after : List Char}
    (hafter : separator ∉ after) :
    splitLast? separator (before ++ separator :: after) = some (before, after) := by
  induction before with
  | nil => simp [splitLast?, splitLast?_eq_none_iff.2 hafter]
  | cons c rest ih => simp [splitLast?, ih]

theorem eq_append_of_splitLast? {separator : Char} {cs before after : List Char}
    (hsplit : splitLast? separator cs = some (before, after)) :
    cs = before ++ separator :: after ∧ separator ∉ after := by
  induction cs generalizing before with
  | nil => cases hsplit
  | cons c rest ih =>
    rw [splitLast?] at hsplit
    cases hrest : splitLast? separator rest with
    | some parts =>
      rw [hrest] at hsplit
      cases hsplit
      obtain ⟨hjoined, hafter⟩ := ih hrest
      exact ⟨by rw [hjoined, List.cons_append], hafter⟩
    | none =>
      rw [hrest] at hsplit
      obtain ⟨hc, hparts⟩ := Option.ite_none_right_eq_some.1 hsplit
      cases hparts
      exact ⟨by rw [hc, List.nil_append], splitLast?_eq_none_iff.1 hrest⟩

end Preflight.Text
