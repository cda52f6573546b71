import Preflight.Document.Basic

/-!
# Entries of mappings

A text key is found where an entry has it, and only the value of its own key changes when a key is
overwritten.
-/

namespace Preflight

namespace Document

/-! ## Text keys -/

variable {entries : List (Document × Document)} {key other : String} {value : Document}

theorem isText_iff {d : Document} : d.isText key ↔ d = .text key := by
  cases d <;> simp [isText]

theorem sameKey_text (present : Document) (key : String) :
    sameKey present (.text key) = present.isText key := by
  apply Bool.eq_iff_iff.2
  cases present <;> simp [sameKey, isText, integer?]

theorem field?_cons (present value : Document) (rest : List (Document × Document)) (key : String) :
    field? ((present, value) :: rest) key =
      if present.isText key then some value else field? rest key := by
  cases present <;> simp [field?, isText]

theorem field?_insertEntry_self (entries : List (Document × Document)) (key : String)
    (value : Document) : field? (insertEntry entries (.text key) value) key = some value := by
  induction entries with
  | nil => exact if_pos rfl
  | cons entry rest ih =>
    obtain ⟨present, old⟩ := entry
    rw [insertEntry, sameKey_text]
    by_cases hsame : present.isText key
    · rw [if_pos hsame, field?_cons, if_pos hsame]
    · rw [if_neg hsame, field?_cons, if_neg hsame, ih]

theorem field?_insertEntry_of_ne (hother : other ≠ key) :
    field? (insertEntry entries (.text key) value) other = field? entries other := by
  have hdiffers : ¬(Document.text key).isText other := by simpa [isText] using hother.symm
  induction entries with
  | nil => rw [insertEntry, field?_cons, if_neg hdiffers]
  | cons entry rest ih =>
    obtain ⟨present, old⟩ := entry
    rw [insertEntry, sameKey_text, field?_cons]
    by_cases hsame : present.isText key
    · rw [if_pos hsame, field?_cons, isText_iff.1 hsame, if_neg hdiffers, if_neg hdiffers]
    · rw [if_neg hsame, field?_cons, ih]

theorem key_of_mem_insertEntry {entry : Document × Document}
    (hmem : entry ∈ insertEntry entries (.text key) value) :
    entry.1 = .text key ∨ ∃ before ∈ entries, entry.1 = before.1 := by
  induction entries with
  | nil =>
    rw [insertEntry, List.mem_singleton] at hmem
    exact .inl (congrArg Prod.fst hmem)
  | cons first rest ih =>
    obtain ⟨present, old⟩ := first
    rw [insertEntry] at hmem
    split at hmem
    · rcases List.mem_cons.1 hmem with rfl | hrest
      · exact .inr ⟨_, List.mem_cons_self, rfl⟩
      · exact .inr ⟨entry, List.mem_cons_of_mem _ hrest, rfl⟩
    · rcases List.mem_cons.1 hmem with rfl | hrest
      · exact .inr ⟨_, List.mem_cons_self, rfl⟩
      · apply (ih hrest).imp id
        rintro ⟨before, hbefore, hkey⟩
        exact ⟨before, List.mem_cons_of_mem _ hbefore, hkey⟩

/-! ## Overwriting -/

/-- What a key is overwritten with, if it is. -/
abbrev Overwrite := String × Option Document

def overwriteOne (entries : List (Document × Document)) (row : Overwrite) :
    List (Document × Document) :=
  row.2.elim entries (insertEntry entries (.text row.1))

/-- Overwrites one key after the other. -/
def overwrite (entries : List (Document × Document)) (rows : List Overwrite) :
    List (Document × Document) :=
  rows.foldl overwriteOne entries

theorem field?_overwriteOne_self (entries : List (Document × Document)) (key : String)
    (found : Option Document) :
    field? (overwriteOne entries (key, found)) key = found.or (field? entries key) := by
  cases found with
  | none => rfl
  | some d => exact field?_insertEntry_self entries key d

theorem field?_overwriteOne_of_ne {row : Overwrite} (hother : other ≠ row.1) :
    field? (overwriteOne entries row) other = field? entries other := by
  obtain ⟨key, found⟩ := row
  cases found with
  | none => rfl
  | some d => exact field?_insertEntry_of_ne hother

theorem field?_overwrite_of_notMem {rows : List Overwrite} (hother : other ∉ rows.map Prod.fst) :
    field? (overwrite entries rows) other = field? entries other := by
  induction rows generalizing entries with
  | nil => rfl
  | cons row rest ih =>
    obtain ⟨hrow, hrest⟩ := not_or.1 (mt List.mem_cons.2 hother)
    calc field? (overwrite (overwriteOne entries row) rest) other
        = field? (overwriteOne entries row) other := ih hrest
      _ = field? entries other := field?_overwriteOne_of_ne hrow

/-- Where the keys differ, each has the value that it is overwritten with, or its old one. -/
theorem field?_overwrite {rows : List Overwrite} (hdistinct : (rows.map Prod.fst).Nodup)
    {found : Option Document} (hmem : (key, found) ∈ rows) :
    field? (overwrite entries rows) key = found.or (field? entries key) := by
  induction rows generalizing entries with
  | nil => exact absurd hmem List.not_mem_nil
  | cons row rest ih =>
    obtain ⟨hrow, hrest⟩ := List.nodup_cons.1 hdistinct
    rcases List.mem_cons.1 hmem with rfl | hmem
    · calc field? (overwrite (overwriteOne entries (key, found)) rest) key
          = field? (overwriteOne entries (key, found)) key := field?_overwrite_of_notMem hrow
        _ = found.or (field? entries key) := field?_overwriteOne_self entries key found
    · have hother : key ≠ row.1 := by
        rintro rfl
        exact hrow (List.mem_map.2 ⟨_, hmem, rfl⟩)
      calc field? (overwrite (overwriteOne entries row) rest) key
          = found.or (field? (overwriteOne entries row) key) := ih hrest hmem
        _ = found.or (field? entries key) := by rw [field?_overwriteOne_of_ne hother]

end Document

end Preflight
