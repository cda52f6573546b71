import Preflight.Proofs.Manifest.Describe

/-!
# Fields that cannot be read

Whatever is read of an object is written out as a text, and a value in which a whole number has too
many digits cannot be written out.  Metadata that is given but no mapping cannot be looked into.
These are the two ways in which reading a field fails.
-/

namespace Preflight

open Fault (Within within_ok within_error)

/-! ## Values that cannot be written out -/

namespace Document

variable {d : Document}

mutual

theorem shownWithin_within (around : List (Nat × String)) (d : Document) :
    Within (· = .tooManyDigits none) (shownWithin around d) := by
  have hint (n : Int) : Within (· = .tooManyDigits none) (shownInt n) := by
    rw [shownInt]
    split
    · exact within_ok _
    · exact within_error rfl
  cases d with
  | int n => exact hint n
  | list items =>
    rw [shownWithin]
    exact (shownItems_within around items).map _
  | set items =>
    rw [shownWithin]
    split
    · exact within_ok _
    · exact (shownItems_within around items).map _
  | pair first second =>
    rw [shownWithin]
    apply (shownWithin_within around first).bind
    intro shown
    exact (shownWithin_within around second).bind fun _ => within_ok _
  | map entries =>
    rw [shownWithin]
    exact (shownEntries_within around entries).map _
  | knot label body =>
    rw [shownWithin]
    split
    · exact within_ok _
    · exact shownWithin_within _ body
  | _ => exact within_ok _

theorem shownItems_within (around : List (Nat × String)) (items : List Document) :
    Within (· = .tooManyDigits none) (shownItems around items) := by
  cases items with
  | nil => exact within_ok []
  | cons item rest =>
    rw [shownItems]
    apply (shownWithin_within around item).bind
    intro shown
    exact (shownItems_within around rest).bind fun _ => within_ok _

theorem shownEntries_within (around : List (Nat × String)) (entries : List (Document × Document)) :
    Within (· = .tooManyDigits none) (shownEntries around entries) := by
  match entries with
  | [] => exact within_ok []
  | (key, value) :: rest =>
    rw [shownEntries]
    apply (shownWithin_within around key).bind
    intro shownKey
    apply (shownWithin_within around value).bind
    intro shownValue
    exact (shownEntries_within around rest).bind fun _ => within_ok _

end

/-- The failure of writing out a value in which a whole number has too many digits. -/
def unwritable : Fault := .value (.tooManyDigits none)

theorem asText_eq_error_iff {fault : Fault} :
    d.asText = .error fault ↔ ¬d.Written ∧ fault = unwritable := by
  have hplain : Within (· = .tooManyDigits none) d.plain := by
    cases d with
    | text s => exact within_ok s
    | date day => exact within_ok day.iso
    | moment t => exact within_ok (t.iso " ")
    | _ => exact shownWithin_within [] _
  rw [Written, asText]
  cases hshown : d.plain with
  | ok text => simp [Except.mapError]
  | error defect =>
    cases hplain defect hshown
    simp [Except.mapError, unwritable, eq_comm]

/-- A whole number with more digits than can be written out. -/
theorem not_written_of_le {n : Nat} (hlong : Nat.pow 10 Text.mostDigits ≤ n) :
    ¬(int n).Written := by
  rintro ⟨text, htext⟩
  have hshown : shownInt n = .error (.tooManyDigits none) := by
    rw [shownInt, Int.natAbs_natCast]
    exact if_neg (Nat.not_lt.2 hlong)
  have hplain : (int n).plain = shownInt n := by
    simp only [plain, shown, shownWithin]
  rw [asText, hplain, hshown] at htext
  cases htext

end Document

/-! ## Fields of an object -/

namespace Manifest

variable {m : Manifest} {fault : Fault}

theorem fieldText_eq_error_iff {key : String} :
    m.fieldText key = .error fault ↔
      (∃ d, m.field? key = some d ∧ ¬d.Written) ∧ fault = Document.unwritable := by
  rw [fieldText, Document.asText_eq_error_iff, written_getD_iff]
  push Not
  rfl

theorem metadata_eq_error_iff :
    m.metadata = .error fault ↔
      ∃ d, m.field? "metadata" = some d ∧ d.isGiven ∧ d.entries? = none ∧
        fault = .noField d.qualifiedKindName "get" := by
  rw [metadata]
  cases m.field? "metadata" with
  | none => simp
  | some d =>
    cases hentries : d.entries? <;> cases hgiven : d.isGiven <;>
      simp [hentries, hgiven, @eq_comm _ fault]

theorem namespaceName_eq_error_iff :
    m.namespaceName = .error fault ↔ m.metadata = .error fault ∨
      ∃ entries, m.metadata = .ok entries ∧
        (∃ d, Document.field? entries "namespace" = some d ∧ d.isGiven ∧ ¬d.Written) ∧
        fault = Document.unwritable := by
  cases hmetadata : m.metadata with
  | error found =>
    have hnamespace : m.namespaceName = .error found := by
      rw [namespaceName, metadataOr, metadataField?, hmetadata]
      rfl
    simp [hnamespace]
  | ok entries =>
    have hnamespace : m.namespaceName = (((Document.field? entries "namespace").filter
        Document.isGiven).getD (.text "")).asText := by
      rw [namespaceName, metadataOr_eq hmetadata]
      rfl
    rw [hnamespace, Document.asText_eq_error_iff, written_getD_iff]
    simp only [Option.filter_eq_some_iff]
    push Not
    simp only [reduceCtorEq, false_or, Except.ok.injEq, exists_eq_left', and_assoc]

theorem name_eq_error_iff :
    m.name = .error fault ↔ m.metadata = .error fault ∨
      ∃ entries, m.metadata = .ok entries ∧
        (∃ d, Document.field? entries "name" = some d ∧ ¬d.Written) ∧
        fault = Document.unwritable := by
  cases hmetadata : m.metadata with
  | error found =>
    have hname : m.name = .error found := by
      rw [name, metadataField?, hmetadata]
      rfl
    simp [hname]
  | ok entries =>
    have hname : m.name = ((Document.field? entries "name").getD (.text "")).asText := by
      rw [name, metadataField?, hmetadata]
      rfl
    rw [hname, Document.asText_eq_error_iff, written_getD_iff]
    push Not
    simp only [reduceCtorEq, false_or, Except.ok.injEq, exists_eq_left']

/-- Where the metadata can be looked into, the only trouble with what names an object is writing it
out. -/
theorem eq_unwritable
    (hmetadata : ∀ d, m.field? "metadata" = some d → d.isGiven → d.entries?.isSome)
    (hfailed : m.name = .error fault ∨ m.namespaceName = .error fault) :
    fault = Document.unwritable := by
  obtain ⟨entries, hentries⟩ := metadata_isOk_iff.2 hmetadata
  have hreadable : m.metadata ≠ .error fault := by simp [hentries]
  rw [name_eq_error_iff, namespaceName_eq_error_iff] at hfailed
  obtain (hmissing | ⟨-, -, -, hfault⟩) | (hmissing | ⟨-, -, -, hfault⟩) := hfailed
  · exact absurd hmissing hreadable
  · exact hfault
  · exact absurd hmissing hreadable
  · exact hfault

end Manifest

end Preflight
