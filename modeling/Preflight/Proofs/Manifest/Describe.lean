import Preflight.Check.Basic
import Preflight.Proofs.Action

/-!
# Objects that can be described

Messages call an object by its kind, its namespace and its name.  The three are values of any kind,
so describing an object can fail: where the metadata is given but no mapping, and where one of the
three cannot be written out.
-/

namespace Preflight

def Document.Written (d : Document) : Prop := ∃ text, d.asText = .ok text

namespace Manifest

/-- The metadata can be looked into, and whatever names the object can be written out.  An absent
field counts as empty. -/
structure WellNamed (m : Manifest) : Prop where
  metadata : ∀ d, m.field? "metadata" = some d → d.isGiven → d.entries?.isSome
  kind : ∀ d, m.field? "kind" = some d → d.Written
  name : ∀ entries, m.metadata = .ok entries →
    ∀ d, Document.field? entries "name" = some d → d.Written
  namespaceName : ∀ entries, m.metadata = .ok entries →
    ∀ d, Document.field? entries "namespace" = some d → d.isGiven → d.Written

end Manifest

theorem Document.written_text (s : String) : (Document.text s).Written := ⟨s, rfl⟩

namespace Manifest

variable {m : Manifest}

theorem metadata_isOk_iff : (∃ entries, m.metadata = .ok entries) ↔
    ∀ d, m.field? "metadata" = some d → d.isGiven → d.entries?.isSome := by
  rw [metadata]
  cases m.field? "metadata" with
  | none => simp
  | some d =>
    cases hentries : d.entries? <;> cases hgiven : d.isGiven <;> simp [hentries, hgiven]

/-- An optional field is written out when it is absent or can be. -/
theorem written_getD_iff {field : Option Document} :
    (field.getD (.text "")).Written ↔ ∀ d, field = some d → d.Written := by
  cases field <;> simp [Document.written_text]

theorem metadataOr_eq {entries : List (Document × Document)} (hmetadata : m.metadata = .ok entries)
    (key : String) (fallback : Document) :
    m.metadataOr key fallback =
      .ok (((Document.field? entries key).filter Document.isGiven).getD fallback) := by
  rw [metadataOr, metadataField?]
  rw [hmetadata]
  cases hfield : Document.field? entries key with
  | none => simp [hfield, bind, Except.bind, pure, Except.pure]
  | some d =>
    cases hgiven : d.isGiven <;>
      simp [hfield, hgiven, bind, Except.bind, pure, Except.pure, Option.filter]

theorem name_isOk_iff {entries : List (Document × Document)}
    (hmetadata : m.metadata = .ok entries) :
    (∃ text, m.name = .ok text) ↔
      ∀ d, Document.field? entries "name" = some d → d.Written := by
  rw [← written_getD_iff]
  rw [name, metadataField?]
  rw [hmetadata]
  rfl

theorem namespaceName_isOk_iff {entries : List (Document × Document)}
    (hmetadata : m.metadata = .ok entries) :
    (∃ text, m.namespaceName = .ok text) ↔
      ∀ d, Document.field? entries "namespace" = some d → d.isGiven → d.Written := by
  have hfield : (∀ d, Document.field? entries "namespace" = some d → d.isGiven → d.Written) ↔
      ∀ d, (Document.field? entries "namespace").filter Document.isGiven = some d → d.Written := by
    simp only [Option.filter_eq_some_iff, and_imp]
  rw [hfield, ← written_getD_iff]
  rw [namespaceName]
  rw [metadataOr_eq hmetadata]
  rfl

theorem describe_isOk_iff : (∃ text, m.describe = .ok text) ↔ m.WellNamed := by
  have hkind : (∃ kind, m.fieldText "kind" = .ok kind) ↔
      ∀ d, m.field? "kind" = some d → d.Written := written_getD_iff
  constructor
  · rintro ⟨text, hdescribe⟩
    obtain ⟨kind, hkindText, hrest⟩ := Fault.bind_eq_ok_iff.1 hdescribe
    obtain ⟨key, hkey, -⟩ := Fault.bind_eq_ok_iff.1 hrest
    obtain ⟨scope, hscope, hrest⟩ := Fault.bind_eq_ok_iff.1 hkey
    obtain ⟨name, hname, -⟩ := Fault.bind_eq_ok_iff.1 hrest
    obtain ⟨found, hfound, -⟩ := Fault.bind_eq_ok_iff.1 hname
    obtain ⟨entries, hmetadata, -⟩ := Fault.bind_eq_ok_iff.1 hfound
    refine ⟨metadata_isOk_iff.1 ⟨entries, hmetadata⟩, hkind.1 ⟨kind, hkindText⟩, ?_, ?_⟩
    · intro others hothers
      exact (name_isOk_iff hothers).1 ⟨name, hname⟩
    · intro others hothers
      exact (namespaceName_isOk_iff hothers).1 ⟨scope, hscope⟩
  · intro hwell
    obtain ⟨entries, hmetadata⟩ := metadata_isOk_iff.2 hwell.metadata
    obtain ⟨kind, hkindText⟩ := hkind.2 hwell.kind
    obtain ⟨name, hname⟩ := (name_isOk_iff hmetadata).2 (hwell.name entries hmetadata)
    obtain ⟨scope, hscope⟩ :=
      (namespaceName_isOk_iff hmetadata).2 (hwell.namespaceName entries hmetadata)
    have hkey : m.key = .ok (if scope = "" then name else s!"{scope}/{name}") :=
      Fault.bind_eq_ok_iff.2 ⟨scope, hscope, Fault.bind_eq_ok_iff.2 ⟨name, hname, rfl⟩⟩
    exact ⟨_, Fault.bind_eq_ok_iff.2 ⟨kind, hkindText, Fault.bind_eq_ok_iff.2 ⟨_, hkey, rfl⟩⟩⟩

end Manifest

namespace Target

/-- The target has a name that messages can use. -/
def Describable (target : Target) : Prop := ∃ place, target.describe = .ok place

def place (target : Target) : Option String :=
  match target.describe with
  | .ok place => place
  | .error _ => none

theorem Describable.describe_eq {target : Target} (hdescribable : target.Describable) :
    target.describe = .ok target.place := by
  obtain ⟨place, hplace⟩ := hdescribable
  rw [Target.place, hplace]

/-- A target has a name unless it is bound to an object that is not well named. -/
theorem describable_iff {target : Target} :
    target.Describable ↔ ∀ m, target.resource = some m → m.WellNamed := by
  rw [Describable, describe]
  cases target.resource with
  | none => simp
  | some m =>
    simp only [Option.some.injEq, forall_eq', ← Manifest.describe_isOk_iff, Fault.map_eq_ok_iff]
    constructor
    · rintro ⟨place, text, htext, -⟩
      exact ⟨text, htext⟩
    · rintro ⟨text, htext⟩
      exact ⟨some text, text, htext, rfl⟩

end Target

end Preflight
