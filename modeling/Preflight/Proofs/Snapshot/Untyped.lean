import Preflight.Proofs.Manifest.Unwritten
import Preflight.Snapshot.Basic

/-!
# Objects whose type cannot be told

The type of an object is inferred from its version, its kind and its namespace.  A version or a kind
that cannot be written out, metadata that cannot be looked into and a namespace that cannot be
written out keep the type from being told, and nothing else does.
-/

namespace Preflight

namespace Manifest

variable {m : Manifest} {fault : Fault}

/-- Why the type of an object cannot be told. -/
inductive Untyped (m : Manifest) : Fault → Prop where
  | stated {key : String} {d : Document} (hkey : key = "apiVersion" ∨ key = "kind")
      (hfield : m.field? key = some d) (hunwritten : ¬d.Written) : Untyped m Document.unwritable
  | metadata {d : Document} (hversion : ∀ d, m.field? "apiVersion" = some d → d.Written)
      (hkind : ∀ d, m.field? "kind" = some d → d.Written) (hfield : m.field? "metadata" = some d)
      (hgiven : d.isGiven) (hentries : d.entries? = none) :
      Untyped m (.noField d.qualifiedKindName "get")
  | scope {entries : List (Document × Document)} {d : Document}
      (hmetadata : m.metadata = .ok entries)
      (hfield : Document.field? entries "namespace" = some d) (hgiven : d.isGiven)
      (hunwritten : ¬d.Written) : Untyped m Document.unwritable

theorem Untyped.not_isConfigDefect (huntyped : m.Untyped fault) : ¬fault.IsConfigDefect := by
  rintro ⟨defect, rfl⟩
  cases huntyped

end Manifest

namespace Snapshot

variable {m : Manifest} {fault : Fault}

/-! ## Inferring a type -/

/-- The version is asked for first, then the kind, and then the namespace. -/
theorem of?_inferType (m : Manifest) :
    Fault.of? (inferType m) = (Fault.of? (m.fieldText "apiVersion")).or
      ((Fault.of? (m.fieldText "kind")).or (Fault.of? m.namespaceName)) := by
  apply Fault.of?_bind
  intro stated
  apply Fault.of?_bind
  intro kind
  cases m.namespaceName <;> rfl

theorem inferType_eq_error_iff : inferType m = .error fault ↔ m.Untyped fault := by
  rw [← Fault.of?_eq_some_iff, of?_inferType, Option.or_eq_some_iff, Option.or_eq_some_iff]
  simp only [Fault.of?_eq_some_iff, Fault.of?_eq_none_iff]
  constructor
  · rintro (hversion | ⟨hversion, hkind | ⟨hkind, hscope⟩⟩)
    · obtain ⟨⟨d, hfield, hunwritten⟩, rfl⟩ := Manifest.fieldText_eq_error_iff.1 hversion
      exact .stated (.inl rfl) hfield hunwritten
    · obtain ⟨⟨d, hfield, hunwritten⟩, rfl⟩ := Manifest.fieldText_eq_error_iff.1 hkind
      exact .stated (.inr rfl) hfield hunwritten
    rcases Manifest.namespaceName_eq_error_iff.1 hscope with
      hmetadata | ⟨entries, hmetadata, ⟨d, hfield, hgiven, hunwritten⟩, rfl⟩
    · obtain ⟨d, hfield, hgiven, hentries, rfl⟩ := Manifest.metadata_eq_error_iff.1 hmetadata
      exact .metadata (Manifest.written_getD_iff.1 hversion) (Manifest.written_getD_iff.1 hkind)
        hfield hgiven hentries
    · exact .scope hmetadata hfield hgiven hunwritten
  · -- Whatever cannot be written out fails in the same way, so an earlier one does no harm.
    have hearlier {key : String} {later : Prop}
        (hlater : (∃ stated, m.fieldText key = .ok stated) → later) :
        m.fieldText key = .error Document.unwritable ∨
          (∃ stated, m.fieldText key = .ok stated) ∧ later := by
      cases hfield : m.fieldText key with
      | ok stated => exact .inr ⟨⟨stated, rfl⟩, hlater ⟨stated, hfield⟩⟩
      | error found => exact .inl (by rw [(Manifest.fieldText_eq_error_iff.1 hfield).2])
    intro huntyped
    cases huntyped with
    | stated hkey hfield hunwritten =>
      have hfailed := Manifest.fieldText_eq_error_iff.2 ⟨⟨_, hfield, hunwritten⟩, rfl⟩
      rcases hkey with rfl | rfl
      · exact .inl hfailed
      · exact hearlier fun _ => .inl hfailed
    | metadata hversion hkind hfield hgiven hentries =>
      have hfailed := Manifest.metadata_eq_error_iff.2 ⟨_, hfield, hgiven, hentries, rfl⟩
      exact .inr ⟨Manifest.written_getD_iff.2 hversion, .inr ⟨Manifest.written_getD_iff.2 hkind,
        Manifest.namespaceName_eq_error_iff.2 (.inl hfailed)⟩⟩
    | scope hmetadata hfield hgiven hunwritten =>
      have hfailed := Manifest.namespaceName_eq_error_iff.2
        (.inr ⟨_, hmetadata, ⟨_, hfield, hgiven, hunwritten⟩, rfl⟩)
      exact hearlier fun _ => hearlier fun _ => hfailed

end Snapshot

end Preflight
