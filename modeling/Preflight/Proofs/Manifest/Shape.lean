import Preflight.Proofs.Document.Entries
import Preflight.Proofs.Manifest.Describe
import Preflight.Proofs.Snapshot.Served

/-!
# Metadata of the usual shape

Annotations are texts by key and finalizers are a list, and each of them may be left out.  Where the
metadata is of this shape, nothing that a check reads of it fails, and what is read can be named
without the failures: the text of an annotation, and whether an object is held by a finalizer.
-/

namespace Preflight

namespace Manifest

/-- The metadata is a mapping if it is given, its annotations are a mapping to texts, and its
finalizers are a list. -/
structure WellShaped (m : Manifest) : Prop where
  metadata : ∀ d, m.field? "metadata" = some d → d.isGiven → d.entries?.isSome
  annotations : ∀ entries, m.metadata = .ok entries →
    ∀ d, Document.field? entries "annotations" = some d → d.isGiven →
      ∃ given, d.entries? = some given ∧ ∀ entry ∈ given, ∃ value, entry.2 = .text value
  finalizers : ∀ entries, m.metadata = .ok entries →
    ∀ d, Document.field? entries "finalizers" = some d → d.isGiven → d.items?.isSome

/-- The text of an annotation, empty if there is none. -/
def annotationText (m : Manifest) (key : String) : String :=
  match m.annotations with
  | .ok given =>
    match Document.field? given key with
    | some (.text value) => value
    | _ => ""
  | .error _ => ""

/-- Whether the finalizer is among those of the object. -/
def isHeldBy (m : Manifest) (finalizer : String) : Bool :=
  match m.finalizers with
  | .ok found => found.any (·.isText finalizer)
  | .error _ => false

end Manifest

namespace Document

theorem mem_of_field? {entries : List (Document × Document)} {key : String} {d : Document}
    (hfield : field? entries key = some d) : (.text key, d) ∈ entries := by
  fun_induction field? entries key with
  | case1 => cases hfield
  | case2 value rest =>
    cases hfield
    exact List.mem_cons_self
  | case3 present value rest hother ih => exact List.mem_cons_of_mem _ (ih hfield)
  | case4 first rest hother ih => exact List.mem_cons_of_mem _ (ih hfield)

/-- The members of a list are its items. -/
theorem members_of_items? {d : Document} {items : List Document} (hitems : d.items? = some items) :
    d.members = .ok items := by
  have hopened : d.opened = .list items := by
    rw [items?] at hitems
    split at hitems
    · rename_i found hfound
      cases hitems
      exact hfound
    · cases hitems
  rw [members, members?, hopened]

end Document

namespace Manifest.WellShaped

variable {m : Manifest}

/-- A mapping whose annotations are texts and whose finalizers are a list, where it has any. -/
theorem of_map {entries : List (Document × Document)}
    (hmetadata : m.field? "metadata" = some (.map entries))
    (hannotations : ∀ d, Document.field? entries "annotations" = some d →
      ∃ given, d = .map given ∧ ∀ entry ∈ given, ∃ value, entry.2 = .text value)
    (hfinalizers : ∀ d, Document.field? entries "finalizers" = some d →
      ∃ items, d = .list items) : m.WellShaped := by
  have hread : m.metadata = .ok entries := by
    rw [Manifest.metadata, hmetadata]
    rfl
  constructor
  · intro d hd _
    cases hmetadata.symm.trans hd
    rfl
  · intro found hfound d hd _
    cases hread.symm.trans hfound
    obtain ⟨given, rfl, htexts⟩ := hannotations d hd
    exact ⟨given, rfl, htexts⟩
  · intro found hfound d hd _
    cases hread.symm.trans hfound
    obtain ⟨items, rfl⟩ := hfinalizers d hd
    rfl

theorem metadata_isOk (hshaped : m.WellShaped) : ∃ entries, m.metadata = .ok entries :=
  metadata_isOk_iff.2 hshaped.metadata

/-- The annotations can be read, and an annotation that is looked up is its text. -/
theorem annotations_isOk (hshaped : m.WellShaped) :
    ∃ given, m.annotations = .ok given ∧
      ∀ key, (Document.field? given key).getD (.text "") = .text (m.annotationText key) := by
  obtain ⟨entries, hmetadata⟩ := hshaped.metadata_isOk
  have hread : ∃ given, m.annotations = .ok given ∧
      ∀ entry ∈ given, ∃ value, entry.2 = .text value := by
    rw [Manifest.annotations, metadataOr_eq hmetadata]
    cases hfound : (Document.field? entries "annotations").filter Document.isGiven with
    | none => exact ⟨[], rfl, List.forall_mem_nil _⟩
    | some d =>
      obtain ⟨hfield, hgiven⟩ := Option.filter_eq_some_iff.1 hfound
      obtain ⟨given, hentries, htexts⟩ := hshaped.annotations entries hmetadata d hfield hgiven
      refine ⟨given, ?_, htexts⟩
      simp only [Option.getD_some, Document.asEntries, bind, Except.bind, hentries]
  obtain ⟨given, hgiven, htexts⟩ := hread
  refine ⟨given, hgiven, fun key => ?_⟩
  simp only [annotationText, hgiven]
  cases hfield : Document.field? given key with
  | none => rfl
  | some d =>
    obtain ⟨value, hvalue⟩ := htexts _ (Document.mem_of_field? hfield)
    cases hvalue
    rfl

theorem finalizers_isOk (hshaped : m.WellShaped) : ∃ found, m.finalizers = .ok found := by
  obtain ⟨entries, hmetadata⟩ := hshaped.metadata_isOk
  rw [Manifest.finalizers, metadataOr_eq hmetadata]
  cases hfound : (Document.field? entries "finalizers").filter Document.isGiven with
  | none => exact ⟨[], rfl⟩
  | some d =>
    obtain ⟨hfield, hgiven⟩ := Option.filter_eq_some_iff.1 hfound
    obtain ⟨found, hitems⟩ :=
      Option.isSome_iff_exists.1 (hshaped.finalizers entries hmetadata d hfield hgiven)
    exact ⟨found, Document.members_of_items? hitems⟩

end Manifest.WellShaped

namespace Manifest

variable {m : Manifest}

theorem isHeldBy_iff {finalizer : String} : m.isHeldBy finalizer = true ↔
    ∃ found, m.finalizers = .ok found ∧ .text finalizer ∈ found := by
  rw [isHeldBy]
  cases m.finalizers with
  | error fault => simp
  | ok found => simp [Document.isText_iff]

end Manifest

/-! ## Names of objects of a known type -/

namespace Manifest

variable {m : Manifest} {t : ResourceType}

theorem WellNamed.parts (hnamed : m.WellNamed) :
    ∃ scope name, m.namespaceName = .ok scope ∧ m.name = .ok name := by
  obtain ⟨entries, hmetadata⟩ := metadata_isOk_iff.2 hnamed.metadata
  obtain ⟨name, hname⟩ := (name_isOk_iff hmetadata).2 (hnamed.name entries hmetadata)
  obtain ⟨scope, hscope⟩ :=
    (namespaceName_isOk_iff hmetadata).2 (hnamed.namespaceName entries hmetadata)
  exact ⟨scope, name, hscope, hname⟩

theorem WellNamed.key_isOk (hnamed : m.WellNamed) : ∃ key, m.key = .ok key := by
  obtain ⟨scope, name, hscope, hname⟩ := hnamed.parts
  exact ⟨_, Fault.bind_eq_ok_iff.2 ⟨scope, hscope, Fault.bind_eq_ok_iff.2 ⟨name, hname, rfl⟩⟩⟩

/-- An object of a known type can be referred to. -/
theorem WellNamed.reference_isOk (hnamed : m.WellNamed) (hcovers : t.covers m = true) :
    ∃ reference, m.reference = .ok reference := by
  obtain ⟨hversion, hkind⟩ := ResourceType.covers_iff.1 hcovers
  obtain ⟨scope, name, hscope, hname⟩ := hnamed.parts
  exact ⟨⟨t.kind, name, scope, t.apiVersion⟩,
    Fault.bind_eq_ok_iff.2 ⟨_, fieldText_of_text hkind,
      Fault.bind_eq_ok_iff.2 ⟨_, hname, Fault.bind_eq_ok_iff.2 ⟨_, hscope,
        Fault.bind_eq_ok_iff.2 ⟨_, fieldText_of_text hversion, rfl⟩⟩⟩⟩⟩

/-- An object of a known type is well named if its name and its namespace can be written out. -/
theorem WellShaped.wellNamed (hshaped : m.WellShaped) (hcovers : t.covers m = true)
    (hname : ∃ name, m.name = .ok name) (hscope : ∃ scope, m.namespaceName = .ok scope) :
    m.WellNamed where
  metadata := hshaped.metadata
  kind d hkind := by
    rw [(ResourceType.covers_iff.1 hcovers).2] at hkind
    cases hkind
    exact Document.written_text t.kind
  name _ hmetadata := (name_isOk_iff hmetadata).1 hname
  namespaceName _ hmetadata := (namespaceName_isOk_iff hmetadata).1 hscope

end Manifest

end Preflight
