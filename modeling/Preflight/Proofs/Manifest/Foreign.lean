import Preflight.Manifest.Path
import Preflight.Proofs.Manifest.Unwritten

/-!
# Failures outside the program's own domain

Looking into an object can fail where its values are not what they should be.  Whatever is read of
an object, none of these failures is of the program's own domain, so none of them can be taken for
the refusal of a result, a selector or a configuration.
-/

namespace Preflight

open Fault (Within within_ok within_error)

/-- The failure is not one of the program's own domain. -/
def Fault.IsForeign (fault : Fault) : Prop := fault.isDomainFault = false

namespace Document

theorem foreign_asText (d : Document) : Within Fault.IsForeign d.asText := by
  intro fault hfailed
  obtain ⟨-, rfl⟩ := asText_eq_error_iff.1 hfailed
  rfl

theorem foreign_members (d : Document) : Within Fault.IsForeign d.members := by
  rw [members]
  split
  · exact within_ok _
  · exact within_error rfl

theorem foreign_addPair (entries : List (Document × Document)) (index : Nat) (item : Document) :
    Within Fault.IsForeign (addPair entries index item) := by
  rw [addPair.eq_def]
  split
  · exact within_error rfl
  · split
    · exact within_ok _
    · exact within_error rfl
  · exact within_error rfl

theorem foreign_addPairs (entries : List (Document × Document)) (index : Nat)
    (items : List Document) : Within Fault.IsForeign (addPairs entries index items) := by
  induction items generalizing entries index with
  | nil => exact within_ok entries
  | cons item rest ih =>
    rw [addPairs]
    cases hitem : addPair entries index item with
    | error fault => exact within_error (foreign_addPair entries index item fault hitem)
    | ok longer => exact ih longer (index + 1)

theorem foreign_asEntries (d : Document) : Within Fault.IsForeign d.asEntries := by
  rw [asEntries]
  split
  · exact within_ok _
  · exact d.foreign_members.bind fun items => foreign_addPairs [] 0 items

theorem foreign_managementState (d : Document) (path : String) :
    Within Fault.IsForeign (d.managementState path) := by
  rw [managementState.eq_def]
  split
  · exact within_ok _
  · exact within_ok _
  · exact within_ok _
  · exact within_error rfl

end Document

namespace Manifest

variable (m : Manifest)

theorem foreign_metadata : Within Fault.IsForeign m.metadata := by
  intro fault hfailed
  obtain ⟨d, -, -, -, rfl⟩ := metadata_eq_error_iff.1 hfailed
  rfl

theorem foreign_fieldText (key : String) : Within Fault.IsForeign (m.fieldText key) :=
  Document.foreign_asText _

theorem foreign_name : Within Fault.IsForeign m.name := by
  have hfield : Within Fault.IsForeign (m.metadataField? "name") :=
    m.foreign_metadata.bind fun _ => within_ok _
  exact hfield.bind fun _ => Document.foreign_asText _

theorem foreign_metadataOr (key : String) (fallback : Document) :
    Within Fault.IsForeign (m.metadataOr key fallback) := by
  have hfield : Within Fault.IsForeign (m.metadataField? key) :=
    m.foreign_metadata.bind fun _ => within_ok _
  refine hfield.bind fun found => ?_
  cases found <;> exact within_ok _

theorem foreign_namespaceName : Within Fault.IsForeign m.namespaceName :=
  (m.foreign_metadataOr _ _).bind fun _ => Document.foreign_asText _

theorem foreign_annotations : Within Fault.IsForeign m.annotations :=
  (m.foreign_metadataOr _ _).bind fun d => d.foreign_asEntries

theorem foreign_finalizers : Within Fault.IsForeign m.finalizers :=
  (m.foreign_metadataOr _ _).bind fun d => d.foreign_members

theorem foreign_key : Within Fault.IsForeign m.key :=
  m.foreign_namespaceName.bind fun _ => m.foreign_name.bind fun _ => within_ok _

theorem foreign_describe : Within Fault.IsForeign m.describe :=
  (m.foreign_fieldText "kind").bind fun _ => m.foreign_key.bind fun _ => within_ok _

theorem foreign_reference : Within Fault.IsForeign m.reference :=
  (m.foreign_fieldText "kind").bind fun _ => m.foreign_name.bind fun _ =>
    m.foreign_namespaceName.bind fun _ => (m.foreign_fieldText "apiVersion").bind fun _ =>
      within_ok _

end Manifest

end Preflight
