import Preflight.Catalog

/-!
# What checks ask of a reader

A check that judges a target may ask its reader for the objects of any type.  The checks of the
catalogue ask for those of six types and never look an object up by its name, so readers that list
the same objects of the six types get the same judgement out of them.
-/

namespace Preflight

namespace Reader

variable {types : List ResourceType} {first second : Reader} {t : ResourceType}

/-- The readers list the same objects of some types. -/
def AgreeOn (types : List ResourceType) (first second : Reader) : Prop :=
  ∀ t ∈ types, first.list t = second.list t

theorem AgreeOn.listServed_eq (hagree : first.AgreeOn types second) (ht : t ∈ types) :
    first.listServed t = second.listServed t := by
  rw [listServed, listServed, hagree t ht]

theorem AgreeOn.singleton_eq (hagree : first.AgreeOn types second) (ht : t ∈ types) :
    first.singleton t = second.singleton t := by
  rw [singleton, singleton, hagree.listServed_eq ht]

end Reader

namespace Target

/-- The target, looked at through another reader. -/
def through (reader : Reader) (target : Target) : Target := { target with reader := reader }

@[simp]
theorem reader_through (reader : Reader) (target : Target) :
    (target.through reader).reader = reader := rfl

@[simp]
theorem current_through (reader : Reader) (target : Target) :
    (target.through reader).current = target.current := rfl

@[simp]
theorem target_through (reader : Reader) (target : Target) :
    (target.through reader).target = target.target := rfl

@[simp]
theorem resource_through (reader : Reader) (target : Target) :
    (target.through reader).resource = target.resource := rfl

end Target

/-- All that a check asks of a reader is to list the objects of some types. -/
structure Check.Consults (types : List ResourceType) (check : Check) : Prop where
  resourceTypes : ∀ t ∈ check.resourceTypes, t ∈ types
  validate : ∀ (first second : Reader), first.AgreeOn types second →
    ∀ (context : Context) (target : Target),
      check.validate context (target.through first) = check.validate context (target.through second)

namespace Catalog

/-- The types that the checks of the catalogue ask for. -/
def consulted : List ResourceType :=
  [.dataScienceCluster, .dscInitialization, .subscription, .rayCluster, .notebook,
   .acceleratorProfile]

variable {types : List ResourceType} {first second : Reader} {t : ResourceType}

theorem singleton?_eq (hagree : first.AgreeOn types second) (ht : t ∈ types) :
    singleton? first t = singleton? second t := by
  rw [singleton?, singleton?, hagree.singleton_eq ht]

theorem consults_kueue : kueue.Consults consulted where
  resourceTypes := List.forall_mem_nil _
  validate first second hagree context target := by
    have hcluster := singleton?_eq hagree (t := .dataScienceCluster) (by decide)
    simp only [kueue, Target.reader_through, hcluster]
    rfl

theorem consults_codeFlare : codeFlare.Consults consulted where
  resourceTypes := List.forall_mem_nil _
  validate first second hagree context target := by
    have hcluster := singleton?_eq hagree (t := .dataScienceCluster) (by decide)
    simp only [codeFlare, Target.reader_through, hcluster]
    rfl

theorem consults_serviceMesh : serviceMesh.Consults consulted where
  resourceTypes := List.forall_mem_nil _
  validate first second hagree context target := by
    have hinitialization := singleton?_eq hagree (t := .dscInitialization) (by decide)
    simp only [serviceMesh, Target.reader_through, hinitialization]
    rfl

theorem consults_certManager : certManager.Consults consulted where
  resourceTypes := List.forall_mem_nil _
  validate first second hagree context target := by
    have hsubscriptions := hagree.listServed_eq (t := .subscription) (by decide)
    simp only [certManager, Target.reader_through, hsubscriptions]

theorem consults_rayFinalizer : rayFinalizer.Consults consulted where
  resourceTypes := by decide
  validate _ _ _ _ _ := rfl

theorem consults_notebookProfile : notebookProfile.Consults consulted where
  resourceTypes := by decide
  validate first second hagree context target := by
    have hprofiles := hagree.listServed_eq (t := .acceleratorProfile) (by decide)
    simp only [notebookProfile, Target.reader_through, Target.resource_through, hprofiles]

theorem consults_of_mem {check : Check} (hmem : check ∈ checks) : check.Consults consulted := by
  simp only [checks, List.mem_cons, List.not_mem_nil, or_false] at hmem
  rcases hmem with rfl | rfl | rfl | rfl | rfl | rfl
  · exact consults_kueue
  · exact consults_codeFlare
  · exact consults_serviceMesh
  · exact consults_certManager
  · exact consults_rayFinalizer
  · exact consults_notebookProfile

end Catalog

end Preflight
