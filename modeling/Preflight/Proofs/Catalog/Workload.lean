import Preflight.Catalog
import Preflight.Proofs.Check.Heeding
import Preflight.Proofs.Manifest.Shape
import Preflight.Proofs.Result.Annotation
import Preflight.Proofs.Result.WellFormed
import Preflight.Proofs.Snapshot.Reads

/-!
# What the checks of workloads find

Each check of workloads judges one instance, and its result says the same thing several times over:
by the severity, by the references, by an annotation or by the impact of the condition.  The lemmas
below say of one instance what all of them come to, in terms of the finalizers and annotations of
the instance and of the profiles that are there; the check does not fail on it, and its result is
accepted.
-/

namespace Preflight

open Preflight.Action

/-! ## Results with one finding -/

/-- The finding says what it is about and why. -/
structure Finding.Draft.Complete (draft : Finding.Draft) : Prop where
  type : draft.type ≠ ""
  reason : draft.reason ≠ ""

theorem Finding.Draft.Complete.wellFormed_at {draft : Finding.Draft} (hcomplete : draft.Complete)
    (time : Timestamp) : (draft.at time).WellFormed :=
  ⟨hcomplete.type, ⟨draft.status, rfl⟩, hcomplete.reason⟩

namespace Finding

theorem complete_compatible (message : String) : (compatible message).Complete :=
  ⟨(by decide : "Compatible" ≠ ""), (by decide : "VersionCompatible" ≠ "")⟩

theorem complete_incompatible (message : String) (impact : Option Impact) :
    (incompatible message impact).Complete :=
  ⟨(by decide : "Compatible" ≠ ""), (by decide : "VersionIncompatible" ≠ "")⟩

theorem complete_available (message : String) : (available message).Complete :=
  ⟨(by decide : "Available" ≠ ""), (by decide : "ResourceFound" ≠ "")⟩

theorem complete_unavailable (message : String) : (unavailable message).Complete :=
  ⟨(by decide : "Available" ≠ ""), (by decide : "ResourceNotFound" ≠ "")⟩

theorem complete_configured {reason : String} (hreason : reason ≠ "") (message : String) :
    (configured reason message).Complete :=
  ⟨(by decide : "Configured" ≠ ""), hreason⟩

theorem complete_misconfigured {reason : String} (hreason : reason ≠ "") (message : String)
    (impact : Option Impact) : (misconfigured reason message impact).Complete :=
  ⟨(by decide : "Configured" ≠ ""), hreason⟩

end Finding

/-- One finding is critical when it says that its requirement is violated. -/
theorem Severity.ofConditions_draft (draft : Finding.Draft) (time : Timestamp) :
    ofConditions [draft.at time] = some .critical ↔ draft.status = .violated := by
  cases hstatus : draft.status <;>
    simp [ofConditions, Finding.Draft.at, StatusLabel.spells, StatusLabel.spelled?, hstatus]

namespace Catalog

variable {m : Manifest} {context : Context} {target : Target} {clock : Clock} {s : Snapshot}

/-! ## Ray clusters -/

/-- What the result about a Ray cluster says: it is critical, refers to the cluster and counts it
when the cluster is held by the finalizer, and none of the three otherwise. -/
structure RayJudged (m : Manifest) (r : Result) : Prop where
  critical_iff : Severity.ofConditions r.conditions = some .critical ↔
    m.isHeldBy accessFinalizer = true
  impacted : ∃ reference, m.reference = .ok reference ∧
    r.impacted = if m.isHeldBy accessFinalizer then [reference] else []
  counted : r.annotations.lookup impactedKey = some (.text (toString r.impacted.length))

/-- The result about a Ray cluster with its finding and the references to it. -/
def rayResult (target : Target) (impacted : List ObjectReference) (draft : Finding.Draft)
    (time : Timestamp) : Result :=
  let r := annotateVersion target
    (Check.newResult .workload rayFinalizerDescription "ray" "codeflare-finalizer")
  { r.annotate impactedKey (.text (toString impacted.length)) with
    impacted := impacted
    conditions := [draft.at time] }

theorem isAnnotationKey_version : Result.isAnnotationKey versionKey = true := by
  decide +kernel

theorem isAnnotationKey_impacted : Result.isAnnotationKey impactedKey = true := by
  decide +kernel

/-- The count is annotated beside the version, if there is one. -/
theorem annotations_rayResult (target : Target) (impacted : List ObjectReference)
    (draft : Finding.Draft) (time : Timestamp) :
    (∀ pair ∈ (rayResult target impacted draft time).annotations,
      Result.isAnnotationKey pair.1 = true) ∧
      (rayResult target impacted draft time).annotations.lookup impactedKey =
        some (.text (toString impacted.length)) := by
  refine ⟨fun pair hpair => ?_, (Result.lookup_annotateIn _ _ _ _).trans (if_pos rfl)⟩
  obtain rfl | hversion := Result.mem_of_mem_annotateIn hpair
  · exact isAnnotationKey_impacted
  rw [annotateVersion] at hversion
  split at hversion
  · obtain rfl | hnone := Result.mem_of_mem_annotateIn hversion
    · exact isAnnotationKey_version
    · cases hnone
  · cases hversion

theorem wellFormed_rayResult (target : Target) (impacted : List ObjectReference)
    {draft : Finding.Draft} (hcomplete : draft.Complete) (time : Timestamp) :
    (rayResult target impacted draft time).WellFormed := by
  have hnames : (rayResult target impacted draft time).group = Category.workload.group ∧
      (rayResult target impacted draft time).kind = "ray" ∧
      (rayResult target impacted draft time).name = "codeflare-finalizer" := by
    rw [rayResult, annotateVersion]
    cases target.version <;> exact ⟨rfl, rfl, rfl⟩
  obtain ⟨hgroup, hkind, hname⟩ := hnames
  constructor
  · rw [hgroup]
    decide
  · rw [hkind]
    decide
  · rw [hname]
    decide
  · exact (annotations_rayResult target impacted draft time).1
  · exact List.cons_ne_nil _ _
  · exact List.forall_mem_singleton.2 (hcomplete.wellFormed_at time)

theorem complete_rayFinding (key : String) (isManaged : Bool) :
    (rayFinding key isManaged).Complete := by
  cases isManaged with
  | false => exact Finding.complete_compatible _
  | true => exact Finding.complete_incompatible _ _

/-- What the check makes of a cluster that it can read. -/
theorem runAt_rayFinalizer {key : String} {found : List Document} {reference : ObjectReference}
    (hresource : target.resource = some m) (hkey : m.key = .ok key)
    (hfound : m.finalizers = .ok found) (hreference : m.reference = .ok reference) :
    (rayFinalizer.validate context target).runAt clock =
      (.ok (.result (rayResult target (if m.isHeldBy accessFinalizer then [reference] else [])
        (rayFinding key (m.isHeldBy accessFinalizer)) clock.calendar.wholeSeconds)), clock) := by
  have hheld : m.isHeldBy accessFinalizer = found.any (·.isText accessFinalizer) := by
    rw [Manifest.isHeldBy, hfound]
  rw [hheld]
  simp only [rayFinalizer, hresource, Option.getD_some, runAt_bind, runAt_ofExcept, hkey, hfound]
  cases found.any (·.isText accessFinalizer) with
  | true =>
    have hone : toString [reference].length = "1" := by
      rw [List.length_singleton]
      rfl
    simp only [if_true, runAt_bind, runAt_ofExcept, hreference]
    rw [rayResult, annotateVersion, hone]
    cases target.version <;> rfl
  | false =>
    simp only [Bool.false_eq_true, if_false, runAt_bind]
    rw [rayResult, annotateVersion]
    cases target.version <;> rfl

/-- The check judges every Ray cluster that can be named. -/
theorem rayFinalizer_judges (hcovers : ResourceType.rayCluster.covers m = true)
    (hshaped : m.WellShaped) (hnamed : m.WellNamed) (hresource : target.resource = some m)
    (context : Context) (clock : Clock) :
    ∃ r, ((rayFinalizer.validate context target).runAt clock).1 = .ok (.result r) ∧
      r.WellFormed ∧ RayJudged m r := by
  obtain ⟨key, hkey⟩ := hnamed.key_isOk
  obtain ⟨reference, hreference⟩ := hnamed.reference_isOk hcovers
  obtain ⟨found, hfound⟩ := hshaped.finalizers_isOk
  rw [runAt_rayFinalizer hresource hkey hfound hreference]
  refine ⟨_, rfl, wellFormed_rayResult _ _ (complete_rayFinding _ _) _, ?_⟩
  constructor
  · rw [rayResult, Severity.ofConditions_draft]
    cases m.isHeldBy accessFinalizer <;> simp [rayFinding, Finding.compatible, Finding.incompatible]
  · exact ⟨reference, hreference, rfl⟩
  · exact (annotations_rayResult _ _ _ _).2

/-! ## Notebooks -/

/-- Among the profiles is the one that the notebook names, in the namespace that it names if it
names one. -/
def HasProfile (profiles : List Manifest) (m : Manifest) : Prop :=
  ∃ profile ∈ profiles, profile.name = .ok (m.annotationText profileNameKey) ∧
    (m.annotationText profileNamespaceKey = "" ∨
      profile.namespaceName = .ok (m.annotationText profileNamespaceKey))

/-- What the result about a notebook says: it is critical and refers to the notebook when the
notebook names a profile, and the impact of the finding is whether that profile is there. -/
structure NotebookJudged (profiles : List Manifest) (m : Manifest) (r : Result) : Prop where
  critical_iff : Severity.ofConditions r.conditions = some .critical ↔
    m.annotationText profileNameKey ≠ ""
  impacted : ∃ reference, m.reference = .ok reference ∧
    r.impacted = if m.annotationText profileNameKey = "" then [] else [reference]
  blocking_iff : (∃ c ∈ r.conditions, c.impact = some .blocking) ↔
    m.annotationText profileNameKey ≠ "" ∧ ¬HasProfile profiles m
  advisory_iff : (∃ c ∈ r.conditions, c.impact = some .advisory) ↔
    m.annotationText profileNameKey ≠ "" ∧ HasProfile profiles m

theorem profileNames_cons {scope place own : String} {profile : Manifest} {rest : List Manifest}
    {names : List String} (hplace : profile.namespaceName = .ok place)
    (hown : profile.name = .ok own) (hrest : profileNames (.text scope) rest = .ok names) :
    profileNames (.text scope) (profile :: rest) =
      .ok (if scope = "" ∨ place = scope then own :: names else names) := by
  rw [profileNames]
  by_cases hscope : scope = ""
  · subst hscope
    have hall : ("" : String) = "" ∨ place = "" := .inl rfl
    rw [hown, hrest, if_pos hall]
    rfl
  · have hgiven : (Document.text scope).isGiven = true := by simp [Document.isGiven, hscope]
    simp only [hgiven, hplace, hown, hrest, hscope, false_or, if_true]
    by_cases hin : scope = place <;>
      simp [bind, Except.bind, Except.map, pure, Except.pure, Document.isText, hin, eq_comm]

/-- The names of the profiles in a namespace are those that can be found there. -/
theorem profileNames_spec (scope : String) {profiles : List Manifest}
    (hnamed : ∀ profile ∈ profiles, profile.WellNamed) :
    ∃ names, profileNames (.text scope) profiles = .ok names ∧ ∀ name, name ∈ names ↔
      ∃ profile ∈ profiles, profile.name = .ok name ∧
        (scope = "" ∨ profile.namespaceName = .ok scope) := by
  induction profiles with
  | nil => exact ⟨[], rfl, by simp⟩
  | cons profile rest ih =>
    obtain ⟨hfirst, hrest⟩ := List.forall_mem_cons.1 hnamed
    obtain ⟨place, own, hplace, hown⟩ := hfirst.parts
    obtain ⟨names, hnames, hmem⟩ := ih hrest
    refine ⟨_, profileNames_cons hplace hown hnames, fun name => ?_⟩
    by_cases hin : scope = "" ∨ place = scope
    · simp [hmem, hown, hplace, hin, @eq_comm _ name own]
    · simp [hmem, hplace, hin]

theorem complete_unusedProfileFinding (key : String) : (unusedProfileFinding key).Complete :=
  Finding.complete_configured (by decide) _

theorem complete_profileFinding (key profile : String) (isPresent : Bool) :
    (profileFinding key profile isPresent).Complete := by
  cases isPresent with
  | false => exact Finding.complete_misconfigured (by decide) _ _
  | true => exact Finding.complete_misconfigured (by decide) _ _

/-- The result about a notebook with its finding. -/
def notebookResult (impacted : List ObjectReference) (draft : Finding.Draft) (time : Timestamp) :
    Result :=
  let r := Check.newResult .workload notebookDescription "notebook" "accelerator-profile"
  { r with impacted := impacted, conditions := [draft.at time] }

theorem wellFormed_notebookResult (impacted : List ObjectReference) {draft : Finding.Draft}
    (hcomplete : draft.Complete) (time : Timestamp) :
    (notebookResult impacted draft time).WellFormed where
  group := (by decide : Category.workload.group ≠ "")
  kind := (by decide : "notebook" ≠ "")
  name := (by decide : "accelerator-profile" ≠ "")
  keys := List.forall_mem_nil _
  nonempty := List.cons_ne_nil _ _
  conditions := List.forall_mem_singleton.2 (hcomplete.wellFormed_at time)

theorem runAt_notebookProfile_of_unused {key : String} (hresource : target.resource = some m)
    (hkey : m.key = .ok key) (hshaped : m.WellShaped)
    (hunused : m.annotationText profileNameKey = "") :
    (notebookProfile.validate context target).runAt clock =
      (.ok (.result (notebookResult [] (unusedProfileFinding key) clock.calendar.wholeSeconds)),
        clock) := by
  obtain ⟨given, hgiven, htexts⟩ := hshaped.annotations_isOk
  have hnone : ¬(Document.text "").isGiven := by decide
  simp only [notebookProfile, hresource, Option.getD_some, runAt_bind, runAt_ofExcept, hkey, hgiven,
    htexts, hunused, if_neg hnone]
  rfl

theorem runAt_notebookProfile_of_used {key : String} {names : List String}
    {reference : ObjectReference} (hresource : target.resource = some m)
    (hreader : target.reader = .ofSnapshot s) (hkey : m.key = .ok key) (hshaped : m.WellShaped)
    (hreference : m.reference = .ok reference) (hused : m.annotationText profileNameKey ≠ "")
    (hnames : profileNames (.text (m.annotationText profileNamespaceKey))
      (s.instances .acceleratorProfile) = .ok names) :
    (notebookProfile.validate .unlimited target).runAt clock =
      (.ok (.result (notebookResult [reference]
        (profileFinding key (m.annotationText profileNameKey)
          (names.any (Document.isText (.text (m.annotationText profileNameKey)))))
        clock.calendar.wholeSeconds)), clock) := by
  obtain ⟨given, hgiven, htexts⟩ := hshaped.annotations_isOk
  have hsome : (Document.text (m.annotationText profileNameKey)).isGiven := by
    simpa [Document.isGiven] using hused
  have hgoes : Context.unlimited.raiseIfExpired.runAt clock = (.ok (), clock) := rfl
  simp only [notebookProfile, hresource, hreader, Option.getD_some, runAt_bind, runAt_ofExcept,
    hkey, hgiven, htexts, hsome, if_true, hreference, hgoes, Reader.runAt_listServed, hnames]
  rfl

theorem notebookJudged_of_unused {reference : ObjectReference}
    (hreference : m.reference = .ok reference) (hunused : m.annotationText profileNameKey = "")
    (profiles : List Manifest) (key : String) (time : Timestamp) :
    NotebookJudged profiles m (notebookResult [] (unusedProfileFinding key) time) where
  critical_iff := by
    rw [notebookResult, Severity.ofConditions_draft]
    simp [unusedProfileFinding, Finding.configured, hunused]
  impacted := ⟨reference, hreference, (if_pos hunused).symm⟩
  blocking_iff := by
    simp [notebookResult, Finding.Draft.at, unusedProfileFinding, Finding.configured, hunused]
  advisory_iff := by
    simp [notebookResult, Finding.Draft.at, unusedProfileFinding, Finding.configured, hunused]

theorem notebookJudged_of_used {reference : ObjectReference} {profiles : List Manifest}
    {isPresent : Bool} (hreference : m.reference = .ok reference)
    (hused : m.annotationText profileNameKey ≠ "")
    (hpresent : isPresent = true ↔ HasProfile profiles m) (key profile : String)
    (time : Timestamp) :
    NotebookJudged profiles m
      (notebookResult [reference] (profileFinding key profile isPresent) time) where
  critical_iff := by
    rw [notebookResult, Severity.ofConditions_draft]
    cases isPresent <;> simp [profileFinding, Finding.misconfigured, hused]
  impacted := ⟨reference, hreference, (if_neg hused).symm⟩
  blocking_iff := by
    rw [← hpresent]
    cases isPresent <;>
      simp [notebookResult, Finding.Draft.at, profileFinding, Finding.misconfigured, hused]
  advisory_iff := by
    rw [← hpresent]
    cases isPresent <;>
      simp [notebookResult, Finding.Draft.at, profileFinding, Finding.misconfigured, hused]

/-- The check judges every notebook that can be named, among profiles that can be named. -/
theorem notebookProfile_judges (hcovers : ResourceType.notebook.covers m = true)
    (hshaped : m.WellShaped) (hnamed : m.WellNamed) (hresource : target.resource = some m)
    (hreader : target.reader = .ofSnapshot s)
    (hprofiles : ∀ profile ∈ s.instances .acceleratorProfile, profile.WellNamed) (clock : Clock) :
    ∃ r, ((notebookProfile.validate .unlimited target).runAt clock).1 = .ok (.result r) ∧
      r.WellFormed ∧ NotebookJudged (s.instances .acceleratorProfile) m r := by
  obtain ⟨key, hkey⟩ := hnamed.key_isOk
  obtain ⟨reference, hreference⟩ := hnamed.reference_isOk hcovers
  by_cases hunused : m.annotationText profileNameKey = ""
  · rw [runAt_notebookProfile_of_unused hresource hkey hshaped hunused]
    exact ⟨_, rfl, wellFormed_notebookResult [] (complete_unusedProfileFinding key) _,
      notebookJudged_of_unused hreference hunused _ key _⟩
  · obtain ⟨names, hnames, hmem⟩ :=
      profileNames_spec (m.annotationText profileNamespaceKey) hprofiles
    rw [runAt_notebookProfile_of_used hresource hreader hkey hshaped hreference hunused hnames]
    have hpresent : names.any (Document.isText (.text (m.annotationText profileNameKey))) = true ↔
        HasProfile (s.instances .acceleratorProfile) m := by
      rw [HasProfile, ← hmem, List.any_eq_true]
      simp [Document.isText]
    exact ⟨_, rfl, wellFormed_notebookResult _ (complete_profileFinding key _ _) _,
      notebookJudged_of_used hreference hunused hpresent key _ _⟩

end Catalog

end Preflight
