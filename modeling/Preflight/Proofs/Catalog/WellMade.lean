import Preflight.Proofs.Catalog.Workload
import Preflight.Proofs.Check.Yields
import Preflight.Proofs.Report.Entry

/-!
# Results of the catalogue

The checks of the catalogue draft a result step by step and put one finding into it at the end.
Until then the draft has no condition, and whatever is noted in it, from values of any kind, is a
text under a proper key.  A finding that says what it is about and why completes the draft, so every
way through a check that does not fail ends with a result that is accepted and can be rendered.
-/

namespace Preflight

open Fault (Within within_ok within_error)

/-- The failure says that a result is not well-formed. -/
def Fault.IsValidation : Fault → Prop
  | .invalidResult _ => True
  | .reported .validation _ => True
  | _ => False

theorem Fault.IsForeign.not_isValidation {fault : Fault} (hforeign : fault.IsForeign) :
    ¬fault.IsValidation := by
  intro hvalidation
  rw [IsForeign] at hforeign
  unfold IsValidation at hvalidation
  split at hvalidation
  · cases hforeign
  · cases hforeign
  · exact hvalidation

namespace Catalog

/-! ## Drafts -/

/-- The annotation is a text under a proper key. -/
def Noted (pair : String × Document) : Prop :=
  Result.isAnnotationKey pair.1 = true ∧ ∃ s, pair.2 = .text s

/-- What a check has put into a result before it comes to its finding. -/
structure Drafted (category : Category) (r : Result) : Prop where
  group : r.group = category.group
  kind : r.kind ≠ ""
  name : r.name ≠ ""
  annotations : ∀ pair ∈ r.annotations, Noted pair
  conditions : r.conditions = []

/-- What a check hands back: a result under the group of its category with one finding and with
texts for annotations, which is accepted and can be rendered. -/
structure WellMade (category : Category) (r : Result) : Prop where
  accepted : r.validate = .ok ()
  single : ∃ c, r.conditions = [c]
  group : r.group = category.group
  texts : ∀ pair ∈ r.annotations, ∃ s, pair.2 = .text s
  rendered : ∃ entry, r.entry = .ok entry

theorem group_ne_empty (category : Category) : category.group ≠ "" := by
  cases category <;> decide

theorem drafted_newResult (category : Category) (description kind name : String)
    (hkind : kind ≠ "") (hname : name ≠ "") :
    Drafted category (Check.newResult category description kind name) :=
  ⟨rfl, hkind, hname, List.forall_mem_nil _, rfl⟩

namespace Drafted

variable {category : Category} {r : Result}

theorem annotate (hdrafted : Drafted category r) {key : String}
    (hkey : Result.isAnnotationKey key = true) (s : String) :
    Drafted category (r.annotate key (.text s)) where
  group := hdrafted.group
  kind := hdrafted.kind
  name := hdrafted.name
  annotations := by
    intro pair hpair
    obtain rfl | hpresent := Result.mem_of_mem_annotateIn hpair
    · exact ⟨hkey, s, rfl⟩
    · exact hdrafted.annotations pair hpresent
  conditions := hdrafted.conditions

theorem annotateVersion (hdrafted : Drafted category r) (target : Target) :
    Drafted category (annotateVersion target r) := by
  rw [Catalog.annotateVersion]
  split
  · exact hdrafted.annotate isAnnotationKey_version _
  · exact hdrafted

theorem annotateState (hdrafted : Drafted category r) (state : String) :
    Drafted category (annotateState state r) :=
  hdrafted.annotate (by decide +kernel) state

theorem addImpacted (hdrafted : Drafted category r) (o : ObjectReference) :
    Drafted category (r.addImpacted o) :=
  ⟨hdrafted.group, hdrafted.kind, hdrafted.name, hdrafted.annotations, hdrafted.conditions⟩

/-- A draft is completed by one finding. -/
theorem wellMade (hdrafted : Drafted category r) {draft : Finding.Draft}
    (hcomplete : draft.Complete) (time : Timestamp) :
    WellMade category (r.setCondition (draft.at time)) := by
  have hsingle : (r.setCondition (draft.at time)).conditions = [draft.at time] := by
    rw [Result.setCondition, hdrafted.conditions]
    rfl
  have hwell : (r.setCondition (draft.at time)).WellFormed := by
    constructor
    case group => exact hdrafted.group ▸ group_ne_empty category
    case kind => exact hdrafted.kind
    case name => exact hdrafted.name
    case keys => exact fun pair hpair => (hdrafted.annotations pair hpair).1
    case nonempty =>
      rw [hsingle]
      exact List.cons_ne_nil _ _
    case conditions =>
      rw [hsingle]
      exact List.forall_mem_singleton.2 (hcomplete.wellFormed_at time)
  refine ⟨Result.validate_eq_ok_iff.2 hwell, ⟨_, hsingle⟩, hdrafted.group,
    fun pair hpair => (hdrafted.annotations pair hpair).2, hwell.entry_isOk_iff.2 ?_⟩
  intro pair hpair
  obtain ⟨-, s, hs⟩ := hdrafted.annotations pair hpair
  exact ⟨s, by rw [hs]; rfl⟩

end Drafted

/-! ## Looking at a snapshot -/

open Preflight.Action

theorem yields_listServed (s : Snapshot) (t : ResourceType) :
    ((Reader.ofSnapshot s).listServed t).Yields Fault.IsForeign fun _ => True := by
  intro clock
  rw [Reader.runAt_listServed]
  trivial

/-- Of several objects the first one is named before it is used. -/
def Nameable (found : List Manifest) : Prop :=
  ∀ first second rest, found = first :: second :: rest → ∃ name, first.name = .ok name

theorem not_nameable_iff {found : List Manifest} : ¬Nameable found ↔
    ∃ first second rest fault, found = first :: second :: rest ∧ first.name = .error fault := by
  constructor
  · intro hunnameable
    simp only [Nameable, not_forall] at hunnameable
    obtain ⟨first, second, rest, hfound, hunnamed⟩ := hunnameable
    cases hname : first.name with
    | ok name => exact absurd ⟨name, hname⟩ hunnamed
    | error fault => exact ⟨first, second, rest, fault, hfound, hname⟩
  · rintro ⟨first, second, rest, fault, hfound, hname⟩ hnameable
    obtain ⟨name, hnamed⟩ := hnameable first second rest hfound
    rw [hname] at hnamed
    cases hnamed

variable {s : Snapshot} {t : ResourceType}

theorem runAt_singleton? (hnameable : Nameable (s.instances t)) (clock : Clock) :
    (singleton? (.ofSnapshot s) t).runAt clock = (.ok (s.instances t).head?, clock) := by
  rw [singleton?, runAt_tryCatch, runAt_bind, Reader.runAt_singleton]
  match hfound : s.instances t with
  | [] => rfl
  | [m] => rfl
  | first :: second :: rest =>
    obtain ⟨name, hname⟩ := hnameable first second rest hfound
    dsimp only
    rw [hname]
    rfl

theorem runAt_singleton?_of_unnamed {first second : Manifest} {rest : List Manifest}
    {fault : Fault} (hfound : s.instances t = first :: second :: rest)
    (hname : first.name = .error fault) (clock : Clock) :
    (singleton? (.ofSnapshot s) t).runAt clock = (.error fault, clock) := by
  have hforeign := first.foreign_name fault hname
  rw [singleton?, runAt_tryCatch, runAt_bind, Reader.runAt_singleton_of_unnamed hfound hname]
  -- Only that there is no object is answered, and a name fails for another reason.
  cases fault with
  | notFound text name scope => cases hforeign
  | _ => rfl

theorem yields_singleton? (s : Snapshot) (t : ResourceType) :
    (singleton? (.ofSnapshot s) t).Yields Fault.IsForeign fun _ => True := by
  intro clock
  by_cases hnameable : Nameable (s.instances t)
  · rw [runAt_singleton? hnameable]
    trivial
  · obtain ⟨first, second, rest, fault, hfound, hname⟩ := not_nameable_iff.1 hnameable
    rw [runAt_singleton?_of_unnamed hfound hname]
    exact first.foreign_name fault hname

/-! ## The checks -/

/-- What comes back is a well-made result. -/
def Returns (category : Category) (returned : Returned) : Prop :=
  ∃ r, returned = .result r ∧ WellMade category r

/-- On every snapshot the check hands back a well-made result, unless it fails outside the program's
own domain. -/
def Finishes (category : Category) (check : Check) : Prop :=
  check.category = .known category ∧
    ∀ (s : Snapshot) (context : Context) (target : Target), target.reader = .ofSnapshot s →
      (check.validate context target).Yields Fault.IsForeign (Returns category)

theorem yields_report {category : Category} {r : Result} {draft : Finding.Draft}
    (hdrafted : Drafted category r) (hcomplete : draft.Complete) :
    (do return .result (← report r draft) : Action Returned).Yields Fault.IsForeign
      (Returns category) := by
  have hreport : (report r draft).Yields Fault.IsForeign (WellMade category) :=
    yields_stamp.bind fun time _ => yields_pure (hdrafted.wellMade hcomplete time)
  exact hreport.bind fun found hfound => yields_pure ⟨found, rfl, hfound⟩

theorem yields_judgeBlock {category : Category} {r : Result} {unconfigured : Finding.Draft}
    {finding : String → Finding.Draft} (hdrafted : Drafted category r)
    (hunconfigured : unconfigured.Complete) (hfinding : ∀ state, (finding state).Complete)
    (target : Target) (m : Manifest) (path : String) :
    (judgeBlock r target m path unconfigured finding).Yields Fault.IsForeign
      (Returns category) := by
  refine (yields_ofExcept (m.document.foreign_managementState path)).bind fun state _ => ?_
  cases state with
  | none => exact yields_report hdrafted hunconfigured
  | some state =>
    exact yields_report ((hdrafted.annotateState state).annotateVersion target) (hfinding state)

theorem complete_kueueFinding (state : String) : (kueueFinding state).Complete := by
  rw [kueueFinding]
  split
  · exact Finding.complete_incompatible _ _
  · exact Finding.complete_compatible _

theorem complete_serviceMeshFinding (state : String) : (serviceMeshFinding state).Complete := by
  rw [serviceMeshFinding]
  split
  · exact Finding.complete_incompatible _ _
  · exact Finding.complete_compatible _

theorem complete_codeFlareFinding (state : Option String) :
    (codeFlareFinding state).Complete := by
  rw [codeFlareFinding]
  split
  · exact Finding.complete_incompatible _ _
  · exact Finding.complete_configured (by decide) _

theorem complete_certManagerFinding (version : Option String) :
    (certManagerFinding version).Complete := by
  cases version with
  | none => exact Finding.complete_unavailable _
  | some version => exact Finding.complete_available _

theorem finishes_kueue : Finishes .component kueue := by
  refine ⟨rfl, fun s context target hreader => ?_⟩
  have hdrafted := drafted_newResult .component kueueDescription "kueue" "managed-removal"
    (by decide) (by decide)
  simp only [kueue, hreader]
  refine (yields_singleton? s _).bind fun found _ => ?_
  cases found with
  | none => exact yields_report hdrafted (Finding.complete_unavailable _)
  | some m =>
    exact yields_judgeBlock hdrafted (Finding.complete_misconfigured (by decide) _ _)
      complete_kueueFinding target m _

theorem finishes_serviceMesh : Finishes .service serviceMesh := by
  refine ⟨rfl, fun s context target hreader => ?_⟩
  have hdrafted := drafted_newResult .service serviceMeshDescription "servicemesh" "removal"
    (by decide) (by decide)
  simp only [serviceMesh, hreader]
  refine (yields_singleton? s _).bind fun found _ => ?_
  cases found with
  | none => exact yields_report hdrafted (Finding.complete_unavailable _)
  | some m =>
    exact yields_judgeBlock hdrafted (Finding.complete_misconfigured (by decide) _ _)
      complete_serviceMeshFinding target m _

theorem finishes_codeFlare : Finishes .component codeFlare := by
  refine ⟨rfl, fun s context target hreader => ?_⟩
  have hdrafted := drafted_newResult .component codeFlareDescription "codeflare" "removal"
    (by decide) (by decide)
  simp only [codeFlare, hreader]
  refine (yields_singleton? s _).bind fun found _ => ?_
  cases found with
  | none => exact yields_report hdrafted (Finding.complete_unavailable _)
  | some m =>
    have hstate := m.document.foreign_managementState "spec.components.codeflare"
    refine (yields_ofExcept hstate).bind fun state _ => ?_
    have hversion := hdrafted.annotateVersion target
    refine yields_report ?_ (complete_codeFlareFinding state)
    cases state with
    | none => exact hversion
    | some state => exact hversion.annotateState state

theorem foreign_packageOf (subscription : Manifest) :
    Within Fault.IsForeign (packageOf subscription) := by
  rw [packageOf]
  split
  · split
    · exact within_ok _
    · exact subscription.foreign_name.map _
  · exact subscription.foreign_name.map _

theorem foreign_givenText (d : Option Document) : Within Fault.IsForeign (givenText d) := by
  rw [givenText.eq_def]
  split
  · split
    · exact Document.foreign_asText _
    · exact within_ok _
  · exact within_ok _

theorem foreign_installedVersion? (packages : List String) (subscriptions : List Manifest) :
    Within Fault.IsForeign (installedVersion? packages subscriptions) := by
  induction subscriptions with
  | nil => exact within_ok none
  | cons subscription rest ih =>
    rw [installedVersion?]
    refine (foreign_packageOf subscription).bind fun package => ?_
    split
    · exact (foreign_givenText _).bind fun _ => within_ok _
    · exact ih

theorem finishes_certManager : Finishes .dependency certManager := by
  refine ⟨rfl, fun s context target hreader => ?_⟩
  have hdrafted := drafted_newResult .dependency certManagerDescription "certmanager" "installed"
    (by decide) (by decide)
  simp only [certManager, hreader]
  refine (yields_listServed s _).bind fun subscriptions _ => ?_
  refine (yields_ofExcept (foreign_installedVersion? _ subscriptions)).bind fun version _ => ?_
  exact yields_report hdrafted (complete_certManagerFinding version)

theorem finishes_rayFinalizer : Finishes .workload rayFinalizer := by
  refine ⟨rfl, fun s context target hreader => ?_⟩
  have hdrafted := (drafted_newResult .workload rayFinalizerDescription "ray" "codeflare-finalizer"
    (by decide) (by decide)).annotateVersion target
  simp only [rayFinalizer]
  refine (yields_ofExcept (Manifest.foreign_key _)).bind fun key _ => ?_
  refine (yields_ofExcept (Manifest.foreign_finalizers _)).bind fun finalizers _ => ?_
  split
  · refine (yields_ofExcept (Manifest.foreign_reference _)).bind fun reference _ => ?_
    exact yields_report ((hdrafted.annotate isAnnotationKey_impacted "1").addImpacted reference)
      (complete_rayFinding key true)
  · exact yields_report (hdrafted.annotate isAnnotationKey_impacted "0")
      (complete_rayFinding key false)

theorem foreign_profileNames (scope : Document) (profiles : List Manifest) :
    Within Fault.IsForeign (profileNames scope profiles) := by
  induction profiles with
  | nil => exact within_ok []
  | cons profile rest ih =>
    have hnext (isHere : Bool) : Within Fault.IsForeign
        (if isHere = true then return (← profile.name) :: (← profileNames scope rest)
          else profileNames scope rest) := by
      split
      · exact profile.foreign_name.bind fun _ => ih.bind fun _ => within_ok _
      · exact ih
    rw [profileNames]
    split
    · exact (profile.foreign_namespaceName.map _).bind hnext
    · exact hnext true

theorem finishes_notebookProfile : Finishes .workload notebookProfile := by
  refine ⟨rfl, fun s context target hreader => ?_⟩
  have hdrafted := drafted_newResult .workload notebookDescription "notebook" "accelerator-profile"
    (by decide) (by decide)
  simp only [notebookProfile, hreader]
  refine (yields_ofExcept (Manifest.foreign_key _)).bind fun key _ => ?_
  refine (yields_ofExcept (Manifest.foreign_annotations _)).bind fun annotations _ => ?_
  split
  · refine (yields_ofExcept (Manifest.foreign_reference _)).bind fun reference _ => ?_
    refine context.yields_raiseIfExpired.bind fun _ _ => ?_
    refine (yields_listServed s _).bind fun profiles _ => ?_
    refine (yields_ofExcept (foreign_profileNames _ profiles)).bind fun names _ => ?_
    refine (yields_ofExcept (Document.foreign_asText _)).bind fun shown _ => ?_
    exact yields_report (hdrafted.addImpacted reference) (complete_profileFinding key shown _)
  · exact yields_report hdrafted (complete_unusedProfileFinding key)

theorem finishes_of_mem {check : Check} (hmem : check ∈ checks) :
    ∃ category, Finishes category check := by
  simp only [checks, List.mem_cons, List.not_mem_nil, or_false] at hmem
  rcases hmem with rfl | rfl | rfl | rfl | rfl | rfl
  · exact ⟨_, finishes_kueue⟩
  · exact ⟨_, finishes_codeFlare⟩
  · exact ⟨_, finishes_serviceMesh⟩
  · exact ⟨_, finishes_certManager⟩
  · exact ⟨_, finishes_rayFinalizer⟩
  · exact ⟨_, finishes_notebookProfile⟩

end Catalog

end Preflight
