import Preflight.Proofs.Catalog.WellMade
import Preflight.Proofs.Manifest.Path
import Preflight.Proofs.Run.History

/-!
# What the removal checks decide

Three checks look for what the next major release removes.  Each reads one state from the first
object of one type and decides about it.  They are one decision with different values, apart from
what they make of a state that is not given.

There is one way around the decision.  Where a type has several objects, the name of the first one
is written out before its state is read, and a name that cannot be written out is all that the check
reports.
-/

namespace Preflight

open Preflight.Action

namespace Catalog

variable {m : Manifest} {r : Result} {target : Target} {clock : Clock} {s : Snapshot}

/-! ## The annotation with the state -/

theorem lookup_annotateState (state : String) (r : Result) :
    (annotateState state r).annotations.lookup stateKey = some (.text state) :=
  (Result.lookup_annotateIn _ _ _ _).trans (if_pos rfl)

theorem lookup_annotateVersion (target : Target) (r : Result) :
    (annotateVersion target r).annotations.lookup stateKey = r.annotations.lookup stateKey := by
  have hother : stateKey ≠ versionKey := by decide
  rw [annotateVersion]
  split
  · exact (Result.lookup_annotateIn _ _ _ _).trans (if_neg hother)
  · rfl

theorem conditions_annotateVersion (target : Target) (r : Result) :
    (annotateVersion target r).conditions = r.conditions := by
  rw [annotateVersion]
  split <;> rfl

/-! ## The decision -/

/-- A check that decides about one state. -/
structure Removal where
  check : Check
  type : ResourceType
  /-- The block that the state belongs to. -/
  path : String
  /-- Whether a state that is not given passes. -/
  unsetPasses : Bool

def removals : List Removal :=
  [⟨kueue, .dataScienceCluster, "spec.components.kueue", false⟩,
    ⟨codeFlare, .dataScienceCluster, "spec.components.codeflare", true⟩,
    ⟨serviceMesh, .dscInitialization, "spec.serviceMesh", false⟩]

/-- The answer is a result with one condition, of which something holds.  It is annotated with the
state, if there is one. -/
def Finds (answer : Except Fault Returned) (holds : Condition → Prop) (state : Option String) :
    Prop :=
  ∃ r c, answer = .ok (.result r) ∧ r.conditions = [c] ∧ holds c ∧
    r.annotations.lookup stateKey = state.map Document.text

namespace Removal

/-- What stands in the place of the state. -/
def value? (removal : Removal) (m : Manifest) : Option Document :=
  m.document.lookup s!"{removal.path}.managementState"

/-- What a removal check answers, by the object that it finds and what stands in it in the place of
the state. -/
structure Decides (removal : Removal) (found : Option Manifest) (answer : Except Fault Returned) :
    Prop where
  absent : found = none →
    Finds answer (fun c => c.type = "Available" ∧ c.status = .known .violated) none
  refused : ∀ m value, found = some m → removal.value? m = some value → value ≠ .null →
    (∀ state, value ≠ .text state) →
    answer = .error (.value (.stateNotText removal.path value.kindName))
  isManaged : ∀ m, found = some m → removal.value? m = some (.text managed) →
    Finds answer (fun c => c.type = "Compatible" ∧ c.status = .known .violated ∧
      c.impact = some .blocking) (some managed)
  other : ∀ m state, found = some m → removal.value? m = some (.text state) → state ≠ "" →
    state ≠ managed → Finds answer (fun c => c.status = .known .met) (some state)
  isUnset : ∀ m, found = some m → Document.Unset (removal.value? m) →
    Finds answer (fun c => if removal.unsetPasses then c.status = .known .met
      else c.type = "Configured" ∧ c.status = .known .violated) none

end Removal

/-- Reporting one finding in an empty result is finding it. -/
theorem finds_report {draft : Finding.Draft} {holds : Condition → Prop} (state : Option String)
    (hempty : r.conditions = []) (hholds : ∀ time, holds (draft.at time))
    (hstate : r.annotations.lookup stateKey = state.map Document.text) (clock : Clock) :
    Finds ((do return .result (← report r draft) : Action Returned).runAt clock).1 holds state := by
  refine ⟨_, draft.at clock.calendar.wholeSeconds, rfl, ?_, hholds _, hstate⟩
  change Result.setConditionIn r.conditions _ = _
  rw [hempty]
  rfl

/-- Judging a block decides, where a state that is not given is a finding of its own. -/
theorem decides_judgeBlock {removal : Removal} {unconfigured : Finding.Draft}
    {finding : String → Finding.Draft} (hstrict : removal.unsetPasses = false)
    (hempty : r.conditions = []) (hclean : r.annotations.lookup stateKey = none)
    (hunconfigured : unconfigured.type = "Configured" ∧ unconfigured.status = .violated)
    (hmanaged : (finding managed).type = "Compatible" ∧ (finding managed).status = .violated ∧
      (finding managed).impact = some .blocking)
    (hother : ∀ state, state ≠ managed → (finding state).status = .met) (clock : Clock) :
    removal.Decides (some m)
      ((judgeBlock r target m removal.path unconfigured finding).runAt clock).1 := by
  have hnoted (state : String) :
      (annotateVersion target (annotateState state r)).annotations.lookup stateKey =
        some (.text state) :=
    (lookup_annotateVersion _ _).trans (lookup_annotateState _ _)
  have hblank (state : String) :
      (annotateVersion target (annotateState state r)).conditions = [] :=
    (conditions_annotateVersion _ _).trans hempty
  constructor
  case absent => rintro ⟨⟩
  case refused =>
    rintro _ value ⟨⟩ hvalue hnull htext
    rw [judgeBlock, runAt_bind, runAt_ofExcept,
      Document.managementState_eq_error_iff.2 ⟨value, hvalue, hnull, htext, rfl⟩]
  case isManaged =>
    rintro _ ⟨⟩ hvalue
    rw [judgeBlock, runAt_bind, runAt_ofExcept,
      Document.managementState_eq_some_iff.2 ⟨hvalue, by decide⟩]
    obtain ⟨htype, hstatus, himpact⟩ := hmanaged
    exact finds_report (some managed) (hblank _)
      (fun _ => ⟨htype, congrArg StatusLabel.known hstatus, himpact⟩) (hnoted _) clock
  case other =>
    rintro _ state ⟨⟩ hvalue hstate hnot
    rw [judgeBlock, runAt_bind, runAt_ofExcept,
      Document.managementState_eq_some_iff.2 ⟨hvalue, hstate⟩]
    exact finds_report (some state) (hblank _)
      (fun _ => congrArg StatusLabel.known (hother state hnot)) (hnoted _) clock
  case isUnset =>
    rintro _ ⟨⟩ hunset
    rw [judgeBlock, runAt_bind, runAt_ofExcept, Document.managementState_eq_none_iff.2 hunset,
      hstrict]
    obtain ⟨htype, hstatus⟩ := hunconfigured
    exact finds_report none hempty (fun _ => ⟨htype, congrArg StatusLabel.known hstatus⟩) hclean
      clock

/-- Without an object there is one finding, whatever the check. -/
theorem decides_none {removal : Removal} {message : String} (hempty : r.conditions = [])
    (hclean : r.annotations.lookup stateKey = none) (clock : Clock) :
    removal.Decides none ((do return .result (← report r (Finding.unavailable message)) :
      Action Returned).runAt clock).1 := by
  constructor
  case absent => exact fun _ => finds_report none hempty (fun _ => ⟨rfl, rfl⟩) hclean clock
  case refused => rintro _ _ ⟨⟩
  case isManaged => rintro _ ⟨⟩
  case other => rintro _ _ ⟨⟩
  case isUnset => rintro _ ⟨⟩

/-! ## The checks -/

/-- The decision depends on the object that is found alone, and so does the failure to find one. -/
def Removal.DecidesOnFound (removal : Removal) : Prop :=
  ∀ (context : Context) (target : Target) (clock : Clock),
    (∀ found, (singleton? target.reader removal.type).runAt clock = (.ok found, clock) →
      removal.Decides found ((removal.check.validate context target).runAt clock).1) ∧
    ∀ fault, (singleton? target.reader removal.type).runAt clock = (.error fault, clock) →
      ((removal.check.validate context target).runAt clock).1 = .error fault

/-- A check that reports where it finds no object, and judges the object that it finds. -/
theorem decidesOnFound_of_judge {removal : Removal} {judge : Target → Manifest → Action Returned}
    {message : String}
    (hvalidate : ∀ context target, removal.check.validate context target = do
      match ← singleton? target.reader removal.type with
      | none => return .result (← report r (Finding.unavailable message))
      | some m => judge target m)
    (hempty : r.conditions = []) (hclean : r.annotations.lookup stateKey = none)
    (hjudge : ∀ target m clock, removal.Decides (some m) ((judge target m).runAt clock).1) :
    removal.DecidesOnFound := by
  intro context target clock
  rw [hvalidate, runAt_bind]
  constructor
  · intro found hfound
    rw [hfound]
    cases found with
    | none => exact decides_none hempty hclean clock
    | some m => exact hjudge target m clock
  · intro fault hfault
    rw [hfault]

theorem decidesOnFound_kueue :
    Removal.DecidesOnFound ⟨kueue, .dataScienceCluster, "spec.components.kueue", false⟩ := by
  refine decidesOnFound_of_judge (fun _ _ => rfl) rfl rfl fun target m clock => ?_
  refine decides_judgeBlock rfl rfl rfl ⟨rfl, rfl⟩ ?_ (fun state hstate => ?_) clock
  · rw [kueueFinding, if_pos rfl]
    exact ⟨rfl, rfl, rfl⟩
  · rw [kueueFinding, if_neg hstate]
    rfl

theorem decidesOnFound_serviceMesh :
    Removal.DecidesOnFound ⟨serviceMesh, .dscInitialization, "spec.serviceMesh", false⟩ := by
  refine decidesOnFound_of_judge (fun _ _ => rfl) rfl rfl fun target m clock => ?_
  refine decides_judgeBlock rfl rfl rfl ⟨rfl, rfl⟩ ?_ (fun state hstate => ?_) clock
  · rw [serviceMeshFinding, if_pos rfl]
    exact ⟨rfl, rfl, rfl⟩
  · rw [serviceMeshFinding, if_neg hstate]
    rfl

theorem decidesOnFound_codeFlare :
    Removal.DecidesOnFound ⟨codeFlare, .dataScienceCluster, "spec.components.codeflare", true⟩ := by
  refine decidesOnFound_of_judge (fun _ _ => rfl) rfl rfl fun target m clock => ?_
  have hversion := conditions_annotateVersion target
    (Check.newResult .component codeFlareDescription "codeflare" "removal")
  have hnoted (state : String) : (annotateState state (annotateVersion target
      (Check.newResult .component codeFlareDescription "codeflare" "removal"))).conditions = [] :=
    hversion
  constructor
  case absent => rintro ⟨⟩
  case refused =>
    rintro _ value ⟨⟩ hvalue hnull htext
    rw [runAt_bind, runAt_ofExcept,
      Document.managementState_eq_error_iff.2 ⟨value, hvalue, hnull, htext, rfl⟩]
  case isManaged =>
    rintro _ ⟨⟩ hvalue
    rw [runAt_bind, runAt_ofExcept, Document.managementState_eq_some_iff.2 ⟨hvalue, by decide⟩]
    refine finds_report (some managed) (hnoted _) (fun _ => ?_) (lookup_annotateState _ _) clock
    rw [codeFlareFinding, if_pos rfl]
    exact ⟨rfl, rfl, rfl⟩
  case other =>
    rintro _ state ⟨⟩ hvalue hstate hnot
    rw [runAt_bind, runAt_ofExcept, Document.managementState_eq_some_iff.2 ⟨hvalue, hstate⟩]
    refine finds_report (some state) (hnoted _) (fun _ => ?_) (lookup_annotateState _ _) clock
    rw [codeFlareFinding, if_neg (by simpa using hnot)]
    rfl
  case isUnset =>
    rintro _ ⟨⟩ hunset
    rw [runAt_bind, runAt_ofExcept, Document.managementState_eq_none_iff.2 hunset]
    exact finds_report none hversion (fun _ => rfl) (lookup_annotateVersion _ _) clock

theorem decidesOnFound_of_mem {removal : Removal} (hmem : removal ∈ removals) :
    removal.DecidesOnFound := by
  simp only [removals, List.mem_cons, List.not_mem_nil, or_false] at hmem
  obtain rfl | rfl | rfl := hmem
  · exact decidesOnFound_kueue
  · exact decidesOnFound_codeFlare
  · exact decidesOnFound_serviceMesh

theorem wellKnown_of_mem_removals {removal : Removal} (hmem : removal ∈ removals) :
    removal.type ∈ ResourceType.wellKnown := by
  simp only [removals, List.mem_cons, List.not_mem_nil, or_false] at hmem
  obtain rfl | rfl | rfl := hmem <;> decide

/-- Every removal check decides about the first object of its type, as long as the name of that
object can be written out where it is not the only one; otherwise it fails for that.  The types are
well known, so a snapshot of objects offers all that they cover. -/
theorem removals_decide {removal : Removal} (hmem : removal ∈ removals)
    (hreader : target.reader = .ofSnapshot s)
    (hmetadata : ∀ m ∈ s.objects, removal.type.covers m = true →
      ∀ d, m.field? "metadata" = some d → d.isGiven → d.entries?.isSome)
    (context : Context) (clock : Clock) :
    (Nameable (s.instances removal.type) →
      removal.Decides (s.instances removal.type).head?
        ((removal.check.validate context target).runAt clock).1) ∧
    (¬Nameable (s.instances removal.type) →
      ((removal.check.validate context target).runAt clock).1 = .error Document.unwritable) ∧
    ∀ documents, Snapshot.ofDocuments documents none = .ok s →
      s.instances removal.type = s.objects.filter (removal.type.covers ·) := by
  obtain ⟨hdecides, hfails⟩ := decidesOnFound_of_mem hmem context target clock
  rw [hreader] at hdecides hfails
  refine ⟨fun hnameable => ?_, fun hunnameable => ?_, fun documents hread => ?_⟩
  · exact hdecides _ (runAt_singleton? hnameable clock)
  · obtain ⟨first, second, rest, fault, hfound, hname⟩ := not_nameable_iff.1 hunnameable
    have hfirst : first ∈ s.instances removal.type := by
      rw [hfound]
      exact List.mem_cons_self
    obtain ⟨hobject, hcovers⟩ := Snapshot.mem_of_mem_instances hfirst
    rw [← Manifest.eq_unwritable (hmetadata first hobject hcovers) (.inl hname)]
    exact hfails _ (runAt_singleton?_of_unnamed hfound hname clock)
  · exact Snapshot.instances_of_wellKnown hread (wellKnown_of_mem_removals hmem)

/-- A cluster object with a name and the state of one of its components. -/
def clusterWith (name : Document) (state : String) : Manifest :=
  ⟨[(.text "apiVersion", .text "datasciencecluster.opendatahub.io/v1"),
    (.text "kind", .text "DataScienceCluster"), (.text "metadata", .map [(.text "name", name)]),
    (.text "spec", .map [(.text "components",
      .map [(.text "kueue", .map [(.text "managementState", .text state)])])])]⟩

theorem name_clusterWith (name : Document) (state : String) :
    (clusterWith name state).name = name.asText := rfl

/-- One cluster object, in which one of the two components has a state. -/
def onlyKueue : Snapshot := ⟨ResourceType.wellKnown, [clusterWith (.text "default") managed]⟩

theorem removals_decide_onlyKueue :
    Finds ((kueue.validate .unlimited ⟨.ofSnapshot onlyKueue, none, none, none⟩).runAt
        Run.beginning).1
      (fun c => c.type = "Compatible" ∧ c.status = .known .violated ∧ c.impact = some .blocking)
      (some managed) ∧
    Finds ((codeFlare.validate .unlimited ⟨.ofSnapshot onlyKueue, none, none, none⟩).runAt
        Run.beginning).1 (fun c => c.status = .known .met) none ∧
    Finds ((serviceMesh.validate .unlimited ⟨.ofSnapshot onlyKueue, none, none, none⟩).runAt
        Run.beginning).1 (fun c => c.type = "Available" ∧ c.status = .known .violated) none := by
  have hdecides (removal : Removal) (hmem : removal ∈ removals)
      (hnameable : Nameable (onlyKueue.instances removal.type)) :
      removal.Decides (onlyKueue.instances removal.type).head?
        ((removal.check.validate .unlimited ⟨.ofSnapshot onlyKueue, none, none, none⟩).runAt
          Run.beginning).1 := by
    refine (removals_decide hmem rfl ?_ .unlimited Run.beginning).1 hnameable
    refine List.forall_mem_singleton.2 fun _ d hd _ => ?_
    cases hd
    rfl
  have halone : Nameable (onlyKueue.instances .dataScienceCluster) := by
    rintro first second rest ⟨⟩
  have hnone : Nameable (onlyKueue.instances .dscInitialization) := by
    rintro first second rest ⟨⟩
  refine ⟨?kueue, ?codeFlare, ?serviceMesh⟩
  case kueue =>
    exact (hdecides _ List.mem_cons_self halone).isManaged _ rfl rfl
  case codeFlare =>
    exact (hdecides _ (List.mem_cons_of_mem _ List.mem_cons_self) halone).isUnset _ rfl (.inl rfl)
  case serviceMesh =>
    have hmesh := hdecides _ (List.mem_cons_of_mem _ (List.mem_cons_of_mem _ List.mem_cons_self))
    exact (hmesh hnone).absent rfl

/-! ## Names that are only written out -/

/-- Two cluster objects, of which the first is called by a whole number with one digit too many. -/
def crowded : Snapshot :=
  ⟨ResourceType.wellKnown,
    [clusterWith (.int (Nat.pow 10 Text.mostDigits : Nat)) "Removed",
      clusterWith (.text "default") "Removed"]⟩

/-- The state of the first object would pass, but it is not read. -/
theorem removal_undecided_crowded :
    Snapshot.ofDocuments (crowded.objects.map Manifest.document) none = .ok crowded ∧
    (∀ m ∈ crowded.objects, ∃ entries, m.metadata = .ok entries) ∧
    (∃ m rest, crowded.instances .dataScienceCluster = m :: rest ∧
      m.document.lookup "spec.components.kueue.managementState" = some (.text "Removed")) ∧
    ∀ context clock, ((kueue.validate context ⟨.ofSnapshot crowded, none, none, none⟩).runAt
      clock).1 = .error Document.unwritable := by
  refine ⟨rfl, ?metadata, ⟨_, _, rfl, rfl⟩, fun context clock => ?undecided⟩
  case metadata =>
    exact List.forall_mem_cons.2 ⟨⟨_, rfl⟩, List.forall_mem_singleton.2 ⟨_, rfl⟩⟩
  case undecided =>
    have hunwritten : ¬(Document.int (Nat.pow 10 Text.mostDigits : Nat)).Written :=
      Document.not_written_of_le (Nat.le_refl _)
    have hname : (clusterWith (.int (Nat.pow 10 Text.mostDigits : Nat)) "Removed").name =
        .error Document.unwritable := by
      rw [name_clusterWith, Document.asText_eq_error_iff]
      exact ⟨hunwritten, rfl⟩
    obtain ⟨-, hfails⟩ := decidesOnFound_kueue context ⟨.ofSnapshot crowded, none, none, none⟩ clock
    exact hfails _ (runAt_singleton?_of_unnamed rfl hname clock)

end Catalog

end Preflight
