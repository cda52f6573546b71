import Preflight.Proofs.Catalog.Workload
import Preflight.Proofs.Manifest.Unwritten
import Preflight.Proofs.Run.Portion
import Preflight.Proofs.Run.Return
import Preflight.Proofs.Run.Selection
import Preflight.Proofs.Run.Still

/-!
# What a run reports of the workloads of a snapshot

A run of the catalogue over a snapshot comes to its end: its checks take no time, its listings do
not fail, and the objects that it judges are well named.  Its report then has one execution for each
Ray cluster and one for each notebook, in the order of the snapshot, and each of them says what the
check finds of the instance.
-/

namespace Preflight

namespace Run

open Preflight.Action

variable {base : Target} {checks : List Check} {clock : Clock}

/-! ## Runs over a snapshot that return -/

variable {s : Snapshot} {registry : Registry} {request : Request} {history : History}

theorem History.ofRun_of_unlimited {reader : Reader} (hunlimited : request.IsUnlimited)
    (hresolve : resolve registry request.selectors request.category = .ok checks) (clock : Clock) :
    ofRun registry reader request clock =
      .ok (ofChecks .unlimited ⟨reader, request.current, request.target, none⟩ checks clock) := by
  rw [ofRun, withTimeout_of_isUnlimited hunlimited, hresolve]

/-- Without a deadline, planning on a snapshot leaves no check out. -/
theorem History.Happened.complete_of_snapshot
    (hhappened : history.Happened registry (.ofSnapshot s) request clock)
    (hunlimited : request.IsUnlimited) : history.course.abandoned = [] := by
  obtain ⟨context, hcontext, -, htaken, -⟩ := hhappened.ran
  rw [withTimeout_of_isUnlimited hunlimited] at hcontext
  cases hcontext
  refine (htaken.abandoned_eq_nil_iff fun _ => rfl).2 fun listing hmem => ?_
  obtain ⟨moment, hlisted⟩ := (hhappened.answered hunlimited).1 listing hmem
  obtain ⟨type, outcome⟩ := listing
  have hlists : outcome = s.list type := hlisted
  rw [hlists]
  exact Listing.timedOut_list s type

theorem FanOut.resource_mem {finish : Clock} {invocations : List Invocation}
    {incidents : List Incident} (hreader : base.reader = .ofSnapshot s)
    (halone : base.resource = none)
    (hfan : FanOut base checks clock invocations incidents finish) :
    ∀ invocation ∈ invocations, ∀ m, invocation.target.resource = some m →
      m ∈ invocation.check.resourceTypes.flatMap s.instances := by
  induction hfan with
  | done clock => simp
  | step hfirst hrest ih =>
    refine List.forall_mem_append.2 ⟨?_, ih⟩
    cases hfirst with
    | failed hasked => simp
    | skipped hasked => simp
    | alone hasked hcategory =>
      rw [List.forall_mem_singleton]
      intro m hbound
      rw [halone] at hbound
      cases hbound
    | perInstance hasked hcategory hlisted =>
      rw [(hlisted.of_snapshot hreader).1]
      intro invocation hmem m hbound
      obtain ⟨_, hinstance, rfl⟩ := List.mem_map.1 hmem
      cases hbound
      exact hinstance

end Run

namespace Catalog

variable {s : Snapshot}

/-- The types of the objects that the checks of workloads look at. -/
def workloadTypes : List ResourceType := [.rayCluster, .notebook, .acceleratorProfile]

theorem wellKnown_of_workloadTypes : ∀ t ∈ workloadTypes, t ∈ ResourceType.wellKnown := by decide

theorem wellNamed_of_workloadTypes (hshaped : ∀ m ∈ s.objects, m.WellShaped)
    (hnamed : ∀ t ∈ workloadTypes, ∀ m ∈ s.instances t,
      (∃ name, m.name = .ok name) ∧ ∃ scope, m.namespaceName = .ok scope) :
    ∀ t ∈ workloadTypes, ∀ m ∈ s.instances t, m.WellNamed := by
  intro t ht m hm
  obtain ⟨hobject, hcovers⟩ := Snapshot.mem_of_mem_instances hm
  obtain ⟨hname, hscope⟩ := hnamed t ht m hm
  exact (hshaped m hobject).wellNamed hcovers hname hscope

theorem resourceTypes_subset {check : Check} (hmem : check ∈ checks) :
    ∀ t ∈ check.resourceTypes, t ∈ workloadTypes := by
  simp only [checks, List.mem_cons, List.not_mem_nil, or_false] at hmem
  rcases hmem with rfl | rfl | rfl | rfl | rfl | rfl <;> decide

end Catalog

namespace Run

variable {s : Snapshot} {registry : Registry} {request : Request} {checks : List Check}
variable {clock : Clock}

/-- What a report says about the workloads of a snapshot. -/
structure WorkloadsJudged (base : Target) (s : Snapshot) (report : Report) : Prop where
  clusters : List.Forall₂
    (fun m execution =>
      ExecutedOn base Catalog.rayFinalizer m execution ∧ Catalog.RayJudged m execution.result)
    (s.instances .rayCluster) (report.executionsOf Catalog.rayFinalizer.id)
  /-- Taken together, the executions refer to the clusters that are held by the finalizer. -/
  impacted : ((s.instances .rayCluster).filter (·.isHeldBy Catalog.accessFinalizer)).mapM
      Manifest.reference =
    .ok ((report.executionsOf Catalog.rayFinalizer.id).flatMap (·.result.impacted))
  notebooks : List.Forall₂
    (fun m execution => ExecutedOn base Catalog.notebookProfile m execution ∧
      Catalog.NotebookJudged (s.instances .acceleratorProfile) m execution.result)
    (s.instances .notebook) (report.executionsOf Catalog.notebookProfile.id)
  unfailing : ∀ incident ∈ report.incidents,
    incident.checkId ≠ Catalog.rayFinalizer.id ∧ incident.checkId ≠ Catalog.notebookProfile.id

theorem mapM_reference_of_judged {clusters : List Manifest} {executions : List Execution}
    (hjudged : List.Forall₂ (fun m execution => Catalog.RayJudged m execution.result) clusters
      executions) :
    (clusters.filter (·.isHeldBy Catalog.accessFinalizer)).mapM Manifest.reference =
      .ok (executions.flatMap (·.result.impacted)) := by
  induction hjudged with
  | nil => rfl
  | @cons m execution rest others hfirst hrest ih =>
    obtain ⟨reference, hreference, himpacted⟩ := hfirst.impacted
    rw [List.flatMap_cons, himpacted, List.filter_cons]
    by_cases hheld : m.isHeldBy Catalog.accessFinalizer = true
    · rw [if_pos hheld, if_pos hheld, List.mapM_cons, hreference, ih]
      rfl
    · rw [if_neg hheld, if_neg hheld, List.nil_append]
      exact ih

/-- A check that returns a well-formed result has answered with it. -/
theorem Attempt.answer_of_wellFormed {context : Context} {invocation : Invocation} {moment : Clock}
    {r : Result} (hwell : r.WellFormed)
    (hreturned : ((invocation.check.validate context invocation.target).runAt moment).1 =
      .ok (.result r)) : answer context invocation moment = .ok r := by
  rw [answer, hreturned]
  simp only [accept, Result.validate_eq_ok_iff.2 hwell]

namespace History

variable {history : History} {durationMs : Int}

/-- Where the objects that the checks of the catalogue judge are well named, a run over a snapshot
can be told. -/
theorem Happened.describable_of_snapshot
    (hhappened : history.Happened registry (.ofSnapshot s) request clock)
    (hcomplete : history.course.abandoned = [])
    (hregistered : ∀ check ∈ history.checks, check ∈ Catalog.checks)
    (hwell : ∀ t ∈ Catalog.workloadTypes, ∀ m ∈ s.instances t, m.WellNamed) :
    history.Describable := by
  refine hhappened.describable_iff.2 fun _ invocation hmem m hbound => ?_
  have hfan := hhappened.fanOut hcomplete
  have hbase := hhappened.base_eq
  have hinstance : m ∈ invocation.check.resourceTypes.flatMap s.instances :=
    hfan.resource_mem (by rw [hbase]) (by rw [hbase]) invocation hmem m hbound
  obtain ⟨t, ht, hm⟩ := List.mem_flatMap.1 hinstance
  have hcheck := hregistered _ (hfan.check_mem invocation hmem)
  exact hwell t (Catalog.resourceTypes_subset hcheck t ht) m hm

/-- A run of checks of the catalogue over such a snapshot, without a deadline, ends at the moment at
which it starts and can be told. -/
theorem told_of_snapshot (hunlimited : request.IsUnlimited)
    (hresolve : resolve registry request.selectors request.category = .ok checks)
    (hregistered : ∀ check ∈ checks, check ∈ Catalog.checks)
    (hwell : ∀ t ∈ Catalog.workloadTypes, ∀ m ∈ s.instances t, m.WellNamed)
    (hnumber : clock.now.isNaN = false) (hbounded : clock.now.isInfinite = false) :
    ∃ history, ofRun registry (.ofSnapshot s) request clock = .ok history ∧
      history.Describable ∧ milliseconds clock.now history.finish.now = .ok 0 := by
  have hhistory : ofRun registry (.ofSnapshot s) request clock = .ok _ :=
    ofRun_of_unlimited hunlimited hresolve clock
  have hfinish : (ofChecks .unlimited
      ⟨.ofSnapshot s, request.current, request.target, none⟩ checks clock).finish = clock :=
    finish_of_still (Reader.still_ofSnapshot s)
      fun check hmem => Catalog.still_of_mem (hregistered check hmem)
  refine ⟨_, hhistory, ?_, ?_⟩
  · have hhappened := happened hhistory
    refine hhappened.describable_of_snapshot (hhappened.complete_of_snapshot hunlimited) ?_ hwell
    rwa [Except.ok.inj (hhappened.resolved.symm.trans hresolve)]
  · rw [hfinish]
    exact milliseconds_self hnumber hbounded

/-- A run that has planned both checks of workloads, for an upgrade that both apply to, judges all
the workloads. -/
theorem Happened.workloadsJudged
    (hhappened : history.Happened registry (.ofSnapshot s) request clock)
    (hunlimited : request.IsUnlimited) (hcomplete : history.course.abandoned = [])
    (hupgrade : Version.isMajorUpgrade request.current request.target 2 3 = true)
    (hray : Catalog.rayFinalizer ∈ history.checks)
    (hnotebook : Catalog.notebookProfile ∈ history.checks)
    (hshaped : ∀ m ∈ s.objects, m.WellShaped)
    (hwell : ∀ t ∈ Catalog.workloadTypes, ∀ m ∈ s.instances t, m.WellNamed) :
    WorkloadsJudged history.base s (history.report request durationMs) := by
  have hbase := hhappened.base_eq
  have hclusters : ∀ m ∈ s.instances .rayCluster, ∀ moment, ∃ result,
      Attempt.answer .unlimited (bound history.base Catalog.rayFinalizer m) moment = .ok result ∧
        Catalog.RayJudged m result := by
    intro m hm moment
    obtain ⟨hobject, hcovers⟩ := Snapshot.mem_of_mem_instances hm
    have hbound : (bound history.base Catalog.rayFinalizer m).target.resource = some m := rfl
    obtain ⟨result, hreturned, hwellFormed, hjudged⟩ :=
      Catalog.rayFinalizer_judges hcovers (hshaped m hobject) (hwell _ (by decide) m hm) hbound
        .unlimited moment
    exact ⟨result, Attempt.answer_of_wellFormed hwellFormed hreturned, hjudged⟩
  have hnotebooks : ∀ m ∈ s.instances .notebook, ∀ moment, ∃ result,
      Attempt.answer .unlimited (bound history.base Catalog.notebookProfile m) moment =
          .ok result ∧
        Catalog.NotebookJudged (s.instances .acceleratorProfile) m result := by
    intro m hm moment
    obtain ⟨hobject, hcovers⟩ := Snapshot.mem_of_mem_instances hm
    have hbound : (bound history.base Catalog.notebookProfile m).target.resource = some m := rfl
    have hreader : (bound history.base Catalog.notebookProfile m).target.reader =
        .ofSnapshot s := by rw [hbase]; rfl
    obtain ⟨result, hreturned, hwellFormed, hjudged⟩ :=
      Catalog.notebookProfile_judges hcovers (hshaped m hobject) (hwell _ (by decide) m hm) hbound
        hreader (hwell _ (by decide)) moment
    exact ⟨result, Attempt.answer_of_wellFormed hwellFormed hreturned, hjudged⟩
  have happlies (moment : Clock) :
      ((Catalog.rayFinalizer.canApply request.current request.target).runAt moment).1 =
        .ok true := congrArg Except.ok hupgrade
  obtain ⟨hrayExecuted, hrayQuiet⟩ := hhappened.executed hunlimited hcomplete hray rfl happlies
    (List.append_nil _) hclusters durationMs
  obtain ⟨hnotebookExecuted, hnotebookQuiet⟩ := hhappened.executed hunlimited hcomplete hnotebook
    rfl (fun _ => rfl) (List.append_nil _) hnotebooks durationMs
  refine ⟨hrayExecuted, ?_, hnotebookExecuted, ?_⟩
  · exact mapM_reference_of_judged (hrayExecuted.imp fun _ _ => And.right)
  · intro incident hmem
    exact ⟨hrayQuiet incident hmem, hnotebookQuiet incident hmem⟩

end History

/-- A run of the catalogue in the prompt pool that selects both checks of workloads, for an upgrade
from the second major release to a later one and without a deadline, returns and judges every Ray
cluster and every notebook of the snapshot, provided that their names and those of the profiles can
be written out.
The types of workloads are well known, so a snapshot of objects offers all that they cover. -/
theorem execute_judges_workloads {current target : Version}
    (hregistry : Catalog.registry = .ok registry)
    (hcurrent : request.current = some current) (hfrom : current.major = 2)
    (htarget : request.target = some target) (hto : 3 ≤ target.major)
    (hunlimited : request.IsUnlimited)
    (hresolve : resolve registry request.selectors request.category = .ok checks)
    (hray : Catalog.rayFinalizer ∈ checks) (hnotebook : Catalog.notebookProfile ∈ checks)
    (hshaped : ∀ m ∈ s.objects, m.WellShaped)
    (hnamed : ∀ t ∈ Catalog.workloadTypes, ∀ m ∈ s.instances t,
      (∃ name, m.name = .ok name) ∧ ∃ scope, m.namespaceName = .ok scope)
    (hnumber : clock.now.isNaN = false) (hbounded : clock.now.isInfinite = false) :
    (∃ outcome, (execute registry (.ofSnapshot s) request).ReturnsAt clock outcome ∧
      WorkloadsJudged ⟨.ofSnapshot s, request.current, request.target, none⟩ s outcome.report) ∧
    ∀ documents, Snapshot.ofDocuments documents none = .ok s →
      ∀ t ∈ Catalog.workloadTypes, s.instances t = s.objects.filter (t.covers ·) := by
  have hchecks : registry = ⟨Catalog.checks, false⟩ := Except.ok.inj hregistry.symm
  have hregistered : ∀ check ∈ checks, check ∈ Catalog.checks := by
    intro check hmem
    have hin := mem_of_mem_resolve hresolve check hmem
    rwa [hchecks] at hin
  have hwell := Catalog.wellNamed_of_workloadTypes hshaped hnamed
  obtain ⟨history, hhistory, hdescribable, hduration⟩ :=
    History.told_of_snapshot hunlimited hresolve hregistered hwell hnumber hbounded
  have hhappened := History.happened hhistory
  have hsame : history.checks = checks := Except.ok.inj (hhappened.resolved.symm.trans hresolve)
  rw [← hsame] at hray hnotebook
  have hcomplete := hhappened.complete_of_snapshot hunlimited
  have hupgrade : Version.isMajorUpgrade request.current request.target 2 3 = true := by
    rw [hcurrent, htarget, Version.isMajorUpgrade, hfrom]
    simpa using hto
  have hjudged : WorkloadsJudged history.base s (history.report request 0) :=
    hhappened.workloadsJudged hunlimited hcomplete hupgrade hray hnotebook hshaped hwell
  rw [hhappened.base_eq] at hjudged
  constructor
  · exact ⟨_, execute_returnsAt_iff.2 ⟨history, hhistory, hdescribable, 0, hduration, rfl⟩, hjudged⟩
  · intro documents hread t ht
    exact Snapshot.instances_of_wellKnown hread (Catalog.wellKnown_of_workloadTypes t ht)

/-! ## Runs of the checks of workloads -/

/-- The request to run the checks of workloads before an upgrade to the next major release. -/
def Request.upgrade : Request where
  selectors := ["workloads"]
  category := none
  current := some ⟨0, 2, [16, 0], none, none, none, []⟩
  target := some ⟨0, 3, [0, 0], none, none, none, []⟩
  timeout := none

theorem Request.isUnlimited_upgrade : Request.upgrade.IsUnlimited := by
  rintro duration ⟨⟩

theorem resolve_upgrade : ∃ checks,
    resolve ⟨Catalog.checks, false⟩ Request.upgrade.selectors Request.upgrade.category =
        .ok checks ∧
      Catalog.rayFinalizer ∈ checks ∧ Catalog.notebookProfile ∈ checks := by
  have hreachable : Registry.Reachable ⟨Catalog.checks, false⟩ :=
    Registry.reachable_of_ofChecks (show Registry.ofChecks Catalog.checks = .ok _ from rfl)
  obtain ⟨checks, hresolve⟩ := resolve_isOk ⟨Catalog.checks, false⟩ none
    (show Selector.validateAll ["workloads"] = .ok () from rfl)
  have hmem := mem_resolve_iff hreachable.wellFormed hresolve
  refine ⟨checks, hresolve, (hmem _).2 ⟨?_, rfl, "workloads", ?_, rfl⟩,
    (hmem _).2 ⟨?_, rfl, "workloads", ?_, rfl⟩⟩ <;> simp [Catalog.checks]

/-- An object by its version and kind, its name and namespace, its annotations and finalizers. -/
def workload (apiVersion kind name scope : String) (annotations : List (String × String))
    (finalizers : List String) : Manifest :=
  ⟨[(.text "apiVersion", .text apiVersion), (.text "kind", .text kind),
    (.text "metadata", .map [(.text "name", .text name), (.text "namespace", .text scope),
      (.text "annotations", .map (annotations.map fun (key, value) => (.text key, .text value))),
      (.text "finalizers", .list (finalizers.map .text))])]⟩

theorem wellShaped_workload (apiVersion kind name scope : String)
    (annotations : List (String × String)) (finalizers : List String) :
    (workload apiVersion kind name scope annotations finalizers).WellShaped := by
  refine .of_map rfl ?_ ?_
  · rintro _ ⟨⟩
    refine ⟨_, rfl, List.forall_mem_map.2 fun entry _ => ⟨_, rfl⟩⟩
  · rintro _ ⟨⟩
    exact ⟨_, rfl⟩

/-- Two Ray clusters, of which the first is held, and a notebook whose profile is in another
namespace than the one that it names. -/
def fleet : Snapshot :=
  ⟨ResourceType.wellKnown,
    [workload "ray.io/v1" "RayCluster" "held" "team" [] [Catalog.accessFinalizer],
      workload "dashboard.opendatahub.io/v1" "AcceleratorProfile" "gpu" "platform" [] [],
      workload "kubeflow.org/v1" "Notebook" "nb" "team"
        [(Catalog.profileNameKey, "gpu"), (Catalog.profileNamespaceKey, "team")] [],
      workload "ray.io/v1" "RayCluster" "free" "team" [] []]⟩

theorem ofDocuments_fleet :
    Snapshot.ofDocuments (fleet.objects.map (.map ·.entries)) none = .ok fleet := rfl

theorem instances_fleet :
    fleet.instances .rayCluster =
        [workload "ray.io/v1" "RayCluster" "held" "team" [] [Catalog.accessFinalizer],
          workload "ray.io/v1" "RayCluster" "free" "team" [] []] ∧
      fleet.instances .notebook =
        [workload "kubeflow.org/v1" "Notebook" "nb" "team"
          [(Catalog.profileNameKey, "gpu"), (Catalog.profileNamespaceKey, "team")] []] ∧
      fleet.instances .acceleratorProfile =
        [workload "dashboard.opendatahub.io/v1" "AcceleratorProfile" "gpu" "platform" [] []] :=
  ⟨rfl, rfl, rfl⟩

theorem named_fleet : ∀ m ∈ fleet.objects,
    (∃ name, m.name = .ok name) ∧ ∃ scope, m.namespaceName = .ok scope := by
  simp only [fleet, List.forall_mem_cons]
  exact ⟨⟨⟨_, rfl⟩, _, rfl⟩, ⟨⟨_, rfl⟩, _, rfl⟩, ⟨⟨_, rfl⟩, _, rfl⟩, ⟨⟨_, rfl⟩, _, rfl⟩,
    List.forall_mem_nil _⟩

theorem execute_judges_workloads_fleet :
    ∃ outcome,
      (execute ⟨Catalog.checks, false⟩ (.ofSnapshot fleet) .upgrade).ReturnsAt beginning outcome ∧
      (outcome.report.executionsOf Catalog.rayFinalizer.id).length = 2 ∧
      (outcome.report.executionsOf Catalog.rayFinalizer.id).flatMap (·.result.impacted) =
        [⟨"RayCluster", "held", "team", "ray.io/v1"⟩] ∧
      (∃ execution, outcome.report.executionsOf Catalog.notebookProfile.id = [execution] ∧
        ∃ c ∈ execution.result.conditions, c.impact = some .blocking) ∧
      ∀ t ∈ Catalog.workloadTypes, fleet.instances t = fleet.objects.filter (t.covers ·) := by
  obtain ⟨checks, hresolve, hray, hnotebook⟩ := resolve_upgrade
  have hshaped : ∀ m ∈ fleet.objects, m.WellShaped := by
    simp only [fleet, List.forall_mem_cons]
    exact ⟨wellShaped_workload .., wellShaped_workload .., wellShaped_workload ..,
      wellShaped_workload .., List.forall_mem_nil _⟩
  have hnamed : ∀ t ∈ Catalog.workloadTypes, ∀ m ∈ fleet.instances t,
      (∃ name, m.name = .ok name) ∧ ∃ scope, m.namespaceName = .ok scope :=
    fun t _ m hm => named_fleet m (Snapshot.mem_of_mem_instances hm).1
  obtain ⟨⟨outcome, hreturns, hjudged⟩, hoffered⟩ := execute_judges_workloads
    (show Catalog.registry = .ok ⟨Catalog.checks, false⟩ from rfl)
    (show Request.upgrade.current = some _ from rfl) rfl
    (show Request.upgrade.target = some _ from rfl) (by decide) Request.isUnlimited_upgrade hresolve
    hray hnotebook hshaped hnamed (show beginning.now.isNaN = false from rfl) rfl
  obtain ⟨hclusters, hnotebooks, hprofiles⟩ := instances_fleet
  have hlength := hjudged.clusters.length_eq
  have himpacted := hjudged.impacted
  have hexecuted := hjudged.notebooks
  rw [hclusters] at hlength himpacted
  rw [hnotebooks, hprofiles] at hexecuted
  refine ⟨outcome, hreturns, hlength.symm, ?_, ?_, hoffered _ ofDocuments_fleet⟩
  · exact (Except.ok.inj himpacted).symm
  · obtain ⟨execution, rest, ⟨-, hfound⟩, hrest, hall⟩ := List.forall₂_cons_left_iff.1 hexecuted
    cases hrest
    refine ⟨execution, hall, hfound.blocking_iff.2 ⟨by decide, ?_⟩⟩
    rintro ⟨profile, hprofile, -, hscope⟩
    cases List.mem_singleton.1 hprofile
    rcases hscope with hopen | hplatform
    · exact absurd hopen (by decide)
    · have hsame : "platform" = "team" := Except.ok.inj hplatform
      exact absurd hsame (by decide)

/-! ## Names that cannot be written out -/

/-- A Ray cluster that is called by a whole number with one digit too many. -/
def outgrown : Manifest :=
  ⟨[(.text "apiVersion", .text "ray.io/v1"), (.text "kind", .text "RayCluster"),
    (.text "metadata", .map [(.text "name", .int (Nat.pow 10 Text.mostDigits : Nat))])]⟩

/-- The run over a snapshot with such a cluster does not return. -/
theorem workloads_unjudged_outgrown :
    ∃ s checks, Snapshot.ofDocuments [outgrown.document] none = .ok s ∧
      s.instances .rayCluster = [outgrown] ∧ (∀ m ∈ s.objects, m.WellShaped) ∧
      Catalog.registry = .ok ⟨Catalog.checks, false⟩ ∧
      resolve ⟨Catalog.checks, false⟩ Request.upgrade.selectors Request.upgrade.category =
        .ok checks ∧
      Catalog.rayFinalizer ∈ checks ∧ Catalog.notebookProfile ∈ checks ∧
      ∀ clock, ¬∃ outcome,
        (execute ⟨Catalog.checks, false⟩ (.ofSnapshot s) .upgrade).ReturnsAt clock outcome := by
  obtain ⟨checks, hresolve, hray, hnotebook⟩ := resolve_upgrade
  refine ⟨⟨ResourceType.wellKnown, [outgrown]⟩, checks, rfl, rfl, ?_, rfl, hresolve, hray,
    hnotebook, ?_⟩
  · refine List.forall_mem_singleton.2 (.of_map rfl ?_ ?_)
    · rintro _ ⟨⟩
    · rintro _ ⟨⟩
  · rintro clock ⟨outcome, hreturns⟩
    obtain ⟨history, hhistory, hdescribable, -⟩ := execute_returnsAt_iff.1 hreturns
    have hhappened := History.happened hhistory
    have hcomplete := hhappened.complete_of_snapshot Request.isUnlimited_upgrade
    have hbase := hhappened.base_eq
    rw [← Except.ok.inj (hhappened.resolved.symm.trans hresolve)] at hray
    obtain ⟨moment, dealt, hfans⟩ :=
      (hhappened.fanOut hcomplete).of_mem hhappened.checks_nodup hray
    obtain ⟨hplanned, -⟩ :=
      hfans.of_snapshot (by rw [hbase]) rfl (by rw [hbase]; exact fun _ => rfl)
    have hkept : bound history.base Catalog.rayFinalizer outgrown ∈
        history.invocations.filter (·.check.id == Catalog.rayFinalizer.id) := by
      rw [hplanned]
      exact List.mem_cons_self
    have hmem := (List.mem_filter.1 hkept).1
    have hwell := hhappened.describable_iff.1 hdescribable hcomplete _ hmem outgrown rfl
    exact Document.not_written_of_le (Nat.le_refl _) (hwell.name _ rfl _ rfl)

end Run

end Preflight
