import Preflight.Proofs.Run.Course
import Preflight.Proofs.Snapshot.Served

/-!
# The instances that a snapshot offers

On a snapshot a check gets its targets from the listings of its types.  These fail for nothing but
types that are not served, which have no instances, so a type that covers some objects and is not
recognised leaves them out without a word.
-/

namespace Preflight.Run

open Preflight.Snapshot Preflight.ResourceType

variable {context : Context} {base : Target} {check : Check} {rest : List Check}
variable {clock asked : Clock} {s : Snapshot}

/-! ## Surveys of a snapshot -/

theorem Listing.instances_list (s : Snapshot) (t : ResourceType) :
    Listing.instances ⟨t, s.list t⟩ = s.instances t := rfl

theorem Listing.timedOut_list (s : Snapshot) (t : ResourceType) :
    Listing.timedOut ⟨t, s.list t⟩ = false := by
  by_cases hserved : t ∈ s.served
  · rw [list_of_served hserved]
    rfl
  · rw [list_of_unserved hserved]
    rfl

/-- The listings of a snapshot take no time, so a survey that can begin comes to its end. -/
theorem Survey.ofTypes_snapshot (hintime : ¬context.expired clock.now)
    (types : List ResourceType) :
    ofTypes context (.ofSnapshot s) types clock =
      ⟨types.map fun t => ⟨t, s.list t⟩, false, clock⟩ := by
  induction types with
  | nil => rfl
  | cons t rest ih =>
    have hlisting : ((Reader.ofSnapshot s).list t).runAt clock = (s.list t, clock) := rfl
    rw [ofTypes, if_neg hintime, hlisting]
    simp only [Listing.timedOut_list, Bool.false_eq_true, if_false]
    rw [ih]
    rfl

/-! ## The targets of a check -/

/-- The check judges instances of the snapshot, it applies, and the run is not over when it is asked
nor when it has answered. -/
structure Due (context : Context) (base : Target) (s : Snapshot) (check : Check)
    (clock asked : Clock) : Prop where
  reader : base.reader = .ofSnapshot s
  category : check.isIn .workload
  before : ¬context.expired clock.now
  applies : (check.canApply base.current base.target).runAt clock = (.ok true, asked)
  still : ¬context.expired asked.now

def bound (base : Target) (check : Check) (m : Manifest) : Invocation :=
  ⟨check, { base with resource := some m }⟩

/-- A check that is due gets a target for each instance of each of its types, in order, before the
targets of the other checks. -/
theorem Planning.invocations_of_due (hdue : Due context base s check clock asked)
    (rest : List Check) :
    ((ofChecks context base (check :: rest)).run clock).1.invocations =
      (check.resourceTypes.flatMap s.instances).map (bound base check) ++
        ((ofChecks context base rest).run asked).1.invocations := by
  have hsurvey := Survey.ofTypes_snapshot (s := s) hdue.still check.resourceTypes
  rw [← hdue.reader] at hsurvey
  rw [ofChecks_run, ofChecks_run, Course.ofChecks, if_neg hdue.before, hdue.applies]
  simp only [hdue.category, if_true, hsurvey, Bool.false_eq_true, if_false, Course.planning,
    Course.invocations, Course.after, List.flatMap_cons]
  congr 1
  simp only [Step.invocations, List.flatMap_map, Listing.instances_list, List.map_map]
  rfl

/-! ## Types and their instances -/

/-- What a snapshot of objects offers for a type. -/
structure Offered (s : Snapshot) (t : ResourceType) : Prop where
  listed_iff : s.list t = .ok (s.objects.filter (t.covers ·)) ↔ Recognised t s.objects
  refused_iff : s.list t = .error (.typeNotServed t.text) ↔ ¬Recognised t s.objects
  found : Recognised t s.objects → s.instances t = s.objects.filter (t.covers ·)
  missed : ¬Recognised t s.objects → s.instances t = []
  /-- The objects that a plain type covers can be listed, if not by this type then by one of the
  same version and kind. -/
  beside : t.Plain → (∃ m ∈ s.objects, t.covers m) →
    ∃ known, known.Agrees t ∧ s.list known = .ok (s.objects.filter (t.covers ·))

theorem offered_of_grown (hgrown : Grown s) (t : ResourceType) : Offered s t := by
  by_cases hserved : t ∈ s.served
  · have hrecognised := (hgrown.served_iff t).1 hserved
    have hlist := list_of_served hserved
    refine ⟨by simp [hlist, hrecognised], by simp [hlist, hrecognised], ?_, ?_, ?_⟩
    · intro _
      rw [Snapshot.instances, hlist]
    · exact fun hnot => absurd hrecognised hnot
    · exact fun _ _ => ⟨t, ⟨rfl, rfl⟩, hlist⟩
  · have hunrecognised := mt (hgrown.served_iff t).2 hserved
    have hlist := list_of_unserved hserved
    refine ⟨by simp [hlist, hunrecognised], by simp [hlist, hunrecognised], ?_, ?_, ?_⟩
    · exact fun hrecognised => absurd hrecognised hunrecognised
    · intro _
      rw [Snapshot.instances, hlist]
    · rintro hplain ⟨m, hmem, hcovers⟩
      obtain ⟨known, hknown, hagrees⟩ := hgrown.exists_served hplain hmem hcovers
      refine ⟨known, hagrees, ?_⟩
      simp only [list_of_served hknown, hagrees.covers_eq]

/-- A snapshot of objects lists, for each type that is recognised, exactly the objects that the type
covers, and a check that is due gets a target for each of them.  A type that is not recognised has
no instances, though it may cover some objects. -/
theorem snapshot_offers {documents : List Document}
    (hread : Snapshot.ofDocuments documents none = .ok s) :
    documents.map manifest? = s.objects.map some ∧ (∀ t, Offered s t) ∧
      ∀ context base check clock asked, Due context base s check clock asked → ∀ rest,
        ((Planning.ofChecks context base (check :: rest)).run clock).1.invocations =
          (check.resourceTypes.flatMap s.instances).map (bound base check) ++
            ((Planning.ofChecks context base rest).run asked).1.invocations := by
  obtain ⟨hgrown, hobjects⟩ := grown_of_ofDocuments hread
  refine ⟨hobjects, offered_of_grown hgrown, ?_⟩
  intro context base check clock asked hdue rest
  exact Planning.invocations_of_due hdue rest

def networkPolicies : ResourceType :=
  ⟨"networking.k8s.io", "v1", "NetworkPolicy", "networkpolicies", true⟩

def networkPolicy : Manifest :=
  ⟨[(.text "apiVersion", .text "networking.k8s.io/v1"), (.text "kind", .text "NetworkPolicy"),
    (.text "metadata", .map [(.text "name", .text "deny-all"), (.text "namespace", .text "team")])]⟩

/-- The type that is inferred from such an object has a plural that is no English one. -/
def inferredPolicies : ResourceType := { networkPolicies with plural := "networkpolicys" }

def policies : Snapshot := ⟨wellKnown ++ [inferredPolicies], [networkPolicy, networkPolicy]⟩

/-- A policy is covered by its type, and yet it is missed. -/
theorem policies_missed :
    Snapshot.ofDocuments [networkPolicy.document, networkPolicy.document] none = .ok policies ∧
      networkPolicies.covers networkPolicy ∧
      policies.list networkPolicies = .error (.typeNotServed networkPolicies.text) ∧
      policies.instances networkPolicies = [] := by
  refine ⟨rfl, ?_, rfl, rfl⟩
  decide

/-- A check of policies that applies to everything. -/
def warden : Check where
  kind := "Warden"
  id := "warden"
  name := "Warden"
  description := "Looks at policies"
  category := .known .workload
  resourceTypes := [networkPolicies, inferredPolicies]
  canApply _ _ := pure true
  validate _ _ := return .result (Check.newResult .workload "" "policy" "warden")

/-- Of a type and the one that is inferred in its place, only the second has instances. -/
theorem snapshot_offers_policies :
    policies.list inferredPolicies = .ok [networkPolicy, networkPolicy] ∧
      ((Planning.ofChecks .unlimited ⟨.ofSnapshot policies, none, none, none⟩ [warden]).run
        ⟨.zero, default⟩).1.invocations.map (·.target.resource) =
          [some networkPolicy, some networkPolicy] := by
  have hread : Snapshot.ofDocuments [networkPolicy.document, networkPolicy.document] none =
      .ok policies := rfl
  obtain ⟨-, hoffered, htargets⟩ := snapshot_offers hread
  have hrecognised : Recognised inferredPolicies policies.objects := by
    refine .inr ⟨[], networkPolicy, [networkPolicy], rfl, rfl, ?_, by simp⟩
    decide
  have hunrecognised : ¬Recognised networkPolicies policies.objects :=
    (hoffered networkPolicies).refused_iff.1 rfl
  have hcovered : policies.objects.filter (inferredPolicies.covers ·) =
      [networkPolicy, networkPolicy] := rfl
  have hdue : Due .unlimited ⟨.ofSnapshot policies, none, none, none⟩ policies warden
      ⟨.zero, default⟩ ⟨.zero, default⟩ := ⟨rfl, by decide, by decide, rfl, by decide⟩
  refine ⟨?_, ?_⟩
  · rw [(hoffered inferredPolicies).listed_iff.2 hrecognised, hcovered]
  · rw [htargets _ _ _ _ _ hdue []]
    simp only [warden, List.flatMap_cons, List.flatMap_nil, List.append_nil,
      (hoffered networkPolicies).missed hunrecognised,
      (hoffered inferredPolicies).found hrecognised, hcovered]
    rfl

end Preflight.Run
