import Preflight.Proofs.Check.Consulting
import Preflight.Proofs.Run.Accounting
import Preflight.Proofs.Snapshot.Served

/-!
# What a run depends on

Planning lists the types of workload checks, and the checks list whatever types they consult.  Two
readers that list the same objects of all these types therefore lead through the same run, step by
step, and the targets of the two runs differ in nothing but the reader that they hold.  A snapshot
lists the objects that a well-known type covers, whatever else is among its objects.
-/

namespace Preflight.Run

open Preflight.Action

variable {types : List ResourceType} {first second : Reader}
variable {context : Context} {base : Target} {checks : List Check} {clock : Clock}

/-! ## Planning -/

theorem Survey.ofTypes_agree (hagree : first.AgreeOn types second) {asked : List ResourceType}
    (hasked : ∀ t ∈ asked, t ∈ types) (clock : Clock) :
    ofTypes context first asked clock = ofTypes context second asked clock := by
  induction asked generalizing clock with
  | nil => rfl
  | cons t rest ih =>
    obtain ⟨ht, hrest⟩ := List.forall_mem_cons.1 hasked
    simp only [ofTypes, hagree t ht, ih hrest]

theorem Course.ofChecks_agree (hagree : first.AgreeOn types second)
    (hconsults : ∀ check ∈ checks, check.Consults types) (base : Target) (clock : Clock) :
    ofChecks context (base.through first) checks clock =
      ofChecks context (base.through second) checks clock := by
  induction checks generalizing clock with
  | nil => rfl
  | cons check rest ih =>
    obtain ⟨hcheck, hrest⟩ := List.forall_mem_cons.1 hconsults
    have hsurvey : Survey.ofTypes context first check.resourceTypes =
        Survey.ofTypes context second check.resourceTypes :=
      funext (Survey.ofTypes_agree hagree hcheck.resourceTypes)
    rw [ofChecks, ofChecks, Target.reader_through, Target.reader_through, Target.current_through,
      Target.current_through, Target.target_through, Target.target_through]
    simp only [hsurvey, ih hrest]

/-! ## Trying what was planned -/

def Invocation.through (reader : Reader) (invocation : Invocation) : Invocation :=
  { invocation with target := invocation.target.through reader }

def Attempt.through (reader : Reader) (attempt : Attempt) : Attempt :=
  { attempt with invocation := attempt.invocation.through reader }

theorem Course.invocations_through (course : Course) (base : Target) (reader : Reader) :
    course.invocations (base.through reader) =
      (course.invocations base).map (Invocation.through reader) := by
  have hstep (step : Step) : step.invocations (base.through reader) =
      (step.invocations base).map (Invocation.through reader) := by
    obtain ⟨check, decision⟩ := step
    cases decision with
    | perInstance listings => simp [Step.invocations, Invocation.through, Target.through]
    | _ => rfl
  rw [invocations, invocations, List.map_flatMap, funext hstep]

/-- Trying an invocation through either reader comes to the same at the same moment. -/
theorem Attempt.ofInvocation_agree (hagree : first.AgreeOn types second) {invocation : Invocation}
    (hconsults : invocation.check.Consults types) (clock : Clock) :
    (ofInvocation context (invocation.through second)).run clock =
      (((ofInvocation context (invocation.through first)).run clock).1.through second,
        ((ofInvocation context (invocation.through first)).run clock).2) := by
  have hvalidate := hconsults.validate first second hagree context invocation.target
  rw [ofInvocation_run, ofInvocation_run]
  split
  · rfl
  · simp only [answer, Invocation.through, ← hvalidate]
    rfl

theorem Attempt.ofInvocations_agree (hagree : first.AgreeOn types second)
    {invocations : List Invocation}
    (hconsults : ∀ invocation ∈ invocations, invocation.check.Consults types) (clock : Clock) :
    (ofInvocations context (invocations.map (Invocation.through second))).run clock =
      (((ofInvocations context (invocations.map (Invocation.through first))).run clock).1.map
          (Attempt.through second),
        ((ofInvocations context (invocations.map (Invocation.through first))).run clock).2) := by
  induction invocations generalizing clock with
  | nil => rfl
  | cons invocation rest ih =>
    obtain ⟨hfirst, hrest⟩ := List.forall_mem_cons.1 hconsults
    simp only [List.map_cons, ofInvocations_cons, run_bind, ofInvocation_agree hagree hfirst, ih hrest]
    rfl

/-! ## What is concluded -/

theorem Collection.ofAttempts_through (reader : Reader) (attempts : List Attempt)
    (sequence : Nat) :
    ofAttempts sequence (attempts.map (Attempt.through reader)) = ofAttempts sequence attempts := by
  induction attempts generalizing sequence with
  | nil => rfl
  | cons attempt rest ih =>
    simp only [List.map_cons, ofAttempts, ih]
    rfl

theorem startEvents_through (reader : Reader) (attempts : List Attempt) :
    (attempts.map (Attempt.through reader)).filterMap startEvent? =
      attempts.filterMap startEvent? := by
  rw [List.filterMap_map]
  rfl

namespace History

def through (reader : Reader) (history : History) : History :=
  { history with
    base := history.base.through reader
    attempts := history.attempts.map (Attempt.through reader) }

theorem cutShort_through (reader : Reader) (request : Request) (course : Course) (base : Target)
    (durationMs : Int) :
    cutShort request (course.planning (base.through reader)) durationMs =
      cutShort request (course.planning base) durationMs := by
  have hcount : (course.planning (base.through reader)).invocations.length =
      (course.planning base).invocations.length := by
    simp only [Course.planning, Course.invocations_through, List.length_map]
  rw [cutShort, cutShort, hcount]
  rfl

/-- Nothing that is concluded from a history depends on the reader that its targets hold. -/
theorem conclude_through (reader : Reader) (history : History) (request : Request)
    (start : Binary64) :
    (history.through reader).conclude request start = history.conclude request start := by
  simp only [conclude, through, Collection.ofAttempts_through, startEvents_through,
    cutShort_through]
  rfl

theorem ofChecks_agree (hagree : first.AgreeOn types second)
    (hconsults : ∀ check ∈ checks, check.Consults types) (base : Target) (clock : Clock) :
    ofChecks context (base.through second) checks clock =
      (ofChecks context (base.through first) checks clock).through second := by
  have htaken := Course.taken_ofChecks context (base.through first) checks clock
  rw [ofChecks_prompt, ofChecks_prompt, ← Course.ofChecks_agree hagree hconsults]
  generalize Course.ofChecks context (base.through first) checks clock = course at htaken ⊢
  have hplanned : ∀ invocation ∈ course.invocations base, invocation.check.Consults types :=
    fun invocation hmem => hconsults _ (htaken.check_mem invocation hmem)
  rw [Course.invocations_through, Course.invocations_through,
    Attempt.ofInvocations_agree hagree hplanned]
  dsimp only
  split
  · rfl
  · rfl

/-- The runs of checks that consult some types are one run, whichever of two readers that agree on
these types it is made through. -/
theorem ofRun_agree {registry : Registry} (hagree : first.AgreeOn types second)
    (hconsults : ∀ check ∈ registry.checks, check.Consults types) (request : Request)
    (clock : Clock) :
    ofRun registry second request clock =
      (ofRun registry first request clock).map (History.through second) := by
  rw [ofRun, ofRun]
  cases Context.withTimeout request.timeout clock.now with
  | error fault => rfl
  | ok context =>
    dsimp only
    cases hresolved : resolve registry request.selectors request.category with
    | error fault => rfl
    | ok checks =>
      have hchosen : ∀ check ∈ checks, check.Consults types :=
        fun check hmem => hconsults check (mem_of_mem_resolve hresolved check hmem)
      exact congrArg Except.ok (ofChecks_agree hagree hchosen
        ⟨first, request.current, request.target, none⟩ clock)

end History

/-- A run of checks that consult some types is the same through all readers that agree on them. -/
theorem execute_agree {registry : Registry} (hagree : first.AgreeOn types second)
    (hconsults : ∀ check ∈ registry.checks, check.Consults types) (request : Request) :
    execute registry first request = execute registry second request := by
  funext clock
  have hrun := History.ofRun_agree hagree hconsults request clock
  have hfirst := execute_runAt registry first request clock .prompt
  have hsecond := execute_runAt registry second request clock .prompt
  cases hhistory : History.ofRun registry first request clock with
  | error fault =>
    rw [hhistory] at hfirst hrun
    rw [hrun] at hsecond
    exact hfirst.trans hsecond.symm
  | ok history =>
    rw [hhistory] at hfirst hrun
    rw [hrun] at hsecond
    refine hfirst.trans (Eq.trans ?_ hsecond.symm)
    dsimp only [Except.map]
    rw [History.conclude_through]
    rfl

/-! ## Snapshots -/

/-- Snapshots with the same objects of some well-known types are readers that agree on them. -/
theorem agreeOn_ofSnapshot {documents others : List Document} {one other : Snapshot}
    (hone : Snapshot.ofDocuments documents none = .ok one)
    (hother : Snapshot.ofDocuments others none = .ok other)
    (hknown : ∀ t ∈ types, t ∈ ResourceType.wellKnown)
    (hsame : ∀ t ∈ types, one.objects.filter (t.covers ·) = other.objects.filter (t.covers ·)) :
    (Reader.ofSnapshot one).AgreeOn types (.ofSnapshot other) := by
  intro t ht
  have hserved {s : Snapshot} (hgrown : Snapshot.Grown s) : t ∈ s.served :=
    (hgrown.served_iff t).2 (.inl (hknown t ht))
  have hlists : one.list t = other.list t :=
    calc one.list t
        = .ok (one.objects.filter (t.covers ·)) :=
          Snapshot.list_of_served (hserved (Snapshot.grown_of_ofDocuments hone).1)
      _ = .ok (other.objects.filter (t.covers ·)) := congrArg Except.ok (hsame t ht)
      _ = other.list t :=
          (Snapshot.list_of_served (hserved (Snapshot.grown_of_ofDocuments hother).1)).symm
  exact congrArg Action.ofExcept hlists

/-- Running the catalogue in the prompt pool on two snapshots comes to the same when each of the
consulted types covers the same objects in both, however these objects stand among each other and
among further ones. -/
theorem execute_relevant {documents others : List Document} {one other : Snapshot}
    {registry : Registry} (hregistry : Catalog.registry = .ok registry)
    (hone : Snapshot.ofDocuments documents none = .ok one)
    (hother : Snapshot.ofDocuments others none = .ok other)
    (hsame : ∀ t ∈ Catalog.consulted,
      one.objects.filter (t.covers ·) = other.objects.filter (t.covers ·)) (request : Request) :
    execute registry (.ofSnapshot one) request = execute registry (.ofSnapshot other) request := by
  have hchecks : registry = ⟨Catalog.checks, false⟩ := Except.ok.inj hregistry.symm
  have hconsults : ∀ check ∈ registry.checks, check.Consults Catalog.consulted := by
    rw [hchecks]
    exact fun check hmem => Catalog.consults_of_mem hmem
  have hknown : ∀ t ∈ Catalog.consulted, t ∈ ResourceType.wellKnown := by decide
  exact execute_agree (agreeOn_ofSnapshot hone hother hknown hsame) hconsults request

/-- An object that states its API version and its kind, and nothing else. -/
def bare (apiVersion kind : String) : Manifest :=
  ⟨[(.text "apiVersion", .text apiVersion), (.text "kind", .text kind)]⟩

/-- A notebook before a Ray cluster comes to the same as the two the other way round, with an
object of an unknown type among them. -/
theorem execute_relevant_rearranged :
    ∃ registry one other,
      Catalog.registry = .ok registry ∧ one.objects ≠ other.objects ∧
      one.served ≠ other.served ∧
      ∀ request, execute registry (.ofSnapshot one) request =
        execute registry (.ofSnapshot other) request := by
  let unknown : ResourceType := ⟨"", "v1", "ConfigMap", "configmaps", false⟩
  let notebook := bare "kubeflow.org/v1" "Notebook"
  let cluster := bare "ray.io/v1" "RayCluster"
  let settings := bare "v1" "ConfigMap"
  let one : Snapshot := ⟨ResourceType.wellKnown, [notebook, cluster]⟩
  let other : Snapshot :=
    ⟨ResourceType.wellKnown ++ [unknown], [settings, cluster, settings, notebook]⟩
  have hone : Snapshot.ofDocuments (one.objects.map (.map ·.entries)) none = .ok one := rfl
  have hother : Snapshot.ofDocuments (other.objects.map (.map ·.entries)) none = .ok other := rfl
  have hsame : ∀ t ∈ Catalog.consulted,
      one.objects.filter (t.covers ·) = other.objects.filter (t.covers ·) := by
    intro t ht
    simp only [Catalog.consulted, List.mem_cons, List.not_mem_nil, or_false] at ht
    rcases ht with rfl | rfl | rfl | rfl | rfl | rfl <;> rfl
  refine ⟨_, one, other, rfl, ?_, ?_, execute_relevant rfl hone hother hsame⟩
  · exact fun heq => by cases congrArg List.length heq
  · exact fun heq => by cases congrArg List.length heq

end Preflight.Run
