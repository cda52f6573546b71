import Preflight.Proofs.Manifest.Describe
import Preflight.Proofs.Rows
import Preflight.Run.Execute

/-!
# What collecting makes of attempts

Every attempt ends in one of three ways: its result is collected, its failure is recorded, or it is
abandoned.  Collecting takes the three lists apart from the row of attempts; it can fail only
where the target of an attempt cannot be described.
-/

namespace Preflight.Run

open Preflight.Action

namespace Attempt

/-- What the check of an invocation comes to when it looks at the target at some moment. -/
def answer (context : Context) (invocation : Invocation) (moment : Clock) : Except Fault Result :=
  match ((invocation.check.validate context invocation.target).runAt moment).1 with
  | .ok returned => accept returned
  | .error cause => .error cause

/-- How an invocation can have been tried: the run was over by then, or its check answered. -/
inductive Made (context : Context) (invocation : Invocation) : Attempt → Prop where
  | late {moment : Clock} (hover : context.expired moment.now) :
      Made context invocation ⟨invocation, false, .error .deadlinePassed⟩
  | answered {moment : Clock} (hbefore : ¬context.expired moment.now) :
      Made context invocation ⟨invocation, true, answer context invocation moment⟩

def execution? (attempt : Attempt) (sequence : Nat) : Option Execution :=
  match attempt.outcome, attempt.invocation.check.category with
  | .ok result, .known category =>
    some ⟨attempt.invocation.check.id, category, sequence, result⟩
  | _, _ => none

def incident? (attempt : Attempt) : Option Incident :=
  match attempt.outcome with
  | .ok _ => none
  | .error cause =>
    if cause.isAbandonment then none
    else some ⟨attempt.invocation.check.id, .invocation attempt.invocation.target.place, cause⟩

/-- What an observer sees when the attempt is collected. -/
def completion? (attempt : Attempt) : Option Event :=
  if attempt.isAbandoned then none
  else some (.completed attempt.invocation.check.id attempt.invocation.target.place
    attempt.outcome.isOk)

/-- An attempt of a check with a category ends in exactly one of the three ways. -/
theorem ends_once (attempt : Attempt) (sequence : Nat) {category : Category}
    (hcategory : attempt.invocation.check.category = .known category) :
    (attempt.execution? sequence).toList.length + attempt.incident?.toList.length +
      attempt.isAbandoned.toNat = 1 := by
  cases houtcome : attempt.outcome with
  | ok result => simp [execution?, incident?, isAbandoned, houtcome, hcategory]
  | error cause =>
    cases habandonment : cause.isAbandonment <;>
      simp [execution?, incident?, isAbandoned, houtcome, habandonment]

/-- An execution has the number under which it was collected, and the rest from its attempt. -/
theorem of_execution? {attempt : Attempt} {sequence : Nat} {execution : Execution}
    (hexecution : attempt.execution? sequence = some execution) :
    execution.checkId = attempt.invocation.check.id ∧
      attempt.invocation.check.category = .known execution.category ∧
      execution.sequence = sequence ∧ attempt.outcome = .ok execution.result := by
  rw [execution?] at hexecution
  split at hexecution
  · rename_i houtcome hcategory
    cases hexecution
    exact ⟨rfl, hcategory, rfl, houtcome⟩
  · cases hexecution

/-- An attempt that was abandoned leaves neither an execution nor an incident. -/
theorem execution?_of_isAbandoned {attempt : Attempt} (habandoned : attempt.isAbandoned)
    (sequence : Nat) : attempt.execution? sequence = none := by
  rw [isAbandoned] at habandoned
  rw [execution?]
  split
  · rename_i houtcome hcategory
    rw [houtcome] at habandoned
    cases habandoned
  · rfl

theorem incident?_of_isAbandoned {attempt : Attempt} (habandoned : attempt.isAbandoned) :
    attempt.incident? = none := by
  rw [isAbandoned] at habandoned
  rw [incident?]
  split
  · rfl
  · rename_i cause houtcome
    rw [houtcome] at habandoned
    exact if_pos habandoned

/-- What the run that waits for an invocation finds, if its check is asked at some moment. -/
def found (pool : Pool) (context : Context) (sequence : Nat) (isOver : Bool)
    (invocation : Invocation) (moment : Clock) : Except Fault Result :=
  pool.collected context sequence isOver moment
    ((invocation.check.validate context invocation.target).runAt moment).2
    (answer context invocation moment)

/-- Trying an invocation in time is asking its check for an answer, and finding what the pool lets
see of it. -/
theorem ofInvocation_run_pool (context : Context) (invocation : Invocation) (pool : Pool)
    (sequence : Nat) (isOver : Bool) (clock : Clock) :
    (ofInvocation context invocation pool sequence isOver).run clock =
      if context.expired clock.now then (⟨invocation, false, .error .deadlinePassed⟩, clock)
      else
        (⟨invocation, !isOver || pool.invocation sequence != .pending,
            found pool context sequence isOver invocation clock⟩,
          ((invocation.check.validate context invocation.target).runAt clock).2) := by
  rw [ofInvocation, run_unlessOver, run_bind, found, answer]
  cases hvalidate : (invocation.check.validate context invocation.target).runAt clock with
  | mk returned later =>
    rw [show (invocation.check.validate context invocation.target).outcome.run clock =
      (returned, later) from hvalidate]
    cases returned <;> rfl

/-- In the prompt pool the answer of the check is what is found. -/
theorem ofInvocation_run (context : Context) (invocation : Invocation) (clock : Clock) :
    (ofInvocation context invocation).run clock =
      if context.expired clock.now then (⟨invocation, false, .error .deadlinePassed⟩, clock)
      else (⟨invocation, true, answer context invocation clock⟩,
        ((invocation.check.validate context invocation.target).runAt clock).2) :=
  ofInvocation_run_pool context invocation .prompt 0 false clock

theorem ofInvocation_prompt (context : Context) (invocation : Invocation) (sequence : Nat)
    (isOver : Bool) :
    ofInvocation context invocation .prompt sequence isOver = ofInvocation context invocation := by
  funext clock
  have hrun := ofInvocation_run_pool context invocation .prompt sequence isOver clock
  cases isOver <;> exact hrun.trans (ofInvocation_run context invocation clock).symm

/-- In the prompt pool it makes no difference whether the run is taken to be over. -/
theorem ofInvocations_prompt (context : Context) (invocations : List Invocation) (sequence : Nat)
    (isOver : Bool) :
    ofInvocations context invocations .prompt sequence isOver =
      ofInvocations context invocations := by
  induction invocations generalizing sequence isOver with
  | nil => rfl
  | cons invocation rest ih =>
    simp only [ofInvocations, ofInvocation_prompt, ih]

theorem ofInvocations_cons (context : Context) (invocation : Invocation) (rest : List Invocation) :
    ofInvocations context (invocation :: rest) = do
      let attempt ← ofInvocation context invocation
      let later ← ofInvocations context rest
      return attempt :: later := by
  simp only [ofInvocations, ofInvocations_prompt]

theorem made_ofInvocation (context : Context) (invocation : Invocation) (clock : Clock) :
    Made context invocation ((ofInvocation context invocation).run clock).1 := by
  rw [ofInvocation_run]
  split
  · rename_i hover
    exact .late hover
  · rename_i hbefore
    exact .answered hbefore

theorem made_ofInvocations (context : Context) (invocations : List Invocation) (clock : Clock) :
    List.Forall₂ (Made context) invocations ((ofInvocations context invocations).run clock).1 := by
  induction invocations generalizing clock with
  | nil => exact .nil
  | cons invocation rest ih =>
    rw [ofInvocations_cons, run_bind, run_bind]
    exact .cons (made_ofInvocation context invocation clock) (ih _)

theorem Made.invocation_eq {context : Context} {invocation : Invocation} {attempt : Attempt}
    (hmade : Made context invocation attempt) : attempt.invocation = invocation := by
  cases hmade <;> rfl

theorem map_invocation_of_made {context : Context} {invocations : List Invocation}
    {attempts : List Attempt} (hmade : List.Forall₂ (Made context) invocations attempts) :
    attempts.map (·.invocation) = invocations := by
  induction hmade with
  | nil => rfl
  | cons hfirst hrest ih => rw [List.map_cons, hfirst.invocation_eq, ih]

theorem made_of_mem {context : Context} {invocations : List Invocation} {attempts : List Attempt}
    (hmade : List.Forall₂ (Made context) invocations attempts) :
    ∀ attempt ∈ attempts, Made context attempt.invocation attempt := by
  induction hmade with
  | nil => simp
  | cons hfirst hrest ih =>
    rw [← hfirst.invocation_eq] at hfirst
    exact List.forall_mem_cons.2 ⟨hfirst, ih⟩

end Attempt

namespace Collection

def executionsOf (sequence : Nat) (attempts : List Attempt) : List Execution :=
  (attempts.zipIdx sequence).filterMap fun (attempt, position) => attempt.execution? position

/-- The executions are those of the attempts at their positions. -/
theorem mem_executionsOf {attempts : List Attempt} {execution : Execution} :
    execution ∈ executionsOf 0 attempts ↔ ∃ attempt,
      attempts[execution.sequence]? = some attempt ∧
        attempt.execution? execution.sequence = some execution := by
  simp only [executionsOf, List.mem_filterMap, Prod.exists, List.mem_zipIdx_iff_getElem?]
  constructor
  · rintro ⟨attempt, position, hattempt, hexecution⟩
    obtain ⟨-, -, rfl, -⟩ := Attempt.of_execution? hexecution
    exact ⟨attempt, hattempt, hexecution⟩
  · rintro ⟨attempt, hattempt, hexecution⟩
    exact ⟨attempt, _, hattempt, hexecution⟩

/-- The attempts taken apart by how they ended. -/
def summary (sequence : Nat) (attempts : List Attempt) : Collection where
  executions := executionsOf sequence attempts
  incidents := attempts.filterMap Attempt.incident?
  abandoned := attempts.countP Attempt.isAbandoned
  events := attempts.filterMap Attempt.completion?

theorem executionsOf_cons (sequence : Nat) (attempt : Attempt) (rest : List Attempt) :
    executionsOf sequence (attempt :: rest) =
      (attempt.execution? sequence).toList ++ executionsOf (sequence + 1) rest := by
  cases hexecution : attempt.execution? sequence <;>
    simp [executionsOf, List.zipIdx_cons, hexecution]

theorem add_summary (attempt : Attempt) (sequence : Nat) (rest : List Attempt) :
    (summary (sequence + 1) rest).add attempt attempt.invocation.target.place sequence =
      summary sequence (attempt :: rest) := by
  cases houtcome : attempt.outcome with
  | ok result =>
    cases hcategory : attempt.invocation.check.category <;>
      simp [add, summary, executionsOf_cons, Attempt.execution?, Attempt.incident?,
        Attempt.isAbandoned, Attempt.completion?, houtcome, hcategory, Except.isOk, Except.toBool]
  | error cause =>
    cases habandonment : cause.isAbandonment <;>
      simp [add, summary, executionsOf_cons, Attempt.execution?, Attempt.incident?,
        Attempt.isAbandoned, Attempt.completion?, houtcome, habandonment, Except.isOk,
        Except.toBool]

/-- Attempts whose targets can all be described are collected, each as it ended. -/
theorem ofAttempts_eq_summary {attempts : List Attempt}
    (hdescribable : ∀ attempt ∈ attempts, attempt.invocation.target.Describable)
    (sequence : Nat) : ofAttempts sequence attempts = .ok (summary sequence attempts) := by
  induction attempts generalizing sequence with
  | nil => rfl
  | cons attempt rest ih =>
    obtain ⟨hfirst, hrest⟩ := List.forall_mem_cons.1 hdescribable
    simp only [ofAttempts, hfirst.describe_eq, ih hrest, add_summary]

theorem describable_of_ofAttempts {attempts : List Attempt} {sequence : Nat}
    {collection : Collection} (hok : ofAttempts sequence attempts = .ok collection) :
    ∀ attempt ∈ attempts, attempt.invocation.target.Describable := by
  induction attempts generalizing sequence collection with
  | nil => simp
  | cons attempt rest ih =>
    rw [ofAttempts] at hok
    split at hok
    · cases hok
    rename_i place hplace
    split at hok
    · cases hok
    rename_i later hlater
    exact List.forall_mem_cons.2 ⟨⟨place, hplace⟩, ih hlater⟩

/-- Each attempt is counted once among the executions, the recorded failures and the abandoned. -/
theorem length_summary {attempts : List Attempt}
    (hcategory : ∀ attempt ∈ attempts,
      ∃ category, attempt.invocation.check.category = .known category) (sequence : Nat) :
    (executionsOf sequence attempts).length + (attempts.filterMap Attempt.incident?).length +
      attempts.countP Attempt.isAbandoned = attempts.length := by
  induction attempts generalizing sequence with
  | nil => rfl
  | cons attempt rest ih =>
    obtain ⟨⟨category, hknown⟩, hrest⟩ := List.forall_mem_cons.1 hcategory
    have honce := attempt.ends_once sequence hknown
    have hlater := ih hrest (sequence + 1)
    have hincidents : ((attempt :: rest).filterMap Attempt.incident?).length =
        attempt.incident?.toList.length + (rest.filterMap Attempt.incident?).length := by
      cases hincident : attempt.incident? <;> simp [hincident, Nat.add_comm]
    have habandoned : (attempt :: rest).countP Attempt.isAbandoned =
        attempt.isAbandoned.toNat + rest.countP Attempt.isAbandoned := by
      cases hcut : attempt.isAbandoned <;> simp [hcut, Nat.add_comm]
    rw [executionsOf_cons, hincidents, habandoned, List.length_append, List.length_cons]
    omega

end Collection

end Preflight.Run
