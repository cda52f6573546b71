import Preflight.Report.Basic
import Preflight.Run.Attempt
import Preflight.Run.Resolve

/-!
# Running checks

A run resolves the selectors, plans the invocations, tries all of them in order and then collects
the outcomes in the same order.  An outcome is an execution, an incident, or abandoned because the
run was over.  When planning was cut short nothing is tried.

Listings and invocations are left to a pool of workers, and the run waits for each of them.  Where
no pool is named, it is the one that works off its tasks while the run is not waiting, so that each
of them has ended by the time at which the run turns to it: no listing and no invocation is then cut
off on its way, and none that has been started is passed over.
-/

namespace Preflight.Run

/-- What an observer of the run sees. -/
inductive Event where
  | started (checkId : String) (resource : Option String)
  | completed (checkId : String) (resource : Option String) (hasResult : Bool)
  deriving DecidableEq, Repr

structure Request where
  selectors : List String
  category : Option Category
  current : Option Version
  target : Option Version
  timeout : Option Duration

structure Collection where
  executions : List Execution
  incidents : List Incident
  abandoned : Nat
  events : List Event

namespace Collection

def empty : Collection := ⟨[], [], 0, []⟩

/-- Adds the outcome of one attempt in front of the later ones. -/
def add (attempt : Attempt) (resource : Option String) (sequence : Nat) (later : Collection) :
    Collection :=
  let check := attempt.invocation.check
  match attempt.outcome with
  | .ok result =>
    let executions := match check.category with
      | .known category => [⟨check.id, category, sequence, result⟩]
      | .other _ => []
    { later with
      executions := executions ++ later.executions
      events := .completed check.id resource true :: later.events }
  | .error cause =>
    if cause.isAbandonment then { later with abandoned := later.abandoned + 1 }
    else
      { later with
        incidents := ⟨check.id, .invocation resource, cause⟩ :: later.incidents
        events := .completed check.id resource false :: later.events }

/-- Collects attempts from a position on.  A target that cannot be described ends the run. -/
def ofAttempts (sequence : Nat) : List Attempt → Except Fault Collection
  | [] => .ok empty
  | attempt :: rest =>
    match attempt.invocation.target.describe with
    | .error fault => .error fault
    | .ok resource =>
      match ofAttempts (sequence + 1) rest with
      | .error fault => .error fault
      | .ok later => .ok (later.add attempt resource sequence)

end Collection

structure Outcome where
  report : Report
  events : List Event

/-- The start of an attempt as an observer sees it. -/
def startEvent? (attempt : Attempt) : Option Event :=
  if attempt.started then
    match attempt.invocation.target.describe with
    | .ok resource => some (.started attempt.invocation.check.id resource)
    | .error _ => none
  else none

/-- The time between two moments in whole milliseconds. -/
def milliseconds (started finished : Binary64) : Except Fault Int :=
  let elapsed := (finished.sub started).mul (Binary64.ofInt 1000)
  match elapsed.truncate? with
  | some n => .ok n
  | none => .error (if elapsed.isNaN then .value .wholeOfNaN else .range .wholeOfInfinity)

/-- The report of a run whose planning was cut short: nothing was tried. -/
def cutShort (request : Request) (planning : Planning) (durationMs : Int) : Report where
  executions := []
  incidents := planning.incidents
  skipped := planning.skipped
  incomplete := true
  abandoned := planning.invocations.length + planning.abandonedChecks.length
  abandonedChecks := planning.abandonedChecks
  current := request.current
  target := request.target
  durationMs := durationMs

/-- The report of a run whose planned invocations were all collected. -/
def finished (request : Request) (planning : Planning) (collection : Collection)
    (durationMs : Int) : Report where
  executions := collection.executions
  incidents := planning.incidents ++ collection.incidents
  skipped := planning.skipped
  incomplete := decide (0 < collection.abandoned)
  abandoned := collection.abandoned
  abandonedChecks := []
  current := request.current
  target := request.target
  durationMs := durationMs

/-- Runs the selected checks against a reader. -/
def execute (registry : Registry) (reader : Reader) (request : Request) (pool : Pool := .prompt) :
    Action Outcome := do
  let start ← Action.now
  let context ← Action.ofExcept (Context.withTimeout request.timeout start)
  let checks ← Action.ofExcept (resolve registry request.selectors request.category)
  let planning ← Planning.ofChecks context ⟨reader, request.current, request.target, none⟩ checks
    (pool.lister context reader)
  if planning.abandonedChecks.isEmpty then
    let attempts ← Attempt.ofInvocations context planning.invocations pool
    let collection ← Action.ofExcept (Collection.ofAttempts 0 attempts)
    let durationMs ← Action.ofExcept (milliseconds start (← Action.now))
    return ⟨finished request planning collection durationMs,
      attempts.filterMap startEvent? ++ collection.events⟩
  else
    let durationMs ← Action.ofExcept (milliseconds start (← Action.now))
    return ⟨cutShort request planning durationMs, []⟩

end Preflight.Run
