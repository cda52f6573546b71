import Preflight.Run.Planning
import Preflight.Run.Pool

/-!
# Attempts

An attempt is an invocation that has been tried.  Invocations are tried in order; after the end of
the run they are not started any more.  A check has to return a result, and a well-formed one.

The run waits for its invocations in the same order.  Once one of them says that time has run out,
the run is taken to be over, whether or not it is: from then on only invocations that have ended are
looked at, and all others count as cut off.
-/

namespace Preflight.Run

structure Attempt where
  invocation : Invocation
  started : Bool
  outcome : Except Fault Result

namespace Attempt

/-- The result that was returned, if it is one and well-formed. -/
def accept : Returned → Except Fault Result
  | .other kindName => .error (.invalidResult (.notAResult kindName))
  | .result r =>
    match r.validate with
    | .ok () => .ok r
    | .error defect => .error (.invalidResult defect)

/-- Whether the attempt says that it was cut off. -/
def isAbandoned (attempt : Attempt) : Bool :=
  match attempt.outcome with
  | .ok _ => false
  | .error cause => cause.isAbandonment

/-- Tries the invocation in some place of the plan.  The last flag says that the run is taken to be
over. -/
def ofInvocation (context : Context) (invocation : Invocation) (pool : Pool := .prompt)
    (sequence : Nat := 0) (isOver : Bool := false) : StateM Clock Attempt := do
  let start ← get
  if context.expired start.now then return ⟨invocation, false, .error .deadlinePassed⟩
  let outcome := match ← (invocation.check.validate context invocation.target).outcome with
    | .ok returned => accept returned
    | .error fault => .error fault
  return ⟨invocation, !isOver || pool.invocation sequence != .pending,
    pool.collected context sequence isOver start (← get) outcome⟩

/-- Tries the invocations in order, from a place of the plan on. -/
def ofInvocations (context : Context) (invocations : List Invocation) (pool : Pool := .prompt)
    (sequence : Nat := 0) (isOver : Bool := false) : StateM Clock (List Attempt) :=
  match invocations with
  | [] => return []
  | invocation :: rest => do
    let attempt ← ofInvocation context invocation pool sequence isOver
    let later ← ofInvocations context rest pool (sequence + 1) (isOver || attempt.isAbandoned)
    return attempt :: later

end Attempt

end Preflight.Run
