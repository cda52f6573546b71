import Preflight.Action
import Preflight.Duration

/-!
# Run contexts

The context of a run says when it ends: at a deadline, if there is one, or as soon as it is
cancelled.  It can be asked at any time whether the run is over and how long it still lasts.
-/

namespace Preflight

structure Context where
  deadline : Option Binary64
  cancelled : Bool

namespace Context

/-- The context without an end. -/
def unlimited : Context := ⟨none, false⟩

/-- The context that ends after the timeout, counted from now; a spent timeout sets no deadline. -/
def withTimeout (timeout : Option Duration) (now : Binary64) : Except Fault Context :=
  match timeout with
  | none => .ok unlimited
  | some duration =>
    if duration.isSpent then .ok unlimited
    else do return ⟨some (now.add (← duration.seconds)), false⟩

/-- The seconds left before the deadline, never below zero. -/
def remaining (context : Context) (now : Binary64) : Option Binary64 :=
  context.deadline.map fun deadline =>
    let left := deadline.sub now
    if Binary64.zero.lt left then left else Binary64.zero

def expired (context : Context) (now : Binary64) : Bool :=
  context.cancelled ||
    match context.deadline with
    | none => false
    | some deadline => deadline.le now

/-- Fails once the run is over. -/
def raiseIfExpired (context : Context) : Action Unit := do
  if context.expired (← Action.now) then throw .deadlinePassed

end Context

end Preflight
