import Preflight.Binary64.Basic
import Preflight.Fault

/-!
# Actions

What checks and readers do takes time and may fail.  An action is a computation that moves a clock
and ends with a value or a failure; a failure keeps the time that was spent.
-/

namespace Preflight

structure Clock where
  /-- Seconds since some fixed moment; they only serve to measure differences. -/
  now : Binary64
  /-- The calendar time put on conditions. -/
  calendar : Timestamp

abbrev Action := ExceptT Fault (StateM Clock)

namespace Action

/-- Runs an action, keeping a failure as a value. -/
def outcome {α : Type} (action : Action α) : StateM Clock (Except Fault α) := action.run

def ofExcept {α : Type} (result : Except Fault α) : Action α := ExceptT.mk (pure result)

def now : Action Binary64 := do return (← get).now

/-- The time put on a condition, in whole seconds. -/
def stamp : Action Timestamp := do return (← get).calendar.wholeSeconds

/-- Lets time pass. -/
def advance (seconds : Binary64) : Action Unit :=
  modify fun clock => { clock with now := clock.now.add seconds }

end Action

end Preflight
