import Preflight.Check.Context
import Preflight.Proofs.Fault

/-!
# Actions from a moment on

An action is run from a moment on and leaves a later one behind.  The equations below take a row of
actions apart without opening the layers of which actions are made.
-/

namespace Preflight

variable {α β : Type}

namespace Action

/-! ## Running an action -/

/-- What an action comes to when it starts at a moment, and the moment at which it ends. -/
def runAt (action : Action α) (clock : Clock) : Except Fault α × Clock :=
  action.outcome.run clock

def ReturnsAt (action : Action α) (clock : Clock) (value : α) : Prop :=
  (action.runAt clock).1 = .ok value

/-- The second of two actions starts when the first has succeeded; a failure of the first is the
failure of both. -/
theorem runAt_bind (action : Action α) (next : α → Action β) (clock : Clock) :
    (action >>= next).runAt clock =
      match action.runAt clock with
      | (.ok value, later) => (next value).runAt later
      | (.error fault, later) => (.error fault, later) := by
  simp only [runAt, outcome, ExceptT.run_bind, StateT.run_bind]
  cases hfirst : StateT.run (ExceptT.run action) clock with
  | mk result later => cases result <;> rfl

/-- A handler starts when the action has failed, with the time that was spent. -/
theorem runAt_tryCatch (action : Action α) (handler : Fault → Action α) (clock : Clock) :
    (tryCatch action handler).runAt clock =
      match action.runAt clock with
      | (.ok value, later) => (.ok value, later)
      | (.error fault, later) => (handler fault).runAt later := by
  simp only [runAt, outcome, ExceptT.run_tryCatch, StateT.run_bind]
  cases StateT.run (ExceptT.run action) clock with
  | mk result later => cases result <;> rfl

@[simp]
theorem runAt_ofExcept (result : Except Fault α) (clock : Clock) :
    (ofExcept result).runAt clock = (result, clock) := rfl

@[simp]
theorem runAt_now (clock : Clock) : now.runAt clock = (.ok clock.now, clock) := rfl

@[simp]
theorem runAt_liftM (step : StateM Clock α) (clock : Clock) :
    (liftM step : Action α).runAt clock = (.ok (step.run clock).1, (step.run clock).2) := rfl

/-! ## Steps that cannot fail -/

theorem run_bind (first : StateM Clock α) (next : α → StateM Clock β) (clock : Clock) :
    (first >>= next).run clock = (next (first.run clock).1).run (first.run clock).2 := rfl

/-- A step that first asks whether the run is over. -/
theorem run_unlessOver (context : Context) (ended next : Clock → StateM Clock α) (clock : Clock) :
    (get >>= fun present : Clock =>
      if context.expired present.now then ended present else next present).run clock =
      if context.expired clock.now then (ended clock).run clock else (next clock).run clock := by
  rw [run_bind]
  exact apply_ite (StateT.run · clock) _ (ended clock) (next clock)

end Action

end Preflight
