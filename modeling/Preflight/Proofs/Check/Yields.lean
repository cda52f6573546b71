import Preflight.Proofs.Check.Heeding
import Preflight.Proofs.Manifest.Foreign

/-!
# What actions come to

An action yields values and failures of some kind if it comes to nothing else, at whatever moment it
starts.  An action that is made of others yields what its last step yields, as long as the failures
of every step are allowed.
-/

namespace Preflight

open Fault (Within within_ok within_error)

variable {α β : Type}

namespace Action

/-- From any moment on, the action comes to a value that meets the condition or to a failure that
is allowed. -/
def Yields (allowed : Fault → Prop) (meets : α → Prop) (action : Action α) : Prop :=
  ∀ clock,
    match (action.runAt clock).1 with
    | .ok value => meets value
    | .error fault => allowed fault

variable {allowed caught : Fault → Prop} {found : α → Prop} {meets : β → Prop}

theorem yields_pure {value : β} (hmeets : meets value) :
    (pure value : Action β).Yields allowed meets :=
  fun _ => hmeets

theorem yields_ofExcept {result : Except Fault α} (hwithin : Within allowed result) :
    (ofExcept result).Yields allowed fun _ => True := by
  intro clock
  rw [runAt_ofExcept]
  cases result with
  | ok value => trivial
  | error fault => exact hwithin fault rfl

theorem yields_stamp : stamp.Yields allowed fun _ => True := fun _ => trivial

theorem Yields.bind {first : Action α} {next : α → Action β} (hfirst : first.Yields allowed found)
    (hnext : ∀ value, found value → (next value).Yields allowed meets) :
    (first >>= next).Yields allowed meets := by
  intro clock
  have hthen := hfirst clock
  rw [runAt_bind]
  cases hrun : first.runAt clock with
  | mk result later =>
    rw [hrun] at hthen
    cases result with
    | ok value => exact hnext value hthen later
    | error fault => exact hthen

/-- Only the failures that are not handled have to be allowed. -/
theorem Yields.tryCatch {action : Action β} {handler : Fault → Action β}
    (haction : action.Yields caught meets)
    (hhandler : ∀ fault, caught fault → (handler fault).Yields allowed meets) :
    (tryCatch action handler).Yields allowed meets := by
  intro clock
  have hthen := haction clock
  rw [runAt_tryCatch]
  cases hrun : action.runAt clock with
  | mk result later =>
    rw [hrun] at hthen
    cases result with
    | ok value => exact hthen
    | error fault => exact hhandler fault hthen later

/-- A value that the action can come to meets the condition. -/
theorem Yields.meets_of_runAt {action : Action β} (hyields : action.Yields allowed meets)
    {clock : Clock} {value : β} (hrun : (action.runAt clock).1 = .ok value) : meets value := by
  have hthen := hyields clock
  rw [hrun] at hthen
  exact hthen

/-- A failure that the action can come to is allowed. -/
theorem Yields.within_runAt {action : Action β} (hyields : action.Yields allowed meets)
    (clock : Clock) : Within allowed (action.runAt clock).1 := by
  intro fault hrun
  have hthen := hyields clock
  rw [hrun] at hthen
  exact hthen

end Action

open Preflight.Action

theorem Context.yields_raiseIfExpired (context : Context) :
    context.raiseIfExpired.Yields Fault.IsForeign fun _ => True := by
  intro clock
  rw [runAt_raiseIfExpired]
  cases context.expired clock.now <;> trivial

end Preflight
