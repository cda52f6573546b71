import Preflight.Proofs.Action
import Preflight.Proofs.Check.Deadline

/-!
# Work that heeds the end of a run

Work heeds the end of a run when all that it asks of its context is whether to stop, and when the
answer that it has to stop ends it.  With more time such work does the same, step by step, up to the
question that it would have been stopped at.
-/

namespace Preflight

namespace Action

variable {α : Type}

/-- Ends with the answer that the run is over, after whatever is left to tidy up. -/
def Resigns (action : Action α) : Prop :=
  ∀ clock : Clock, ∃ later : Clock,
    action.runAt clock = (.error .deadlinePassed, later) ∧ later.NotBefore clock

/-- Started at a moment, the action ends with the answer that the run is over, and so it is. -/
def CutOff (context : Context) (action : Action α) (clock : Clock) : Prop :=
  ∃ later, action.runAt clock = (.error .deadlinePassed, later) ∧ context.expired later.now

end Action

open Preflight.Action

/-- Work in a context of which it only asks whether to stop. -/
inductive Heeds : {α : Type} → (Context → Action α) → Prop where
  /-- Work that does not look at the context at all. -/
  | steady {α : Type} (action : Action α) : Heeds fun _ => action
  | poll : Heeds Context.raiseIfExpired
  | bind {α β : Type} {first : Context → Action α} {next : α → Context → Action β}
      (hfirst : Heeds first) (hnext : ∀ value, Heeds (next value)) :
      Heeds fun context => first context >>= fun value => next value context
  /-- Failures may be answered, but the answer that the run is over goes through. -/
  | rescue {α : Type} {body : Context → Action α} {handler : Fault → Context → Action α}
      (hbody : Heeds body) (hhandler : ∀ fault, Heeds (handler fault))
      (hpasses : ∀ context, (handler .deadlinePassed context).Resigns) :
      Heeds fun context => tryCatch (body context) fun fault => handler fault context

theorem Context.runAt_raiseIfExpired (context : Context) (clock : Clock) :
    context.raiseIfExpired.runAt clock =
      (if context.expired clock.now then .error .deadlinePassed else .ok (), clock) := by
  rw [raiseIfExpired, runAt_bind, runAt_now]
  dsimp only
  cases context.expired clock.now <;> rfl

/-- In a context that is over sooner, work goes on as in the other one or is cut off. -/
theorem Heeds.runAt_eq_or_cutOff {shorter longer : Context}
    (hsooner : ∀ moment, longer.expired moment → shorter.expired moment)
    {α : Type} {body : Context → Action α} (hheeds : Heeds body) (clock : Clock) :
    (body shorter).runAt clock = (body longer).runAt clock ∨
      (body shorter).CutOff shorter clock := by
  induction hheeds generalizing clock with
  | steady action => exact .inl rfl
  | poll =>
    by_cases hover : shorter.expired clock.now
    · right
      exact ⟨clock, by rw [Context.runAt_raiseIfExpired, if_pos hover], hover⟩
    · left
      have hgoes : ¬longer.expired clock.now := fun hlate => hover (hsooner clock.now hlate)
      rw [Context.runAt_raiseIfExpired, Context.runAt_raiseIfExpired, if_neg hover, if_neg hgoes]
  | bind hfirst hnext ihfirst ihnext =>
    rcases ihfirst clock with hsame | ⟨later, hcut, hover⟩
    · rw [CutOff, runAt_bind, runAt_bind, hsame]
      split
      · rename_i value later hvalue
        exact ihnext value later
      · exact .inl rfl
    · right
      exact ⟨later, by rw [runAt_bind, hcut], hover⟩
  | rescue hbody hhandler hpasses ihbody ihhandler =>
    rcases ihbody clock with hsame | ⟨later, hcut, hover⟩
    · rw [CutOff, runAt_tryCatch, runAt_tryCatch, hsame]
      split
      · exact .inl rfl
      · rename_i fault later hfault
        exact ihhandler fault later
    · right
      obtain ⟨finish, hresigns, hafter⟩ := hpasses shorter later
      refine ⟨finish, ?_, Context.expired_of_notBefore hover hafter⟩
      rw [runAt_tryCatch, hcut]
      exact hresigns

end Preflight
