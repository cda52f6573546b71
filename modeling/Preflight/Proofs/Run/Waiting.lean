import Preflight.Proofs.Run.Collection

/-!
# What waiting leaves of a task

A pool decides what a run sees of its tasks, not what they do: whatever is seen of a task is what it
came to, or that time ran out, or that the wait for it would have been too long.  Without a deadline
there is no end to a wait, so a run sees everything, apart from invocations that it does not wait
for because it takes itself to be over.
-/

namespace Preflight.Run

open Preflight.Action

namespace Pool

variable {α : Type} {pool : Pool} {context : Context} {start finish : Clock}
variable {outcome : Except Fault α}

theorem seen_of_remaining_eq_none (hendless : context.remaining start.now = none)
    (progress : Progress) : pool.seen context progress start finish outcome = outcome := by
  rw [seen, hendless]
  exact ite_self outcome

theorem seen_eq_or (pool : Pool) (context : Context) (progress : Progress) (start finish : Clock)
    (outcome : Except Fault α) : pool.seen context progress start finish outcome = outcome ∨
      pool.seen context progress start finish outcome = .error (.range .waitTooLong) ∨
      pool.seen context progress start finish outcome = .error (.reported .timeout "") := by
  rw [seen]
  split
  · exact .inl rfl
  split
  · exact .inl rfl
  split
  · exact .inr (.inl rfl)
  split
  · exact .inl rfl
  · exact .inr (.inr rfl)

/-- Without a deadline the pool lists what the reader lists. -/
theorem lister_unlimited (pool : Pool) (reader : Reader) :
    pool.lister .unlimited reader = reader := by
  have hlist : (pool.lister .unlimited reader).list = reader.list := by
    funext type clock
    exact congrArg (fun outcome => (outcome, ((reader.list type).runAt clock).2))
      (seen_of_remaining_eq_none rfl _)
  cases reader
  exact congrArg (Reader.mk · _) hlist

/-- A listing that is handed to a pool takes the time that it takes. -/
theorem runAt_list_lister (pool : Pool) (context : Context) (reader : Reader) (type : ResourceType)
    (clock : Clock) : ((pool.lister context reader).list type).runAt clock =
      (pool.seen context (pool.listing type clock) clock ((reader.list type).runAt clock).2
        ((reader.list type).runAt clock).1, ((reader.list type).runAt clock).2) := rfl

end Pool

namespace Attempt

variable {pool : Pool} {sequence : Nat} {isOver : Bool} {clock : Clock}

/-- What becomes of an invocation that is left when the run is over. -/
def leftOver (invocation : Invocation) : Attempt := ⟨invocation, false, .error .deadlinePassed⟩

/-- An invocation that has ended is found to come to what its check answers. -/
theorem found_of_ended (hended : pool.invocation sequence = .ended) (context : Context)
    (isOver : Bool) (invocation : Invocation) (moment : Clock) :
    found pool context sequence isOver invocation moment = answer context invocation moment := by
  rw [found, Pool.collected, hended]
  cases isOver <;> rfl

/-- An invocation that has not ended is passed over when the run is taken to be over. -/
theorem found_of_passedOver (hunended : pool.invocation sequence ≠ .ended) (context : Context)
    (invocation : Invocation) (moment : Clock) :
    found pool context sequence true invocation moment = .error (.reported .timeout "") := by
  rw [found, Pool.collected]
  exact if_pos (by simpa [Progress.isEnded] using hunended)

theorem found_of_awaited (context : Context) (invocation : Invocation) (moment : Clock) :
    found pool context sequence false invocation moment =
      pool.seen context (pool.invocation sequence) moment
        ((invocation.check.validate context invocation.target).runAt moment).2
        (answer context invocation moment) := rfl

/-- When the run is over, nothing that is left is tried, whatever the pool. -/
theorem ofInvocations_run_of_over {context : Context} (hover : context.expired clock.now)
    (invocations : List Invocation) (pool : Pool) (sequence : Nat) (isOver : Bool) :
    (ofInvocations context invocations pool sequence isOver).run clock =
      (invocations.map leftOver, clock) := by
  induction invocations generalizing sequence isOver with
  | nil => rfl
  | cons invocation rest ih =>
    rw [ofInvocations, run_bind, run_bind, ofInvocation_run_pool, if_pos hover]
    dsimp only
    rw [ih]
    rfl

end Attempt

end Preflight.Run
