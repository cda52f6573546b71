import Preflight.Check.Context
import Preflight.Check.Reader

/-!
# Pools of workers

A run hands its listings and its invocations to workers, and waits for them one after the other.  A
task that has ended by then is taken as it is.  For any other the run waits from the moment at which
the task starts, at most as long as the run lasts; it cannot wait longer than a clock can count.
What a task does and how long it takes is its own affair, so a pool decides only what is seen of it:
the clock is that of the workers, and it goes on also when nobody waits any more.

Nothing else of a pool is described here.  Tasks are taken up in order and one after the other; what
several workers would do at the same time follows each other on one clock.  An invocation that is
dropped before a worker takes it up still takes its time on that clock, so a run that drops one is
said to have lasted longer than it did.
-/

namespace Preflight.Run

/-- How far a task has come by the time at which the run turns to it. -/
inductive Progress where
  | ended
  /-- Some worker is busy with it. -/
  | underway
  /-- No worker has taken it up. -/
  | pending
  deriving DecidableEq, Repr

namespace Progress

def isEnded (progress : Progress) : Bool := progress == ended

end Progress

structure Pool where
  /-- The longest wait that can be asked for, in seconds. -/
  longestWait : Binary64
  /-- How far the listing of a type has come that starts at some moment. -/
  listing : ResourceType → Clock → Progress
  /-- How far the invocation in some place of the plan has come. -/
  invocation : Nat → Progress

namespace Pool

/-- The pool in which every task has ended by the time at which the run turns to it. -/
def prompt : Pool where
  longestWait := .ofInt 9223372036
  listing _ _ := .ended
  invocation _ := .ended

/-- What a task is seen to come to that runs between two moments. -/
def seen {α : Type} (pool : Pool) (context : Context) (progress : Progress) (start finish : Clock)
    (outcome : Except Fault α) : Except Fault α :=
  if progress.isEnded then outcome
  else
    match context.remaining start.now with
    | none => outcome
    | some left =>
      if pool.longestWait.lt left then .error (.range .waitTooLong)
      else if (finish.now.sub start.now).le left then outcome
      else .error (.reported .timeout "")

/-- What the invocation in some place of the plan is seen to come to.  When the run is taken to be
over, it does not wait any more. -/
def collected {α : Type} (pool : Pool) (context : Context) (sequence : Nat) (isOver : Bool)
    (start finish : Clock) (outcome : Except Fault α) : Except Fault α :=
  let progress := pool.invocation sequence
  if isOver && !progress.isEnded then .error (.reported .timeout "")
  else pool.seen context progress start finish outcome

/-- The reader whose listings are handed to the pool and waited for. -/
def lister (pool : Pool) (context : Context) (reader : Reader) : Reader :=
  { reader with
    list := fun type => ExceptT.mk fun start =>
      let (outcome, finish) := (reader.list type).outcome.run start
      (pool.seen context (pool.listing type start) start finish outcome, finish) }

end Pool

end Preflight.Run
