import Preflight.Proofs.Binary64.Difference
import Preflight.Proofs.Check.Deadline
import Preflight.Proofs.Config.Accepted

/-!
# The two views of a deadline

Planning and invocation ask whether the deadline has come, collection and listing wait for the time
that is left.  One compares the moment with the deadline, the other takes a difference and cuts it
off at zero.  The two tell the same as long as the deadline is a number.  The rule that a timeout is
positive lets a NaN through, and for it nothing is ever left of a run that is never over.
-/

namespace Preflight

open Binary64 (zero)

namespace Duration

/-- The durations that are too long for a floating-point number are those whole numbers that are
rounded out of the format. -/
theorem exists_seconds_iff {duration : Duration} :
    (∃ x, duration.seconds = .ok x) ↔
      ∀ n : Int, duration = .whole n → n.natAbs < 2 ^ 1024 - 2 ^ 970 := by
  cases duration with
  | whole n =>
    have hlarge := Binary64.isInfinite_ofInt_iff (n := n)
    rw [seconds]
    split
    · rename_i hinfinite
      refine iff_of_false ?_ fun hsmall => ?_
      · rintro ⟨x, ⟨⟩⟩
      · exact Nat.not_lt.2 (hlarge.1 hinfinite) (hsmall n rfl)
    · rename_i hfinite
      refine iff_of_true ⟨_, rfl⟩ ?_
      rintro _ ⟨⟩
      exact Nat.not_le.1 (mt hlarge.2 hfinite)
  | exact x =>
    refine iff_of_true ⟨x, rfl⟩ ?_
    rintro n ⟨⟩

theorem isNaN_seconds_iff {duration : Duration} {x : Binary64}
    (hseconds : duration.seconds = .ok x) : x.isNaN ↔ duration = .exact .nan := by
  cases duration with
  | whole n =>
    obtain ⟨rfl, -⟩ := seconds_whole hseconds
    have hnumber : (Binary64.ofInt n).isNaN = false := Binary64.isNaN_ofUnits _ _
    rw [hnumber]
    exact iff_of_false Bool.false_ne_true nofun
  | exact y =>
    cases hseconds
    rw [Binary64.isNaN_iff, exact.injEq]

end Duration

namespace Context

/-- At the moment, the run is over exactly when no time is left. -/
def ViewsAgree (context : Context) (moment : Binary64) : Prop :=
  context.expired moment ↔ context.remaining moment = some zero

variable {deadline moment : Binary64}

theorem remaining_eq_zero_iff {cancelled : Bool} :
    remaining ⟨some deadline, cancelled⟩ moment = some zero ↔ moment.lt deadline = false := by
  simp only [remaining, Option.map_some, Option.some.injEq, Binary64.zero_lt_sub]
  cases hbefore : moment.lt deadline with
  | false => exact iff_of_true rfl rfl
  | true =>
    refine iff_of_false (fun hzero => ?_) nofun
    -- A difference that is positive is not zero.
    have hpositive := Binary64.zero_lt_sub deadline moment
    rw [if_pos rfl] at hzero
    rw [hbefore, hzero] at hpositive
    cases hpositive

theorem viewsAgree_iff (hmoment : moment.isNaN = false) :
    ViewsAgree ⟨some deadline, false⟩ moment ↔ deadline.isNaN = false := by
  rw [ViewsAgree, remaining_eq_zero_iff, expired_deadline]
  cases hnumber : deadline.isNaN with
  | false =>
    refine iff_of_true ?_ rfl
    rw [Binary64.lt_eq_not_le hmoment hnumber, Bool.not_eq_false']
  | true =>
    obtain rfl := Binary64.isNaN_iff.1 hnumber
    refine iff_of_false (fun hagree => ?_) nofun
    -- No moment is before a NaN, so nothing is left; and none is after it.
    have hnone : moment.lt .nan = false := by cases moment <;> rfl
    cases hagree.2 hnone

/-- A run that is over stays over; cancelling it changes nothing about that. -/
theorem expired_mono (deadline : Option Binary64) {before after : Bool} {earlier later : Binary64}
    (hcancelled : before → after) (hle : earlier.le later)
    (hover : expired ⟨deadline, before⟩ earlier) : expired ⟨deadline, after⟩ later := by
  rw [expired, Bool.or_eq_true] at hover ⊢
  refine hover.imp hcancelled fun hcome => ?_
  cases deadline with
  | none => cases hcome
  | some deadline => exact Binary64.le_trans hcome hle

/-- A context is made of every accepted timeout but the whole numbers that are rounded out of the
format.  At every moment from its start on, its two views agree exactly if the timeout is not a NaN;
and whatever the timeout, a run that is over stays over. -/
theorem views_agree_iff_not_nan {c : Config} (hvalid : c.validate = .ok ()) :
    ((∃ context, withTimeout (some c.timeout) zero = .ok context) ↔
      ∀ n : Int, c.timeout = .whole n → n.natAbs < 2 ^ 1024 - 2 ^ 970) ∧
    ∀ context, withTimeout (some c.timeout) zero = .ok context →
      context.deadline.isSome ∧ context.cancelled = false ∧
      (∀ moment : Binary64, zero.le moment →
        (context.ViewsAgree moment ↔ c.timeout ≠ .exact .nan)) ∧
      ∀ (before after : Bool) (earlier later : Binary64),
        (before → after) → earlier.le later →
          expired ⟨context.deadline, before⟩ earlier →
            expired ⟨context.deadline, after⟩ later := by
  have hunspent : c.timeout.isSpent = false := (Config.validate_eq_ok_iff.1 hvalid).time
  constructor
  · rw [← Duration.exists_seconds_iff]
    constructor
    · rintro ⟨context, hmade⟩
      obtain ⟨x, hseconds, -⟩ := (withTimeout_eq_ok_iff hunspent).1 hmade
      exact ⟨x, hseconds⟩
    · rintro ⟨x, hseconds⟩
      exact ⟨_, (withTimeout_eq_ok_iff hunspent).2 ⟨x, hseconds, rfl⟩⟩
  · intro context hmade
    obtain ⟨x, hseconds, rfl⟩ := (withTimeout_eq_ok_iff hunspent).1 hmade
    refine ⟨rfl, rfl, ?_, fun before after earlier later => expired_mono _⟩
    intro moment hstarted
    have hmoment : moment.isNaN = false := (Binary64.le_iff.1 hstarted).2.1
    rw [viewsAgree_iff hmoment, Binary64.isNaN_zero_add, ← Bool.not_eq_true,
      Duration.isNaN_seconds_iff hseconds]

/-- The configuration whose runs are over after an infinite time. -/
def endless : Config := { Config.standard with timeout := .exact (.infinity false) }

theorem validate_endless : endless.validate = .ok () :=
  Config.validate_eq_ok_iff.2 (Config.accepted_standard.retime rfl)

/-- When the infinite deadline has come, the difference is a NaN, and yet nothing is left. -/
theorem views_agree_endless :
    endless.validate = .ok () ∧
      ∃ context, withTimeout (some endless.timeout) zero = .ok context ∧
        context.ViewsAgree zero ∧ context.expired zero = false ∧
        context.ViewsAgree (.infinity false) ∧ context.expired (.infinity false) := by
  have hviews := views_agree_iff_not_nan validate_endless
  obtain ⟨context, hmade⟩ := hviews.1.2 nofun
  obtain ⟨-, -, hagree, -⟩ := hviews.2 context hmade
  refine ⟨validate_endless, context, hmade, (hagree zero rfl).2 nofun, ?_,
    (hagree (.infinity false) rfl).2 nofun, ?_⟩
  all_goals
    cases hmade
    rfl

/-- The configuration whose timeout is not a number. -/
def timeless : Config := { Config.standard with timeout := .exact .nan }

/-- Nothing is left of a run with that timeout from its start on, and it is not over. -/
theorem views_disagree_timeless :
    timeless.validate = .ok () ∧
      ∃ context, withTimeout (some timeless.timeout) zero = .ok context ∧
        context.cancelled = false ∧ zero.le zero ∧
        context.remaining zero = some zero ∧ context.expired zero = false ∧
        ¬context.ViewsAgree zero := by
  have hvalid : timeless.validate = .ok () :=
    Config.validate_eq_ok_iff.2 (Config.accepted_standard.retime rfl)
  refine ⟨hvalid, ⟨some .nan, false⟩, rfl, rfl, rfl, rfl, rfl, fun hagree => ?_⟩
  cases hagree.2 rfl

end Context

end Preflight
