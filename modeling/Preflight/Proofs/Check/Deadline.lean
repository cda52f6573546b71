import Preflight.Check.Context
import Preflight.Proofs.Binary64.Order

/-!
# Longer timeouts end later

Lengths of time are compared exactly, whether they are whole numbers of seconds or not.  A deadline
is a sum that is rounded, and a timeout that is a whole number is rounded once more.  Neither turns
the order around: when the run with the longer timeout is over, the one with the shorter is too.
-/

namespace Preflight

namespace Binary64

/-- Whether a number is at least an exact count of units. -/
def isAtLeast (count : Int) : Binary64 → Bool
  | nan => false
  | infinity negative => !negative
  | finite negative units _ => decide (count ≤ signedUnits negative units)

/-- Whether a number is at most an exact count of units. -/
def isAtMost (count : Int) : Binary64 → Bool
  | nan => false
  | infinity negative => negative
  | finite negative units _ => decide (signedUnits negative units ≤ count)

theorem le_infinity {x : Binary64} (hnumber : x.isNaN = false) : x.le (infinity false) := by
  cases x with
  | nan => cases hnumber
  | infinity negative => exact Bool.or_true negative
  | finite negative units hunits => rfl

theorem infinity_le {x : Binary64} (hnumber : x.isNaN = false) : (infinity true).le x := by
  cases x with
  | nan => cases hnumber
  | infinity negative => rfl
  | finite negative units hunits => rfl

theorem ofUnits_le_of_isAtLeast (negativeZero : Bool) {count : Int} {x : Binary64}
    (hleast : x.isAtLeast count) : (ofUnits negativeZero count).le x := by
  cases x with
  | nan => cases hleast
  | infinity negative =>
    cases negative with
    | false => exact le_infinity (isNaN_ofUnits negativeZero count)
    | true => cases hleast
  | finite negative units hunits =>
    have hcount : count ≤ signedUnits negative units := of_decide_eq_true hleast
    have hrounded := (le_iff.1 (ofUnits_le_ofUnits negativeZero false hcount)).2.2
    rw [position_ofUnits_of_representable false negative hunits] at hrounded
    exact le_iff.2 ⟨isNaN_ofUnits negativeZero count, rfl, hrounded⟩

theorem le_ofUnits_of_isAtMost (negativeZero : Bool) {count : Int} {x : Binary64}
    (hmost : x.isAtMost count) : x.le (ofUnits negativeZero count) := by
  cases x with
  | nan => cases hmost
  | infinity negative =>
    cases negative with
    | false => cases hmost
    | true => exact infinity_le (isNaN_ofUnits negativeZero count)
  | finite negative units hunits =>
    have hcount : signedUnits negative units ≤ count := of_decide_eq_true hmost
    have hrounded := (le_iff.1 (ofUnits_le_ofUnits false negativeZero hcount)).2.2
    rw [position_ofUnits_of_representable false negative hunits] at hrounded
    exact le_iff.2 ⟨rfl, isNaN_ofUnits negativeZero count, hrounded⟩

end Binary64

namespace Duration

/-- At most as long; a NaN is comparable to nothing. -/
def le : Duration → Duration → Bool
  | whole m, whole n => decide (m ≤ n)
  | whole m, exact y => y.isAtLeast (m * Binary64.unitsPerOne)
  | exact x, whole n => x.isAtMost (n * Binary64.unitsPerOne)
  | exact x, exact y => x.le y

theorem seconds_whole {n : Int} {x : Binary64} (hseconds : (whole n).seconds = .ok x) :
    x = Binary64.ofInt n ∧ x.isInfinite = false := by
  rw [seconds] at hseconds
  split at hseconds
  · cases hseconds
  · rename_i hfinite
    cases hseconds
    exact ⟨rfl, by simpa using hfinite⟩

theorem seconds_le_seconds {shorter longer : Duration} {x y : Binary64} (hle : shorter.le longer)
    (hshorter : shorter.seconds = .ok x) (hlonger : longer.seconds = .ok y) : x.le y := by
  cases shorter with
  | whole m =>
    obtain ⟨rfl, -⟩ := seconds_whole hshorter
    cases longer with
    | whole n =>
      obtain ⟨rfl, -⟩ := seconds_whole hlonger
      have hunits : m * Binary64.unitsPerOne ≤ n * Binary64.unitsPerOne :=
        Int.mul_le_mul_of_nonneg_right (of_decide_eq_true hle) (Int.natCast_nonneg _)
      exact Binary64.ofUnits_le_ofUnits false false hunits
    | exact z =>
      cases hlonger
      exact Binary64.ofUnits_le_of_isAtLeast false hle
  | exact z =>
    cases hshorter
    cases longer with
    | whole n =>
      obtain ⟨rfl, -⟩ := seconds_whole hlonger
      exact Binary64.le_ofUnits_of_isAtMost false hle
    | exact w =>
      cases hlonger
      exact hle

/-- A duration that is not spent does not reach back without end. -/
theorem seconds_ne_infinity {duration : Duration} {x : Binary64}
    (hunspent : duration.isSpent = false) (hseconds : duration.seconds = .ok x) :
    x ≠ .infinity true := by
  rintro rfl
  cases duration with
  | whole n => cases (seconds_whole hseconds).2
  | exact z =>
    cases hseconds
    cases hunspent

end Duration

/-- Whatever has passed by a moment has passed by a later one. -/
def Clock.NotBefore (later earlier : Clock) : Prop :=
  ∀ moment : Binary64, moment.le earlier.now → moment.le later.now

namespace Context

/-- The context of a timeout that is not spent has the end of that time as its deadline. -/
theorem withTimeout_eq_ok_iff {duration : Duration} (hunspent : duration.isSpent = false)
    {now : Binary64} {context : Context} :
    withTimeout (some duration) now = .ok context ↔
      ∃ seconds, duration.seconds = .ok seconds ∧ context = ⟨some (now.add seconds), false⟩ := by
  simp only [withTimeout, hunspent, Bool.false_eq_true, if_false]
  cases duration.seconds with
  | error fault => simp [bind, Except.bind]
  | ok seconds => simp [bind, Except.bind, pure, Except.pure, eq_comm]

theorem expired_deadline (deadline now : Binary64) :
    expired ⟨some deadline, false⟩ now = deadline.le now := rfl

/-- Once a run is over, it stays over. -/
theorem expired_of_notBefore {context : Context} {earlier later : Clock}
    (hover : context.expired earlier.now) (hlater : later.NotBefore earlier) :
    context.expired later.now := by
  obtain ⟨deadline, cancelled⟩ := context
  cases cancelled with
  | true => rfl
  | false =>
    cases deadline with
    | none => cases hover
    | some deadline => exact hlater deadline hover

/-- The run with the shorter timeout is over whenever the one with the longer timeout is. -/
theorem expired_of_expired_longer {shorter : Duration} {longer : Option Duration} {now : Binary64}
    {early late : Context} (hunspent : shorter.isSpent = false)
    (hle : ∀ duration, longer = some duration → shorter.le duration)
    (hearly : withTimeout (some shorter) now = .ok early)
    (hlate : withTimeout longer now = .ok late)
    {moment : Binary64} (hover : late.expired moment) : early.expired moment := by
  obtain ⟨x, hx, rfl⟩ := (withTimeout_eq_ok_iff hunspent).1 hearly
  cases longer with
  | none =>
    cases hlate
    cases hover
  | some duration =>
    cases hspent : duration.isSpent with
    | true =>
      simp only [withTimeout, hspent, if_true] at hlate
      cases hlate
      cases hover
    | false =>
      obtain ⟨y, hy, rfl⟩ := (withTimeout_eq_ok_iff hspent).1 hlate
      rw [expired_deadline] at hover ⊢
      have hseconds := Duration.seconds_le_seconds (hle duration rfl) hx hy
      have hsum : (now.add y).isNaN = false := (Binary64.le_iff.1 hover).1
      -- Nothing reaches back without end, so the earlier deadline is a number if the later one is.
      have hstart := Duration.seconds_ne_infinity hunspent hx
      have hends := Binary64.add_le_add_left hstart hseconds hsum
      exact Binary64.le_trans hends hover

end Context

end Preflight
