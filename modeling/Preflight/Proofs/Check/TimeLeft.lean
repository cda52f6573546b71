import Preflight.Check.Basic
import Preflight.Proofs.Action
import Preflight.Proofs.Binary64.Difference
import Preflight.Proofs.Check.Deadline

/-!
# What is left of a run

The time that is left only shrinks while a run goes on, and with a longer timeout there is at any
moment at least as much of it.
-/

namespace Preflight

open Binary64 (zero)
open Preflight.Action

theorem Clock.NotBefore.refl (clock : Clock) : clock.NotBefore clock := fun _ hle => hle

theorem Clock.NotBefore.trans {earlier later last : Clock} (hlast : last.NotBefore later)
    (hlater : later.NotBefore earlier) : last.NotBefore earlier :=
  fun moment hle => hlast moment (hlater moment hle)

namespace Action

variable {α β : Type}

/-- The action does not set the clock back. -/
def Ages (action : Action α) : Prop := ∀ clock, (action.runAt clock).2.NotBefore clock

theorem ages_pure (value : α) : (pure value : Action α).Ages := .refl

theorem ages_advance {seconds : Binary64} (hnonneg : zero.le seconds)
    (hfinite : seconds.isInfinite = false) : (advance seconds).Ages :=
  fun _ _ hle => Binary64.le_add_of_nonneg hle hnonneg hfinite

theorem Ages.bind {first : Action α} {next : α → Action β} (hfirst : first.Ages)
    (hnext : ∀ value, (next value).Ages) : (first >>= next).Ages := by
  intro clock
  have hlater := hfirst clock
  rw [runAt_bind]
  cases hrun : first.runAt clock with
  | mk result later =>
    rw [hrun] at hlater
    cases result with
    | ok value => exact (hnext value later).trans hlater
    | error fault => exact hlater

end Action

/-- Neither asking whether the check applies nor judging a target sets the clock back. -/
structure Check.Ages (check : Check) : Prop where
  canApply : ∀ current target, (check.canApply current target).Ages
  validate : ∀ context target, (check.validate context target).Ages

/-- Listing does not set the clock back. -/
def Reader.Ages (reader : Reader) : Prop := ∀ type, (reader.list type).Ages

namespace Context

theorem ages_raiseIfExpired (context : Context) : context.raiseIfExpired.Ages := by
  intro clock
  rw [raiseIfExpired, runAt_bind, runAt_now]
  dsimp only
  split <;> exact .refl clock

/-- The time from a moment to a deadline, zero once the deadline has come. -/
def left (deadline moment : Binary64) : Binary64 :=
  if moment.lt deadline then deadline.sub moment else zero

theorem remaining_deadline (deadline moment : Binary64) (cancelled : Bool) :
    remaining ⟨some deadline, cancelled⟩ moment = some (left deadline moment) := by
  simp only [remaining, Option.map_some, Binary64.zero_lt_sub, left]

theorem zero_le_left (deadline moment : Binary64) : zero.le (left deadline moment) := by
  rw [left]
  split
  · rename_i hbefore
    rw [← Binary64.zero_lt_sub] at hbefore
    exact Binary64.le_of_lt hbefore
  · rfl

theorem left_le_left_of_le {sooner deadline : Binary64} (hle : sooner.le deadline)
    (moment : Binary64) : (left sooner moment).le (left deadline moment) := by
  cases hbefore : moment.lt sooner with
  | false =>
    rw [left, hbefore]
    exact zero_le_left deadline moment
  | true =>
    rw [left, left, if_pos hbefore, if_pos (Binary64.lt_of_lt_of_le hbefore hle)]
    exact Binary64.sub_le_sub_right hle hbefore

theorem left_le_left_of_later {earlier later : Binary64} (hle : earlier.le later)
    (deadline : Binary64) : (left deadline later).le (left deadline earlier) := by
  cases hbefore : later.lt deadline with
  | false =>
    rw [left, hbefore]
    exact zero_le_left deadline earlier
  | true =>
    rw [left, left, if_pos hbefore, if_pos (Binary64.lt_of_le_of_lt hle hbefore)]
    exact Binary64.sub_le_sub_left hle hbefore

/-- Nothing is ever left before a deadline that is not a number. -/
theorem left_nan (moment : Binary64) : left .nan moment = zero := by
  cases moment <;> rfl

/-- Where the later of two deadlines is not a number, nothing is left before the sooner one. -/
theorem left_of_isNaN_later {now x y : Binary64} (hx : x ≠ .infinity true)
    (hy : y ≠ .infinity true) (hle : x.le y) (hnone : (now.add y).isNaN) (moment : Binary64) :
    left (now.add x) moment = zero := by
  have hsooner : now.add x = .nan ∨ now.add x = .infinity true := by
    cases now with
    | nan => exact .inl rfl
    | infinity a =>
      -- The start is infinitely long ago, and the time until the later deadline infinite.
      cases y with
      | nan => cases x <;> cases hle
      | finite c n hn => cases hnone
      | infinity c =>
        cases c with
        | true => exact absurd rfl hy
        | false =>
          cases a with
          | false => cases hnone
          | true =>
            cases x with
            | nan => exact .inl rfl
            | finite b m hm => exact .inr rfl
            | infinity b =>
              cases b with
              | true => exact absurd rfl hx
              | false => exact .inl rfl
    | finite a k hk =>
      cases y with
      | nan => cases x <;> cases hle
      | infinity c => cases hnone
      | finite c n hn =>
        have hnumber := Binary64.isNaN_ofUnits (a && c)
          (Binary64.signedUnits a k + Binary64.signedUnits c n)
        rw [Binary64.add, hnumber] at hnone
        cases hnone
  rcases hsooner with hnan | hinfinite
  · rw [hnan, left_nan]
  · rw [hinfinite, left]
    cases moment <;> simp [Binary64.lt]

/-- Counted from a start that is not a number, there is never any time. -/
theorem left_le_left_of_notBefore {clock later : Clock} (hlater : later.NotBefore clock)
    (seconds : Binary64) :
    (left (clock.now.add seconds) later.now).le (left (clock.now.add seconds) clock.now) := by
  cases hnumber : clock.now.isNaN with
  | true =>
    have hdeadline : clock.now.add seconds = .nan := by
      rw [Binary64.isNaN_iff.1 hnumber]
      rfl
    rw [hdeadline, left_nan, left_nan]
    rfl
  | false =>
    have hself : clock.now.le clock.now := Binary64.le_iff.2 ⟨hnumber, hnumber, Int.le_refl _⟩
    exact left_le_left_of_later (hlater clock.now hself) _

variable {timeout : Option Duration} {clock : Clock} {context : Context}

/-- While a run goes on, what is left of it gets less. -/
theorem exists_remaining_of_notBefore (hmade : withTimeout timeout clock.now = .ok context)
    {later : Clock} (hlater : later.NotBefore clock) {less : Binary64}
    (hless : context.remaining later.now = some less) :
    ∃ more, context.remaining clock.now = some more ∧ less.le more := by
  cases timeout with
  | none =>
    cases hmade
    cases hless
  | some duration =>
    cases hspent : duration.isSpent with
    | true =>
      simp only [withTimeout, hspent, if_true] at hmade
      cases hmade
      cases hless
    | false =>
      obtain ⟨seconds, -, rfl⟩ := (withTimeout_eq_ok_iff hspent).1 hmade
      rw [remaining_deadline] at hless ⊢
      cases hless
      exact ⟨_, rfl, left_le_left_of_notBefore hlater seconds⟩

/-- With a longer timeout there is at least as much time left. -/
theorem exists_remaining_of_longer {shorter : Duration} {longer : Option Duration}
    {early late : Context} (hunspent : shorter.isSpent = false)
    (hle : ∀ duration, longer = some duration → shorter.le duration)
    (hearly : withTimeout (some shorter) clock.now = .ok early)
    (hlate : withTimeout longer clock.now = .ok late) {moment more : Binary64}
    (hmore : late.remaining moment = some more) :
    ∃ less, early.remaining moment = some less ∧ less.le more := by
  obtain ⟨x, hx, rfl⟩ := (withTimeout_eq_ok_iff hunspent).1 hearly
  refine ⟨_, remaining_deadline _ _ _, ?_⟩
  cases longer with
  | none =>
    cases hlate
    cases hmore
  | some duration =>
    cases hspent : duration.isSpent with
    | true =>
      simp only [withTimeout, hspent, if_true] at hlate
      cases hlate
      cases hmore
    | false =>
      obtain ⟨y, hy, rfl⟩ := (withTimeout_eq_ok_iff hspent).1 hlate
      rw [remaining_deadline] at hmore
      cases hmore
      have hseconds := Duration.seconds_le_seconds (hle duration rfl) hx hy
      have hstart := Duration.seconds_ne_infinity hunspent hx
      cases hsum : (clock.now.add y).isNaN with
      | false => exact left_le_left_of_le (Binary64.add_le_add_left hstart hseconds hsum) moment
      | true =>
        rw [left_of_isNaN_later hstart (Duration.seconds_ne_infinity hspent hy) hseconds hsum]
        exact zero_le_left _ moment

end Context

end Preflight
