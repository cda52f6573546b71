import Preflight.Proofs.Binary64.Order

/-!
# Differences

A difference is rounded, and it overflows where the numbers are far apart; yet it is positive
exactly when its first number is the larger one.  So what is left before a moment and whether the
moment has come are told alike, though only one of the two is computed.  Nor does rounding turn
around which of two differences is the larger one.
-/

namespace Preflight

namespace Binary64

theorem isNaN_iff {x : Binary64} : x.isNaN ↔ x = nan := by
  cases x <;> simp [isNaN]

theorem lt_eq_not_le {x y : Binary64} (hx : x.isNaN = false) (hy : y.isNaN = false) :
    x.lt y = !y.le x := by
  cases x with
  | nan => cases hx
  | infinity a =>
    cases y with
    | nan => cases hy
    | infinity b => cases a <;> cases b <;> rfl
    | finite b n hn => exact (Bool.not_not a).symm
  | finite a m hm =>
    cases y with
    | nan => cases hy
    | infinity b => rfl
    | finite b n hn =>
      simp only [lt, le]
      rw [← decide_not, decide_eq_decide]
      exact Int.not_le.symm

theorem lt_iff {x y : Binary64} (hx : x.isNaN = false) (hy : y.isNaN = false) :
    x.lt y ↔ x.position < y.position := by
  rw [lt_eq_not_le hx hy, Bool.not_eq_true', ← Bool.not_eq_true, le_iff]
  constructor
  · intro hnot
    exact Int.not_le.1 fun hle => hnot ⟨hy, hx, hle⟩
  · rintro hlt ⟨-, -, hle⟩
    exact Int.not_le.2 hlt hle

/-- Rounding leaves no positive count without a unit. -/
theorem rounded_pos {n : Nat} (hpos : 0 < n) : 0 < rounded n := by
  have hone : rounded 1 = 1 :=
    rounded_of_representable ⟨1, 0, by decide, by decide, by decide⟩
  calc 0 < rounded 1 := by rw [hone]; exact Nat.one_pos
    _ ≤ rounded n := rounded_mono hpos

/-- The number nearest to a count has the sign of the count. -/
theorem position_ofUnits_pos_iff (negativeZero : Bool) (n : Int) :
    0 < (ofUnits negativeZero n).position ↔ 0 < n := by
  have hoverflow : 0 < overflow := lt_overflow representable_zero
  rw [position_ofUnits]
  rcases Int.lt_trichotomy n 0 with hneg | rfl | hpos
  · simp only [hneg, decide_true, signedUnits, if_true]
    omega
  · have hrounded : rounded (0 : Int).natAbs = 0 := rounded_of_representable representable_zero
    rw [hrounded, Nat.zero_min]
    exact Iff.rfl
  · have hrounded : 0 < rounded n.natAbs := rounded_pos (by omega)
    have hnonneg : ¬n < 0 := by omega
    simp only [hnonneg, decide_false, signedUnits, Bool.false_eq_true, if_false]
    omega

theorem zero_lt_ofUnits_iff (negativeZero : Bool) (n : Int) :
    zero.lt (ofUnits negativeZero n) ↔ 0 < n := by
  rw [lt_iff rfl (isNaN_ofUnits negativeZero n)]
  exact position_ofUnits_pos_iff negativeZero n

theorem signedUnits_not (negative : Bool) (units : Nat) :
    signedUnits (!negative) units = -signedUnits negative units := by
  cases negative <;> simp [signedUnits]

theorem zero_lt_sub (x y : Binary64) : zero.lt (x.sub y) = y.lt x := by
  cases x with
  | nan => cases y <;> rfl
  | infinity a =>
    cases y with
    | nan => rfl
    | infinity b => cases a <;> cases b <;> rfl
    | finite b n hn => rfl
  | finite a m hm =>
    cases y with
    | nan => rfl
    | infinity b => cases b <;> rfl
    | finite b n hn =>
      simp only [sub, neg, add]
      rw [Bool.eq_iff_iff, zero_lt_ofUnits_iff, signedUnits_not]
      simp only [lt, decide_eq_true_eq]
      omega

/-! ## Differences in order -/

theorem isNaN_of_lt {x y : Binary64} (hlt : x.lt y) : x.isNaN = false ∧ y.isNaN = false := by
  cases x with
  | nan => cases hlt
  | infinity a =>
    cases y with
    | nan => cases hlt
    | infinity b => exact ⟨rfl, rfl⟩
    | finite b n hn => exact ⟨rfl, rfl⟩
  | finite a m hm =>
    cases y with
    | nan => cases hlt
    | infinity b => exact ⟨rfl, rfl⟩
    | finite b n hn => exact ⟨rfl, rfl⟩

theorem le_of_lt {x y : Binary64} (hlt : x.lt y) : x.le y := by
  obtain ⟨hx, hy⟩ := isNaN_of_lt hlt
  exact le_iff.2 ⟨hx, hy, Int.le_of_lt ((lt_iff hx hy).1 hlt)⟩

theorem lt_of_lt_of_le {x y z : Binary64} (hlt : x.lt y) (hle : y.le z) : x.lt z := by
  obtain ⟨hx, hy⟩ := isNaN_of_lt hlt
  obtain ⟨-, hz, hpositions⟩ := le_iff.1 hle
  exact (lt_iff hx hz).2 (Int.lt_of_lt_of_le ((lt_iff hx hy).1 hlt) hpositions)

theorem lt_of_le_of_lt {x y z : Binary64} (hle : x.le y) (hlt : y.lt z) : x.lt z := by
  obtain ⟨hy, hz⟩ := isNaN_of_lt hlt
  obtain ⟨hx, -, hpositions⟩ := le_iff.1 hle
  exact (lt_iff hx hz).2 (Int.lt_of_le_of_lt hpositions ((lt_iff hy hz).1 hlt))

theorem add_comm (x y : Binary64) : x.add y = y.add x := by
  cases x with
  | nan => cases y <;> rfl
  | infinity a =>
    cases y with
    | nan => rfl
    | infinity b => cases a <;> cases b <;> rfl
    | finite b n hn => rfl
  | finite a m hm =>
    cases y with
    | nan => rfl
    | infinity b => rfl
    | finite b n hn =>
      simp only [add]
      rw [Bool.and_comm, Int.add_comm]

theorem neg_le_neg {x y : Binary64} (hle : x.le y) : y.neg.le x.neg := by
  cases x with
  | nan => cases hle
  | infinity a =>
    cases y with
    | nan => cases hle
    | infinity b => cases a <;> cases b <;> first | rfl | cases hle
    | finite b n hn => cases a <;> first | rfl | cases hle
  | finite a m hm =>
    cases y with
    | nan => cases hle
    | infinity b => cases b <;> first | rfl | cases hle
    | finite b n hn =>
      have hunits : signedUnits a m ≤ signedUnits b n := of_decide_eq_true hle
      refine decide_eq_true ?_
      rw [signedUnits_not, signedUnits_not]
      omega

/-- From one moment it is farther to the later of two others. -/
theorem sub_le_sub_right {x y moment : Binary64} (hle : x.le y) (hbefore : moment.lt x) :
    (x.sub moment).le (y.sub moment) := by
  have hbounded : x ≠ infinity true := by
    rintro rfl
    cases moment <;> simp [lt] at hbefore
  have hpositive : zero.lt (y.sub moment) := by
    rw [zero_lt_sub]
    exact lt_of_lt_of_le hbefore hle
  rw [sub, sub, add_comm x, add_comm y]
  refine add_le_add_left hbounded hle ?_
  rw [add_comm]
  exact (isNaN_of_lt hpositive).2

/-- To one moment it is farther from the earlier of two others. -/
theorem sub_le_sub_left {x earlier later : Binary64} (hle : earlier.le later)
    (hbefore : later.lt x) : (x.sub later).le (x.sub earlier) := by
  have hbounded : later.neg ≠ infinity true := by
    intro hneg
    cases later with
    | nan => cases hneg
    | infinity a =>
      cases a with
      | false => cases x <;> simp [lt] at hbefore
      | true => cases hneg
    | finite a m hm => cases hneg
  have hpositive : zero.lt (x.sub earlier) := by
    rw [zero_lt_sub]
    exact lt_of_le_of_lt hle hbefore
  exact add_le_add_left hbounded (neg_le_neg hle) (isNaN_of_lt hpositive).2

theorem le_add_zero {x : Binary64} (hnumber : x.isNaN = false) : x.le (x.add zero) := by
  cases x with
  | nan => cases hnumber
  | infinity a => cases a <;> rfl
  | finite a m hm =>
    refine le_iff.2 ⟨rfl, isNaN_ofUnits _ _, ?_⟩
    have hunits : signedUnits a m + signedUnits false 0 = signedUnits a m := Int.add_zero _
    rw [zero, add, hunits, position_ofUnits_of_representable (a && false) a hm]
    exact Int.le_refl _

/-- After some time it is not earlier than before. -/
theorem le_add_of_nonneg {x y elapsed : Binary64} (hle : x.le y) (hnonneg : zero.le elapsed)
    (hfinite : elapsed.isInfinite = false) : x.le (y.add elapsed) := by
  have hnumber : y.isNaN = false := (le_iff.1 hle).2.1
  have hsum : (y.add elapsed).isNaN = false := by
    cases elapsed with
    | nan => cases hnonneg
    | infinity b => cases hfinite
    | finite b n hn =>
      cases y with
      | nan => cases hnumber
      | infinity a => rfl
      | finite a m hm => exact isNaN_ofUnits _ _
  have hlater : (y.add zero).le (y.add elapsed) := add_le_add_left nofun hnonneg hsum
  exact le_trans hle (le_trans (le_add_zero hnumber) hlater)

theorem isNaN_zero_add (x : Binary64) : (zero.add x).isNaN = x.isNaN := by
  cases x with
  | nan => rfl
  | infinity negative => rfl
  | finite negative units hunits => exact isNaN_ofUnits _ _

end Binary64

end Preflight
