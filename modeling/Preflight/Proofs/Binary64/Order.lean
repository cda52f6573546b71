import Mathlib.Tactic.Ring
import Preflight.Duration

/-!
# Rounding keeps the order

A sum is an exact count of units, rounded once.  Rounding never puts a smaller count above a larger
one, and it leaves a count alone that the format has a number for.  So of two lengths of time the
longer one, counted from the same moment, never ends before the shorter one, whatever is rounded.
And the counts that no number is made of are all those from one midpoint on.
-/

namespace Preflight

namespace Binary64

/-! ## Counts of units -/

theorem div_le_roundQuotient (n d : Nat) : n / d ≤ roundQuotient n d := by
  simp only [roundQuotient]
  split
  · exact Nat.le_refl _
  · split <;> omega

theorem roundQuotient_le (n d : Nat) : roundQuotient n d ≤ n / d + 1 := by
  simp only [roundQuotient]
  split
  · exact Nat.le_succ _
  · split <;> omega

theorem roundQuotient_mono {m n : Nat} (d : Nat) (hle : m ≤ n) :
    roundQuotient m d ≤ roundQuotient n d := by
  rcases Nat.lt_or_eq_of_le (Nat.div_le_div_right (c := d) hle) with hlt | heq
  · exact Nat.le_trans (Nat.le_trans (roundQuotient_le m d) hlt) (div_le_roundQuotient n d)
  · -- With equal quotients the remainders are in the order of the counts.
    have hrest : m % d ≤ n % d := by
      have hm := Nat.div_add_mod m d
      have hn := Nat.div_add_mod n d
      rw [heq] at hm
      omega
    simp only [roundQuotient, heq]
    generalize m % d = below at hrest
    generalize n % d = above at hrest
    generalize n / d = quotient
    split_ifs <;> omega

theorem roundQuotient_mul_self (q : Nat) {d : Nat} (hd : 0 < d) : roundQuotient (q * d) d = q := by
  have hrest : q * d % d = 0 := Nat.mul_mod_left q d
  simp only [roundQuotient, hrest]
  rw [if_pos (by omega)]
  exact Nat.mul_div_cancel q hd

/-- A mantissa that is one digit too long is a shorter one with a longer shift. -/
theorem carry (shift : Nat) : 2 ^ 53 * 2 ^ shift = 2 ^ 52 * 2 ^ (shift + 1) := by
  ring

theorem lt_of_excessDigits (n : Nat) : n < 2 ^ 53 * 2 ^ excessDigits n := by
  rw [← Nat.pow_add]
  refine Nat.lt_of_lt_of_le Nat.lt_log2_self (Nat.pow_le_pow_right (by decide) ?_)
  rw [excessDigits]
  omega

theorem le_of_excessDigits_pos {n : Nat} (hpos : 0 < excessDigits n) :
    2 ^ 52 * 2 ^ excessDigits n ≤ n := by
  have hlog : 52 + excessDigits n = n.log2 := by
    rw [excessDigits] at hpos ⊢
    omega
  have hne : n ≠ 0 := by
    rintro rfl
    simp [excessDigits] at hpos
  rw [← Nat.pow_add, hlog]
  exact Nat.log2_self_le hne

theorem excessDigits_le_of_lt {n shift : Nat} (hlt : n < 2 ^ 53 * 2 ^ shift) :
    excessDigits n ≤ shift := by
  by_contra hmore
  have hstep : 2 ^ (shift + 1) ≤ 2 ^ excessDigits n :=
    Nat.pow_le_pow_right (by decide) (by omega)
  have hlow : 2 ^ 52 * 2 ^ excessDigits n ≤ n := le_of_excessDigits_pos (by omega)
  rw [Nat.pow_succ] at hstep
  omega

theorem excessDigits_mono {m n : Nat} (hle : m ≤ n) : excessDigits m ≤ excessDigits n :=
  excessDigits_le_of_lt (Nat.lt_of_le_of_lt hle (lt_of_excessDigits n))

/-- The significant digits that rounding leaves of a count. -/
def mantissa (n : Nat) : Nat := roundQuotient n (2 ^ excessDigits n)

/-- The count that rounding makes of a count. -/
def rounded (n : Nat) : Nat := mantissa n * 2 ^ excessDigits n

theorem mantissa_le (n : Nat) : mantissa n ≤ 2 ^ 53 := by
  have hquotient : n / 2 ^ excessDigits n < 2 ^ 53 :=
    (Nat.div_lt_iff_lt_mul (Nat.two_pow_pos _)).2 (lt_of_excessDigits n)
  exact Nat.le_trans (roundQuotient_le _ _) hquotient

theorem le_mantissa {n : Nat} (hpos : 0 < excessDigits n) : 2 ^ 52 ≤ mantissa n := by
  have hquotient : 2 ^ 52 ≤ n / 2 ^ excessDigits n :=
    (Nat.le_div_iff_mul_le (Nat.two_pow_pos _)).2 (le_of_excessDigits_pos hpos)
  exact Nat.le_trans hquotient (div_le_roundQuotient _ _)

theorem rounded_mono {m n : Nat} (hle : m ≤ n) : rounded m ≤ rounded n := by
  rcases Nat.lt_or_eq_of_le (excessDigits_mono hle) with hlt | heq
  · -- The longer count keeps at least its first digit, and that is enough.
    have hstep : 2 ^ (excessDigits m + 1) ≤ 2 ^ excessDigits n :=
      Nat.pow_le_pow_right (by decide) hlt
    calc rounded m ≤ 2 ^ 53 * 2 ^ excessDigits m := Nat.mul_le_mul_right _ (mantissa_le m)
      _ = 2 ^ 52 * 2 ^ (excessDigits m + 1) := carry _
      _ ≤ 2 ^ 52 * 2 ^ excessDigits n := Nat.mul_le_mul_left _ hstep
      _ ≤ rounded n := Nat.mul_le_mul_right _ (le_mantissa (Nat.zero_lt_of_lt hlt))
  · rw [rounded, rounded, mantissa, mantissa, heq]
    exact Nat.mul_le_mul_right _ (roundQuotient_mono _ hle)

/-- A count that the format has a number for stays as it is. -/
theorem rounded_of_representable {n : Nat} (hrepresentable : Representable n) : rounded n = n := by
  obtain ⟨digits, shift, hdigits, -, hn⟩ := hrepresentable
  have hlt : n < 2 ^ 53 * 2 ^ shift := by
    rw [hn]
    exact Nat.mul_lt_mul_of_pos_right hdigits (Nat.two_pow_pos shift)
  obtain ⟨more, hmore⟩ := Nat.exists_eq_add_of_le (excessDigits_le_of_lt hlt)
  have hmultiple : n = digits * 2 ^ more * 2 ^ excessDigits n := by
    calc n = digits * 2 ^ shift := hn
      _ = digits * 2 ^ (excessDigits n + more) := by rw [← hmore]
      _ = digits * 2 ^ more * 2 ^ excessDigits n := by ring
  have hmantissa : mantissa n = digits * 2 ^ more := by
    calc mantissa n = roundQuotient (digits * 2 ^ more * 2 ^ excessDigits n)
          (2 ^ excessDigits n) := by rw [← hmultiple, mantissa]
      _ = digits * 2 ^ more := roundQuotient_mul_self _ (Nat.two_pow_pos _)
  rw [rounded, hmantissa]
  exact hmultiple.symm

/-! ## Numbers -/

/-- The least count that needs a longer shift than the longest one. -/
def limit (longest : Nat) : Nat := 2 ^ 53 * 2 ^ longest

/-- The least count that is too large for a number. -/
def overflow : Nat := limit 2045

theorem lt_limit {digits shift longest : Nat} (hdigits : digits < 2 ^ 53)
    (hshift : shift ≤ longest) : digits * 2 ^ shift < limit longest :=
  calc digits * 2 ^ shift < 2 ^ 53 * 2 ^ shift :=
        Nat.mul_lt_mul_of_pos_right hdigits (Nat.two_pow_pos shift)
    _ ≤ limit longest := Nat.mul_le_mul_left _ (Nat.pow_le_pow_right (by decide) hshift)

theorem lt_overflow {n : Nat} (hrepresentable : Representable n) : n < overflow := by
  obtain ⟨digits, shift, hdigits, hshift, rfl⟩ := hrepresentable
  exact lt_limit hdigits hshift

/-- A count whose mantissa does not fit is rounded out of the format. -/
theorem limit_le_rounded {n longest : Nat}
    (hfits : ¬(mantissa n < 2 ^ 53 ∧ excessDigits n ≤ longest))
    (hcarries : ¬(mantissa n = 2 ^ 53 ∧ excessDigits n < longest)) :
    limit longest ≤ rounded n := by
  have hmost := mantissa_le n
  by_cases hshift : excessDigits n ≤ longest
  · have hmantissa : mantissa n = 2 ^ 53 := by omega
    have hlast : excessDigits n = longest := by omega
    rw [rounded, hmantissa, hlast, limit]
  · have hstep : 2 ^ (longest + 1) ≤ 2 ^ excessDigits n :=
      Nat.pow_le_pow_right (by decide) (by omega)
    calc limit longest = 2 ^ 52 * 2 ^ (longest + 1) := carry longest
      _ ≤ 2 ^ 52 * 2 ^ excessDigits n := Nat.mul_le_mul_left _ hstep
      _ ≤ rounded n := Nat.mul_le_mul_right _ (le_mantissa (by omega))

/-- A count becomes the number of its rounded count, unless that is too large. -/
theorem ofRatio_cases (negative : Bool) (n : Nat) :
    (∃ h, ofRatio negative n 1 = finite negative (rounded n) h) ∨
      overflow ≤ rounded n ∧ ofRatio negative n 1 = infinity negative := by
  have hdefinition : ofRatio negative n 1 =
      if fits : mantissa n < Nat.pow 2 53 ∧ excessDigits n ≤ 2045 then
        finite negative (rounded n) ⟨mantissa n, excessDigits n, fits.1, fits.2, rfl⟩
      else if fits : mantissa n = Nat.pow 2 53 ∧ excessDigits n < 2045 then
        finite negative (Nat.pow 2 52 * Nat.pow 2 (excessDigits n + 1))
          ⟨Nat.pow 2 52, excessDigits n + 1, by decide, fits.2, rfl⟩
      else infinity negative := by
    simp only [ofRatio, Nat.div_one, Nat.one_mul]
    rfl
  rw [hdefinition]
  split
  · rename_i hfits
    exact .inl ⟨⟨mantissa n, excessDigits n, hfits.1, hfits.2, rfl⟩, rfl⟩
  rename_i hfits
  split
  · rename_i hcarries
    have hcount : Nat.pow 2 52 * Nat.pow 2 (excessDigits n + 1) = rounded n := by
      rw [rounded, hcarries.1]
      exact (carry _).symm
    left
    rw [← hcount]
    exact ⟨⟨Nat.pow 2 52, excessDigits n + 1, by decide, hcarries.2, rfl⟩, rfl⟩
  · rename_i hcarries
    exact .inr ⟨limit_le_rounded hfits hcarries, rfl⟩

/-- The place of a number on the scale of units, the infinities at its ends. -/
def position : Binary64 → Int
  | nan => 0
  | infinity negative => signedUnits negative overflow
  | finite negative units _ => signedUnits negative units

theorem position_ofRatio (negative : Bool) (n : Nat) :
    (ofRatio negative n 1).position = signedUnits negative (min (rounded n) overflow) := by
  rcases ofRatio_cases negative n with ⟨hrepresentable, hfinite⟩ | ⟨hlarge, hinfinite⟩
  · rw [hfinite, position, Nat.min_eq_left (Nat.le_of_lt (lt_overflow hrepresentable))]
  · rw [hinfinite, position, Nat.min_eq_right hlarge]

theorem isNaN_ofRatio (negative : Bool) (n : Nat) : (ofRatio negative n 1).isNaN = false := by
  rcases ofRatio_cases negative n with ⟨hrepresentable, hfinite⟩ | ⟨hlarge, hinfinite⟩
  · rw [hfinite]
    rfl
  · rw [hinfinite]
    rfl

theorem le_iff {x y : Binary64} :
    x.le y ↔ x.isNaN = false ∧ y.isNaN = false ∧ x.position ≤ y.position := by
  have hpositive : (0 : Int) < overflow := by
    exact_mod_cast Nat.lt_of_le_of_lt (Nat.zero_le 0) (lt_overflow representable_zero)
  cases x with
  | nan => simp [le, isNaN]
  | infinity a =>
    cases y with
    | nan => simp [le, isNaN]
    | infinity b =>
      simp only [le, isNaN, position, true_and]
      generalize overflow = top at hpositive
      cases a <;> cases b <;> simp [signedUnits]
      all_goals omega
    | finite b n hn =>
      have hn := lt_overflow hn
      simp only [le, isNaN, position, true_and]
      generalize overflow = top at hpositive hn
      cases a <;> cases b <;> simp [signedUnits]
      all_goals omega
  | finite a m hm =>
    have hm := lt_overflow hm
    cases y with
    | nan => simp [le, isNaN]
    | infinity b =>
      simp only [le, isNaN, position, true_and]
      generalize overflow = top at hpositive hm
      cases a <;> cases b <;> simp [signedUnits]
      all_goals omega
    | finite b n hn => simp [le, isNaN, position]

theorem le_trans {x y z : Binary64} (hxy : x.le y) (hyz : y.le z) : x.le z := by
  rw [le_iff] at hxy hyz ⊢
  exact ⟨hxy.1, hyz.2.1, Int.le_trans hxy.2.2 hyz.2.2⟩

theorem isNaN_ofUnits (negativeZero : Bool) (n : Int) :
    (ofUnits negativeZero n).isNaN = false := by
  rw [ofUnits]
  split
  · rfl
  · exact isNaN_ofRatio _ _

theorem position_ofUnits (negativeZero : Bool) (n : Int) :
    (ofUnits negativeZero n).position =
      signedUnits (decide (n < 0)) (min (rounded n.natAbs) overflow) := by
  rw [ofUnits]
  split
  · rename_i hzero
    have hrounded : rounded (0 : Int).natAbs = 0 := rounded_of_representable representable_zero
    rw [hzero, hrounded, Nat.zero_min, position]
    cases negativeZero <;> rfl
  · exact position_ofRatio _ _

/-- Rounding keeps the order of counts. -/
theorem ofUnits_le_ofUnits (a b : Bool) {m n : Int} (hle : m ≤ n) :
    (ofUnits a m).le (ofUnits b n) := by
  refine le_iff.2 ⟨isNaN_ofUnits a m, isNaN_ofUnits b n, ?_⟩
  rw [position_ofUnits, position_ofUnits]
  by_cases hm : m < 0
  · by_cases hn : n < 0
    · have hmono : rounded n.natAbs ≤ rounded m.natAbs := rounded_mono (by omega)
      simp only [hm, hn, decide_true, signedUnits, if_true]
      omega
    · simp only [hm, hn, decide_true, decide_false, signedUnits, if_true, Bool.false_eq_true,
        if_false]
      omega
  · have hn : ¬n < 0 := by omega
    have hmono : rounded m.natAbs ≤ rounded n.natAbs := rounded_mono (by omega)
    simp only [hm, hn, decide_false, signedUnits, Bool.false_eq_true, if_false]
    omega

/-- Adding a longer time to a moment never gives an earlier one, as long as it gives a moment. -/
theorem add_le_add_left {now x y : Binary64} (hbounded : x ≠ infinity true) (hle : x.le y)
    (hsum : (now.add y).isNaN = false) : (now.add x).le (now.add y) := by
  cases now with
  | nan => simp [add, isNaN] at hsum
  | infinity a =>
    cases x with
    | nan => simp [le] at hle
    | infinity b =>
      cases y with
      | nan => simp [le] at hle
      | infinity c => cases a <;> cases b <;> cases c <;> simp_all [add, le, isNaN]
      | finite c n hn => cases a <;> cases b <;> simp_all [add, le, isNaN]
    | finite b m hm =>
      cases y with
      | nan => simp [le] at hle
      | infinity c => cases a <;> cases c <;> simp_all [add, le, isNaN]
      | finite c n hn => cases a <;> simp [add, le]
  | finite a k hk =>
    cases x with
    | nan => simp [le] at hle
    | infinity b =>
      cases y with
      | nan => simp [le] at hle
      | infinity c => exact hle
      | finite c n hn => cases b <;> simp_all [add, le]
    | finite b m hm =>
      cases y with
      | nan => simp [le] at hle
      | infinity c =>
        have hend := isNaN_ofUnits (a && b) (signedUnits a k + signedUnits b m)
        cases c with
        | false =>
          simp only [add]
          generalize ofUnits (a && b) (signedUnits a k + signedUnits b m) = sum at hend
          cases sum <;> simp_all [le, isNaN]
        | true => simp [le] at hle
      | finite c n hn =>
        have hunits : signedUnits b m ≤ signedUnits c n := by simpa [le] using hle
        exact ofUnits_le_ofUnits _ _ (by omega)

/-- A number is its own count of units, rounded or not. -/
theorem position_ofUnits_of_representable (negativeZero negative : Bool) {units : Nat}
    (hrepresentable : Representable units) :
    (ofUnits negativeZero (signedUnits negative units)).position = signedUnits negative units := by
  have hcount : (signedUnits negative units).natAbs = units := by
    cases negative <;> simp [signedUnits]
  rw [position_ofUnits, hcount, rounded_of_representable hrepresentable,
    Nat.min_eq_left (Nat.le_of_lt (lt_overflow hrepresentable))]
  cases negative <;> simp only [signedUnits, if_true, Bool.false_eq_true, if_false]
  · rw [if_neg (by simp)]
  · split
    · rfl
    · rename_i hzero
      simp only [decide_eq_true_eq] at hzero
      omega

/-! ## Counts too large for a number -/

/-- The least count that is rounded out of the format: the midpoint between the largest number and
the one that would follow it. -/
def leastInfinite : Nat := (2 ^ 54 - 1) * 2 ^ 2044

theorem overflow_le_rounded_iff {n : Nat} : overflow ≤ rounded n ↔ leastInfinite ≤ n := by
  constructor
  · intro hlarge
    by_contra hsmall
    -- The count just below the midpoint goes to the largest number.
    have hbelow : rounded (leastInfinite - 1) < overflow := by decide +kernel
    have hmono : rounded n ≤ rounded (leastInfinite - 1) := rounded_mono (by omega)
    omega
  · intro hle
    have hmidpoint : rounded leastInfinite = overflow := by decide +kernel
    exact hmidpoint ▸ rounded_mono hle

theorem isInfinite_ofUnits_iff {negativeZero : Bool} {n : Int} :
    (ofUnits negativeZero n).isInfinite ↔ leastInfinite ≤ n.natAbs := by
  rw [ofUnits]
  split
  · rename_i hzero
    have hpositive : 0 < leastInfinite := by decide +kernel
    rw [hzero]
    exact iff_of_false Bool.false_ne_true (Nat.not_le.2 hpositive)
  · rw [← overflow_le_rounded_iff]
    obtain ⟨hrepresentable, hfinite⟩ | ⟨hlarge, hinfinite⟩ :=
      ofRatio_cases (decide (n < 0)) n.natAbs
    · rw [hfinite]
      exact iff_of_false Bool.false_ne_true (Nat.not_le.2 (lt_overflow hrepresentable))
    · rw [hinfinite]
      exact iff_of_true rfl hlarge

/-- A whole number is too large for the format from the midpoint `2 ^ 1024 - 2 ^ 970` on. -/
theorem isInfinite_ofInt_iff {n : Int} :
    (ofInt n).isInfinite ↔ 2 ^ 1024 - 2 ^ 970 ≤ n.natAbs := by
  have hunit : leastInfinite = (2 ^ 1024 - 2 ^ 970) * unitsPerOne := by decide +kernel
  have hpositive : 0 < unitsPerOne := by decide +kernel
  rw [ofInt, isInfinite_ofUnits_iff, Int.natAbs_mul, Int.natAbs_natCast, hunit]
  exact Nat.mul_le_mul_right_iff hpositive

end Binary64

end Preflight
