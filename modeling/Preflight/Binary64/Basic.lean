/-!
# Binary floating-point numbers

The numbers of the 64-bit binary format as exact values.  A finite number is a whole count of
units, a unit being `2 ^ -1074`, the distance between the smallest neighbours of the format; so
comparison and addition are those of integers, followed by one rounding.
-/

namespace Preflight

/-- The counts of units that the format has a number for: at most 53 significant binary digits, the
last of them at most `2 ^ 2045` units. -/
def Binary64.Representable (units : Nat) : Prop :=
  ∃ mantissa shift, mantissa < Nat.pow 2 53 ∧ shift ≤ 2045 ∧ units = mantissa * Nat.pow 2 shift

inductive Binary64 where
  | nan
  | infinity (negative : Bool)
  | finite (negative : Bool) (units : Nat) (representable : Binary64.Representable units)

namespace Binary64

/-- Units in the number one. -/
def unitsPerOne : Nat := Nat.pow 2 1074

theorem representable_zero : Representable 0 := ⟨0, 0, by decide, by decide, by decide⟩

def zero : Binary64 := finite false 0 representable_zero

instance : Inhabited Binary64 := ⟨zero⟩

/-- The whole number nearest to a quotient; a half goes to the even neighbour. -/
def roundQuotient (numerator denominator : Nat) : Nat :=
  let quotient := numerator / denominator
  let remainder := numerator % denominator
  if 2 * remainder < denominator then quotient
  else if denominator < 2 * remainder then quotient + 1
  else quotient + quotient % 2

/-- The number of binary digits of a whole number beyond the 53 that a mantissa holds. -/
def excessDigits (n : Nat) : Nat := n.log2 + 1 - 53

/-- The number nearest to `numerator / denominator` units, and infinity beyond the largest one. -/
def ofRatio (negative : Bool) (numerator denominator : Nat) : Binary64 :=
  let shift := excessDigits (numerator / denominator)
  let mantissa := roundQuotient numerator (denominator * Nat.pow 2 shift)
  if fits : mantissa < Nat.pow 2 53 ∧ shift ≤ 2045 then
    finite negative (mantissa * Nat.pow 2 shift) ⟨mantissa, shift, fits.1, fits.2, rfl⟩
  else if fits : mantissa = Nat.pow 2 53 ∧ shift < 2045 then
    finite negative (Nat.pow 2 52 * Nat.pow 2 (shift + 1))
      ⟨Nat.pow 2 52, shift + 1, by decide, fits.2, rfl⟩
  else infinity negative

/-- The units of a finite number, with its sign. -/
def signedUnits (negative : Bool) (units : Nat) : Int :=
  if negative then -(units : Int) else units

/-- The number nearest to a whole number of units; `negativeZero` settles the sign of zero. -/
def ofUnits (negativeZero : Bool) (units : Int) : Binary64 :=
  if units = 0 then finite negativeZero 0 representable_zero
  else ofRatio (units < 0) units.natAbs 1

/-- The number nearest to a whole number, infinite when it is too large. -/
def ofInt (n : Int) : Binary64 := ofUnits false (n * unitsPerOne)

def isNaN : Binary64 → Bool
  | nan => true
  | _ => false

def isInfinite : Binary64 → Bool
  | infinity _ => true
  | _ => false

def neg : Binary64 → Binary64
  | nan => nan
  | infinity negative => infinity !negative
  | finite negative units representable => finite (!negative) units representable

def add : Binary64 → Binary64 → Binary64
  | nan, _ => nan
  | _, nan => nan
  | infinity a, infinity b => if a = b then infinity a else nan
  | infinity a, finite .. => infinity a
  | finite .., infinity b => infinity b
  | finite a m _, finite b n _ => ofUnits (a && b) (signedUnits a m + signedUnits b n)

def sub (x y : Binary64) : Binary64 := add x (neg y)

def mul : Binary64 → Binary64 → Binary64
  | nan, _ => nan
  | _, nan => nan
  | infinity a, infinity b => infinity (a != b)
  | infinity a, finite b n _ => if n = 0 then nan else infinity (a != b)
  | finite a m _, infinity b => if m = 0 then nan else infinity (a != b)
  | finite a m _, finite b n _ => ofRatio (a != b) (m * n) unitsPerOne

/-- Strictly less; nothing is less than a NaN, and a NaN is less than nothing. -/
def lt : Binary64 → Binary64 → Bool
  | nan, _ => false
  | _, nan => false
  | infinity a, infinity b => a && !b
  | infinity a, finite .. => a
  | finite .., infinity b => !b
  | finite a m _, finite b n _ => decide (signedUnits a m < signedUnits b n)

/-- Less or equal; a NaN is comparable to nothing, itself included. -/
def le : Binary64 → Binary64 → Bool
  | nan, _ => false
  | _, nan => false
  | infinity a, infinity b => a || !b
  | infinity a, finite .. => a
  | finite .., infinity b => !b
  | finite a m _, finite b n _ => decide (signedUnits a m ≤ signedUnits b n)

/-- The whole part, toward zero; only a finite number has one. -/
def truncate? : Binary64 → Option Int
  | finite negative units _ => some (signedUnits negative (units / unitsPerOne))
  | _ => none

/-- The whole number that a finite number equals. -/
def integer? : Binary64 → Option Int
  | finite negative units _ =>
    if units % unitsPerOne = 0 then some (signedUnits negative (units / unitsPerOne)) else none
  | _ => none

/-- Equality of value: the two zeros are equal, a NaN equals nothing. -/
def equals (x y : Binary64) : Bool := le x y && le y x

/-- The number nearest to `digits * 10 ^ exponent`.  Exponents far outside the range of the format
are decided by the magnitude alone. -/
def ofDecimal (negative : Bool) (digits : Nat) (exponent : Int) : Binary64 :=
  let magnitude := exponent + (digits.log2 * 30103 / 100000 : Nat)
  if digits = 0 then finite negative 0 representable_zero
  else if magnitude > 400 then infinity negative
  else if magnitude < -400 then finite negative 0 representable_zero
  else if 0 ≤ exponent then ofRatio negative (digits * Nat.pow 10 exponent.toNat * unitsPerOne) 1
  else ofRatio negative (digits * unitsPerOne) (Nat.pow 10 exponent.natAbs)

end Binary64

end Preflight
