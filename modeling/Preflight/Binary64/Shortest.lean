import Preflight.Binary64.Basic

/-!
# Decimal forms of floating-point numbers

The shortest decimal form is the one with the fewest digits among those that read back as the same
number, and of these the nearest.  For each count of digits only the two neighbours of the number
on that decimal grid have to be tried, in exact arithmetic.
-/

namespace Preflight.Binary64

/-- A positive decimal number, `digits * 10 ^ exponent`. -/
structure Decimal where
  digits : Nat
  exponent : Int

/-- The numbers that round to a given positive one, in quarters of a unit: those between the
midpoints to the two neighbours, the midpoints included exactly for an even mantissa. -/
structure RoundingInterval where
  low : Nat
  value : Nat
  high : Nat
  closed : Bool

def roundingInterval (units : Nat) : RoundingInterval :=
  let shift := excessDigits units
  let gap := Nat.pow 2 shift
  let below := if units = Nat.pow 2 units.log2 ∧ 0 < shift then gap else 2 * gap
  { low := 4 * units - below
    value := 4 * units
    high := 4 * units + 2 * gap
    closed := units / gap % 2 == 0 }

def tenUp (exponent : Int) : Nat := if 0 ≤ exponent then Nat.pow 10 exponent.toNat else 1

def tenDown (exponent : Int) : Nat := if 0 ≤ exponent then 1 else Nat.pow 10 exponent.natAbs

/-- Quarters of a unit in the number one. -/
def quartersPerOne : Nat := 4 * unitsPerOne

/-- Whether `digits * 10 ^ exponent` rounds to the number of the interval. -/
def RoundingInterval.holds (interval : RoundingInterval) (digits : Nat) (exponent : Int) : Bool :=
  let candidate := digits * tenUp exponent * quartersPerOne
  let low := interval.low * tenDown exponent
  let high := interval.high * tenDown exponent
  if interval.closed then low ≤ candidate && candidate ≤ high
  else low < candidate && candidate < high

/-- The greatest exponent of ten that is at most the number. -/
def decimalExponent (units : Nat) : Int :=
  let atLeast (exponent : Int) : Bool := tenUp exponent * unitsPerOne ≤ units * tenDown exponent
  let estimate := ((units.log2 : Int) - 1074) * 30103 / 100000
  if atLeast (estimate + 1) then estimate + 1
  else if atLeast estimate then estimate
  else estimate - 1

/-- The nearer of the two neighbours on a decimal grid that rounds to the number; of two equally
near ones, the even one. -/
def neighbour? (interval : RoundingInterval) (exponent : Int) : Option Nat :=
  let target := interval.value * tenDown exponent
  let step := tenUp exponent * quartersPerOne
  let below := target / step
  let distance := target % step
  let aboveIsNearer := step < 2 * distance || (step = 2 * distance && below % 2 = 1)
  match interval.holds below exponent, interval.holds (below + 1) exponent with
  | true, true => some (if aboveIsNearer then below + 1 else below)
  | true, false => some below
  | false, true => some (below + 1)
  | false, false => none

/-- The shortest decimal of a positive number, tried from `count` digits on. -/
def shortestFrom (units : Nat) (interval : RoundingInterval) : Nat → Nat → Decimal
  | 0, count => ⟨units, decimalExponent units - count⟩
  | fuel + 1, count =>
    let exponent := decimalExponent units - count + 1
    match neighbour? interval exponent with
    | some digits => ⟨digits, exponent⟩
    | none => shortestFrom units interval fuel (count + 1)

/-- Seventeen digits always suffice. -/
def shortest (units : Nat) : Decimal := shortestFrom units (roundingInterval units) 17 1

/-- The digits of a whole number without the zeros at their end, and the number of these zeros. -/
def trimZeros (digits : List Char) : List Char × Nat :=
  let kept := (digits.reverse.dropWhile (· = '0')).reverse
  (kept, digits.length - kept.length)

/-- The exponents whose numbers are written without an exponent. -/
def isPositional (exponent : Int) : Bool := -4 ≤ exponent && exponent < 16

def exponentText (exponent : Int) : List Char :=
  let digits := (toString exponent.natAbs).toList
  let padded := if digits.length < 2 then '0' :: digits else digits
  'e' :: (if exponent < 0 then '-' else '+') :: padded

/-- A positive decimal in the style of a number: positional notation keeps one digit after the
point, the other notation has one digit before it. -/
def Decimal.render (d : Decimal) : List Char :=
  let (digits, zeros) := trimZeros (toString d.digits).toList
  let point : Int := digits.length + zeros + d.exponent
  if isPositional (point - 1) then
    if point ≤ 0 then '0' :: '.' :: List.replicate point.natAbs '0' ++ digits
    else
      let whole := digits.take point.toNat
      let fraction := digits.drop point.toNat
      whole ++ List.replicate (point.toNat - whole.length) '0' ++ '.' ::
        (if fraction.isEmpty then ['0'] else fraction)
  else
    match digits with
    | [] => []
    | [first] => first :: exponentText (point - 1)
    | first :: rest => first :: '.' :: rest ++ exponentText (point - 1)

/-- The text of a number, as short as reading it back allows. -/
def render : Binary64 → String
  | nan => "nan"
  | infinity negative => if negative then "-inf" else "inf"
  | finite negative units _ =>
    let magnitude := if units = 0 then ['0', '.', '0'] else (shortest units).render
    String.ofList (if negative then '-' :: magnitude else magnitude)

/-- The text with two places after the point; a half of the last place goes to the even one. -/
def renderHundredths : Binary64 → String
  | nan => "nan"
  | infinity negative => if negative then "-inf" else "inf"
  | finite negative units _ =>
    let hundredths := roundQuotient (units * 100) unitsPerOne
    let places := (toString (hundredths % 100)).toList
    let padded := if places.length < 2 then '0' :: places else places
    let magnitude := (toString (hundredths / 100)).toList ++ '.' :: padded
    String.ofList (if negative then '-' :: magnitude else magnitude)

end Preflight.Binary64
