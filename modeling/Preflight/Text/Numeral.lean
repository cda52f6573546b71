import Preflight.Binary64.Basic
import Preflight.Text.Blank
import Preflight.Text.Digit

/-!
# Numerals

Reading whole and floating-point numbers from text.  Blanks may surround a numeral, the decimal
digits of every script count, and a single underscore may stand between two digits.
-/

namespace Preflight.Text

/-- Digits of every script become ASCII digits and the blanks outside ASCII become spaces. -/
def plainNumeral (cs : List Char) : List Char :=
  cs.map fun c =>
    if c.toNat < 0x80 then c
    else if isBlank c then ' '
    else
      match digitValue? c with
      | some value => Char.ofNat (0x30 + value)
      | none => c

/-- The blanks that may surround a numeral. -/
def isNumeralBlank (c : Char) : Bool := c = ' ' || (9 ≤ c.toNat && c.toNat ≤ 13)

def trimNumeral (cs : List Char) : List Char :=
  ((cs.dropWhile isNumeralBlank).reverse.dropWhile isNumeralBlank).reverse

/-- The numeral without its underscores, if each of them stands between two digits. -/
def dropUnderscores? (isDigit : Char → Bool) : List Char → Option (List Char)
  | [] => some []
  | c :: '_' :: next :: rest =>
    if isDigit c && isDigit next then
      (dropUnderscores? isDigit (next :: rest)).map (c :: ·)
    else none
  | c :: rest => if c = '_' then none else
    match rest with
    | ['_'] => none
    | _ => (dropUnderscores? isDigit rest).map (c :: ·)

/-- The value of an ASCII digit or letter as a digit of a base up to 36. -/
def baseDigit? (c : Char) : Option Nat :=
  if c.isDigit then some (c.toNat - 0x30)
  else if c.isAlpha then some (c.toLower.toNat - 0x57)
  else none

def isBaseDigit (base : Nat) (c : Char) : Bool :=
  match baseDigit? c with
  | some value => value < base
  | none => false

/-- The number that a row of digits writes. -/
def natOfDigits (base : Nat) (cs : List Char) : Nat :=
  cs.foldl (fun total c => total * base + (baseDigit? c).getD 0) 0

/-- A sign, if there is one, and what follows it. -/
def splitSign : List Char → Bool × List Char
  | '-' :: rest => (true, rest)
  | '+' :: rest => (false, rest)
  | rest => (false, rest)

/-- The mark that may announce a base: `0b`, `0o` or `0x`, and an underscore. -/
def dropBaseMark (base : Nat) : List Char → List Char
  | '0' :: mark :: rest =>
    if (base = 2 && mark.toLower = 'b') || (base = 8 && mark.toLower = 'o') ||
        (base = 16 && mark.toLower = 'x') then
      match rest with
      | '_' :: digits => digits
      | _ => rest
    else '0' :: mark :: rest
  | cs => cs

/-- Why a text writes no whole number. -/
inductive NumeralFlaw where
  | notNumeral
  | tooLong (digits : Nat)
  deriving DecidableEq, Repr

/-- The most digits of a whole number that are read or written in a base that is no power of two. -/
def mostDigits : Nat := 4300

/-- Whether numerals of a base can be read however long they are. -/
def isUnlimited (base : Nat) : Bool := Nat.pow 2 base.log2 = base

/-- A whole number written in a base, in ASCII.  A numeral with too many digits is refused before
what follows its digits is looked at. -/
def readWhole (base : Nat) (cs : List Char) : Except NumeralFlaw Int :=
  let (negative, signless) := splitSign (trimNumeral cs)
  let body := dropBaseMark base signless
  let run := body.takeWhile fun c => isBaseDigit base c || c = '_'
  match dropUnderscores? (isBaseDigit base) run with
  | none => .error .notNumeral
  | some digits =>
    if mostDigits < digits.length && !isUnlimited base then .error (.tooLong digits.length)
    else if digits.isEmpty || run.length < body.length then .error .notNumeral
    else
      let magnitude : Int := natOfDigits base digits
      .ok (if negative then -magnitude else magnitude)

/-- A whole number written in a base, in the digits of any script. -/
def readIntIn (base : Nat) (s : String) : Except NumeralFlaw Int :=
  readWhole base (plainNumeral s.toList)

def readInt (s : String) : Except NumeralFlaw Int := readIntIn 10 s

/-- The exponent part of a numeral: nothing, or a mark and a whole number. -/
def readExponent? : List Char → Option Int
  | [] => some 0
  | mark :: rest =>
    let (negative, digits) := splitSign rest
    if (mark = 'e' || mark = 'E') && !digits.isEmpty && digits.all Char.isDigit then
      let magnitude : Int := natOfDigits 10 digits
      some (if negative then -magnitude else magnitude)
    else none

/-- An unsigned decimal numeral: digits, a point with digits, an exponent. -/
def readDecimal? (negative : Bool) (cs : List Char) : Option Binary64 := do
  let whole := cs.takeWhile Char.isDigit
  let afterWhole := cs.dropWhile Char.isDigit
  let (fraction, tail) :=
    match afterWhole with
    | '.' :: rest => (rest.takeWhile Char.isDigit, rest.dropWhile Char.isDigit)
    | rest => ([], rest)
  let exponent ← readExponent? tail
  if whole.isEmpty && fraction.isEmpty then none
  else some (.ofDecimal negative (natOfDigits 10 (whole ++ fraction)) (exponent - fraction.length))

/-- A floating-point number in ASCII: a decimal numeral, an infinity or a NaN. -/
def readExact? (cs : List Char) : Option Binary64 := do
  let body ← dropUnderscores? Char.isDigit (trimNumeral cs)
  let (negative, magnitude) := splitSign body
  let word := String.ofList (magnitude.map Char.toLower)
  if word = "inf" || word = "infinity" then some (.infinity negative)
  else if word = "nan" then some .nan
  else readDecimal? negative magnitude

/-- A floating-point number in the digits of any script. -/
def readFloat? (s : String) : Option Binary64 := readExact? (plainNumeral s.toList)

end Preflight.Text
