import Preflight.Document.Shown
import Preflight.Text.Lowercase
import Preflight.Text.Split
import Preflight.Timestamp.Valid
import Preflight.Yaml.Cursor
import Preflight.Yaml.Node

/-!
# Values of scalars

The value that a text has under a tag.  A tag may be put on a text that does not spell such a value:
then the value cannot be built, and the fault says why.
-/

namespace Preflight.Yaml

def dropUnderscores (cs : List Char) : List Char := cs.filter (· ≠ '_')

/-! ## Words and numbers -/

def trueWords : List String := ["yes", "true", "on"]

def falseWords : List String := ["no", "false", "off"]

def boolValue (s : String) : Except Fault Document :=
  let word := Text.lower s
  if trueWords.contains word then .ok (.bool true)
  else if falseWords.contains word then .ok (.bool false)
  else .error (.missingKey (Text.quoted word))

def intIn (base : Nat) (cs : List Char) : Except Fault Int :=
  let shown := Text.quoted (String.ofList cs)
  (ValueDefect.readWhole base (Text.plainNumeral cs) shown).mapError .value

def floatOf (cs : List Char) : Except Fault Binary64 :=
  let s := String.ofList cs
  match Text.readFloat? s with
  | some x => .ok x
  | none => .error (.value (.floatNumeral (Text.quoted s)))

/-- The places of a number in base 60. -/
def placesOf (cs : List Char) : List (List Char) := Text.split ':' cs

/-- A whole number without its sign: binary, hexadecimal, octal, in base 60, or decimal. -/
def magnitudeOf (cs : List Char) : Except Fault Int :=
  match cs with
  | [] => .error .emptyNumeral
  | ['0'] => .ok 0
  | '0' :: 'b' :: digits => intIn 2 digits
  | '0' :: 'x' :: digits => intIn 16 digits
  | '0' :: _ => intIn 8 cs
  | _ =>
    if cs.contains ':' then do
      let places ← (placesOf cs).mapM (intIn 10)
      return places.foldl (fun total place => total * 60 + place) 0
    else intIn 10 cs

def intValue (s : String) : Except Fault Document :=
  let (negative, magnitude) := Text.splitSign (dropUnderscores s.toList)
  (magnitudeOf magnitude).map fun n => .int (if negative then -n else n)

/-- The sum of the places of a number in base 60, the last place first.  The weight of a place has to
be a floating-point number, also where the place is zero. -/
def sumPlaces (total : Binary64) (weight : Int) : List Binary64 → Except Fault Binary64
  | [] => .ok total
  | place :: places =>
    let factor := Binary64.ofInt weight
    if factor.isInfinite then .error (.range .floatOfInt)
    else sumPlaces (total.add (place.mul factor)) (weight * 60) places

/-- A floating-point number without its sign. -/
def floatMagnitude (cs : List Char) : Except Fault Binary64 :=
  let s := String.ofList cs
  if s = ".inf" then .ok (.infinity false)
  else if s = ".nan" then .ok .nan
  else if cs.contains ':' then do
    let places ← (placesOf cs).mapM floatOf
    sumPlaces .zero 1 places.reverse
  else floatOf cs

/-- The numeral that the text of a floating-point number writes. -/
def floatNumeral (s : String) : List Char :=
  (Text.lower (String.ofList (dropUnderscores s.toList))).toList

def floatValue (s : String) : Except Fault Document :=
  let cs := floatNumeral s
  if cs.isEmpty then .error .emptyNumeral
  else
    let (negative, magnitude) := Text.splitSign cs
    (floatMagnitude magnitude).map fun x => .float (if negative then x.neg else x)

/-- Whether the text of a floating-point number is the word for no number. -/
def spellsNaN (s : String) : Bool := (Text.splitSign (floatNumeral s)).2 = ".nan".toList

/-! ## Dates and moments -/

/-- An offset, which is shorter than a day. -/
def offsetOf (negative : Bool) (hours minutes : Nat) : Except Fault Int :=
  let length : Int := Timestamp.microsOf hours minutes 0 0
  (Timestamp.requireOffset (if negative then -length else length)).mapError .value

/-- A fraction of a second in microseconds. -/
def microseconds (fraction : List Char) : Nat :=
  Text.natOfDigits 10 ((fraction.take 6) ++ List.replicate (6 - fraction.length) '0')

def momentValue (s : String) : Except Fault Document :=
  match momentParts? s.toList with
  | none => .error (.noField "NoneType" "groupdict")
  | some parts => do
    let date : Date := ⟨parts.year, parts.month, parts.day⟩
    match parts.clock with
    | none => do
      date.validate.mapError .value
      return .date date
    | some (hour, minute, second) => do
      let offset ← parts.offset.mapM fun (negative, hours, minutes) =>
        offsetOf negative hours minutes
      let t : Timestamp :=
        ⟨date, hour, minute, second, microseconds parts.fraction, offset⟩
      t.validate.mapError .value
      return .moment t

/-! ## Bytes -/

/-- The value of a digit of base 64. -/
def digitOfSixtyFour? (c : Char) : Option Nat :=
  if c.isUpper then some (c.toNat - 0x41)
  else if c.isLower then some (c.toNat - 0x61 + 26)
  else if c.isDigit then some (c.toNat - 0x30 + 52)
  else if c = '+' then some 62
  else if c = '/' then some 63
  else none

/-- Bytes from digits of six bits each.  `place` is the number of digits of the present group of four,
`held` the bits that do not fill a byte yet, and `pads` the padding since the last digit.  Other
characters are passed over, and nothing counts after the padding. -/
def bytesFrom (place held pads : Nat) : List Char → Option (List UInt8)
  | [] => if place = 0 then some [] else none
  | c :: rest =>
    if c = '=' then
      if 2 ≤ place then (if 4 ≤ place + pads + 1 then some [] else bytesFrom place held (pads + 1) rest)
      else bytesFrom place held pads rest
    else
      match digitOfSixtyFour? c with
      | none => bytesFrom place held pads rest
      | some digit =>
        let bits := held * 64 + digit
        match place with
        | 0 => bytesFrom 1 digit 0 rest
        | 1 => (bytesFrom 2 (bits % 16) 0 rest).map (UInt8.ofNat (bits / 16) :: ·)
        | 2 => (bytesFrom 3 (bits % 4) 0 rest).map (UInt8.ofNat (bits / 4) :: ·)
        | _ => (bytesFrom 0 0 0 rest).map (UInt8.ofNat bits :: ·)

def bytesValue (s : String) : Except Flaw Document :=
  if s.toList.all (·.toNat < 0x80) then
    match bytesFrom 0 0 0 s.toList with
    | some content => .ok (.bytes content)
    | none => .error .malformed
  else .error .malformed

/-! ## All scalars -/

/-- The value of a text under the tag of a scalar. -/
def scalarValue (tag : Tag) (s : String) : Except Flaw Document :=
  match tag with
  | .null => .ok .null
  | .text => .ok (.text s)
  | .bool => (boolValue s).mapError .unusable
  | .int => (intValue s).mapError .unusable
  | .float => (floatValue s).mapError .unusable
  | .moment => (momentValue s).mapError .unusable
  | .bytes => bytesValue s
  | _ => .error .malformed

end Preflight.Yaml
