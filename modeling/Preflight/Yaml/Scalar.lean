import Preflight.Text.Numeral

/-!
# Plain scalars

The kind of value that an unquoted scalar spells.  A scalar that spells none of the special kinds is
a text.
-/

namespace Preflight.Yaml

/-- The kinds that an unquoted scalar can have. -/
inductive ScalarKind where
  | null
  | bool
  | int
  | float
  | moment
  | merge
  | default
  | indicator
  | text
  deriving DecidableEq, Repr

def nullWords : List String := ["~", "null", "Null", "NULL"]

def boolWords : List String :=
  ["yes", "Yes", "YES", "no", "No", "NO", "true", "True", "TRUE", "false", "False", "FALSE",
   "on", "On", "ON", "off", "Off", "OFF"]

def specialFloats : List String := [".inf", ".Inf", ".INF"]

def nanWords : List String := [".nan", ".NaN", ".NAN"]

def indicatorWords : List String := ["!", "&", "*"]

/-- A text without the line break at its end, if there is one. -/
def dropFinalBreak (cs : List Char) : List Char :=
  if cs.getLast? = some '\n' then cs.dropLast else cs

/-- At least one character, all of them of a class. -/
def isRowOf (test : Char → Bool) (cs : List Char) : Bool := !cs.isEmpty && cs.all test

def isDigitOrScore (c : Char) : Bool := c.isDigit || c = '_'

/-- A digit, and then digits and underscores. -/
def isNumber : List Char → Bool
  | c :: rest => c.isDigit && rest.all isDigitOrScore
  | [] => false

/-- The number that starts a scalar, as far as it goes, and the rest. -/
def spanNumber (cs : List Char) : List Char × List Char :=
  match cs with
  | c :: rest =>
    if c.isDigit then (c :: rest.takeWhile isDigitOrScore, rest.dropWhile isDigitOrScore)
    else ([], cs)
  | [] => ([], [])

/-- What follows a row of base-60 places, each a colon and one or two digits. -/
def afterPlaces : Nat → List Char → List Char
  | fuel + 1, ':' :: rest =>
    let digits := rest.takeWhile Char.isDigit
    let after := rest.dropWhile Char.isDigit
    match digits with
    | [_] => afterPlaces fuel after
    | [tens, _] => if tens < '6' then afterPlaces fuel after else ':' :: rest
    | _ => ':' :: rest
  | _, cs => cs

/-- Whether a number in base 60 starts here, with what follows it. -/
def spanBaseSixty? (cs : List Char) : Option (List Char) :=
  let (first, rest) := spanNumber cs
  match rest with
  | ':' :: _ =>
    let after := afterPlaces rest.length rest
    if first.isEmpty || after.length = rest.length then none else some after
  | _ => none

def isInt (cs : List Char) : Bool :=
  let body := (Text.splitSign cs).2
  match body with
  | '0' :: 'b' :: rest => isRowOf (fun c => c = '0' || c = '1' || c = '_') rest
  | '0' :: 'x' :: rest => isRowOf (fun c => Text.isBaseDigit 16 c || c = '_') rest
  | '0' :: rest => rest.all fun c => Text.isBaseDigit 8 c || c = '_'
  | body => isNumber body || (match spanBaseSixty? body with
    | some [] => true
    | _ => false)

/-- Nothing, or an exponent with a sign. -/
def isSignedExponent : List Char → Bool
  | [] => true
  | mark :: sign :: digits =>
    (mark = 'e' || mark = 'E') && (sign = '+' || sign = '-') && isRowOf Char.isDigit digits
  | _ => false

def isFloat (cs : List Char) : Bool :=
  let body := (Text.splitSign cs).2
  let (whole, rest) := spanNumber body
  let decimal := match rest with
    | '.' :: fraction => !whole.isEmpty && isSignedExponent (fraction.dropWhile isDigitOrScore)
    | _ => false
  let pointFirst := match cs with
    | '.' :: digit :: rest => digit.isDigit && isSignedExponent (rest.dropWhile isDigitOrScore)
    | _ => false
  let baseSixty := match spanBaseSixty? body with
    | some ('.' :: fraction) => fraction.all isDigitOrScore
    | _ => false
  decimal || pointFirst || baseSixty || specialFloats.contains (String.ofList body) ||
    nanWords.contains (String.ofList cs)

/-- The parts of a date, and of a time of day if there is one. -/
structure MomentParts where
  year : Nat
  month : Nat
  day : Nat
  /-- Whether month and day have two digits each. -/
  padded : Bool
  clock : Option (Nat × Nat × Nat)
  fraction : List Char
  /-- The offset: its sign, hours and minutes. -/
  offset : Option (Bool × Nat × Nat)

def digitsOf (least most : Nat) (cs : List Char) : Option (List Char × List Char) :=
  let digits := (cs.take most).takeWhile Char.isDigit
  if least ≤ digits.length then some (digits, cs.drop digits.length) else none

def expect (c : Char) : List Char → Option (List Char)
  | found :: rest => if found = c then some rest else none
  | [] => none

/-- Drops what separates a date from a time: a letter, or blanks. -/
def dropDateEnd : List Char → Option (List Char)
  | 'T' :: rest => some rest
  | 't' :: rest => some rest
  | cs =>
    let rest := cs.dropWhile fun c => c = ' ' || c = '\t'
    if rest.length < cs.length then some rest else none

/-- An offset from universal time at the end of a moment. -/
def offsetParts? (cs : List Char) : Option (Option (Bool × Nat × Nat)) :=
  match cs.dropWhile fun c => c = ' ' || c = '\t' with
  | [] => if cs.isEmpty then some none else none
  | ['Z'] => some (some (false, 0, 0))
  | sign :: rest => do
    if sign ≠ '+' && sign ≠ '-' then none
    else
      let (hours, rest) ← digitsOf 1 2 rest
      match rest with
      | [] => some (some (sign = '-', Text.natOfDigits 10 hours, 0))
      | ':' :: rest => do
        let (minutes, rest) ← digitsOf 2 2 rest
        if rest.isEmpty then
          some (some (sign = '-', Text.natOfDigits 10 hours, Text.natOfDigits 10 minutes))
        else none
      | _ => none

/-- Reads a date, or a date and a time of day, perhaps with a line break behind. -/
def momentParts? (cs : List Char) : Option MomentParts := do
  let (year, rest) ← digitsOf 4 4 (dropFinalBreak cs)
  let (month, rest) ← digitsOf 1 2 (← expect '-' rest)
  let (day, rest) ← digitsOf 1 2 (← expect '-' rest)
  let number := Text.natOfDigits 10
  let padded := month.length = 2 && day.length = 2
  match rest with
  | [] => some ⟨number year, number month, number day, padded, none, [], none⟩
  | rest =>
    let (hour, rest) ← digitsOf 1 2 (← dropDateEnd rest)
    let (minute, rest) ← digitsOf 2 2 (← expect ':' rest)
    let (second, rest) ← digitsOf 2 2 (← expect ':' rest)
    let (fraction, rest) := match rest with
      | '.' :: rest => (rest.takeWhile Char.isDigit, rest.dropWhile Char.isDigit)
      | rest => ([], rest)
    let offset ← offsetParts? rest
    some ⟨number year, number month, number day, padded,
      some (number hour, number minute, number second), fraction, offset⟩

/-- Dates alone have to be padded to be recognised. -/
def isMoment (cs : List Char) : Bool :=
  match momentParts? cs with
  | some parts => parts.padded || parts.clock.isSome
  | none => false

/-- The kind of value that a line of text spells. -/
def ScalarKind.ofLine (s : String) : ScalarKind :=
  let cs := s.toList
  if nullWords.contains s then .null
  else if boolWords.contains s then .bool
  else if s = "<<" then .merge
  else if s = "=" then .default
  else if indicatorWords.contains s then .indicator
  else if isInt cs then .int
  else if isFloat cs then .float
  else if isMoment cs then .moment
  else .text

/-- The kind of value that an unquoted scalar spells.  A line break at its end does not count, unless
it is all there is; the empty scalar is null. -/
def ScalarKind.of (s : String) : ScalarKind :=
  if s = "" then .null
  else if s = "\n" then .text
  else .ofLine (String.ofList (dropFinalBreak s.toList))

end Preflight.Yaml
