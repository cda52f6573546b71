import Preflight.Timestamp.Valid

/-!
# Reading moments

A moment is a date, a character of any kind, and a time of day.  The date is written by month and day
or by week and day of the week, and the time by up to three parts with a fraction and an offset; each
of them with or without marks between the parts.
-/

namespace Preflight.Timestamp

/-- A number of exactly `width` digits, and what follows it. -/
def fixedNumber? (width : Nat) (cs : List Char) : Option (Nat × List Char) :=
  let digits := cs.take width
  if digits.length = width && digits.all Char.isDigit then
    some (digits.foldl (fun n c => n * 10 + (c.toNat - 0x30)) 0, cs.drop width)
  else none

/-! ## Dates -/

/-- Whether a year has a week of number 53. -/
def isLongYear (year : Nat) : Bool :=
  let first := Date.weekday ⟨year, 1, 1⟩
  first = 3 || (first = 2 && Date.isLeapYear year)

/-- The date of a day of a week.  The first week of a year is the one with its first Thursday, so its
days may be days of the year before. -/
def dateOfWeek? (year week day : Nat) : Option Date :=
  if year = 0 || week = 0 || 53 < week || (week = 53 && !isLongYear year) then none
  else if day = 0 || 7 < day then none
  else
    let first := Date.weekday ⟨year, 1, 1⟩
    let days := (week - 1) * 7 + day
    if 3 < first then some (.ofMonthDay year 1 (days + 7 - first) 12)
    else if first < days then some (.ofMonthDay year 1 (days - first) 12)
    else some ⟨year - 1, 12, 31 + days - first⟩

/-- The rest after a hyphen, which stands there if the date has hyphens. -/
def afterHyphen? (hyphens : Bool) (cs : List Char) : Option (List Char) :=
  if hyphens then
    match cs with
    | '-' :: rest => some rest
    | _ => none
  else some cs

/-- A date by week and day of the week, the first day if none is written. -/
def weekDate? (year : Nat) (hyphens : Bool) (cs : List Char) : Option Date := do
  let (week, rest) ← fixedNumber? 2 cs
  if rest.isEmpty then dateOfWeek? year week 1
  else
    let (day, rest) ← fixedNumber? 1 (← afterHyphen? hyphens rest)
    if rest.isEmpty then dateOfWeek? year week day else none

/-- A date by month and day. -/
def monthDate? (year : Nat) (hyphens : Bool) (cs : List Char) : Option Date := do
  let (month, rest) ← fixedNumber? 2 cs
  let (day, rest) ← fixedNumber? 2 (← afterHyphen? hyphens rest)
  if rest.isEmpty then some ⟨year, month, day⟩ else none

def date? (cs : List Char) : Option Date := do
  let (year, rest) ← fixedNumber? 4 cs
  let hyphens := rest.head? = some '-'
  match if hyphens then rest.drop 1 else rest with
  | 'W' :: rest => weekDate? year hyphens rest
  | rest => monthDate? year hyphens rest

/-! ## Times of day -/

/-- The microseconds that the digits of a fraction write. -/
def fractionMicros (digits : List Char) : Nat :=
  let six := digits.take 6 ++ List.replicate (6 - digits.length) '0'
  ((fixedNumber? 6 six).map Prod.fst).getD 0

/-- Hour, minute, second and microsecond, and whether something is left that belongs to none. -/
structure ClockParts where
  numbers : List Nat
  micros : Nat
  hasRest : Bool

/-- Up to three numbers of two digits, with colons between all of them or none, and a fraction.  A mark
at the end belongs to none of them. -/
def clockParts? (colons : Option Bool) (before : List Nat) (cs : List Char) :
    Nat → Option ClockParts
  | 0 => fractionAfter? before cs
  | count + 1 => do
    let (number, rest) ← fixedNumber? 2 cs
    let numbers := before ++ [number]
    match rest with
    | [] => some ⟨numbers, 0, false⟩
    | [_] => some ⟨numbers, 0, true⟩
    | mark :: rest =>
      let colons := colons.getD (mark = ':')
      if colons && mark = ':' then clockParts? (some colons) numbers rest count
      else if mark = '.' || mark = ',' then fractionAfter? numbers rest
      else if !colons then clockParts? (some colons) numbers (mark :: rest) count
      else none
where
  fractionAfter? (numbers : List Nat) (cs : List Char) : Option ClockParts :=
    let digits := cs.take 6
    if digits.all Char.isDigit then
      some ⟨numbers, fractionMicros digits, !(cs.drop 6).all Char.isDigit⟩
    else none

namespace ClockParts

def number (p : ClockParts) (index : Nat) : Nat := p.numbers.getD index 0

end ClockParts

/-- Whether an offset starts here. -/
def startsOffset (c : Char) : Bool := c = '+' || c = '-' || c = 'Z'

/-- The length of an offset.  A fraction alone is none. -/
def offsetLength (p : ClockParts) : Int :=
  let seconds := microsOf (p.number 0) (p.number 1) (p.number 2) 0
  if seconds = 0 then 0 else seconds + p.micros

/-- The offset that a text writes. -/
def offset? : List Char → Option Int
  | ['Z'] => some 0
  | 'Z' :: _ => none
  | sign :: rest => do
    let p ← clockParts? none [] rest 3
    if p.hasRest then none else some (if sign = '-' then -offsetLength p else offsetLength p)
  | [] => none

/-- The moment of a day that a text writes. -/
def clock? (date : Date) (cs : List Char) : Option Timestamp := do
  let clock := cs.head?.toList ++ (cs.drop 1).takeWhile (!startsOffset ·)
  let p ← clockParts? none [] clock 3
  let t (offset : Option Int) : Timestamp :=
    ⟨date, p.number 0, p.number 1, p.number 2, p.micros, offset⟩
  match cs.drop clock.length with
  | [] => if p.hasRest then none else some (t none)
  | zone => do return t (some (← offset? zone))

/-! ## Both -/

/-- The length of the date that a text starts with, as far as it can be told from its form. -/
def dateLength (cs : List Char) : Nat :=
  if cs.length = 7 then 7
  else if cs[4]? = some '-' then
    if cs[5]? = some 'W' && (cs[8]? ≠ some '-' || (cs[10]?.any Char.isDigit)) then 8 else 10
  else if cs[4]? = some 'W' then
    let digits := ((cs.drop 7).takeWhile Char.isDigit).length
    if digits < 2 then 7 + digits else if digits % 2 = 1 then 7 else 8
  else 8

/-- The moment of a text; a date alone is its first moment. -/
def parts? (cs : List Char) : Option Timestamp := do
  let length := dateLength cs
  let date ← date? (cs.take length)
  match cs.drop length with
  | [] => some ⟨date, 0, 0, 0, 0, none⟩
  | _ :: clock => clock? date clock

/-- Reads a moment. -/
def ofIso (s : String) : Except ValueDefect Timestamp := do
  match parts? s.toList with
  | none => throw (.isoText (Text.quoted s))
  | some t => do
    discard (t.offset.mapM requireOffset)
    t.validate
    return t

end Preflight.Timestamp
