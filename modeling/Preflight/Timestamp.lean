import Preflight.Text.Padded

/-!
# Dates and moments

Calendar dates and moments of a day, and their text with the parts from year to offset in order.
-/

namespace Preflight

structure Date where
  year : Nat
  month : Nat
  day : Nat
  deriving DecidableEq, Repr, Inhabited

/-- A moment of a day.  The offset counts microseconds east of universal time and is absent when the
moment is not tied to a zone. -/
structure Timestamp where
  date : Date
  hour : Nat
  minute : Nat
  second : Nat
  microsecond : Nat
  offset : Option Int
  deriving DecidableEq, Repr, Inhabited

namespace Date

def isLeapYear (year : Nat) : Bool :=
  year % 4 == 0 && (year % 100 != 0 || year % 400 == 0)

def daysInMonth (year month : Nat) : Nat :=
  if month = 2 then (if isLeapYear year then 29 else 28)
  else if month = 4 || month = 6 || month = 9 || month = 11 then 30
  else 31

/-- The days from the start of the first year to the start of a year. -/
def daysBeforeYear (year : Nat) : Nat :=
  let past := year - 1
  past * 365 + past / 4 - past / 100 + past / 400

/-- The days of a year before a month. -/
def daysBeforeMonth (year month : Nat) : Nat :=
  ((List.range (month - 1)).map fun index => daysInMonth year (index + 1)).foldl (· + ·) 0

/-- The number of the day, from one for the first day of the first year. -/
def number (d : Date) : Nat := daysBeforeYear d.year + daysBeforeMonth d.year d.month + d.day

/-- The date that is some days after the start of a month, at most as many months later as the bound
says. -/
def ofMonthDay (year month day : Nat) : Nat → Date
  | 0 => ⟨year, month, day⟩
  | months + 1 =>
    let length := daysInMonth year month
    if day ≤ length then ⟨year, month, day⟩
    else if month = 12 then ofMonthDay (year + 1) 1 (day - length) months
    else ofMonthDay year (month + 1) (day - length) months

/-- The day of the week, from zero for Monday. -/
def weekday (d : Date) : Nat := (d.number + 6) % 7

/-- Year, month and day, joined by hyphens. -/
def iso (d : Date) : String :=
  s!"{Text.zeroPadded 4 d.year}-{Text.zeroPadded 2 d.month}-{Text.zeroPadded 2 d.day}"

end Date

namespace Timestamp

/-- The moment without its fraction of a second. -/
def wholeSeconds (t : Timestamp) : Timestamp := { t with microsecond := 0 }

def microsPerSecond : Nat := 1000000

def microsPerDay : Nat := 86400 * microsPerSecond

/-- The microseconds of a length of time. -/
def microsOf (hours minutes seconds micros : Nat) : Nat :=
  (hours * 3600 + minutes * 60 + seconds) * microsPerSecond + micros

/-- The microseconds from the start of the first year to the moment, by the clock that it is told
by. -/
def clockMicros (t : Timestamp) : Int :=
  t.date.number * microsPerDay + microsOf t.hour t.minute t.second t.microsecond

/-- Whether two moments are the same.  With an offset they are compared in universal time; a moment
without one is the same only as another one without. -/
def sameInstant (s t : Timestamp) : Bool :=
  match s.offset, t.offset with
  | none, none => s == t
  | some a, some b =>
    s.clockMicros - a == t.clockMicros - b
  | _, _ => false

/-- An offset in whole minutes, as sign, hours and minutes. -/
def minutesText (isWest : Bool) (minutes : Nat) : String :=
  let sign := if isWest then "-" else "+"
  s!"{sign}{Text.zeroPadded 2 (minutes / 60)}:{Text.zeroPadded 2 (minutes % 60)}"

/-- An offset as sign, hours and minutes, and seconds and their fraction if there are any. -/
def offsetText (offset : Int) : String :=
  let total := offset.natAbs
  let seconds := total / microsPerSecond
  let micros := total % microsPerSecond
  let fraction := if micros = 0 then "" else "." ++ Text.zeroPadded 6 micros
  let fine := if seconds % 60 = 0 && micros = 0 then ""
    else ":" ++ Text.zeroPadded 2 (seconds % 60) ++ fraction
  minutesText (decide (offset < 0)) (seconds / 60) ++ fine

/-- Date and time of day; a fraction has six digits and is left out when it is zero. -/
def isoLocal (t : Timestamp) (separator : String) : String :=
  let fraction := if t.microsecond = 0 then "" else "." ++ Text.zeroPadded 6 t.microsecond
  let hour := Text.zeroPadded 2 t.hour
  let minute := Text.zeroPadded 2 t.minute
  let second := Text.zeroPadded 2 t.second
  s!"{t.date.iso}{separator}{hour}:{minute}:{second}{fraction}"

/-- The moment with its offset in digits. -/
def iso (t : Timestamp) (separator : String) : String :=
  t.isoLocal separator ++ (t.offset.map offsetText).getD ""

/-- The moment as a document shows it: the offset in whole minutes, and a letter in the place of one
that rounds to no second. -/
def inDocument (t : Timestamp) : String :=
  match t.offset with
  | none => t.isoLocal "T"
  | some offset =>
    let seconds := (offset.natAbs + microsPerSecond / 2) / microsPerSecond
    t.isoLocal "T" ++
      (if seconds = 0 then "Z" else minutesText (decide (offset < 0)) (seconds / 60))

end Timestamp

end Preflight
