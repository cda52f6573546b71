import Preflight.Binary64.Shortest
import Preflight.Fault

/-!
# Documents in messages

A value is shown on one line, texts quoted and collections bracketed; a collection that occurs again
inside itself is only hinted at there.  The plain form of a value differs only at the top: a text
stands without quotes and a date in its calendar form.  Whole numbers with too many digits cannot be
shown.
-/

namespace Preflight.Document

def openBrace : String := "\x7b"

def closeBrace : String := "\x7d"

/-- A length of time in microseconds, by its days, the seconds of the last day, and the rest. -/
def shownDuration (micros : Int) : String :=
  let inDay := micros.fmod Timestamp.microsPerDay
  let parts := [("days", micros.fdiv Timestamp.microsPerDay),
    ("seconds", inDay / Timestamp.microsPerSecond),
    ("microseconds", inDay % Timestamp.microsPerSecond)]
  let shown := (parts.filter fun (_, count) => count ≠ 0).map fun (name, count) => s!"{name}={count}"
  let body := if shown.isEmpty then "0" else String.intercalate ", " shown
  s!"datetime.timedelta({body})"

def shownZone (offset : Int) : String :=
  if offset = 0 then "datetime.timezone.utc"
  else s!"datetime.timezone({shownDuration offset})"

/-- A moment by its parts; seconds and microseconds are left out from the end while zero. -/
def shownMoment (t : Timestamp) : String :=
  let fine := if t.microsecond ≠ 0 then [t.second, t.microsecond]
    else if t.second ≠ 0 then [t.second] else []
  let numbers := [t.date.year, t.date.month, t.date.day, t.hour, t.minute] ++ fine
  let zone := match t.offset with
    | none => ""
    | some offset => s!", tzinfo={shownZone offset}"
  let parts := String.intercalate ", " (numbers.map toString)
  s!"datetime.datetime({parts}{zone})"

/-- Bytes outside printable ASCII are escaped. -/
def byteEscape (quoteMark : Char) (byte : UInt8) : List Char :=
  let c := Char.ofNat byte.toNat
  if byte.toNat < 0x7F then Text.escapeIn quoteMark c
  else '\\' :: 'x' :: Text.hexDigits 2 byte.toNat

def shownBytes (content : List UInt8) : String :=
  let mark := Text.quoteMarkFor (content.map fun byte => Char.ofNat byte.toNat)
  String.ofList ('b' :: mark :: content.flatMap (byteEscape mark) ++ [mark])

/-- A whole number in decimal. -/
def shownInt (n : Int) : Except ValueDefect String :=
  if n.natAbs < Nat.pow 10 Text.mostDigits then .ok (toString n) else .error (.tooManyDigits none)

def bracketed (opening closing : String) (parts : List String) : String :=
  opening ++ String.intercalate ", " parts ++ closing

/-- What stands for a collection inside itself. -/
def hint : Document → String
  | map _ => bracketed openBrace closeBrace ["..."]
  | _ => bracketed "[" "]" ["..."]

mutual

/-- A value as it stands inside a message.  `around` holds the labels of the knots around it, each
with what stands for the knot. -/
def shownWithin (around : List (Nat × String)) : Document → Except ValueDefect String
  | null => .ok "None"
  | bool b => .ok (if b then "True" else "False")
  | int n => shownInt n
  | float x => .ok x.render
  | text s => .ok (Text.quoted s)
  | date d => .ok s!"datetime.date({d.year}, {d.month}, {d.day})"
  | moment t => .ok (shownMoment t)
  | bytes content => .ok (shownBytes content)
  | list items => (shownItems around items).map (bracketed "[" "]")
  | set items =>
    if items.isEmpty then .ok "set()"
    else (shownItems around items).map (bracketed openBrace closeBrace)
  | pair first second => do
    return bracketed "(" ")" [← shownWithin around first, ← shownWithin around second]
  | map entries => (shownEntries around entries).map (bracketed openBrace closeBrace)
  | knot label body =>
    match around.lookup label with
    | some hint => .ok hint
    | none => shownWithin ((label, hint body) :: around) body
  | loop label => .ok ((around.lookup label).getD "")

def shownItems (around : List (Nat × String)) : List Document → Except ValueDefect (List String)
  | [] => .ok []
  | item :: items => do return (← shownWithin around item) :: (← shownItems around items)

def shownEntries (around : List (Nat × String)) :
    List (Document × Document) → Except ValueDefect (List String)
  | [] => .ok []
  | (key, value) :: entries => do
    let shown := s!"{← shownWithin around key}: {← shownWithin around value}"
    return shown :: (← shownEntries around entries)

end

/-- A value in a message. -/
def shown (d : Document) : Except ValueDefect String := d.shownWithin []

/-- A value as a text of its own. -/
def plain : Document → Except ValueDefect String
  | text s => .ok s
  | date d => .ok d.iso
  | moment t => .ok (t.iso " ")
  | d => d.shown

end Preflight.Document
