import Preflight.Document.Flaw
import Preflight.Text.Units

/-!
# Reading JSON

A JSON text becomes a document.  Whole numbers stay exact, other numbers are rounded to the binary
format, and the words for infinity and NaN are accepted.  Of two entries with the same key the later
value counts.  The first place at which the text cannot be read decides what is wrong with it.
-/

namespace Preflight.Json

def isSpace (c : Char) : Bool := c = ' ' || c = '\t' || c = '\n' || c = '\r'

def skipSpace (cs : List Char) : List Char := cs.dropWhile isSpace

def isHex (c : Char) : Bool := Text.isBaseDigit 16 c

/-- The unit of a four-digit escape, and what follows it. -/
def escapedUnit? : List Char → Option (Nat × List Char)
  | a :: b :: c :: d :: rest =>
    let digits := [a, b, c, d]
    if digits.all isHex then some (Text.natOfDigits 16 digits, rest) else none
  | _ => none

/-- The unit of a one-letter escape. -/
def letterEscape? (c : Char) : Option Nat :=
  if c = '"' || c = '\\' || c = '/' then some c.toNat
  else if c = 'b' then some 8
  else if c = 'f' then some 12
  else if c = 'n' then some 10
  else if c = 'r' then some 13
  else if c = 't' then some 9
  else none

/-- The units of a string up to its closing quote, and what follows the quote. -/
def stringUnits? : Nat → List Char → Option (List Nat × List Char)
  | 0, _ => none
  | _, [] => none
  | fuel + 1, c :: rest =>
    if c = '"' then some ([], rest)
    else if c = '\\' then
      match rest with
      | 'u' :: digits => do
        let (unit, rest) ← escapedUnit? digits
        let (units, rest) ← stringUnits? fuel rest
        some (unit :: units, rest)
      | letter :: rest => do
        let unit ← letterEscape? letter
        let (units, rest) ← stringUnits? fuel rest
        some (unit :: units, rest)
      | [] => none
    else if c.toNat < 0x20 then none
    else do
      let (units, rest) ← stringUnits? fuel rest
      some (c.toNat :: units, rest)

/-- The digits after a point, if there are a point and digits. -/
def fraction : List Char → List Char × List Char
  | '.' :: rest =>
    let digits := rest.takeWhile Char.isDigit
    if digits.isEmpty then ([], '.' :: rest) else (digits, rest.dropWhile Char.isDigit)
  | rest => ([], rest)

/-- The exponent, if there is one. -/
def exponent? : List Char → Option (Int × List Char)
  | mark :: rest =>
    if mark = 'e' || mark = 'E' then
      let (negative, afterSign) := Text.splitSign rest
      let digits := afterSign.takeWhile Char.isDigit
      if digits.isEmpty then none
      else
        let magnitude : Int := Text.natOfDigits 10 digits
        some (if negative then -magnitude else magnitude, afterSign.dropWhile Char.isDigit)
    else none
  | [] => none

/-- A number; it is whole when it has neither fraction nor exponent. -/
def number (cs : List Char) : Except Flaw (Document × List Char) :=
  let (negative, body) := match cs with
    | '-' :: rest => (true, rest)
    | rest => (false, rest)
  let digits := body.takeWhile Char.isDigit
  let whole := if digits.head? = some '0' then ['0'] else digits
  let afterWhole := body.drop whole.length
  if whole.isEmpty then .error .malformed
  else
    let (decimals, afterFraction) := fraction afterWhole
    let value := Text.natOfDigits 10 (whole ++ decimals)
    match exponent? afterFraction with
    | some (exponent, rest) =>
      .ok (.float (.ofDecimal negative value (exponent - decimals.length)), rest)
    | none =>
      if !decimals.isEmpty then
        .ok (.float (.ofDecimal negative value (-decimals.length)), afterFraction)
      else if Text.mostDigits < whole.length then .error (.tooLong whole.length)
      else .ok (.int (if negative then -value else value), afterFraction)

/-- The words that stand for a value. -/
def words : List (String × Document) :=
  [("null", .null), ("true", .bool true), ("false", .bool false), ("NaN", .float .nan),
   ("Infinity", .float (.infinity false)), ("-Infinity", .float (.infinity true))]

def word? (cs : List Char) : Option (Document × List Char) :=
  words.findSome? fun (word, value) =>
    if word.toList.isPrefixOf cs then some (value, cs.drop word.length) else none

/-- A string after its opening quote. -/
def string (cs : List Char) : Except Flaw (String × List Char) :=
  match stringUnits? (cs.length + 1) cs with
  | some (units, rest) => .ok (String.ofList (Text.joinUnits units), rest)
  | none => .error .malformed

/-- How deeply collections may be nested.  This stands for the recursion limit of the interpreter
that the program runs in: so many levels can be read before it gives up. -/
def deepest : Nat := 990

mutual

/-- A value at the start of the text, and what follows it.  `room` counts the levels of nesting that
are left. -/
def value (room : Nat) : Nat → List Char → Except Flaw (Document × List Char)
  | 0, _ => .error .malformed
  | fuel + 1, cs =>
    match cs with
    | '"' :: rest => (string rest).map fun (s, rest) => (.text s, rest)
    | '[' :: rest =>
      if room = 0 then .error .tooDeep
      else
        match skipSpace rest with
        | ']' :: rest => .ok (.list [], rest)
        | rest => (items (room - 1) fuel rest).map fun (found, rest) => (.list found, rest)
    | '\x7b' :: rest =>
      if room = 0 then .error .tooDeep
      else
        match skipSpace rest with
        | '\x7d' :: rest => .ok (.map [], rest)
        | rest => (entries (room - 1) fuel [] rest).map fun (found, rest) => (.map found, rest)
    | cs =>
      match word? cs with
      | some found => .ok found
      | none => number cs

/-- The items of a list up to its closing bracket. -/
def items (room : Nat) : Nat → List Char → Except Flaw (List Document × List Char)
  | 0, _ => .error .malformed
  | fuel + 1, cs => do
    let (item, rest) ← value room fuel (skipSpace cs)
    match skipSpace rest with
    | ',' :: rest => do
      let (later, rest) ← items room fuel rest
      return (item :: later, rest)
    | ']' :: rest => return ([item], rest)
    | _ => throw .malformed

/-- The entries of a mapping up to its closing brace, added to those before them. -/
def entries (room : Nat) : Nat → List (Document × Document) → List Char →
    Except Flaw (List (Document × Document) × List Char)
  | 0, _, _ => .error .malformed
  | fuel + 1, before, cs =>
    match skipSpace cs with
    | '"' :: rest => do
      let (key, rest) ← string rest
      match skipSpace rest with
      | ':' :: rest => do
        let (found, rest) ← value room fuel (skipSpace rest)
        let before := Document.insertEntry before (.text key) found
        match skipSpace rest with
        | ',' :: rest => entries room fuel before rest
        | '\x7d' :: rest => return (before, rest)
        | _ => throw .malformed
      | _ => throw .malformed
    | _ => .error .malformed

end

/-- The document of a JSON text, which holds one value and blanks around it. -/
def read (s : String) : Except Flaw Document := do
  let cs := s.toList
  let (found, rest) ← value deepest (2 * cs.length + 2) (skipSpace cs)
  if (skipSpace rest).isEmpty then return found else throw .malformed

end Preflight.Json
