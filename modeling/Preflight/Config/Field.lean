import Preflight.Category
import Preflight.Document.Shown
import Preflight.Duration
import Preflight.Severity
import Preflight.Text.Numeral
import Preflight.Version

/-!
# Fields of a configuration

A field may hold any value.  Each reader takes the values that make sense for it and says what is
wrong with the others.
-/

namespace Preflight

namespace Version

/-- A version as users write it, perhaps with a letter in front; blanks alone mean no version. -/
def ofText (s : String) : Except ValueDefect (Option Version) :=
  let word := Text.stripChars s.toList
  let body := match word with
    | 'v' :: rest => rest
    | _ => word
  if word.isEmpty then .ok none
  else
    match read (String.ofList body) with
    | .ok version => .ok (some version)
    | .error .malformed => .error (.version s)
    | .error (.tooLong digits) => .error (.tooManyDigits (some digits))

end Version

namespace Config.Field

/-- A version, from the text of any value. -/
def version (d : Document) : Except ValueDefect (Option Version) :=
  match d with
  | .null => .ok none
  | d => do Version.ofText (← d.plain)

/-! ## Numbers -/

/-- Bytes as characters.  Those outside ASCII belong to no numeral. -/
def asciiOf (content : List UInt8) : List Char :=
  content.map fun byte => if byte < 0x80 then Char.ofNat byte.toNat else '\ufffd'

/-- A number of seconds. -/
def seconds (d : Document) : Except Fault Binary64 :=
  match d with
  | .float x => .ok x
  | .int n => (Duration.whole n).seconds
  | .bool b => .ok (.ofInt (if b then 1 else 0))
  | .text s => exact (Text.plainNumeral s.toList) (Text.quoted s)
  | .bytes content => exact (asciiOf content) (Document.shownBytes content)
  | d => .error (.kind (.notFloat d.qualifiedKindName))
where
  exact (cs : List Char) (shown : String) : Except Fault Binary64 :=
    match Text.readExact? cs with
    | some x => .ok x
    | none => .error (.value (.floatNumeral shown))

/-- A whole number; the fraction of a floating-point number is dropped. -/
def whole (d : Document) : Except Fault Int :=
  match d with
  | .int n => .ok n
  | .bool b => .ok (if b then 1 else 0)
  | .float x =>
    match x.truncate? with
    | some n => .ok n
    | none => .error (if x.isNaN then .value .wholeOfNaN else .range .wholeOfInfinity)
  | .text s => (ValueDefect.readWhole 10 (Text.plainNumeral s.toList) (Text.quoted s)).mapError .value
  | .bytes content =>
    let shown := Document.shownBytes (content.take ValueDefect.mostShown)
    (ValueDefect.readWhole 10 (asciiOf content) shown).mapError .value
  | d => .error (.kind (.notInt d.qualifiedKindName))

/-! ## Words -/

/-- The texts of a list that holds nothing else. -/
def texts? : List Document → Option (List String)
  | [] => some []
  | .text s :: rest => (texts? rest).map (s :: ·)
  | _ => none

/-- One selector, or a list of them. -/
def selectors (d : Document) : Except Fault (List String) :=
  match d with
  | .text s => .ok [s]
  | d =>
    match d.items?.bind texts? with
    | some found => .ok found
    | none => do throw (.config (.checksNotTexts (← d.shown.mapError .value)))

/-- Bytes as words are compared: without the blanks around them and in lower case. -/
def normalBytes (content : List UInt8) : List UInt8 :=
  let isBlank (byte : UInt8) : Bool := byte = 0x20 || (9 ≤ byte && byte ≤ 13)
  let start := content.dropWhile isBlank
  (start.reverse.dropWhile isBlank).reverse.map fun byte =>
    if 0x41 ≤ byte && byte ≤ 0x5A then byte + 0x20 else byte

def category (d : Document) : Except Fault (Option Category) :=
  if !d.isGiven then .ok none
  else
    match d with
    | .text s =>
      match Category.parse? s with
      | some found => .ok (some found)
      | none => .error (.value (.category (Category.normalize s)))
    | .bytes content => .error (.value (.category (Document.shownBytes (normalBytes content))))
    | d => .error (.noField d.qualifiedKindName "strip")

/-- A threshold in the words of a user. -/
def minimumOfText (s : String) : Except ValueDefect MinimumSeverity :=
  match MinimumSeverity.parse? s with
  | some found => .ok found
  | none => .error (.minimumSeverity (MinimumSeverity.normalize s))

def minimum (d : Document) : Except Fault MinimumSeverity :=
  if !d.isGiven then .ok .all
  else
    match d with
    | .text s => (minimumOfText s).mapError .value
    | .bytes content =>
      .error (.value (.minimumSeverity (Document.shownBytes (normalBytes content))))
    | d => .error (.noField d.qualifiedKindName "strip")

def flag (key : String) (d : Document) : Except Fault Bool :=
  match d with
  | .bool b => .ok b
  | d => do throw (.config (.notBoolean key (← d.shown.mapError .value)))

end Config.Field

end Preflight
