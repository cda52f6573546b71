import Preflight.Text.Blank
import Preflight.Text.Numeral

/-!
# Platform versions

A version has release numbers and optional parts: an epoch, a pre-release, a post-release, a
development release and a local label.  Many spellings read as the same version; `Version.render`
writes the normal one.
-/

namespace Preflight

inductive PreRelease where
  | alpha
  | beta
  | candidate
  deriving DecidableEq, Repr

/-- A part of a local label. -/
inductive LabelPart where
  | number (n : Nat)
  | word (s : String)
  deriving DecidableEq, Repr

structure Version where
  epoch : Nat
  major : Nat
  /-- The release numbers after the first. -/
  rest : List Nat
  pre : Option (PreRelease × Nat)
  post : Option Nat
  dev : Option Nat
  label : List LabelPart
  deriving DecidableEq, Repr

def PreRelease.mark : PreRelease → String
  | .alpha => "a"
  | .beta => "b"
  | .candidate => "rc"

def LabelPart.render : LabelPart → String
  | .number n => toString n
  | .word s => s

namespace Version

/-- The normal text of a version. -/
def render (v : Version) : String :=
  let epoch := if v.epoch = 0 then "" else s!"{v.epoch}!"
  let release := String.intercalate "." ((v.major :: v.rest).map toString)
  let pre := match v.pre with
    | some (kind, n) => s!"{kind.mark}{n}"
    | none => ""
  let post := match v.post with
    | some n => s!".post{n}"
    | none => ""
  let dev := match v.dev with
    | some n => s!".dev{n}"
    | none => ""
  let label := match v.label with
    | [] => ""
    | parts => "+" ++ String.intercalate "." (parts.map LabelPart.render)
  s!"{epoch}{release}{pre}{post}{dev}{label}"

/-! ## Reading

A text is first taken apart into the parts that it spells, and then its numbers are read. -/

/-- The digits of a number, at least one. -/
def digits? (cs : List Char) : Option (List Char × List Char) :=
  let digits := cs.takeWhile Char.isDigit
  if digits.isEmpty then none else some (digits, cs.dropWhile Char.isDigit)

/-- The digits of a number that may be left out. -/
def digitsOrNone (cs : List Char) : List Char × List Char := (digits? cs).getD ([], cs)

def isSeparator (c : Char) : Bool := c = '-' || c = '_' || c = '.'

def dropSeparator : List Char → List Char
  | c :: rest => if isSeparator c then rest else c :: rest
  | [] => []

/-- The first of the words that begins the text, with what it stands for. -/
def word? {α : Type} (words : List (String × α)) (cs : List Char) : Option (α × List Char) :=
  words.findSome? fun (word, meaning) =>
    if word.toList.isPrefixOf cs then some (meaning, cs.drop word.length) else none

def preWords : List (String × PreRelease) :=
  [("alpha", .alpha), ("a", .alpha), ("beta", .beta), ("b", .beta), ("preview", .candidate),
   ("pre", .candidate), ("c", .candidate), ("rc", .candidate)]

/-- The words for a post-release; the long letter s counts as an s. -/
def postWords : List (String × Unit) := [("post", ()), ("po\u017ft", ()), ("rev", ()), ("r", ())]

def devWords : List (String × Unit) := [("dev", ())]

/-- A marked part: a separator, a mark, a separator and a number, of which only the mark is
required. -/
def markedPart? {α : Type} (words : List (String × α)) (cs : List Char) :
    Option ((α × List Char) × List Char) := do
  let (meaning, afterWord) ← word? words (dropSeparator cs)
  let (digits, rest) := digitsOrNone (dropSeparator afterWord)
  some ((meaning, digits), rest)

/-- The remaining release numbers, each after a point. -/
def releaseTail : Nat → List Char → List (List Char) × List Char
  | fuel + 1, '.' :: cs =>
    match digits? cs with
    | some (digits, rest) =>
      let (tail, rest) := releaseTail fuel rest
      (digits :: tail, rest)
    | none => ([], '.' :: cs)
  | _, cs => ([], cs)

/-- A post-release: a hyphen and a number, or a marked part. -/
def post? (cs : List Char) : Option (List Char × List Char) :=
  let bare := match cs with
    | '-' :: rest => digits? rest
    | _ => none
  match bare with
  | some found => some found
  | none => (markedPart? postWords cs).map fun (part, rest) => (part.2, rest)

/-- The letters of a local label, in lower case.  Some letters outside ASCII have a case form among
the letters of ASCII, and they count as well. -/
def labelLetters? (c : Char) : Option (List Char) :=
  if c.isDigit || c.isLower || c = '\u0131' || c = '\u017f' then some [c]
  else if c = '\u0130' then some ['i', '\u0307']
  else if c = '\u212a' then some ['k']
  else none

/-- A local label: words of letters and digits between single separators. -/
def label? : Nat → List Char → Option (List (List Char))
  | 0, _ => none
  | fuel + 1, cs =>
    let word := cs.takeWhile fun c => (labelLetters? c).isSome
    if word.isEmpty then none
    else
      match cs.drop word.length with
      | [] => some [word]
      | c :: rest => if isSeparator c then (label? fuel rest).map (word :: ·) else none

/-- The parts that a text spells, numbers by their digits. -/
structure Spelling where
  epoch : List Char
  major : List Char
  rest : List (List Char)
  pre : Option (PreRelease × List Char)
  post : Option (List Char)
  dev : Option (List Char)
  label : List (List Char)

def lowerAscii (cs : List Char) : List Char := cs.map Char.toLower

/-- Takes any accepted spelling apart. -/
def Spelling.of? (s : String) : Option Spelling := do
  let trimmed := lowerAscii (Text.stripChars s.toList)
  let body := match trimmed with
    | 'v' :: rest => rest
    | cs => cs
  let (first, afterFirst) ← digits? body
  let (epoch, major, afterMajor) ← match afterFirst with
    | '!' :: rest => (digits? rest).map fun (major, rest) => (first, major, rest)
    | rest => some ([], first, rest)
  let (tail, afterRelease) := releaseTail afterMajor.length afterMajor
  let (pre, afterPre) := match markedPart? preWords afterRelease with
    | some (part, rest) => (some part, rest)
    | none => (none, afterRelease)
  let (post, afterPost) := match post? afterPre with
    | some (digits, rest) => (some digits, rest)
    | none => (none, afterPre)
  let (dev, afterDev) := match markedPart? devWords afterPost with
    | some (part, rest) => (some part.2, rest)
    | none => (none, afterPost)
  let spelling : Spelling := ⟨epoch, major, tail, pre, post, dev, []⟩
  match afterDev with
  | [] => some spelling
  | '+' :: rest => (label? (rest.length + 1) rest).map fun words => { spelling with label := words }
  | _ => none

/-- A number by its digits, zero without any.  Too many digits are an error, which tells how many
there are. -/
def numberOf (digits : List Char) : Except Nat Nat :=
  if Text.mostDigits < digits.length then .error digits.length
  else .ok (Text.natOfDigits 10 digits)

def labelPartOf (word : List Char) : Except Nat LabelPart :=
  if word.all Char.isDigit then (numberOf word).map .number
  else .ok (.word (String.ofList (word.flatMap fun c => (labelLetters? c).getD [c])))

/-- The version that a spelling stands for, its numbers read from left to right. -/
def Spelling.version (s : Spelling) : Except Nat Version := do
  return {
    epoch := ← numberOf s.epoch
    major := ← numberOf s.major
    rest := ← s.rest.mapM numberOf
    pre := ← s.pre.mapM fun (kind, digits) => (numberOf digits).map fun n => (kind, n)
    post := ← s.post.mapM numberOf
    dev := ← s.dev.mapM numberOf
    label := ← s.label.mapM labelPartOf }

/-- Why a text is no version. -/
inductive Flaw where
  | malformed
  | tooLong (digits : Nat)
  deriving DecidableEq, Repr

/-- Reads any accepted spelling. -/
def read (s : String) : Except Flaw Version :=
  match Spelling.of? s with
  | none => .error .malformed
  | some spelling => spelling.version.mapError .tooLong

/-- Whether the move from one version to the other crosses into a later major release; without
both versions it does not. -/
def isMajorUpgrade (current target : Option Version) (fromMajor toMajor : Int) : Bool :=
  match current, target with
  | some c, some t => (c.major : Int) == fromMajor && decide (toMajor ≤ (t.major : Int))
  | _, _ => false

end Version

end Preflight
