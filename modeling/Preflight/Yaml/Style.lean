import Preflight.Text.Units
import Preflight.Yaml.Cursor
import Preflight.Yaml.Scalar

/-!
# Styles of scalars

A text is written without quotes unless it would then read as something else.  Between single quotes
every text can be written whose lines do not start or end with spaces and whose characters can stand
for themselves; any other text needs double quotes and escapes.
-/

namespace Preflight.Yaml

inductive Style where
  | plain
  | single
  | double
  deriving DecidableEq, Repr

namespace Style

/-- Line breaks, as far as a written text can hold them. -/
def isLineBreak (c : Char) : Bool :=
  c = '\n' || c = '\x85' || c = '\u2028' || c = '\u2029'

/-- The characters that can stand for themselves between single quotes. -/
def isOrdinary (c : Char) : Bool :=
  let code := Text.codeOf c
  c = '\n' || (0x20 ≤ code && code ≤ 0x7E) || code = 0x85 ||
    (0xA0 ≤ code && code ≤ 0xFFFD && code ≠ 0xFEFF && !Text.isHalf code) ||
    (0x10000 ≤ code && code < 0x10FFFF)

def isMultiline (cs : List Char) : Bool := cs.any isLineBreak

/-- The characters that cannot start an unquoted text. -/
def leadingIndicators : List Char := "#,[]\x7b\x7d&*!|>'\"%@`".toList

/-- Whether a blank or the end follows. -/
def blankNext : List Char → Bool
  | [] => true
  | c :: _ => isBlankOrEnd c

/-- Whether an indicator stands behind the first character of a text: a colon in front of a blank, or
a number sign behind one. -/
def hasInnerIndicator (afterBlank : Bool) : List Char → Bool
  | [] => false
  | c :: rest =>
    (c = ':' && blankNext rest) || (c = '#' && afterBlank) || hasInnerIndicator (isBlankOrEnd c) rest

/-- Whether an indicator would make an unquoted text read as something else. -/
def hasIndicator : List Char → Bool
  | [] => false
  | c :: rest =>
    ['-', '-', '-'].isPrefixOf (c :: rest) || ['.', '.', '.'].isPrefixOf (c :: rest) ||
      leadingIndicators.contains c ||
      ((c = '?' || c = ':' || c = '-') && blankNext rest) ||
      hasInnerIndicator (isBlankOrEnd c) rest

/-- Whether a line break is followed by a space, or a space by a line break. -/
def hasBreakBesideSpace : List Char → Bool
  | [] => false
  | [_] => false
  | a :: b :: rest =>
    (isLineBreak a && b = ' ') || (a = ' ' && isLineBreak b) || hasBreakBesideSpace (b :: rest)

def isSpaceOrBreak (c : Char) : Bool := c = ' ' || isLineBreak c

/-- Whether a text can be written without quotes, whatever it then spells. -/
def allowsPlain (cs : List Char) : Bool :=
  cs.all isOrdinary && !isMultiline cs && !hasIndicator cs &&
    !(cs.head?.any isSpaceOrBreak) && !(cs.getLast?.any isSpaceOrBreak)

def allowsSingle (cs : List Char) : Bool := cs.all isOrdinary && !hasBreakBesideSpace cs

/-- The style of a text.  A simple key has one line, so its breaks are escaped. -/
def of (isSimpleKey : Bool) (s : String) : Style :=
  let cs := s.toList
  if ScalarKind.of s = .text && allowsPlain cs then .plain
  else if allowsSingle cs && !(isSimpleKey && isMultiline cs) then .single
  else .double

/-- The length that a simple key does not reach. -/
def keyLimit : Nat := 123

/-- Whether a text can be written in front of its colon without a mark. -/
def isSimpleKey (s : String) : Bool :=
  let cs := s.toList
  !cs.isEmpty && !isMultiline cs && cs.length < keyLimit

end Style

end Preflight.Yaml
