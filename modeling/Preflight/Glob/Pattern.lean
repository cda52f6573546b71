/-!
# Glob patterns

A pattern is read in two steps.  First every backslash is joined with the character it escapes; then
stars, question marks and character classes are recognised among the unescaped characters.  Only
four defects stop a pattern from being read.
-/

namespace Preflight.Glob

/-- A character of a pattern, or a backslash that nothing follows. -/
inductive Symbol where
  | plain (c : Char)
  | escaped (c : Char)
  | dangling
  deriving DecidableEq, Repr

/-- A closed range of characters. -/
structure CharRange where
  low : Char
  high : Char
  deriving DecidableEq, Repr

inductive Token where
  /-- One given character. -/
  | literal (c : Char)
  /-- Any one character but a slash. -/
  | anyOne
  /-- Any number of characters, none of them a slash. -/
  | anyRun
  /-- One character of a class. -/
  | oneOf (ranges : List CharRange)
  /-- One character that is neither in the class nor a slash. -/
  | noneOf (ranges : List CharRange)
  deriving DecidableEq, Repr

inductive Defect where
  | trailingEscape
  | unterminatedClass
  | emptyClass
  | invalidRange (low high : Char)
  deriving DecidableEq, Repr

def Defect.message : Defect → String
  | trailingEscape => "trailing escape character"
  | unterminatedClass => "unterminated character class"
  | emptyClass => "empty character class"
  | invalidRange low high => s!"invalid range {low}-{high}"

def symbols : List Char → List Symbol
  | [] => []
  | ['\\'] => [.dangling]
  | '\\' :: c :: rest => .escaped c :: symbols rest
  | c :: rest => .plain c :: symbols rest

/-- The character that a symbol stands for inside a class. -/
def Symbol.character : Symbol → Except Defect Char
  | plain c => .ok c
  | escaped c => .ok c
  | dangling => .error .trailingEscape

def rangeOf (low high : Char) : Except Defect CharRange :=
  if high < low then .error (.invalidRange low high) else .ok ⟨low, high⟩

/-- The ranges of a class up to its closing bracket, and what follows the bracket.  A hyphen between
two characters makes a range, unless the second one is the closing bracket. -/
def classRanges : List Symbol → Except Defect (List CharRange × List Symbol)
  | [] => .error .unterminatedClass
  | .plain ']' :: rest => .ok ([], rest)
  | low :: .plain '-' :: .plain ']' :: rest => do
    let c ← low.character
    return (⟨c, c⟩ :: ⟨'-', '-'⟩ :: [], rest)
  | low :: .plain '-' :: high :: rest => do
    let range ← rangeOf (← low.character) (← high.character)
    let (ranges, after) ← classRanges rest
    return (range :: ranges, after)
  | low :: rest => do
    let c ← low.character
    let (ranges, after) ← classRanges rest
    return (⟨c, c⟩ :: ranges, after)

/-- The class that starts after an opening bracket. -/
def classToken (symbols : List Symbol) : Except Defect (Token × List Symbol) := do
  let (negated, body) := match symbols with
    | .plain '^' :: rest => (true, rest)
    | .plain '!' :: rest => (true, rest)
    | rest => (false, rest)
  let (ranges, after) ← classRanges body
  if ranges.isEmpty then throw .emptyClass
  return (if negated then .noneOf ranges else .oneOf ranges, after)

/-- Neighbouring stars count as one. -/
def addRun : List Token → List Token
  | .anyRun :: tokens => .anyRun :: tokens
  | tokens => .anyRun :: tokens

/-- The tokens of a row of symbols.  A class takes up at least one symbol, so as many steps as there
are symbols suffice. -/
def tokensWithin : Nat → List Symbol → Except Defect (List Token)
  | _, [] => .ok []
  | 0, _ => .ok []
  | fuel + 1, symbol :: rest =>
    match symbol with
    | .plain '*' => do return addRun (← tokensWithin fuel rest)
    | .plain '?' => do return .anyOne :: (← tokensWithin fuel rest)
    | .plain '[' => do
      let (token, after) ← classToken rest
      return token :: (← tokensWithin fuel after)
    | .plain c => do return .literal c :: (← tokensWithin fuel rest)
    | .escaped c => do return .literal c :: (← tokensWithin fuel rest)
    | .dangling => .error .trailingEscape

/-- Reads a pattern. -/
def parse (pattern : String) : Except Defect (List Token) :=
  let symbols := symbols pattern.toList
  tokensWithin symbols.length symbols

end Preflight.Glob
