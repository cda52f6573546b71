import Preflight.Document.Flaw

/-!
# Positions in a YAML text

A cursor holds the rest of a text and its place by line and column.  At the end it shows the NUL
character, which no YAML text contains.
-/

namespace Preflight.Yaml

structure Cursor where
  rest : List Char
  index : Nat
  line : Nat
  column : Nat

/-- Line breaks. -/
def isBreak (c : Char) : Bool :=
  c = '\n' || c = '\r' || c = '\x85' || c = '\u2028' || c = '\u2029'

def isBreakOrEnd (c : Char) : Bool := c = '\x00' || isBreak c

def isSpaceOrEnd (c : Char) : Bool := c = ' ' || isBreakOrEnd c

def isBlankOrEnd (c : Char) : Bool := c = '\t' || isSpaceOrEnd c

namespace Cursor

def ofString (s : String) : Cursor := ⟨s.toList, 0, 0, 0⟩

def peek (c : Cursor) : Char := c.rest.headD '\x00'

def peekAt (c : Cursor) (offset : Nat) : Char := (c.rest.drop offset).headD '\x00'

/-- One character further.  A byte order mark takes up no column. -/
def next (c : Cursor) : Cursor :=
  match c.rest with
  | [] => c
  | found :: rest =>
    let ends := isBreak found && !(found = '\r' && rest.head? = some '\n')
    if ends then ⟨rest, c.index + 1, c.line + 1, 0⟩
    else ⟨rest, c.index + 1, c.line, if found = '\uFEFF' then c.column else c.column + 1⟩

def advance : Nat → Cursor → Cursor
  | 0, c => c
  | n + 1, c => advance n c.next

/-- The longest row of characters of a class, and the place after it. -/
def takeWhile (test : Char → Bool) (c : Cursor) : List Char × Cursor :=
  let taken := c.rest.takeWhile test
  (taken, c.advance taken.length)

def skipWhile (test : Char → Bool) (c : Cursor) : Cursor := (c.takeWhile test).2

def skipSpaces (c : Cursor) : Cursor := c.skipWhile (· = ' ')

/-- Skips a comment, if one starts here. -/
def skipComment (c : Cursor) : Cursor :=
  if c.peek = '#' then c.skipWhile (!isBreak ·) else c

/-- A line break as a character, none if there is no break here. -/
def lineBreak (c : Cursor) : List Char × Cursor :=
  match c.rest with
  | '\r' :: '\n' :: _ => (['\n'], c.advance 2)
  | found :: _ =>
    if found = '\n' || found = '\r' || found = '\x85' then (['\n'], c.next)
    else if found = '\u2028' || found = '\u2029' then ([found], c.next)
    else ([], c)
  | [] => ([], c)

/-- Whether a line that marks the start or the end of a document begins here. -/
def atMarker (c : Cursor) : Bool :=
  let mark := c.rest.take 3
  (mark = ['-', '-', '-'] || mark = ['.', '.', '.']) && isBlankOrEnd (c.peekAt 3)

/-- The rest of a line after an indicator: spaces and a comment, then the break. -/
def endOfLine (c : Cursor) : Except Flaw Cursor :=
  let c := c.skipSpaces.skipComment
  if isBreakOrEnd c.peek then .ok c.lineBreak.2 else .error .malformed

end Cursor

end Preflight.Yaml
