import Preflight.Text.Units
import Preflight.Yaml.Cursor

/-!
# Texts of scalars

A scalar is written without quotes, between quotes, or as an indented block.  Each reader returns the
text and the place after the scalar.  Line breaks inside a scalar are folded: a single one becomes a
space, and of several the first one is dropped.
-/

namespace Preflight.Yaml

/-- A folded line break with the breaks that follow it. -/
def folded (first breaks : List Char) : List Char :=
  if first = ['\n'] then (if breaks.isEmpty then [' '] else breaks) else first ++ breaks

/-! ## Unquoted scalars -/

def flowIndicators : List Char := [',', '[', ']', '\x7b', '\x7d']

/-- The characters of an unquoted scalar up to a blank or an indicator that ends it. -/
def plainRun (inFlow : Bool) : List Char → List Char
  | [] => []
  | c :: rest =>
    let next := rest.headD '\x00'
    let ends := isBlankOrEnd c ||
      (c = ':' && (isBlankOrEnd next || (inFlow && flowIndicators.contains next))) ||
      (inFlow && (c = '?' || flowIndicators.contains c))
    if ends then [] else c :: plainRun inFlow rest

/-- Further line breaks with the spaces around them, unless a document marker is met. -/
def plainBreaks : Nat → List Char → Cursor → Option (List Char × Cursor)
  | 0, breaks, c => some (breaks, c)
  | fuel + 1, breaks, c =>
    if c.peek = ' ' then plainBreaks fuel breaks c.next
    else
      match c.lineBreak with
      | ([], _) => some (breaks, c)
      | (found, after) => if after.atMarker then none else plainBreaks fuel (breaks ++ found) after

/-- What separates two runs of an unquoted scalar. -/
structure PlainGap where
  /-- The text of the gap, absent if the scalar ends at a document marker. -/
  text : Option (List Char)
  brokeLine : Bool
  after : Cursor

def plainGap (c : Cursor) : PlainGap :=
  let (spaces, c) := c.takeWhile (· = ' ')
  match c.lineBreak with
  | ([], _) => ⟨some spaces, false, c⟩
  | (first, after) =>
    if after.atMarker then ⟨none, true, after⟩
    else
      match plainBreaks (after.rest.length + 1) [] after with
      | none => ⟨none, true, after⟩
      | some (breaks, after) => ⟨some (folded first breaks), true, after⟩

/-- The text of an unquoted scalar, whether it ended with a line break, and the place after it. -/
structure PlainText where
  text : List Char
  brokeLine : Bool
  after : Cursor

/-- Reads runs and the gaps between them while the lines stay indented. -/
def plainText (inFlow : Bool) (indent : Int) : Nat → List Char → List Char → Bool → Cursor →
    PlainText
  | 0, text, _, broke, c => ⟨text, broke, c⟩
  | fuel + 1, text, gap, broke, c =>
    let run := plainRun inFlow c.rest
    if c.peek = '#' || run.isEmpty then ⟨text, broke, c⟩
    else
      let text := text ++ gap ++ run
      let found := plainGap (c.advance run.length)
      match found.text with
      | none => ⟨text, found.brokeLine, found.after⟩
      | some gap =>
        if gap.isEmpty || found.after.peek = '#' || (!inFlow && (found.after.column : Int) < indent)
        then ⟨text, found.brokeLine, found.after⟩
        else plainText inFlow indent fuel text gap found.brokeLine found.after

/-! ## Quoted scalars -/

def simpleEscapes : List (Char × Char) :=
  [('0', '\x00'), ('a', '\x07'), ('b', '\x08'), ('t', '\t'), ('\t', '\t'), ('n', '\n'),
   ('v', '\x0b'), ('f', '\x0c'), ('r', '\r'), ('e', '\x1b'), (' ', ' '), ('"', '"'),
   ('\\', '\\'), ('/', '/'), ('N', '\x85'), ('_', '\xa0'), ('L', '\u2028'), ('P', '\u2029')]

/-- The number of digits of a numbered escape. -/
def escapeWidth? (c : Char) : Option Nat :=
  if c = 'x' then some 2 else if c = 'u' then some 4 else if c = 'U' then some 8 else none

/-- The character of a numbered escape. -/
def numberedChar (code : Nat) : Except Flaw Char :=
  if code ≥ 0x80000000 then .error (.unusable (.range .codePoint))
  else if code ≥ 0x110000 then .error (.unusable (.value .codePoint))
  else .ok (Text.charOfUnit code)

/-- Line breaks with the blanks in front of each; a document marker is not allowed. -/
def quotedBreaks : Nat → List Char → Cursor → Except Flaw (List Char × Cursor)
  | 0, breaks, c => .ok (breaks, c)
  | fuel + 1, breaks, c =>
    if c.atMarker then .error .malformed
    else
      let c := c.skipWhile fun found => found = ' ' || found = '\t'
      match c.lineBreak with
      | ([], _) => .ok (breaks, c)
      | (found, after) => quotedBreaks fuel (breaks ++ found) after

/-- An escape sequence after its backslash. -/
def escapeSequence (c : Cursor) : Except Flaw (List Char × Cursor) :=
  match simpleEscapes.lookup c.peek with
  | some meaning =>
    if c.rest.isEmpty then .error .malformed else .ok ([meaning], c.next)
  | none =>
    match escapeWidth? c.peek with
    | some width =>
      let c := c.next
      let digits := c.rest.take width
      if digits.length = width && digits.all (Text.isBaseDigit 16) then do
        return ([← numberedChar (Text.natOfDigits 16 digits)], c.advance width)
      else .error .malformed
    | none =>
      if isBreak c.peek then quotedBreaks (c.rest.length + 1) [] c.lineBreak.2
      else .error .malformed

/-- Characters of a quoted scalar that stand for themselves. -/
def isQuotedPlain (c : Char) : Bool :=
  c ≠ '\'' && c ≠ '"' && c ≠ '\\' && !isBlankOrEnd c

/-- The text of a quoted scalar after its opening quote, up to and with the closing one. -/
def quotedText (mark : Char) : Nat → List Char → Cursor → Except Flaw (List Char × Cursor)
  | 0, _, _ => .error .malformed
  | fuel + 1, text, c =>
    let (run, c) := c.takeWhile isQuotedPlain
    let text := text ++ run
    let found := c.peek
    if found = '\'' && mark = '\'' && c.peekAt 1 = '\'' then
      quotedText mark fuel (text ++ ['\'']) (c.advance 2)
    else if found = mark then .ok (text, c.next)
    else if found = '\\' && mark = '"' then do
      let (meaning, after) ← escapeSequence c.next
      quotedText mark fuel (text ++ meaning) after
    else if found = '\'' || found = '"' || found = '\\' then
      quotedText mark fuel (text ++ [found]) c.next
    else
      let (blanks, c) := c.takeWhile fun found => found = ' ' || found = '\t'
      match c.lineBreak with
      | ([], _) =>
        if c.rest.isEmpty then .error .malformed else quotedText mark fuel (text ++ blanks) c
      | (first, after) => do
        let (breaks, after) ← quotedBreaks (after.rest.length + 1) [] after
        quotedText mark fuel (text ++ folded first breaks) after

/-! ## Blocks -/

/-- How a block ends: what becomes of its last line breaks. -/
inductive Chomping where
  | strip
  | clip
  | keep
  deriving DecidableEq

def chomping? (c : Char) : Option Chomping :=
  if c = '+' then some .keep else if c = '-' then some .strip else none

/-- The indentation that a digit asks for, at least one. -/
def blockDigit? (c : Char) : Except Flaw (Option Nat) :=
  if c = '0' then .error .malformed
  else if c.isDigit then .ok (some (c.toNat - 0x30))
  else .ok none

/-- The header of a block: an ending and an indentation, in either order. -/
def blockHeader (c : Cursor) : Except Flaw (Chomping × Option Nat × Cursor) := do
  let (chomping, increment, c) ← match chomping? c.peek with
    | some chomping =>
      let c := c.next
      match ← blockDigit? c.peek with
      | some digit => pure (chomping, some digit, c.next)
      | none => pure (chomping, none, c)
    | none =>
      match ← blockDigit? c.peek with
      | some digit =>
        let c := c.next
        match chomping? c.peek with
        | some chomping => pure (chomping, some digit, c.next)
        | none => pure (.clip, some digit, c)
      | none => pure (Chomping.clip, none, c)
  if isSpaceOrEnd c.peek then return (chomping, increment, c) else throw .malformed

/-- The empty lines at the start of a block, and the widest indentation among them and the first
line of text. -/
def blockStart : Nat → List Char → Nat → Cursor → List Char × Nat × Cursor
  | 0, breaks, widest, c => (breaks, widest, c)
  | fuel + 1, breaks, widest, c =>
    if c.peek = ' ' then
      let c := c.next
      blockStart fuel breaks (max widest c.column) c
    else
      match c.lineBreak with
      | ([], _) => (breaks, widest, c)
      | (found, after) => blockStart fuel (breaks ++ found) widest after

def skipIndent (indent : Nat) : Nat → Cursor → Cursor
  | 0, c => c
  | fuel + 1, c => if c.column < indent && c.peek = ' ' then skipIndent indent fuel c.next else c

/-- Empty lines, and the indentation of the line after them. -/
def blockBreaks (indent : Nat) : Nat → List Char → Cursor → List Char × Cursor
  | 0, breaks, c => (breaks, c)
  | fuel + 1, breaks, c =>
    let c := skipIndent indent indent c
    match c.lineBreak with
    | ([], _) => (breaks, c)
    | (found, after) => blockBreaks indent fuel (breaks ++ found) after

def isBlank (c : Char) : Bool := c = ' ' || c = '\t'

/-- The lines of a block at an indentation.  `breaks` are the empty lines before the next line. -/
def blockLines (isFolded : Bool) (chomping : Chomping) (indent : Nat) :
    Nat → List Char → List Char → List Char → Cursor → List Char × Cursor
  | 0, text, _, _, c => (text, c)
  | fuel + 1, text, lastBreak, breaks, c =>
    if c.column = indent && !c.rest.isEmpty then
      let startsText := !isBlank c.peek
      let (line, c) := c.takeWhile (!isBreak ·)
      let text := text ++ breaks ++ line
      let (lineEnd, c) := c.lineBreak
      let (breaks, c) := blockBreaks indent (c.rest.length + 1) [] c
      if c.column = indent && !c.rest.isEmpty then
        let joined := isFolded && lineEnd = ['\n'] && startsText && !isBlank c.peek
        let between := if joined then (if breaks.isEmpty then [' '] else []) else lineEnd
        blockLines isFolded chomping indent fuel (text ++ between) lineEnd breaks c
      else blockEnd text lineEnd breaks c
    else blockEnd text lastBreak breaks c
where
  blockEnd (text lastBreak breaks : List Char) (c : Cursor) : List Char × Cursor :=
    match chomping with
    | .strip => (text, c)
    | .clip => (text ++ lastBreak, c)
    | .keep => (text ++ lastBreak ++ breaks, c)

/-- The text of a block after its indicator; `outer` is the indentation around it. -/
def blockText (isFolded : Bool) (outer : Int) (c : Cursor) :
    Except Flaw (List Char × Cursor) := do
  let (chomping, increment, c) ← blockHeader c
  let c ← c.endOfLine
  let least := (max 1 (outer + 1)).toNat
  let fuel := c.rest.length + 1
  match increment with
  | some n =>
    let indent := least + n - 1
    let (breaks, c) := blockBreaks indent fuel [] c
    return blockLines isFolded chomping indent fuel [] [] breaks c
  | none =>
    let (breaks, widest, c) := blockStart fuel [] 0 c
    let indent := max least widest
    return blockLines isFolded chomping indent fuel [] [] breaks c

end Preflight.Yaml
