import Preflight.Yaml.Text
import Preflight.Yaml.Token

/-!
# Token streams

A YAML text as a row of tokens.  The indentation of lines becomes tokens that open and close block
collections.  A simple key is known as such only when the colon behind it is met: its tokens are then
put in front of what has been read since, so the place of every possible key is remembered, and a
token is settled only when no possible key starts at it or before it.
-/

namespace Preflight.Yaml

/-- The tokens of a text up to its end, or those that are settled where a flaw is met. -/
structure TokenStream where
  tokens : List Token
  flaw : Option Flaw

/-- Where a simple key may have started. -/
structure KeyPlace where
  /-- The number of tokens in front of it. -/
  position : Nat
  /-- Whether the block that it stands in allows nothing but a key here. -/
  required : Bool
  index : Nat
  line : Nat
  column : Nat

structure Scan where
  cursor : Cursor
  /-- The tokens found so far, the last one first. -/
  found : List Token
  count : Nat
  indent : Int
  /-- The indentations around the present one, the nearest first. -/
  outerIndents : List Int
  /-- Whether a simple key may start here. -/
  allowsKey : Bool
  /-- The possible simple key in the present collection. -/
  place : Option KeyPlace
  /-- The same for the collections around it, as far as they are in brackets. -/
  outerPlaces : List (Option KeyPlace)
  finished : Bool

namespace Scan

def start (c : Cursor) : Scan := ⟨c, [], 0, -1, [], true, none, [], false⟩

/-- Whether the place is inside brackets. -/
def inFlow (s : Scan) : Bool := !s.outerPlaces.isEmpty

def emit (s : Scan) (t : Token) : Scan := { s with found := t :: s.found, count := s.count + 1 }

/-- Puts a token at a place among those found. -/
def insertAt (s : Scan) (position : Nat) (t : Token) : Scan :=
  let later := s.count - position
  { s with found := s.found.take later ++ t :: s.found.drop later, count := s.count + 1 }

def moveTo (s : Scan) (c : Cursor) : Scan := { s with cursor := c }

/-! ## Blanks and indentation -/

/-- Skips blanks, comments and empty lines.  Outside brackets a key may start on a new line. -/
def skipToToken : Nat → Scan → Scan
  | 0, s => s
  | fuel + 1, s =>
    let c := s.cursor.skipSpaces.skipComment
    match c.lineBreak with
    | ([], _) => s.moveTo c
    | (_, after) => skipToToken fuel { s with cursor := after, allowsKey := s.allowsKey || !s.inFlow }

/-- The longest simple key, in characters. -/
def longestKey : Nat := 1024

def isStale (s : Scan) (place : KeyPlace) : Bool :=
  place.line ≠ s.cursor.line || longestKey < s.cursor.index - place.index

/-- Forgets a place that can no longer be that of a key. -/
def dropStale (s : Scan) : Option KeyPlace → Except Flaw (Option KeyPlace)
  | none => .ok none
  | some place =>
    if s.isStale place then (if place.required then .error .malformed else .ok none)
    else .ok (some place)

def dropStalePlaces (s : Scan) : Except Flaw Scan := do
  let place ← s.dropStale s.place
  let outer ← s.outerPlaces.mapM s.dropStale
  return { s with place := place, outerPlaces := outer }

/-- Closes the blocks that are indented deeper than the column. -/
def closeBlocks (column : Int) : List Int → Scan → Scan
  | [], s => s
  | outer :: rest, s =>
    if s.indent ≤ column then s
    else closeBlocks column rest { s.emit .blockEnd with indent := outer, outerIndents := rest }

def unwind (s : Scan) (column : Int) : Scan :=
  if s.inFlow then s else closeBlocks column s.outerIndents s

/-- Opens a block at a column that is deeper than the present indentation. -/
def openBlock (s : Scan) (column : Nat) (position : Nat) (t : Token) : Scan :=
  if s.indent < (column : Int) then
    { s.insertAt position t with indent := column, outerIndents := s.indent :: s.outerIndents }
  else s

/-! ## Simple keys -/

def forgetKey (s : Scan) : Except Flaw Scan :=
  match s.place with
  | some place => if place.required then .error .malformed else .ok { s with place := none }
  | none => .ok s

/-- Remembers that a simple key may start here. -/
def rememberKey (s : Scan) : Except Flaw Scan :=
  if s.allowsKey then do
    let s ← s.forgetKey
    let c := s.cursor
    let required := !s.inFlow && s.indent = (c.column : Int)
    return { s with place := some ⟨s.count, required, c.index, c.line, c.column⟩ }
  else .ok s

/-! ## The tokens -/

/-- A token of one character. -/
def indicator (s : Scan) (t : Token) : Scan := (s.emit t).moveTo s.cursor.next

def finish (s : Scan) : Except Flaw Scan := do
  let s ← (s.unwind (-1)).forgetKey
  return { s.emit .textEnd with finished := true }

/-- Leaves the content of a document. -/
def leaveContent (s : Scan) : Except Flaw Scan := do
  return { ← (s.unwind (-1)).forgetKey with allowsKey := false }

def scanDirective (s : Scan) : Except Flaw Scan := do
  let s ← s.leaveContent
  let (directive, after) ← Token.directiveLine s.cursor.next
  return (s.emit (.directive directive)).moveTo after

def scanMarker (s : Scan) : Except Flaw Scan := do
  let token := if s.cursor.peek = '-' then Token.documentStart else .documentEnd
  let s ← s.leaveContent
  return (s.emit token).moveTo (s.cursor.advance 3)

def openFlow (s : Scan) (t : Token) : Except Flaw Scan := do
  let s ← s.rememberKey
  let inner := { s with place := none, outerPlaces := s.place :: s.outerPlaces, allowsKey := true }
  return inner.indicator t

/-- Closes a bracket.  Without an open one no rule of the grammar fits, so reading ends there. -/
def closeFlow (s : Scan) (t : Token) : Except Flaw Scan := do
  let s ← s.forgetKey
  match s.outerPlaces with
  | [] => return { s.emit t with finished := true }
  | place :: rest =>
    return ({ s with place := place, outerPlaces := rest, allowsKey := false } : Scan).indicator t

def scanFlowEntry (s : Scan) : Except Flaw Scan := do
  return ({ ← s.forgetKey with allowsKey := true } : Scan).indicator .flowEntry

/-- Opens a block for an entry or a key, which outside brackets has to be where a key may start. -/
def enterBlock (s : Scan) (t : Token) : Except Flaw Scan :=
  if s.inFlow then .ok s
  else if s.allowsKey then .ok (s.openBlock s.cursor.column s.count t)
  else .error .malformed

def scanBlockEntry (s : Scan) : Except Flaw Scan := do
  let s ← s.enterBlock .blockSequenceStart
  return ({ ← s.forgetKey with allowsKey := true } : Scan).indicator .blockEntry

def scanKey (s : Scan) : Except Flaw Scan := do
  let s ← s.enterBlock .blockMappingStart
  return ({ ← s.forgetKey with allowsKey := !s.inFlow } : Scan).indicator .key

/-- A colon.  The tokens of its simple key, if there is one, go in front of the key. -/
def scanValue (s : Scan) : Except Flaw Scan := do
  match s.place with
  | some place =>
    let s := ({ s with place := none } : Scan).insertAt place.position .key
    let s := if s.inFlow then s else s.openBlock place.column place.position .blockMappingStart
    return ({ s with allowsKey := false } : Scan).indicator .value
  | none =>
    let s ← s.enterBlock .blockMappingStart
    return ({ s with allowsKey := !s.inFlow } : Scan).indicator .value

/-- A token that can start a simple key and after which none can start. -/
def scanNode (s : Scan) (read : Cursor → Except Flaw (Token × Cursor)) : Except Flaw Scan := do
  let s ← s.rememberKey
  let (token, after) ← read s.cursor
  return ({ s with allowsKey := false } : Scan).emit token |>.moveTo after

def scanAnchor (s : Scan) : Except Flaw Scan := s.scanNode fun c => do
  let (name, after) ← Token.anchorName c.next
  return (if c.peek = '*' then .alias name else .anchor name, after)

def scanTag (s : Scan) : Except Flaw Scan := s.scanNode fun c => do
  let (tag, after) ← Token.writtenTag c
  return (.tag tag, after)

def scanQuoted (s : Scan) : Except Flaw Scan := s.scanNode fun c => do
  let (text, after) ← quotedText c.peek (c.rest.length + 1) [] c.next
  return (.scalar (String.ofList text) false, after)

def scanBlockText (s : Scan) : Except Flaw Scan := do
  let s ← s.forgetKey
  let (text, after) ← blockText (s.cursor.peek = '>') s.indent s.cursor.next
  let token := Token.scalar (String.ofList text) false
  return ({ s with allowsKey := true } : Scan).emit token |>.moveTo after

def scanPlain (s : Scan) : Except Flaw Scan := do
  let s ← s.rememberKey
  let c := s.cursor
  let read := plainText s.inFlow (s.indent + 1) (c.rest.length + 1) [] [] false c
  let token := Token.scalar (String.ofList read.text) true
  return ({ s with allowsKey := read.brokeLine } : Scan).emit token |>.moveTo read.after

/-- The characters that cannot start an unquoted scalar. -/
def indicators : List Char := "-?:,[]\x7b\x7d#&*!|>'\"%@`".toList

def startsPlain (s : Scan) : Bool :=
  let first := s.cursor.peek
  (!isBlankOrEnd first && !indicators.contains first) ||
    (!isBlankOrEnd (s.cursor.peekAt 1) &&
      (first = '-' || (!s.inFlow && (first = '?' || first = ':'))))

/-- Reads the token at the place of the cursor. -/
def token (s : Scan) : Except Flaw Scan :=
  let c := s.cursor
  let first := c.peek
  let atStart := c.column = 0
  let stands := s.inFlow || isBlankOrEnd (c.peekAt 1)
  if c.rest.isEmpty then s.finish
  else if first = '%' && atStart then s.scanDirective
  else if atStart && c.atMarker then s.scanMarker
  else if first = '[' then s.openFlow .flowSequenceStart
  else if first = '\x7b' then s.openFlow .flowMappingStart
  else if first = ']' then s.closeFlow .flowSequenceEnd
  else if first = '\x7d' then s.closeFlow .flowMappingEnd
  else if first = ',' then s.scanFlowEntry
  else if first = '-' && isBlankOrEnd (c.peekAt 1) then s.scanBlockEntry
  else if first = '?' && stands then s.scanKey
  else if first = ':' && stands then s.scanValue
  else if first = '*' || first = '&' then s.scanAnchor
  else if first = '!' then s.scanTag
  else if (first = '|' || first = '>') && !s.inFlow then s.scanBlockText
  else if first = '\'' || first = '"' then s.scanQuoted
  else if s.startsPlain then s.scanPlain
  else .error .malformed

/-- One step: to the next token, closing blocks on the way, and over it. -/
def step (s : Scan) : Except Flaw Scan := do
  let s := skipToToken (s.cursor.rest.length + 1) s
  let s ← s.dropStalePlaces
  (s.unwind s.cursor.column).token

/-- The number of tokens that are settled. -/
def settled (s : Scan) : Nat :=
  (s.place :: s.outerPlaces).foldl (fun count place => match place with
    | some place => min count place.position
    | none => count) s.count

def stream (s : Scan) (settled : Nat) (flaw : Option Flaw) : TokenStream :=
  ⟨s.found.reverse.take settled, flaw⟩

/-- Reads tokens to the end, of which a number are settled so far.  Every step but the last one takes
up some characters. -/
def run : Nat → Nat → Scan → TokenStream
  | 0, settled, s => s.stream settled (some .malformed)
  | fuel + 1, settled, s =>
    match s.step with
    | .error flaw => s.stream settled (some flaw)
    | .ok s =>
      if s.finished then s.stream s.count none
      else
        match s.dropStalePlaces with
        | .error flaw => s.stream settled (some flaw)
        | .ok s => run fuel s.settled s

end Scan

/-- The characters that a YAML text may hold. -/
def isAllowed (c : Char) : Bool :=
  let code := c.toNat
  code = 9 || code = 10 || code = 13 || (0x20 ≤ code && code ≤ 0x7E) || code = 0x85 ||
    (0xA0 ≤ code && code ≤ 0xFFFD) || 0x10000 ≤ code

namespace TokenStream

/-- The tokens of a text.  A byte order mark may stand in front. -/
def ofString (s : String) : TokenStream :=
  let c := Cursor.ofString s
  if s.toList.all isAllowed then
    Scan.run (c.rest.length + 1) 0 (.start (if c.peek = '\uFEFF' then c.next else c))
  else ⟨[], some .malformed⟩

end TokenStream

end Preflight.Yaml
