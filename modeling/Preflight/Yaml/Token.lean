import Preflight.Text.Numeral
import Preflight.Yaml.Cursor

/-!
# Tokens

The tokens of a YAML text, and the readers of those that have parts of their own: directives, anchors
and tags.  Every reader starts behind the indicator of its token.
-/

namespace Preflight.Yaml

/-- A tag as it is written; the handle stands for the start of the full tag. -/
structure WrittenTag where
  handle : Option String
  suffix : String

inductive Directive where
  | version (major : Nat)
  | handle (name start : String)
  | unknown

inductive Token where
  | directive (d : Directive)
  | documentStart
  | documentEnd
  | blockSequenceStart
  | blockMappingStart
  | blockEnd
  | flowSequenceStart
  | flowSequenceEnd
  | flowMappingStart
  | flowMappingEnd
  | blockEntry
  | flowEntry
  | key
  | value
  | anchor (name : String)
  | alias (name : String)
  | tag (tag : WrittenTag)
  | scalar (text : String) (isPlain : Bool)
  | textEnd

namespace Token

/-- The characters of names. -/
def isNameChar (c : Char) : Bool := c.isAlphanum || c = '-' || c = '_'

def requireSpace (c : Cursor) : Except Flaw Unit :=
  if isSpaceOrEnd c.peek then .ok () else .error .malformed

/-- A name of at least one character. -/
def name (c : Cursor) : Except Flaw (String × Cursor) :=
  match c.takeWhile isNameChar with
  | ([], _) => .error .malformed
  | (found, after) => .ok (String.ofList found, after)

/-- What may follow the name of an anchor. -/
def endsAnchor (c : Char) : Bool :=
  isBlankOrEnd c || ['?', ':', ',', ']', '\x7d', '%', '@', '`'].contains c

def anchorName (c : Cursor) : Except Flaw (String × Cursor) := do
  let (found, after) ← name c
  if endsAnchor after.peek then return (found, after) else throw .malformed

/-! ## Tags -/

def isTagChar (c : Char) : Bool :=
  c.isAlphanum || "-;/?:@&=+$,_.!~*'()[]%".toList.contains c

/-- Bytes that are written as a percent sign and two digits each. -/
def escapedBytes : Nat → Cursor → Except Flaw (List UInt8 × Cursor)
  | 0, c => .ok ([], c)
  | fuel + 1, c =>
    if c.peek ≠ '%' then .ok ([], c)
    else
      let digits := (c.rest.drop 1).take 2
      if digits.length = 2 && digits.all (Text.isBaseDigit 16) then do
        let (bytes, after) ← escapedBytes fuel (c.advance 3)
        return (UInt8.ofNat (Text.natOfDigits 16 digits) :: bytes, after)
      else .error .malformed

/-- The characters that escaped bytes encode. -/
def escapedChars (c : Cursor) : Except Flaw (List Char × Cursor) := do
  let (bytes, after) ← escapedBytes c.rest.length c
  match String.fromUTF8? (ByteArray.mk bytes.toArray) with
  | some s => return (s.toList, after)
  | none => throw .malformed

/-- The characters of a tag. -/
def tagChars : Nat → Cursor → Except Flaw (List Char × Cursor)
  | 0, c => .ok ([], c)
  | fuel + 1, c => do
    let (run, c) := c.takeWhile fun found => isTagChar found && found ≠ '%'
    if c.peek = '%' then
      let (escaped, c) ← escapedChars c
      let (later, c) ← tagChars fuel c
      return (run ++ escaped ++ later, c)
    else return (run, c)

/-- The text of a tag, which is not empty. -/
def tagText (c : Cursor) : Except Flaw (String × Cursor) := do
  let (found, after) ← tagChars (c.rest.length + 1) c
  if after.index = c.index then throw .malformed else return (String.ofList found, after)

/-- A handle: an exclamation mark, or a name between two of them. -/
def handle (c : Cursor) : Except Flaw (String × Cursor) :=
  if c.peek ≠ '!' then .error .malformed
  else
    let c := c.next
    if c.peek = ' ' then .ok ("!", c)
    else
      let (found, after) := c.takeWhile isNameChar
      if after.peek = '!' then .ok (String.ofList ('!' :: found ++ ['!']), after.next)
      else .error .malformed

/-- Whether a handle of more than one mark starts here: there is a second mark in the word. -/
def hasSecondMark (c : Cursor) : Bool :=
  ((c.rest.drop 1).takeWhile (!isSpaceOrEnd ·)).contains '!'

/-- A tag, from its mark on. -/
def writtenTag (c : Cursor) : Except Flaw (WrittenTag × Cursor) := do
  let second := c.peekAt 1
  let (found, after) ←
    if second = '<' then do
      let (suffix, after) ← tagText (c.advance 2)
      if after.peek ≠ '>' then throw .malformed
      pure ((⟨none, suffix⟩ : WrittenTag), after.next)
    else if isBlankOrEnd second then pure (⟨none, "!"⟩, c.next)
    else do
      let (handle, after) ← if hasSecondMark c then handle c else pure ("!", c.next)
      let (suffix, after) ← tagText after
      pure (⟨some handle, suffix⟩, after)
  requireSpace after
  return (found, after)

/-! ## Directives -/

/-- A row of digits as a number. -/
def number (c : Cursor) : Except Flaw (Nat × Cursor) :=
  match c.takeWhile Char.isDigit with
  | ([], _) => .error .malformed
  | (digits, after) =>
    if Text.mostDigits < digits.length then .error (.tooLong digits.length)
    else .ok (Text.natOfDigits 10 digits, after)

def versionNumbers (c : Cursor) : Except Flaw (Directive × Cursor) := do
  let (major, c) ← number c.skipSpaces
  if c.peek ≠ '.' then throw .malformed
  let (_, c) ← number c.next
  requireSpace c
  return (.version major, c)

def handleMeaning (c : Cursor) : Except Flaw (Directive × Cursor) := do
  let (found, c) ← handle c.skipSpaces
  if c.peek ≠ ' ' then throw .malformed
  let (start, c) ← tagText c.skipSpaces
  requireSpace c
  return (.handle found start, c)

/-- A directive, with the line that it takes up. -/
def directiveLine (c : Cursor) : Except Flaw (Directive × Cursor) := do
  let (word, c) ← name c
  requireSpace c
  let (found, c) ←
    if word = "YAML" then versionNumbers c
    else if word = "TAG" then handleMeaning c
    else pure (.unknown, c.skipWhile (!isBreak ·))
  return (found, ← c.endOfLine)

end Token

end Preflight.Yaml
