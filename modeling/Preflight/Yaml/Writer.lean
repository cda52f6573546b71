import Preflight.Outline
import Preflight.Text.Quoted
import Preflight.Yaml.Style

/-!
# Writing YAML

An outline becomes a YAML text in block style, two spaces a level.  The items of a list stand under
the first letter of their key.  Lines are folded at a space as soon as they are longer than the
width.
-/

namespace Preflight.Yaml

/-- Lines longer than this are folded. -/
def lineWidth : Nat := 80

/-- The start of a line with an indentation. -/
def newLine (indent : Nat) : List Char := '\n' :: List.replicate indent ' '

/-! ## Runs of a text -/

/-- A part of a text: a row of spaces, of line breaks, or of other characters. -/
inductive Run where
  | word (cs : List Char)
  | spaces (count : Nat)
  | breaks (cs : List Char)

namespace Run

/-- Puts a character in front of runs. -/
def cons (c : Char) (runs : List Run) : List Run :=
  if c = ' ' then
    match runs with
    | spaces n :: rest => spaces (n + 1) :: rest
    | rest => spaces 1 :: rest
  else if Style.isLineBreak c then
    match runs with
    | breaks cs :: rest => breaks (c :: cs) :: rest
    | rest => breaks [c] :: rest
  else
    match runs with
    | word cs :: rest => word (c :: cs) :: rest
    | rest => word [c] :: rest

def ofChars (cs : List Char) : List Run := cs.foldr cons []

end Run

/-! ## Scalars -/

/-- The characters of a word between single quotes, where a quote is written twice. -/
def doubledQuotes (cs : List Char) : List Char :=
  cs.flatMap fun c => if c = '\'' then ['\'', '\''] else [c]

/-- Line breaks between single quotes: one more than are meant, since the first one is folded. -/
def writtenBreaks (cs : List Char) : List Char :=
  if cs.head? = some '\n' then '\n' :: cs else cs

/-- The runs of a text that is written from a column on.  `asWord` writes a word.  A single space
inside the text is folded when the line is too long; `mayFold` says whether a space is inside. -/
def runChars (asWord : List Char → List Char) (split : Bool) (indent : Nat) :
    Nat → Bool → List Run → List Char
  | _, _, [] => []
  | column, _, .word cs :: rest =>
    let written := asWord cs
    written ++ runChars asWord split indent (column + written.length) true rest
  | column, mayFold, .spaces n :: rest =>
    if split && n = 1 && lineWidth < column && mayFold && !rest.isEmpty then
      newLine indent ++ runChars asWord split indent indent true rest
    else List.replicate n ' ' ++ runChars asWord split indent (column + n) true rest
  | _, _, .breaks cs :: rest =>
    writtenBreaks cs ++ List.replicate indent ' ' ++ runChars asWord split indent indent true rest

def escapeLetters : List (Char × Char) :=
  [('\x00', '0'), ('\x07', 'a'), ('\x08', 'b'), ('\t', 't'), ('\n', 'n'), ('\x0b', 'v'),
   ('\x0c', 'f'), ('\r', 'r'), ('\x1b', 'e'), ('"', '"'), ('\\', '\\'), ('\x85', 'N'),
   ('\u2028', 'L'), ('\u2029', 'P')]

def upperHex (width n : Nat) : List Char := (Text.hexDigits width n).map Char.toUpper

/-- The escape of a character that cannot stand for itself between double quotes. -/
def escape? (c : Char) : Option (List Char) :=
  let code := Text.codeOf c
  match escapeLetters.lookup c with
  | some letter => some ['\\', letter]
  | none =>
    if (0x20 ≤ code && code ≤ 0x7E) ||
        (0xA0 ≤ code && code ≤ 0xFFFD && code ≠ 0xFEFF && !Text.isHalf code) then none
    else if code ≤ 0xFF then some ('\\' :: 'x' :: upperHex 2 code)
    else if code ≤ 0xFFFF then some ('\\' :: 'u' :: upperHex 4 code)
    else some ('\\' :: 'U' :: upperHex 8 code)

/-- A folded line between double quotes: a backslash ends the old line, and another one keeps a space
at the start of the new line. -/
def escapedFold (indent : Nat) (next : Char) : List Char :=
  '\\' :: newLine indent ++ (if next = ' ' then ['\\'] else [])

/-- The characters between double quotes from a column on.  A line may be folded in front of a space
and on both sides of an escape, but neither at the first character of the text nor at the last.
`afterEscape` says that an escape or a fold ended right in front. -/
def doubleChars (split : Bool) (indent : Nat) : Nat → Bool → Bool → List Char → List Char
  | _, _, _, [] => []
  | column, isFirst, afterEscape, c :: rest =>
    let inside := split && !isFirst && !rest.isEmpty
    match escape? c with
    | some written =>
      let column := column + written.length
      let next := rest.headD ' '
      if inside && lineWidth < column - 1 then
        let fold := escapedFold indent next
        written ++ fold ++ doubleChars split indent (fold.length - 2) false true rest
      else written ++ doubleChars split indent column false true rest
    | none =>
      if inside && (c = ' ' || afterEscape) && lineWidth < column then
        let fold := escapedFold indent c
        fold ++ c :: doubleChars split indent (fold.length - 1) false false rest
      else c :: doubleChars split indent (column + 1) false false rest

/-- A scalar that starts at a column; its further lines have an indentation. -/
def scalarChars (isSimpleKey : Bool) (indent column : Nat) (s : String) : List Char :=
  let split := !isSimpleKey
  match Style.of isSimpleKey s with
  | .plain => runChars id split indent column false (Run.ofChars s.toList)
  | .single =>
    '\'' :: runChars doubledQuotes split indent (column + 1) false (Run.ofChars s.toList) ++ ['\'']
  | .double => '"' :: doubleChars split indent (column + 1) true false s.toList ++ ['"']

/-! ## Collections -/

/-- A key at an indentation, with the colon behind it.  A key that is not simple has a mark in front
and its colon on a line of its own. -/
def keyChars (indent : Nat) (key : String) : List Char :=
  if Style.isSimpleKey key then scalarChars true (indent + 2) indent key ++ [':']
  else
    '?' :: ' ' :: scalarChars false (indent + 2) (indent + 2) key ++ newLine indent ++ [':']

mutual

/-- An outline whose first line has been started up to the indentation of its lines. -/
def inPlace (indent : Nat) : Outline → List Char
  | .text s => scalarChars false indent indent s
  | .list [] => ['[', ']']
  | .list (item :: items) =>
    '-' :: ' ' :: inPlace (indent + 2) item ++ itemLines indent items
  | .fields [] => ['\x7b', '\x7d']
  | .fields ((key, value) :: entries) =>
    keyChars indent key ++ fieldValue indent key value ++ entryLines indent entries

/-- The value of a key at an indentation. -/
def fieldValue (indent : Nat) (key : String) : Outline → List Char
  | .text s =>
    let column := if Style.isSimpleKey key then
        indent + (scalarChars true (indent + 2) indent key).length + 2
      else indent + 2
    ' ' :: scalarChars false (indent + 2) column s
  | .list [] => [' ', '[', ']']
  | .list (item :: items) =>
    if Style.isSimpleKey key then itemLines indent (item :: items)
    else
      ' ' :: '-' :: ' ' :: inPlace (indent + 4) item ++ itemLines (indent + 2) items
  | .fields [] => [' ', '\x7b', '\x7d']
  | .fields ((first, value) :: entries) =>
    (if Style.isSimpleKey key then newLine (indent + 2) else [' ']) ++ keyChars (indent + 2) first ++
      fieldValue (indent + 2) first value ++ entryLines (indent + 2) entries

/-- The items of a list, each on a line of its own. -/
def itemLines (indent : Nat) : List Outline → List Char
  | [] => []
  | item :: items =>
    newLine indent ++ '-' :: ' ' :: inPlace (indent + 2) item ++ itemLines indent items

/-- The entries of a mapping, each on a line of its own. -/
def entryLines (indent : Nat) : List (String × Outline) → List Char
  | [] => []
  | (key, value) :: entries =>
    newLine indent ++ keyChars indent key ++ fieldValue indent key value ++
      entryLines indent entries

end

/-- The YAML text of an outline. -/
def write (o : Outline) : String := String.ofList (inPlace 0 o ++ ['\n'])

end Preflight.Yaml
