import Preflight.Outline
import Preflight.Text.Quoted
import Preflight.Text.Units

/-!
# Writing JSON

An outline becomes a JSON text in ASCII, indented by two spaces a level.  Characters beyond ASCII are
written as escaped 16-bit units.
-/

namespace Preflight.Json

def escapeUnit (unit : Nat) : List Char := '\\' :: 'u' :: Text.hexDigits 4 unit

def escapeChar (c : Char) : List Char :=
  if c = '"' then ['\\', '"']
  else if c = '\\' then ['\\', '\\']
  else if c = '\n' then ['\\', 'n']
  else if c = '\r' then ['\\', 'r']
  else if c = '\t' then ['\\', 't']
  else if c.toNat = 8 then ['\\', 'b']
  else if c.toNat = 12 then ['\\', 'f']
  else if 0x20 ≤ c.toNat && c.toNat ≤ 0x7E then [c]
  else (Text.unitsOf c).flatMap escapeUnit

def stringChars (s : String) : List Char :=
  '"' :: s.toList.flatMap escapeChar ++ ['"']

/-- The start of a line at a level. -/
def newLine (level : Nat) : List Char := '\n' :: List.replicate (2 * level) ' '

mutual

/-- The text of an outline that stands at a level. -/
def outlineChars (level : Nat) : Outline → List Char
  | .text s => stringChars s
  | .list [] => ['[', ']']
  | .list (item :: items) =>
    '[' :: newLine (level + 1) ++ outlineChars (level + 1) item ++
      itemChars (level + 1) items ++ newLine level ++ [']']
  | .fields [] => ['\x7b', '\x7d']
  | .fields ((key, value) :: entries) =>
    '\x7b' :: newLine (level + 1) ++ stringChars key ++ [':', ' '] ++
      outlineChars (level + 1) value ++ entryChars (level + 1) entries ++ newLine level ++ ['\x7d']

/-- The items of a list after the first. -/
def itemChars (level : Nat) : List Outline → List Char
  | [] => []
  | item :: items => ',' :: newLine level ++ outlineChars level item ++ itemChars level items

/-- The entries of a mapping after the first. -/
def entryChars (level : Nat) : List (String × Outline) → List Char
  | [] => []
  | (key, value) :: entries =>
    ',' :: newLine level ++ stringChars key ++ [':', ' '] ++ outlineChars level value ++
      entryChars level entries

end

def write (o : Outline) : String := String.ofList (outlineChars 0 o)

end Preflight.Json
