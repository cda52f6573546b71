import Preflight.Text.Printable
import Preflight.Text.Units

/-!
# Quoted text

A text is shown between single quotes, or between double quotes when it holds a single quote and no
double quote.  A backslash, the quote itself and every unprintable character are escaped, so that
the shown form is printable and has one line.
-/

namespace Preflight.Text

def hexDigit (n : Nat) : Char :=
  if n < 10 then Char.ofNat (0x30 + n) else Char.ofNat (0x57 + n)

/-- The last `width` hexadecimal digits of a number. -/
def hexDigits : Nat → Nat → List Char
  | 0, _ => []
  | width + 1, n => hexDigits width (n / 16) ++ [hexDigit (n % 16)]

/-- The shortest numbered escape that can hold the code point. -/
def numberedEscape (c : Char) : List Char :=
  let code := codeOf c
  if code < 0x100 then '\\' :: 'x' :: hexDigits 2 code
  else if code < 0x10000 then '\\' :: 'u' :: hexDigits 4 code
  else '\\' :: 'U' :: hexDigits 8 code

def escapeIn (quoteMark c : Char) : List Char :=
  if c = quoteMark || c = '\\' then ['\\', c]
  else if c = '\n' then ['\\', 'n']
  else if c = '\r' then ['\\', 'r']
  else if c = '\t' then ['\\', 't']
  else if isPrintable c then [c]
  else numberedEscape c

/-- The quotation mark chosen for a text. -/
def quoteMarkFor (cs : List Char) : Char :=
  if cs.contains '\'' && !cs.contains '"' then '"' else '\''

def quotedChars (cs : List Char) : List Char :=
  let mark := quoteMarkFor cs
  mark :: cs.flatMap (escapeIn mark) ++ [mark]

def quoted (s : String) : String := String.ofList (quotedChars s.toList)

end Preflight.Text
