/-!
# Blank characters

The characters that are dropped at the two ends of a text.
-/

namespace Preflight.Text

/-- Tabs, line ends, separators and the spaces of every width. -/
def isBlank (c : Char) : Bool :=
  let code := c.toNat
  (9 ≤ code && code ≤ 13) || (28 ≤ code && code ≤ 32) || code == 0x85 || code == 0xA0 ||
    code == 0x1680 || (0x2000 ≤ code && code ≤ 0x200A) || code == 0x2028 || code == 0x2029 ||
    code == 0x202F || code == 0x205F || code == 0x3000

def stripRightChars (cs : List Char) : List Char :=
  (cs.reverse.dropWhile isBlank).reverse

def stripChars (cs : List Char) : List Char :=
  stripRightChars (cs.dropWhile isBlank)

def strip (s : String) : String := String.ofList (stripChars s.toList)

def stripRight (s : String) : String := String.ofList (stripRightChars s.toList)

end Preflight.Text
