/-!
# Sixteen-bit units

A character beyond the basic plane is a pair of 16-bit units, a high half and a low half.  A half
without its partner is no character; in a text a private character stands for it.
-/

namespace Preflight.Text

def isHighHalf (unit : Nat) : Bool := 0xD800 ≤ unit && unit < 0xDC00

def isLowHalf (unit : Nat) : Bool := 0xDC00 ≤ unit && unit < 0xE000

def isHalf (unit : Nat) : Bool := isHighHalf unit || isLowHalf unit

/-- The distance from a half to the private character that stands for it. -/
def standInDistance : Nat := 0x100000

/-- The character of a unit, or of a half without its partner. -/
def charOfUnit (unit : Nat) : Char :=
  Char.ofNat (if isHalf unit then standInDistance + unit else unit)

/-- The half that a character stands for. -/
def halfOf? (c : Char) : Option Nat :=
  let unit := c.toNat - standInDistance
  if isHalf unit then some unit else none

/-- The code point of a character, or of the half that it stands for. -/
def codeOf (c : Char) : Nat := (halfOf? c).getD c.toNat

/-- Units as characters, pairs of halves joined. -/
def joinUnits : List Nat → List Char
  | [] => []
  | [unit] => [charOfUnit unit]
  | high :: low :: rest =>
    if isHighHalf high && isLowHalf low then
      Char.ofNat (0x10000 + (high - 0xD800) * 0x400 + (low - 0xDC00)) :: joinUnits rest
    else charOfUnit high :: joinUnits (low :: rest)

/-- The units of a character, one or two. -/
def unitsOf (c : Char) : List Nat :=
  let code := codeOf c
  if code < 0x10000 then [code]
  else [0xD800 + (code - 0x10000) / 0x400, 0xDC00 + (code - 0x10000) % 0x400]

end Preflight.Text
