import Preflight.Glob.Pattern

/-!
# Matching a glob pattern

A text matches when the whole of it splits into consecutive pieces, one for each token.
-/

namespace Preflight.Glob

def CharRange.contains (range : CharRange) (c : Char) : Bool :=
  decide (range.low ≤ c) && decide (c ≤ range.high)

/-- Whether a token that stands for a single character stands for this one. -/
def Token.accepts : Token → Char → Bool
  | literal c, found => found == c
  | anyOne, found => found != '/'
  | anyRun, _ => false
  | oneOf ranges, found => ranges.any (·.contains found)
  | noneOf ranges, found => found != '/' && !ranges.any (·.contains found)

/-- Drops some number of characters, none of them a slash, before the rest has to match. -/
def matchAfterRun (rest : List Char → Bool) : List Char → Bool
  | [] => rest []
  | c :: cs => rest (c :: cs) || (c != '/' && matchAfterRun rest cs)

def matchTokens : List Token → List Char → Bool
  | [], cs => cs.isEmpty
  | .anyRun :: tokens, cs => matchAfterRun (matchTokens tokens) cs
  | token :: tokens, cs =>
    match cs with
    | [] => false
    | c :: cs => token.accepts c && matchTokens tokens cs

end Preflight.Glob
