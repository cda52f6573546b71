/-!
# Padded text

Numbers with a fixed count of digits and texts of a fixed width.
-/

namespace Preflight.Text

/-- The number in decimal, with zeros in front up to the width. -/
def zeroPadded (width n : Nat) : String :=
  let digits := (toString n).toList
  String.ofList (List.replicate (width - digits.length) '0' ++ digits)

/-- The text followed by spaces up to the width, counted in characters. -/
def padRight (width : Nat) (s : String) : String :=
  String.ofList (s.toList ++ List.replicate (width - s.length) ' ')

end Preflight.Text
