import Preflight.Fault

/-!
# Texts that hold no document

A text may break the grammar of its format, or write a value that cannot be built.  The two kinds
are told apart, since the second kind is reported as the failure that it is.
-/

namespace Preflight

inductive Flaw where
  | malformed
  | unusable (fault : Fault)

namespace Flaw

/-- Collections are nested too deeply to be read. -/
def tooDeep : Flaw := unusable .tooDeep

/-- A whole number has too many digits. -/
def tooLong (digits : Nat) : Flaw := unusable (.value (.tooManyDigits (some digits)))

end Flaw

end Preflight
