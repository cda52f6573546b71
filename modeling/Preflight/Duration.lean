import Preflight.Binary64.Shortest
import Preflight.Fault

/-!
# Lengths of time

A number of seconds, whole or not.
-/

namespace Preflight

inductive Duration where
  | whole (seconds : Int)
  | exact (seconds : Binary64)

namespace Duration

def render : Duration → String
  | whole n => toString n
  | exact x => x.render

/-- Whether the duration is zero or negative; a NaN is neither. -/
def isSpent : Duration → Bool
  | whole n => decide (n ≤ 0)
  | exact x => x.le .zero

/-- The duration as a floating-point number, unless it is too large for one. -/
def seconds : Duration → Except Fault Binary64
  | whole n => if (Binary64.ofInt n).isInfinite then .error (.range .floatOfInt)
    else .ok (Binary64.ofInt n)
  | exact x => .ok x

end Duration

end Preflight
