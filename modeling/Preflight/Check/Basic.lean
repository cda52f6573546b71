import Preflight.Category
import Preflight.Check.Context
import Preflight.Check.Reader
import Preflight.Result.Finding
import Preflight.Version

/-!
# Checks

A check says who it is, for which pair of versions it applies, and how it judges a target.
-/

namespace Preflight

/-- What one invocation of a check looks at. -/
structure Target where
  reader : Reader
  current : Option Version
  target : Option Version
  /-- The workload instance, for checks that judge instances. -/
  resource : Option Manifest

namespace Target

/-- The version that findings are about. -/
def version (t : Target) : Option Version := t.target.or t.current

/-- Kind and key of the bound instance. -/
def describe (t : Target) : Except Fault (Option String) :=
  match t.resource with
  | none => .ok none
  | some m => m.describe.map some

end Target

/-- What a check hands back. -/
inductive Returned where
  | result (r : Result)
  /-- Something that is no result, by the name of its kind. -/
  | other (kindName : String)

structure Check where
  /-- The name of the kind of check. -/
  kind : String
  id : String
  name : String
  description : String
  category : CategoryLabel
  resourceTypes : List ResourceType
  canApply : Option Version → Option Version → Action Bool
  validate : Context → Target → Action Returned

namespace Check

def isIn (check : Check) (category : Category) : Bool := check.category == .known category

/-- Whether the check passes an optional filter. -/
def passes (check : Check) (filter : Option Category) : Bool :=
  match filter with
  | none => true
  | some category => check.isIn category

/-- Identity order, by code points. -/
def idLe (a b : Check) : Bool := !decide (b.id < a.id)

def sortById (checks : List Check) : List Check := checks.mergeSort idLe

/-- Display order of categories, and identity order within each of them. -/
def displayLe (a b : Check) : Bool :=
  decide (a.category.rank < b.category.rank) ||
    (a.category.rank == b.category.rank && idLe a b)

def sortForDisplay (checks : List Check) : List Check := checks.mergeSort displayLe

/-- A result of this check: under the group of its category, with its description. -/
def newResult (category : Category) (description kind name : String) : Result :=
  Result.empty category.group kind name description

end Check

end Preflight
