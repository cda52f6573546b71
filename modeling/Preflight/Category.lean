import Preflight.Text.Blank
import Preflight.Text.Lowercase

/-!
# Categories of checks

What a check targets.  A category has a name and a group name, which is its plural.
-/

namespace Preflight

inductive Category where
  | component
  | service
  | workload
  | dependency
  deriving DecidableEq, Repr

/-- The category that a check claims to have; only a known one can be registered. -/
inductive CategoryLabel where
  | known (category : Category)
  | other (text : String)
  deriving DecidableEq, Repr

namespace Category

def name : Category → String
  | component => "component"
  | service => "service"
  | workload => "workload"
  | dependency => "dependency"

/-- The plural name, used as the group of results and as a selector. -/
def group : Category → String
  | component => "components"
  | service => "services"
  | workload => "workloads"
  | dependency => "dependencies"

def all : List Category := [component, service, workload, dependency]

/-- The order in which reports show categories. -/
def displayOrder : List Category := [component, service, dependency, workload]

/-- The position in the display order. -/
def rank : Category → Nat
  | component => 0
  | service => 1
  | dependency => 2
  | workload => 3

def ofName? (s : String) : Option Category := all.find? (·.name = s)

def ofGroup? (s : String) : Option Category := all.find? (·.group = s)

/-- How a category is compared with names: without the blanks around it and in lower case. -/
def normalize (s : String) : String := Text.lower (Text.strip s)

/-- The category with this name or plural name. -/
def parse? (s : String) : Option Category :=
  let word := normalize s
  all.find? fun category => word = category.name || word = category.group

end Category

namespace CategoryLabel

/-- The position in the display order; a label that is no category comes last. -/
def rank : CategoryLabel → Nat
  | known category => category.rank
  | other _ => 4

end CategoryLabel

end Preflight
