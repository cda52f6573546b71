import Preflight.Selector

/-!
# Registries

A registry is filled with checks and closed by its first query, so that the checks of a run cannot
change while it lasts.  Queries answer in the order of identities.
-/

namespace Preflight

structure Registry where
  checks : List Check
  frozen : Bool

namespace Registry

def empty : Registry := ⟨[], false⟩

instance : Inhabited Registry := ⟨empty⟩

def contains (r : Registry) (id : String) : Bool := r.checks.any (·.id == id)

/-- What a check has to have to be registered anywhere: an identity, a category, and resource types
if it judges workload instances. -/
def requireComplete (check : Check) : Except Fault Unit :=
  if check.id = "" then .error (.value (.checkWithoutId check.kind))
  else
    match check.category with
    | .other _ => .error (.value (.checkWithoutCategory check.id))
    | .known category =>
      if category = .workload && check.resourceTypes.isEmpty then
        .error (.value (.checkWithoutTypes check.id))
      else .ok ()

/-- Adds a check to an open registry that has none of its identity. -/
def register (r : Registry) (check : Check) : Except Fault Registry :=
  match requireComplete check with
  | .error fault => .error fault
  | .ok () =>
    if r.frozen then .error (.registryFrozen check.id)
    else if r.contains check.id then .error (.duplicateCheck check.id)
    else .ok { r with checks := r.checks ++ [check] }

def registerAll (r : Registry) : List Check → Except Fault Registry
  | [] => .ok r
  | check :: rest =>
    match r.register check with
    | .error fault => .error fault
    | .ok r => r.registerAll rest

/-- The registry of a list of checks. -/
def ofChecks (checks : List Check) : Except Fault Registry := empty.registerAll checks

def freeze (r : Registry) : Registry := { r with frozen := true }

def find? (r : Registry) (id : String) : Option Check := r.checks.find? (·.id == id)

/-- Every check, by identity. -/
def all (r : Registry) : List Check := Check.sortById r.checks

def inCategory (r : Registry) (category : Category) : List Check :=
  r.all.filter (·.isIn category)

/-- The checks that pass the filter and that the selector selects. -/
def selected (r : Registry) (pattern : String) (filter : Option Category) :
    Except InvalidPattern (List Check) :=
  match Selector.validate pattern with
  | .error fault => .error fault
  | .ok () => Selector.filterChecks (Selector.selects pattern) (r.all.filter (·.passes filter))

end Registry

end Preflight
