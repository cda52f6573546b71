import Preflight.Registry.Basic

/-!
# Resolving selectors

The checks of a run: those that some selector selects and that pass the category filter, each once,
in display order.
-/

namespace Preflight.Run

/-- Adds checks whose identity is not yet among those found. -/
def addNew (found : List Check) : List Check → List Check
  | [] => found
  | check :: rest =>
    if found.any (·.id == check.id) then addNew found rest else addNew (found ++ [check]) rest

def collect (r : Registry) (filter : Option Category) (found : List Check) :
    List String → Except InvalidPattern (List Check)
  | [] => .ok found
  | pattern :: rest =>
    match r.selected pattern filter with
    | .error fault => .error fault
    | .ok checks => collect r filter (addNew found checks) rest

/-- The selected checks in display order. -/
def resolve (r : Registry) (selectors : List String) (filter : Option Category) :
    Except Fault (List Check) :=
  match collect r filter [] selectors with
  | .ok checks => .ok (Check.sortForDisplay checks)
  | .error defect => .error (.invalidPattern defect)

/-- A run needs at least one worker. -/
def requireWorkers (count : Int) : Except Fault Unit :=
  if count < 1 then .error (.value .noWorkers) else .ok ()

end Preflight.Run
