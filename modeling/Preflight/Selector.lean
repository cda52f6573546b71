import Preflight.Check.Basic
import Preflight.Glob.Match

/-!
# Selectors

A selector is a star for every check, the plural name of a category, the identity of a check, or a
glob pattern over identities, tried in this order.
-/

namespace Preflight.Selector

def wildcard : String := "*"

def malformed (pattern : String) (defect : Glob.Defect) : InvalidPattern :=
  ⟨pattern, .malformed defect⟩

/-- The tokens of a glob selector. -/
def compile (pattern : String) : Except InvalidPattern (List Glob.Token) :=
  (Glob.parse pattern).mapError (malformed pattern)

/-- Whether a selector selects a check.  A glob is read only if nothing before it decides. -/
def selects (pattern : String) (check : Check) : Except InvalidPattern Bool :=
  if pattern = wildcard then .ok true
  else
    match Category.ofGroup? pattern with
    | some category => .ok (check.isIn category)
    | none =>
      if pattern = check.id then .ok true
      else
        match compile pattern with
        | .ok tokens => .ok (Glob.matchTokens tokens check.id.toList)
        | .error fault => .error fault

/-- Accepts the selectors that can be evaluated on every check. -/
def validate (pattern : String) : Except InvalidPattern Unit :=
  if pattern = "" then .error ⟨pattern, .emptySelector⟩
  else if pattern = wildcard || (Category.ofGroup? pattern).isSome then .ok ()
  else
    match compile pattern with
    | .ok _ => .ok ()
    | .error fault => .error fault

def validateEach : List String → Except InvalidPattern Unit
  | [] => .ok ()
  | pattern :: rest =>
    match validate pattern with
    | .ok () => validateEach rest
    | .error fault => .error fault

/-- Accepts the lists of at least one selector that are all acceptable. -/
def validateAll (patterns : List String) : Except InvalidPattern Unit :=
  if patterns.isEmpty then .error ⟨"", .noSelectors⟩ else validateEach patterns

/-- Whether some selector selects the check; they are tried in order. -/
def anySelects (check : Check) : List String → Except InvalidPattern Bool
  | [] => .ok false
  | pattern :: rest =>
    match selects pattern check with
    | .ok true => .ok true
    | .ok false => anySelects check rest
    | .error fault => .error fault

/-- The checks that pass a test, which may fail. -/
def filterChecks (test : Check → Except InvalidPattern Bool) :
    List Check → Except InvalidPattern (List Check)
  | [] => .ok []
  | check :: rest =>
    match test check with
    | .error fault => .error fault
    | .ok selected => (filterChecks test rest).map fun tail =>
        if selected then check :: tail else tail

/-- The checks that pass the filter and that some selector selects, by identity. -/
def select (checks : List Check) (patterns : List String) (filter : Option Category) :
    Except InvalidPattern (List Check) :=
  match validateAll patterns with
  | .error fault => .error fault
  | .ok () =>
    filterChecks (anySelects · patterns) ((Check.sortById checks).filter (·.passes filter))

end Preflight.Selector
