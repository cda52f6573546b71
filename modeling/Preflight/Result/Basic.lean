import Preflight.Condition
import Preflight.Document.Basic
import Preflight.Text.Quoted
import Preflight.Text.Split

/-!
# Results of checks

A result names its target and its check, lists the conditions in the order in which the check looked
at them, and refers to the objects concerned.  `Result.validate` accepts exactly the well-formed
results and otherwise reports the first rule that is broken.

The fields of a result hold what they are declared to hold, with two exceptions: there may be a bare
text in the place of a status, and the value of an annotation may be anything that a document can
hold.  Only the first of these is looked at when a result is accepted.
-/

namespace Preflight

/-- A cluster object that a finding concerns. -/
structure ObjectReference where
  kind : String
  name : String
  namespaceName : String
  apiVersion : String
  deriving DecidableEq, Repr

structure Result where
  group : String
  kind : String
  name : String
  description : String
  /-- Annotations by key, in the order in which the keys were first set. -/
  annotations : List (String × Document)
  conditions : List Condition
  impacted : List ObjectReference

/-- The rules that a result can break. -/
inductive ResultDefect where
  | emptyGroup
  | emptyKind
  | emptyName
  | malformedAnnotationKey (key : String)
  | noConditions
  | emptyConditionType
  | bareStatus (type : String)
  | emptyReason (type : String)
  | notAResult (kindName : String)
  deriving DecidableEq, Repr

namespace ObjectReference

/-- Namespace, name and kind; objects of the whole cluster have no namespace. -/
def display (o : ObjectReference) : String :=
  let place := if o.namespaceName = "" then o.name else s!"{o.namespaceName}/{o.name}"
  s!"{place} ({o.kind})"

end ObjectReference

namespace ResultDefect

def message : ResultDefect → String
  | emptyGroup => "metadata.group must not be empty"
  | emptyKind => "metadata.kind must not be empty"
  | emptyName => "metadata.name must not be empty"
  | malformedAnnotationKey key =>
    s!"annotation key {Text.quoted key} must be in domain/key format " ++
      "(e.g., check.example.io/target-version)"
  | noConditions => "status.conditions must contain at least one condition"
  | emptyConditionType => "condition with empty type found"
  | bareStatus type =>
    s!"condition {Text.quoted type} has invalid status (must be True, False, or Unknown)"
  | emptyReason type => s!"condition {Text.quoted type} has empty reason"
  | notAResult kindName => s!"validate() must return a DiagnosticResult, got {kindName}"

end ResultDefect

namespace Result

/-- An empty result for a target and a check. -/
def empty (group kind name description : String) : Result :=
  ⟨group, kind, name, description, [], [], []⟩

/-- Sets an annotation; a key that is present keeps its place. -/
def annotateIn (annotations : List (String × Document)) (key : String) (value : Document) :
    List (String × Document) :=
  match annotations with
  | [] => [(key, value)]
  | (present, old) :: rest =>
    if present = key then (present, value) :: rest else (present, old) :: annotateIn rest key value

def annotate (r : Result) (key : String) (value : Document) : Result :=
  { r with annotations := annotateIn r.annotations key value }

def addImpacted (r : Result) (o : ObjectReference) : Result :=
  { r with impacted := r.impacted ++ [o] }

def addCondition (r : Result) (c : Condition) : Result :=
  { r with conditions := r.conditions ++ [c] }

/-- Puts a condition in the place of the first one of its type, or at the end. -/
def setConditionIn (conditions : List Condition) (c : Condition) : List Condition :=
  match conditions with
  | [] => [c]
  | present :: rest =>
    if present.type = c.type then c :: rest else present :: setConditionIn rest c

def setCondition (r : Result) (c : Condition) : Result :=
  { r with conditions := setConditionIn r.conditions c }

/-- A domain with a point, one slash, and a name. -/
def isAnnotationKey (key : String) : Bool :=
  match Text.split '/' key.toList with
  | [domain, name] => !domain.isEmpty && !name.isEmpty && domain.contains '.'
  | _ => false

def checkKeys : List (String × Document) → Except ResultDefect Unit
  | [] => .ok ()
  | (key, _) :: rest =>
    if isAnnotationKey key then checkKeys rest else .error (.malformedAnnotationKey key)

def checkCondition (c : Condition) : Except ResultDefect Unit :=
  if c.type = "" then .error .emptyConditionType
  else
    match c.status with
    | .bare _ => .error (.bareStatus c.type)
    | .known _ => if c.reason = "" then .error (.emptyReason c.type) else .ok ()

def checkConditions : List Condition → Except ResultDefect Unit
  | [] => .ok ()
  | c :: rest =>
    match checkCondition c with
    | .error defect => .error defect
    | .ok () => checkConditions rest

/-- Reports the first rule that the result breaks. -/
def validate (r : Result) : Except ResultDefect Unit := do
  if r.group = "" then throw .emptyGroup
  if r.kind = "" then throw .emptyKind
  if r.name = "" then throw .emptyName
  checkKeys r.annotations
  if r.conditions.isEmpty then throw .noConditions
  checkConditions r.conditions

/-- Whether some requirement is not met. -/
def isFailing (r : Result) : Bool := r.conditions.any fun c => !c.status.spells .met

/-- The message of the first condition. -/
def message (r : Result) : String := (r.conditions.head?.map (·.message)).getD ""

end Result

end Preflight
