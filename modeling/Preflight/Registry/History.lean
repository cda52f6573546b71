import Preflight.Registry.Basic

/-!
# Histories of a registry

The requests that can be made of a registry one after the other, and what each of them answers and
leaves behind.  A refused request leaves the registry as it was.
-/

namespace Preflight.Registry

inductive Request where
  | register (check : Check)
  | get (id : String)
  | listAll
  | iterate
  | listCategory (category : Category)
  | listPattern (pattern : String) (filter : Option Category)
  | size
  | contains (id : String)
  | isFrozen

inductive Answer where
  | done
  | check (found : Option Check)
  | checks (found : List Check)
  | number (n : Nat)
  | flag (b : Bool)

/-- What a request answers. -/
def answer (r : Registry) : Request → Except Fault Answer
  | .register check => (r.register check).map fun _ => .done
  | .get id => .ok (.check (r.find? id))
  | .listAll => .ok (.checks r.all)
  | .iterate => .ok (.checks r.all)
  | .listCategory category => .ok (.checks (r.inCategory category))
  | .listPattern pattern filter =>
    match r.selected pattern filter with
    | .ok found => .ok (.checks found)
    | .error defect => .error (.invalidPattern defect)
  | .size => .ok (.number r.checks.length)
  | .contains id => .ok (.flag (r.contains id))
  | .isFrozen => .ok (.flag r.frozen)

/-- The registry after a request. -/
def after (r : Registry) : Request → Registry
  | .register check =>
    match r.register check with
    | .ok r => r
    | .error _ => r
  | .get _ => r.freeze
  | .listAll => r.freeze
  | .iterate => r.freeze
  | .listCategory _ => r.freeze
  | .listPattern pattern _ =>
    match Selector.validate pattern with
    | .ok () => r.freeze
    | .error _ => r
  | .size => r
  | .contains _ => r
  | .isFrozen => r

/-- The registry after a row of requests. -/
def afterAll (r : Registry) (requests : List Request) : Registry := requests.foldl after r

end Preflight.Registry
