import Preflight.Binary64.Basic
import Preflight.Timestamp

/-!
# Documents

The values that a data file can hold.  A mapping keeps its entries in the order in which their keys
first appeared, and its keys may be any scalar.  A collection may contain itself: then it is a knot,
and every place inside it where it occurs again is a loop with the label of the knot.
`Document.opened` puts the knot itself at these places, so the parts of an opened document stand on
their own.
-/

namespace Preflight

inductive Document where
  | null
  | bool (b : Bool)
  | int (n : Int)
  | float (x : Binary64)
  | text (s : String)
  | date (d : Date)
  | moment (t : Timestamp)
  | bytes (content : List UInt8)
  | list (items : List Document)
  | set (items : List Document)
  | pair (first second : Document)
  | map (entries : List (Document × Document))
  /-- A collection that contains itself. -/
  | knot (label : Nat) (body : Document)
  /-- The knot with this label, inside its own body. -/
  | loop (label : Nat)

namespace Document

instance : Inhabited Document := ⟨null⟩

/-! ## Knots -/

mutual

/-- Puts a value in the place of the loops with a label. -/
def bind (label : Nat) (value : Document) : Document → Document
  | loop found => if found = label then value else loop found
  | knot found body => knot found (if found = label then body else bind label value body)
  | list items => list (bindItems label value items)
  | pair first second => pair (bind label value first) (bind label value second)
  | map entries => map (bindEntries label value entries)
  | d => d

def bindItems (label : Nat) (value : Document) : List Document → List Document
  | [] => []
  | item :: items => bind label value item :: bindItems label value items

def bindEntries (label : Nat) (value : Document) :
    List (Document × Document) → List (Document × Document)
  | [] => []
  | (key, entry) :: entries => (key, bind label value entry) :: bindEntries label value entries

end

/-- A document whose outermost layer is no knot. -/
def opened : Document → Document
  | knot label body => bind label (knot label body) body
  | d => d

/-- The items of a list. -/
def items? (d : Document) : Option (List Document) :=
  match d.opened with
  | list items => some items
  | _ => none

/-- The entries of a mapping. -/
def entries? (d : Document) : Option (List (Document × Document)) :=
  match d.opened with
  | map entries => some entries
  | _ => none

/-! ## Depth -/

mutual

/-- The number of collections inside each other. -/
def depth : Document → Nat
  | list items => depthOfItems items + 1
  | set items => depthOfItems items + 1
  | pair first second => max first.depth second.depth + 1
  | map entries => depthOfEntries entries + 1
  | knot _ body => body.depth
  | _ => 0

def depthOfItems : List Document → Nat
  | [] => 0
  | item :: items => max item.depth (depthOfItems items)

def depthOfEntries : List (Document × Document) → Nat
  | [] => 0
  | (key, value) :: entries => max (max key.depth value.depth) (depthOfEntries entries)

end

/-! ## Keys -/

/-- The number that a Boolean or a whole number stands for. -/
def integer? : Document → Option Int
  | bool b => some (if b then 1 else 0)
  | int n => some n
  | _ => none

/-- Whether two scalars are the same key.  Numbers are compared by value, whatever their kind, and
moments with an offset by the instant. -/
def sameKey : Document → Document → Bool
  | null, null => true
  | text a, text b => a == b
  | date a, date b => a == b
  | moment a, moment b => a.sameInstant b
  | bytes a, bytes b => a == b
  | float x, float y => x.equals y
  | float x, other =>
    match x.integer?, other.integer? with
    | some a, some b => a == b
    | _, _ => false
  | other, float y =>
    match other.integer?, y.integer? with
    | some a, some b => a == b
    | _, _ => false
  | a, b =>
    match a.integer?, b.integer? with
    | some m, some n => m == n
    | _, _ => false

/-- The first collection that keeps a value from being a key or a member of a set. -/
def unfitForKey? : Document → Option Document
  | list items => some (list items)
  | set items => some (set items)
  | map entries => some (map entries)
  | knot label body => some (knot label body)
  | loop label => some (loop label)
  | pair first second => (unfitForKey? first).or (unfitForKey? second)
  | _ => none

/-- Adds an entry.  A key that is present keeps its place and takes the new value. -/
def insertEntry (entries : List (Document × Document)) (key value : Document) :
    List (Document × Document) :=
  match entries with
  | [] => [(key, value)]
  | (present, old) :: rest =>
    if sameKey present key then (present, value) :: rest
    else (present, old) :: insertEntry rest key value

/-- The value of a text key. -/
def field? (entries : List (Document × Document)) (key : String) : Option Document :=
  match entries with
  | [] => none
  | (text present, value) :: rest => if present = key then some value else field? rest key
  | _ :: rest => field? rest key

/-- The value of a text key of a mapping; other values have no fields. -/
def get? (d : Document) (key : String) : Option Document :=
  match d.entries? with
  | some entries => field? entries key
  | none => none

/-- Whether a value is the given text. -/
def isText (d : Document) (s : String) : Bool :=
  match d with
  | text present => present = s
  | _ => false

/-- Absent, zero, empty and false values do not count as given. -/
def isGiven : Document → Bool
  | null => false
  | bool b => b
  | int n => n != 0
  | float x => !x.equals .zero
  | text s => s != ""
  | bytes content => !content.isEmpty
  | list items => !items.isEmpty
  | set items => !items.isEmpty
  | map entries => !entries.isEmpty
  | date _ => true
  | moment _ => true
  | pair _ _ => true
  | knot _ body => body.isGiven
  | loop _ => true

/-- The name of the kind of a value. -/
def kindName : Document → String
  | null => "NoneType"
  | bool _ => "bool"
  | int _ => "int"
  | float _ => "float"
  | text _ => "str"
  | date _ => "date"
  | moment _ => "datetime"
  | bytes _ => "bytes"
  | list _ => "list"
  | set _ => "set"
  | pair _ _ => "tuple"
  | map _ => "dict"
  | knot _ body => body.kindName
  | loop _ => "list"

/-- The name of the kind of a value, with the group that dates belong to. -/
def qualifiedKindName : Document → String
  | date _ => "datetime.date"
  | moment _ => "datetime.datetime"
  | d => d.kindName

end Document

end Preflight
