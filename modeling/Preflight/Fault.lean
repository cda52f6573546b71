import Preflight.Glob.Pattern
import Preflight.Result.Basic
import Preflight.Text.Numeral

/-!
# Failures

Every way in which an operation can fail, by its cause.  `Fault.message` gives the wording, once for
all of them; a failure that cannot be put into words is not among them.
-/

namespace Preflight

/-- Why a selector was refused. -/
inductive SelectorDefect where
  | malformed (defect : Glob.Defect)
  | emptySelector
  | noSelectors
  | unspecified
  deriving DecidableEq, Repr

/-- A selector that was refused, with the reason. -/
structure InvalidPattern where
  pattern : String
  defect : SelectorDefect
  deriving DecidableEq, Repr

/-- Parts of a date or a time of day that are out of range. -/
inductive CalendarDefect where
  | year (year : Nat)
  | month
  | day
  | hour
  | minute
  | second
  | offset (shownLength : String)
  deriving DecidableEq, Repr

/-- Values of the right kind that cannot be used. -/
inductive ValueDefect where
  | category (word : String)
  | minimumSeverity (word : String)
  | version (text : String)
  | conditionStatus (text : String)
  | impact (text : String)
  | categoryName (text : String)
  | outputFormat (text : String)
  | floatNumeral (shown : String)
  | intNumeral (base : Nat) (shown : String)
  | wholeOfNaN
  | stateNotText (path kindName : String)
  | entryLength (index length : Nat)
  | checkWithoutId (kind : String)
  | checkWithoutCategory (checkId : String)
  | checkWithoutTypes (checkId : String)
  | noWorkers
  | calendar (defect : CalendarDefect)
  | codePoint
  | tooManyDigits (found : Option Nat)
  | nullInPath
  | isoText (shown : String)
  deriving DecidableEq, Repr

/-- Values of the wrong kind. -/
inductive KindDefect where
  | notIterable (kindName : String)
  | notFloat (kindName : String)
  | notInt (kindName : String)
  | notKey (kindName : String)
  | entryNotSequence (index : Nat)
  | keysNotText
  | notText (kindName : String)
  | valueWithheld (option : String)
  deriving DecidableEq, Repr

/-- Numbers that are too large. -/
inductive RangeDefect where
  | floatOfInt
  | wholeOfInfinity
  | codePoint
  | waitTooLong
  deriving DecidableEq, Repr

/-- What is wrong with a configuration or a dump of objects. -/
inductive ConfigDefect where
  | unknownKeys (keys : List String)
  | outputFormat (shown : String)
  | timeoutNotPositive (shown : String)
  | tooFewWorkers (shown : String)
  | targetWithoutCurrent
  | selector (pattern : InvalidPattern)
  | selectorWithheld
  | checksNotTexts (shown : String)
  | notBoolean (key shown : String)
  | value (defect : ValueDefect)
  | kind (defect : KindDefect)
  | fileNotFound (path : String)
  | unparsable (path : String)
  | notMapping (path : String)
  | inFile (path : String) (defect : ConfigDefect)
  | snapshotNotFound (path : String)
  | unparsableSnapshot (path : String)
  | notAnObject
  deriving Repr

/-- Kinds of failures that a check or a reader reports in its own words. -/
inductive ReportedKind where
  | value
  | runtime
  | key
  | timeout
  | cancelled
  | deadline
  | lint
  | validation
  | config
  | resource
  deriving DecidableEq, Repr

inductive Fault where
  | reported (kind : ReportedKind) (text : String)
  | deadlinePassed
  | value (defect : ValueDefect)
  | kind (defect : KindDefect)
  | range (defect : RangeDefect)
  | noField (kindName field : String)
  | missingKey (shown : String)
  | emptyNumeral
  | isDirectory (path : String)
  | nameTooLong (path : String)
  | tooDeep
  | annotationNotText (key : String)
  | invalidResult (defect : ResultDefect)
  | invalidPattern (pattern : InvalidPattern)
  | duplicateCheck (checkId : String)
  | registryFrozen (checkId : String)
  | config (defect : ConfigDefect)
  | typeNotServed (resourceType : String)
  | notFound (resourceType name : String) (namespaceName : Option String)
  | applicability (checkId : String) (cause : Fault)
  | invocation (checkId : String) (cause : Fault) (resource : Option String)
  deriving Repr

instance : Inhabited Fault := ⟨.deadlinePassed⟩

/-- The formats of a report, in the order in which they are offered. -/
def outputFormats : List String := ["table", "json", "yaml"]

def outputFormatMessage (shown : String) : String :=
  s!"Invalid output format: {shown}. Must be one of: " ++ String.intercalate ", " outputFormats

def SelectorDefect.message : SelectorDefect → String
  | malformed defect => defect.message
  | emptySelector => "selector must not be empty"
  | noSelectors => "at least one selector is required"
  | unspecified => "syntax error in pattern"

def InvalidPattern.message (p : InvalidPattern) : String :=
  s!"invalid pattern {Text.quoted p.pattern}: {p.defect.message}"

def CalendarDefect.message : CalendarDefect → String
  | year n => s!"year {n} is out of range"
  | month => "month must be in 1..12"
  | day => "day is out of range for month"
  | hour => "hour must be in 0..23"
  | minute => "minute must be in 0..59"
  | second => "second must be in 0..59"
  | offset shownLength =>
    "offset must be a timedelta strictly between -timedelta(hours=24) and timedelta(hours=24), " ++
      s!"not {shownLength}."

/-- Whole numbers are read and written up to a count of digits. -/
def tooManyDigitsMessage (found : Option Nat) : String :=
  let count := match found with
    | none => ""
    | some digits => s!": value has {digits} digits"
  s!"Exceeds the limit ({Text.mostDigits} digits) for integer string conversion{count}; " ++
    "use sys.set_int_max_str_digits() to increase the limit"

def ValueDefect.message : ValueDefect → String
  | category word =>
    s!"Invalid category: {word}. Must be component, service, workload, or dependency."
  | minimumSeverity word =>
    s!"Invalid minimum severity: {word}. Must be critical, warning, info, or all."
  | version text => s!"Invalid version: {text}"
  | conditionStatus text => s!"{Text.quoted text} is not a valid ConditionStatus"
  | impact text => s!"{Text.quoted text} is not a valid Impact"
  | categoryName text => s!"{Text.quoted text} is not a valid Category"
  | outputFormat text => outputFormatMessage text
  | floatNumeral shown => s!"could not convert string to float: {shown}"
  | intNumeral base shown => s!"invalid literal for int() with base {base}: {shown}"
  | wholeOfNaN => "cannot convert float NaN to integer"
  | stateNotText path kindName =>
    s!"{path}.managementState must be a string, got {kindName}"
  | entryLength index length =>
    s!"dictionary update sequence element #{index} has length {length}; 2 is required"
  | checkWithoutId kind => s!"{kind} has no check_id"
  | checkWithoutCategory checkId =>
    s!"check '{checkId}' category must be a Category enum, got <class 'str'>"
  | checkWithoutTypes checkId => s!"workload check '{checkId}' declares no resource_types"
  | noWorkers => "max_workers must be at least 1"
  | calendar defect => defect.message
  | codePoint => "chr() arg not in range(0x110000)"
  | tooManyDigits found => tooManyDigitsMessage found
  | nullInPath => "embedded null byte"
  | isoText shown => s!"Invalid isoformat string: {shown}"

/-- The most characters of a text that a message about a whole number shows. -/
def ValueDefect.mostShown : Nat := 200

/-- A whole number in ASCII; `shown` stands in the message if there is none. -/
def ValueDefect.readWhole (base : Nat) (cs : List Char) (shown : String) : Except ValueDefect Int :=
  match Text.readWhole base cs with
  | .ok n => .ok n
  | .error .notNumeral =>
    .error (.intNumeral base (String.ofList (shown.toList.take mostShown)))
  | .error (.tooLong digits) => .error (.tooManyDigits (some digits))

def KindDefect.message : KindDefect → String
  | notIterable kindName => s!"'{kindName}' object is not iterable"
  | notFloat kindName =>
    s!"float() argument must be a string or a real number, not '{kindName}'"
  | notInt kindName =>
    s!"int() argument must be a string, a bytes-like object or a real number, not '{kindName}'"
  | notKey kindName => s!"unhashable type: '{kindName}'"
  | entryNotSequence index =>
    s!"cannot convert dictionary update sequence element #{index} to a sequence"
  | keysNotText => "configuration keys must be texts"
  | notText kindName => s!"expected string or bytes-like object, got '{kindName}'"
  | valueWithheld option => s!"no value for {option}"

def RangeDefect.message : RangeDefect → String
  | floatOfInt => "int too large to convert to float"
  | wholeOfInfinity => "cannot convert float infinity to integer"
  | codePoint => "Python int too large to convert to C int"
  | waitTooLong => "timestamp out of range for platform time_t"

def ConfigDefect.message : ConfigDefect → String
  | unknownKeys keys => "Unknown configuration keys: " ++ String.intercalate ", " keys
  | outputFormat shown => outputFormatMessage shown
  | timeoutNotPositive shown => s!"timeout must be positive, got {shown}"
  | tooFewWorkers shown => s!"max_workers must be at least 1, got {shown}"
  | targetWithoutCurrent => "target_version requires current_version"
  | selector pattern => pattern.message
  | selectorWithheld => "invalid pattern []: selector must not be empty"
  | checksNotTexts shown => s!"checks must be a string or a list of strings, got {shown}"
  | notBoolean key shown => s!"{key} must be true or false, got {shown}"
  | value defect => defect.message
  | kind defect => defect.message
  | fileNotFound path => s!"Config file not found: {path}"
  | unparsable path => s!"Cannot parse config file {path}"
  | notMapping path => s!"Config file must contain a mapping: {path}"
  | inFile path defect => s!"{path}: {defect.message}"
  | snapshotNotFound path => s!"Snapshot file not found: {path}"
  | unparsableSnapshot path => s!"Cannot parse snapshot {path}"
  | notAnObject => "snapshot objects must be mappings with apiVersion and kind"

namespace Fault

/-- What a failure says about where it happened, if it names a place. -/
def placeText (resource : Option String) : String :=
  match resource with
  | none => ""
  | some place => if place = "" then "" else s!" on {place}"

/-- A name with its namespace in front, if there is one. -/
def scopedName (name : String) (namespaceName : Option String) : String :=
  match namespaceName with
  | none => name
  | some scope => if scope = "" then name else s!"{scope}/{name}"

/-- The wording of a failure. -/
def message : Fault → String
  | reported .key text => Text.quoted text
  | reported _ text => text
  | deadlinePassed => "run deadline exceeded"
  | value defect => defect.message
  | kind defect => defect.message
  | range defect => defect.message
  | noField kindName field => s!"'{kindName}' object has no attribute '{field}'"
  | missingKey shown => shown
  | emptyNumeral => "string index out of range"
  | isDirectory path => s!"[Errno 21] Is a directory: {Text.quoted path}"
  | nameTooLong path => s!"[Errno 36] File name too long: {Text.quoted path}"
  | tooDeep => "maximum recursion depth exceeded"
  | annotationNotText key => s!"annotation {Text.quoted key} is not a text"
  | invalidResult defect => defect.message
  | invalidPattern pattern => pattern.message
  | duplicateCheck checkId => s!"check with ID '{checkId}' already registered"
  | registryFrozen checkId =>
    s!"cannot register check '{checkId}': registry is frozen after first lookup"
  | config defect => defect.message
  | typeNotServed resourceType => s!"resource type {resourceType} is not known to the cluster"
  | notFound resourceType name namespaceName =>
    s!"{resourceType} '{scopedName name namespaceName}' not found"
  | applicability checkId cause =>
    s!"check '{checkId}': evaluating applicability: {cause.message}"
  | invocation checkId cause resource =>
    s!"check '{checkId}'{placeText resource} failed: {cause.message}"

/-- Failures by which an invocation says that it was cut off rather than that it failed. -/
def isAbandonment : Fault → Bool
  | reported .timeout _ => true
  | reported .cancelled _ => true
  | reported .deadline _ => true
  | deadlinePassed => true
  | _ => false

/-- Failures of the program's own domain, which the command line reports without a trace. -/
def isDomainFault : Fault → Bool
  | reported .lint _ => true
  | reported .validation _ => true
  | reported .config _ => true
  | reported .resource _ => true
  | invalidResult _ => true
  | invalidPattern _ => true
  | duplicateCheck _ => true
  | registryFrozen _ => true
  | config _ => true
  | typeNotServed _ => true
  | notFound .. => true
  | applicability .. => true
  | invocation .. => true
  | _ => false

/-- Whether the failure is about a value of the right kind. -/
def isValueFault : Fault → Bool
  | reported .value _ => true
  | value _ => true
  | _ => false

end Fault

end Preflight
