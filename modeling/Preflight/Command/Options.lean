import Preflight.Binary64.Basic
import Preflight.Fault
import Preflight.Text.Numeral

/-!
# Options of the command line

The options of each command: their names, whether they take a value, and what they set.
-/

namespace Preflight.Command

/-- What one option on the command line sets.  A value may be withheld: the option is given, but sets
nothing. -/
inductive Setting where
  | help
  | version
  | snapshot (path : Option String)
  | config (path : Option String)
  | check (selector : Option String)
  | category (word : Option String)
  | current (version : Option String)
  | target (version : Option String)
  | verbose
  | output (format : Option String)
  | minimum (word : Option String)
  | failOnWarning
  | passOnCritical
  | timeout (seconds : Option Binary64)
  | workers (count : Option Int)
  | describe
  | json

/-- Why a value is not one that an option takes. -/
inductive ValueRefusal where
  | notFloat (value : String)
  | notInt (value : String)
  | notOffered (value : String) (choices : List String)
  deriving DecidableEq, Repr

def ValueRefusal.message : ValueRefusal → String
  | notFloat value => s!"invalid float value: {Text.quoted value}"
  | notInt value => s!"invalid int value: {Text.quoted value}"
  | notOffered value choices =>
    let offered := String.intercalate ", " (choices.map Text.quoted)
    s!"invalid choice: {Text.quoted value} (choose from {offered})"

inductive OptionKind where
  | flag (setting : Setting)
  | value (read : String → Except ValueRefusal Setting) (withheld : Setting)

structure OptionSpec where
  names : List String
  kind : OptionKind
  help : String

namespace OptionSpec

/-- How messages refer to an option. -/
def label (o : OptionSpec) : String := String.intercalate "/" o.names

end OptionSpec

/-- An option whose value may be any text. -/
def textOption (names : List String) (set : Option String → Setting) (help : String) :
    OptionSpec :=
  ⟨names, .value (fun s => .ok (set (some s))) (set none), help⟩

def flagOption (names : List String) (setting : Setting) (help : String) : OptionSpec :=
  ⟨names, .flag setting, help⟩

def readTimeout (s : String) : Except ValueRefusal Setting :=
  match Text.readFloat? s with
  | some x => .ok (.timeout (some x))
  | none => .error (.notFloat s)

def readWorkers (s : String) : Except ValueRefusal Setting :=
  match Text.readInt s with
  | .ok n => .ok (.workers (some n))
  | .error _ => .error (.notInt s)

def readOutput (s : String) : Except ValueRefusal Setting :=
  if outputFormats.contains s then .ok (.output (some s)) else .error (.notOffered s outputFormats)

def helpOption : OptionSpec := flagOption ["-h", "--help"] .help "show this help message and exit"

/-- The options in front of a command. -/
def commonOptions : List OptionSpec :=
  [helpOption, flagOption ["--version"] .version "show the version of the program and exit"]

/-- The options by which every command selects checks. -/
def selectionOptions : List OptionSpec :=
  [textOption ["--config", "-c"] .config "Path to configuration file",
   textOption ["--checks"] .check
    "Check selector: '*', a category, a check ID or a glob (repeatable)",
   textOption ["--category"] .category "Only run checks of this category",
   textOption ["--current-version"] .current "Installed platform version",
   textOption ["--target-version"] .target "Platform version being upgraded to",
   flagOption ["--verbose", "-v"] .verbose "Verbose output"]

def runOptions : List OptionSpec :=
  [helpOption, textOption ["--snapshot", "-s"] .snapshot "YAML or JSON dump of cluster resources"] ++
  selectionOptions ++
  [⟨["--output", "-o"], .value readOutput (.output none), "Output format (default: table)"⟩,
   textOption ["--min-severity"] .minimum
    "Only show results at or above this severity (critical, warning, info, all)",
   flagOption ["--fail-on-warning"] .failOnWarning "Exit non-zero when any result is a warning",
   flagOption ["--no-fail-on-critical"] .passOnCritical
    "Exit zero even when results are critical",
   ⟨["--timeout"], .value readTimeout (.timeout none), "Run deadline in seconds (default: 300)"⟩,
   ⟨["--workers"], .value readWorkers (.workers none),
    "Number of concurrent check invocations (default: 1)"⟩,
   flagOption ["--describe"] .describe "Add the check description column to table output"]

def planOptions : List OptionSpec :=
  helpOption :: selectionOptions ++ [flagOption ["--json"] .json "Output JSON plan"]

def listOptions : List OptionSpec :=
  helpOption :: selectionOptions ++ [flagOption ["--json"] .json "Output JSON list"]

inductive CommandName where
  | run
  | plan
  | list
  deriving DecidableEq, Repr

namespace CommandName

def all : List CommandName := [run, plan, list]

def name : CommandName → String
  | run => "run"
  | plan => "plan"
  | list => "list"

def help : CommandName → String
  | run => "Run checks against a cluster snapshot"
  | plan => "Show which checks would run"
  | list => "List available checks"

def options : CommandName → List OptionSpec
  | run => runOptions
  | plan => planOptions
  | list => listOptions

def ofName? (s : String) : Option CommandName := all.find? (·.name = s)

end CommandName

/-- The name of the program. -/
def programName : String := "cluster-lint"

def programVersion : String := "0.1.0"

/-- The name of the program with that of the command. -/
def commandTitle (command : Option CommandName) : String :=
  match command with
  | none => programName
  | some command => s!"{programName} {command.name}"

end Preflight.Command
