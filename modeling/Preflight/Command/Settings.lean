import Preflight.Command.Options
import Preflight.Config.Read

/-!
# Effective configurations

The configuration of a run: what a file says, and over it what the command line sets.  Of an option
that was given several times the last value counts, except for selectors, which are collected.
-/

namespace Preflight.Command

/-- What the last setting of a kind gives. -/
def lastOf {α : Type} (get : Setting → Option α) (settings : List Setting) : Option α :=
  (settings.filterMap get).getLast?

def configPath? : Setting → Option (Option String)
  | .config path => some path
  | _ => none

def snapshotPath? : Setting → Option (Option String)
  | .snapshot path => some path
  | _ => none

def selector? : Setting → Option (Option String)
  | .check selector => some selector
  | _ => none

def categoryWord? : Setting → Option (Option String)
  | .category word => some word
  | _ => none

def currentText? : Setting → Option (Option String)
  | .current version => some version
  | _ => none

def targetText? : Setting → Option (Option String)
  | .target version => some version
  | _ => none

def outputFormat? : Setting → Option (Option String)
  | .output format => some format
  | _ => none

def minimumWord? : Setting → Option (Option String)
  | .minimum word => some word
  | _ => none

def timeoutSeconds? : Setting → Option (Option Binary64)
  | .timeout seconds => some seconds
  | _ => none

def workerCount? : Setting → Option (Option Int)
  | .workers count => some count
  | _ => none

def asksJson : Setting → Bool
  | .json => true
  | _ => false

/-- The last value, if it is given and not empty. -/
def lastGiven (get : Setting → Option (Option String)) (settings : List Setting) : Option String :=
  match lastOf get settings with
  | some (some s) => if s = "" then none else some s
  | _ => none

/-- A switch, applied to a configuration. -/
def applySwitch (c : Config) : Setting → Config
  | .verbose => { c with verbose := true }
  | .failOnWarning => { c with failOnWarning := true }
  | .passOnCritical => { c with failOnCritical := false }
  | .describe => { c with showDescription := true }
  | _ => c

def requireCategory (word : String) : Except Fault Category :=
  match Category.parse? word with
  | some category => .ok category
  | none => .error (.value (.category (Category.normalize word)))

/-- A version on the command line; blanks alone set no version. -/
def versionOr (before : Option Version) (text : Option String) : Except Fault (Option Version) :=
  match text with
  | none => .ok before
  | some s => (Version.ofText s).mapError .value

/-- Refuses an option whose last value is withheld. -/
def requireGiven {α : Type} (option : String) (found : Option (Option α)) : Except Fault Unit :=
  match found with
  | some none => .error (.kind (.valueWithheld option))
  | _ => .ok ()

/-- The selectors that are asked for, up to one that is withheld. -/
def givenSelectors : List (Option String) → List String
  | some selector :: rest => selector :: givenSelectors rest
  | _ => []

/-- Accepts the selectors of a configuration if none that was asked for is withheld. -/
def requireSelectors (asked : List (Option String)) (c : Config) : Except ConfigDefect Unit :=
  if asked.all Option.isSome then c.requireSelectors
  else do
    (Selector.validateEach c.selectors).mapError .selector
    throw .selectorWithheld

/-- Accepts a configuration as `Config.validate` does, where no value that it needs is withheld. -/
def requireValid (settings : List Setting) (c : Config) : Except Fault Unit := do
  (Config.requireFormat c.output).mapError .config
  requireGiven "timeout" (lastOf timeoutSeconds? settings)
  c.requireTime.mapError .config
  requireGiven "workers" (lastOf workerCount? settings)
  c.requireWorkers.mapError .config
  c.requireVersions.mapError .config
  (requireSelectors (settings.filterMap selector?) c).mapError .config

/-- A configuration with the settings over it. -/
def override (c : Config) (settings : List Setting) : Except Fault Config := do
  let asked := settings.filterMap selector?
  let category ← (lastGiven categoryWord? settings).mapM requireCategory
  let minimum ← (lastOf minimumWord? settings).mapM fun word =>
    (Config.Field.minimumOfText (word.getD "")).mapError Fault.value
  let current ← versionOr c.current (lastGiven currentText? settings)
  let target ← versionOr c.target (lastGiven targetText? settings)
  let set := settings.foldl applySwitch c
  let c := { set with
    selectors := if asked.isEmpty then c.selectors else givenSelectors asked
    category := category.or c.category
    output := (lastOf outputFormat? settings).join.getD c.output
    minimum := minimum.getD c.minimum
    timeout := ((lastOf timeoutSeconds? settings).join.map Duration.exact).getD c.timeout
    maxWorkers := (lastOf workerCount? settings).join.getD c.maxWorkers
    current := current
    target := target }
  requireValid settings c
  return c

/-- The configuration that a command works with. -/
def effectiveConfig (files : Files) (settings : List Setting) : Except Fault Config := do
  let path ← match lastGiven configPath? settings with
    | some path => pure (some (Path.ofString path))
    | none => Config.find files none
  let c ← match path with
    | some path => Config.load files path
    | none => .ok Config.standard
  override c settings

end Preflight.Command
