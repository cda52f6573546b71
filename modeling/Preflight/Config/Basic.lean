import Preflight.Document.Shown
import Preflight.Duration
import Preflight.Selector
import Preflight.Severity

/-!
# Configurations

The settings of a run.  `Config.validate` accepts the settings with which a run can start.
-/

namespace Preflight

structure Config where
  selectors : List String
  category : Option Category
  output : String
  minimum : MinimumSeverity
  failOnCritical : Bool
  failOnWarning : Bool
  timeout : Duration
  maxWorkers : Int
  verbose : Bool
  showDescription : Bool
  current : Option Version
  target : Option Version

namespace Config

def standard : Config where
  selectors := [Selector.wildcard]
  category := none
  output := "table"
  minimum := .all
  failOnCritical := true
  failOnWarning := false
  timeout := .exact (.ofInt 300)
  maxWorkers := 1
  verbose := false
  showDescription := false
  current := none
  target := none

/-- Whether a run compares two versions. -/
def isUpgrade (c : Config) : Bool := c.current.isSome && c.target.isSome

def requireFormat (output : String) : Except ConfigDefect Unit :=
  if outputFormats.contains output then .ok () else .error (.outputFormat output)

def requireTime (c : Config) : Except ConfigDefect Unit :=
  if c.timeout.isSpent then .error (.timeoutNotPositive c.timeout.render) else .ok ()

def requireWorkers (c : Config) : Except ConfigDefect Unit := do
  if c.maxWorkers < 1 then
    throw (.tooFewWorkers (← (Document.shownInt c.maxWorkers).mapError .value))

def requireVersions (c : Config) : Except ConfigDefect Unit :=
  if c.target.isSome && c.current.isNone then .error .targetWithoutCurrent else .ok ()

def requireSelectors (c : Config) : Except ConfigDefect Unit :=
  (Selector.validateAll c.selectors).mapError .selector

/-- Reports the first rule that the settings break. -/
def validate (c : Config) : Except ConfigDefect Unit := do
  requireFormat c.output
  c.requireTime
  c.requireWorkers
  c.requireVersions
  c.requireSelectors

end Config

end Preflight
