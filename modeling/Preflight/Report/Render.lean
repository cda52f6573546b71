import Preflight.Json.Writer
import Preflight.Path
import Preflight.Report.Table
import Preflight.Yaml.Writer

/-!
# Rendering reports

A report as a table, as JSON or as YAML.
-/

namespace Preflight.Report

/-- The text of lines, each of them ended. -/
def unlines (lines : List String) : String := String.join (lines.map (· ++ "\n"))

/-- The whole text of a report in the format asked for. -/
def render (r : Report) (options : RenderOptions) : Except Fault String :=
  if options.format = "table" then (r.tableLines options).map unlines
  else if options.format = "json" then
    (r.listing options.minimum).map fun listing => Json.write listing.outline ++ "\n"
  else if options.format = "yaml" then
    (r.listing options.minimum).map fun listing => Yaml.write listing.outline
  else .error (.value (.outputFormat options.format))

/-- The text that is written to a file: YAML if asked for, JSON otherwise. -/
def fileText (r : Report) (format : String) : Except Fault String :=
  (r.listing .all).map fun listing =>
    if format = "yaml" then Yaml.write listing.outline else Json.write listing.outline

/-- A place can be written to if its path is a text without nulls and not too long. -/
def requirePlace (path : Path) : Except Fault Unit :=
  if path.hasNull then .error (.value .nullInPath)
  else if path.isLong || path.parts.any Path.isLongName then .error (.nameTooLong path.text)
  else .ok ()

/-- The file that a report is written to, with its text.  Its directory is made before the text.  A
path without a last name leads to a directory. -/
def fileAt (r : Report) (place format : String) : Except Fault (Path × String) := do
  let path := Path.ofString place
  requirePlace path.parent
  let text ← r.fileText format
  requirePlace path
  if path.parts.isEmpty || path.name = ".." then throw (.isDirectory path.text)
  return (path, text)

/-- Which findings make a run fail. -/
structure FailurePolicy where
  minimum : MinimumSeverity
  failOnCritical : Bool
  failOnWarning : Bool

/-- Whether a run fails: it was cut short, or a finding that is shown is one that fails it. -/
def fails (r : Report) (policy : FailurePolicy) : Bool :=
  let found := (shown policy.minimum r.executions).map Execution.severity
  r.incomplete || (policy.failOnCritical && found.contains (some .critical)) ||
    (policy.failOnWarning && found.contains (some .warning))

end Preflight.Report
