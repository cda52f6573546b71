import Preflight.Report.Listing
import Preflight.Text.Padded

/-!
# Tables

The report for readers: a row for each condition, then what was recorded beside the results, and a
summary over the rows.
-/

namespace Preflight

namespace Table

structure Row where
  glyph : String
  group : String
  kind : String
  name : String
  severity : String
  message : String
  description : String
  deriving DecidableEq, Repr

def glyphOf : ConditionStatus → String
  | .met => "✓"
  | .violated => "✗"
  | .undetermined => "⚠"

/-- The glyph of a condition, for any label that spells a status. -/
def glyph (label : StatusLabel) : Except Fault String :=
  match label.spelled? with
  | some status => .ok (glyphOf status)
  | none => .error (.missingKey (Text.quoted label.text))

def row (r : Result) (c : Condition) : Except Fault Row := do
  let severity := ((Severity.ofConditions [c]).map Severity.name).getD ""
  return ⟨← glyph c.status, r.group, r.kind, r.name, severity, c.message, r.description⟩

/-- The rows of some executions, one for each condition. -/
def rows (executions : List Execution) : Except Fault (List Row) := do
  let groups ← executions.mapM fun e => e.result.conditions.mapM (row e.result)
  return groups.flatten

def headers (describe : Bool) : List String :=
  ["STATUS", "GROUP", "KIND", "CHECK", "SEVERITY", "MESSAGE"] ++
    (if describe then ["DESCRIPTION"] else [])

def Row.cells (describe : Bool) (row : Row) : List String :=
  [row.glyph, row.group, row.kind, row.name, row.severity, row.message] ++
    (if describe then [row.description] else [])

/-! ## Columns -/

/-- The width of each column: that of its widest cell. -/
def widths (start : List Nat) (table : List (List String)) : List Nat :=
  table.foldl (fun found cells => List.zipWith max found (cells.map String.length)) start

/-- A line of cells, padded to the widths, without blanks at its end. -/
def line (columns : List Nat) (cells : List String) : String :=
  Text.stripRight (String.intercalate "  " (List.zipWith Text.padRight columns cells))

/-- The lines of rows, with an empty line where the group changes. -/
def rowLines (columns : List Nat) (describe : Bool) (group : Option String) :
    List Row → List String
  | [] => []
  | row :: rest =>
    let gap := match group with
      | none => []
      | some before => if row.group = before then [] else [""]
    gap ++ line columns (row.cells describe) :: rowLines columns describe (some row.group) rest

/-- The lines of a table with its headers. -/
def lines (describe : Bool) (rows : List Row) : List String :=
  if rows.isEmpty then ["No results."]
  else
    let headers := headers describe
    let columns := widths (headers.map String.length) (rows.map (Row.cells describe))
    line columns headers :: rowLines columns describe none rows

/-! ## Sections of a report -/

/-- A rule across the page. -/
def rule : String := String.ofList (List.replicate 70 '=')

/-- The mode of a run: it compares two versions, looks at one, or at none. -/
def modeLine (r : Report) : String :=
  match r.current, r.target with
  | some current, some target => s!"Mode: UPGRADE ({current.render} -> {target.render})"
  | some current, none => s!"Mode: LINT (version {current.render})"
  | none, _ => "Mode: LINT"

def header (r : Report) : List String := [rule, "CLUSTER LINT", rule, modeLine r, ""]

/-- The number of impacted objects that are listed for a result. -/
def impactedLimit : Nat := 50

def impactedSection (r : Result) : List String :=
  let total := r.impacted.length
  if total = 0 then []
  else
    let title := s!"Impacted objects for {r.group}/{r.kind}/{r.name} ({total}):"
    let listed := (r.impacted.take impactedLimit).map fun o => s!"  - {o.display}"
    let more := if total ≤ impactedLimit then []
      else [s!"  ... and {total - impactedLimit} more (use --output json for the full list)"]
    "" :: title :: listed ++ more

def skippedSection (r : Report) : List String :=
  if r.skipped.isEmpty then []
  else "" :: "Not applicable for this version pair:" :: r.skipped.map fun id => s!"  - {id}"

/-- The lines about a run that was cut short. -/
def incompleteLines (r : Report) : List String :=
  if !r.incomplete then []
  else
    s!"WARNING: run incomplete, deadline reached ({r.abandoned} invocation(s) abandoned)" ::
      (if r.abandonedChecks.isEmpty then []
        else ["WARNING: not started: " ++ String.intercalate ", " r.abandonedChecks])

def warningSection (r : Report) : List String :=
  if r.incidents.isEmpty && !r.incomplete then []
  else "" :: (r.incidents.map fun incident => s!"WARNING: {incident.message}") ++ incompleteLines r

/-- The duration in seconds, with two places, unless it is too large for a number. -/
def durationText (milliseconds : Int) : Except Fault String :=
  let negative := decide (milliseconds < 0)
  let seconds := Binary64.ofRatio negative (milliseconds.natAbs * Binary64.unitsPerOne) 1000
  if seconds.isInfinite then .error (.range .floatOfInt) else .ok seconds.renderHundredths

def summary (r : Report) (rows : List Row) : Except Fault (List String) := do
  let passed := (rows.filter (·.glyph = glyphOf .met)).length
  return ["", rule,
    s!"Summary: Total: {rows.length} | Passed: {passed} | Failed: {rows.length - passed}",
    s!"Total time: {← durationText r.durationMs}s"]

end Table

/-- How a report is rendered. -/
structure RenderOptions where
  format : String
  verbose : Bool
  describe : Bool
  minimum : MinimumSeverity

namespace Report

/-- The rows of what a threshold leaves. -/
def rows (r : Report) (minimum : MinimumSeverity) : Except Fault (List Table.Row) :=
  Table.rows (r.displayed minimum)

/-- The lines of a report as a table. -/
def tableLines (r : Report) (options : RenderOptions) : Except Fault (List String) := do
  let rows ← r.rows options.minimum
  let details := if options.verbose then
      (r.displayed options.minimum).flatMap (fun e => Table.impactedSection e.result) ++
        Table.skippedSection r
    else []
  return Table.header r ++ Table.lines options.describe rows ++ details ++
    Table.warningSection r ++ (← Table.summary r rows)

end Report

end Preflight
