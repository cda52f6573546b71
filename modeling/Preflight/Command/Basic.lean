import Preflight.Catalog
import Preflight.Command.Arguments
import Preflight.Command.Settings
import Preflight.Report.Render
import Preflight.Run.DryRun
import Preflight.Run.Execute
import Preflight.Snapshot.Load

/-!
# Commands

What the program does with a command line: what it prints, and how it ends.  Failures of the
program's own domain are printed; others are handed on.
-/

namespace Preflight.Command

structure Outcome where
  exitCode : Nat
  stdout : String
  stderr : String

namespace Outcome

/-- No finding that makes the program fail. -/
def passed : Nat := 0

/-- A finding makes the program fail, or the run was cut short. -/
def findings : Nat := 1

/-- The command line or the configuration is wrong. -/
def misused : Nat := 2

def printing (text : String) : Outcome := ⟨passed, text, ""⟩

/-- Ends with the message of a failure. -/
def failing (fault : Fault) : Outcome := ⟨misused, "", s!"Error: {fault.message}\n"⟩

end Outcome

/-- Turns the failures that a command reports into outcomes. -/
def reporting {α : Type} (isReported : Fault → Bool) (found : Except Fault α)
    (next : α → Except Fault Outcome) : Except Fault Outcome :=
  match found with
  | .ok a => next a
  | .error fault => if isReported fault then .ok (.failing fault) else .error fault

/-- Failures that are the user's: of the domain, or of values. -/
def isUsersFault (fault : Fault) : Bool := fault.isDomainFault || fault.isValueFault

/-! ## Running -/

/-- The line that is logged for a failing check. -/
def warningLine (message : String) : String := s!"WARNING cluster_lint.executor: {message}\n"

def warningLines (incidents : List Run.Incident) : String :=
  String.join (incidents.map fun incident => warningLine incident.warning)

def requestOf (c : Config) : Run.Request :=
  ⟨c.selectors, c.category, c.current, c.target, some c.timeout⟩

def renderOptionsOf (c : Config) : RenderOptions :=
  ⟨c.output, c.verbose, c.showDescription, c.minimum⟩

def policyOf (c : Config) : Report.FailurePolicy :=
  ⟨c.minimum, c.failOnCritical, c.failOnWarning⟩

/-- How a run ends by its report. -/
def exitCodeOf (c : Config) (r : Report) : Nat :=
  if r.fails (policyOf c) then Outcome.findings else Outcome.passed

/-- What a run starts from: its configuration and the objects of the cluster. -/
def prepareRun (files : Files) (settings : List Setting) : Except Fault (Config × Snapshot) := do
  let c ← effectiveConfig files settings
  let place := lastOf snapshotPath? settings
  requireGiven "snapshot" place
  let snapshot ← Snapshot.load files (Path.ofString (place.join.getD ""))
  return (c, snapshot)

/-- Runs the catalogue against a snapshot. -/
def executeCatalog (clock : Clock) (c : Config) (snapshot : Snapshot) : Except Fault Report := do
  let registry ← Catalog.registry
  let action := Run.execute registry (.ofSnapshot snapshot) (requestOf c)
  ((Action.outcome action).run clock).1.map Run.Outcome.report

def runChecks (files : Files) (clock : Clock) (settings : List Setting) : Except Fault Outcome :=
  reporting isUsersFault (prepareRun files settings) fun (c, snapshot) =>
    reporting Fault.isDomainFault (executeCatalog clock c snapshot) fun report => do
      let text ← report.render (renderOptionsOf c)
      return ⟨exitCodeOf c report, text, warningLines report.incidents⟩

/-! ## Planning -/

def planOutline (plan : Run.DryRun) : Outline :=
  .fields [("applicable", .texts plan.applicable), ("skipped", .texts plan.skipped),
    ("errors", .texts plan.failed)]

def planLines (plan : Run.DryRun) : List String :=
  [Table.rule, "CLUSTER LINT PLAN", Table.rule, ""] ++
    plan.applicable.map (fun id => s!"  [RUN ] {id}") ++
    plan.skipped.map (fun id => s!"  [SKIP] {id}") ++
    plan.failed.map (fun id => s!"  [ERR ] {id}") ++
    ["", s!"Applicable: {plan.applicable.length}  Skipped: {plan.skipped.length}"]

def findPlan (files : Files) (clock : Clock) (settings : List Setting) :
    Except Fault Run.DryRun := do
  let c ← effectiveConfig files settings
  let registry ← Catalog.registry
  let action := Run.dryRun registry c.selectors c.category c.current c.target
  ((Action.outcome action).run clock).1

def planChecks (files : Files) (clock : Clock) (settings : List Setting) :
    Except Fault Outcome :=
  reporting isUsersFault (findPlan files clock settings) fun plan =>
    let text := if settings.any asksJson then Json.write (planOutline plan) ++ "\n"
      else Report.unlines (planLines plan)
    .ok ⟨Outcome.passed, text, warningLines plan.incidents⟩

/-! ## Listing -/

def categoryName (check : Check) : String :=
  match check.category with
  | .known category => category.name
  | .other text => text

def checkOutline (check : Check) : Outline :=
  .fields [("id", .text check.id), ("name", .text check.name),
    ("category", .text (categoryName check)), ("description", .text check.description)]

/-- A check on one line, identity and category in columns. -/
def checkLine (check : Check) : String :=
  let id := Text.padRight 45 check.id
  let category := Text.padRight 10 (categoryName check)
  s!"  {id} [{category}] {check.name}"

def checkLines (checks : List Check) : List String :=
  if checks.isEmpty then ["No checks match the selection."]
  else "Available checks:" :: checks.map checkLine

def findChecks (files : Files) (settings : List Setting) : Except Fault (List Check) := do
  let c ← effectiveConfig files settings
  let registry ← Catalog.registry
  Run.resolve registry c.selectors c.category

def listChecks (files : Files) (settings : List Setting) : Except Fault Outcome :=
  reporting isUsersFault (findChecks files settings) fun checks =>
    .ok (.printing (if settings.any asksJson then
        Json.write (.list (checks.map checkOutline)) ++ "\n"
      else Report.unlines (checkLines checks)))

/-! ## The program -/

def usageLine (command : Option CommandName) : String :=
  let tail := match command with
    | none => "COMMAND ..."
    | some _ => ""
  s!"usage: {commandTitle command} [options] {tail}\n"

def optionLine (o : OptionSpec) : String :=
  let names := Text.padRight 24 (String.intercalate ", " o.names)
  s!"  {names} {o.help}"

def commandLine (command : CommandName) : String :=
  let name := Text.padRight 24 command.name
  s!"  {name} {command.help}"

def helpText (command : Option CommandName) : String :=
  let lines := match command with
    | none => "" :: "commands:" :: CommandName.all.map commandLine ++
        "" :: "options:" :: commonOptions.map optionLine
    | some command => "" :: "options:" :: command.options.map optionLine
  usageLine command ++ Report.unlines lines

/-- Ends with the usage of a command and what was wrong with the arguments. -/
def refuse (command : Option CommandName) (refusal : Refusal) : Outcome :=
  ⟨Outcome.misused, "",
    usageLine command ++ s!"{commandTitle command}: error: {refusal.message}\n"⟩

def perform (files : Files) (clock : Clock) (name : CommandName) (settings : List Setting) :
    Except Fault Outcome :=
  match name with
  | .run => runChecks files clock settings
  | .plan => planChecks files clock settings
  | .list => listChecks files settings

/-- What the program does with its arguments. -/
def respond (files : Files) (clock : Clock) (arguments : List String) : Except Fault Outcome :=
  match Invocation.ofArguments arguments with
  | .help command => .ok (.printing (helpText command))
  | .version => .ok (.printing s!"{programName} {programVersion}\n")
  | .refused command refusal => .ok (refuse command refusal)
  | .command name settings => perform files clock name settings

/-- The files that the program may have to read for its arguments. -/
def pathsFor (workingDirectory : Path) (arguments : List String) : List Path :=
  let named := match Invocation.ofArguments arguments with
    | .command _ settings =>
      (settings.filterMap fun setting => (configPath? setting).join) ++
        settings.filterMap fun setting => (snapshotPath? setting).join
    | _ => []
  named.map Path.ofString ++ Config.fileNames.map workingDirectory.child

end Preflight.Command
