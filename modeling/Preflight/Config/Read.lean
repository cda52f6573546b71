import Preflight.Config.Basic
import Preflight.Config.Field
import Preflight.Files
import Preflight.Yaml.Read

/-!
# Reading configurations

A configuration is a mapping with the known keys, each of them optional.  Values of the wrong kind
are defects of the configuration; the fields are read in the order in which they are declared, so
the first wrong one is reported.
-/

namespace Preflight.Config

def keys : List String :=
  ["checks", "category", "output", "min_severity", "fail_on_critical", "fail_on_warning",
   "timeout", "max_workers", "verbose", "show_description", "current_version", "target_version"]

/-- The keys that are not known, each once; all of them have to be texts. -/
def unknownKeys (entries : List (Document × Document)) : Except Fault (List String) :=
  let unknown := entries.filterMap fun (key, _) =>
    match key with
    | .text s => if keys.contains s then none else some (some s)
    | _ => some none
  match unknown.mapM id with
  | some found => .ok found
  | none => .error (.kind .keysNotText)

def sortTexts (found : List String) : List String := found.mergeSort fun a b => !decide (b < a)

def requireKnownKeys (entries : List (Document × Document)) : Except Fault Unit := do
  let unknown ← unknownKeys entries
  if unknown.isEmpty then return else throw (.config (.unknownKeys (sortTexts unknown)))

/-- The settings of a mapping, the output format as it stands there. -/
def fields (entries : List (Document × Document)) : Except Fault (Document × Config) := do
  let entry (key : String) (fallback : Document) := (Document.field? entries key).getD fallback
  let selectors ← Field.selectors (entry "checks" (.list [.text Selector.wildcard]))
  let category ← Field.category (entry "category" .null)
  let minimum ← Field.minimum (entry "min_severity" .null)
  let failOnCritical ← Field.flag "fail_on_critical" (entry "fail_on_critical" (.bool true))
  let failOnWarning ← Field.flag "fail_on_warning" (entry "fail_on_warning" (.bool false))
  let timeout ← Field.seconds (entry "timeout" (.float (.ofInt 300)))
  let maxWorkers ← Field.whole (entry "max_workers" (.int 1))
  let verbose ← Field.flag "verbose" (entry "verbose" (.bool false))
  let describe ← Field.flag "show_description" (entry "show_description" (.bool false))
  let current ← (Field.version (entry "current_version" .null)).mapError .value
  let target ← (Field.version (entry "target_version" .null)).mapError .value
  return (entry "output" (.text standard.output),
    { selectors := selectors
      category := category
      output := standard.output
      minimum := minimum
      failOnCritical := failOnCritical
      failOnWarning := failOnWarning
      timeout := .exact timeout
      maxWorkers := maxWorkers
      verbose := verbose
      showDescription := describe
      current := current
      target := target })

/-- The settings of a mapping once the output format is known to be one. -/
def withOutput (output : Document) (c : Config) : Except ConfigDefect Config :=
  match output with
  | .text s => do
    let c := { c with output := s }
    c.validate
    return c
  | d => do throw (.outputFormat (← d.plain.mapError .value))

/-- Wrong values are reported as defects of the configuration. -/
def asDefect : Fault → Fault
  | .value defect => .config (.value defect)
  | .kind defect => .config (.kind defect)
  | fault => fault

/-- The configuration of a mapping. -/
def ofEntries (entries : List (Document × Document)) : Except Fault Config := do
  requireKnownKeys entries
  let (output, settings) ← (fields entries).mapError asDefect
  (withOutput output settings).mapError .config

/-! ## Files -/

/-- The names under which a configuration is looked for. -/
def fileNames : List String :=
  ["cluster-lint.yaml", "cluster-lint.yml", ".cluster-lint.yaml", ".cluster-lint.yml"]

/-- A defect with the file in which it was found. -/
def inFile (path : Path) : Fault → Fault
  | .config defect => .config (.inFile path.text defect)
  | fault => fault

/-- The configuration in a text; an empty document leaves everything as it is by default. -/
def ofText (path : Path) (text : String) : Except Fault Config :=
  match Yaml.readSingle text with
  | .error .malformed => .error (.config (.unparsable path.text))
  | .error (.unusable fault) => .error fault
  | .ok .null => .ok standard
  | .ok d =>
    match d.entries? with
    | some entries => (ofEntries entries).mapError (inFile path)
    | none => .error (.config (.notMapping path.text))

/-- The configuration in a file. -/
def load (files : Files) (path : Path) : Except Fault Config := do
  match ← files.entryAt path with
  | none => throw (.config (.fileNotFound path.text))
  | some .directory => throw (.isDirectory path.text)
  | some (.file content) => ofText path (Files.textOf content)

/-- The first of some paths at which a file stands. -/
def firstFile (files : Files) : List Path → Except Fault (Option Path)
  | [] => .ok none
  | path :: rest => do
    match ← files.entryAt path with
    | some (.file _) => return some path
    | _ => firstFile files rest

/-- The first known file in a directory, the working directory unless another one is named. -/
def find (files : Files) (start : Option String) : Except Fault (Option Path) :=
  let directory := match start with
    | none => files.workingDirectory
    | some s => if s = "" then files.workingDirectory else Path.ofString s
  firstFile files (fileNames.map directory.child)

end Preflight.Config
