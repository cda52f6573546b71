import Preflight.Command.Options
import Preflight.Text.Split

/-!
# Reading arguments

Arguments are options, the values of options, and words; the first word in front of which no option
waits for a value names a command.  Long options may be shortened while one option alone fits, and
short flags may be joined.  After two hyphens nothing is an option any more.
-/

namespace Preflight.Command

/-- Why arguments were refused. -/
inductive Refusal where
  | ambiguous (argument : String) (candidates : List String)
  | valueMissing (label : String)
  | valueIgnored (label value : String)
  | badValue (label : String) (refusal : ValueRefusal)
  | required (label : String)
  | unrecognized (arguments : List String)
  deriving Repr

def Refusal.message : Refusal → String
  | ambiguous argument candidates =>
    s!"ambiguous option: {argument} could match " ++ String.intercalate ", " candidates
  | valueMissing label => s!"argument {label}: expected one argument"
  | valueIgnored label value =>
    s!"argument {label}: ignored explicit argument {Text.quoted value}"
  | badValue label refusal => s!"argument {label}: {refusal.message}"
  | required label => s!"the following arguments are required: {label}"
  | unrecognized arguments => "unrecognized arguments: " ++ String.intercalate " " arguments

/-! ## Kinds of arguments -/

/-- An option as it was recognised: under one of its names, perhaps with a value joined to it. -/
structure Recognized where
  option : OptionSpec
  name : String
  joined : Option String

inductive ArgumentKind where
  | word
  | separator
  | option (found : Recognized)
  | unknownOption

/-- Every name of every option, in order. -/
def namedOptions (options : List OptionSpec) : List (String × OptionSpec) :=
  options.flatMap fun o => o.names.map (·, o)

/-- The text in front of the first equals sign, and the text behind it. -/
def splitEquals (cs : List Char) : String × Option String :=
  match cs.dropWhile (· ≠ '=') with
  | [] => (String.ofList cs, none)
  | _ :: rest => (String.ofList (cs.takeWhile (· ≠ '=')), some (String.ofList rest))

/-- The options that a long argument may be short for. -/
def longCandidates (options : List OptionSpec) (argument : String) : List Recognized :=
  let (start, value) := splitEquals argument.toList
  (namedOptions options).filterMap fun (name, o) =>
    if start.toList.isPrefixOf name.toList then some ⟨o, name, value⟩ else none

/-- The options that an argument with one hyphen may mean: a short name with more behind it, or the
start of a name. -/
def shortCandidates (options : List OptionSpec) (argument : String) : List Recognized :=
  let cs := argument.toList
  (namedOptions options).filterMap fun (name, o) =>
    if name.toList = cs.take 2 then some ⟨o, name, some (String.ofList (cs.drop 2))⟩
    else if cs.isPrefixOf name.toList then some ⟨o, name, none⟩
    else none

def candidates (options : List OptionSpec) (argument : String) : List Recognized :=
  if ['-', '-'].isPrefixOf argument.toList then longCandidates options argument
  else shortCandidates options argument

/-- Whether a text after a hyphen is a number. -/
def isNumeral (cs : List Char) : Bool :=
  let cs := if cs.getLast? = some '\n' then cs.dropLast else cs
  let isDigit (c : Char) := (Text.digitValue? c).isSome
  let fraction := cs.dropWhile isDigit
  match fraction with
  | [] => !cs.isEmpty
  | '.' :: rest => !rest.isEmpty && rest.all isDigit
  | _ => false

/-- The option with this very name. -/
def named? (options : List OptionSpec) (name : String) : Option OptionSpec :=
  (namedOptions options).lookup name

/-- What an argument that starts with a hyphen is when no option has its name: short for an option,
a word that only looks like one, or unknown. -/
def abbreviated (options : List OptionSpec) (argument : String) : Except Refusal ArgumentKind :=
  match candidates options argument with
  | [found] => .ok (.option found)
  | [] =>
    let cs := argument.toList
    if isNumeral (cs.drop 1) || cs.contains ' ' then .ok .word else .ok .unknownOption
  | several => .error (.ambiguous argument (several.map Recognized.name))

def classify (options : List OptionSpec) (argument : String) : Except Refusal ArgumentKind :=
  match argument.toList with
  | '-' :: rest =>
    match named? options argument with
    | some o => .ok (.option ⟨o, argument, none⟩)
    | none =>
      if rest.isEmpty then .ok .word
      else
        match splitEquals argument.toList with
        | (name, some value) =>
          match named? options name with
          | some o => .ok (.option ⟨o, name, some value⟩)
          | none => abbreviated options argument
        | (_, none) => abbreviated options argument
  | _ => .ok .word

/-- An argument with its kind. -/
structure Argument where
  text : String
  kind : ArgumentKind

/-- The kinds of all arguments.  Behind the first separator there are only words. -/
def classifyAll (options : List OptionSpec) : List String → Except Refusal (List Argument)
  | [] => .ok []
  | argument :: rest =>
    if argument = "--" then
      .ok (⟨argument, .separator⟩ :: rest.map fun word => ⟨word, .word⟩)
    else
      match classify options argument with
      | .error refusal => .error refusal
      | .ok kind => (classifyAll options rest).map (⟨argument, kind⟩ :: ·)

/-! ## Options with their values -/

/-- What an option argument amounts to: what it sets in order, and the arguments behind it and its
value. -/
structure Taken where
  readers : List (Except Refusal Setting)
  rest : List Argument

/-- What stands in place of a value to withhold it. -/
def withholding : String := "--"

/-- What an option sets by its value. -/
def readValue (o : OptionSpec) (read : String → Except ValueRefusal Setting) (withheld : Setting)
    (value : String) : Except Refusal Setting :=
  if value = withholding then .ok withheld else (read value).mapError (.badValue o.label)

/-- The value of an option is the next argument, which has to be a word. -/
def takeNext (o : OptionSpec) (read : String → Except ValueRefusal Setting) (withheld : Setting) :
    List Argument → Except Refusal Taken
  | ⟨value, .word⟩ :: rest => .ok ⟨[readValue o read withheld value], rest⟩
  | _ => .error (.valueMissing o.label)

/-- Takes a short option with the characters joined to it: the value of an option that takes one,
and further flags behind a flag. -/
def takeShort (options : List OptionSpec) (rest : List Argument) (o : OptionSpec) :
    List Char → Except Refusal Taken
  | [] =>
    match o.kind with
    | .flag setting => .ok ⟨[.ok setting], rest⟩
    | .value read withheld => takeNext o read withheld rest
  | c :: more =>
    match o.kind with
    | .value read withheld =>
      .ok ⟨[readValue o read withheld (String.ofList (c :: more))], rest⟩
    | .flag setting =>
      match named? options (String.ofList ['-', c]) with
      | none => .error (.valueIgnored o.label (String.ofList (c :: more)))
      | some next =>
        (takeShort options rest next more).map fun taken =>
          { taken with readers := .ok setting :: taken.readers }

/-- Whether a name has a single hyphen. -/
def isShortName (name : String) : Bool := !(['-', '-'].isPrefixOf name.toList)

/-- Takes an option with the value that is joined to its name. -/
def takeWith (options : List OptionSpec) (rest : List Argument) (found : Recognized)
    (value : String) : Except Refusal Taken :=
  let o := found.option
  match o.kind with
  | .value read withheld => .ok ⟨[readValue o read withheld value], rest⟩
  | .flag _ =>
    if isShortName found.name && value != "" then takeShort options rest o value.toList
    else .error (.valueIgnored o.label value)

/-- Takes an option with its value from in front of the other arguments. -/
def takeOption (options : List OptionSpec) (found : Recognized) (rest : List Argument) :
    Except Refusal Taken :=
  match found.joined with
  | none => takeShort options rest found.option []
  | some value => takeWith options rest found value

/-! ## All arguments -/

/-- The settings of a row of arguments, and the arguments that are none. -/
structure Arguments where
  settings : List Setting
  extra : List String

/-- How reading arguments ends. -/
inductive Reading where
  | arguments (found : Arguments)
  | help
  | version
  | refused (refusal : Refusal)
  /-- A word was met, with all that follows it. -/
  | word (word : String) (rest : List String) (extra : List String)

/-- Adds what an option sets.  Help and version end the reading, and so does a refused value. -/
def addSettings : List (Except Refusal Setting) → Reading → Reading
  | [], later => later
  | .error refusal :: _, _ => .refused refusal
  | .ok .help :: _, _ => .help
  | .ok .version :: _, _ => .version
  | .ok setting :: rest, later =>
    match addSettings rest later with
    | .arguments found => .arguments { found with settings := setting :: found.settings }
    | ended => ended

def addExtra (extra : List String) : Reading → Reading
  | .arguments found => .arguments { found with extra := extra ++ found.extra }
  | .word word rest later => .word word rest (extra ++ later)
  | ended => ended

/-- Reads arguments in order.  `stopsAtWord` says that a word ends the reading; otherwise words are
left over. -/
def readFrom (options : List OptionSpec) (stopsAtWord : Bool) : Nat → List Argument → Reading
  | 0, _ => .arguments ⟨[], []⟩
  | _, [] => .arguments ⟨[], []⟩
  | fuel + 1, ⟨text, kind⟩ :: rest =>
    match kind with
    | .word =>
      if stopsAtWord then .word text (rest.map Argument.text) []
      else addExtra [text] (readFrom options stopsAtWord fuel rest)
    | .separator =>
      if stopsAtWord && !rest.isEmpty then .word text (rest.map Argument.text) []
      else addExtra [text] (readFrom options stopsAtWord fuel rest)
    | .unknownOption => addExtra [text] (readFrom options stopsAtWord fuel rest)
    | .option found =>
      match takeOption options found rest with
      | .error refusal => .refused refusal
      | .ok taken =>
        addSettings taken.readers (readFrom options stopsAtWord fuel taken.rest)

def read (options : List OptionSpec) (stopsAtWord : Bool) (arguments : List String) : Reading :=
  match classifyAll options arguments with
  | .error refusal => .refused refusal
  | .ok found => readFrom options stopsAtWord (found.length + 1) found

/-! ## The command line -/

/-- What a command line asks for. -/
inductive Invocation where
  | command (name : CommandName) (settings : List Setting)
  | help (command : Option CommandName)
  | version
  | refused (command : Option CommandName) (refusal : Refusal)

/-- The option that a command cannot do without. -/
def missing? (name : CommandName) (settings : List Setting) : Option Refusal :=
  let isSnapshot : Setting → Bool
    | .snapshot _ => true
    | _ => false
  if name = .run && !settings.any isSnapshot then some (.required "--snapshot/-s") else none

/-- Reads the arguments of a command; `before` are the arguments left over in front of it. -/
def readCommand (name : CommandName) (arguments before : List String) : Invocation :=
  match read name.options false arguments with
  | .help => .help (some name)
  | .version => .version
  | .refused refusal => .refused (some name) refusal
  | .word _ _ _ => .refused (some name) (.unrecognized arguments)
  | .arguments found =>
    match missing? name found.settings with
    | some refusal => .refused (some name) refusal
    | none =>
      let extra := before ++ found.extra
      if extra.isEmpty then .command name found.settings
      else .refused none (.unrecognized extra)

/-- Reads a command line.  Without a command it asks for help. -/
def Invocation.ofArguments (arguments : List String) : Invocation :=
  match read commonOptions true arguments with
  | .help => .help none
  | .version => .version
  | .refused refusal => .refused none refusal
  | .arguments found =>
    if found.extra.isEmpty then .help none else .refused none (.unrecognized found.extra)
  | .word word rest before =>
    match CommandName.ofName? word with
    | some name => readCommand name rest before
    | none =>
      .refused none (.badValue "command" (.notOffered word (CommandName.all.map CommandName.name)))

end Preflight.Command
