import TaskQuery.CommandLine.Options
import TaskQuery.Limits
import TaskQuery.Number.Numeral

namespace TaskQuery.CommandLine

/-- How results are shown. -/
inductive Format where
  | table
  | json
  deriving DecidableEq

/-- What holds for all commands. -/
structure Settings where
  format : Format
  maxConditions : Option Int
  maxDepth : Option Int

def Settings.limits? (s : Settings) : Option Limits :=
  if s.maxConditions.isNone ∧ s.maxDepth.isNone then none
  else some (Limits.standard.override { maxConditions := s.maxConditions, maxDepth := s.maxDepth })

/-- A field, an operator and a value, as given. -/
structure Comparison where
  field : String
  operator : String
  value : String

/-- The commands. -/
inductive Command where
  | parse (text : String)
  | validate (text : String)
  | build (comparisons : List Comparison) (byOr : Bool)
  | apply (text : String) (reference : Option String)

/-- What a command line asks for. -/
inductive Invocation where
  | help
  | version
  | run (settings : Settings) (command : Command)

def Invocation.readsInput : Invocation → Bool
  | run _ (.apply _ _) => true
  | _ => false

def generalOptions : OptionSet where
  long := [⟨"--output", 1⟩, ⟨"--json", 0⟩, ⟨"--max-conditions", 1⟩, ⟨"--max-depth", 1⟩, ⟨"--version", 0⟩, ⟨"--help", 0⟩]
  letters := [('v', "-v"), ('h', "--help")]
  interspersed := false

def commandOptions (long : List LongOption) : OptionSet where
  long := long ++ [⟨"--help", 0⟩]
  letters := [('h', "--help")]
  interspersed := true

def askedFirst? (a : Arguments) : Option Invocation :=
  (a.given.find? fun given => given.name = "--help" ∨ given.name = "--version").map fun given =>
    if given.name = "--version" then .version else .help

/-- Reads a bound, which is at least one. -/
def readBound (text : Option String) : Option (Option Int) :=
  match text with
  | none => some none
  | some s =>
    match readInteger? s with
    | some n => if 1 ≤ n then some (some n) else none
    | none => none

def readFormat (text : Option String) : Option Format :=
  match text with
  | none => some .table
  | some s => if s = "table" then some .table else if s = "json" then some .json else none

def readSettings (a : Arguments) : Option Settings := do
  let format ← readFormat (a.last? "--output")
  let maxConditions ← readBound (a.last? "--max-conditions")
  let maxDepth ← readBound (a.last? "--max-depth")
  some { format := if a.has "--json" then .json else format, maxConditions, maxDepth }

def orHelp (a : Arguments) (command : Option Command) (settings : Settings) : Option Invocation :=
  match askedFirst? a with
  | some invocation => some invocation
  | none => command.map (.run settings)

def single? : List String → Option String
  | [text] => some text
  | _ => none

def comparison? : List String → Option Comparison
  | [field, operator, value] => some ⟨field, operator, value⟩
  | _ => none

/-- The command that puts a filter together; there is at least one comparison and no positional argument. -/
def buildCommand (a : Arguments) : Option Command :=
  let comparisons := (a.all "--where").filterMap comparison?
  if comparisons.isEmpty || !a.positional.isEmpty then none else some (.build comparisons (a.has "--or"))

/-- The command that runs a filter; tasks come from the standard input. -/
def applyCommand (a : Arguments) : Option Command :=
  if (a.last? "--tasks").getD "-" = "-" then (single? a.positional).map (.apply · (a.last? "--now")) else none

def readCommand (settings : Settings) (name : String) (args : List String) : Option Invocation :=
  if name = "parse" then
    ((commandOptions []).read args).bind fun a => orHelp a ((single? a.positional).map .parse) settings
  else if name = "validate" then
    ((commandOptions []).read args).bind fun a => orHelp a ((single? a.positional).map .validate) settings
  else if name = "build" then
    ((commandOptions [⟨"--where", 3⟩, ⟨"--or", 0⟩]).read args).bind fun a => orHelp a (buildCommand a) settings
  else if name = "apply" then
    ((commandOptions [⟨"--tasks", 1⟩, ⟨"--now", 1⟩]).read args).bind fun a => orHelp a (applyCommand a) settings
  else (generalOptions.read (name :: args)).bind askedFirst?

/-- Reads a command line; `none` is one that asks for nothing known. Options for all commands come before the command; help
and version win over everything but an option that cannot be read, and without a command there is help. -/
def Invocation.read (args : List String) : Option Invocation := do
  let a ← generalOptions.read args
  match askedFirst? a with
  | some invocation => some invocation
  | none =>
    let settings ← readSettings a
    match a.positional with
    | [] => some .help
    | name :: rest => readCommand settings name rest

end TaskQuery.CommandLine
