import TaskQuery.CommandLine.Invocation
import TaskQuery.Filter.Draft
import TaskQuery.Filter.Wire
import TaskQuery.Json.Reader
import TaskQuery.Json.Writer
import TaskQuery.Query.Run
import TaskQuery.Record.Task
import TaskQuery.Report.Panel
import TaskQuery.Report.Table

namespace TaskQuery.CommandLine

/-- The answer to a command line. Tables go to the output and errors beside it; in JSON, errors go to the output too. -/
structure Reply where
  exitCode : Nat
  output : String
  errors : String
  deriving DecidableEq

namespace Reply

def success (output : String) : Reply := ⟨0, output, ""⟩

def misuse : Reply := ⟨2, "", "Usage: taskfilter [OPTIONS] COMMAND [ARGS]...\n"⟩

/-- The answer, if it can be written: half a surrogate pair cannot. -/
def written (r : Reply) : Except Fault Reply :=
  if Text.hasHalf r.output then .error .unwritable else .ok r

/-- An answer with text before its errors. -/
def afterLog (log : String) (r : Reply) : Reply :=
  { r with errors := log ++ r.errors }

end Reply

def versionLine : String := "taskfilter, version 0.1.0\n"

def helpScreen : String :=
  "Usage: taskfilter [OPTIONS] COMMAND [ARGS]...\n\n" ++
  "Commands:\n" ++
  "  parse FILTER      Show the groups and conditions of a filter.\n" ++
  "  validate FILTER   Check a filter against the limits.\n" ++
  "  build             Put a filter together: --where FIELD OP VALUE ... [--or]\n" ++
  "  apply FILTER      Select tasks from a JSON array: [--tasks -] [--now DATE]\n\n" ++
  "Options:\n" ++
  "  --output [table|json]  --json  -v  --max-conditions N  --max-depth N  --version  -h, --help\n"

/-- An answer in JSON. -/
def jsonReply (exitCode : Nat) (v : Value) : Except Fault Reply :=
  (Json.write v).map fun text => ⟨exitCode, text ++ "\n", ""⟩

def textList (texts : List String) : Value :=
  .list (texts.map Value.str)

/-- What is wrong with a filter, for the reader. -/
inductive FilterError where
  | invalid (errors : List String)
  | malformed (text : String) (e : SyntaxError)

namespace FilterError

def toValue : FilterError → Value
  | invalid errors => .dict [
      ("ok", .bool false),
      ("error", .dict [
        ("type", .str "validation_error"),
        ("message", .str (Verdict.summary errors)),
        ("details", .dict [("errors", textList errors)])])]
  | malformed text e => .dict [
      ("ok", .bool false),
      ("error", .dict [
        ("type", .str "parse_error"),
        ("message", .str e.message),
        ("details", .dict [
          ("position", .int e.position),
          ("context", .ofOption .str (e.excerpt? text))])])]

def listed (errors : List String) : String :=
  String.join (errors.map fun e => Report.plain ("  - " ++ e))

def toText : FilterError → String
  | invalid errors => Report.plain "Validation failed:" ++ listed errors
  | malformed text e =>
    Report.plain ("Parse error: " ++ e.message) ++
      match e.excerpt? text with
      | some excerpt => Report.panel excerpt
      | none => ""

def reply (format : Format) (e : FilterError) : Except Fault Reply :=
  match format with
  | .json => jsonReply 1 e.toValue
  | .table => .ok ⟨1, "", e.toText⟩

end FilterError

/-- The rows of a group of conditions with a number; all but the first show how they are joined. -/
def groupRows (number : Nat) (g : Group Condition) : Except Fault (List (List String)) :=
  g.conditions.zipIdx.mapM fun (c, index) => do
    let value ← c.operand.written c.field.kind
    return [toString number, if index = 0 then "" else g.joiner.symbol, c.field.name, c.operator.symbol, value]

def filterTable (e : Filter) : Except Fault String := do
  let rows ← e.groups.zipIdx.mapM fun (g, index) => groupRows (index + 1) g
  return Report.Table.draw ⟨["Group", "Join", "Field", "Operator", "Value"], rows.flatten⟩ ++
    if 1 < e.groups.length then Report.plain ("Groups joined by " ++ e.joiner.symbol) else ""

def parseText (format : Format) (text : String) : Except Fault Reply :=
  match Check.textProblem? maxFilterLength (.str text) with
  | .error fault => .error fault
  | .ok (some problem) => FilterError.reply format (.invalid [problem.message])
  | .ok none =>
    match Filter.read text with
    | .error (.malformed e) => FilterError.reply format (.malformed text e)
    | .error (.tooManyDigits count) => .error (.tooManyDigits count)
    | .ok e =>
      match format with
      | .json => jsonReply 0 e.toValue
      | .table => (filterTable e).map Reply.success

def verdictValue (v : Verdict) : Value :=
  .dict [("valid", .bool v.isValid), ("errors", textList v.errors), ("warnings", textList v.advice)]

def validateText (settings : Settings) (now : Timestamp) (text : String) : Except Fault Reply := do
  let examination ← Query.examine settings.limits? now (.str text)
  let v := examination.verdict
  let exitCode := if v.isValid then 0 else 1
  match settings.format with
  | .json => jsonReply exitCode (verdictValue v)
  | .table =>
    let output :=
      if v.isValid then Report.plain "Valid filter" else Report.plain "Invalid filter:" ++ FilterError.listed v.errors
    return ⟨exitCode, output, String.join (v.advice.map fun w => Report.plain ("Warning: " ++ w))⟩

/-- The most levels of lists and objects in JSON. -/
def jsonLevels : Nat := 965

/-- The value that an argument stands for: in JSON if it can be, and otherwise the text itself. -/
def argumentValue (text : String) : Except Fault Value :=
  match Json.read jsonLevels text with
  | .ok v => .ok v
  | .error .malformed => .ok (.str text)
  | .error .tooDeep => .error .tooDeep

/-- Adds comparisons to a draft, each behind *or* if it is asked for. -/
def addComparisons (byOr : Bool) (d : Draft) : List Comparison → Except DraftError Draft
  | [] => .ok d
  | c :: cs => do
    let d ← if byOr ∧ d.size ≠ 0 then d.joinByOr else .ok d
    let v ← (argumentValue c.value).mapError DraftError.fault
    let d ← d.compare c.field (.str c.operator) v
    addComparisons byOr d cs

def buildText (settings : Settings) (now : Timestamp) (comparisons : List Comparison) (byOr : Bool) :
    Except Fault Reply :=
  match addComparisons byOr .empty comparisons with
  | .error (.fault (.tooManyDigits _)) | .error (.fault .integerTooLong) => .ok .misuse
  | .error (.fault f) => .error f
  | .error _ => .ok .misuse
  | .ok d => do
    let v ← Check.filterVerdict (settings.limits?.getD .standard) now d.build
    if v.isValid then
      let text ← d.written
      match settings.format with
      | .json => jsonReply 0 (.dict [("filter", .str text), ("expression", d.build.toValue)])
      | .table => return .success (text ++ "\n")
    else FilterError.reply settings.format (.invalid v.errors)

/-- The tasks of a list, each with the value that it was admitted from; the first one that is refused is told. -/
def admitTasks : List Value → Admission (List (TaskRecord × Value))
  | [] => .ok []
  | v :: vs => do
    let task ← Admission.task v
    let rest ← admitTasks vs
    return (task, v) :: rest

/-- The first of two values, unless it counts as false. -/
def firstTrue (v w : Value) : Value :=
  if v.truthy then v else w

/-- The text of a value that may count as false; then it is empty. -/
def textIfTrue (v : Value) : Except Fault String :=
  if v.truthy then v.text else .ok ""

def taskRow (task : Value) : Except Fault (List String) := do
  let id ← if task.hasKey "id" then (task.get "id").text else .ok ""
  let title ← textIfTrue (task.get "title")
  let priority ← textIfTrue (task.get "priority")
  let due ← textIfTrue (firstTrue (task.get "due_date") (task.get "dueDate"))
  return [id, title, if (task.get "done").truthy then "yes" else "no", priority, due]

/-- Tasks as a table, of so many. -/
def taskTable (tasks : List Value) (total : Nat) : Except Fault String :=
  (tasks.mapM taskRow).map fun rows =>
    Report.Table.draw ⟨["ID", "Title", "Done", "Priority", "Due"], rows⟩ ++
      Report.plain s!"{tasks.length} of {total} task(s) matched"

def logOf (warnings : List Warning) : String :=
  String.join (warnings.map fun w => Report.plain ("WARNING  taskfilter.evaluator: " ++ w.message))

def refusalReply (format : Format) (text : String) : Query.Refusal → Except Fault Reply
  | .invalid v => FilterError.reply format (.invalid v.errors)
  | .malformed e => FilterError.reply format (.malformed text e)
  | .fault f => .error f

def runTasks (settings : Settings) (clock now : Timestamp) (text : String) (tasks : List (TaskRecord × Value)) :
    Except Fault Reply :=
  let run := Query.run settings.limits? (fun task => task.1.toValue) clock now tasks (.str text)
  let reply :=
    match run.matched with
    | .error refusal => refusalReply settings.format text refusal
    | .ok matched =>
      let rows := matched.map Prod.snd
      match settings.format with
      | .json => jsonReply 0 (.list rows)
      | .table => (taskTable rows tasks.length).map Reply.success
  reply.map (Reply.afterLog (logOf run.warnings))

def applyText (settings : Settings) (clock now : Timestamp) (text : String) (tasks : List Value) : Except Fault Reply :=
  match admitTasks tasks with
  | .error complaints => FilterError.reply settings.format (.invalid (complaints.map Complaint.line))
  | .ok tasks => runTasks settings clock now text tasks

/-- Reads tasks in JSON and the reference for date literals, and runs a filter. -/
def applyInput (settings : Settings) (clock : Timestamp) (text : String) (reference : Option String) (input : String) :
    Except Fault Reply :=
  match Json.read jsonLevels input with
  | .error .tooDeep => .error .tooDeep
  | .ok (.list tasks) =>
    match reference with
    | none => applyText settings clock clock text tasks
    | some literal => do
      match ← DateLiteral.resolve clock literal with
      | none => return .misuse
      | some m => applyText settings clock (.utc m) text tasks
  | _ => .ok .misuse

def runCommand (settings : Settings) (clock : Timestamp) (input : String) : Command → Except Fault Reply
  | .parse text => parseText settings.format text
  | .validate text => validateText settings clock text
  | .build comparisons byOr => buildText settings clock comparisons byOr
  | .apply text reference => applyInput settings clock text reference input

/-- The answer to a command line, at a time, with a standard input. -/
def answer (clock : Timestamp) (args : List String) (input : String) : Except Fault Reply :=
  match Invocation.read args with
  | none => .ok .misuse
  | some .help => .ok (.success helpScreen)
  | some .version => .ok (.success versionLine)
  | some (.run settings command) => do (← runCommand settings clock input command).written

end TaskQuery.CommandLine
