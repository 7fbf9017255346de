import TaskQuery.Check.Expression
import TaskQuery.Check.Text
import TaskQuery.Filter.Reading

namespace TaskQuery.Query

/-- The limits that a filter is held to: the ones asked for, and otherwise the ones for short queries if it has a single
condition. -/
def limitsFor (limits? : Option Limits) (e : Filter) : Limits :=
  limits?.getD (if e.conditions.length = 1 then .simple else .standard)

/-- The outcome of an examination: the filter, if the text could be read, and the verdict. -/
structure Examination where
  filter? : Option Filter
  verdict : Verdict
  deriving DecidableEq

def Examination.failed (problem : Problem) : Examination :=
  ⟨none, .ofProblems [problem]⟩

/-- Examines a filter text, with date literals seen from `now`. -/
def examine (limits? : Option Limits) (now : Timestamp) (text : Value) : Except Fault Examination :=
  match Check.textProblem? maxFilterLength text, text with
  | .error fault, _ => .error fault
  | .ok (some problem), _ => .ok (.failed problem)
  | .ok none, .str s =>
    match Filter.read s with
    | .error (.malformed e) => .ok (.failed (.syntaxError e))
    | .error (.tooManyDigits count) => .error (.tooManyDigits count)
    | .ok e => (Check.filterVerdict (limitsFor limits? e) now e).map fun verdict => ⟨some e, verdict⟩
  | .ok none, _ => .ok (.failed .notText)

end TaskQuery.Query
