import TaskQuery.Match.Filter
import TaskQuery.Query.Examination

namespace TaskQuery.Query

/-- Why a run gives no tasks. -/
inductive Refusal where
  | invalid (v : Verdict)
  | malformed (e : SyntaxError)
  | fault (f : Fault)
  deriving DecidableEq

/-- The outcome of a run: the tasks that match, and the warnings on the way. -/
structure Run (α : Type) where
  warnings : List Warning
  matched : Except Refusal (List α)

def Run.refused {α : Type} (r : Refusal) : Run α :=
  ⟨[], .error r⟩

/-- A result, where a fault counts as a refusal. -/
def orRefuse {α : Type} : Except Fault α → Except Refusal α
  | .ok a => .ok a
  | .error f => .error (.fault f)

/-- Runs a filter with its verdict: tasks are selected if there is no problem. -/
def runVerdict {α : Type} (view : α → Value) (now : Timestamp) (tasks : List α) (e : Filter) (v : Verdict) : Run α where
  warnings := v.warnings
  matched := if v.isValid then orRefuse (select (fun task => e.holds now (view task)) tasks) else .error (.invalid v)

/-- Runs a filter that was read: it is checked with date literals seen from `clock`, and tasks are selected with date
literals seen from `now`. -/
def runFilter {α : Type} (limits? : Option Limits) (view : α → Value) (clock now : Timestamp) (tasks : List α) (e : Filter) :
    Run α :=
  match Check.filterVerdict (limitsFor limits? e) clock e with
  | .error f => .refused (.fault f)
  | .ok v => runVerdict view now tasks e v

/-- Runs a filter text over tasks, each of which is seen through `view`. Warnings are handed on even if the run fails after
they were found. -/
def run {α : Type} (limits? : Option Limits) (view : α → Value) (clock now : Timestamp) (tasks : List α) (text : Value) :
    Run α :=
  match Check.textProblem? maxFilterLength text, text with
  | .error fault, _ => .refused (.fault fault)
  | .ok (some problem), _ => .refused (.invalid (.ofProblems [problem]))
  | .ok none, .str s =>
    match Filter.read s with
    | .error (.malformed e) => .refused (.malformed e)
    | .error (.tooManyDigits count) => .refused (.fault (.tooManyDigits count))
    | .ok e => runFilter limits? view clock now tasks e
  | .ok none, _ => .refused (.invalid (.ofProblems [.notText]))

end TaskQuery.Query
