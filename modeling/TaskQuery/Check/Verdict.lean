import TaskQuery.Check.Condition
import TaskQuery.Filter.SyntaxError

namespace TaskQuery

/-- What is wrong with a filter. Groups and conditions are counted from one. What stands for a joiner and is none, and a bound
that is exceeded, are kept as they are written. -/
inductive Problem where
  | notText
  | textTooLong (length : Nat) (bound : String)
  | controlCharacters
  | syntaxError (e : SyntaxError)
  | notAnObject
  | betweenGroups (found : String)
  | noGroups
  | tooDeep (bound : String)
  | tooManyConditions (count : Nat) (bound : String)
  | groupNotAnObject (group : Nat)
  | insideGroup (group : Nat) (found : String)
  | emptyGroup (group : Nat)
  | nestedGroup (group number : Nat)
  | condition (group number : Nat) (problem : ConditionProblem)
  deriving DecidableEq

namespace Problem

def message : Problem → String
  | notText => "Filter input must be a string"
  | textTooLong length bound => s!"Filter string too long. Maximum length is {bound} characters, got {length}"
  | controlCharacters => "Filter string contains invalid characters"
  | syntaxError e => s!"{e.message} (position {e.position})"
  | notAnObject => "Filter expression must be an object with groups"
  | betweenGroups found => s!"Invalid logical operator between groups: {found}"
  | noGroups => "Filter expression must contain at least one group"
  | tooDeep bound => s!"Filter nesting is too deep (more than {bound} levels). Maximum allowed: {bound}"
  | tooManyConditions count bound => s!"Too many conditions ({count}). Maximum allowed: {bound}"
  | groupNotAnObject group => s!"Group {group} must be an object with conditions"
  | insideGroup group found => s!"Group {group}: Invalid logical operator: {found}"
  | emptyGroup group => s!"Group {group} must contain at least one condition"
  | nestedGroup group number => s!"Group {group}, Condition {number}: Nested groups are not supported"
  | condition group number problem => s!"Group {group}, Condition {number}: {problem.message}"

end Problem

/-- What calls for attention in a filter that may be valid. -/
inductive Warning where
  | manyConditions (count : Nat)
  deriving DecidableEq

def Warning.message : Warning → String
  | manyConditions count => s!"Complex filters with many conditions ({count}) may impact performance"

/-- The outcome of a check. -/
structure Verdict where
  problems : List Problem
  warnings : List Warning
  deriving DecidableEq

namespace Verdict

def isValid (v : Verdict) : Bool :=
  v.problems.isEmpty

/-- A verdict without warnings. -/
def ofProblems (problems : List Problem) : Verdict :=
  ⟨problems, []⟩

def errors (v : Verdict) : List String :=
  v.problems.map Problem.message

def advice (v : Verdict) : List String :=
  v.warnings.map Warning.message

/-- The problems in one text: a single one stands alone, several follow a heading. -/
def summary (errors : List String) : String :=
  match errors with
  | [single] => single
  | errors => "\n- ".intercalate ("Filter validation failed:" :: errors)

end Verdict

end TaskQuery
