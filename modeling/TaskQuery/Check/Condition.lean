import TaskQuery.Check.Content
import TaskQuery.DateLiteral
import TaskQuery.Filter.Tree

namespace TaskQuery

/-- What is wrong with a condition. An operator that is none, and a bound that is exceeded, are kept as they are written. -/
inductive ConditionProblem where
  | notAnObject
  | noField
  | forbiddenField (name : String)
  | unknownField (name : String)
  | unknownOperator (spelling : String)
  | unsuitableOperator (op : Operator) (field : Field)
  | noValue (field : Field)
  | notBoolean (field : Field)
  | notNumber (field : Field)
  | notDate (field : Field)
  | notText (field : Field)
  | tooManyItems (field : Field) (count : Nat) (bound : String)
  | badItem (field : Field)
  | notList (field : Field)
  | tooLong (field : Field) (length : Nat) (bound : String)
  | disallowedContent (field : Field)
  deriving DecidableEq

namespace ConditionProblem

def message : ConditionProblem → String
  | notAnObject => "Condition must be an object with field, operator and value"
  | noField => "Condition is missing a field name"
  | forbiddenField name => s!"Field name '{name}' is not allowed"
  | unknownField name => s!"Invalid field: {name}"
  | unknownOperator spelling => s!"Invalid operator: {spelling}"
  | unsuitableOperator op field =>
    s!"Invalid operator \"{op.symbol}\" for field \"{field.name}\" of type \"{field.kind.name}\""
  | noValue field => s!"Condition for field \"{field.name}\" is missing a value"
  | notBoolean field => s!"Field \"{field.name}\" requires a boolean value"
  | notNumber field => s!"Field \"{field.name}\" requires a numeric value"
  | notDate field => s!"Field \"{field.name}\" requires a valid date value (ISO date or relative date like \"now+1d\")"
  | notText field => s!"Field \"{field.name}\" requires a string value"
  | tooManyItems field count bound =>
    s!"Array value for field \"{field.name}\" has {count} elements. Maximum allowed: {bound}"
  | badItem field => s!"Field \"{field.name}\" requires a list of ids or names"
  | notList field => s!"Field \"{field.name}\" requires an array value"
  | tooLong field length bound =>
    s!"Value for field \"{field.name}\" is too long ({length} characters). Maximum allowed: {bound}"
  | disallowedContent field => s!"Value for field \"{field.name}\" contains disallowed content"

end ConditionProblem

/-- The lists that some items give, one behind the other. -/
def collect {α β : Type} (f : α → Except Fault (List β)) : List α → Except Fault (List β)
  | [] => .ok []
  | a :: as => do return (← f a) ++ (← collect f as)

namespace Check

/-- The texts that a value is or has as items. -/
def texts : Value → List String
  | .str s => [s]
  | .list items => items.filterMap fun item =>
    match item with
    | .str s => some s
    | _ => none
  | _ => []

/-- Whether a value is a finite number or the text of one. -/
def isFiniteNumber : Value → Except Fault Bool
  | .int n => if (Double.ofInt? n).isSome then .ok true else .error .numberOutOfRange
  | .float x => .ok x.isFinite
  | .str s => .ok ((readMeasure? s).any Double.isFinite)
  | _ => .ok false

/-- Whether a value is an id or a name. -/
def isIdOrName : Value → Bool
  | .str _ | .int _ | .float _ => true
  | _ => false

/-- Whether a value can be a date: a day, a timestamp, or a text that resolves as a date literal. -/
def isDate (now : Timestamp) : Value → Except Fault Bool
  | .date _ | .datetime _ => .ok true
  | .str s => DateLiteral.isResolvable now s
  | _ => .ok false

def isTruthValue : Value → Bool
  | .bool _ => true
  | .str s => s == "true" || s == "false"
  | _ => false

def problemUnless (holds : Bool) (problem : ConditionProblem) : List ConditionProblem :=
  if holds then [] else [problem]

/-- The problems of a value as one of the kind of a field. The value may be looser than what filter text gives: the words for
truth values and the texts of numbers are taken, and a single id or name as a list. -/
def kindProblems (limits : Limits) (now : Timestamp) (field : Field) (v : Value) : Except Fault (List ConditionProblem) :=
  match field.kind with
  | .boolean => .ok (problemUnless (isTruthValue v) (.notBoolean field))
  | .number => (isFiniteNumber v).map fun holds => problemUnless holds (.notNumber field)
  | .date => (isDate now v).map fun holds => problemUnless holds (.notDate field)
  | .string =>
    match v with
    | .str _ => .ok []
    | _ => .ok [.notText field]
  | .array =>
    match v with
    | .list items =>
      if limits.maxArraySize < (items.length : Int) then
        (writeInteger limits.maxArraySize).map fun bound => [.tooManyItems field items.length bound]
      else .ok (problemUnless (items.all isIdOrName) (.badItem field))
    | _ => .ok (problemUnless (isIdOrName v) (.notList field))

def lengthProblems (limits : Limits) (field : Field) (s : String) : Except Fault (List ConditionProblem) :=
  if limits.maxStringLength < (s.length : Int) then
    (writeInteger limits.maxStringLength).map fun bound => [.tooLong field s.length bound]
  else .ok []

def textProblems (limits : Limits) (field : Field) (s : String) : Except Fault (List ConditionProblem) :=
  (lengthProblems limits field s).map (· ++ problemUnless (!hasDisallowedContent s) (.disallowedContent field))

def operatorProblems (field : Field) (operator : Value) : Except Fault (List ConditionProblem) :=
  let op? :=
    match operator with
    | .str s => Operator.ofSpelling? s
    | _ => none
  match op? with
  | none => operator.text.map fun spelling => [.unknownOperator spelling]
  | some op => .ok (problemUnless (field.kind.allows op) (.unsuitableOperator op field))

def valueProblems (limits : Limits) (now : Timestamp) (field : Field) (v : Value) : Except Fault (List ConditionProblem) :=
  if v.isNull then .ok [.noValue field]
  else do return (← kindProblems limits now field v) ++ (← collect (textProblems limits field) (texts v))

def partsProblems (limits : Limits) (now : Timestamp) (field operator v : Value) : Except Fault (List ConditionProblem) :=
  match field with
  | .str name =>
    if name.isEmpty then .ok [.noField]
    else if Field.isForbidden name then .ok [.forbiddenField name]
    else
      match Field.ofName? name with
      | none => .ok [.unknownField name]
      | some f => do return (← operatorProblems f operator) ++ (← valueProblems limits now f v)
  | _ => .ok [.noField]

def conditionProblems (limits : Limits) (now : Timestamp) : Value → Except Fault (List ConditionProblem)
  | .dict entries =>
    partsProblems limits now ((Value.dict entries).get "field") ((Value.dict entries).get "operator")
      ((Value.dict entries).get "value")
  | _ => .ok [.notAnObject]

end Check

end TaskQuery
