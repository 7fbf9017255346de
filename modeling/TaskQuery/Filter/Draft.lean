import TaskQuery.Filter.Writing
import TaskQuery.Text.Escaped

namespace TaskQuery

/-- Why a step of a draft is refused. What was found in place of an operator or a literal is kept as it is written. -/
inductive DraftError where
  | forbiddenField (name : String)
  | unknownField (name : String)
  | unknownOperator (spelling : String)
  | noValue
  | notBoolean (found : String)
  | notNumber (found : String)
  | nothingToJoin
  | fault (f : Fault)
  deriving DecidableEq

namespace DraftError

def message? : DraftError → Option String
  | forbiddenField name => some s!"Field name '{name}' is not allowed"
  | unknownField name => some s!"Unknown field '{name}'. Valid fields: {Field.allNames}"
  | unknownOperator spelling => some s!"Unknown operator '{spelling}'"
  | noValue => some "None is not a valid filter literal"
  | notBoolean found => some s!"Expected true or false, got {found}"
  | notNumber found => some s!"Expected a number, got {found}"
  | nothingToJoin => some "or_() must follow a condition"
  | fault f => f.message?

/-- The error that names a text, where this can be written. -/
def naming (error : String → DraftError) : Except Fault String → DraftError
  | .ok text => error text
  | .error f => fault f

end DraftError

namespace Draft

def booleanOperand (v : Value) : Except DraftError Operand :=
  match v with
  | .bool b => .ok (.one (.bool b))
  | .str s =>
    let word := Text.lowerText (Text.trim s)
    if word = "true" then .ok (.one (.bool true))
    else if word = "false" then .ok (.one (.bool false))
    else .error (.naming .notBoolean v.shown)
  | _ => .error (.naming .notBoolean v.shown)

def numberOperand (v : Value) : Except DraftError Operand :=
  match v with
  | .int n => if (Double.ofInt? n).isSome then .ok (.one v) else .error (.fault .numberOutOfRange)
  | .float x => if x.isFinite then .ok (.one v) else .error (.naming .notNumber v.shown)
  | .str s =>
    match readLiteral (Text.trim s) with
    | .number (.int n) => .ok (.one (.int n))
    | .number (.float x) => .ok (.one (.float x))
    | .notNumber => .error (.naming .notNumber v.shown)
    | .tooManyDigits count => .error (.fault (.tooManyDigits count))
  | _ => .error (.naming .notNumber v.shown)

/-- A value as text. -/
def textOperand (v : Value) : Except DraftError Operand :=
  match v.text with
  | .ok text => .ok (.one (.str text))
  | .error f => .error (.fault f)

/-- The operand that a value is on a field of some kind. Days, timestamps and lists are the same on all of them. -/
def operand (kind : Kind) (v : Value) : Except DraftError Operand :=
  match v with
  | .null => .error .noValue
  | .datetime t => .ok (.one (.str t.iso))
  | .date d => .ok (.one (.str (String.ofList d.iso)))
  | .list items => .ok (.many items)
  | v =>
    match kind with
    | .boolean => booleanOperand v
    | .number => numberOperand v
    | .array => .ok (.many [v])
    | .string | .date => textOperand v

def operator? : Value → Option Operator
  | .str s => Operator.ofSpelling? s
  | _ => none

/-- The condition of a field, an operator and a value that come from outside. -/
def condition (field : String) (operator value : Value) : Except DraftError Condition :=
  if Field.isForbidden field then .error (.forbiddenField field)
  else
    match Field.ofName? field with
    | none => .error (.unknownField field)
    | some f =>
      match operator? operator with
      | none => .error (.naming .unknownOperator operator.text)
      | some op => (operand f.kind value).map fun operand => { field := f, operator := op, operand }

end Draft

/-- A filter in the making: its conditions, the joiners between them, and the joiner that will stand before the next one. -/
structure Draft where
  conditions : List Condition
  /-- The joiners between neighbouring conditions. -/
  joiners : List Joiner
  /-- The joiner before the next condition. -/
  pending : Joiner
  deriving DecidableEq

namespace Draft

def empty : Draft := ⟨[], [], .and⟩

/-- Adds a condition behind the pending joiner; the next joiner is *and* again. -/
def add (d : Draft) (c : Condition) : Draft where
  conditions := d.conditions ++ [c]
  joiners := if d.conditions.isEmpty then d.joiners else d.joiners ++ [d.pending]
  pending := .and

/-- Adds the condition of a field, an operator and a value. -/
def compare (d : Draft) (field : String) (operator value : Value) : Except DraftError Draft :=
  (condition field operator value).map d.add

def joinByAnd (d : Draft) : Draft :=
  { d with pending := .and }

/-- Joins the next condition by *or*; there must be a condition before it. -/
def joinByOr (d : Draft) : Except DraftError Draft :=
  if d.conditions.isEmpty then .error .nothingToJoin else .ok { d with pending := .or }

def size (d : Draft) : Nat :=
  d.conditions.length

/-- The draft as filter text. -/
def written (d : Draft) : Except Fault String :=
  match d.conditions with
  | [] => .ok ""
  | first :: rest => do
    let text ← first.written
    let further ← (d.joiners.zip rest).mapM fun (j, c) => c.written.map (" " ++ j.symbol ++ " " ++ ·)
    return text ++ String.join further

def build (d : Draft) : Filter :=
  Expression.fold d.conditions d.joiners

/-- What a draft looks like in a listing. -/
def shown (d : Draft) : Except Fault String :=
  d.written.map fun text => "FilterBuilder(" ++ Text.quoted text ++ ")"

end Draft

end TaskQuery
