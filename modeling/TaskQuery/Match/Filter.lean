import TaskQuery.Match.Comparison
import TaskQuery.Match.Task

namespace TaskQuery

/-- Whether all of `as` pass, as far as needed: a fault behind one that does not pass has no effect. -/
def allPass {α : Type} (test : α → Except Fault Bool) : List α → Except Fault Bool
  | [] => .ok true
  | a :: as => do
    if ← test a then allPass test as else return false

/-- Whether some of `as` pass, as far as needed. -/
def somePass {α : Type} (test : α → Except Fault Bool) : List α → Except Fault Bool
  | [] => .ok false
  | a :: as => do
    if ← test a then return true else somePass test as

def Joiner.pass {α : Type} (j : Joiner) (test : α → Except Fault Bool) (as : List α) : Except Fault Bool :=
  match j with
  | .and => allPass test as
  | .or => somePass test as

/-- Whether an expression holds, by a test of its conditions. -/
def Expression.pass {γ : Type} (test : γ → Except Fault Bool) (e : Expression γ) : Except Fault Bool :=
  e.joiner.pass (fun g => g.joiner.pass test g.conditions) e.groups

namespace Match

/-- Whether an operand stands for true on a boolean field. -/
def isTrue (expected : Operand) : Except Fault Bool :=
  expected.text.map (Text.lowerText · == "true")

def measureOf : Operand → Except Fault (Option Double)
  | .one v => v.measure?
  | .many _ => .ok none

/-- The text of what a text field holds; null counts as the empty text. -/
def heldText (actual : Value) : Except Fault String :=
  if actual.isNull then .ok "" else actual.text

/-- The values of an operand, a single one counting as a list of one. -/
def valuesOf : Operand → List Value
  | .one (.list items) => items
  | .one v => [v]
  | .many items => items

/-- Compares what a task holds in a field of some kind with an operand. -/
def compareHeld (now : Timestamp) (kind : Kind) (op : Operator) (actual : Value) (expected : Operand) :
    Except Fault Bool :=
  match kind with
  | .boolean => do compareValues (some op) (.bool actual.truthy) (.bool (← isTrue expected))
  | .number => do
    match ← measureOf expected with
    | none => return false
    | some target => compareValues (some op) (.float ((← actual.measure?).getD .zero)) (.float target)
  | .date => do
    match ← taskInstant actual with
    | none => return op = .notEqual
    | some m => compareDates now (some op) (.utc m) expected
  | .string => do return compareTexts (some op) (← heldText actual) (← expected.text)
  | .array => (identities actual).map fun ids => compareLists (some op) ids (valuesOf expected)

end Match

/-- Whether a task meets a condition; an operator that does not suit the field matches nothing. -/
def Condition.holds (now : Timestamp) (c : Condition) (task : Value) : Except Fault Bool :=
  if c.field.kind.allows c.operator then
    Match.compareHeld now c.field.kind c.operator (Match.fieldValue task c.field) c.operand
  else .ok false

/-- The condition that the names stand for; the operator must be spelled exactly. -/
def Unchecked.Condition.known? (c : Unchecked.Condition) : Option TaskQuery.Condition :=
  match Field.ofName? c.field, Operator.ofSymbol? c.operator with
  | some field, some operator => some { field, operator, operand := c.operand }
  | _, _ => none

/-- Whether a task meets an unchecked condition; one with unknown names matches nothing. -/
def Unchecked.Condition.holds (now : Timestamp) (c : Unchecked.Condition) (task : Value) : Except Fault Bool :=
  match c.known? with
  | some c => c.holds now task
  | none => .ok false

def Expression.holds (now : Timestamp) (e : Filter) (task : Value) : Except Fault Bool :=
  e.pass fun c => c.holds now task

def Unchecked.Expression.holds (now : Timestamp) (e : Unchecked.Expression) (task : Value) : Except Fault Bool :=
  e.joined.pass fun c => c.holds now task

/-- The items that pass a test, in order. -/
def select {α : Type} (test : α → Except Fault Bool) : List α → Except Fault (List α)
  | [] => .ok []
  | a :: as => do
    let passes ← test a
    let rest ← select test as
    return if passes then a :: rest else rest

end TaskQuery
