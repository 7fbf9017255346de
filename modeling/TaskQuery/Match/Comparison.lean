import TaskQuery.DateLiteral
import TaskQuery.Filter.Tree
import TaskQuery.Text.Lower
import TaskQuery.Text.Search
import TaskQuery.Value.Equality

namespace TaskQuery

/-- Whether an operator of order accepts the order of its two sides. -/
def Operator.acceptsOrder (op : Operator) (order : Ordering) : Bool :=
  match op, order with
  | .greater, .gt | .greaterEqual, .gt | .greaterEqual, .eq | .less, .lt | .lessEqual, .lt | .lessEqual, .eq => true
  | _, _ => false

def Position.order (p q : Position) : Ordering :=
  if p.lt q then .lt else if p == q then .eq else .gt

def Double.order? (x y : Double) : Option Ordering :=
  match x.position?, y.position? with
  | some p, some q => some (p.order q)
  | _, _ => none

namespace Match

/-- Compares values: for equality as they are, for order as doubles. Here and below, an unknown operator is met by nothing. -/
def compareValues (op? : Option Operator) (actual expected : Value) : Except Fault Bool :=
  match op? with
  | some .equal => .ok (actual.same expected)
  | some .notEqual => .ok !actual.same expected
  | op? => do
    let left ← actual.measure?
    let right ← expected.measure?
    match op?, left, right with
    | some op, some x, some y => return (x.order? y).any op.acceptsOrder
    | _, _, _ => return false

/-- The timestamp that a date is compared with. A timestamp without offset is one of universal time. -/
def targetOf (now : Timestamp) (expected : Operand) : Except Fault (Option Timestamp) :=
  match expected with
  | .one (.datetime t) => .ok (some { t with offset := some (t.offset.getD .zero) })
  | .one (.date d) => .ok (some (.utc (.midnight d)))
  | expected => do
    let text ← expected.text
    (DateLiteral.resolve now text).map (·.map Timestamp.utc)

/-- Compares a date with a literal: for equality by day, for order by instant. A literal that does not resolve matches
nothing. -/
def compareDates (now : Timestamp) (op? : Option Operator) (actual : Timestamp) (expected : Operand) :
    Except Fault Bool := do
  match ← targetOf now expected, op? with
  | some target, some .equal => sameDay actual target
  | some target, some .notEqual => return !(← sameDay actual target)
  | some target, some op =>
    if op = .like ∨ op = .isIn ∨ op = .notIn then return false
    else if actual.offset.isNone then throw .mixedClocks
    else return op.acceptsOrder (compare actual.instantMicros target.instantMicros)
  | _, _ => return false

/-- Compares texts; likeness is occurrence in small letters. -/
def compareTexts (op? : Option Operator) (actual expected : String) : Bool :=
  match op? with
  | some .equal => actual == expected
  | some .notEqual => actual != expected
  | some .like => Text.occursIn (Text.lower expected.toList) (Text.lower actual.toList)
  | _ => false

def isAmong (id : Number) (ids : List Number) : Bool :=
  ids.any (Number.same id)

/-- Whether two lists have an identifier in common. -/
def overlap (actual expected : List Value) : Bool :=
  let ids := actual.filterMap Value.identifier?
  (expected.filterMap Value.identifier?).any (isAmong · ids)

def compareLists (op? : Option Operator) (actual expected : List Value) : Bool :=
  match op? with
  | some .isIn => overlap actual expected
  | some .notIn => !overlap actual expected
  | _ => false

end Match

end TaskQuery
