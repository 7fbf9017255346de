import TaskQuery.Catalogue
import TaskQuery.Value.Basic

namespace TaskQuery.Match

/-- The parts of an integer as a fraction and as a complex number. -/
def integerParts (n : Int) : List (String × Value) :=
  [("real", .int n), ("imag", .int 0), ("numerator", .int n), ("denominator", .int 1)]

def dayParts (d : Day) : List (String × Value) :=
  [("year", .int d.year), ("month", .int d.month), ("day", .int d.dayOfMonth)]

/-- The parts of a clock time in microseconds since midnight. -/
def clockParts (clock : Nat) : List (String × Value) :=
  let seconds := clock / secondMicros
  [
    ("hour", .int (seconds / 3600 : Nat)),
    ("minute", .int (seconds / 60 % 60 : Nat)),
    ("second", .int (seconds % 60 : Nat)),
    ("microsecond", .int (clock % secondMicros : Nat)),
    ("fold", .int 0)]

/-- What stands for the operation that writes a text with capitals, which a text has under the name of a title. -/
def capitalizing : String := "<built-in method title of str object at 0x7f0000000000>"

/-- What a value has under names. -/
def parts : Value → List (String × Value)
  | .dict entries | .record entries => entries
  | .str _ => [("title", .str capitalizing)]
  | .bool b => integerParts (if b then 1 else 0)
  | .int n => integerParts n
  | .float x => [("real", .float x), ("imag", .float .zero)]
  | .date d => dayParts d
  | .datetime t => dayParts t.reading.day ++ clockParts t.reading.clock
  | .null | .list _ => []

/-- What a value has under a name; null where it has nothing. -/
def part (v : Value) (name : String) : Value :=
  (lookup? name (parts v)).getD .null

/-- What a task holds under a name. A field is looked up by the name of its attribute and, if that gives null, by its own
name. -/
def taskValue (task : Value) (name : String) : Value :=
  let key :=
    match Field.ofName? name with
    | some f => f.recordKey
    | none => name
  if (part task key).isNull ∧ key ≠ name then part task name else part task key

def fieldValue (task : Value) (f : Field) : Value :=
  taskValue task f.name

/-- The items of a value that is gone through. Those of a dictionary are its keys, those of a text its characters; what is
absent or empty has none. -/
def elements (v : Value) : Except Fault (List Value) :=
  match v with
  | .list items => .ok items
  | .dict entries => .ok (entries.map fun entry => .str entry.1)
  | .str s => .ok (s.toList.map fun c => .str (String.singleton c))
  | _ => .error .noItems

/-- What identifies an item: the id of a dictionary or record, and any other item itself. -/
def identity (item : Value) : Value :=
  match item with
  | .dict entries => (lookup? "id" entries).getD .null
  | .record entries => (lookup? "id" entries).getD item
  | _ => item

/-- The identities of the items of a relation of a task. -/
def identities (related : Value) : Except Fault (List Value) :=
  if related.truthy then (elements related).map (·.map identity) else .ok []

end TaskQuery.Match
