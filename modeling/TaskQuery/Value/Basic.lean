import TaskQuery.Calendar.Moment
import TaskQuery.Fault
import TaskQuery.Number.Numeral

namespace TaskQuery

/-- A value. The entries of a dictionary keep their order, and no key is there twice. -/
inductive Value where
  | null
  | bool (b : Bool)
  | int (n : Int)
  | float (x : Double)
  | str (s : String)
  | date (d : Day)
  | datetime (t : Timestamp)
  | list (items : List Value)
  | dict (entries : List (String × Value))
  /-- A thing with attributes that is no dictionary: it has no length and equals nothing but itself. -/
  | record (attributes : List (String × Value))
  deriving Inhabited

def lookup? (key : String) : List (String × Value) → Option Value
  | [] => none
  | (k, v) :: entries => if k = key then some v else lookup? key entries

namespace Value

def isNull : Value → Bool
  | null => true
  | _ => false

/-- The number that a value counts as: true is one and false zero. -/
def number? : Value → Option Number
  | bool b => some (.int (if b then 1 else 0))
  | int n => some (.int n)
  | float x => some (.float x)
  | _ => none

/-- Whether the value counts as true: zero, empty and absent ones do not. -/
def truthy : Value → Bool
  | null => false
  | bool b => b
  | int n => n != 0
  | float x => !x.isZero
  | str s => !s.isEmpty
  | list items => !items.isEmpty
  | dict entries => !entries.isEmpty
  | date _ | datetime _ | record _ => true

/-- The value under a key of a dictionary; null where there is none. -/
def get (v : Value) (key : String) : Value :=
  match v with
  | dict entries => (lookup? key entries).getD null
  | _ => null

/-- Whether the value is a dictionary with this key. -/
def hasKey (v : Value) (key : String) : Bool :=
  match v with
  | dict entries => (lookup? key entries).isSome
  | _ => false

/-- The value as a double, if it is a number or the text of one. An integer may be out of range. -/
def measure? : Value → Except Fault (Option Double)
  | bool b => .ok (some (.ofBool b))
  | int n => (Double.ofInt? n).elim (.error .numberOutOfRange) fun x => .ok (some x)
  | float x => .ok (if x.isNumber then some x else none)
  | str s => .ok ((readMeasure? s).filter Double.isNumber)
  | _ => .ok none

/-- The number that a value is as an identifier. A text is one if it is the text of a number, and a double that is
read from it counts as an integer if it is equal to one. -/
def identifier? : Value → Option Number
  | int n => some (.int n)
  | float x => some (.float x)
  | str s =>
    ((readMeasure? (Text.trim s)).filter Double.isNumber).map fun x =>
      match x.toInt? with
      | some n => .int n
      | none => .float x
  | _ => none

end Value

end TaskQuery
