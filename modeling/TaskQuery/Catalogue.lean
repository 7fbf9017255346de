import TaskQuery.Text.Blank
import TaskQuery.Text.Lower

namespace TaskQuery

/-- The kinds of values. -/
inductive Kind where
  | boolean
  | number
  | date
  | string
  | array
  deriving DecidableEq

def Kind.name : Kind → String
  | boolean => "boolean"
  | number => "number"
  | date => "date"
  | string => "string"
  | array => "array"

/-- The fields of a task, in the order of the catalogue. -/
inductive Field where
  | done
  | priority
  | percentDone
  | dueDate
  | assignees
  | labels
  | created
  | updated
  | title
  | description
  deriving DecidableEq

namespace Field

def all : List Field :=
  [done, priority, percentDone, dueDate, assignees, labels, created, updated, title, description]

def name : Field → String
  | done => "done"
  | priority => "priority"
  | percentDone => "percentDone"
  | dueDate => "dueDate"
  | assignees => "assignees"
  | labels => "labels"
  | created => "created"
  | updated => "updated"
  | title => "title"
  | description => "description"

/-- The attribute of a task record that holds a field. -/
def recordKey : Field → String
  | percentDone => "percent_done"
  | dueDate => "due_date"
  | f => f.name

def kind : Field → Kind
  | done => .boolean
  | priority | percentDone => .number
  | dueDate | created | updated => .date
  | assignees | labels => .array
  | title | description => .string

/-- The field with a name or, for two of them, with the name of its attribute. -/
def ofName? : String → Option Field
  | "done" => some done
  | "priority" => some priority
  | "percentDone" => some percentDone
  | "percent_done" => some percentDone
  | "dueDate" => some dueDate
  | "due_date" => some dueDate
  | "assignees" => some assignees
  | "labels" => some labels
  | "created" => some created
  | "updated" => some updated
  | "title" => some title
  | "description" => some description
  | _ => none

/-- Names that must reach no look-up of attributes, whatever the catalogue holds. -/
def isForbidden (name : String) : Bool :=
  name == "__proto__" || name == "constructor" || name == "prototype"

def allNames : String :=
  ", ".intercalate (all.map Field.name)

theorem ofName?_name (f : Field) : ofName? f.name = some f := by
  cases f <;> rfl

end Field

/-- The comparisons of a condition. -/
inductive Operator where
  | equal
  | notEqual
  | greater
  | greaterEqual
  | less
  | lessEqual
  | like
  | isIn
  | notIn
  deriving DecidableEq

namespace Operator

def symbol : Operator → String
  | equal => "="
  | notEqual => "!="
  | greater => ">"
  | greaterEqual => ">="
  | less => "<"
  | lessEqual => "<="
  | like => "like"
  | isIn => "in"
  | notIn => "not in"

/-- The operator with exactly this spelling. -/
def ofSymbol? : String → Option Operator
  | "=" => some equal
  | "!=" => some notEqual
  | ">" => some greater
  | ">=" => some greaterEqual
  | "<" => some less
  | "<=" => some lessEqual
  | "like" => some like
  | "in" => some isIn
  | "not in" => some notIn
  | _ => none

/-- The operator with this spelling, where words may have any case and any blanks around them. A spelling with
words begins with a letter; no letter beyond ASCII has `l`, `i` or `n` as its only small letter. -/
def ofSpelling? (s : String) : Option Operator :=
  if (s.toList.head?.map Char.isAlpha).getD false then
    ofSymbol? (String.ofList (Text.lower (Text.squeeze s.toList)))
  else ofSymbol? s

theorem ofSymbol?_symbol (op : Operator) : ofSymbol? op.symbol = some op := by
  cases op <;> rfl

theorem ofSpelling?_symbol (op : Operator) : ofSpelling? op.symbol = some op := by
  cases op <;> decide +kernel

end Operator

/-- Whether a kind of value can be compared with an operator. -/
def Kind.allows : Kind → Operator → Bool
  | .boolean, op => op = .equal ∨ op = .notEqual
  | .number, op | .date, op => op ≠ .like ∧ op ≠ .isIn ∧ op ≠ .notIn
  | .string, op => op = .equal ∨ op = .notEqual ∨ op = .like
  | .array, op => op = .isIn ∨ op = .notIn

/-- The two ways to join conditions, and groups of them. -/
inductive Joiner where
  | and
  | or
  deriving DecidableEq

namespace Joiner

def symbol : Joiner → String
  | and => "&&"
  | or => "||"

def ofSymbol? : String → Option Joiner
  | "&&" => some and
  | "||" => some or
  | _ => none

def other : Joiner → Joiner
  | and => or
  | or => and

theorem ofSymbol?_eq_some_iff {s : String} {j : Joiner} : ofSymbol? s = some j ↔ s = j.symbol := by
  unfold ofSymbol?
  split <;> cases j <;> simp_all [symbol]

end Joiner

end TaskQuery
