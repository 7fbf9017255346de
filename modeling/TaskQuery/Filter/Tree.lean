import TaskQuery.Catalogue
import TaskQuery.Value.Display
import TaskQuery.Value.Identity

namespace TaskQuery

/-- What a condition compares with: one value, or several. -/
inductive Operand where
  | one (value : Value)
  | many (items : List Value)
  deriving DecidableEq

namespace Operand

/-- A list is several values, any other value is one. -/
def ofValue : Value → Operand
  | .list items => many items
  | v => one v

def toValue : Operand → Value
  | one v => v
  | many items => .list items

/-- The text of an operand; several values stand in round brackets, a single one of them with a comma. -/
def text : Operand → Except Fault String
  | one v => v.text
  | many [] => .ok "()"
  | many [v] => v.shown.map fun text => "(" ++ text ++ ",)"
  | many items => (Value.shownItems items).map fun texts => "(" ++ commaSeparated texts ++ ")"

end Operand

/-- A comparison of a field with an operand. -/
structure Condition where
  field : Field
  operator : Operator
  operand : Operand
  deriving DecidableEq

/-- Conditions joined by one joiner. -/
structure Group (γ : Type) where
  conditions : List γ
  joiner : Joiner
  deriving DecidableEq

/-- Groups joined by one joiner. -/
structure Expression (γ : Type) where
  groups : List (Group γ)
  joiner : Joiner
  deriving DecidableEq

/-- A filter is an expression of conditions. -/
abbrev Filter := Expression Condition

namespace Expression

variable {γ : Type}

def conditions (e : Expression γ) : List γ :=
  e.groups.flatMap Group.conditions

/-- The runs of conditions between the joiners other than `inner`; `current` is the run so far, in reverse. -/
def runs (inner : Joiner) (current : List γ) : List (Joiner × γ) → List (List γ)
  | [] => [current.reverse]
  | (j, c) :: rest => if j = inner then runs inner (c :: current) rest else current.reverse :: runs inner [c] rest

/-- Folds a flat run of conditions, with a joiner between any two neighbours. The first joiner joins inside the
groups; the other one, if it occurs, joins the groups. -/
def fold (conditions : List γ) (joiners : List Joiner) : Expression γ :=
  match conditions with
  | [] => ⟨[], .and⟩
  | first :: rest =>
    let inner := joiners.head?.getD .and
    let tail := joiners.zip rest
    { groups := (runs inner [first] tail).map fun run => ⟨run, inner⟩
      joiner := if tail.all (fun step => step.1 = inner) then .and else inner.other }

end Expression

namespace Unchecked

/-- A condition with names that nobody has looked at. -/
structure Condition where
  field : String
  operator : String
  operand : Operand
  deriving DecidableEq

/-- A group of unchecked conditions. -/
structure Group where
  conditions : List Condition
  operator : String
  deriving DecidableEq

/-- An expression of unchecked groups. -/
structure Expression where
  groups : List Group
  operator : String
  deriving DecidableEq

/-- How the operator of a group or an expression joins: all but the sign for *and* join as *or*. -/
def joinerOf (operator : String) : Joiner :=
  if operator = Joiner.and.symbol then .and else .or

def Expression.joined (e : Expression) : TaskQuery.Expression Condition where
  groups := e.groups.map fun g => ⟨g.conditions, joinerOf g.operator⟩
  joiner := joinerOf e.operator

def Expression.conditions (e : Expression) : List Condition :=
  e.groups.flatMap Group.conditions

end Unchecked

def Condition.unchecked (c : Condition) : Unchecked.Condition where
  field := c.field.name
  operator := c.operator.symbol
  operand := c.operand

def Expression.unchecked (e : Filter) : Unchecked.Expression where
  groups := e.groups.map fun g => ⟨g.conditions.map Condition.unchecked, g.joiner.symbol⟩
  operator := e.joiner.symbol

end TaskQuery
