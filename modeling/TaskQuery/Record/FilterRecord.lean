import TaskQuery.Filter.Tree
import TaskQuery.Record.Admission

namespace TaskQuery

namespace Admission

def fieldName : Value → Admission Field
  | .str s =>
    if Field.isForbidden s then refuse (.forbiddenField s)
    else
      match Field.ofName? s with
      | some f => .ok f
      | none => refuse (.unknownField s)
  | _ => refuse .notText

def operator : Value → Admission Operator
  | .str s =>
    match Operator.ofSpelling? s with
    | some op => .ok op
    | none => refuse (.unknownOperator s)
  | _ => refuse .notText

def joiner : Value → Admission Joiner
  | .str s =>
    match Joiner.ofSymbol? s with
    | some j => .ok j
    | none => refuse .notAJoiner
  | _ => refuse .notAJoiner

/-- Whether a value may be compared with. -/
def isScalar : Value → Bool
  | .bool _ | .int _ | .float _ | .str _ => true
  | _ => false

/-- The complaints of all types that a scalar may have. -/
def scalarComplaints : List Complaint :=
  [⟨["bool"], .notTruthValue⟩, ⟨["int"], .notInteger⟩, ⟨["float"], .notNumber⟩, ⟨["str"], .notText⟩]

def scalar (v : Value) : Admission Value :=
  if isScalar v then .ok v else .error scalarComplaints

def operand (v : Value) : Admission Operand :=
  if isScalar v then .ok (.one v)
  else
    match list scalar v with
    | .ok items => .ok (.many items)
    | .error complaints =>
      .error (scalarComplaints ++
        complaints.map fun c => { c with path := "list[union[bool,int,float,str]]" :: c.path })

def condition (v : Value) : Admission Condition :=
  (entries "ConditionInput" v).bind fun e =>
    only ["field", "operator", "value"] e
      (ap (ap ((required "field" fieldName e).map Condition.mk) (required "operator" operator e)) (required "value" operand e))

def group (v : Value) : Admission (Group Condition) :=
  (entries "GroupInput" v).bind fun e =>
    only ["conditions", "operator"] e
      (ap ((required "conditions" (list condition) e).map Group.mk) (withDefault "operator" .and joiner e))

def expression (v : Value) : Admission Filter :=
  (entries "ExpressionInput" v).bind fun e =>
    only ["groups", "operator"] e
      (ap ((required "groups" (list group) e).map Expression.mk) (withDefault "operator" .and joiner e))

end Admission

def Filter.ofValue (v : Value) : Admission Filter :=
  Admission.expression v

end TaskQuery
