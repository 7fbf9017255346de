import TaskQuery.Filter.Tree
import TaskQuery.Text.Blank

namespace TaskQuery

namespace Written

/-- A character of a quoted text. The null character is left out. -/
def escape (c : Char) : List Char :=
  if c = '\\' ∨ c = '"' then ['\\', c]
  else if c = '\x00' then []
  else if c = '\n' then ['\\', 'n']
  else if c = '\t' then ['\\', 't']
  else if c = '\r' then ['\\', 'r']
  else [c]

/-- A text between double quotes. -/
def quoted (cs : List Char) : List Char :=
  '"' :: (cs.flatMap escape ++ ['"'])

/-- The signs that keep a text from being written without quotes. -/
def isReserved (c : Char) : Bool :=
  Text.isBlank c || c == '(' || c == ')' || c == '[' || c == ']' || c == ',' || c == '=' || c == '!' || c == '<' ||
    c == '>' || c == '&' || c == '|' || c == '"' || c == '\''

/-- Whether a text can be written without quotes; one line feed at its end is passed over. -/
def isBare (cs : List Char) : Bool :=
  let body := dropFinalNewline cs
  !body.isEmpty && body.all (!isReserved ·)

/-- A text as the literal of a field of some kind. -/
def literal (kind : Kind) (s : String) : String :=
  if kind = .date ∧ isBare s.toList then s else String.ofList (quoted s.toList)

/-- Truth values and numbers are written as they are, and texts in quotes, but for a date that can stand as a word. -/
def scalar (kind : Kind) : Value → Except Fault String
  | .bool b => .ok (if b then "true" else "false")
  | .int n => writeInteger n
  | .float x => .ok x.display
  | v => v.text.map (literal kind)

end Written

def Operand.written (kind : Kind) : Operand → Except Fault String
  | one v => Written.scalar kind v
  | many items => (items.mapM (Written.scalar kind)).map fun texts => "[" ++ commaSeparated texts ++ "]"

def Condition.written (c : Condition) : Except Fault String :=
  (c.operand.written c.field.kind).map fun value => c.field.name ++ " " ++ c.operator.symbol ++ " " ++ value

example : Condition.written ⟨.title, .like, .one (.str "say \"hi\"\n")⟩ = .ok "title like \"say \\\"hi\\\"\\n\"" := rfl

end TaskQuery
