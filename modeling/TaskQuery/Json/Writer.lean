import TaskQuery.Text.Escaped
import TaskQuery.Value.Display

namespace TaskQuery.Json

def escape (c : Char) : List Char :=
  if c = '"' ∨ c = '\\' then ['\\', c]
  else if c = '\n' then ['\\', 'n']
  else if c = '\r' then ['\\', 'r']
  else if c = '\t' then ['\\', 't']
  else if c = '\x08' then ['\\', 'b']
  else if c = '\x0c' then ['\\', 'f']
  else if c.toNat < 0x20 then '\\' :: 'u' :: Text.hexDigits 4 c.toNat
  else [c]

def quoted (s : String) : String :=
  String.ofList ('"' :: (s.toList.flatMap escape ++ ['"']))

def doubleText : Double → String
  | .nan => "NaN"
  | .infinite negative => if negative then "-Infinity" else "Infinity"
  | x => x.display

/-- A new line, a number of levels further in. -/
def newLine (depth : Nat) : String :=
  "\n" ++ String.ofList (List.replicate (2 * depth) ' ')

/-- Parts between brackets, each on a line of its own; without parts the brackets stand side by side. -/
def block (opening closing : String) (depth : Nat) (parts : List String) : String :=
  if parts.isEmpty then opening ++ closing
  else opening ++ newLine (depth + 1) ++ ("," ++ newLine (depth + 1)).intercalate parts ++ newLine depth ++ closing

mutual

def writeAt (depth : Nat) : Value → Except Fault String
  | .null => .ok "null"
  | .bool b => .ok (if b then "true" else "false")
  | .int n => writeInteger n
  | .float x => .ok (doubleText x)
  | .str s => .ok (quoted s)
  | .date d => .ok (quoted (String.ofList d.iso))
  | .datetime t => .ok (quoted (t.isoWith ' '))
  | .list items => (writeItems (depth + 1) items).map (block "[" "]" depth)
  | .dict entries | .record entries => (writeEntries (depth + 1) entries).map (block "\x7b" "\x7d" depth)

def writeItems (depth : Nat) : List Value → Except Fault (List String)
  | [] => .ok []
  | v :: items => do return (← writeAt depth v) :: (← writeItems depth items)

def writeEntries (depth : Nat) : List (String × Value) → Except Fault (List String)
  | [] => .ok []
  | (key, v) :: entries => do return (quoted key ++ ": " ++ (← writeAt depth v)) :: (← writeEntries depth entries)

end

/-- A value over several lines, each level two blanks further in. -/
def write (v : Value) : Except Fault String :=
  writeAt 0 v

end TaskQuery.Json
