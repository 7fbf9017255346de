import TaskQuery.Calendar.IsoWriting
import TaskQuery.Text.Escaped
import TaskQuery.Value.Basic

namespace TaskQuery

def commaSeparated (texts : List String) : String :=
  ", ".intercalate texts

/-- A day, part by part. -/
def Day.shown (d : Day) : String :=
  s!"datetime.date({d.year}, {d.month}, {d.dayOfMonth})"

/-- A span of time in days, seconds and microseconds, of which only the days may be negative. -/
def shownSpan (micros : Int) : String :=
  let days := micros / dayMicros
  let rest := (micros % dayMicros).toNat
  let part (name : String) (n : Int) : List String := if n = 0 then [] else [name ++ "=" ++ toString n]
  let parts := part "days" days ++ part "seconds" (rest / secondMicros : Nat) ++ part "microseconds" (rest % secondMicros : Nat)
  "datetime.timedelta(" ++ (if parts.isEmpty then "0" else commaSeparated parts) ++ ")"

/-- An offset: universal time has a name of its own. -/
def Offset.shown (offset : Offset) : String :=
  if offset.micros = 0 then "datetime.timezone.utc" else "datetime.timezone(" ++ shownSpan offset.micros ++ ")"

/-- A timestamp, part by part; seconds and microseconds are left out from the end while they are zero. -/
def Timestamp.shown (t : Timestamp) : String :=
  let d := t.reading.day
  let seconds := t.reading.clock / secondMicros
  let micros := t.reading.clock % secondMicros
  let parts := [d.year, d.month, d.dayOfMonth, seconds / 3600, seconds / 60 % 60]
  let parts :=
    if micros ≠ 0 then parts ++ [seconds % 60, micros] else if seconds % 60 ≠ 0 then parts ++ [seconds % 60] else parts
  let zone :=
    match t.offset with
    | none => []
    | some offset => ["tzinfo=" ++ offset.shown]
  "datetime.datetime(" ++ commaSeparated (parts.map (toString ·) ++ zone) ++ ")"

namespace Value

mutual

/-- The spelling of a value inside another one. -/
def shown : Value → Except Fault String
  | null => .ok "None"
  | bool b => .ok (if b then "True" else "False")
  | int n => writeInteger n
  | float x => .ok x.display
  | str s => .ok (Text.quoted s)
  | date d => .ok d.shown
  | datetime t => .ok t.shown
  | list items => (shownItems items).map fun texts => "[" ++ commaSeparated texts ++ "]"
  | dict entries => (shownEntries entries).map fun texts => "\x7b" ++ commaSeparated texts ++ "\x7d"
  | record attributes => (shownEntries attributes).map fun texts => "(" ++ commaSeparated texts ++ ")"

def shownItems : List Value → Except Fault (List String)
  | [] => .ok []
  | v :: items => do return (← v.shown) :: (← shownItems items)

def shownEntries : List (String × Value) → Except Fault (List String)
  | [] => .ok []
  | (key, v) :: entries => do return (Text.quoted key ++ ": " ++ (← v.shown)) :: (← shownEntries entries)

end

/-- The text of a value: a text stands for itself, and is quoted only inside another value. -/
def text : Value → Except Fault String
  | str s => .ok s
  | date d => .ok (String.ofList d.iso)
  | datetime t => .ok (t.isoWith ' ')
  | v => v.shown

end Value

end TaskQuery
