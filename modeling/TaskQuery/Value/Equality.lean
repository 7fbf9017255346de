import TaskQuery.Value.Basic

namespace TaskQuery.Value

mutual

/-- Equality of values: numbers by size, truth values as zero and one, and dictionaries without regard to order. -/
def same : Value → Value → Bool
  | null, w => w.isNull
  | bool b, w => w.number?.any (Number.same (.int (if b then 1 else 0)))
  | int n, w => w.number?.any (Number.same (.int n))
  | float x, w => w.number?.any (Number.same (.float x))
  | str s, w =>
    match w with
    | str t => s == t
    | _ => false
  | date d, w =>
    match w with
    | date e => d == e
    | _ => false
  | datetime t, w =>
    match w with
    | datetime u => t.same u
    | _ => false
  | list items, w =>
    match w with
    | list others => sameItems items others
    | _ => false
  | dict entries, w =>
    match w with
    | dict others => entries.length == others.length && sameEntries entries others
    | _ => false
  | record _, _ => false

def sameItems : List Value → List Value → Bool
  | [], others => others.isEmpty
  | v :: items, others =>
    match others with
    | [] => false
    | w :: others => same v w && sameItems items others

/-- Whether every entry has an equal one among the others. -/
def sameEntries : List (String × Value) → List (String × Value) → Bool
  | [], _ => true
  | (key, v) :: entries, others =>
    (match lookup? key others with
      | some w => same v w
      | none => false) && sameEntries entries others

end

end TaskQuery.Value
