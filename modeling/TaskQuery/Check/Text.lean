import TaskQuery.Check.Verdict

namespace TaskQuery.Check

/-- Whether a character is a control character other than tab, line feed and carriage return. -/
def isForbiddenControl (c : Char) : Bool :=
  let n := c.toNat
  (n < 0x20 && c != '\t' && c != '\n' && c != '\r') || n == 0x7F

/-- The problem of a value as filter text of at most `bound` characters. -/
def textProblem? (bound : Int) : Value → Except Fault (Option Problem)
  | .str s =>
    if bound < (s.length : Int) then (writeInteger bound).map fun shown => some (.textTooLong s.length shown)
    else if s.toList.any isForbiddenControl then .ok (some .controlCharacters)
    else .ok none
  | _ => .ok (some .notText)

end TaskQuery.Check
