import TaskQuery.Text.LetterRanges

namespace TaskQuery.Text

def inRanges (ranges : List (Nat × Nat)) (n : Nat) : Bool :=
  ranges.any (fun range => range.1 ≤ n && n ≤ range.2)

/-- Letters, numerals and the low line. -/
def isWordChar (c : Char) : Bool :=
  let n := c.toNat
  if n < 0x80 then c.isAlphanum || c == '_' else inRanges wordRanges n

/-- Whether exactly one of two neighbours is a word character; outside the text there is none. -/
def isWordEdge (before after : Option Char) : Bool :=
  before.any isWordChar != after.any isWordChar

example : isWordChar 'é' = true := by decide

end TaskQuery.Text
