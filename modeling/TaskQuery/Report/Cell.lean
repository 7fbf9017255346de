import TaskQuery.Text.Blank
import TaskQuery.Text.Width

namespace TaskQuery.Report

open Text

/-- Whether a character is left out: bell, backspace, vertical tab, form feed and carriage return. -/
def isDropped (c : Char) : Bool :=
  c == '\x07' || c == '\x08' || c == '\x0b' || c == '\x0c' || c == '\r'

def shownChars (s : String) : List Char :=
  s.toList.filter (!isDropped ·)

/-- The pieces of `cs` between the characters that `isBreak` accepts; `piece` is the one so far, in reverse. -/
def splitFrom (isBreak : Char → Bool) (piece : List Char) : List Char → List (List Char)
  | [] => [piece.reverse]
  | c :: cs => if isBreak c then piece.reverse :: splitFrom isBreak [] cs else splitFrom isBreak (c :: piece) cs

/-- The pieces of `cs` between the characters that `isBreak` accepts. -/
def splitAt (isBreak : Char → Bool) (cs : List Char) : List (List Char) :=
  splitFrom isBreak [] cs

/-- The lines of a text, with tabs expanded. -/
def linesOf (s : String) : List (List Char) :=
  (splitAt (· == '\n') (shownChars s)).map expandTabs

/-- Whether a character separates lines for the purpose of measuring a text. -/
def isLineSeparator (c : Char) : Bool :=
  let n := c.toNat
  c == '\n' || (0x1C ≤ n && n ≤ 0x1E) || n == 0x85 || n == 0x2028 || n == 0x2029

/-- The columns that the widest line of a text takes, tabs not counted. -/
def measure (s : String) : Nat :=
  ((splitAt isLineSeparator (shownChars s)).map width).foldl max 0

/-- A line cut into words, each with the blanks behind it, the first also with the blanks before it. `word` is the word so
far, in reverse; `ended` tells whether blanks have followed it. -/
def wordsFrom (word : List Char) (begun ended : Bool) : List Char → List (List Char)
  | [] => if begun then [word.reverse] else []
  | c :: cs =>
    if isBlank c then wordsFrom (c :: word) begun begun cs
    else if ended then word.reverse :: wordsFrom [c] true false cs
    else wordsFrom (c :: word) true false cs

/-- Puts words into lines of at most so many columns, not counting blanks at their ends. `line` is the line so far, in
reverse, and `taken` its columns. -/
def fillLines (columns : Nat) (line : List Char) (taken : Nat) : List (List Char) → List (List Char)
  | [] => [line.reverse]
  | word :: words =>
    let needed := width (word.reverse.dropWhile isBlank).reverse
    if line.isEmpty ∨ taken + needed ≤ columns then fillLines columns (word.reverse ++ line) (taken + width word) words
    else line.reverse :: fillLines columns word.reverse (width word) words

/-- Drops blanks at the end of a line, no more than the line is too long. -/
def trimEnd (columns : Nat) (cs : List Char) : List Char :=
  let blanks := (cs.reverse.takeWhile isBlank).length
  cs.take (cs.length - min blanks (cs.length - columns))

/-- A line in exactly so many columns; a line that is too wide ends in dots. -/
def fitLine (columns : Nat) (cs : List Char) : List Char :=
  if width cs ≤ columns then fitTo columns cs else fitTo (columns - 1) cs ++ ['…']

def cellLines (columns : Nat) (s : String) : List (List Char) :=
  (linesOf s).flatMap fun line =>
    let broken :=
      match wordsFrom [] false false line with
      | [] => [line]
      | words => fillLines columns [] 0 words
    broken.map fun part => fitLine columns (trimEnd columns part)

end TaskQuery.Report
