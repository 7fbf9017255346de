import TaskQuery.Text.Letter
import TaskQuery.Text.WidthRanges

namespace TaskQuery.Text

/-- The columns that a character takes on its own. -/
def charWidth (c : Char) : Nat :=
  let n := c.toNat
  if n < 0x300 then
    if n < 0x20 || (0x7F ≤ n && n < 0xA0) then 0 else 1
  else if inRanges zeroWidthRanges n then 0
  else if inRanges wideRanges n then 2
  else 1

/-- The zero width joiner. -/
def joiner : Char := Char.ofNat 0x200D

/-- The selector that asks for the form as a picture. -/
def pictureSelector : Char := Char.ofNat 0xFE0F

/-- Whether a character grows to two columns as a picture. -/
def isPicture (c : Char) : Bool :=
  inRanges pictureRanges c.toNat

/-- The columns that a text takes behind `last`, the last character that took a column, unless a selector came since. -/
def widthAfter (last : Option Char) : List Char → Nat
  | [] => 0
  | [c] =>
    if c = joiner then 0 else if c = pictureSelector then (if last.any isPicture then 1 else 0) else charWidth c
  | c :: d :: cs =>
    if c = joiner then widthAfter last cs
    else if c = pictureSelector then (if last.any isPicture then 1 else 0) + widthAfter none (d :: cs)
    else charWidth c + widthAfter (if charWidth c = 0 then last else some c) (d :: cs)

def width (cs : List Char) : Nat :=
  widthAfter none cs

/-- The text cut to at most `columns` columns; a wide character that does not fit whole leaves a blank. -/
def cutTo (columns : Nat) : List Char → List Char
  | [] => []
  | c :: cs =>
    let w := charWidth c
    if w ≤ columns then c :: cutTo (columns - w) cs else List.replicate columns ' '

/-- The text padded with blanks to `columns` columns, and cut if it is longer. -/
def fitTo (columns : Nat) (cs : List Char) : List Char :=
  let taken := width cs
  if taken ≤ columns then cs ++ List.replicate (columns - taken) ' ' else cutTo columns cs

/-- Pieces of a text, put together with blanks in place of the tabs between them, each up to the next multiple of eight;
`column` is the one reached before. -/
def expandTabsFrom (column : Nat) : List (List Char) → List Char
  | [] => []
  | [piece] => piece
  | piece :: pieces =>
    let reached := column + width (piece ++ [' '])
    let gap := (8 - reached % 8) % 8
    piece ++ ' ' :: (List.replicate gap ' ' ++ expandTabsFrom (reached + gap) pieces)

/-- The text with tabs replaced by blanks. -/
def expandTabs (cs : List Char) : List Char :=
  expandTabsFrom 0 (cs.splitOn '\t')

example : width "日本é".toList = 5 := by decide +kernel

example : expandTabs "ab\tc".toList = "ab      c".toList := by decide +kernel

end TaskQuery.Text
