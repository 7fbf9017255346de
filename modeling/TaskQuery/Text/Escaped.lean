import TaskQuery.Text.Half
import TaskQuery.Text.Letter
import TaskQuery.Text.UnprintableRanges

namespace TaskQuery.Text

/-- Whether a character has a visible form; the plain blank counts. -/
def isPrintable (c : Char) : Bool :=
  let n := c.toNat
  if n < 0x80 then 0x20 ≤ n && n < 0x7F else !inRanges unprintableRanges n

/-- The lowest `width` hexadecimal digits of `n`, in small letters. -/
def hexDigits : (width : Nat) → (n : Nat) → List Char
  | 0, _ => []
  | width + 1, n => hexDigits width (n / 16) ++ [Nat.digitChar (n % 16)]

/-- A character by number: two digits, four or eight, as many as it needs. Half a pair is shown by its own number. -/
def escapeByNumber (c : Char) : List Char :=
  let n := (half? c).getD c.toNat
  if n < 0x100 then '\\' :: 'x' :: hexDigits 2 n
  else if n < 0x10000 then '\\' :: 'u' :: hexDigits 4 n
  else '\\' :: 'U' :: hexDigits 8 n

def escapeChar (quote c : Char) : List Char :=
  if c = quote ∨ c = '\\' then ['\\', c]
  else if c = '\n' then ['\\', 'n']
  else if c = '\r' then ['\\', 'r']
  else if c = '\t' then ['\\', 't']
  else if isPrintable c then [c]
  else escapeByNumber c

def displayQuote (cs : List Char) : Char :=
  if cs.contains '\'' && !cs.contains '"' then '"' else '\''

/-- A text as messages show it: between single quotes, or double ones if it holds single quotes and no double ones. -/
def quoted (s : String) : String :=
  let cs := s.toList
  let quote := displayQuote cs
  String.ofList (quote :: (cs.flatMap (escapeChar quote) ++ [quote]))

example : quoted "it's" = "\"it's\"" := by decide

example : quoted "a\u00a0\n" = "'a\\xa0\\n'" := by decide

end TaskQuery.Text
