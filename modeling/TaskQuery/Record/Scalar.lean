import TaskQuery.Record.Admission

namespace TaskQuery.Admission

open Text

def text : Value → Admission String
  | .str s => .ok s
  | _ => refuse .notText

/-- Reads a text, unless it holds half a surrogate pair. -/
def reading {α : Type} (read : String → Admission α) (s : String) : Admission α :=
  if hasHalf s then refuse .brokenText else read s

/-- Drops zeros, and low lines among them, before the first other digit or a minus; of zeros alone the last character is
kept, and the last one before a point. `previous` is the character before. -/
def dropZeros (previous : Char) : List Char → Option (List Char)
  | [] => some [previous]
  | c :: cs =>
    if c = '0' ∨ c = '_' then dropZeros c cs
    else if (asciiDigit? c).isSome ∨ c = '-' then some (c :: cs)
    else if c = '.' then some (previous :: c :: cs)
    else none

/-- An integer without the zeros that it begins with; it must begin with a digit or a minus. Zeros behind a minus stay. -/
def dropLeadingZeros : List Char → Option (List Char)
  | [] => none
  | c :: cs =>
    if c = '0' then dropZeros c cs else if (asciiDigit? c).isSome ∨ c = '-' then some (c :: cs) else none

/-- Drops a point with nothing but zeros behind it, of which there must be one. -/
def dropZeroFraction (cs : List Char) : List Char :=
  match cs.dropWhile (· != '.') with
  | _ :: fraction =>
    if !fraction.isEmpty && fraction.all (· == '0') then cs.takeWhile (· != '.') else cs
  | [] => cs

def hasDoubleLowLine : List Char → Bool
  | '_' :: '_' :: _ => true
  | _ :: cs => hasDoubleLowLine cs
  | [] => false

/-- Drops the low lines, if there is none at either end and no two are side by side. -/
def dropInnerLowLines (cs : List Char) : List Char :=
  if cs.head? = some '_' ∨ cs.getLast? = some '_' ∨ hasDoubleLowLine cs then cs else cs.filter (· != '_')

/-- Reads digits with an optional minus before them and no zero before another digit. -/
def readPlainInteger (cs : List Char) : Admission Int :=
  let negative := cs.head? = some '-'
  match (if negative then cs.drop 1 else cs).mapM asciiDigit? with
  | none | some [] | some (0 :: _ :: _) => refuse .unreadableInteger
  | some values =>
    if integerDigitLimit < cs.length then refuse .oversizedInteger
    else .ok (if negative then -(digitsValue values : Int) else digitsValue values)

def dropPlus (cs : List Char) : List Char :=
  if cs.head? = some '+' then cs.drop 1 else cs

/-- Reads an integer in digits `0` to `9`: between spaces, with a sign, zeros before the first other digit or a minus, single
low lines and a fraction of zeros. -/
def readInteger (s : String) : Admission Int :=
  match dropLeadingZeros (dropPlus (stripWhere isSpace s.toList)) with
  | none => refuse .unreadableInteger
  | some cs => readPlainInteger (dropInnerLowLines (dropZeroFraction cs))

/-- The bound on the size of a double that is taken for an integer. -/
def integerDoubleBound : Nat := 2 ^ 63

/-- Admits an integer: also a double without a fraction, a truth value as zero or one, and a text. -/
def integer : Value → Admission Int
  | .bool b => .ok (if b then 1 else 0)
  | .int n => .ok n
  | .float x =>
    if x.isFinite then
      match x.toInt? with
      | some n => if n.natAbs < integerDoubleBound then .ok n else refuse .oversizedInteger
      | none => refuse .fractionalInteger
    else refuse .infiniteInteger
  | .str s => reading readInteger s
  | _ => refuse .notInteger

/-- Reads all of `cs` as a double, in digits `0` to `9` or by name. -/
def readDouble? (cs : List Char) : Option Double :=
  match namedDouble? cs with
  | some x => some x
  | none => (Numeral.read? asciiDigit? cs).map fun n => n.toDecimal.toDouble

/-- Reads a double; where the text between spaces is none, the whole text without its low lines may be one. -/
def readDouble (s : String) : Admission Double :=
  match (readDouble? (stripWhere isSpace s.toList)).or (readDouble? (dropInnerLowLines s.toList)) with
  | some x => .ok x
  | none => refuse .unreadableNumber

def double : Value → Admission Double
  | .bool b => .ok (.ofBool b)
  | .int n => (Double.ofInt? n).elim (refuse .notNumber) .ok
  | .float x => .ok x
  | .str s => reading readDouble s
  | _ => refuse .notNumber

/-- The truth value that a word stands for, in letters of any case. -/
def readTruthValue? (s : String) : Option Bool :=
  let word := s.map Char.toLower
  if ["1", "on", "t", "true", "y", "yes"].contains word then some true
  else if ["0", "off", "f", "false", "n", "no"].contains word then some false
  else none

def readTruthValue (s : String) : Admission Bool :=
  match readTruthValue? s with
  | some b => .ok b
  | none => refuse .unreadableTruthValue

def truthOfInteger (n : Int) : Admission Bool :=
  if n = 0 then .ok false else if n = 1 then .ok true else refuse .unreadableTruthValue

/-- The integers of 64 bits. -/
def isWord (n : Int) : Bool :=
  -(2 ^ 63) ≤ n && n < 2 ^ 63

/-- Admits a truth value. A number that is an integer of ordinary size is at least looked at. -/
def truthValue : Value → Admission Bool
  | .bool b => .ok b
  | .int n => if isWord n then truthOfInteger n else refuse .notTruthValue
  | .float x =>
    match x.toInt? with
    | some n => if n.natAbs < integerDoubleBound then truthOfInteger n else refuse .notTruthValue
    | none => refuse .notTruthValue
  | .str s => reading readTruthValue s
  | _ => refuse .notTruthValue

example : (readInteger " -1_000.0 ").toOption = some (-1000) := by decide +kernel

example : (readInteger "00-7").toOption = some (-7) := by decide +kernel

example : (readInteger "12.").toOption = none := by decide +kernel

end TaskQuery.Admission
