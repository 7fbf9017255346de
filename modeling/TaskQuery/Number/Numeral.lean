import TaskQuery.Fault
import TaskQuery.Number.Basic
import TaskQuery.Text.Blank
import TaskQuery.Text.Digit

namespace TaskQuery

open Text

/-- The most digits that an integer may be written with. -/
def integerDigitLimit : Nat := 4300

/-- An integer in decimal digits, of which there may be no more than the limit. -/
def writeInteger (n : Int) : Except Fault String :=
  if n.natAbs < 10 ^ integerDigitLimit then .ok (toString n) else .error .integerTooLong

theorem writeInteger_eq_ok_iff {n : Int} {text : String} :
    writeInteger n = .ok text ↔ n.natAbs < 10 ^ integerDigitLimit ∧ text = toString n := by
  unfold writeInteger
  split
  · rename_i short
    rw [Except.ok.injEq, and_iff_right short, eq_comm]
  · rename_i long
    exact iff_of_false (fun same => by cases same) fun written => long written.1

/-- An integer with more digits than the limit. -/
def TooLong (n : Int) : Prop :=
  10 ^ integerDigitLimit ≤ n.natAbs

instance (n : Int) : Decidable (TooLong n) :=
  inferInstanceAs (Decidable (_ ≤ _))

theorem exists_writeInteger_iff {n : Int} : (∃ text, writeInteger n = .ok text) ↔ ¬TooLong n := by
  simp only [writeInteger_eq_ok_iff, exists_and_left, exists_eq, and_true, TooLong, Nat.not_le]

/-- The parts of a written number. -/
structure Numeral where
  negative : Bool
  whole : List Nat
  fraction : List Nat
  exponent : Int
  /-- Neither a point nor an exponent is written. -/
  integral : Bool

namespace Numeral

def toDecimal (n : Numeral) : Decimal where
  negative := n.negative
  coefficient := digitsValue (n.whole ++ n.fraction)
  exponent := n.exponent - n.fraction.length

/-- The written integer, of a number without point and exponent. -/
def toInt (n : Numeral) : Int :=
  if n.negative then -(digitsValue n.whole : Int) else digitsValue n.whole

/-- An optional sign and what follows it; `true` stands for minus. -/
def readSign : List Char → Bool × List Char
  | '+' :: cs => (false, cs)
  | '-' :: cs => (true, cs)
  | cs => (false, cs)

/-- The longest run of digits at the front, as values, and what follows it. -/
def readDigits (digit? : Char → Option Nat) : List Char → List Nat × List Char
  | [] => ([], [])
  | c :: cs =>
    match digit? c with
    | some d => (d :: (readDigits digit? cs).1, (readDigits digit? cs).2)
    | none => ([], c :: cs)

/-- An exponent and what follows it; none is read where no digits follow the letter. -/
def readExponent (digit? : Char → Option Nat) (cs : List Char) : Option Int × List Char :=
  match cs with
  | [] => (none, [])
  | mark :: rest =>
    if mark = 'e' ∨ mark = 'E' then
      let (negative, body) := readSign rest
      match readDigits digit? body with
      | ([], _) => (none, cs)
      | (ds, after) => (some (if negative then -(digitsValue ds : Int) else digitsValue ds), after)
    else (none, cs)

/-- A point with the digits behind it, and what follows; `none` where there is no point. -/
def readFraction (digit? : Char → Option Nat) : List Char → Option (List Nat) × List Char
  | '.' :: cs => (some (readDigits digit? cs).1, (readDigits digit? cs).2)
  | cs => (none, cs)

/-- Reads the whole of `cs` as a number with the given digits. -/
def read? (digit? : Char → Option Nat) (cs : List Char) : Option Numeral :=
  let (negative, unsigned) := readSign cs
  let (whole, afterWhole) := readDigits digit? unsigned
  let (fraction, afterFraction) := readFraction digit? afterWhole
  let (exponent, rest) := readExponent digit? afterFraction
  if (whole.isEmpty && (fraction.getD []).isEmpty) || !rest.isEmpty then none
  else some {
    negative, whole
    fraction := fraction.getD []
    exponent := exponent.getD 0
    integral := fraction.isNone && exponent.isNone }

end Numeral

/-- What reading a number literal gives. -/
inductive LiteralReading where
  | notNumber
  | number (n : Number)
  /-- An integer with more digits than the limit. -/
  | tooManyDigits (count : Nat)
  deriving DecidableEq

/-- Drops one line feed at the end. -/
def dropFinalNewline (cs : List Char) : List Char :=
  if cs.getLast? = some '\n' then cs.dropLast else cs

/-- Reads what a filter may hold for a number: an optional sign, digits of any script with an optional point, an optional
exponent, and at most one line feed at the end. -/
def readLiteral (s : String) : LiteralReading :=
  match Numeral.read? digitValue? (dropFinalNewline s.toList) with
  | none => .notNumber
  | some n =>
    if n.integral then
      if integerDigitLimit < n.whole.length then .tooManyDigits n.whole.length else .number (.int n.toInt)
    else .number (.float n.toDecimal.toDouble)

/-- The text without low lines, if each of them stands between two digits; `before` tells whether a digit comes
directly before. -/
def dropLowLines (before : Bool) : List Char → Option (List Char)
  | [] => some []
  | '_' :: c :: cs =>
    if before && isDigit c then (dropLowLines true cs).map (c :: ·) else none
  | c :: cs => if c = '_' then none else (dropLowLines (isDigit c) cs).map (c :: ·)

/-- The named numbers: infinity and not-a-number, in letters of any case. -/
def namedDouble? (cs : List Char) : Option Double :=
  let (negative, name) := Numeral.readSign cs
  let name := name.map Char.toLower
  if name = ['i', 'n', 'f'] ∨ name = ['i', 'n', 'f', 'i', 'n', 'i', 't', 'y'] then some (.infinite negative)
  else if name = ['n', 'a', 'n'] then some .nan
  else none

/-- Reads a measure, the text as a double: a numeral between spaces, with single low lines between digits, or a named
number. -/
def readMeasure? (s : String) : Option Double :=
  let cs := stripWhere isSpace s.toList
  match namedDouble? cs with
  | some x => some x
  | none =>
    (dropLowLines false cs).bind fun digits =>
      (Numeral.read? digitValue? digits).map fun n => n.toDecimal.toDouble

/-- Reads an integer between spaces, with single low lines between digits. -/
def readInteger? (s : String) : Option Int :=
  (dropLowLines false (stripWhere isSpace s.toList)).bind fun digits =>
    match Numeral.read? digitValue? digits with
    | some n => if n.integral && n.whole.length ≤ integerDigitLimit then some n.toInt else none
    | none => none

end TaskQuery
