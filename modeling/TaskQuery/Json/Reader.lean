import TaskQuery.Text.Half
import TaskQuery.Value.Basic

namespace TaskQuery.Json

def isSpacing (c : Char) : Bool :=
  c == ' ' || c == '\t' || c == '\n' || c == '\r'

/-- Drops spacing at the front. -/
def skip (cs : List Char) : List Char :=
  cs.dropWhile isSpacing

def hexDigit? (c : Char) : Option Nat :=
  let n := c.toNat
  if '0' ≤ c ∧ c ≤ '9' then some (n - 0x30)
  else if 'a' ≤ c ∧ c ≤ 'f' then some (n - 0x57)
  else if 'A' ≤ c ∧ c ≤ 'F' then some (n - 0x37)
  else none

/-- Reads four hexadecimal digits. -/
def readUnit (cs : List Char) : Option (Nat × List Char) :=
  match cs with
  | a :: b :: c :: d :: rest => do
    let digits ← [a, b, c, d].mapM hexDigit?
    some (digits.foldl (fun n digit => n * 16 + digit) 0, rest)
  | _ => none

/-- Reads a character given by one or two units of sixteen bits, and how many characters it is written with. Half of a
pair of units may stand on its own. -/
def readCharacter (cs : List Char) : Option (Char × Nat) := do
  let (high, rest) ← readUnit cs
  let alone := (Text.ofUnit high, 4)
  if 0xD800 ≤ high ∧ high < 0xDC00 then
    match rest with
    | '\\' :: 'u' :: more => do
      let (low, _) ← readUnit more
      if 0xDC00 ≤ low ∧ low < 0xE000 then
        some (Char.ofNat (0x10000 + (high - 0xD800) * 0x400 + (low - 0xDC00)), 10)
      else some alone
    | _ => some alone
  else some alone

/-- The character that is written behind a backslash, and how many characters it is written with. -/
def readEscape (cs : List Char) : Option (Char × Nat) :=
  match cs with
  | [] => none
  | c :: rest =>
    if c = '"' ∨ c = '\\' ∨ c = '/' then some (c, 1)
    else if c = 'b' then some ('\x08', 1)
    else if c = 'f' then some ('\x0c', 1)
    else if c = 'n' then some ('\n', 1)
    else if c = 'r' then some ('\r', 1)
    else if c = 't' then some ('\t', 1)
    else if c = 'u' then (readCharacter rest).map fun (d, used) => (d, used + 1)
    else none

/-- Reads on in a text up to its closing quote. `passed` characters have been read ahead; `content` is the text so far, in
reverse. -/
def readText (passed : Nat) (content : List Char) : List Char → Option (List Char × List Char)
  | [] => none
  | c :: cs =>
    match passed with
    | passed + 1 => readText passed content cs
    | 0 =>
      if c = '"' then some (content.reverse, cs)
      else if c = '\\' then
        match readEscape cs with
        | none => none
        | some (d, used) => readText used (d :: content) cs
      else if c.toNat < 0x20 then none
      else readText 0 (c :: content) cs

/-- Reads a text behind its opening quote. -/
def readString (cs : List Char) : Option (String × List Char) :=
  (readText 0 [] cs).map fun (content, rest) => (String.ofList content, rest)

/-- Reads the digits before a point: a single zero, or digits that begin with another one. -/
def readWhole (cs : List Char) : Option (List Nat × List Char) :=
  match cs with
  | '0' :: rest => some ([0], rest)
  | _ =>
    match Numeral.readDigits Text.asciiDigit? cs with
    | ([], _) => none
    | found => some found

/-- A point with at least one digit behind it, and what follows. -/
def readFraction (cs : List Char) : Option (List Nat) × List Char :=
  match cs with
  | '.' :: rest =>
    match Numeral.readDigits Text.asciiDigit? rest with
    | ([], _) => (none, cs)
    | (digits, rest) => (some digits, rest)
  | _ => (none, cs)

/-- The value of a number, unless it is an integer with too many digits. -/
def numberValue? (n : Numeral) : Option Value :=
  if n.integral then if integerDigitLimit < n.whole.length then none else some (.int n.toInt)
  else some (.float n.toDecimal.toDouble)

def readNumber (cs : List Char) : Option (Value × List Char) := do
  let (negative, unsigned) :=
    match cs with
    | '-' :: rest => (true, rest)
    | _ => (false, cs)
  let (whole, afterWhole) ← readWhole unsigned
  let (fraction, afterFraction) := readFraction afterWhole
  let (exponent, rest) := Numeral.readExponent Text.asciiDigit? afterFraction
  let value ← numberValue? {
    negative, whole
    fraction := fraction.getD []
    exponent := exponent.getD 0
    integral := fraction.isNone && exponent.isNone }
  some (value, rest)

/-- What a word stands for: besides those of JSON, not-a-number and the infinities have one. -/
def words : List (String × Value) :=
  [
    ("null", .null),
    ("true", .bool true),
    ("false", .bool false),
    ("NaN", .float .nan),
    ("Infinity", .float (.infinite false)),
    ("-Infinity", .float (.infinite true))]

def readWord (cs : List Char) : Option (Value × List Char) :=
  (words.find? fun word => word.1.toList.isPrefixOf cs).map fun word => (word.2, cs.drop word.1.length)

/-- Puts a value under a key: in place of one that is there, and otherwise at the end. -/
def insert (key : String) (v : Value) : List (String × Value) → List (String × Value)
  | [] => [(key, v)]
  | (k, w) :: entries => if k = key then (k, v) :: entries else (k, w) :: insert key v entries

/-- Why a text cannot be read: it is not in JSON, or lists and objects lie too deep in one another. -/
inductive Failure where
  | malformed
  | tooDeep
  deriving DecidableEq

/-- What is read, or the failure of a text that is not in JSON. -/
def orMalformed {α : Type} : Option α → Except Failure α
  | some a => .ok a
  | none => .error .malformed

mutual

/-- Reads a value at the front of a text, with at most so many levels of lists and objects. -/
def readValue : (fuel levels : Nat) → List Char → Except Failure (Value × List Char)
  | 0, _, _ => .error .malformed
  | fuel + 1, levels, cs =>
    match cs with
    | '"' :: rest => (orMalformed (readString rest)).map fun (s, rest) => (.str s, rest)
    | '[' :: rest =>
      match levels with
      | 0 => .error .tooDeep
      | levels + 1 =>
        match skip rest with
        | ']' :: rest => .ok (.list [], rest)
        | rest => (readItems fuel levels rest).map fun (items, rest) => (.list items, rest)
    | '\x7b' :: rest =>
      match levels with
      | 0 => .error .tooDeep
      | levels + 1 =>
        match skip rest with
        | '\x7d' :: rest => .ok (.dict [], rest)
        | rest => (readMembers fuel levels [] rest).map fun (entries, rest) => (.dict entries, rest)
    | cs => orMalformed ((readWord cs).or (readNumber cs))

def readItems : (fuel levels : Nat) → List Char → Except Failure (List Value × List Char)
  | 0, _, _ => .error .malformed
  | fuel + 1, levels, cs =>
    match readValue fuel levels cs with
    | .error e => .error e
    | .ok (v, rest) =>
      match skip rest with
      | ']' :: rest => .ok ([v], rest)
      | ',' :: rest => (readItems fuel levels (skip rest)).map fun (items, rest) => (v :: items, rest)
      | _ => .error .malformed

/-- Reads the members of an object up to its end, behind the entries before them. -/
def readMembers : (fuel levels : Nat) → List (String × Value) → List Char →
    Except Failure (List (String × Value) × List Char)
  | 0, _, _, _ => .error .malformed
  | fuel + 1, levels, entries, cs =>
    match cs with
    | '"' :: rest =>
      match readString rest with
      | none => .error .malformed
      | some (key, rest) =>
        match skip rest with
        | ':' :: rest =>
          match readValue fuel levels (skip rest) with
          | .error e => .error e
          | .ok (v, rest) =>
            match skip rest with
            | '\x7d' :: rest => .ok (insert key v entries, rest)
            | ',' :: rest => readMembers fuel levels (insert key v entries) (skip rest)
            | _ => .error .malformed
        | _ => .error .malformed
    | _ => .error .malformed

end

/-- Reads a text in JSON, with at most so many levels of lists and objects. Every step of the reading takes a character, and
a list or an object one step more. -/
def read (levels : Nat) (s : String) : Except Failure Value :=
  let cs := s.toList
  match readValue (2 * cs.length + 2) levels (skip cs) with
  | .ok (v, rest) => if (skip rest).isEmpty then .ok v else .error .malformed
  | .error e => .error e

end TaskQuery.Json
