import TaskQuery.Calendar.Moment
import TaskQuery.Text.Digit

namespace TaskQuery.Iso

open Text

/-- A row of exactly `count` digits `0` to `9`, and what follows it. -/
def takeDigits : (count : Nat) → List Char → Option (Nat × List Char)
  | count, cs =>
    let ds := cs.take count
    if ds.length = count then
      (ds.mapM asciiDigit?).map fun values => (digitsValue values, cs.drop count)
    else none

/-- Whether the character at an index is a digit `0` to `9`. -/
def digitAt (cs : List Char) (index : Nat) : Bool :=
  (cs[index]?.bind asciiDigit?).isSome

/-- The length of the date at the front of a text. A date by week is followed by an odd number of digits if it has
no day and the separator is no digit. -/
def dateLength (cs : List Char) : Nat :=
  if cs.length = 7 then 7
  else if cs[4]? = some '-' then
    if cs[5]? = some 'W' then
      if cs[8]? = some '-' then
        if digitAt cs 10 then 8 else 10
      else 8
    else 10
  else if cs[4]? = some 'W' then
    let digits := 7 + ((cs.drop 7).takeWhile fun c => (asciiDigit? c).isSome).length
    if digits < 9 then digits else if digits % 2 = 0 then 7 else 8
  else 8

/-- Drops `mark` where it is `wanted`. -/
def dropMark (wanted : Bool) (mark : Char) (cs : List Char) : Option (List Char) :=
  if wanted then
    match cs with
    | c :: rest => if c = mark then some rest else none
    | [] => none
  else some cs

/-- Reads a date by month, `YYYY-MM-DD` or `YYYYMMDD`, or by week, `YYYY-Www-D`, `YYYY-Www`, `YYYYWwwD` or `YYYYWww`. -/
def readDate (cs : List Char) : Option Day := do
  let (year, rest) ← takeDigits 4 cs
  let hyphens := rest.head? == some '-'
  let rest ← dropMark hyphens '-' rest
  match rest with
  | 'W' :: rest =>
    let (week, rest) ← takeDigits 2 rest
    if rest.isEmpty then Day.ofWeek? year week 1
    else
      let rest ← dropMark hyphens '-' rest
      let (day, rest) ← takeDigits 1 rest
      if rest.isEmpty then Day.ofWeek? year week day else none
  | _ =>
    let (month, rest) ← takeDigits 2 rest
    let rest ← dropMark hyphens '-' rest
    let (day, rest) ← takeDigits 2 rest
    if rest.isEmpty then Day.ofCivil? year month day else none

/-- A clock time as written, and whether anything is left over behind it. -/
structure Clock where
  hour : Nat
  minute : Nat
  second : Nat
  micros : Nat
  leftover : Bool

/-- The clock time with up to three two-digit parts and a fraction. -/
def Clock.ofParts (parts : List Nat) (micros : Nat) (leftover : Bool) : Clock :=
  { hour := parts.getD 0 0, minute := parts.getD 1 0, second := parts.getD 2 0, micros, leftover }

/-- The microseconds of a clock time; the parts are not bounded. -/
def Clock.total (c : Clock) : Nat :=
  (c.hour * 3600 + c.minute * 60 + c.second) * secondMicros + c.micros

/-- Whether something is left over behind a clock time or a zone: nothing is behind the end, and nothing counts from a null
character on. -/
def isLeftover (rest : List Char) : Bool :=
  rest.head?.any (· != Char.ofNat 0)

/-- Reads a fraction: the first six characters are digits, further digits are passed over. -/
def readFraction (cs : List Char) : Option (Nat × Bool) :=
  let size := min 6 cs.length
  match takeDigits size cs with
  | some (value, rest) =>
    if size = 0 then none
    else some (value * 10 ^ (6 - size), isLeftover (rest.dropWhile fun c => (asciiDigit? c).isSome))
  | none => none

/-- Reads a clock time behind the parts already read, of which there may be `more`. The first character behind the
hour decides whether colons separate the parts. A single ASCII character at the end may be left over. -/
def readParts : (more : Nat) → (parts : List Nat) → (colons : Option Bool) → List Char → Option Clock
  | 0, parts, _, cs =>
    (readFraction cs).map fun (micros, leftover) => .ofParts parts micros leftover
  | more + 1, parts, colons, cs =>
    match takeDigits 2 cs with
    | none => none
    | some (value, rest) =>
      let parts := parts ++ [value]
      match rest with
      | [] => some (.ofParts parts 0 false)
      | [mark] => if mark.toNat < 0x80 then some (.ofParts parts 0 (isLeftover rest)) else none
      | mark :: next =>
        let colons := colons.getD (mark = ':')
        if colons && mark = ':' then readParts more parts (some colons) next
        else if mark = '.' ∨ mark = ',' then
          (readFraction next).map fun (micros, leftover) => .ofParts parts micros leftover
        else if colons then none
        else readParts more parts (some colons) (mark :: next)

/-- Reads a clock time of one to three pairs of digits, with colons between all of them or none. A fraction of any length
may follow the third pair; six of its digits count. -/
def readClock (cs : List Char) : Option Clock :=
  readParts 3 [] none cs

def beginsZone (c : Char) : Bool :=
  c == '+' || c == '-' || c == 'Z'

/-- Reads a zone: `Z`, or a sign and a clock time without leftover. An offset of less than a second is none. -/
def readZone (cs : List Char) : Option Offset :=
  match cs with
  | 'Z' :: rest => if isLeftover rest then none else some .zero
  | sign :: rest =>
    match readClock rest with
    | none => none
    | some c =>
      if c.leftover then none
      else if c.total < secondMicros then some .zero
      else Offset.ofMicros? (if sign = '-' then -(c.total : Int) else c.total)
  | [] => none

/-- The moment of a day at a clock time that a clock can show. -/
def momentAt (d : Day) (c : Clock) : Option Moment :=
  if c.hour < 24 ∧ c.minute < 60 ∧ c.second < 60 then Moment.at? d c.total else none

/-- Reads a clock time with an optional zone. Only before a zone may a character be left over. -/
def readTime (d : Day) (cs : List Char) : Option Timestamp := do
  let clockText := cs.takeWhile (!beginsZone ·)
  let zoneText := cs.drop clockText.length
  let clock ← readClock clockText
  let reading ← momentAt d clock
  if zoneText.isEmpty then
    if clock.leftover then none else some ⟨reading, none⟩
  else
    let offset ← readZone zoneText
    some ⟨reading, some offset⟩

/-- Reads a date, or a date and a clock time with a single character of any kind between them. -/
def readTimestamp? (s : String) : Option Timestamp :=
  let cs := s.toList
  if cs.length < 7 then none
  else
    let length := dateLength cs
    match readDate (cs.take length) with
    | none => none
    | some d =>
      match cs.drop length with
      | [] => some ⟨.midnight d, none⟩
      | _ :: time => readTime d time

end TaskQuery.Iso
