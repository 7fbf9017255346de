import TaskQuery.Calendar.IsoReading
import TaskQuery.Record.Scalar

namespace TaskQuery.Admission

open Text

/-- Seconds from the beginning of year 1 to the beginning of 1970. -/
def epochSeconds : Nat := daysBeforeYear 1970 * 86400

/-- Numbers further from zero count milliseconds. -/
def secondsBound : Nat := 20000000000

/-- Days of the year 0 can be written and counted, though no timestamp lies in it. -/
def yearZeroMicros : Nat := 366 * dayMicros

/-- Why a number is no timestamp. -/
inductive EpochError where
  | tooEarly
  | inYearZero
  | tooLate
  deriving DecidableEq

/-- The timestamp of universal time so many microseconds after the beginning of 1970. -/
def ofEpochMicros (micros : Int) : Except EpochError Timestamp :=
  let total : Int := epochSeconds * secondMicros + micros
  match Moment.ofMicros? total with
  | some m => .ok (.utc m)
  | none =>
    if total < -(yearZeroMicros : Int) then .error .tooEarly
    else if total < 0 then .error .inYearZero
    else .error .tooLate

/-- The timestamp that an integer counts. -/
def ofEpoch (count : Int) : Except EpochError Timestamp :=
  ofEpochMicros (if count.natAbs ≤ secondsBound then count * secondMicros else count * (secondMicros / 1000 : Nat))

/-- The nearest whole number to so many parts of one, of which `units` are given; the product is a double before it is
rounded, and a half is rounded up. -/
def roundedParts (parts units : Nat) : Nat :=
  match Double.ofRatio false (units * parts) unitsPerOne with
  | .finite _ code => (2 * codeUnits code + unitsPerOne) / (2 * unitsPerOne)
  | _ => 0

/-- The timestamp that a double counts: the next lower whole number and the fraction above it. -/
def ofEpochDouble (x : Double) : Except EpochError Timestamp :=
  match x.units? with
  | some units =>
    let scale := if units.natAbs ≤ secondsBound * unitsPerOne then secondMicros else secondMicros / 1000
    ofEpochMicros (units / unitsPerOne * scale + roundedParts scale (units % unitsPerOne).toNat)
  | none => .error (if x = .infinite true then .tooEarly else .tooLate)

def EpochError.flaw : EpochError → Flaw
  | tooEarly => .timestampTooEarly
  | inYearZero => .yearZero
  | tooLate => .timestampTooLate

/-- Admits what a number counts. -/
def epoch : Except EpochError Timestamp → Admission Timestamp
  | .ok t => .ok t
  | .error e => refuse e.flaw

/-- Admits a timestamp, a day as its midnight, or a number. -/
def timestampValue : Value → Admission Timestamp
  | .datetime t => .ok t
  | .date d => .ok ⟨.midnight d, none⟩
  | .int n => if (Double.ofInt? n).isSome then epoch (ofEpoch n) else refuse .notATimestamp
  | .float x => if x.isNumber then epoch (ofEpochDouble x) else refuse .timestampNotANumber
  | _ => refuse .notATimestamp

def digitsAt (cs : List Char) (indexes : List Nat) : Bool :=
  indexes.all (Iso.digitAt cs)

/-- The number that the digits at the front of `cs` from an index on denote. -/
def numberAt (cs : List Char) (start size : Nat) : Nat :=
  digitsValue (((cs.drop start).take size).filterMap asciiDigit?)

/-- A day as it can be written, or a day of year 0. -/
inductive WrittenDay where
  | day (d : Day)
  | inYearZero
  deriving DecidableEq

/-- Reads the day at the front of a text as `YYYY-MM-DD`. The first thing that is wrong is told. -/
def readDay (s : String) : Except Flaw WrittenDay :=
  let cs := s.toList
  if s.utf8ByteSize < 10 then .error .dateTooShort
  else if !digitsAt cs [0, 1, 2, 3] then .error .badYear
  else if cs[4]? ≠ some '-' then .error .badDateSeparator
  else if !digitsAt cs [5, 6] then .error .badMonth
  else if cs[7]? ≠ some '-' then .error .badDateSeparator
  else if !digitsAt cs [8, 9] then .error .badDay
  else
    let year := numberAt cs 0 4
    let month := numberAt cs 5 2
    let day := numberAt cs 8 2
    if month < 1 ∨ 12 < month then .error .monthOutOfRange
    else if day < 1 ∨ daysInMonth year month < day then .error .dayOutOfRange
    else
      match Day.ofCivil? year month day with
      | some d => .ok (.day d)
      | none => .ok .inYearZero

def WrittenDay.at (d : WrittenDay) (clock : Nat) (offset : Option Offset) : Admission Timestamp :=
  match d with
  | inYearZero => refuse .yearZero
  | day d =>
    match Moment.at? d clock with
    | some reading => .ok ⟨reading, offset⟩
    | none => refuse .notATimestamp

/-- Reads the fraction of a second, of which six digits count; at least one must be there. -/
def readSecondFraction (cs : List Char) : Option (Nat × List Char) :=
  let (digits, rest) := Numeral.readDigits asciiDigit? cs
  if digits.isEmpty then none
  else
    let counted := digits.take 6
    some (digitsValue counted * 10 ^ (6 - counted.length), rest)

/-- Reads the seconds and their fraction, in microseconds, behind the minutes. -/
def readSeconds (cs : List Char) : Option (Nat × List Char) :=
  match cs with
  | ':' :: rest => do
    let (second, rest) ← Iso.takeDigits 2 rest
    if 60 ≤ second then none
    else
      match rest with
      | mark :: rest =>
        if mark = '.' ∨ mark = ',' then
          (readSecondFraction rest).map fun (micros, rest) => (second * secondMicros + micros, rest)
        else some (second * secondMicros, mark :: rest)
      | [] => some (second * secondMicros, [])
  | rest => some (0, rest)

/-- Reads a clock time in microseconds since midnight. -/
def readDayClock (cs : List Char) : Option (Nat × List Char) := do
  let (hour, rest) ← Iso.takeDigits 2 cs
  let rest ← Iso.dropMark true ':' rest
  let (minute, rest) ← Iso.takeDigits 2 rest
  if 24 ≤ hour ∨ 60 ≤ minute then none
  else
    let (seconds, rest) ← readSeconds rest
    some ((hour * 60 + minute) * 60 * secondMicros + seconds, rest)

/-- Reads hours and minutes of an offset, with or without a colon, up to the end. -/
def readOffset (negative : Bool) (cs : List Char) : Option Offset := do
  let (hour, rest) ← Iso.takeDigits 2 cs
  let (minute, rest) ← Iso.takeDigits 2 (if rest.head? = some ':' then rest.drop 1 else rest)
  let size : Int := (hour * 60 + minute) * 60 * secondMicros
  if rest.isEmpty ∧ minute < 60 then Offset.ofMicros? (if negative then -size else size) else none

/-- Reads a zone up to the end; nothing at all is no zone. -/
def readEnd : List Char → Option (Option Offset)
  | [] => some none
  | c :: cs =>
    if c = 'Z' ∨ c = 'z' then if cs.isEmpty then some (some .zero) else none
    else if c = '+' then (readOffset false cs).map some
    else if c = '-' ∨ c = Char.ofNat 0x2212 then (readOffset true cs).map some
    else none

/-- Reads what follows a day: a separator, a clock time in microseconds and a zone. -/
def readDayTime? (cs : List Char) : Option (Nat × Option Offset) :=
  match cs with
  | separator :: rest =>
    if separator = 'T' ∨ separator = 't' ∨ separator = ' ' ∨ separator = '_' then do
      let (clock, rest) ← readDayClock rest
      let offset ← readEnd rest
      some (clock, offset)
    else none
  | [] => none

/-- A number of seconds or milliseconds in text. -/
inductive EpochText where
  | whole (count : Int)
  | fractional (x : Double)
  deriving DecidableEq

/-- Reads a text as a number that counts seconds or milliseconds. An integer has 64 bits; a number with a point may also
have an exponent, and its digits before the point are no more than an integer has. -/
def readEpoch? (s : String) : Option EpochText :=
  let (negative, unsigned) := Numeral.readSign s.toList
  let (digits, rest) := Numeral.readDigits asciiDigit? unsigned
  let count : Int := if negative then -(digitsValue digits : Int) else digitsValue digits
  if !isWord count then none
  else
    match rest with
    | [] => if digits.isEmpty then none else some (.whole count)
    | '.' :: _ => (Numeral.read? asciiDigit? s.toList).map fun n => .fractional n.toDecimal.toDouble
    | _ => none

/-- The timestamp that a text stands for: with a clock time, or as a number. -/
def readInstant? (day : Option WrittenDay) (s : String) : Option (Admission Timestamp) :=
  match day.bind fun d => (readDayTime? (s.toList.drop 10)).map fun (clock, offset) => d.at clock offset with
  | some t => some t
  | none =>
    match readEpoch? s with
    | some (.whole count) =>
      match ofEpoch count with
      | .ok t => some (.ok t)
      | .error .tooEarly => some (refuse .dateTooEarly)
      | .error .inYearZero => some (refuse .yearZero)
      | .error .tooLate => some (refuse .dateTooLate)
    | some (.fractional x) =>
      match ofEpochDouble x with
      | .ok t => some (.ok t)
      | .error .inYearZero => some (refuse .yearZero)
      | .error _ => none
    | none => none

/-- Reads a timestamp from text: with a clock time, as a number, or as a day alone. -/
def readTimestampText (s : String) : Admission Timestamp :=
  match readInstant? (readDay s).toOption s with
  | some t => t
  | none =>
    match readDay s with
    | .error flaw => refuse flaw
    | .ok d => if s.length = 10 then d.at 0 none else refuse .dateFollowedByMore

/-- Admits a timestamp, also from text. -/
def timestamp : Value → Admission Timestamp
  | .str s => reading readTimestampText s
  | v => timestampValue v

example : (ofEpochDouble (Double.ofRatio true 1 4)).toOption = (ofEpochMicros (-250000)).toOption := by decide +kernel

end TaskQuery.Admission
