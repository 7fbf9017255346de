import TaskQuery.Calendar.IsoReading
import TaskQuery.Limits
import TaskQuery.Text.Blank
import TaskQuery.Value.Basic

namespace TaskQuery

/-- The units of an offset. -/
inductive OffsetUnit where
  | second
  | minute
  | hour
  | day
  | week
  | month
  | year
  deriving DecidableEq

namespace OffsetUnit

def letter : OffsetUnit → Char
  | second => 's'
  | minute => 'm'
  | hour => 'h'
  | day => 'd'
  | week => 'w'
  | month => 'M'
  | year => 'y'

def ofLetter? : Char → Option OffsetUnit
  | 's' => some second
  | 'm' => some minute
  | 'h' => some hour
  | 'd' => some day
  | 'w' => some week
  | 'M' => some month
  | 'y' => some year
  | _ => none

end OffsetUnit

namespace Moment

/-- The moment so many months on, at the same clock time: the day of the month is kept, or is the last one of the
month where that is shorter. -/
def shiftMonths? (m : Moment) (months : Int) : Option Moment :=
  let total := (m.day.year : Int) * 12 + (m.day.month - 1) + months
  let year := (total / 12).toNat
  let month := (total % 12).toNat + 1
  if 12 ≤ total then
    (Day.ofCivil? year month (min m.day.dayOfMonth (daysInMonth year month))).bind fun d => at? d m.clock
  else none

def offset? (m : Moment) (amount : Int) : OffsetUnit → Option Moment
  | .second => m.shift? (amount * secondMicros)
  | .minute => m.shift? (amount * 60 * secondMicros)
  | .hour => m.shift? (amount * 3600 * secondMicros)
  | .day => m.shift? (amount * dayMicros)
  | .week => m.shift? (amount * 7 * dayMicros)
  | .month => m.shiftMonths? amount
  | .year => m.shiftMonths? (amount * 12)

end Moment

/-- The periods whose start can be asked for. -/
inductive Period where
  | day
  | week
  | month
  | year
  deriving DecidableEq

def Period.ofLetter? : Char → Option Period
  | 'd' => some .day
  | 'w' => some .week
  | 'M' => some .month
  | 'y' => some .year
  | _ => none

/-- The number of the first day of the period that holds a day; weeks begin on Monday. -/
def Day.periodStart (d : Day) : Period → Nat
  | .day => d.number
  | .week => d.number - d.weekday
  | .month => d.number - (d.dayOfMonth - 1)
  | .year => daysBeforeYear d.year

def Moment.startOf? (m : Moment) (period : Period) : Option Moment :=
  (Day.ofNumber? (m.day.periodStart period)).map Moment.midnight

/-- What is asked for behind the word `now`. -/
inductive Step where
  | stay
  | offset (amount : Int) (unit : OffsetUnit)
  | startOf (period : Period)
  deriving DecidableEq

def Moment.step? (m : Moment) : Step → Option Moment
  | .stay => some m
  | .offset amount unit => m.offset? amount unit
  | .startOf period => m.startOf? period

/-- A date literal: a date of ISO 8601, the word `now`, an offset from it such as `now+7d`, or the start of a period such as
`now/w`. A text that begins with `now` is seen from the reference even if no step follows. -/
inductive DateLiteral where
  | iso (text : String)
  | relative (step : Option Step)

namespace DateLiteral

/-- Whether a text begins like `YYYY-MM-DD`. -/
def beginsLikeDate (cs : List Char) : Bool :=
  cs.length ≥ 10 && (cs.take 10).zipIdx.all fun (c, index) =>
    if index = 4 ∨ index = 7 then c == '-' else (Text.asciiDigit? c).isSome

/-- Reads what follows the word `now`; a unit that is not written is a day. -/
def readStep : List Char → Option Step
  | [] => some .stay
  | ['/', letter] => (Period.ofLetter? letter).map .startOf
  | sign :: cs =>
    if sign = '+' ∨ sign = '-' then
      match Numeral.readDigits Text.digitValue? cs with
      | ([], _) => none
      | (ds, rest) =>
        let size : Int := Text.digitsValue ds
        let amount := if sign = '-' then -size else size
        match rest with
        | [] => some (.offset amount .day)
        | [letter] => (OffsetUnit.ofLetter? letter).map (.offset amount)
        | _ => none
    else none

/-- Reads a date literal; longer texts than the limit are none. -/
def read? (s : String) : Option DateLiteral :=
  if maxDateLiteralLength < s.length then none
  else
    let token := Text.trim s
    if beginsLikeDate token.toList then some (iso token)
    else
      match token.toList with
      | 'n' :: 'o' :: 'w' :: rest => some (relative (readStep rest))
      | _ => none

/-- The instant of an ISO date between blanks; one final `Z` or `z` stands for universal time. -/
def isoInstant (s : String) : Except Fault (Option Moment) :=
  let cs := (Text.trim s).toList
  let cs :=
    if cs.getLast? = some 'Z' ∨ cs.getLast? = some 'z' then cs.dropLast ++ ['+', '0', '0', ':', '0', '0'] else cs
  match Iso.readTimestamp? (String.ofList cs) with
  | none => .ok none
  | some t =>
    match t.instant? with
    | some m => .ok (some m)
    | none => .error .instantOutOfRange

def instantOf (t : Timestamp) : Except Fault Moment :=
  match t.instant? with
  | some m => .ok m
  | none => .error .instantOutOfRange

/-- The instant of a literal, seen from a reference timestamp. Outside the years 1 to 9999 there is none, and an ISO date
that leaves them by its zone is a fault. -/
def resolveFrom (now : Timestamp) : DateLiteral → Except Fault (Option Moment)
  | iso text => isoInstant text
  | relative step => (instantOf now).map fun m => step.bind m.step?

/-- The instant that a text stands for as a date literal, seen from a reference timestamp. -/
def resolve (now : Timestamp) (s : String) : Except Fault (Option Moment) :=
  match read? s with
  | some literal => literal.resolveFrom now
  | none => .ok none

def isResolvable (now : Timestamp) (s : String) : Except Fault Bool :=
  (resolve now s).map Option.isSome

end DateLiteral

/-- The text that stands for no date at the beginning of a task's date. -/
def absentDateText : List Char := "0001-01-01".toList

/-- The instant of a date of a task. Absent are null, the empty text, texts that are no date or begin like the first
day of year 1, and timestamps whose clock shows year 1. -/
def taskInstant : Value → Except Fault (Option Moment)
  | .datetime t => if t.reading.day.year = 1 then .ok none else (DateLiteral.instantOf t).map some
  | .date d => .ok (some (.midnight d))
  | .str s => if s.isEmpty || absentDateText.isPrefixOf s.toList then .ok none else DateLiteral.isoInstant s
  | _ => .ok none

/-- Whether two timestamps fall on the same day of universal time. -/
def sameDay (a b : Timestamp) : Except Fault Bool := do
  let a ← DateLiteral.instantOf a
  let b ← DateLiteral.instantOf b
  return a.day = b.day

end TaskQuery
