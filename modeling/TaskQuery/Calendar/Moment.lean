import TaskQuery.Calendar.Day

namespace TaskQuery

def secondMicros : Nat := 1000000

def dayMicros : Nat := 86400 * secondMicros

def momentCount : Nat := dayCount * dayMicros

/-- A microsecond of the years 1 to 9999. -/
structure Moment where
  micros : Nat
  inRange : micros < momentCount
  deriving DecidableEq

namespace Moment

/-- The moment with a count of microseconds, if it is in range. -/
def ofMicros? (micros : Int) : Option Moment :=
  if h : micros.toNat < momentCount then
    if 0 ≤ micros then some ⟨micros.toNat, h⟩ else none
  else none

/-- The moment so many microseconds on, if it is in range. -/
def shift? (m : Moment) (micros : Int) : Option Moment :=
  ofMicros? (m.micros + micros)

def day (m : Moment) : Day :=
  ⟨m.micros / dayMicros, Nat.div_lt_of_lt_mul (Nat.mul_comm dayCount dayMicros ▸ m.inRange)⟩

/-- The microseconds since midnight. -/
def clock (m : Moment) : Nat :=
  m.micros % dayMicros

def midnight (d : Day) : Moment :=
  ⟨d.number * dayMicros, Nat.mul_lt_mul_of_pos_right d.inRange (by decide)⟩

/-- The moment of a day at a clock reading, which must lie within the day. -/
def at? (d : Day) (clock : Nat) : Option Moment :=
  if clock < dayMicros then ofMicros? (d.number * dayMicros + clock : Nat) else none

end Moment

/-- The distance of a clock from universal time, less than a day either way. -/
structure Offset where
  micros : Int
  bounded : micros.natAbs < dayMicros
  deriving DecidableEq

namespace Offset

/-- The clock that shows universal time. -/
def zero : Offset := ⟨0, by decide⟩

/-- The offset of so many microseconds, if that is less than a day. -/
def ofMicros? (micros : Int) : Option Offset :=
  if h : micros.natAbs < dayMicros then some ⟨micros, h⟩ else none

end Offset

/-- What a clock shows, and its offset where that is known. A timestamp without an offset is read as universal
time wherever an instant is needed. -/
structure Timestamp where
  reading : Moment
  offset : Option Offset
  deriving DecidableEq

namespace Timestamp

/-- Microseconds of universal time since the beginning of year 1; they may leave the years 1 to 9999. -/
def instantMicros (t : Timestamp) : Int :=
  match t.offset with
  | none => t.reading.micros
  | some offset => t.reading.micros - offset.micros

/-- The instant, if it lies in the years 1 to 9999. -/
def instant? (t : Timestamp) : Option Moment :=
  match t.offset with
  | none => some t.reading
  | some offset => t.reading.shift? (-offset.micros)

def utc (m : Moment) : Timestamp :=
  ⟨m, some Offset.zero⟩

/-- Equal as values: two clocks with offsets show the same instant, or two without offset show the same. -/
def same (a b : Timestamp) : Bool :=
  match a.offset, b.offset with
  | none, none => a.reading == b.reading
  | some _, some _ => a.instantMicros == b.instantMicros
  | _, _ => false

end Timestamp

end TaskQuery
