import TaskQuery.Calendar.Moment

namespace TaskQuery

/-- The lowest `width` decimal digits of `n`. -/
def paddedDigits : (width : Nat) → (n : Nat) → List Char
  | 0, _ => []
  | width + 1, n => paddedDigits width (n / 10) ++ [Nat.digitChar (n % 10)]

def Day.iso (d : Day) : List Char :=
  paddedDigits 4 d.year ++ '-' :: (paddedDigits 2 d.month ++ '-' :: paddedDigits 2 d.dayOfMonth)

/-- Six digits behind a point, where there is a fraction. -/
def isoFraction (micros : Nat) : List Char :=
  if micros = 0 then [] else '.' :: paddedDigits 6 micros

/-- A clock reading in microseconds since midnight. -/
def isoClock (clock : Nat) : List Char :=
  let seconds := clock / secondMicros
  paddedDigits 2 (seconds / 3600) ++ ':' :: (paddedDigits 2 (seconds / 60 % 60) ++ ':' :: (paddedDigits 2 (seconds % 60) ++
    isoFraction (clock % secondMicros)))

/-- An offset in hours and minutes, and seconds with their fraction where it has some. -/
def Offset.iso (offset : Offset) : List Char :=
  let size := offset.micros.natAbs
  let seconds := size / secondMicros
  (if offset.micros < 0 then '-' else '+') :: (paddedDigits 2 (seconds / 3600) ++ ':' :: (paddedDigits 2 (seconds / 60 % 60) ++
    (if size % (60 * secondMicros) = 0 then []
      else ':' :: (paddedDigits 2 (seconds % 60) ++ isoFraction (size % secondMicros)))))

def Timestamp.isoWith (separator : Char) (t : Timestamp) : String :=
  let offset :=
    match t.offset with
    | none => []
    | some offset => offset.iso
  String.ofList (t.reading.day.iso ++ separator :: (isoClock t.reading.clock ++ offset))

def Timestamp.iso (t : Timestamp) : String :=
  t.isoWith 'T'

end TaskQuery
