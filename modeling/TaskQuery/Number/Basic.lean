import TaskQuery.Number.Shortest

namespace TaskQuery

/-- An integer or a double. -/
inductive Number where
  | int (n : Int)
  | float (x : Double)
  deriving DecidableEq

namespace Number

/-- The place on the line of exact values; not-a-number has none. -/
def position? : Number → Option Position
  | .int n => some (.point (n * unitsPerOne))
  | .float x => x.position?

/-- Equal in value: an integer and a double may be. Not-a-number equals nothing. -/
def same (a b : Number) : Bool :=
  match a.position?, b.position? with
  | some p, some q => p == q
  | _, _ => false

def isZero : Number → Bool
  | .int n => n == 0
  | .float x => x.isZero

end Number

end TaskQuery
