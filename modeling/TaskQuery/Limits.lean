namespace TaskQuery

/-- Bounds on a filter. They are integers, so that a caller may also ask for the impossible. -/
structure Limits where
  /-- The most conditions in all groups together. -/
  maxConditions : Int := 50
  /-- The most levels of nesting. -/
  maxDepth : Int := 10
  /-- The most items of a list. -/
  maxArraySize : Int := 100
  /-- The most characters of a text. -/
  maxStringLength : Int := 1000
  /-- More conditions than this call for a warning. -/
  warnConditions : Int := 10
  deriving DecidableEq

namespace Limits

def standard : Limits := {}

/-- The bounds for a text with a single condition, which is meant for a short query. -/
def simple : Limits := { maxStringLength := 200 }

/-- Bounds to put in place of others, where given. -/
structure Override where
  maxConditions : Option Int := none
  maxDepth : Option Int := none
  maxArraySize : Option Int := none
  maxStringLength : Option Int := none
  warnConditions : Option Int := none

def override (l : Limits) (o : Override) : Limits where
  maxConditions := o.maxConditions.getD l.maxConditions
  maxDepth := o.maxDepth.getD l.maxDepth
  maxArraySize := o.maxArraySize.getD l.maxArraySize
  maxStringLength := o.maxStringLength.getD l.maxStringLength
  warnConditions := o.warnConditions.getD l.warnConditions

end Limits

def maxFilterLength : Nat := 1000

def maxDateLiteralLength : Nat := 30

end TaskQuery
