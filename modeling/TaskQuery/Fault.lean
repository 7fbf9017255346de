namespace TaskQuery

/-- Why an operation gives no answer. A problem of a filter or a record is an answer, and none of these. -/
inductive Fault where
  /-- An integer is needed as a double and lies beyond the largest one. -/
  | numberOutOfRange
  /-- A timestamp is needed in universal time and leaves the years 1 to 9999. -/
  | instantOutOfRange
  /-- The items of something are needed that has none. -/
  | noItems
  /-- A timestamp without offset is to be ordered against one with an offset. -/
  | mixedClocks
  /-- An integer is written with more digits than the limit. -/
  | tooManyDigits (count : Nat)
  /-- An integer with more digits than the limit is to be written. -/
  | integerTooLong
  /-- Lists and objects in JSON lie too deep in one another. -/
  | tooDeep
  /-- A text with half a surrogate pair is to be written. -/
  | unwritable
  deriving DecidableEq

namespace Fault

def message? : Fault → Option String
  | tooManyDigits count => some s!"Exceeds the limit (4300 digits) for integer string conversion: value has {count} digits; use sys.set_int_max_str_digits() to increase the limit"
  | integerTooLong =>
    some "Exceeds the limit (4300 digits) for integer string conversion; use sys.set_int_max_str_digits() to increase the limit"
  | _ => none

end Fault

end TaskQuery
