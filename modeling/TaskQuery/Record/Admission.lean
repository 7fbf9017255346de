import TaskQuery.Value.Display

namespace TaskQuery

/-- What is wrong with a part of a value. -/
inductive Flaw where
  | missing
  | unexpected
  | notAnObject (record : String)
  | notADictionary
  | notAList
  | notText
  | brokenText
  | notInteger
  | unreadableInteger
  | fractionalInteger
  | infiniteInteger
  | oversizedInteger
  | notNumber
  | unreadableNumber
  | notTruthValue
  | unreadableTruthValue
  | notAJoiner
  | forbiddenField (name : String)
  | unknownField (name : String)
  | unknownOperator (spelling : String)
  | notATimestamp
  | timestampNotANumber
  | timestampTooEarly
  | timestampTooLate
  | yearZero
  | dateTooEarly
  | dateTooLate
  | dateTooShort
  | badYear
  | badDateSeparator
  | badMonth
  | badDay
  | monthOutOfRange
  | dayOutOfRange
  | dateFollowedByMore
  deriving DecidableEq

namespace Flaw

/-- What stands before the details of a number that is no timestamp. -/
def timestampHeading : String := "Input should be a valid datetime, "

/-- What stands before the details of a text that is no timestamp. -/
def dateHeading : String := "Input should be a valid datetime or date, "

def message : Flaw → String
  | missing => "Field required"
  | unexpected => "Extra inputs are not permitted"
  | notAnObject record => "Input should be a valid dictionary or instance of " ++ record
  | notADictionary => "Input should be a valid dictionary"
  | notAList => "Input should be a valid list"
  | notText => "Input should be a valid string"
  | brokenText => "Input should be a valid string, unable to parse raw data as a unicode string"
  | notInteger => "Input should be a valid integer"
  | unreadableInteger => "Input should be a valid integer, unable to parse string as an integer"
  | fractionalInteger => "Input should be a valid integer, got a number with a fractional part"
  | infiniteInteger => "Input should be a finite number"
  | oversizedInteger => "Unable to parse input string as an integer, exceeded maximum size"
  | notNumber => "Input should be a valid number"
  | unreadableNumber => "Input should be a valid number, unable to parse string as a number"
  | notTruthValue => "Input should be a valid boolean"
  | unreadableTruthValue => "Input should be a valid boolean, unable to interpret input"
  | notAJoiner => "Input should be '&&' or '||'"
  | forbiddenField name => s!"Value error, Field name '{name}' is not allowed"
  | unknownField name => s!"Value error, Unknown field '{name}'"
  | unknownOperator spelling => s!"Value error, Unknown operator '{spelling}'"
  | notATimestamp => "Input should be a valid datetime"
  | timestampNotANumber => timestampHeading ++ "NaN values not permitted"
  | timestampTooEarly => timestampHeading ++ "dates before 0000 are not supported as unix timestamps"
  | timestampTooLate => timestampHeading ++ "dates after 9999 are not supported as unix timestamps"
  | yearZero => timestampHeading ++ "year 0 is out of range"
  | dateTooEarly => dateHeading ++ "dates before 0000 are not supported as unix timestamps"
  | dateTooLate => dateHeading ++ "dates after 9999 are not supported as unix timestamps"
  | dateTooShort => dateHeading ++ "input is too short"
  | badYear => dateHeading ++ "invalid character in year"
  | badDateSeparator => dateHeading ++ "invalid date separator, expected \x60-\x60"
  | badMonth => dateHeading ++ "invalid character in month"
  | badDay => dateHeading ++ "invalid character in day"
  | monthOutOfRange => dateHeading ++ "month value is outside expected range of 1-12"
  | dayOutOfRange => dateHeading ++ "day value is outside expected range"
  | dateFollowedByMore => dateHeading ++ "unexpected extra characters at the end of the input"

end Flaw

/-- A flaw of the part at a path of keys and indexes. -/
structure Complaint where
  path : List String
  flaw : Flaw
  deriving DecidableEq

/-- The complaint in one line; the path of the whole value is called `input`. -/
def Complaint.line (c : Complaint) : String :=
  (if c.path.isEmpty then "input" else ".".intercalate c.path) ++ ": " ++ c.flaw.message

/-- The typed form of a value, or what there is to complain about. -/
abbrev Admission (α : Type) := Except (List Complaint) α

namespace Admission

/-- Refuses the value itself. -/
def refuse {α : Type} (flaw : Flaw) : Admission α :=
  .error [⟨[], flaw⟩]

/-- An admission of the part under a key. -/
def under {α : Type} (key : String) (a : Admission α) : Admission α :=
  a.mapError (·.map fun c => { c with path := key :: c.path })

/-- Two admissions together, with the complaints of both, in order. -/
def both {α β : Type} (a : Admission α) (b : Admission β) : Admission (α × β) :=
  match a, b with
  | .ok a, .ok b => .ok (a, b)
  | .ok _, .error complaints => .error complaints
  | .error complaints, .ok _ => .error complaints
  | .error first, .error second => .error (first ++ second)

/-- Applies an admitted function, with the complaints about both sides. -/
def ap {α β : Type} (f : Admission (α → β)) (a : Admission α) : Admission β :=
  (both f a).map fun (f, a) => f a

/-- Admits items one by one, with their indexes as keys. -/
def itemsFrom {α : Type} (accept : Value → Admission α) : (index : Nat) → List Value → Admission (List α)
  | _, [] => .ok []
  | index, v :: vs => (both (under (toString index) (accept v)) (itemsFrom accept (index + 1) vs)).map fun (a, as) => a :: as

def list {α : Type} (accept : Value → Admission α) (v : Value) : Admission (List α) :=
  match v with
  | .list items => itemsFrom accept 0 items
  | _ => refuse .notAList

/-- Null as nothing, and anything else as admitted. -/
def optional {α : Type} (accept : Value → Admission α) (v : Value) : Admission (Option α) :=
  if v.isNull then .ok none else (accept v).map some

def entries (record : String) (v : Value) : Admission (List (String × Value)) :=
  match v with
  | .dict entries => .ok entries
  | _ => refuse (.notAnObject record)

/-- Admits what stands under a key that must be there. -/
def required {α : Type} (key : String) (accept : Value → Admission α) (entries : List (String × Value)) : Admission α :=
  under key (match lookup? key entries with
    | some v => accept v
    | none => refuse .missing)

/-- Admits what stands under a key that may be missing. -/
def withDefault {α : Type} (key : String) (default : α) (accept : Value → Admission α) (entries : List (String × Value)) :
    Admission α :=
  match lookup? key entries with
  | some v => under key (accept v)
  | none => .ok default

/-- Complains about all keys but the known ones, behind the other complaints. -/
def only {α : Type} (known : List String) (entries : List (String × Value)) (a : Admission α) : Admission α :=
  let unknown := (entries.map Prod.fst).filter (!known.contains ·)
  let strict : Admission Unit :=
    if unknown.isEmpty then .ok () else .error (unknown.map fun key => ⟨[key], .unexpected⟩)
  (both a strict).map Prod.fst

end Admission

end TaskQuery
