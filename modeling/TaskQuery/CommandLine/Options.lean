namespace TaskQuery.CommandLine

/-- An option with a name behind two hyphens. -/
structure LongOption where
  name : String
  /-- The number of values. -/
  values : Nat
  deriving DecidableEq

/-- The options of a command. -/
structure OptionSet where
  long : List LongOption
  /-- The letters that are options without values, with the long names that they stand for. -/
  letters : List (Char × String)
  /-- Whether options may follow positional arguments. -/
  interspersed : Bool

/-- An option as it was given. -/
structure Given where
  name : String
  values : List String
  deriving DecidableEq

/-- A command line taken apart. -/
structure Arguments where
  given : List Given
  positional : List String

namespace OptionSet

/-- What stands before an equals sign, and what stands behind it. -/
def splitAtEquals (cs : List Char) : List Char × Option (List Char) :=
  match cs.dropWhile (· != '=') with
  | _ :: value => (cs.takeWhile (· != '='), some value)
  | [] => (cs, none)

/-- Reads a long option with the arguments behind it: the option, and how many of the arguments it takes. -/
def readLong (o : LongOption) (attached : Option (List Char)) (rest : List String) : Option (Given × Nat) :=
  match attached with
  | none => if rest.length < o.values then none else some (⟨o.name, rest.take o.values⟩, o.values)
  | some value =>
    if o.values = 0 ∨ rest.length < o.values - 1 then none
    else some (⟨o.name, String.ofList value :: rest.take (o.values - 1)⟩, o.values - 1)

/-- Reads letters, each of which must be an option. -/
def readLetters (set : OptionSet) (cs : List Char) : Option (List Given) :=
  cs.mapM fun c => (set.letters.find? (·.1 = c)).map fun letter => ⟨letter.2, []⟩

/-- Reads a long option, whose first value may stand behind an equals sign, or letters behind one hyphen. -/
def readOption (set : OptionSet) (arg : String) (rest : List String) : Option (List Given × Nat) :=
  let (name, attached) := splitAtEquals arg.toList
  match set.long.find? (fun o => o.name.toList = name) with
  | some o => (readLong o attached rest).map fun (given, used) => ([given], used)
  | none =>
    match arg.toList with
    | '-' :: '-' :: _ => none
    | _ :: letters => (set.readLetters letters).map fun given => (given, 0)
    | [] => none

def looksLikeOption (arg : String) : Bool :=
  match arg.toList with
  | '-' :: _ :: _ => true
  | _ => false

/-- Takes a command line apart. Two hyphens end the options, and so does the first positional argument where the command
does not allow options behind it. -/
def read (set : OptionSet) (args : List String) : Option Arguments :=
  match args with
  | [] => some ⟨[], []⟩
  | arg :: rest =>
    if arg = "--" then some ⟨[], rest⟩
    else if looksLikeOption arg then
      match set.readOption arg rest with
      | none => none
      | some (given, used) => (set.read (rest.drop used)).map fun more => { more with given := given ++ more.given }
    else if set.interspersed then
      (set.read rest).map fun more => { more with positional := arg :: more.positional }
    else some ⟨[], arg :: rest⟩
termination_by args.length
decreasing_by
  · simp only [List.length_drop, List.length_cons]
    omega
  · simp

end OptionSet

namespace Arguments

def all (a : Arguments) (name : String) : List (List String) :=
  (a.given.filter (·.name = name)).map Given.values

def has (a : Arguments) (name : String) : Bool :=
  a.given.any (·.name = name)

/-- The single value of an option; the last one counts. -/
def last? (a : Arguments) (name : String) : Option String :=
  (a.all name).getLast?.bind List.head?

end Arguments

end TaskQuery.CommandLine
