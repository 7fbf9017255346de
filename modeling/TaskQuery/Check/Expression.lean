import TaskQuery.Check.Nesting
import TaskQuery.Check.Verdict
import TaskQuery.Filter.Wire

namespace TaskQuery.Check

def isJoiner : Value → Bool
  | .str s => (Joiner.ofSymbol? s).isSome
  | _ => false

/-- The joiner that a wire form names; *and*, where it names none. -/
def namedJoiner (v : Value) : Value :=
  if v.hasKey "operator" then v.get "operator" else .str Joiner.and.symbol

/-- The items of a value that is a list with items. -/
def items? : Value → Option (List Value)
  | .list [] => none
  | .list items => some items
  | _ => none

/-- The problems of the conditions of a group, the first of which has the given number. -/
def memberProblems (limits : Limits) (now : Timestamp) (group : Nat) :
    (number : Nat) → List Value → Except Fault (List Problem)
  | _, [] => .ok []
  | number, c :: cs => do
    let here ←
      if c.isNode then .ok [Problem.nestedGroup group number]
      else (conditionProblems limits now c).map (·.map (Problem.condition group number))
    let later ← memberProblems limits now group (number + 1) cs
    return here ++ later

/-- The problem of the joiner that a wire form names. -/
def joinerProblems (problem : String → Problem) (v : Value) : Except Fault (List Problem) :=
  if isJoiner (namedJoiner v) then .ok [] else (namedJoiner v).text.map fun found => [problem found]

def groupProblems (limits : Limits) (now : Timestamp) (number : Nat) (g : Value) : Except Fault (List Problem) :=
  match g with
  | .dict _ => do
    let found ← joinerProblems (.insideGroup number) g
    match items? (g.get "conditions") with
    | none => return found ++ [.emptyGroup number]
    | some members => return found ++ (← memberProblems limits now number 1 members)
  | _ => .ok [.groupNotAnObject number]

/-- The problems of groups, the first of which has the given number. -/
def groupsProblems (limits : Limits) (now : Timestamp) : (number : Nat) → List Value → Except Fault (List Problem)
  | _, [] => .ok []
  | number, g :: gs => do
    let here ← groupProblems limits now number g
    let later ← groupsProblems limits now (number + 1) gs
    return here ++ later

def countWarnings (limits : Limits) (count : Nat) : List Warning :=
  if limits.warnConditions < (count : Int) then [.manyConditions count] else []

/-- The verdict on a wire form with groups, behind the problems found already. -/
def groupsVerdict (limits : Limits) (now : Timestamp) (found : List Problem) (v : Value) (groups : List Value) :
    Except Fault Verdict :=
  if limits.maxDepth < (nestingDepth limits.maxDepth v : Int) then
    (writeInteger limits.maxDepth).map fun bound => .ofProblems (found ++ [.tooDeep bound])
  else if limits.maxConditions < (conditionCount v : Int) then
    (writeInteger limits.maxConditions).map fun bound => .ofProblems (found ++ [.tooManyConditions (conditionCount v) bound])
  else
    (groupsProblems limits now 1 groups).map fun problems => ⟨found ++ problems, countWarnings limits (conditionCount v)⟩

/-- The verdict on the wire form of a filter, with date literals seen from `now`. -/
def wireVerdict (limits : Limits) (now : Timestamp) (v : Value) : Except Fault Verdict :=
  match v with
  | .dict _ => do
    let found ← joinerProblems .betweenGroups v
    match items? (v.get "groups") with
    | none => return .ofProblems (found ++ [.noGroups])
    | some groups => groupsVerdict limits now found v groups
  | _ => .ok (.ofProblems [.notAnObject])

def treeVerdict (limits : Limits) (now : Timestamp) (e : Unchecked.Expression) : Except Fault Verdict :=
  wireVerdict limits now e.toValue

def filterVerdict (limits : Limits) (now : Timestamp) (e : Filter) : Except Fault Verdict :=
  treeVerdict limits now e.unchecked

end TaskQuery.Check
