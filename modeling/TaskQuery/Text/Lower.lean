import TaskQuery.Text.CaseRanges
import TaskQuery.Text.Letter

namespace TaskQuery.Text

/-- What a character is for the search for a neighbouring letter. -/
inductive CaseClass where
  | ignorable
  | cased
  | other
  deriving DecidableEq

def caseClass (c : Char) : CaseClass :=
  let n := c.toNat
  if n < 0x80 then
    if c.isAlpha then .cased
    else if c == '\'' || c == '.' || c == ':' || c == '^' || n == 0x60 then .ignorable
    else .other
  else if inRanges caseIgnorableRanges n then .ignorable
  else if inRanges casedRanges n then .cased
  else .other

/-- Whether the nearest character of `cs` that is not passed over is a letter with case. -/
def meetsCased : List Char → Bool
  | [] => false
  | c :: cs =>
    match caseClass c with
    | .ignorable => meetsCased cs
    | .cased => true
    | .other => false

/-- The small letter of a character that has exactly one, in any context. -/
def lowerChar (c : Char) : Char :=
  let n := c.toNat
  if n < 0x80 then c.toLower
  else
    match caseRuns.find? (fun run => run.first ≤ n && n ≤ run.last && (n - run.first) % run.step == 0) with
    | some run => Char.ofNat (n + run.shift).toNat
    | none => c

def capitalSigma : Char := 'Σ'

/-- The small form of `c` between the characters `before`, nearest first, and `after`. A sigma behind a letter and with none
after it ends a word. -/
def lowerAt (before : List Char) (c : Char) (after : List Char) : List Char :=
  if c = capitalSigma then
    if meetsCased before && !meetsCased after then ['ς'] else ['σ']
  else if c = 'İ' then ['i', Char.ofNat 0x307]
  else [lowerChar c]

/-- The small form of `cs` behind the characters `before`, nearest first. -/
def lowerAfter (before : List Char) : List Char → List Char
  | [] => []
  | c :: cs => lowerAt before c cs ++ lowerAfter (c :: before) cs

/-- The text in small letters. -/
def lower (cs : List Char) : List Char :=
  lowerAfter [] cs

def lowerText (s : String) : String :=
  String.ofList (lower s.toList)

example : lowerText "ΑΣ Σ İX" = "ας σ i̇x" := by decide +kernel

end TaskQuery.Text
