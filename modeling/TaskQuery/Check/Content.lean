import TaskQuery.Text.Blank
import TaskQuery.Text.Letter

namespace TaskQuery

/-- The characters that a piece of a pattern accepts. -/
inductive CharClass where
  /-- A sign, or a letter in any case. -/
  | letter (c : Char)
  | blank
  | wordChar
  | except (c : Char)
  deriving DecidableEq

/-- Whether `c` is the letter or sign `small` in some case. Letters beyond ASCII count where their other case is an
ASCII letter. -/
def isCaseOf (small c : Char) : Bool :=
  c.toLower == small || (small == 'i' && (c == 'İ' || c == 'ı')) || (small == 's' && c == 'ſ') ||
    (small == 'k' && c == Char.ofNat 0x212A)

def CharClass.accepts : CharClass → Char → Bool
  | letter small, c => isCaseOf small c
  | blank, c => Text.isBlank c
  | wordChar, c => Text.isWordChar c
  | except excluded, c => c != excluded

/-- A piece of a pattern. -/
inductive Piece where
  | one (cls : CharClass)
  /-- Any number of characters, also none. -/
  | many (cls : CharClass)
  /-- The edge of a word. -/
  | edge
  deriving DecidableEq

/-- A row of pieces. A piece that repeats may take any number of characters, and one choice that lets the rest match is
enough. -/
abbrev ContentPattern := List Piece

namespace ContentPattern

/-- Whether `next` holds behind some number of accepted characters, counted from none. -/
def repeated (accepts : Char → Bool) (next : Option Char → List Char → Bool) (before : Option Char) : List Char → Bool
  | [] => next before []
  | c :: cs => next before (c :: cs) || (accepts c && repeated accepts next (some c) cs)

/-- Whether the pattern matches at the beginning of a text that stands behind the character `before`. -/
def matchesAt : ContentPattern → (before : Option Char) → List Char → Bool
  | [], _, _ => true
  | .edge :: pieces, before, cs => Text.isWordEdge before cs.head? && matchesAt pieces before cs
  | .one cls :: pieces, _, cs =>
    match cs with
    | [] => false
    | c :: rest => cls.accepts c && matchesAt pieces (some c) rest
  | .many cls :: pieces, before, cs => repeated cls.accepts (matchesAt pieces) before cs

/-- Whether the pattern matches at some place of a text that stands behind the character `before`. -/
def occursAfter (before : Option Char) (pattern : ContentPattern) : List Char → Bool
  | [] => pattern.matchesAt before []
  | c :: cs => pattern.matchesAt before (c :: cs) || occursAfter (some c) pattern cs

def occursIn (pattern : ContentPattern) (cs : List Char) : Bool :=
  pattern.occursAfter none cs

def ofWord (word : String) : ContentPattern :=
  word.toList.map fun c => .one (.letter c)

def blanks : ContentPattern := [.many .blank]

/-- What no filter may carry. -/
def disallowed : List ContentPattern :=
  [
    ofWord "<" ++ blanks ++ ofWord "script",
    ofWord "javascript" ++ blanks ++ ofWord ":",
    ofWord "<" ++ [.many (.except '>'), .edge] ++ ofWord "on" ++ [.one .wordChar, .many .wordChar] ++ blanks ++ ofWord "=",
    ofWord "function" ++ blanks ++ ofWord "(",
    ofWord "eval" ++ blanks ++ ofWord "(",
    ofWord "require" ++ blanks ++ ofWord "(",
    ofWord "__proto__",
    .edge :: ofWord "constructor" ++ [.edge],
    .edge :: ofWord "prototype" ++ [.edge],
    .edge :: ofWord "process.",
    .edge :: ofWord "global."]

end ContentPattern

def hasDisallowedContent (s : String) : Bool :=
  ContentPattern.disallowed.any (·.occursIn s.toList)

example : hasDisallowedContent "a JavaScript :" = true := by decide +kernel

example : hasDisallowedContent "constructors" = false := by decide +kernel

end TaskQuery
