import TaskQuery.Catalogue
import TaskQuery.Outcome

namespace TaskQuery

/-- The smallest units of filter text. -/
inductive Lexeme where
  | word (s : String)
  | quoted (s : String)
  | comparison (op : Operator)
  | joiner (j : Joiner)
  | openGroup
  | closeGroup
  | openList
  | closeList
  | comma
  deriving DecidableEq

/-- A lexeme at its position. -/
structure Token where
  lexeme : Lexeme
  position : Nat
  deriving DecidableEq

/-- What is wrong with a text that has no lexemes. -/
inductive LexicalError where
  | endsInBackslash (position : Nat)
  | unclosedQuote (position : Nat)
  /-- A single character of a joiner, which is written twice. -/
  | halfJoiner (j : Joiner) (position : Nat)
  | negation (position : Nat)
  | doubledEquals (position : Nat)
  deriving DecidableEq

namespace LexicalError

def position : LexicalError → Nat
  | endsInBackslash p | unclosedQuote p | halfJoiner _ p | negation p | doubledEquals p => p

def message : LexicalError → String
  | endsInBackslash _ => "Unexpected end of text after backslash"
  | unclosedQuote p => s!"Unterminated quoted string starting at position {p}"
  | halfJoiner .and p => s!"Unexpected '&' at position {p}. Hint: Use '&&' to join conditions"
  | halfJoiner .or p => s!"Unexpected '|' at position {p}. Hint: Use '||' to join conditions"
  | negation p => s!"Unexpected '!' at position {p}. Hint: Negation is not supported; use '!=' or 'not in'"
  | doubledEquals p => s!"Unexpected '==' at position {p}. Hint: Use single '=' for equality, not '=='"

end LexicalError

namespace Lexeme

/-- The text that a lexeme stands for. -/
def text : Lexeme → String
  | word s | quoted s => s
  | comparison op => op.symbol
  | joiner j => j.symbol
  | openGroup => "("
  | closeGroup => ")"
  | openList => "["
  | closeList => "]"
  | comma => ","

/-- The characters that may stand between lexemes. -/
def isGap (c : Char) : Bool :=
  c == ' ' || c == '\t' || c == '\n' || c == '\r'

/-- The signs, which end a word. -/
def isSign (c : Char) : Bool :=
  c == '(' || c == ')' || c == '[' || c == ']' || c == ',' || c == '=' || c == '!' || c == '<' || c == '>' || c == '&' ||
    c == '|' || c == '"' || c == '\''

def isWordPart (c : Char) : Bool :=
  !isGap c && !isSign c

/-- The character that a backslash and `c` stand for. -/
def unescape (c : Char) : Char :=
  if c = 'n' then '\n' else if c = 't' then '\t' else if c = 'r' then '\r' else c

/-- What is wrong with a text between quotes. -/
inductive QuoteError where
  | unclosed
  | endsInBackslash

/-- Reads up to the closing quote: the text that is quoted, and what follows the quote. -/
def readQuoted (quote : Char) : List Char → Except QuoteError (List Char × List Char)
  | [] => .error .unclosed
  | c :: cs =>
    if c = quote then .ok ([], cs)
    else if c = '\\' then
      match cs with
      | [] => .error .endsInBackslash
      | e :: cs => (readQuoted quote cs).map fun (content, rest) => (unescape e :: content, rest)
    else (readQuoted quote cs).map fun (content, rest) => (c :: content, rest)

/-- Reads a joiner behind its first character. -/
def readJoiner (j : Joiner) (first : Char) (position : Nat) : List Char → Except LexicalError (Lexeme × List Char)
  | c :: cs => if c = first then .ok (joiner j, cs) else .error (.halfJoiner j position)
  | [] => .error (.halfJoiner j position)

/-- Reads an order sign, with an equals sign directly behind it or without. -/
def readOrder (strict weak : Operator) : List Char → Lexeme × List Char
  | '=' :: cs => (comparison weak, cs)
  | cs => (comparison strict, cs)

/-- Reads the lexeme that begins with `c`, at a position: the lexeme, and what follows it. A word goes on until a gap or a
sign. -/
def read (position : Nat) (c : Char) (cs : List Char) : Except LexicalError (Lexeme × List Char) :=
  if c = '(' then .ok (openGroup, cs)
  else if c = ')' then .ok (closeGroup, cs)
  else if c = '[' then .ok (openList, cs)
  else if c = ']' then .ok (closeList, cs)
  else if c = ',' then .ok (comma, cs)
  else if c = '&' then readJoiner .and c position cs
  else if c = '|' then readJoiner .or c position cs
  else if c = '!' then
    match cs with
    | '=' :: cs => .ok (comparison .notEqual, cs)
    | _ => .error (.negation position)
  else if c = '=' then
    match cs with
    | '=' :: _ => .error (.doubledEquals position)
    | _ => .ok (comparison .equal, cs)
  else if c = '<' then .ok (readOrder .less .lessEqual cs)
  else if c = '>' then .ok (readOrder .greater .greaterEqual cs)
  else if c = '"' ∨ c = '\'' then
    match readQuoted c cs with
    | .ok (content, rest) => .ok (quoted (String.ofList content), rest)
    | .error .unclosed => .error (.unclosedQuote position)
    | .error .endsInBackslash => .error (.endsInBackslash (position + 1 + cs.length))
  else .ok (word (String.ofList (c :: cs.takeWhile isWordPart)), cs.dropWhile isWordPart)

theorem readQuoted_length {quote : Char} {cs content rest : List Char}
    (h : readQuoted quote cs = .ok (content, rest)) : rest.length < cs.length := by
  fun_induction readQuoted quote cs generalizing content rest with
  | case1 => nomatch h
  | case2 cs =>
    simp only [Except.ok.injEq, Prod.mk.injEq] at h
    simp [← h.2]
  | case3 => nomatch h
  | case4 _ _ _ ih | case5 _ _ _ _ ih =>
    obtain ⟨p, r, eq⟩ := Outcome.map_eq_ok.1 h
    cases eq
    have := ih r
    simp only [List.length_cons]
    omega

theorem readJoiner_length {j : Joiner} {first : Char} {position : Nat} {cs rest : List Char} {lexeme : Lexeme}
    (h : readJoiner j first position cs = .ok (lexeme, rest)) : rest.length ≤ cs.length := by
  cases cs with
  | nil => simp [readJoiner] at h
  | cons c cs =>
    simp only [readJoiner] at h
    split at h <;> simp_all

theorem readOrder_length {strict weak : Operator} {cs : List Char} :
    (readOrder strict weak cs).2.length ≤ cs.length := by
  unfold readOrder
  split <;> simp

/-- A lexeme takes at least its first character. -/
theorem read_length {position : Nat} {c : Char} {cs rest : List Char} {lexeme : Lexeme}
    (h : read position c cs = .ok (lexeme, rest)) : rest.length ≤ cs.length := by
  have keep {more : List Char} {found : Lexeme} (bound : more.length ≤ cs.length)
      (h : (.ok (found, more) : Except LexicalError (Lexeme × List Char)) = .ok (lexeme, rest)) :
      rest.length ≤ cs.length := by
    simp only [Except.ok.injEq, Prod.mk.injEq] at h
    exact h.2 ▸ bound
  have pick {p : Prop} [Decidable p] {a b x : Except LexicalError (Lexeme × List Char)}
      (h : (if p then a else b) = x) : a = x ∨ b = x := by
    by_cases holds : p
    · exact .inl (by rwa [if_pos holds] at h)
    · exact .inr (by rwa [if_neg holds] at h)
  unfold read at h
  rcases pick h with h | h; · exact keep (Nat.le_refl _) h
  rcases pick h with h | h; · exact keep (Nat.le_refl _) h
  rcases pick h with h | h; · exact keep (Nat.le_refl _) h
  rcases pick h with h | h; · exact keep (Nat.le_refl _) h
  rcases pick h with h | h; · exact keep (Nat.le_refl _) h
  rcases pick h with h | h; · exact readJoiner_length h
  rcases pick h with h | h; · exact readJoiner_length h
  rcases pick h with h | h
  · split at h
    · exact keep (by simp) h
    · nomatch h
  rcases pick h with h | h
  · split at h
    · nomatch h
    · exact keep (Nat.le_refl _) h
  rcases pick h with h | h; · exact keep readOrder_length h
  rcases pick h with h | h; · exact keep readOrder_length h
  rcases pick h with h | h
  · split at h
    · rename_i r
      exact keep (Nat.le_of_lt (readQuoted_length r)) h
    · nomatch h
    · nomatch h
  · exact keep (List.dropWhile_suffix _).length_le h

end Lexeme

namespace Token

/-- The tokens of the text `cs`, whose first character has the given position. -/
def ofChars (position : Nat) : List Char → Except LexicalError (List Token)
  | [] => .ok []
  | c :: cs =>
    if Lexeme.isGap c then ofChars (position + 1) cs
    else
      match _h : Lexeme.read position c cs with
      | .error e => .error e
      | .ok (lexeme, rest) =>
        (ofChars (position + (cs.length + 1 - rest.length)) rest).map (⟨lexeme, position⟩ :: ·)
termination_by cs => cs.length
decreasing_by
  · simp
  · have := Lexeme.read_length _h
    simp only [List.length_cons]
    omega

def ofText (s : String) : Except LexicalError (List Token) :=
  ofChars 0 s.toList

end Token

end TaskQuery
