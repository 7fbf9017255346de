import TaskQuery.Filter.Lexeme

namespace TaskQuery

/-- Why a text is no filter. Where something else was found, its text is kept. -/
inductive SyntaxError where
  | notText
  | empty
  | lexical (e : LexicalError)
  | mixedBetweenGroups (first found : Joiner) (position : Nat)
  | mixedInsideGroup (first found : Joiner) (position : Nat)
  | unclosedGroup (opening position : Nat)
  | unopenedGroup (position : Nat)
  | nestedGroup (position : Nat)
  | endBeforeField (position : Nat)
  | operatorBeforeField (found : String) (position : Nat)
  | notAField (found : String) (position : Nat)
  | forbiddenField (name : String) (position : Nat)
  | unknownField (name : String) (position : Nat)
  | endBeforeOperator (field : Field) (position : Nat)
  | notAnOperator (field : Field) (found : String) (position : Nat)
  | endBeforeValue (operator : Operator) (position : Nat)
  | notAValue (operator : Operator) (found : String) (position : Nat)
  | notBoolean (field : Field) (found : String) (position : Nat)
  | notNumber (field : Field) (found : String) (position : Nat)
  | unclosedList (opening position : Nat)
  | notAnItem (found : String) (position : Nat)
  | notASeparator (found : String) (position : Nat)
  | joinerInWords (j : Joiner) (position : Nat)
  | unquotedBlank (found : String) (position : Nat)
  | unexpected (found : String) (position : Nat)
  deriving DecidableEq

namespace SyntaxError

def position : SyntaxError → Nat
  | notText | empty => 0
  | lexical e => e.position
  | mixedBetweenGroups _ _ p | mixedInsideGroup _ _ p | unclosedGroup _ p | unopenedGroup p | nestedGroup p
  | endBeforeField p | operatorBeforeField _ p | notAField _ p | forbiddenField _ p | unknownField _ p
  | endBeforeOperator _ p | notAnOperator _ _ p | endBeforeValue _ p | notAValue _ _ p | notBoolean _ _ p
  | notNumber _ _ p | unclosedList _ p | notAnItem _ p | notASeparator _ p | joinerInWords _ p | unquotedBlank _ p
  | unexpected _ p => p

def message : SyntaxError → String
  | notText => "Filter input must be a string"
  | empty => "Empty filter expression"
  | lexical e => e.message
  | mixedBetweenGroups first found p =>
    s!"Mixed '{first.symbol}' and '{found.symbol}' between groups at position {p}. Hint: Use one operator between parenthesised groups"
  | mixedInsideGroup first found p =>
    s!"Mixed '{first.symbol}' and '{found.symbol}' inside parentheses at position {p}. Hint: Split them into separate groups"
  | unclosedGroup opening p => s!"Unbalanced parentheses: expected ')' at position {p} to close '(' at position {opening}"
  | unopenedGroup p => s!"Unbalanced parentheses: unexpected ')' at position {p}"
  | nestedGroup p => s!"Nested parentheses are not supported (position {p})"
  | endBeforeField _ => "Unexpected end of filter; expected a field name"
  | operatorBeforeField found p => s!"Missing field name before operator '{found}' at position {p}"
  | notAField found p => s!"Expected field name at position {p}, got '{found}'"
  | forbiddenField name _ => s!"Field name '{name}' is not allowed"
  | unknownField name p => s!"Unknown field '{name}' at position {p}. Valid fields: {Field.allNames}"
  | endBeforeOperator field _ => s!"Expected operator after field '{field.name}'; reached end of filter"
  | notAnOperator field found p => s!"Expected operator after field '{field.name}' at position {p}, got '{found}'"
  | endBeforeValue op _ => s!"Expected value after operator '{op.symbol}'; reached end of filter"
  | notAValue op found p => s!"Expected value after operator '{op.symbol}' at position {p}, got '{found}'"
  | notBoolean field found p => s!"Expected true or false for field '{field.name}' at position {p}, got '{found}'"
  | notNumber field found p => s!"Expected a number for field '{field.name}' at position {p}, got '{found}'"
  | unclosedList opening _ => s!"Unterminated list starting at position {opening}"
  | notAnItem found p => s!"Expected list value at position {p}, got '{found}'"
  | notASeparator found p => s!"Expected ',' or ']' at position {p}, got '{found}'"
  | joinerInWords .and p => s!"Unexpected 'AND' at position {p}. Hint: Use '&&' for AND: expr1 && expr2"
  | joinerInWords .or p => s!"Unexpected 'OR' at position {p}. Hint: Use '||' for OR: expr1 || expr2"
  | unquotedBlank found p =>
    s!"Unexpected token '{found}' at position {p}. Hint: Values with spaces must be quoted: \"... {found}\""
  | unexpected found p => s!"Unexpected token '{found}' at position {p}"

end SyntaxError

/-- The characters that an excerpt shows on either side. -/
def excerptRadius : Nat := 20

/-- The text around a position, with dots where something is left out, and a mark below it. -/
def excerpt (s : String) (position : Nat) : String :=
  let cs := s.toList
  let start := position - excerptRadius
  let stop := min cs.length (position + excerptRadius)
  let before := if 0 < start then ['.', '.', '.'] else []
  let after := if stop < cs.length then ['.', '.', '.'] else []
  String.ofList (before ++ (cs.take stop).drop start ++ after ++
    '\n' :: List.replicate (position - start + before.length) ' ' ++ ['^'])

/-- The excerpt of an error; an input without any text has none. -/
def SyntaxError.excerpt? (s : String) : SyntaxError → Option String
  | notText | empty => none
  | e => some (excerpt s e.position)

end TaskQuery
