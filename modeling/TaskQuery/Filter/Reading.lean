import TaskQuery.Filter.SyntaxError
import TaskQuery.Filter.Tree

namespace TaskQuery

/-- Why a reading fails: the text is no filter, or holds an integer with too many digits. -/
inductive ReadFailure where
  | malformed (e : SyntaxError)
  | tooManyDigits (count : Nat)
  deriving DecidableEq

/-- An element of a filter. -/
inductive Element where
  | single (c : Condition)
  | group (g : Group Condition)
  deriving DecidableEq

namespace Reading

def malformed {α : Type} (e : SyntaxError) : Except ReadFailure α :=
  .error (.malformed e)

/-- Whether a word has the given small letters. -/
def isWordLike (s small : String) : Bool :=
  Text.lowerText s == small

/-- Reads an operator: a comparison sign, or one of the words for likeness and membership. Here and below, tokens are read
from the front and what is left is returned; `finish` is the length of the text. -/
def operator (finish : Nat) (field : Field) : List Token → Except ReadFailure (Operator × List Token)
  | [] => malformed (.endBeforeOperator field finish)
  | t :: ts =>
    match t.lexeme with
    | .comparison op => .ok (op, ts)
    | .word s =>
      if isWordLike s "like" then .ok (.like, ts)
      else if isWordLike s "in" then .ok (.isIn, ts)
      else if isWordLike s "not" then
        match ts with
        | ⟨.word next, _⟩ :: rest =>
          if isWordLike next "in" then .ok (.notIn, rest)
          else malformed (.notAnOperator field s t.position)
        | _ => malformed (.notAnOperator field s t.position)
      else malformed (.notAnOperator field s t.position)
    | lexeme => malformed (.notAnOperator field lexeme.text t.position)

/-- The item of a list that a lexeme is: a word is a number if it can be, and a text otherwise. -/
def item? : Lexeme → Option (Except ReadFailure Value)
  | .word s =>
    match readLiteral s with
    | .number (.int n) => some (.ok (.int n))
    | .number (.float x) => some (.ok (.float x))
    | .notNumber => some (.ok (.str s))
    | .tooManyDigits count => some (.error (.tooManyDigits count))
  | .quoted s => some (.ok (.str s))
  | _ => none

/-- Reads the items of a list up to the closing bracket. -/
def listItems (finish opening : Nat) : List Token → Except ReadFailure (List Value × List Token)
  | [] => malformed (.unclosedList opening finish)
  | t :: ts =>
    match item? t.lexeme with
    | none => malformed (.notAnItem t.lexeme.text t.position)
    | some (.error e) => .error e
    | some (.ok v) =>
      match ts with
      | [] => malformed (.unclosedList opening finish)
      | ⟨.closeList, _⟩ :: rest => .ok ([v], rest)
      | ⟨.comma, _⟩ :: rest => (listItems finish opening rest).map fun (vs, rest) => (v :: vs, rest)
      | s :: _ => malformed (.notASeparator s.lexeme.text s.position)

def bracketList (finish opening : Nat) : List Token → Except ReadFailure (List Value × List Token)
  | ⟨.closeList, _⟩ :: rest => .ok ([], rest)
  | ts => listItems finish opening ts

/-- Reads further items of a list without brackets, each behind a comma. -/
def bareItems (finish : Nat) : List Token → Except ReadFailure (List Value × List Token)
  | ⟨.comma, _⟩ :: ts =>
    match ts with
    | [] => malformed (.notAnItem "" finish)
    | t :: rest =>
      match item? t.lexeme with
      | none => malformed (.notAnItem t.lexeme.text t.position)
      | some (.error e) => .error e
      | some (.ok v) => (bareItems finish rest).map fun (vs, rest) => (v :: vs, rest)
  | ts => .ok ([], ts)

/-- The operand that a single word or quoted text is for a field: one of the words for truth values, a number, or a text as
it stands. -/
def scalar (field : Field) (position : Nat) (lexeme : Lexeme) (s : String) : Except ReadFailure Operand :=
  match field.kind with
  | .boolean =>
    if isWordLike s "true" then .ok (.one (.bool true))
    else if isWordLike s "false" then .ok (.one (.bool false))
    else malformed (.notBoolean field s position)
  | .number =>
    match readLiteral (Text.trim s) with
    | .number (.int n) => .ok (.one (.int n))
    | .number (.float x) => .ok (.one (.float x))
    | .notNumber => malformed (.notNumber field s position)
    | .tooManyDigits count => .error (.tooManyDigits count)
  | .array =>
    match item? lexeme with
    | some (.ok v) => .ok (.many [v])
    | some (.error e) => .error e
    | none => malformed (.notAnItem s position)
  | .date | .string => .ok (.one (.str s))

def isMembership (op : Operator) : Bool :=
  op = .isIn ∨ op = .notIn

/-- Reads the value behind a word or quoted text `s`: a bare list if membership is asked for and a comma follows. -/
def valueFrom (finish : Nat) (field : Field) (op : Operator) (t : Token) (s : String) (ts : List Token) :
    Except ReadFailure (Operand × List Token) :=
  match isMembership op, ts with
  | true, ⟨.comma, _⟩ :: _ =>
    match item? t.lexeme with
    | some (.ok v) => (bareItems finish ts).map fun (vs, rest) => (.many (v :: vs), rest)
    | some (.error e) => .error e
    | none => malformed (.notAnItem s t.position)
  | _, _ => (scalar field t.position t.lexeme s).map fun operand => (operand, ts)

def value (finish : Nat) (field : Field) (op : Operator) : List Token → Except ReadFailure (Operand × List Token)
  | [] => malformed (.endBeforeValue op finish)
  | t :: ts =>
    match t.lexeme with
    | .openList => (bracketList finish t.position ts).map fun (vs, rest) => (.many vs, rest)
    | .word s => valueFrom finish field op t s ts
    | .quoted s => valueFrom finish field op t s ts
    | lexeme => malformed (.notAValue op lexeme.text t.position)

def field (finish : Nat) : List Token → Except ReadFailure (Field × List Token)
  | [] => malformed (.endBeforeField finish)
  | t :: ts =>
    match t.lexeme with
    | .openGroup => malformed (.nestedGroup t.position)
    | .comparison op => malformed (.operatorBeforeField op.symbol t.position)
    | .word name =>
      if Field.isForbidden name then malformed (.forbiddenField name t.position)
      else
        match Field.ofName? name with
        | none => malformed (.unknownField name t.position)
        | some f => .ok (f, ts)
    | lexeme => malformed (.notAField lexeme.text t.position)

def condition (finish : Nat) (ts : List Token) : Except ReadFailure (Condition × List Token) := do
  let (field, ts) ← field finish ts
  let (operator, ts) ← operator finish field ts
  let (operand, ts) ← value finish field operator ts
  return ({ field, operator, operand }, ts)

theorem operator_length {finish : Nat} {f : Field} {ts rest : List Token} {op : Operator}
    (h : operator finish f ts = .ok (op, rest)) : rest.length < ts.length := by
  unfold operator at h
  split at h
  · nomatch h
  · split at h
    · simp_all
    · split at h
      · simp_all
      split at h
      · simp_all
      split at h
      · split at h
        · split at h
          · simp only [Except.ok.injEq, Prod.mk.injEq] at h
            simp only [List.length_cons, h.2]
            omega
          · nomatch h
        · nomatch h
      · nomatch h
    · nomatch h

theorem listItems_length {finish opening : Nat} {ts rest : List Token} {vs : List Value}
    (h : listItems finish opening ts = .ok (vs, rest)) : rest.length < ts.length := by
  fun_induction listItems finish opening ts generalizing vs rest with
  | case1 => nomatch h
  | case2 => nomatch h
  | case3 => nomatch h
  | case4 => nomatch h
  | case5 =>
    simp only [Except.ok.injEq, Prod.mk.injEq] at h
    simp only [List.length_cons, ← h.2]
    omega
  | case6 _ _ _ _ _ ih =>
    obtain ⟨p, r, eq⟩ := Outcome.map_eq_ok.1 h
    cases eq
    have := ih r
    simp only [List.length_cons]
    omega
  | case7 => nomatch h

theorem bracketList_length {finish opening : Nat} {ts rest : List Token} {vs : List Value}
    (h : bracketList finish opening ts = .ok (vs, rest)) : rest.length < ts.length := by
  unfold bracketList at h
  split at h
  · simp_all
  · exact listItems_length h

theorem bareItems_length {finish : Nat} {ts rest : List Token} {vs : List Value}
    (h : bareItems finish ts = .ok (vs, rest)) : rest.length ≤ ts.length := by
  fun_induction bareItems finish ts generalizing vs rest with
  | case1 => nomatch h
  | case2 => nomatch h
  | case3 => nomatch h
  | case4 _ _ _ _ _ ih =>
    obtain ⟨p, r, eq⟩ := Outcome.map_eq_ok.1 h
    cases eq
    have := ih r
    simp only [List.length_cons]
    omega
  | case5 => simp_all

theorem valueFrom_length {finish : Nat} {f : Field} {op : Operator} {t : Token} {s : String}
    {ts rest : List Token} {operand : Operand} (h : valueFrom finish f op t s ts = .ok (operand, rest)) :
    rest.length ≤ ts.length := by
  unfold valueFrom at h
  split at h
  · split at h
    · obtain ⟨p, r, eq⟩ := Outcome.map_eq_ok.1 h
      cases eq
      exact bareItems_length r
    · nomatch h
    · nomatch h
  · obtain ⟨p, r, eq⟩ := Outcome.map_eq_ok.1 h
    cases eq
    exact Nat.le_refl _

theorem value_length {finish : Nat} {f : Field} {op : Operator} {ts rest : List Token} {operand : Operand}
    (h : value finish f op ts = .ok (operand, rest)) : rest.length < ts.length := by
  unfold value at h
  split at h
  · nomatch h
  · split at h
    · obtain ⟨p, r, eq⟩ := Outcome.map_eq_ok.1 h
      cases eq
      have := bracketList_length r
      simp only [List.length_cons]
      omega
    · exact Nat.lt_succ_of_le (valueFrom_length h)
    · exact Nat.lt_succ_of_le (valueFrom_length h)
    · nomatch h

theorem field_length {finish : Nat} {ts rest : List Token} {f : Field}
    (h : field finish ts = .ok (f, rest)) : rest.length < ts.length := by
  unfold field at h
  split at h
  · nomatch h
  · split at h
    · nomatch h
    · nomatch h
    · split at h
      · nomatch h
      · split at h
        · nomatch h
        · simp_all
    · nomatch h

/-- A condition takes at least one token. -/
theorem condition_length {finish : Nat} {ts rest : List Token} {c : Condition}
    (h : condition finish ts = .ok (c, rest)) : rest.length < ts.length := by
  unfold condition at h
  obtain ⟨⟨f, afterField⟩, rf, h⟩ := Outcome.bind_eq_ok.1 h
  obtain ⟨⟨op, afterOperator⟩, ro, h⟩ := Outcome.bind_eq_ok.1 h
  obtain ⟨⟨operand, afterValue⟩, rv, h⟩ := Outcome.bind_eq_ok.1 h
  cases h
  have := field_length rf
  have := operator_length ro
  have := value_length rv
  omega

/-- Reads further conditions inside brackets, each behind a joiner, and returns them with the joiner in use. -/
def furtherConditions (finish : Nat) (inUse : Option Joiner) (ts : List Token) :
    Except ReadFailure (List Condition × Option Joiner × List Token) :=
  match ts with
  | ⟨.joiner j, position⟩ :: ts =>
    if inUse.getD j = j then
      match _h : condition finish ts with
      | .error e => .error e
      | .ok (c, rest) =>
        (furtherConditions finish (some j) rest).map fun (cs, j, rest) => (c :: cs, j, rest)
    else malformed (.mixedInsideGroup (inUse.getD j) j position)
  | ts => .ok ([], inUse, ts)
termination_by ts.length
decreasing_by
  have := condition_length _h
  simp only [List.length_cons]
  omega

def group (finish opening : Nat) (ts : List Token) : Except ReadFailure (Group Condition × List Token) := do
  let (first, ts) ← condition finish ts
  let (cs, joiner, ts) ← furtherConditions finish none ts
  match ts with
  | ⟨.closeGroup, _⟩ :: rest => return (⟨first :: cs, joiner.getD .and⟩, rest)
  | [] => malformed (.unclosedGroup opening finish)
  | t :: _ => malformed (.unclosedGroup opening t.position)

theorem furtherConditions_length {finish : Nat} {inUse joiner : Option Joiner} {ts rest : List Token}
    {cs : List Condition} (h : furtherConditions finish inUse ts = .ok (cs, joiner, rest)) :
    rest.length ≤ ts.length := by
  fun_induction furtherConditions finish inUse ts generalizing cs joiner rest with
  | case1 => nomatch h
  | case2 _ _ _ _ _ _ _ hc ih =>
    obtain ⟨p, r, eq⟩ := Outcome.map_eq_ok.1 h
    cases eq
    have := ih r
    have := condition_length hc
    simp only [List.length_cons]
    omega
  | case3 => nomatch h
  | case4 => simp_all

theorem group_length {finish opening : Nat} {ts rest : List Token} {g : Group Condition}
    (h : group finish opening ts = .ok (g, rest)) : rest.length < ts.length := by
  unfold group at h
  obtain ⟨⟨first, afterFirst⟩, rc, h⟩ := Outcome.bind_eq_ok.1 h
  obtain ⟨⟨cs, joiner, afterLast⟩, rf, h⟩ := Outcome.bind_eq_ok.1 h
  have := condition_length rc
  have := furtherConditions_length rf
  dsimp only at h
  split at h
  · cases h
    simp only [List.length_cons] at this
    omega
  · nomatch h
  · nomatch h

def element (finish : Nat) : List Token → Except ReadFailure (Element × List Token)
  | ⟨.openGroup, position⟩ :: ts => (group finish position ts).map fun (g, rest) => (.group g, rest)
  | ts => (condition finish ts).map fun (c, rest) => (.single c, rest)

theorem element_length {finish : Nat} {ts rest : List Token} {e : Element}
    (h : element finish ts = .ok (e, rest)) : rest.length < ts.length := by
  unfold element at h
  split at h
  · obtain ⟨p, r, eq⟩ := Outcome.map_eq_ok.1 h
    cases eq
    have := group_length r
    simp only [List.length_cons]
    omega
  · obtain ⟨p, r, eq⟩ := Outcome.map_eq_ok.1 h
    cases eq
    exact condition_length r

/-- Reads further elements, each behind a joiner, which is returned with its position. -/
def furtherElements (finish : Nat) (ts : List Token) :
    Except ReadFailure (List ((Joiner × Nat) × Element) × List Token) :=
  match ts with
  | ⟨.joiner j, position⟩ :: ts =>
    match _h : element finish ts with
    | .error e => .error e
    | .ok (e, rest) =>
      (furtherElements finish rest).map fun (es, rest) => (((j, position), e) :: es, rest)
  | ts => .ok ([], ts)
termination_by ts.length
decreasing_by
  have := element_length _h
  simp only [List.length_cons]
  omega

/-- The error at a token where the filter should have ended. -/
def trailing (t : Token) : SyntaxError :=
  let ofText (s : String) : SyntaxError :=
    let upper := s.toList.map Char.toUpper
    if upper = ['A', 'N', 'D'] then .joinerInWords .and t.position
    else if upper = ['O', 'R'] then .joinerInWords .or t.position
    else .unquotedBlank s t.position
  match t.lexeme with
  | .closeGroup => .unopenedGroup t.position
  | .word s => ofText s
  | .quoted s => ofText s
  | lexeme => .unexpected lexeme.text t.position

/-- The group that an element is: a single condition is one of its own. -/
def Element.toGroup : Element → Group Condition
  | .single c => ⟨[c], .and⟩
  | .group g => g

/-- The conditions of elements that are all single; `none` as soon as one is a group. -/
def singles? : List Element → Option (List Condition)
  | [] => some []
  | .single c :: es => (singles? es).map (c :: ·)
  | .group _ :: _ => none

/-- The filter of some elements. Without brackets they are a flat run; with brackets each is a group, and all joiners between
them must agree. -/
def assemble (first : Element) (further : List ((Joiner × Nat) × Element)) : Except ReadFailure Filter :=
  let joiners := further.map fun step => step.1
  match singles? (first :: further.map Prod.snd) with
  | some conditions => .ok (Expression.fold conditions (joiners.map Prod.fst))
  | none =>
    let joiner := (joiners.head?.map Prod.fst).getD .and
    match joiners.find? (fun step => step.1 ≠ joiner) with
    | some (found, position) => malformed (.mixedBetweenGroups joiner found position)
    | none => .ok ⟨(first :: further.map Prod.snd).map Element.toGroup, joiner⟩

def filter (finish : Nat) (ts : List Token) : Except ReadFailure Filter := do
  let (first, ts) ← element finish ts
  let (further, ts) ← furtherElements finish ts
  match ts with
  | t :: _ => malformed (trailing t)
  | [] => assemble first further

end Reading

def Filter.read (s : String) : Except ReadFailure Filter :=
  if Text.isBlankText s then .error (.malformed .empty)
  else
    match Token.ofText s with
    | .error e => .error (.malformed (.lexical e))
    | .ok ts => Reading.filter s.length ts

end TaskQuery
