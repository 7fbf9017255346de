import TaskQuery.Proofs.GrammarReading

namespace TaskQuery

/-- Whether a lexeme may be written right behind the name of a field. -/
def Lexeme.isOperatorPart : Lexeme → Bool
  | word _ | comparison _ => true
  | _ => false

namespace Grammar

open Lexeme (isOperatorPart)

/-- A row of lexemes, and the same row with quotes around some of its words. In front of each of them stand the name of a
field that is no list and an operator, and no comma stands behind it. -/
inductive Requoted : List Lexeme → List Lexeme → Prop
  | nil : Requoted [] []
  | keep (l : Lexeme) {ls ls' : List Lexeme} : Requoted ls ls' → Requoted (l :: ls) (l :: ls')
  | quote {name s : String} {f : Field} {op : Operator} {os ls ls' : List Lexeme} : Field.ofName? name = some f →
      f.kind ≠ .array → OperatorPhrase os op → ls.head? ≠ some .comma → Requoted ls ls' →
      Requoted (.word name :: (os ++ .word s :: ls)) (.word name :: (os ++ .quoted s :: ls'))

theorem OperatorPhrase.isOperatorPart {os : List Lexeme} {op : Operator} (operator : OperatorPhrase os op) :
    ∀ l ∈ os, l.isOperatorPart = true := by
  cases operator <;> simp [Lexeme.isOperatorPart]

theorem OperatorPhrase.ne_nil {os : List Lexeme} {op : Operator} (operator : OperatorPhrase os op) : os ≠ [] := by
  cases operator <;> simp

/-- The words of an operator are not the names of fields. -/
theorem OperatorPhrase.ofName?_eq_none {os : List Lexeme} {op : Operator} {name : String}
    (operator : OperatorPhrase os op) (member : .word name ∈ os) : Field.ofName? name = none := by
  have inLetters : Text.lowerText name = "like" ∨ Text.lowerText name = "in" ∨ Text.lowerText name = "not" := by
    cases operator with
    | sign => simp at member
    | like word => simp_all
    | isIn word => simp_all
    | notIn first second =>
      simp only [List.mem_cons, Lexeme.word.injEq, List.not_mem_nil, or_false] at member
      rcases member with rfl | rfl
      · exact .inr (.inr first)
      · exact .inr (.inl second)
  unfold Field.ofName?
  split
  all_goals first | rfl | exact absurd inLetters (by decide +kernel)

/-- Lexemes that may belong to an operator are on one side of a lexeme that may not. -/
theorem exists_front {front rest ls ms : List Lexeme} (parts : ∀ l ∈ front, l.isOperatorPart = true)
    (next : ∀ l ∈ ms.head?, l.isOperatorPart = false) (row : ls ++ ms = front ++ rest) :
    ∃ behind, ls = front ++ behind ∧ rest = behind ++ ms := by
  rcases List.append_eq_append_iff.1 row with ⟨cut, front_eq, ms_eq⟩ | ⟨behind, ls_eq, rest_eq⟩
  · cases cut with
    | nil => exact ⟨[], by rw [front_eq]; simp, ms_eq.symm⟩
    | cons l cut =>
      have part := parts l (front_eq ▸ List.mem_append_right ls List.mem_cons_self)
      rw [next l (by rw [ms_eq]; rfl)] at part
      cases part
  · exact ⟨behind, ls_eq, rest_eq⟩

namespace Requoted

variable {l : Lexeme} {ls ms zs : List Lexeme}

theorem refl (ls : List Lexeme) : Requoted ls ls := by
  induction ls with
  | nil => exact .nil
  | cons l ls ih => exact .keep l ih

/-- A lexeme remains as it is, unless it is the name of a field before an operator. -/
theorem of_cons (requoted : Requoted (l :: ls) zs)
    (noField : ∀ name f, l = .word name → Field.ofName? name = some f → ∀ next ∈ ls.head?, next.isOperatorPart = false) :
    ∃ ls', zs = l :: ls' ∧ Requoted ls ls' := by
  generalize row : l :: ls = whole at requoted
  cases requoted with
  | nil => cases row
  | keep l requoted =>
    cases row
    exact ⟨_, rfl, requoted⟩
  | @quote name s f op os rest rest' named _ operator =>
    cases row
    obtain ⟨o, os, rfl⟩ := List.exists_cons_of_ne_nil operator.ne_nil
    have part := operator.isOperatorPart o List.mem_cons_self
    rw [noField name f rfl named o rfl] at part
    cases part

theorem of_nil (requoted : Requoted [] zs) : zs = [] := by
  cases requoted
  rfl

/-- The words of an operator remain as they are. -/
theorem of_operator {os : List Lexeme} {op : Operator} (operator : OperatorPhrase os op)
    (requoted : Requoted (os ++ ls) zs) : ∃ ls', zs = os ++ ls' ∧ Requoted ls ls' := by
  have noField : ∀ name f, .word name ∈ os → Field.ofName? name ≠ some f := fun name f member named => by
    rw [operator.ofName?_eq_none member] at named
    cases named
  -- Word by word: what is left of the operator is none any more, but still has no name of a field.
  clear operator
  induction os generalizing zs with
  | nil => exact ⟨zs, rfl, requoted⟩
  | cons o os ih =>
    obtain ⟨zs, rfl, later⟩ := requoted.of_cons fun name f word named =>
      absurd named (noField name f (List.mem_cons.2 (.inl word.symm)))
    obtain ⟨ls', rfl, rest⟩ := ih later fun name f member => noField name f (List.mem_cons_of_mem o member)
    exact ⟨ls', rfl, rest⟩

/-- A row may be parted before a lexeme that is not of an operator. -/
theorem of_append (next : ∀ l ∈ ms.head?, l.isOperatorPart = false) (requoted : Requoted (ls ++ ms) zs) :
    ∃ ls' ms', zs = ls' ++ ms' ∧ Requoted ls ls' ∧ Requoted ms ms' := by
  generalize row : ls ++ ms = whole at requoted
  induction requoted generalizing ls with
  | nil =>
    obtain ⟨rfl, rfl⟩ := List.append_eq_nil_iff.1 row
    exact ⟨[], [], rfl, .nil, .nil⟩
  | @keep l whole whole' later ih =>
    cases ls with
    | nil =>
      cases row
      exact ⟨[], _, rfl, .nil, .keep l later⟩
    | cons first ls =>
      cases row
      obtain ⟨ls', ms', rfl, left, right⟩ := ih rfl
      exact ⟨l :: ls', ms', rfl, .keep l left, right⟩
  | @quote name s f op os whole whole' named notArray operator alone _ ih =>
    have parts : ∀ l ∈ .word name :: (os ++ [.word s]), isOperatorPart l = true := by
      intro l member
      rcases List.mem_cons.1 member with rfl | member
      · rfl
      rcases List.mem_append.1 member with member | member
      · exact operator.isOperatorPart l member
      · rw [List.mem_singleton.1 member]
        rfl
    have row : ls ++ ms = (.word name :: (os ++ [.word s])) ++ whole := by simpa using row
    obtain ⟨behind, rfl, rfl⟩ := exists_front parts next row
    obtain ⟨ls', ms', rfl, left, right⟩ := ih rfl
    refine ⟨.word name :: (os ++ .quoted s :: ls'), ms', by simp, ?_, right⟩
    have alone : behind.head? ≠ some .comma := fun comma => alone (by rw [List.head?_append, comma]; rfl)
    have quoted : Requoted (.word name :: (os ++ .word s :: behind)) _ := .quote named notArray operator alone left
    simpa using quoted

end Requoted

section Phrases

variable {admitted : Nat → Prop} {ls ls' : List Lexeme}

/-- In a list nothing changes, since no operator stands in it. -/
theorem Items.eq_of_requoted {vs : List Value} (items : Items admitted ls vs) (requoted : Requoted ls ls') : ls' = ls := by
  induction items generalizing ls' with
  | last item =>
    obtain ⟨ls', rfl, nothing⟩ := requoted.of_cons nofun
    rw [nothing.of_nil]
  | cons item _ ih =>
    obtain ⟨_, rfl, behind⟩ := requoted.of_cons fun _ _ _ _ next comma => by
      cases comma
      rfl
    obtain ⟨_, rfl, later⟩ := behind.of_cons nofun
    rw [ih later]

/-- The words in a value are not put in quotes as long as the field in front of it is left aside. -/
theorem ValuePhrase.eq_of_requoted {kind : Kind} {op : Operator} {operand : Operand}
    (value : ValuePhrase admitted kind op ls operand) (requoted : Requoted ls ls') : ls' = ls := by
  cases value with
  | emptyList =>
    obtain ⟨_, rfl, later⟩ := requoted.of_cons nofun
    obtain ⟨_, rfl, nothing⟩ := later.of_cons nofun
    rw [nothing.of_nil]
  | list items =>
    obtain ⟨_, rfl, later⟩ := requoted.of_cons nofun
    obtain ⟨_, _, rfl, listed, close⟩ := later.of_append fun next close => by
      cases close
      rfl
    obtain ⟨_, rfl, nothing⟩ := close.of_cons nofun
    rw [items.eq_of_requoted listed, nothing.of_nil]
  | bareList _ item items => exact (Items.cons item items).eq_of_requoted requoted
  | scalar =>
    obtain ⟨_, rfl, nothing⟩ := requoted.of_cons nofun
    rw [nothing.of_nil]

theorem Scalar.quoted {kind : Kind} {s : String} {operand : Operand} (scalar : Scalar admitted kind (.word s) operand)
    (notArray : kind ≠ .array) : Scalar admitted kind (.quoted s) operand := by
  cases scalar with
  | isTrue literal word =>
    cases literal
    exact .isTrue (.quoted s) word
  | isFalse literal word =>
    cases literal
    exact .isFalse (.quoted s) word
  | number literal number =>
    cases literal
    exact .number (.quoted s) number
  | date literal =>
    cases literal
    exact .date (.quoted s)
  | string literal =>
    cases literal
    exact .string (.quoted s)
  | array => exact absurd rfl notArray

/-- A word behind an operator that no comma follows is the whole value, and it may be put in quotes. -/
theorem ValuePhrase.quoted {kind : Kind} {op : Operator} {s : String} {operand : Operand}
    (value : ValuePhrase admitted kind op (.word s :: ls) operand) (notArray : kind ≠ .array)
    (alone : ls.head? ≠ some .comma) : ls = [] ∧ ValuePhrase admitted kind op [.quoted s] operand := by
  cases value with
  | bareList => exact absurd rfl alone
  | scalar scalar => exact ⟨rfl, .scalar (scalar.quoted notArray)⟩

theorem ConditionPhrase.requoted {c : Condition} (phrase : ConditionPhrase admitted ls c) (requoted : Requoted ls ls') :
    ConditionPhrase admitted ls' c := by
  cases phrase with
  | @condition name os vs f op operand named operator value =>
    generalize row : Lexeme.word name :: (os ++ vs) = whole at requoted
    cases requoted with
    | nil => cases row
    | keep l requoted =>
      cases row
      obtain ⟨vs', rfl, later⟩ := requoted.of_operator operator
      rw [value.eq_of_requoted later]
      exact .condition named operator value
    | quote named' notArray operator' alone requoted =>
      -- The name and the operator are the same in both readings of the row, so the word is the value.
      obtain ⟨sameName, sameRest⟩ := List.cons.inj row
      cases sameName
      obtain ⟨rfl, rfl, rfl⟩ := operator.unique operator' sameRest
      cases named.symm.trans named'
      obtain ⟨rfl, quoted⟩ := value.quoted notArray alone
      rw [requoted.of_nil]
      exact .condition named operator quoted

theorem Further.head?_isOperatorPart {α : Type} {phrase : List Lexeme → α → Prop} {steps : List (Joiner × α)}
    (further : Further phrase ls steps) : ∀ l ∈ ls.head?, l.isOperatorPart = false := by
  cases further with
  | nil => exact nofun
  | cons =>
    intro l head
    cases head
    rfl

theorem Further.requoted {α : Type} {phrase : List Lexeme → α → Prop} {steps : List (Joiner × α)}
    (each : ∀ ls a ls', phrase ls a → Requoted ls ls' → phrase ls' a) (further : Further phrase ls steps)
    (requoted : Requoted ls ls') : Further phrase ls' steps := by
  induction further generalizing ls' with
  | nil =>
    rw [requoted.of_nil]
    exact .nil
  | cons first further ih =>
    obtain ⟨_, rfl, members⟩ := requoted.of_cons nofun
    obtain ⟨_, _, rfl, ahead, later⟩ := members.of_append further.head?_isOperatorPart
    exact .cons (each _ _ _ first ahead) (ih later)

theorem ElementPhrase.requoted {e : Element} (phrase : ElementPhrase admitted ls e) (requoted : Requoted ls ls') :
    ElementPhrase admitted ls' e := by
  cases phrase with
  | single condition => exact .single (condition.requoted requoted)
  | @group front more c steps j condition further joiner =>
    obtain ⟨_, rfl, inside⟩ := requoted.of_cons nofun
    have next : ∀ l ∈ (more ++ [Lexeme.closeGroup]).head?, l.isOperatorPart = false := by
      intro l head
      cases more with
      | nil =>
        cases head
        rfl
      | cons => exact further.head?_isOperatorPart l head
    obtain ⟨_, _, rfl, ahead, behind⟩ := inside.of_append next
    obtain ⟨_, _, rfl, later, close⟩ := behind.of_append fun l head => by
      cases head
      rfl
    obtain ⟨_, rfl, nothing⟩ := close.of_cons nofun
    rw [nothing.of_nil]
    exact .group (condition.requoted ahead) (further.requoted (fun _ _ _ => ConditionPhrase.requoted) later) joiner

/-- A row with quotes around single values is the same filter. -/
theorem FilterPhrase.requoted {e : Filter} (phrase : FilterPhrase admitted ls e) (requoted : Requoted ls ls') :
    FilterPhrase admitted ls' e := by
  cases phrase with
  | flat condition further =>
    obtain ⟨_, _, rfl, ahead, later⟩ := requoted.of_append further.head?_isOperatorPart
    exact .flat (condition.requoted ahead) (further.requoted (fun _ _ _ => ConditionPhrase.requoted) later)
  | grouped element further group joiner =>
    obtain ⟨_, _, rfl, ahead, later⟩ := requoted.of_append further.head?_isOperatorPart
    exact .grouped (element.requoted ahead) (further.requoted (fun _ _ _ => ElementPhrase.requoted) later) group joiner

end Phrases

end Grammar

end TaskQuery
