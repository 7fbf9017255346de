import TaskQuery.Filter.Reading
import TaskQuery.Proofs.NumeralText

namespace TaskQuery

/-- A number as a value. -/
def Number.value : Number → Value
  | .int n => .int n
  | .float x => .float x

namespace Grammar

/-- A text that spells a number. -/
def IsNumberText (s : String) : Prop :=
  ∃ m, Numeral.Spelled (dropFinalNewline s.toList) m

/-- A word or a quoted text, and its characters. -/
inductive Literal : Lexeme → String → Prop
  | word (s : String) : Literal (.word s) s
  | quoted (s : String) : Literal (.quoted s) s

/-- A comparison sign, or one of the words for likeness and membership in letters of any case. -/
inductive OperatorPhrase : List Lexeme → Operator → Prop
  | sign (op : Operator) : OperatorPhrase [.comparison op] op
  | like {s : String} : Text.lowerText s = "like" → OperatorPhrase [.word s] .like
  | isIn {s : String} : Text.lowerText s = "in" → OperatorPhrase [.word s] .isIn
  | notIn {s t : String} : Text.lowerText s = "not" → Text.lowerText t = "in" →
      OperatorPhrase [.word s, .word t] .notIn

/-- Further members of a run, each behind a joiner. -/
inductive Further {α : Type} (phrase : List Lexeme → α → Prop) : List Lexeme → List (Joiner × α) → Prop
  | nil : Further phrase [] []
  | cons {ls more : List Lexeme} {j : Joiner} {a : α} {steps : List (Joiner × α)} :
      phrase ls a → Further phrase more steps → Further phrase (.joiner j :: (ls ++ more)) ((j, a) :: steps)

/-- The one joiner of a run: it stands between any two neighbours, and is *and* if there are none. -/
def Throughout (joiners : List Joiner) (j : Joiner) : Prop :=
  (∀ k ∈ joiners, k = j) ∧ (joiners = [] → j = .and)

section Digits

variable (admitted : Nat → Prop)

/-- A text that spells a number, and the number. An integer is written with an admitted number of digits. -/
def NumberText (s : String) (n : Number) : Prop :=
  ∃ m, Numeral.Spelled (dropFinalNewline s.toList) m ∧ (m.integral = true → admitted m.whole.length) ∧ m.number = n

/-- An item of a list. A word that spells a number is that number, any other word or quoted text is itself. -/
inductive Item : Lexeme → Value → Prop
  | number {s : String} {n : Number} : NumberText admitted s n → Item (.word s) n.value
  | text {s : String} : ¬IsNumberText s → Item (.word s) (.str s)
  | quoted (s : String) : Item (.quoted s) (.str s)

/-- Items with commas between them. -/
inductive Items : List Lexeme → List Value → Prop
  | last {l : Lexeme} {v : Value} : Item admitted l v → Items [l] [v]
  | cons {l : Lexeme} {v : Value} {ls : List Lexeme} {vs : List Value} : Item admitted l v → Items ls vs →
      Items (l :: .comma :: ls) (v :: vs)

/-- A single word or quoted text that suits a kind. -/
inductive Scalar : Kind → Lexeme → Operand → Prop
  | isTrue {l : Lexeme} {s : String} : Literal l s → Text.lowerText s = "true" → Scalar .boolean l (.one (.bool true))
  | isFalse {l : Lexeme} {s : String} : Literal l s → Text.lowerText s = "false" →
      Scalar .boolean l (.one (.bool false))
  | number {l : Lexeme} {s : String} {n : Number} : Literal l s → NumberText admitted (Text.trim s) n →
      Scalar .number l (.one n.value)
  | date {l : Lexeme} {s : String} : Literal l s → Scalar .date l (.one (.str s))
  | string {l : Lexeme} {s : String} : Literal l s → Scalar .string l (.one (.str s))
  | array {l : Lexeme} {v : Value} : Item admitted l v → Scalar .array l (.many [v])

/-- A value behind an operator: a list in square brackets, for membership also one without, or a single literal. -/
inductive ValuePhrase (kind : Kind) (op : Operator) : List Lexeme → Operand → Prop
  | emptyList : ValuePhrase kind op [.openList, .closeList] (.many [])
  | list {ls : List Lexeme} {vs : List Value} : Items admitted ls vs →
      ValuePhrase kind op (.openList :: (ls ++ [.closeList])) (.many vs)
  | bareList {l : Lexeme} {v : Value} {ls : List Lexeme} {vs : List Value} : op = .isIn ∨ op = .notIn →
      Item admitted l v → Items admitted ls vs → ValuePhrase kind op (l :: .comma :: ls) (.many (v :: vs))
  | scalar {l : Lexeme} {operand : Operand} : Scalar admitted kind l operand → ValuePhrase kind op [l] operand

/-- The name of a field, an operator and a value. -/
inductive ConditionPhrase : List Lexeme → Condition → Prop
  | condition {name : String} {os vs : List Lexeme} {f : Field} {op : Operator} {operand : Operand} :
      Field.ofName? name = some f → OperatorPhrase os op → ValuePhrase admitted f.kind op vs operand →
      ConditionPhrase (.word name :: (os ++ vs)) ⟨f, op, operand⟩

/-- A condition, or a run of conditions in round brackets with one joiner throughout. -/
inductive ElementPhrase : List Lexeme → Element → Prop
  | single {ls : List Lexeme} {c : Condition} : ConditionPhrase admitted ls c → ElementPhrase ls (.single c)
  | group {ls more : List Lexeme} {c : Condition} {steps : List (Joiner × Condition)} {j : Joiner} :
      ConditionPhrase admitted ls c → Further (ConditionPhrase admitted) more steps →
      Throughout (steps.map Prod.fst) j →
      ElementPhrase (.openGroup :: (ls ++ (more ++ [.closeGroup]))) (.group ⟨c :: steps.map Prod.snd, j⟩)

/-- A run of elements. Without brackets it is folded; with brackets there is one joiner throughout, and every element is
a group. -/
inductive FilterPhrase : List Lexeme → Filter → Prop
  | flat {ls more : List Lexeme} {c : Condition} {steps : List (Joiner × Condition)} :
      ConditionPhrase admitted ls c → Further (ConditionPhrase admitted) more steps →
      FilterPhrase (ls ++ more) (Expression.fold (c :: steps.map Prod.snd) (steps.map Prod.fst))
  | grouped {ls more : List Lexeme} {e : Element} {steps : List (Joiner × Element)} {g : Group Condition} {j : Joiner} :
      ElementPhrase admitted ls e → Further (ElementPhrase admitted) more steps →
      .group g ∈ e :: steps.map Prod.snd → Throughout (steps.map Prod.fst) j →
      FilterPhrase (ls ++ more) ⟨(e :: steps.map Prod.snd).map Reading.Element.toGroup, j⟩

end Digits

theorem Literal.unique {l : Lexeme} {s t : String} (first : Literal l s) (second : Literal l t) : s = t := by
  cases first <;> cases second <;> rfl

/-- How an operator is written, and what stands behind it, is settled by the row. -/
theorem OperatorPhrase.unique {os os' vs vs' : List Lexeme} {op op' : Operator} (first : OperatorPhrase os op)
    (second : OperatorPhrase os' op') (same : os ++ vs = os' ++ vs') : os = os' ∧ op = op' ∧ vs = vs' := by
  cases first <;> cases second <;> simp_all

theorem Item.literal {admitted : Nat → Prop} {l : Lexeme} {v : Value} (item : Item admitted l v) :
    ∃ s, Literal l s := by
  cases item with
  | number | text => exact ⟨_, .word _⟩
  | quoted s => exact ⟨s, .quoted s⟩

theorem Scalar.literal {admitted : Nat → Prop} {kind : Kind} {l : Lexeme} {operand : Operand}
    (scalar : Scalar admitted kind l operand) : ∃ s, Literal l s := by
  cases scalar with
  | array item => exact item.literal
  | _ literal => exact ⟨_, literal⟩

/-- Lexemes with commas between them are items for values exactly if each of them is one for its value. -/
theorem items_intersperse_iff {admitted : Nat → Prop} {α : Type} {lexeme : α → Lexeme} {value : α → Value} {as : List α}
    (nonempty : as ≠ []) : Items admitted ((as.map lexeme).intersperse .comma) (as.map value) ↔
      ∀ a ∈ as, Item admitted (lexeme a) (value a) := by
  induction as with
  | nil => exact absurd rfl nonempty
  | cons a as ih =>
    cases as with
    | nil =>
      rw [List.forall_mem_singleton]
      constructor
      · intro items
        cases items with
        | last item => exact item
      · exact .last
    | cons next as =>
      rw [List.forall_mem_cons, ← ih (List.cons_ne_nil _ _)]
      constructor
      · intro items
        cases items with
        | cons item items => exact ⟨item, items⟩
      · rintro ⟨item, items⟩
        exact .cons item items

section Admission

variable {admitted wider : Nat → Prop}

/-- Whether the numbers that a lexeme may spell are still admitted. -/
def Keeps (admitted wider : Nat → Prop) (l : Lexeme) : Prop :=
  ∀ s m, Literal l s →
    (Numeral.Spelled (dropFinalNewline s.toList) m ∨ Numeral.Spelled (dropFinalNewline (Text.trim s).toList) m) →
    admitted m.whole.length → wider m.whole.length

theorem NumberText.mono {s : String} {n : Number} (number : NumberText admitted s n)
    (keeps : ∀ m, Numeral.Spelled (dropFinalNewline s.toList) m → admitted m.whole.length → wider m.whole.length) :
    NumberText wider s n := by
  obtain ⟨m, spelled, digits, value⟩ := number
  exact ⟨m, spelled, fun integral => keeps m spelled (digits integral), value⟩

theorem Item.mono {l : Lexeme} {v : Value} (item : Item admitted l v) (keeps : Keeps admitted wider l) :
    Item wider l v := by
  cases item with
  | number number => exact .number (number.mono fun m spelled => keeps _ m (.word _) (.inl spelled))
  | text plain => exact .text plain
  | quoted s => exact .quoted s

theorem Items.mono {ls : List Lexeme} {vs : List Value} (items : Items admitted ls vs)
    (keeps : ∀ l ∈ ls, Keeps admitted wider l) : Items wider ls vs := by
  induction items with
  | last item => exact .last (item.mono (keeps _ List.mem_cons_self))
  | cons item _ ih =>
    rw [List.forall_mem_cons, List.forall_mem_cons] at keeps
    exact .cons (item.mono keeps.1) (ih keeps.2.2)

theorem Scalar.mono {kind : Kind} {l : Lexeme} {operand : Operand} (scalar : Scalar admitted kind l operand)
    (keeps : Keeps admitted wider l) : Scalar wider kind l operand := by
  cases scalar with
  | isTrue literal word => exact .isTrue literal word
  | isFalse literal word => exact .isFalse literal word
  | number literal number => exact .number literal (number.mono fun m spelled => keeps _ m literal (.inr spelled))
  | date literal => exact .date literal
  | string literal => exact .string literal
  | array item => exact .array (item.mono keeps)

theorem ValuePhrase.mono {kind : Kind} {op : Operator} {ls : List Lexeme} {operand : Operand}
    (phrase : ValuePhrase admitted kind op ls operand) (keeps : ∀ l ∈ ls, Keeps admitted wider l) :
    ValuePhrase wider kind op ls operand := by
  cases phrase with
  | emptyList => exact .emptyList
  | list items =>
    rw [List.forall_mem_cons, List.forall_mem_append] at keeps
    exact .list (items.mono keeps.2.1)
  | bareList membership item items =>
    rw [List.forall_mem_cons, List.forall_mem_cons] at keeps
    exact .bareList membership (item.mono keeps.1) (items.mono keeps.2.2)
  | scalar scalar => exact .scalar (scalar.mono (keeps _ List.mem_cons_self))

theorem ConditionPhrase.mono {ls : List Lexeme} {c : Condition} (phrase : ConditionPhrase admitted ls c)
    (keeps : ∀ l ∈ ls, Keeps admitted wider l) : ConditionPhrase wider ls c := by
  cases phrase with
  | condition field operator value =>
    rw [List.forall_mem_cons, List.forall_mem_append] at keeps
    exact .condition field operator (value.mono keeps.2.2)

theorem Further.mono {α : Type} {phrase other : List Lexeme → α → Prop} {keep : Lexeme → Prop}
    (change : ∀ ls a, phrase ls a → (∀ l ∈ ls, keep l) → other ls a) {ls : List Lexeme} {steps : List (Joiner × α)}
    (further : Further phrase ls steps) (keeps : ∀ l ∈ ls, keep l) : Further other ls steps := by
  induction further with
  | nil => exact .nil
  | cons first _ ih =>
    rw [List.forall_mem_cons, List.forall_mem_append] at keeps
    exact .cons (change _ _ first keeps.2.1) (ih keeps.2.2)

theorem ElementPhrase.mono {ls : List Lexeme} {e : Element} (phrase : ElementPhrase admitted ls e)
    (keeps : ∀ l ∈ ls, Keeps admitted wider l) : ElementPhrase wider ls e := by
  cases phrase with
  | single condition => exact .single (condition.mono keeps)
  | group first further joiner =>
    rw [List.forall_mem_cons, List.forall_mem_append, List.forall_mem_append] at keeps
    exact .group (first.mono keeps.2.1) (further.mono (fun _ _ phrase => phrase.mono) keeps.2.2.1) joiner

theorem FilterPhrase.mono {ls : List Lexeme} {e : Filter} (phrase : FilterPhrase admitted ls e)
    (keeps : ∀ l ∈ ls, Keeps admitted wider l) : FilterPhrase wider ls e := by
  cases phrase with
  | flat first further =>
    rw [List.forall_mem_append] at keeps
    exact .flat (first.mono keeps.1) (further.mono (fun _ _ phrase => phrase.mono) keeps.2)
  | grouped first further group joiner =>
    rw [List.forall_mem_append] at keeps
    exact .grouped (first.mono keeps.1) (further.mono (fun _ _ phrase => phrase.mono) keeps.2) group joiner

end Admission

end Grammar

end TaskQuery
