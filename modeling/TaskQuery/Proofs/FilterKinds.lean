import TaskQuery.Proofs.Folding
import TaskQuery.Proofs.GrammarReading

namespace TaskQuery

/-- A value as a list of filter text holds it. -/
inductive Value.Listed : Value → Prop
  | text (s : String) : Listed (.str s)
  | number (n : Number) : Listed n.value

/-- An operand of some kind, as it is read. A list is taken for any kind, and on a list field every operand is one. -/
inductive Operand.OfKind : Kind → Operand → Prop
  | truth (b : Bool) : OfKind .boolean (.one (.bool b))
  | number (n : Number) : OfKind .number (.one n.value)
  | date (s : String) : OfKind .date (.one (.str s))
  | string (s : String) : OfKind .string (.one (.str s))
  | items {kind : Kind} {vs : List Value} : (∀ v ∈ vs, v.Listed) → OfKind kind (.many vs)

def Condition.OfKind (c : Condition) : Prop :=
  c.operand.OfKind c.field.kind

/-- The shape of a filter that is read. -/
structure Filter.Sound (e : Filter) : Prop where
  nonempty : e.groups ≠ []
  groups : ∀ g ∈ e.groups, g.conditions ≠ []
  kinds : ∀ c ∈ e.conditions, c.OfKind

theorem Filter.Sound.kinds_of_group {e : Filter} (sound : Filter.Sound e) {g : Group Condition} (member : g ∈ e.groups) :
    ∀ c ∈ g.conditions, c.OfKind := fun c inside =>
  sound.kinds c (List.mem_flatMap.2 ⟨g, member, inside⟩)

namespace Grammar

variable {admitted : Nat → Prop}

theorem Item.listed {l : Lexeme} {v : Value} (item : Item admitted l v) : v.Listed := by
  cases item with
  | number => exact .number _
  | text => exact .text _
  | quoted => exact .text _

theorem Items.listed {ls : List Lexeme} {vs : List Value} (items : Items admitted ls vs) : ∀ v ∈ vs, v.Listed := by
  induction items with
  | last item => exact List.forall_mem_singleton.2 item.listed
  | cons item _ ih => exact List.forall_mem_cons.2 ⟨item.listed, ih⟩

theorem Scalar.ofKind {kind : Kind} {l : Lexeme} {operand : Operand} (scalar : Scalar admitted kind l operand) :
    operand.OfKind kind := by
  cases scalar with
  | isTrue => exact .truth true
  | isFalse => exact .truth false
  | number => exact .number _
  | date => exact .date _
  | string => exact .string _
  | array item => exact .items (List.forall_mem_singleton.2 item.listed)

theorem ValuePhrase.ofKind {kind : Kind} {op : Operator} {ls : List Lexeme} {operand : Operand}
    (phrase : ValuePhrase admitted kind op ls operand) : operand.OfKind kind := by
  cases phrase with
  | emptyList => exact .items (List.forall_mem_nil _)
  | list items => exact .items items.listed
  | bareList _ item items => exact .items (List.forall_mem_cons.2 ⟨item.listed, items.listed⟩)
  | scalar scalar => exact scalar.ofKind

theorem ConditionPhrase.ofKind {ls : List Lexeme} {c : Condition} (phrase : ConditionPhrase admitted ls c) :
    c.OfKind := by
  cases phrase with
  | condition _ _ value => exact value.ofKind

/-- What holds of every phrase holds of every member of a run. -/
theorem Further.forall_mem {α : Type} {phrase : List Lexeme → α → Prop} {property : α → Prop}
    (each : ∀ ls a, phrase ls a → property a) {ls : List Lexeme} {steps : List (Joiner × α)}
    (further : Further phrase ls steps) : ∀ a ∈ steps.map Prod.snd, property a := by
  induction further with
  | nil => exact List.forall_mem_nil _
  | cons first _ ih => exact List.forall_mem_cons.2 ⟨each _ _ first, ih⟩

/-- The group that an element is has conditions, and these have the kinds of their fields. -/
theorem ElementPhrase.sound {ls : List Lexeme} {e : Element} (phrase : ElementPhrase admitted ls e) :
    (Reading.Element.toGroup e).conditions ≠ [] ∧ ∀ c ∈ (Reading.Element.toGroup e).conditions, c.OfKind := by
  cases phrase with
  | single condition => exact ⟨List.cons_ne_nil _ _, List.forall_mem_singleton.2 condition.ofKind⟩
  | group first further _ =>
    have others := further.forall_mem fun _ _ phrase => phrase.ofKind
    exact ⟨List.cons_ne_nil _ _, List.forall_mem_cons.2 ⟨first.ofKind, others⟩⟩

theorem FilterPhrase.sound {ls : List Lexeme} {e : Filter} (phrase : FilterPhrase admitted ls e) :
    Filter.Sound e := by
  cases phrase with
  | @flat _ _ c steps first further =>
    have others := further.forall_mem fun _ _ phrase => phrase.ofKind
    have shape := Expression.fold_steps c steps rfl
    refine ⟨?_, ?_, ?_⟩
    · rw [shape]
      exact mt List.map_eq_nil_iff.1 (Expression.runs_ne_nil _ _ _)
    · rw [shape, List.forall_mem_map]
      exact Expression.ne_nil_of_mem_runs _ _ (List.cons_ne_nil _ _)
    · rw [Expression.conditions_fold_steps]
      exact List.forall_mem_cons.2 ⟨first.ofKind, others⟩
  | @grouped _ _ first steps _ _ phrase further _ _ =>
    have each : ∀ e ∈ first :: steps.map Prod.snd,
        (Reading.Element.toGroup e).conditions ≠ [] ∧ ∀ c ∈ (Reading.Element.toGroup e).conditions, c.OfKind :=
      List.forall_mem_cons.2 ⟨phrase.sound, further.forall_mem fun _ _ phrase => phrase.sound⟩
    refine ⟨List.cons_ne_nil _ _, ?_, ?_⟩
    · exact List.forall_mem_map.2 fun e member => (each e member).1
    · intro c member
      obtain ⟨g, inGroups, inside⟩ := List.mem_flatMap.1 member
      obtain ⟨e, element, rfl⟩ := List.mem_map.1 inGroups
      exact (each e element).2 c inside

end Grammar

/-- A text that is read has tokens, and these are a row of the grammar. -/
theorem Filter.exists_phrase_of_read {s : String} {e : Filter} (read : Filter.read s = .ok e) :
    ∃ ts, Token.ofText s = .ok ts ∧ Grammar.FilterPhrase Grammar.Readable (ts.map Token.lexeme) e := by
  cases tokens : Token.ofText s with
  | error failure =>
    unfold Filter.read at read
    rw [tokens] at read
    split at read <;> cases read
  | ok ts => exact ⟨ts, rfl, (Filter.read_eq_ok_iff tokens).1 read⟩

theorem Filter.sound_of_read {s : String} {e : Filter} (read : Filter.read s = .ok e) : Filter.Sound e := by
  obtain ⟨ts, _, phrase⟩ := Filter.exists_phrase_of_read read
  exact phrase.sound

end TaskQuery
