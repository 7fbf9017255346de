import TaskQuery.Proofs.GrammarReading
import TaskQuery.Proofs.OperandRow

namespace TaskQuery

open Grammar Lexeme

/-- A value without the null characters of its text. -/
def Value.withoutNulls : Value → Value
  | .str s => .str (Text.withoutNulls s)
  | v => v

/-- An operand without the null characters of its texts. -/
def Operand.withoutNulls : Operand → Operand
  | .one v => .one v.withoutNulls
  | .many items => .many (items.map Value.withoutNulls)

/-- A condition without the null characters of its texts. -/
def Condition.withoutNulls (c : Condition) : Condition :=
  { c with operand := c.operand.withoutNulls }

/-- An integer that is not too long to be read, or a finite double. -/
def Number.Writable : Number → Prop
  | .int n => (Nat.toDigits 10 n.natAbs).length ≤ integerDigitLimit
  | .float x => x.isFinite = true

/-- A value that stands for itself in a written list. -/
inductive Value.Writable : Value → Prop
  | text (s : String) : Writable (.str s)
  | number {n : Number} : n.Writable → Writable n.value

/-- An operand that stands for itself in the text of a condition on a field of some kind. A text on a date field may be
written without quotes, where nothing can be left out and a line feed at the end would be passed over. -/
inductive Operand.Writable : Kind → Operand → Prop
  | truth (b : Bool) : Writable .boolean (.one (.bool b))
  | number {n : Number} : n.Writable → Writable .number (.one n.value)
  | string (s : String) : Writable .string (.one (.str s))
  | date {s : String} : '\x00' ∉ s.toList → s.toList.getLast? ≠ some '\n' → Writable .date (.one (.str s))
  | items {vs : List Value} : (∀ v ∈ vs, v.Writable) → Writable .array (.many vs)

/-- A condition that stands for itself in filter text. -/
def Condition.Writable (c : Condition) : Prop :=
  c.operand.Writable c.field.kind

theorem Number.withoutNulls_value (n : Number) : n.value.withoutNulls = n.value := by
  cases n <;> rfl

theorem Number.lexeme_value (kind : Kind) (n : Number) : Written.lexeme kind n.value = .word n.display := by
  cases n <;> rfl

/-- The text of a number is one for that number, if the digits of an integer are admitted and a double is finite. -/
theorem Number.numberText {admitted : Nat → Prop} {n : Number}
    (digits : ∀ i, n = .int i → admitted (Nat.toDigits 10 i.natAbs).length)
    (finite : ∀ x, n = .float x → x.isFinite = true) : NumberText admitted n.display n := by
  cases n with
  | int n =>
    obtain ⟨m, spelled, integral, value, length⟩ := Numeral.spelled_toString n
    refine ⟨m, by rwa [dropFinalNewline_display], fun _ => ?_, ?_⟩
    · rw [length]
      exact digits n rfl
    · rw [Numeral.number, if_pos integral, value]
  | float x =>
    obtain ⟨d, ⟨m, spelled, pointed, decimal⟩, nearest⟩ := Double.display_spelled (finite x rfl)
    have notIntegral : ¬m.integral = true := by simp [pointed]
    refine ⟨m, by rwa [dropFinalNewline_display], fun integral => absurd integral notIntegral, ?_⟩
    rw [Numeral.number, if_neg notIntegral, decimal, nearest]

/-- The text of a number is read as that number. -/
theorem Number.Writable.numberText {n : Number} (writable : n.Writable) : NumberText Readable n.display n := by
  refine Number.numberText (fun i same => ?_) (fun x same => ?_)
  · subst same
    exact writable
  · subst same
    exact writable

theorem Number.writable_int_iff {n : Int} : (Number.int n).Writable ↔ n.natAbs < 10 ^ integerDigitLimit :=
  Nat.length_toDigits_le_iff (by decide) (by decide)

theorem Number.Writable.exists_scalar {n : Number} (writable : n.Writable) (kind : Kind) :
    ∃ text, Written.scalar kind n.value = .ok text := by
  cases n with
  | int n => exact ⟨_, writeInteger_eq_ok_iff.2 ⟨Number.writable_int_iff.1 writable, rfl⟩⟩
  | float x => exact ⟨_, rfl⟩

namespace Written

variable {admitted : Nat → Prop}

theorem truth_scalar (b : Bool) : Scalar admitted .boolean (lexeme .boolean (.bool b)) (.one (.bool b)) := by
  cases b with
  | true => exact .isTrue (.word "true") (by decide +kernel)
  | false => exact .isFalse (.word "false") (by decide +kernel)

theorem number_scalar {n : Number} (text : NumberText admitted n.display n) :
    Scalar admitted .number (lexeme .number n.value) (.one n.value) := by
  rw [← n.trim_display] at text
  rw [Number.lexeme_value]
  exact .number (.word n.display) text

theorem item_lexeme {v : Value} (writable : v.Writable) : Item Readable (lexeme .array v) v.withoutNulls := by
  cases writable with
  | text s => exact .quoted _
  | @number n writable =>
    rw [Number.lexeme_value, Number.withoutNulls_value]
    exact .number writable.numberText

end Written

/-- The lexemes of a writable operand are read as the operand without its null characters. -/
theorem Operand.Writable.phrase {kind : Kind} {operand : Operand} (writable : operand.Writable kind) (op : Operator) :
    ValuePhrase Readable kind op (operand.lexemes kind) operand.withoutNulls := by
  cases writable with
  | truth b => exact .scalar (Written.truth_scalar b)
  | @number n writable =>
    rw [Operand.withoutNulls, Number.withoutNulls_value]
    exact .scalar (Written.number_scalar writable.numberText)
  | string s => exact .scalar (.string (.quoted _))
  | @date s noNull noFeed =>
    have literal := Written.literal_textLexeme_iff.2 (Written.faithful_of_plain .date noNull noFeed)
    rw [Operand.withoutNulls, Value.withoutNulls, Text.withoutNulls_eq_self noNull]
    exact .scalar (.date literal)
  | @items vs writable =>
    cases vs with
    | nil => exact .emptyList
    | cons v vs =>
      have items : ∀ item ∈ v :: vs, Item Readable (Written.lexeme .array item) item.withoutNulls :=
        fun item member => Written.item_lexeme (writable item member)
      exact .list ((items_intersperse_iff (List.cons_ne_nil v vs)).2 items)

theorem Operand.Writable.exists_written {kind : Kind} {operand : Operand} (writable : operand.Writable kind) :
    ∃ text, operand.written kind = .ok text := by
  cases writable with
  | truth | string | date => exact ⟨_, rfl⟩
  | number writable => exact writable.exists_scalar .number
  | items writable =>
    refine Operand.exists_written_many_iff.2 fun v member => ?_
    cases writable v member with
    | text s => exact ⟨_, rfl⟩
    | number writable => exact writable.exists_scalar .array

theorem Condition.Writable.exists_written {c : Condition} (writable : c.Writable) : ∃ text, c.written = .ok text :=
  Condition.exists_written_iff.2 (Operand.Writable.exists_written writable)

/-- The text of a condition is a row of the grammar, for the condition without its null characters. -/
theorem Condition.Writable.row {c : Condition} {text : String} (writable : c.Writable) (written : c.written = .ok text) :
    ∃ ls, Row text.toList ls ∧ ConditionPhrase Readable ls c.withoutNulls := by
  obtain ⟨os, operator, row⟩ := Condition.row written
  exact ⟨_, row, .condition c.field.ofName?_name operator (Operand.Writable.phrase writable c.operator)⟩

end TaskQuery
