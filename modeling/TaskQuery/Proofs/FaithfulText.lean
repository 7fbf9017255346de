import TaskQuery.Proofs.DraftText
import TaskQuery.Proofs.FilterKinds

namespace TaskQuery

open Grammar Lexeme

/-- A value that comes back as an item of a written list on a field of some kind: a number, or a text that is not taken
for a number where it stands without quotes. -/
inductive Value.Kept (kind : Kind) : Value → Prop
  | number {n : Number} : n.Writable → Kept kind n.value
  | text {s : String} : Written.Faithful kind s →
      (kind = .date → Written.isBare s.toList = true → ¬IsNumberText s) → Kept kind (.str s)

/-- An operand that comes back from the text of a condition on a field of some kind. -/
inductive Operand.Kept : Kind → Operand → Prop
  | truth (b : Bool) : Kept .boolean (.one (.bool b))
  | number {n : Number} : n.Writable → Kept .number (.one n.value)
  | string {s : String} : Written.Faithful .string s → Kept .string (.one (.str s))
  | date {s : String} : Written.Faithful .date s → Kept .date (.one (.str s))
  | items {kind : Kind} {vs : List Value} : (∀ v ∈ vs, v.Kept kind) → Kept kind (.many vs)

/-- A truth value in a list is written as a word, which is read as a text. -/
theorem Value.not_kept_bool (kind : Kind) (b : Bool) : ¬(Value.bool b).Kept kind := by
  intro kept
  generalize same : Value.bool b = v at kept
  cases kept with
  | @number n => cases n <;> cases same
  | text => cases same

namespace Number

variable {n : Number}

theorem numberText_display_iff : NumberText Readable n.display n ↔ n.Writable := by
  refine ⟨fun text => ?_, Writable.numberText⟩
  have read := readLiteral_eq_number_iff.2 text
  cases n with
  | int n =>
    obtain ⟨m, spelled, integral, _, digits⟩ := Numeral.spelled_toString n
    rw [readLiteral_of_spelled (n := m) (by rwa [dropFinalNewline_display])] at read
    split at read
    · cases read
    · rename_i short
      refine Nat.le_of_not_lt fun long => short ⟨integral, ?_⟩
      rwa [digits]
  | float x =>
    cases x with
    | nan =>
      have unread : readLiteral (Number.float .nan).display = .notNumber := by decide +kernel
      rw [unread] at read
      cases read
    | infinite negative =>
      have unread : readLiteral (Number.float (.infinite negative)).display = .notNumber := by
        cases negative <;> decide +kernel
      rw [unread] at read
      cases read
    | finite => rfl

end Number

namespace Grammar

/-- An item is a number that its word spells, or else the text of its lexeme. -/
theorem Item.number_or_text {admitted : Nat → Prop} {l : Lexeme} {v : Value} (item : Item admitted l v) :
    (∃ s n, l = .word s ∧ v = n.value ∧ NumberText admitted s n) ∨
      ∃ s, v = .str s ∧ Literal l s ∧ (l = .word s → ¬IsNumberText s) := by
  cases item with
  | number number => exact .inl ⟨_, _, rfl, rfl, number⟩
  | text plain => exact .inr ⟨_, rfl, .word _, fun _ => plain⟩
  | quoted s => exact .inr ⟨_, rfl, .quoted s, fun word => by cases word⟩

end Grammar

namespace Written

variable {kind : Kind} {v : Value}

theorem item_lexeme_iff : Item Readable (lexeme kind v) v ↔ v.Kept kind := by
  constructor
  · intro item
    rcases item.number_or_text with ⟨s, n, word, rfl, number⟩ | ⟨s, rfl, literal, plain⟩
    · rw [Number.lexeme_value] at word
      cases word
      exact .number (Number.numberText_display_iff.1 number)
    · -- A bare text is faithful as a word, and then it is this word that must not spell a number.
      have faithful := literal_textLexeme_iff.1 literal
      refine .text faithful fun date bare => plain ?_
      have word := textLexeme_of_faithful faithful
      rwa [if_pos ⟨date, bare⟩] at word
  · intro kept
    cases kept with
    | number writable =>
      rw [Number.lexeme_value]
      exact .number writable.numberText
    | @text s faithful plain =>
      have written : lexeme kind (.str s) = textLexeme kind s := rfl
      rw [written, textLexeme_of_faithful faithful]
      split
      · rename_i bare
        exact .text (plain bare.1 bare.2)
      · exact .quoted s

theorem items_lexemes_iff {vs : List Value} (nonempty : vs ≠ []) :
    Items Readable ((vs.map (lexeme kind)).intersperse .comma) vs ↔ ∀ v ∈ vs, v.Kept kind := by
  have each : Items Readable ((vs.map (lexeme kind)).intersperse .comma) (vs.map id) ↔
      ∀ v ∈ vs, Item Readable (lexeme kind v) v := items_intersperse_iff nonempty
  simp only [List.map_id, item_lexeme_iff] at each
  exact each

theorem scalar_lexeme_iff : Scalar Readable kind (lexeme kind v) (.one v) ↔ (Operand.one v).Kept kind := by
  constructor
  · intro scalar
    generalize written : lexeme kind v = l at scalar
    generalize same : Operand.one v = operand at scalar
    cases scalar with
    | isTrue | isFalse =>
      cases same
      exact .truth _
    | @number _ s n literal text =>
      cases same
      rw [Number.lexeme_value] at written
      subst written
      rw [literal.unique (.word _), Number.trim_display] at text
      exact .number (Number.numberText_display_iff.1 text)
    | date literal =>
      cases same
      subst written
      exact .date (literal_textLexeme_iff.1 literal)
    | string literal =>
      cases same
      subst written
      exact .string (literal_textLexeme_iff.1 literal)
    | array => cases same
  · intro kept
    cases kept with
    | truth b => exact truth_scalar b
    | number writable => exact number_scalar writable.numberText
    | string faithful => exact .string (literal_textLexeme_iff.2 faithful)
    | date faithful => exact .date (literal_textLexeme_iff.2 faithful)

end Written

namespace Operand

variable {kind : Kind} {op : Operator}

theorem kept_many_iff {vs : List Value} : (many vs).Kept kind ↔ ∀ v ∈ vs, v.Kept kind := by
  refine ⟨fun kept => ?_, .items⟩
  cases kept with
  | items kept => exact kept

theorem kept_number_iff {n : Number} : (one n.value).Kept .number ↔ n.Writable := by
  refine ⟨fun kept => ?_, .number⟩
  generalize same : one n.value = operand at kept
  cases kept with
  | @number m writable =>
    cases n <;> cases m <;> cases same <;> exact writable
  | items => cases same

theorem kept_text_iff {s : String} :
    (one (.str s)).Kept kind ↔ (kind = .string ∨ kind = .date) ∧ Written.Faithful kind s := by
  constructor
  · intro kept
    generalize same : one (.str s) = operand at kept
    cases kept with
    | truth => cases same
    | @number n => cases n <;> cases same
    | string faithful =>
      cases same
      exact ⟨.inl rfl, faithful⟩
    | date faithful =>
      cases same
      exact ⟨.inr rfl, faithful⟩
    | items => cases same
  · rintro ⟨rfl | rfl, faithful⟩
    · exact .string faithful
    · exact .date faithful

theorem valuePhrase_many_iff {vs : List Value} :
    ValuePhrase Readable kind op ((many vs).lexemes kind) (many vs) ↔ ∀ v ∈ vs, v.Kept kind := by
  rw [lexemes]
  constructor
  · intro phrase
    generalize behind : (vs.map (Written.lexeme kind)).intersperse .comma ++ [.closeList] = rest at phrase
    cases phrase with
    | emptyList => exact List.forall_mem_nil _
    | list items =>
      have nonempty : vs ≠ [] := by
        rintro rfl
        cases items
      rw [← List.append_cancel_right behind] at items
      exact (Written.items_lexemes_iff nonempty).1 items
    | bareList _ item =>
      obtain ⟨_, literal⟩ := item.literal
      cases literal
    | scalar scalar =>
      obtain ⟨_, literal⟩ := scalar.literal
      cases literal
  · intro kept
    by_cases empty : vs = []
    · subst empty
      exact .emptyList
    · exact .list ((Written.items_lexemes_iff empty).2 kept)

/-- The lexemes of an operand are read as the operand exactly if the operand comes back. -/
theorem valuePhrase_lexemes_iff {operand : Operand} :
    ValuePhrase Readable kind op (operand.lexemes kind) operand ↔ operand.Kept kind := by
  cases operand with
  | one v =>
    rw [lexemes, ← Written.scalar_lexeme_iff]
    refine ⟨fun phrase => ?_, .scalar⟩
    generalize row : [Written.lexeme kind v] = ls at phrase
    cases phrase with
    | scalar scalar =>
      cases row
      exact scalar
  | many vs => rw [valuePhrase_many_iff, kept_many_iff]

end Operand

namespace Grammar

/-- A row that begins with the name of a field is the filter of a single condition exactly if the rest is one for its
operator and its operand. -/
theorem filterPhrase_single_iff {c : Condition} {os vs : List Lexeme} (operator : OperatorPhrase os c.operator) :
    FilterPhrase Readable (.word c.field.name :: (os ++ vs)) (Expression.fold [c] []) ↔
      ValuePhrase Readable c.field.kind c.operator vs c.operand := by
  constructor
  · intro phrase
    generalize row : Lexeme.word c.field.name :: (os ++ vs) = ls at phrase
    generalize folded : Expression.fold [c] [] = e at phrase
    have single : e.conditions = [c] := by
      rw [← folded]
      exact Expression.conditions_fold_steps c []
    cases phrase with
    | @flat front more c' steps first further =>
      rw [Expression.conditions_fold_steps, List.cons.injEq, List.map_eq_nil_iff] at single
      obtain ⟨rfl, rfl⟩ := single
      cases further
      rw [List.append_nil] at row
      subst row
      -- Names and operators of two readings of one row agree, so the rest is what both read as the value.
      generalize row : os ++ vs = rest at first
      cases first with
      | condition _ own value =>
        rw [(operator.unique own row).2.2]
        exact value
    | @grouped _ _ _ steps _ _ first _ group _ =>
      cases first with
      | single =>
        -- A bracket stands further on, so there is more than one group.
        have alone : steps = [] := by
          have one : (Expression.fold [c] []).groups.length = 1 := rfl
          rw [folded, List.length_map, List.length_cons, List.length_map] at one
          exact List.eq_nil_of_length_eq_zero (by omega)
        rw [alone] at group
        cases List.mem_singleton.1 group
      | group => cases row
  · intro value
    have condition : ConditionPhrase Readable (.word c.field.name :: (os ++ vs)) c :=
      .condition c.field.ofName?_name operator value
    have filter := FilterPhrase.flat condition .nil
    rwa [List.append_nil] at filter

end Grammar

theorem Operand.Kept.exists_written {kind : Kind} {operand : Operand} (kept : operand.Kept kind) :
    ∃ text, operand.written kind = .ok text := by
  cases kept with
  | truth | string | date => exact ⟨_, rfl⟩
  | number writable => exact writable.exists_scalar .number
  | items kept =>
    refine Operand.exists_written_many_iff.2 fun v member => ?_
    cases kept v member with
    | number writable => exact writable.exists_scalar kind
    | text => exact ⟨_, rfl⟩

/-- A condition is written as a text that is read as the condition exactly if its operand comes back. -/
theorem Condition.read_written_iff (c : Condition) :
    (∃ text, c.written = .ok text ∧ Filter.read text = .ok (Expression.fold [c] [])) ↔ c.operand.Kept c.field.kind := by
  have read {text : String} (written : c.written = .ok text) :
      Filter.read text = .ok (Expression.fold [c] []) ↔ c.operand.Kept c.field.kind := by
    obtain ⟨os, operator, row⟩ := Condition.row written
    obtain ⟨ts, tokens, lexemes⟩ := row.ofText
    rw [Filter.read_eq_ok_iff tokens, lexemes, filterPhrase_single_iff operator, Operand.valuePhrase_lexemes_iff]
  constructor
  · rintro ⟨text, written, same⟩
    exact (read written).1 same
  · intro kept
    obtain ⟨text, written⟩ := Condition.exists_written_iff.2 kept.exists_written
    exact ⟨text, written, (read written).2 kept⟩

namespace Draft

/-- The operand that a value is, unless it is a day, a timestamp or a list. -/
def scalarOperand (v : Value) : Kind → Except DraftError Operand
  | .boolean => booleanOperand v
  | .number => numberOperand v
  | .array => .ok (.many [v])
  | .string | .date => textOperand v

/-- Whether a value that is accepted on a field of some kind comes back, unless it is a day, a timestamp or a list. The
text of a number must not lie beyond the doubles. -/
def ScalarReturns (v : Value) : Kind → Prop
  | .boolean => True
  | .number => ∀ s x, v = .str s → readLiteral (Text.trim s) = .number (.float x) → x.isFinite = true
  | .array => v.Kept .array
  | .string => ∀ s, v.text = .ok s → Written.Faithful .string s
  | .date => ∀ s, v.text = .ok s → Written.Faithful .date s

/-- Whether a value that is accepted on a field of some kind comes back from the text of the draft. -/
def Returns (kind : Kind) : Value → Prop
  | .date _ | .datetime _ => kind = .string ∨ kind = .date
  | .list items => ∀ item ∈ items, item.Kept kind
  | v => ScalarReturns v kind

theorem exists_bool_of_booleanOperand {v : Value} {operand : Operand} (accepted : booleanOperand v = .ok operand) :
    ∃ b, operand = .one (.bool b) := by
  unfold booleanOperand at accepted
  split at accepted
  · cases accepted
    exact ⟨_, rfl⟩
  · dsimp only at accepted
    split at accepted
    · cases accepted
      exact ⟨true, rfl⟩
    split at accepted
    · cases accepted
      exact ⟨false, rfl⟩
    · cases accepted
  · cases accepted

theorem numberOperand_kept_iff {v : Value} {operand : Operand} (accepted : numberOperand v = .ok operand) :
    operand.Kept .number ↔ ScalarReturns v .number := by
  unfold numberOperand at accepted
  split at accepted
  · rename_i n
    split at accepted
    · rename_i inRange
      cases accepted
      refine iff_of_true (.number (writable_of_ofInt? inRange)) fun s x isText => by cases isText
    · cases accepted
  · rename_i x
    split at accepted
    · rename_i finite
      cases accepted
      refine iff_of_true (.number (n := .float x) finite) fun s x isText => by cases isText
    · cases accepted
  · rename_i s
    split at accepted
    · rename_i n literal
      cases accepted
      refine iff_of_true (.number (writable_of_readLiteral literal)) fun t x isText float => ?_
      cases isText
      rw [literal] at float
      cases float
    · rename_i x literal
      cases accepted
      have same : (Operand.one (.float x)).Kept .number ↔ x.isFinite = true := Operand.kept_number_iff (n := .float x)
      rw [same]
      constructor
      · intro finite t y isText float
        cases isText
        rw [literal] at float
        cases float
        exact finite
      · exact fun finite => finite s x rfl literal
    · cases accepted
    · cases accepted
  · cases accepted

theorem textOperand_eq_ok_iff {v : Value} {operand : Operand} :
    textOperand v = .ok operand ↔ ∃ s, v.text = .ok s ∧ operand = .one (.str s) := by
  unfold textOperand
  cases v.text with
  | ok s => simp [eq_comm]
  | error f => simp

theorem textOperand_kept_iff {kind : Kind} (text : kind = .string ∨ kind = .date) {v : Value} {operand : Operand}
    (accepted : textOperand v = .ok operand) :
    operand.Kept kind ↔ ∀ s, v.text = .ok s → Written.Faithful kind s := by
  obtain ⟨s, found, rfl⟩ := textOperand_eq_ok_iff.1 accepted
  rw [Operand.kept_text_iff, and_iff_right text, found]
  simp

theorem scalarOperand_kept_iff {kind : Kind} {v : Value} {operand : Operand} (accepted : scalarOperand v kind = .ok operand) :
    operand.Kept kind ↔ ScalarReturns v kind := by
  cases kind with
  | boolean =>
    obtain ⟨b, rfl⟩ := exists_bool_of_booleanOperand accepted
    exact iff_of_true (.truth b) trivial
  | number => exact numberOperand_kept_iff accepted
  | array =>
    cases accepted
    rw [Operand.kept_many_iff, List.forall_mem_singleton]
    rfl
  | string => exact textOperand_kept_iff (.inl rfl) accepted
  | date => exact textOperand_kept_iff (.inr rfl) accepted

theorem faithful_of_isoCharacters {kind : Kind} {s : String} (characters : ∀ c ∈ s.toList, c ∈ isoCharacters) :
    Written.Faithful kind s := by
  refine Written.faithful_of_plain kind (fun null => ?_) (fun feed => ?_)
  · exact absurd (characters _ null) (by decide)
  · exact absurd (characters _ (List.mem_of_getLast? feed)) (by decide)

theorem operand_kept_iff {kind : Kind} {v : Value} {operand : Operand} (accepted : Draft.operand kind v = .ok operand) :
    operand.Kept kind ↔ Returns kind v := by
  cases v with
  | null => cases accepted
  | date d =>
    cases accepted
    rw [Operand.kept_text_iff, and_iff_left]
    · rfl
    · refine faithful_of_isoCharacters ?_
      rw [String.toList_ofList]
      exact day_characters d
  | datetime t =>
    cases accepted
    rw [Operand.kept_text_iff, and_iff_left (faithful_of_isoCharacters (timestamp_characters t))]
    rfl
  | list items =>
    cases accepted
    exact Operand.kept_many_iff
  | _ => exact scalarOperand_kept_iff accepted

/-- A draft of a single condition is written as a text that is read as the filter of the draft exactly if the value that it
was given returns on the kind of the field. -/
theorem compare_read_written_iff {field : String} {operator value : Value} {d : Draft}
    (accepted : empty.compare field operator value = .ok d) :
    ∃ f, Field.ofName? field = some f ∧
      ((∃ text, d.written = .ok text ∧ Filter.read text = .ok d.build) ↔ Returns f.kind value) := by
  obtain ⟨c, found, rfl⟩ := Outcome.map_eq_ok.1 accepted
  unfold condition at found
  split at found
  · cases found
  split at found
  · cases found
  rename_i f named
  split at found
  · cases found
  rename_i op _
  obtain ⟨operand, suits, rfl⟩ := Outcome.map_eq_ok.1 found
  have single : (empty.add ⟨f, op, operand⟩).written = Condition.written ⟨f, op, operand⟩ := by
    show (Condition.written ⟨f, op, operand⟩ >>= fun text => .ok (text ++ "")) = _
    cases Condition.written ⟨f, op, operand⟩ with
    | ok text => exact congrArg Except.ok String.append_empty
    | error f => rfl
  refine ⟨f, named, ?_⟩
  rw [single, ← operand_kept_iff suits]
  exact Condition.read_written_iff ⟨f, op, operand⟩

/-- A text with quotes in it returns, and a truth value in a list does not. -/
theorem compare_read_written_quote :
    let kept : Draft := ⟨[⟨.title, .like, .one (.str "a \"b\"\n")⟩], [], .and⟩
    let lost : Draft := ⟨[⟨.labels, .isIn, .many [.int 4, .bool true]⟩], [], .and⟩
    empty.compare "title" (.str "LIKE") (.str "a \"b\"\n") = .ok kept ∧
      (∃ text, kept.written = .ok text ∧ Filter.read text = .ok kept.build) ∧
      empty.compare "labels" (.str "in") (.list [.int 4, .bool true]) = .ok lost ∧ lost.written = .ok "labels in [4, true]" ∧
      Filter.read "labels in [4, true]" ≠ .ok lost.build := by
  intro kept lost
  have title : empty.compare "title" (.str "LIKE") (.str "a \"b\"\n") = .ok kept := by decide +kernel
  have labels : empty.compare "labels" (.str "in") (.list [.int 4, .bool true]) = .ok lost := by decide +kernel
  obtain ⟨f, named, returns⟩ := compare_read_written_iff title
  cases named
  obtain ⟨g, named, lostReturns⟩ := compare_read_written_iff labels
  cases named
  have written : lost.written = .ok "labels in [4, true]" := by decide +kernel
  refine ⟨title, returns.2 fun s same => ?_, labels, written, fun read => ?_⟩
  · cases same
    show Written.Faithful .string "a \"b\"\n"
    decide
  · exact Value.not_kept_bool _ true (lostReturns.1 ⟨_, written, read⟩ (.bool true) (by decide))

/-- The text of a number beyond the doubles is accepted as infinity, the text of which is no number. -/
theorem overflow_not_read :
    let d : Draft := ⟨[⟨.priority, .equal, .one (.float (.infinite false))⟩], [], .and⟩
    empty.compare "priority" (.str "=") (.str "1e999") = .ok d ∧ d.written = .ok "priority = inf" ∧
      ∀ e, Filter.read "priority = inf" ≠ .ok e := by
  intro d
  refine ⟨by decide +kernel, by decide +kernel, fun e read => ?_⟩
  have refused : (Filter.read "priority = inf").toOption = none := by decide +kernel
  rw [read] at refused
  cases refused

end Draft

end TaskQuery
