import TaskQuery.Proofs.FaithfulText
import TaskQuery.Proofs.LegalCondition

namespace TaskQuery

open Grammar Lexeme

section ShortTexts

theorem Lexeme.Encodes.length_le {quote : Char} {body content : List Char} (encodes : Encodes quote body content) :
    content.length ≤ body.length := by
  induction encodes with
  | nil => exact Nat.le_refl _
  | escaped _ ih | plain _ _ _ ih =>
    simp only [List.length_cons]
    omega

/-- The text of a lexeme is no longer than what the lexeme is written as. -/
theorem Lexeme.Spelled.length_text_le {l : Lexeme} {cs : List Char} (spelled : Spelled l cs) :
    l.text.length ≤ cs.length := by
  cases spelled with
  | word => exact Nat.le_refl _
  | quoted _ encodes =>
    have shorter := encodes.length_le
    simp only [text, String.length_ofList, List.length_cons, List.length_append]
    omega
  | _ => exact Nat.le_refl _

/-- A short text is read as its row says: no integer in it has too many digits. -/
theorem Filter.read_of_short {admitted : Nat → Prop} {s : String} {ts : List Token} {e : Filter}
    (tokens : Token.ofText s = .ok ts) (short : s.length ≤ integerDigitLimit)
    (phrase : FilterPhrase admitted (ts.map Token.lexeme) e) : Filter.read s = .ok e := by
  refine (Filter.read_eq_ok_iff tokens).2 (phrase.mono (List.forall_mem_map.2 fun t member => ?_))
  obtain ⟨spelling, spelled, within⟩ := (Token.ofText_eq_ok_iff.1 tokens).spelled_within t member
  have own := spelled.length_text_le
  have inside := within.length_le
  rw [String.length_toList] at inside
  exact keeps_of_short (by omega)

end ShortTexts

/-- A value as it is read from a written list of an array field. -/
def Value.returned : Value → Value
  | .str s => .str (Text.withoutNulls s)
  | .float x => if x.isFinite then .float x else .str x.display
  | v => v

/-- An operand as it is read from the text of a condition on a field of some kind. -/
def Operand.returned (kind : Kind) : Operand → Operand
  | .one (.str s) =>
    if kind = .array then .many [.str (Text.withoutNulls s)] else .one (.str (Written.textLexeme kind s).text)
  | .one v => .one v
  | .many items => .many (items.map Value.returned)

/-- A condition as it is read from its text. -/
def Condition.returned (c : Condition) : Condition :=
  { c with operand := c.operand.returned c.field.kind }

/-- An operand that suits the kind of its field, or is a single text on an array field. -/
inductive Operand.Regular : Kind → Operand → Prop
  | truth (b : Bool) : Regular .boolean (.one (.bool b))
  | number {n : Number} : (∀ x, n = .float x → x.isFinite = true) → Regular .number (.one n.value)
  | string (s : String) : Regular .string (.one (.str s))
  | date (s : String) : Regular .date (.one (.str s))
  | single (s : String) : Regular .array (.one (.str s))
  | items {vs : List Value} : (∀ v ∈ vs, Check.isIdOrName v = true) → Regular .array (.many vs)

namespace Written

theorem literal_text {kind : Kind} {s : String} : Literal (textLexeme kind s) (textLexeme kind s).text := by
  unfold textLexeme
  split
  · exact .word _
  · exact .quoted _

/-- The name of a number that is not finite spells no number. -/
theorem plain_of_not_isFinite {x : Double} (infinite : x.isFinite ≠ true) : ¬IsNumberText x.display := by
  rw [← readLiteral_eq_notNumber_iff_plain]
  cases x with
  | nan => decide +kernel
  | infinite negative => cases negative <;> decide +kernel
  | finite => exact absurd rfl infinite

theorem item_returned {v : Value} (idOrName : Check.isIdOrName v = true) :
    Item AnyLength (lexeme .array v) v.returned := by
  cases v with
  | str s => exact .quoted _
  | int n => exact .number (n := .int n) (Number.numberText (fun _ _ => trivial) fun _ same => by cases same)
  | float x =>
    by_cases finite : x.isFinite = true
    · rw [Value.returned, if_pos finite]
      refine .number (n := .float x) (Number.numberText (fun _ same => by cases same) fun y same => ?_)
      cases same
      exact finite
    · rw [Value.returned, if_neg finite]
      exact .text (plain_of_not_isFinite finite)
  | _ => cases idOrName

end Written

/-- The lexemes of a regular operand are a row for the operand that is read from them. -/
theorem Operand.Regular.phrase {kind : Kind} {operand : Operand} (regular : operand.Regular kind) (op : Operator) :
    ValuePhrase AnyLength kind op (operand.lexemes kind) (operand.returned kind) := by
  cases regular with
  | truth b => exact .scalar (Written.truth_scalar b)
  | @number n finite =>
    have text : NumberText AnyLength n.display n := Number.numberText (fun _ _ => trivial) finite
    have same : (Operand.one n.value).returned .number = .one n.value := by cases n <;> rfl
    rw [same]
    exact .scalar (Written.number_scalar text)
  | string s => exact .scalar (.string Written.literal_text)
  | date s => exact .scalar (.date Written.literal_text)
  | single s => exact .scalar (.array (.quoted _))
  | @items vs idsOrNames =>
    by_cases empty : vs = []
    · subst empty
      exact .emptyList
    · exact .list ((items_intersperse_iff empty).2 fun v member => Written.item_returned (idsOrNames v member))

theorem Operand.Regular.present_returned {kind : Kind} {operand : Operand} (regular : operand.Regular kind) :
    (operand.returned kind).toValue.isNull = false := by
  cases regular with
  | @number n _ => cases n <;> rfl
  | _ => rfl

/-- The text of a regular condition is a row of the grammar, for the condition that is read from it. -/
theorem Condition.row_returned {c : Condition} {text : String} (regular : c.operand.Regular c.field.kind)
    (written : c.written = .ok text) : ∃ ls, Row text.toList ls ∧ ConditionPhrase AnyLength ls c.returned := by
  obtain ⟨os, operator, row⟩ := c.row written
  exact ⟨_, row, .condition c.field.ofName?_name operator (regular.phrase c.operator)⟩

/-- What a draft holds as an operand on a field of some kind: a value of this kind, a list, or the text of a day or a
timestamp, which it takes on every field. -/
inductive Operand.Drafted : Kind → Operand → Prop
  | truth (b : Bool) : Drafted .boolean (.one (.bool b))
  | number (n : Number) : Drafted .number (.one n.value)
  | string (s : String) : Drafted .string (.one (.str s))
  | date (s : String) : Drafted .date (.one (.str s))
  | iso {kind : Kind} {s : String} {d : Day} {rest : List Char} : s.toList = d.iso ++ rest →
      (∀ c ∈ s.toList, c ∈ Draft.isoCharacters) → Drafted kind (.one (.str s))
  | items {kind : Kind} (vs : List Value) : Drafted kind (.many vs)

namespace Draft

theorem exists_number_of_numberOperand {v : Value} {operand : Operand} (accepted : numberOperand v = .ok operand) :
    ∃ n : Number, operand = .one n.value := by
  unfold numberOperand at accepted
  split at accepted
  · rename_i n
    split at accepted
    · cases accepted
      exact ⟨.int n, rfl⟩
    · cases accepted
  · rename_i x
    split at accepted
    · cases accepted
      exact ⟨.float x, rfl⟩
    · cases accepted
  · split at accepted
    · rename_i n _
      cases accepted
      exact ⟨.int n, rfl⟩
    · rename_i x _
      cases accepted
      exact ⟨.float x, rfl⟩
    · cases accepted
    · cases accepted
  · cases accepted

theorem drafted_of_scalarOperand {kind : Kind} {v : Value} {operand : Operand}
    (accepted : scalarOperand v kind = .ok operand) : operand.Drafted kind := by
  cases kind with
  | boolean =>
    obtain ⟨b, rfl⟩ := exists_bool_of_booleanOperand accepted
    exact .truth b
  | number =>
    have read : numberOperand v = .ok operand := accepted
    obtain ⟨n, same⟩ := exists_number_of_numberOperand read
    rw [same]
    exact .number n
  | array =>
    cases accepted
    exact .items [v]
  | string =>
    obtain ⟨s, _, rfl⟩ := textOperand_eq_ok_iff.1 accepted
    exact .string s
  | date =>
    obtain ⟨s, _, rfl⟩ := textOperand_eq_ok_iff.1 accepted
    exact .date s

theorem drafted_of_operand {kind : Kind} {v : Value} {operand : Operand} (accepted : Draft.operand kind v = .ok operand) :
    operand.Drafted kind := by
  cases v with
  | null => cases accepted
  | date d =>
    cases accepted
    have text : (String.ofList d.iso).toList = d.iso := String.toList_ofList
    have shape : (String.ofList d.iso).toList = d.iso ++ [] := by rw [text, List.append_nil]
    refine .iso shape ?_
    rw [text]
    exact day_characters d
  | datetime t =>
    cases accepted
    exact .iso (Iso.toList_iso t) (timestamp_characters t)
  | list items =>
    cases accepted
    exact .items items
  | _ => exact drafted_of_scalarOperand accepted

/-- Every condition of a draft holds what a draft can hold. -/
theorem holds_drafted (steps : List Step) : Holds (fun c => c.operand.Drafted c.field.kind) (empty.run steps) := by
  refine holds_empty.run ?_
  rintro c ⟨field, operator, value, _, accepted⟩
  exact drafted_of_operand (operand_of_condition accepted)

section IsoTexts

variable {s : String} {d : Day} {rest : List Char}

theorem hyphen_mem_iso (d : Day) : '-' ∈ d.iso :=
  List.mem_append_right _ List.mem_cons_self

theorem exists_digit_iso (d : Day) : ∃ n < 10, ∃ more, d.iso = Nat.digitChar n :: more :=
  ⟨d.year / 10 / 10 / 10 % 10, Nat.mod_lt _ (by decide), _, rfl⟩

theorem isTruthValue_of_iso (shape : s.toList = d.iso ++ rest) : Check.isTruthValue (.str s) = false := by
  have hyphen : '-' ∈ s.toList := by
    rw [shape]
    exact List.mem_append_left _ (hyphen_mem_iso d)
  have noWord {word : String} (plain : '-' ∉ word.toList) : (s == word) = false := by
    refine beq_eq_false_iff_ne.2 fun same => plain ?_
    rwa [← same]
  rw [Check.isTruthValue, noWord (by decide), noWord (by decide), Bool.or_false]

theorem not_spelled_of_iso (shape : s.toList = d.iso ++ rest) (characters : ∀ c ∈ s.toList, c ∈ isoCharacters)
    (m : Numeral) : ¬Numeral.Spelled s.toList m := by
  intro spelled
  have hyphen : '-' ∈ s.toList := by
    rw [shape]
    exact List.mem_append_left _ (hyphen_mem_iso d)
  obtain ⟨n, small, more, front⟩ := exists_digit_iso d
  rw [front] at shape
  have noDigit {cs : List Char} {ds : List Nat} (digits : Numeral.Digits cs ds) : '-' ∉ cs :=
    fun member => digits.value member (by decide)
  generalize s.toList = text at *
  cases spelled with
  | @parts sign cs point power _ _ _ _ signed whole fraction exponent _ =>
    simp only [List.mem_append] at hyphen
    rcases hyphen with inSign | inWhole | inFraction | inExponent
    · -- A sign stands at the front, and there is a digit.
      cases signed with
      | none | plus => exact absurd inSign (by decide)
      | minus =>
        have different : ∀ n < 10, Nat.digitChar n ≠ '-' := by decide
        exact different n small (List.cons.inj shape).1.symm
    · exact noDigit whole inWhole
    · cases fraction with
      | none => exact absurd inFraction List.not_mem_nil
      | point digits =>
        rcases List.mem_cons.1 inFraction with same | inside
        · exact absurd same (by decide)
        · exact noDigit digits inside
    · cases exponent with
      | none => exact absurd inExponent List.not_mem_nil
      | @power mark _ _ _ _ letter _ _ _ =>
        have used : mark ∈ isoCharacters := characters mark (by simp)
        rcases letter with rfl | rfl <;> exact absurd used (by decide)

theorem dropLowLines_eq_self {cs : List Char} (before : Bool) (plain : '_' ∉ cs) : dropLowLines before cs = some cs := by
  induction cs generalizing before with
  | nil => rfl
  | cons c cs ih =>
    obtain ⟨different, others⟩ := not_or.1 (mt List.mem_cons.2 plain)
    have later : dropLowLines (Text.isDigit c) cs = some cs := ih (Text.isDigit c) others
    unfold dropLowLines
    split
    · cases ‹_ :: _ = []›
    · rename_i same
      exact absurd (List.cons.inj same).1.symm different
    · rename_i same
      cases same
      rw [if_neg (Ne.symm different), later, Option.map_some]

theorem readMeasure?_of_iso (shape : s.toList = d.iso ++ rest) (characters : ∀ c ∈ s.toList, c ∈ isoCharacters) :
    readMeasure? s = none := by
  obtain ⟨n, small, more, front⟩ := exists_digit_iso d
  have noSpace : Text.stripWhere Text.isSpace s.toList = s.toList := by
    have solid : ∀ c ∈ isoCharacters, Text.isSpace c = false := forall_mem_of_all (by decide)
    exact Text.stripWhere_eq_self fun c member => solid c (characters c member)
  have noName : namedDouble? s.toList = none := by
    have digit : ∀ n < 10, Nat.digitChar n ≠ '+' ∧ Nat.digitChar n ≠ '-' ∧
        (Nat.digitChar n).toLower ≠ 'i' ∧ (Nat.digitChar n).toLower ≠ 'n' := by decide
    obtain ⟨noPlus, noMinus, noI, noN⟩ := digit n small
    have unsigned : Numeral.readSign s.toList = (false, s.toList) := by
      rw [shape, front]
      unfold Numeral.readSign
      split
      · exact absurd (List.cons.inj ‹_›).1 noPlus
      · exact absurd (List.cons.inj ‹_›).1 noMinus
      · rfl
    rw [namedDouble?, unsigned, shape, front]
    simp [noI, noN]
  have noLine : '_' ∉ s.toList := fun line => absurd (characters _ line) (by decide)
  have noNumeral : Numeral.read? Text.digitValue? s.toList = none := by
    cases read : Numeral.read? Text.digitValue? s.toList with
    | none => rfl
    | some m => exact absurd (Numeral.read?_spelled read) (not_spelled_of_iso shape characters m)
  rw [readMeasure?, noSpace]
  simp only [noName, dropLowLines_eq_self false noLine, Option.bind_some, noNumeral, Option.map_none]

end IsoTexts

end Draft

/-- What a draft holds is regular, where it is a value of the kind of its field. -/
theorem Operand.Drafted.regular {limits : Limits} {now : Timestamp} {f : Field} {operand : Operand}
    (drafted : operand.Drafted f.kind) (fits : Check.kindProblems limits now f operand.toValue = .ok []) :
    operand.Regular f.kind := by
  generalize same : f.kind = kind at drafted
  cases drafted with
  | truth b => exact .truth b
  | number n =>
    refine .number fun x isFloat => ?_
    subst isFloat
    exact Except.ok.inj ((Check.kindProblems_number_eq_nil_iff same).1 fits)
  | string s => exact .string s
  | date s => exact .date s
  | @iso _ s _ _ shape characters =>
    cases kind with
    | boolean =>
      have truth := (Check.kindProblems_boolean_eq_nil_iff same).1 fits
      have none := Draft.isTruthValue_of_iso shape
      exact absurd (none.symm.trans truth) Bool.false_ne_true
    | number =>
      have finite := (Check.kindProblems_number_eq_nil_iff same).1 fits
      have some : (readMeasure? s).any Double.isFinite = true := Except.ok.inj finite
      rw [Draft.readMeasure?_of_iso shape characters] at some
      cases some
    | string => exact .string s
    | date => exact .date s
    | array => exact .single s
  | items vs =>
    cases kind with
    | boolean => cases (Check.kindProblems_boolean_eq_nil_iff same).1 fits
    | number => cases (Check.kindProblems_number_eq_nil_iff same).1 fits
    | date => cases (Check.kindProblems_date_eq_nil_iff same).1 fits
    | string =>
      simp only [Check.kindProblems, same] at fits
      cases fits
    | array => exact .items ((Check.kindProblems_list_eq_nil_iff same).1 fits).2

end TaskQuery
