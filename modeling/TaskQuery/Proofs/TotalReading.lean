import TaskQuery.Proofs.DraftExamination
import TaskQuery.Proofs.ReadFailures

namespace TaskQuery

open Grammar

theorem readLiteral_eq_tooManyDigits {s : String} {count : Nat} (read : readLiteral s = .tooManyDigits count) :
    integerDigitLimit < count ∧ count ≤ s.length := by
  cases parts : Numeral.read? Text.digitValue? (dropFinalNewline s.toList) with
  | none => simp [readLiteral, parts] at read
  | some m =>
    have spelled := Numeral.read?_spelled parts
    rw [readLiteral_of_spelled spelled] at read
    split at read
    · rename_i long
      cases read
      have whole := spelled.whole_length_le
      have body := length_dropFinalNewline_le s.toList
      rw [String.length_toList] at body
      exact ⟨long.2, by omega⟩
    · cases read

namespace Numeral

variable {s : String} {m : Numeral}

theorem Spelled.noSpace {cs : List Char} (spelled : Spelled cs m) : ∀ c ∈ cs, Text.isSpace c = false := by
  intro c member
  refine Bool.eq_false_iff.2 fun space => ?_
  have blank := Text.isBlank_of_isSpace space
  rcases spelled.characters c member with digit | mark
  · exact digit (Text.digitValue?_of_isBlank blank)
  · have plain : ∀ c ∈ ['+', '-', '.', 'e', 'E'], Text.isBlank c = false := Lexeme.forall_mem_of_all (by decide)
    rw [plain c mark] at blank
    cases blank

/-- A number is stripped of a final line feed only. -/
theorem Spelled.strip (spelled : Spelled (dropFinalNewline s.toList) m) :
    Text.stripWhere Text.isSpace s.toList = dropFinalNewline s.toList := by
  have solid := Text.stripWhere_eq_self spelled.noSpace
  rcases dropFinalNewline_cases s.toList with same | longer
  · rwa [same] at solid ⊢
  · have space : Text.isSpace '\n' = true := by decide
    rw [longer, Text.stripWhere_concat space, ← longer, solid]

theorem Spelled.dropLowLines {cs : List Char} (spelled : Spelled cs m) : dropLowLines false cs = some cs := by
  refine Draft.dropLowLines_eq_self false fun line => ?_
  rcases spelled.characters '_' line with digit | mark
  · exact digit (by decide)
  · exact absurd mark (by decide)

theorem toLower_of_digit {c : Char} (digit : Text.digitValue? c ≠ none) : c.toLower = c := by
  unfold Char.toLower
  split
  · rename_i capital
    refine absurd ?_ digit
    have low : 65 ≤ c.toNat := UInt32.le_iff_toNat_le.1 capital.1
    have high : c.toNat ≤ 90 := UInt32.le_iff_toNat_le.1 capital.2
    have small : c.toNat < 0x80 := by omega
    have noDigit : ¬(0x30 ≤ c.toNat ∧ c.toNat ≤ 0x39) := by omega
    simp only [Text.digitValue?, if_pos small, if_neg noDigit]
  · rfl

/-- Every named number has an `n` in its name, which stands in no numeral. -/
theorem Spelled.namedDouble? {cs : List Char} (spelled : Spelled cs m) : namedDouble? cs = none := by
  have noN : 'n' ∉ (readSign cs).2.map Char.toLower := by
    intro inside
    obtain ⟨c, member, small⟩ := List.mem_map.1 inside
    obtain ⟨sign, split, _⟩ := readSign_sign cs
    have within : c ∈ cs := by
      rw [split]
      exact List.mem_append_right sign member
    rcases spelled.characters c within with digit | mark
    · rw [toLower_of_digit digit] at small
      subst small
      exact digit (by decide)
    · have plain : ∀ c ∈ ['+', '-', '.', 'e', 'E'], c.toLower ≠ 'n' := Lexeme.forall_mem_of_all (by decide)
      exact plain c mark small
  unfold TaskQuery.namedDouble?
  dsimp only
  generalize (readSign cs).2.map Char.toLower = name at noN
  rw [if_neg, if_neg]
  · rintro rfl
    exact noN (by decide)
  · rintro (rfl | rfl)
    all_goals exact noN (by decide)

theorem Spelled.readMeasure? (spelled : Spelled (dropFinalNewline s.toList) m) :
    readMeasure? s = some m.toDecimal.toDouble := by
  unfold TaskQuery.readMeasure?
  dsimp only
  rw [spelled.strip, spelled.namedDouble?, spelled.dropLowLines]
  simp [spelled.read?]

theorem Spelled.readInteger? (spelled : Spelled (dropFinalNewline s.toList) m) (integral : m.integral = true)
    (short : m.whole.length ≤ integerDigitLimit) : readInteger? s = some m.toInt := by
  rw [TaskQuery.readInteger?, spelled.strip, spelled.dropLowLines]
  simp [spelled.read?, integral, short]

end Numeral

/-- Whether a text that spells a number is converted: to its integer, or to the double that a measure is. -/
def Numeral.Converts (s : String) : Prop :=
  ∀ m, Spelled (dropFinalNewline s.toList) m → readLiteral s = .number m.number ∧
    if m.integral then readInteger? s = some m.toInt else readMeasure? s = some m.toDecimal.toDouble

theorem Numeral.converts_of_short {s : String} (short : s.length ≤ integerDigitLimit) : Converts s := by
  intro m spelled
  have whole := spelled.whole_length_le
  have body := length_dropFinalNewline_le s.toList
  rw [String.length_toList] at body
  have digits : m.whole.length ≤ integerDigitLimit := by omega
  refine ⟨?_, ?_⟩
  · rw [readLiteral_of_spelled spelled, if_neg]
    exact fun long => Nat.not_lt.2 digits long.2
  · split
    · rename_i integral
      exact spelled.readInteger? integral digits
    · exact spelled.readMeasure?

namespace Filter

variable {s : String}

theorem length_text_le {ts : List Token} (tokens : Token.ofText s = .ok ts) {t : Token} (member : t ∈ ts) {text : String}
    (literal : Literal t.lexeme text) : text.length ≤ s.length := by
  obtain ⟨spelling, spelled, within⟩ := (Token.ofText_eq_ok_iff.1 tokens).spelled_within t member
  have own := spelled.length_text_le
  have inside := within.length_le
  rw [String.length_toList] at inside
  have text_eq : t.lexeme.text = text := by
    generalize t.lexeme = l at literal
    cases literal <;> rfl
  rw [text_eq] at own
  omega

/-- An integer that is refused has more digits than the limit, and not more than the text has characters. -/
theorem read_eq_tooManyDigits {count : Nat} (failed : read s = .error (.tooManyDigits count)) :
    integerDigitLimit < count ∧ count ≤ s.length := by
  unfold read at failed
  split at failed
  · cases failed
  split at failed
  · cases failed
  rename_i ts tokens
  cases Reading.filter_blames ts _ failed with
  | @digits t text _ member literal long =>
    have inside := length_text_le tokens member literal
    rcases long with long | long
    · obtain ⟨above, below⟩ := readLiteral_eq_tooManyDigits long
      exact ⟨above, by omega⟩
    · obtain ⟨above, below⟩ := readLiteral_eq_tooManyDigits long
      have trimmed := Text.length_trim_le text
      exact ⟨above, by omega⟩

/-- A text that passes the checks of a text is read as a filter, or has an error, and not both. It is read exactly if its
tokens are a row of the grammar, whatever integers they hold, and every number in it is converted. -/
theorem read_total (passed : Check.textProblem? maxFilterLength (.str s) = .ok none) :
    ((∃ e, read s = .ok e) ↔ ¬∃ e, read s = .error (.malformed e)) ∧
    (∀ e, read s = .ok e ↔ ∃ ts, Token.ofText s = .ok ts ∧ FilterPhrase AnyLength (ts.map Token.lexeme) e) ∧
    ∀ ts, Token.ofText s = .ok ts → ∀ t ∈ ts, ∀ text, Literal t.lexeme text →
      Numeral.Converts text ∧ Numeral.Converts (Text.trim text) := by
  have short : s.length ≤ integerDigitLimit := Nat.le_trans (Check.textProblem?_eq_none_iff.1 passed).1 (by decide)
  refine ⟨?_, fun e => ⟨fun found => ?_, fun ⟨ts, tokens, phrase⟩ => read_of_short tokens short phrase⟩,
    fun ts tokens t member text literal => ?_⟩
  · cases result : read s with
    | ok e => exact iff_of_true ⟨e, rfl⟩ fun ⟨_, failed⟩ => by cases failed
    | error failure =>
      refine iff_of_false (fun ⟨_, found⟩ => by cases found) (not_not_intro ?_)
      cases failure with
      | malformed e => exact ⟨e, rfl⟩
      | tooManyDigits count =>
        obtain ⟨above, below⟩ := read_eq_tooManyDigits result
        omega
  · cases tokens : Token.ofText s with
    | error e =>
      unfold read at found
      split at found
      · cases found
      · rw [tokens] at found
        cases found
    | ok ts => exact ⟨ts, rfl, ((read_eq_ok_iff tokens).1 found).mono fun l _ _ _ _ _ _ => trivial⟩
  · have inside := Nat.le_trans (length_text_le tokens member literal) short
    exact ⟨Numeral.converts_of_short inside, Numeral.converts_of_short (Nat.le_trans (Text.length_trim_le text) inside)⟩

/-- An integer in Arabic-Indic digits, between quotes and with a line feed behind it. -/
theorem read_total_digits :
    let s := "priority >= \"٣\n\""
    let three : Numeral := ⟨false, [3], [], 0, true⟩
    Check.textProblem? maxFilterLength (.str s) = .ok none ∧
      read s = .ok ⟨[⟨[⟨.priority, .greaterEqual, .one (.int 3)⟩], .and⟩], .and⟩ ∧
      (¬∃ e, read s = .error (.malformed e)) ∧
      readLiteral "٣\n" = .number three.number ∧ readInteger? "٣\n" = some three.toInt := by
  intro s three
  have passed : Check.textProblem? maxFilterLength (.str s) = .ok none := by decide +kernel
  have tokens : Token.ofText s = .ok [⟨.word "priority", 0⟩, ⟨.comparison .greaterEqual, 9⟩, ⟨.quoted "٣\n", 12⟩] :=
    Outcome.eq_ok_of_toOption (by decide +kernel)
  have digits : Numeral.Digits ['٣'] [3] := rfl
  have spelled : Numeral.Spelled (dropFinalNewline "٣\n".toList) three :=
    .parts .none digits .none .none (.inl (List.cons_ne_nil 3 []))
  obtain ⟨either, rows, numbers⟩ := read_total passed
  have number : NumberText AnyLength (Text.trim "٣\n") (.int 3) := ⟨three, spelled, fun _ => trivial, rfl⟩
  have phrase : ConditionPhrase AnyLength [.word "priority", .comparison .greaterEqual, .quoted "٣\n"]
      ⟨.priority, .greaterEqual, .one (.int 3)⟩ :=
    .condition rfl (.sign .greaterEqual) (.scalar (.number (.quoted _) number))
  have found := (rows _).2 ⟨_, tokens, .flat phrase .nil⟩
  obtain ⟨literal, integer⟩ := (numbers _ tokens _ (List.mem_cons_of_mem _ (List.mem_cons_of_mem _ List.mem_cons_self)) _
    (.quoted _)).1 three spelled
  exact ⟨passed, found, either.1 ⟨_, found⟩, literal, integer⟩

end Filter

end TaskQuery
