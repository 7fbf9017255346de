import TaskQuery.Filter.Writing
import TaskQuery.Outcome
import TaskQuery.Proofs.Grammar
import TaskQuery.Proofs.LexemeRow
import TaskQuery.Proofs.NumberWriting

namespace TaskQuery

open Grammar Lexeme

/-- A text without its null characters. -/
def Text.withoutNulls (s : String) : String :=
  String.ofList (s.toList.filter (· ≠ '\x00'))

theorem Text.withoutNulls_eq_self {s : String} (noNull : '\x00' ∉ s.toList) : Text.withoutNulls s = s := by
  have keep : s.toList.filter (· ≠ '\x00') = s.toList := by
    rw [List.filter_eq_self]
    intro c member
    refine decide_eq_true fun null => noNull ?_
    rwa [← null]
  rw [Text.withoutNulls, keep, String.ofList_toList]

theorem Text.withoutNulls_eq_self_iff {s : String} : Text.withoutNulls s = s ↔ '\x00' ∉ s.toList := by
  refine ⟨fun same null => ?_, Text.withoutNulls_eq_self⟩
  rw [← same, Text.withoutNulls, String.toList_ofList, List.mem_filter] at null
  exact absurd null.2 (by decide)

theorem dropFinalNewline_eq_self_iff {cs : List Char} : dropFinalNewline cs = cs ↔ cs.getLast? ≠ some '\n' := by
  unfold dropFinalNewline
  split
  · rename_i feed
    refine iff_of_false (fun same => ?_) (fun other => other feed)
    have shorter := congrArg List.length same
    have nonempty : 0 < cs.length := List.length_pos_iff.2 fun empty => by rw [empty] at feed; cases feed
    rw [List.length_dropLast] at shorter
    omega
  · rename_i other
    exact iff_of_true rfl other

theorem dropFinalNewline_cases (cs : List Char) :
    dropFinalNewline cs = cs ∨ cs = dropFinalNewline cs ++ ['\n'] := by
  by_cases feed : cs.getLast? = some '\n'
  · right
    obtain ⟨body, split⟩ := List.getLast?_eq_some_iff.1 feed
    rw [dropFinalNewline, if_pos feed, split, List.dropLast_concat]
  · exact .inl (dropFinalNewline_eq_self_iff.2 feed)

namespace Number

/-- The spelling of a number. An integer has one even if it has too many digits to be written. -/
def display : Number → String
  | .int n => toString n
  | .float x => x.display

/-- The text of every number, finite or not, is a word, and no blank stands in it. -/
theorem solid (n : Number) : n.display.toList ≠ [] ∧
    ∀ c ∈ n.display.toList, (c ∉ gapCharacters ∧ c ∉ signCharacters) ∧ Text.isBlank c = false := by
  cases n with
  | int n =>
    obtain ⟨m, spelled, _⟩ := Numeral.spelled_toString n
    exact spelled.solid
  | float x =>
    cases x with
    | nan => exact ⟨by decide, forall_mem_of_all (by decide)⟩
    | infinite negative => cases negative <;> exact ⟨by decide, forall_mem_of_all (by decide)⟩
    | finite negative code =>
      obtain ⟨_, ⟨m, spelled, _⟩, _⟩ := Double.display_spelled (x := .finite negative code) rfl
      exact spelled.solid

theorem word_row (n : Number) : Row n.display.toList [.word n.display] :=
  .single (.word n.solid.1 fun c member => (n.solid.2 c member).1)

theorem trim_display (n : Number) : Text.trim n.display = n.display :=
  Text.trim_eq_self fun c member => (n.solid.2 c member).2

theorem dropFinalNewline_display (n : Number) : dropFinalNewline n.display.toList = n.display.toList :=
  dropFinalNewline_eq_self_iff.2 fun feed => (n.solid.2 '\n' (List.mem_of_getLast? feed)).1.1 (by decide)

end Number

namespace Written

/-- The escapes of a text encode the text; its null characters are left out. -/
theorem encodes_escape (cs : List Char) : Encodes '"' (cs.flatMap escape) (cs.filter (· ≠ '\x00')) := by
  induction cs with
  | nil => exact .nil
  | cons c cs ih =>
    rw [List.flatMap_cons]
    by_cases sign : c = '\\' ∨ c = '"'
    · have kept : c ≠ '\x00' := by rcases sign with rfl | rfl <;> decide
      have plain : unescape c = c := by rcases sign with rfl | rfl <;> rfl
      rw [escape, if_pos sign, List.filter_cons, if_pos (decide_eq_true kept)]
      exact ih.itself plain
    rw [escape, if_neg sign]
    by_cases null : c = '\x00'
    · rw [if_pos null, List.nil_append, List.filter_cons_of_neg (by simpa using null)]
      exact ih
    rw [if_neg null, List.filter_cons, if_pos (decide_eq_true null)]
    by_cases feed : c = '\n'
    · rw [if_pos feed, feed]
      exact .escaped (e := 'n') ih
    rw [if_neg feed]
    by_cases tab : c = '\t'
    · rw [if_pos tab, tab]
      exact .escaped (e := 't') ih
    rw [if_neg tab]
    by_cases carriage : c = '\r'
    · rw [if_pos carriage, carriage]
      exact .escaped (e := 'r') ih
    rw [if_neg carriage]
    exact .plain (fun quote => sign (.inr quote)) (fun backslash => sign (.inl backslash)) ih

theorem quoted_spelled (s : String) : Spelled (.quoted (Text.withoutNulls s)) (quoted s.toList) :=
  .quoted (.inl rfl) (encodes_escape s.toList)

/-- A text that can be written without quotes is a word, but for a line feed at its end. -/
theorem spelled_body_of_isBare {cs : List Char} (bare : isBare cs = true) :
    Spelled (.word (String.ofList (dropFinalNewline cs))) (dropFinalNewline cs) := by
  simp only [isBare, Bool.and_eq_true, Bool.not_eq_true', List.isEmpty_eq_false_iff, List.all_eq_true] at bare
  obtain ⟨nonempty, free⟩ := bare
  have gaps : ∀ c ∈ gapCharacters, isReserved c = true := forall_mem_of_all (by decide)
  have signs : ∀ c ∈ signCharacters, isReserved c = true := forall_mem_of_all (by decide)
  refine .ofWord nonempty fun c member => ⟨fun gap => ?_, fun sign => ?_⟩
  · exact Bool.false_ne_true ((free c member).symm.trans (gaps c gap))
  · exact Bool.false_ne_true ((free c member).symm.trans (signs c sign))

/-- The lexeme that a text is written as on a field of some kind. -/
def textLexeme (kind : Kind) (s : String) : Lexeme :=
  if kind = .date ∧ isBare s.toList then .word (String.ofList (dropFinalNewline s.toList))
  else .quoted (Text.withoutNulls s)

/-- The lexeme that a value is written as, where it can be written. -/
def lexeme (kind : Kind) : Value → Lexeme
  | .bool b => .word (if b then "true" else "false")
  | .int n => .word (Number.int n).display
  | .float x => .word (Number.float x).display
  | v => textLexeme kind (v.text.toOption.getD "")

/-- Whether a text comes back from its lexeme: a word loses a line feed at the end, a quoted text its null characters. -/
def Faithful (kind : Kind) (s : String) : Prop :=
  if kind = .date ∧ isBare s.toList then s.toList.getLast? ≠ some '\n' else '\x00' ∉ s.toList

instance (kind : Kind) (s : String) : Decidable (Faithful kind s) :=
  inferInstanceAs (Decidable (if kind = .date ∧ isBare s.toList then s.toList.getLast? ≠ some '\n' else '\x00' ∉ s.toList))

theorem faithful_of_plain (kind : Kind) {s : String} (noNull : '\x00' ∉ s.toList) (noFeed : s.toList.getLast? ≠ some '\n') :
    Faithful kind s := by
  unfold Faithful
  split
  · exact noFeed
  · exact noNull

theorem textLexeme_of_faithful {kind : Kind} {s : String} (faithful : Faithful kind s) :
    textLexeme kind s = if kind = .date ∧ isBare s.toList then .word s else .quoted s := by
  unfold Faithful at faithful
  unfold textLexeme
  split
  · rename_i bare
    rw [if_pos bare] at faithful
    rw [dropFinalNewline_eq_self_iff.2 faithful, String.ofList_toList]
  · rename_i other
    rw [if_neg other] at faithful
    rw [Text.withoutNulls_eq_self faithful]

theorem literal_textLexeme_iff {kind : Kind} {s : String} : Literal (textLexeme kind s) s ↔ Faithful kind s := by
  constructor
  · intro literal
    unfold textLexeme at literal
    unfold Faithful
    split at literal
    · rename_i bare
      have same := literal.unique (.word _)
      rw [← String.toList_inj, String.toList_ofList] at same
      rw [if_pos bare]
      exact dropFinalNewline_eq_self_iff.1 same.symm
    · rename_i other
      rw [if_neg other]
      exact Text.withoutNulls_eq_self_iff.1 (literal.unique (.quoted _)).symm
  · intro faithful
    rw [textLexeme_of_faithful faithful]
    split
    · exact .word s
    · exact .quoted s

/-- A text that can be written without quotes is one word; a line feed at its end is a gap. -/
theorem bare_row {cs : List Char} (bare : isBare cs = true) : Row cs [.word (String.ofList (dropFinalNewline cs))] := by
  have word := spelled_body_of_isBare bare
  by_cases feed : cs.getLast? = some '\n'
  · have last : Row ['\n'] [] := .gap (forall_mem_of_all (by decide))
    have boundary : Boundary ['\n'] := boundary_cons (.inl (by decide)) (by decide) []
    obtain ⟨body, split⟩ := List.getLast?_eq_some_iff.1 feed
    have front : dropFinalNewline cs = body := by
      rw [dropFinalNewline, if_pos feed, split, List.dropLast_concat]
    have row := last.cons word (boundary.endsBefore _)
    rw [front] at row ⊢
    rwa [← split] at row
  · have whole := dropFinalNewline_eq_self_iff.2 feed
    have row := Row.single word
    rw [whole] at row ⊢
    exact row

theorem text_row (kind : Kind) (s : String) : Row (literal kind s).toList [textLexeme kind s] := by
  unfold literal textLexeme
  split
  · rename_i bare
    exact bare_row bare.2
  · rw [String.toList_ofList]
    exact .single (quoted_spelled s)

theorem scalar_row {kind : Kind} {v : Value} {text : String} (written : scalar kind v = .ok text) :
    Row text.toList [lexeme kind v] := by
  cases v with
  | bool b =>
    cases written
    cases b <;> exact .single (.word (by decide) (forall_mem_of_all (by decide)))
  | int n =>
    obtain ⟨_, rfl⟩ := writeInteger_eq_ok_iff.1 written
    exact Number.word_row (.int n)
  | float x =>
    cases written
    exact Number.word_row (.float x)
  | _ =>
    simp only [scalar] at written
    obtain ⟨s, found, rfl⟩ := Outcome.map_eq_ok.1 written
    simp only [lexeme, found]
    exact text_row kind s

theorem items_row {kind : Kind} {vs : List Value} {texts : List String} (written : vs.mapM (scalar kind) = .ok texts) :
    Row (commaSeparated texts).toList ((vs.map (lexeme kind)).intersperse .comma) := by
  induction vs generalizing texts with
  | nil =>
    cases written
    exact .gap (List.forall_mem_nil _)
  | cons v vs ih =>
    obtain ⟨text, rest, own, others, rfl⟩ := Outcome.mapM_cons_eq_ok.1 written
    have first := scalar_row own
    cases vs with
    | nil =>
      cases others
      simpa [commaSeparated] using first
    | cons next vs =>
      have comma : Boundary (',' :: ' ' :: (commaSeparated rest).toList) :=
        boundary_cons (.inr (by decide)) (by decide) _
      have spaced := (ih others).cons_gap (c := ' ') (by decide)
      have joined := first.append comma (spaced.cons .comma trivial)
      obtain ⟨nextText, more, _, _, rfl⟩ := Outcome.mapM_cons_eq_ok.1 others
      simpa [commaSeparated, String.intercalate_cons_cons] using joined

end Written

/-- The lexemes that an operand is written as. -/
def Operand.lexemes (kind : Kind) : Operand → List Lexeme
  | one v => [Written.lexeme kind v]
  | many items => .openList :: ((items.map (Written.lexeme kind)).intersperse .comma ++ [.closeList])

theorem Operand.row {kind : Kind} {operand : Operand} {text : String} (written : operand.written kind = .ok text) :
    Row text.toList (operand.lexemes kind) := by
  cases operand with
  | one v => exact Written.scalar_row written
  | many items =>
    obtain ⟨texts, each, rfl⟩ := Outcome.map_eq_ok.1 written
    have last : Row [']'] [.closeList] := .single .closeList
    have closed := (Written.items_row each).append (boundary_cons (.inr (by decide)) (by decide) []) last
    have row : Row ('[' :: _) (.openList :: _) := closed.cons .openList trivial
    simpa [Operand.lexemes] using row

theorem Operand.exists_written_many_iff {kind : Kind} {vs : List Value} :
    (∃ text, (Operand.many vs).written kind = .ok text) ↔ ∀ v ∈ vs, ∃ text, Written.scalar kind v = .ok text :=
  Outcome.exists_map_iff.trans Outcome.exists_mapM_iff

theorem Condition.exists_written_iff {c : Condition} :
    (∃ text, c.written = .ok text) ↔ ∃ text, c.operand.written c.field.kind = .ok text :=
  Outcome.exists_map_iff

theorem Field.name_spelled (f : Field) : Spelled (.word f.name) f.name.toList := by
  cases f <;> exact .word (by decide) (forall_mem_of_all (by decide))

theorem Operator.symbol_row (op : Operator) : ∃ ls, Row op.symbol.toList ls ∧ OperatorPhrase ls op := by
  have spelled {s : String} (nonempty : s.toList ≠ [])
      (parts : s.toList.all (fun c => c ∉ gapCharacters ∧ c ∉ signCharacters) = true) : Spelled (.word s) s.toList :=
    .word nonempty (forall_mem_of_all parts)
  cases op with
  | like => exact ⟨_, .single (spelled (by decide) (by decide)), .like (by decide +kernel)⟩
  | isIn => exact ⟨_, .single (spelled (by decide) (by decide)), .isIn (by decide +kernel)⟩
  | notIn =>
    have word : Row "in".toList [.word "in"] := .single (spelled (by decide) (by decide))
    have gap : Boundary (' ' :: "in".toList) := boundary_cons (.inl (by decide)) (by decide) _
    have row : Row "not".toList [.word "not"] := .single (spelled (by decide) (by decide))
    exact ⟨_, row.append gap (word.cons_gap (by decide)), .notIn (by decide +kernel) (by decide +kernel)⟩
  | equal | notEqual | greater | greaterEqual | less | lessEqual =>
    exact ⟨_, .single (.comparison (by decide) (by decide) (by decide)), .sign _⟩

/-- A condition is written as the name of its field, its operator and the lexemes of its operand. -/
theorem Condition.row {c : Condition} {text : String} (written : c.written = .ok text) : ∃ os, OperatorPhrase os c.operator ∧
    Row text.toList (.word c.field.name :: (os ++ c.operand.lexemes c.field.kind)) := by
  obtain ⟨value, ofOperand, rfl⟩ := Outcome.map_eq_ok.1 written
  obtain ⟨os, operatorRow, operator⟩ := c.operator.symbol_row
  have valueRow := Operand.row ofOperand
  have gap (cs : List Char) : Boundary (' ' :: cs) := boundary_cons (.inl (by decide)) (by decide) cs
  have name : Row c.field.name.toList [.word c.field.name] := .single c.field.name_spelled
  have behindName := operatorRow.append (gap _) (valueRow.cons_gap (c := ' ') (by decide))
  have row := name.append (gap _) (behindName.cons_gap (c := ' ') (by decide))
  refine ⟨os, operator, ?_⟩
  simpa using row

end TaskQuery
