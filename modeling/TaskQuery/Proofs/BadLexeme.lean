import TaskQuery.Proofs.TextJoin

namespace TaskQuery

namespace Lexeme

variable {position : Nat} {cs : List Char} {e : LexicalError}

/-- Behind an opening quote a text ends in a backslash if one stands alone behind what can be decoded. -/
theorem readQuoted_eq_endsInBackslash_iff {quote : Char} (noEscape : quote ≠ '\\') :
    readQuoted quote cs = .error .endsInBackslash ↔ ∃ body content, cs = body ++ ['\\'] ∧ Encodes quote body content := by
  constructor
  · intro failed
    fun_induction readQuoted quote cs with
    | case1 => cases failed
    | case2 => cases failed
    | case3 => exact ⟨[], [], rfl, .nil⟩
    | case4 e cs _ ih =>
      obtain ⟨body, content, rfl, encodes⟩ := ih (Outcome.map_eq_error.1 failed)
      exact ⟨'\\' :: e :: body, _, rfl, .escaped encodes⟩
    | case5 c cs notQuote notEscape ih =>
      obtain ⟨body, content, rfl, encodes⟩ := ih (Outcome.map_eq_error.1 failed)
      exact ⟨c :: body, _, rfl, .plain notQuote notEscape encodes⟩
  · rintro ⟨body, content, rfl, encodes⟩
    induction encodes with
    | nil =>
      rw [List.nil_append, readQuoted.eq_def]
      simp [noEscape.symm]
    | escaped _ ih =>
      rw [List.cons_append, List.cons_append, readQuoted.eq_def]
      simp [ih, noEscape.symm, Except.map]
    | plain notQuote notEscape _ ih =>
      rw [List.cons_append, readQuoted.eq_def]
      simp [ih, notQuote, notEscape, Except.map]

theorem readJoiner_position {j : Joiner} {first : Char} (failed : readJoiner j first position cs = .error e) :
    e.position = position := by
  cases cs with
  | nil =>
    cases failed
    rfl
  | cons c cs =>
    rw [readJoiner] at failed
    split at failed
    · cases failed
    · cases failed
      rfl

theorem read_quote_error {quote : Char} (isQuote : quote = '"' ∨ quote = '\'') {reason : QuoteError}
    (found : readQuoted quote cs = .error reason) :
    read position quote cs = .error (match reason with
      | .unclosed => .unclosedQuote position
      | .endsInBackslash => .endsInBackslash (position + 1 + cs.length)) := by
  rcases isQuote with rfl | rfl <;> cases reason <;> simp [read.eq_def, found]

theorem readQuote_position {quote : Char} (isQuote : quote = '"' ∨ quote = '\'')
    (failed : read position quote cs = .error e) :
    e.position = position ∨ readQuoted quote cs = .error .endsInBackslash ∧ e.position = position + 1 + cs.length := by
  cases found : readQuoted quote cs with
  | ok result => rcases isQuote with rfl | rfl <;> simp [read.eq_def, found] at failed
  | error reason =>
    rw [read_quote_error isQuote found] at failed
    cases reason with
    | unclosed =>
      cases failed
      exact .inl rfl
    | endsInBackslash =>
      cases failed
      exact .inr ⟨rfl, rfl⟩

/-- What is no lexeme is so from its first character on, unless the text ends in a backslash between quotes. -/
theorem read_position {c : Char} (failed : read position c cs = .error e) :
    e.position = position ∨ (c = '"' ∨ c = '\'') ∧ readQuoted c cs = .error .endsInBackslash ∧
      e.position = position + 1 + cs.length := by
  by_cases sign : c ∈ signCharacters
  · simp only [signCharacters, List.mem_cons, List.not_mem_nil, or_false] at sign
    rcases sign with rfl | rfl | rfl | rfl | rfl | rfl | rfl | rfl | rfl | rfl | rfl | rfl | rfl
    · cases failed
    · cases failed
    · cases failed
    · cases failed
    · cases failed
    · by_cases double : cs.head? = some '='
      · obtain ⟨tail, rfl⟩ := List.head?_eq_some_iff.1 double
        cases failed
        exact .inl rfl
      · rw [read_equal position double] at failed
        cases failed
    · rw [read.eq_def] at failed
      simp only [Char.reduceEq, if_false, if_true] at failed
      split at failed
      · cases failed
      · cases failed
        exact .inl rfl
    · cases failed
    · cases failed
    · exact .inl (readJoiner_position failed)
    · exact .inl (readJoiner_position failed)
    · exact (readQuote_position (.inl rfl) failed).imp_right fun atEnd => ⟨.inl rfl, atEnd⟩
    · exact (readQuote_position (.inr rfl) failed).imp_right fun atEnd => ⟨.inr rfl, atEnd⟩
  · rw [read_word position sign] at failed
    cases failed

end Lexeme

namespace Token

open Lexeme

/-- A text without tokens is laid out up to some place, and what begins there is no lexeme. -/
theorem exists_front_of_ofChars {position : Nat} {cs : List Char} {e : LexicalError} (failed : ofChars position cs = .error e) :
    ∃ front c behind ts, cs = front ++ c :: behind ∧ Layout position front ts (position + front.length) ∧
      c ∉ gapCharacters ∧ Lexeme.read (position + front.length) c behind = .error e := by
  fun_induction ofChars position cs with
  | case1 => cases failed
  | case2 position d cs gap ih =>
    obtain ⟨front, c, behind, ts, rfl, layout, noGap, stuck⟩ := ih failed
    have moved : position + 1 + front.length = position + (d :: front).length := by
      rw [List.length_cons]
      omega
    rw [moved] at layout stuck
    exact ⟨d :: front, c, behind, ts, rfl, .cons_gap (isGap_iff.1 gap) layout, noGap, stuck⟩
  | case3 position c cs noGap e' read =>
    cases failed
    exact ⟨[], c, cs, [], rfl, .finish (List.forall_mem_nil _), mt isGap_iff.2 noGap, read⟩
  | case4 position d cs noGap lexeme rest read ih =>
    obtain ⟨spelling, split, spelled, ends⟩ := read_spelled (mt isGap_iff.2 noGap) read
    have length := congrArg List.length split
    rw [List.length_cons, List.length_append] at length
    have taken : cs.length + 1 - rest.length = spelling.length := by omega
    rw [taken] at failed ih
    obtain ⟨front, c, behind, ts, rfl, layout, noGap', stuck⟩ := ih (Outcome.map_eq_error.1 failed)
    rw [split]
    rw [Nat.add_assoc, ← List.length_append] at layout stuck
    have nothing : ∀ c ∈ [], c ∈ gapCharacters := List.forall_mem_nil _
    exact ⟨spelling ++ front, c, behind, _, (List.append_assoc ..).symm, .token nothing spelled ends.of_append layout, noGap',
      stuck⟩

/-- A quoted text that begins behind tokens and ends in a backslash is an error at the end of the text. -/
theorem ofText_endsInBackslash {s : String} {front body content : List Char} {quote : Char} {ts : List Token}
    (split : s.toList = front ++ quote :: (body ++ ['\\'])) (isQuote : quote = '"' ∨ quote = '\'')
    (encodes : Encodes quote body content) (before : ofText (String.ofList front) = .ok ts) :
    ofText s = .error (.endsInBackslash s.length) := by
  have noEscape : quote ≠ '\\' := by rcases isQuote with rfl | rfl <;> decide
  have noGap : quote ∉ gapCharacters := by rcases isQuote with rfl | rfl <;> decide
  have boundary : Boundary (quote :: (body ++ ['\\'])) := by
    rcases isQuote with rfl | rfl
    all_goals exact boundary_cons (.inr (by decide)) (by decide) _
  have stuck : Lexeme.read front.length quote (body ++ ['\\']) =
      .error (.endsInBackslash (front.length + 1 + (body ++ ['\\']).length)) :=
    read_quote_error isQuote ((readQuoted_eq_endsInBackslash_iff noEscape).2 ⟨body, content, rfl, encodes⟩)
  have finish : front.length + 1 + (body ++ ['\\']).length = s.length := by
    rw [← String.length_toList, split]
    simp only [List.length_append, List.length_cons]
    omega
  have layout := ofText_eq_ok_iff.1 before
  rw [String.toList_ofList, String.length_ofList] at layout
  rw [ofText, split, layout.ofChars_append boundary, ofChars_of_error noGap stuck, finish]
  rfl

/-- An error is within the text or at its end. Within the text, what stands in front of it has tokens and what stands behind
has none from its first character on. At the end, the text ends in a backslash behind a quote that opens where the text so
far has tokens. -/
theorem first_bad_lexeme {s : String} {e : LexicalError} (failed : ofText s = .error e) :
    e.position ≤ s.length ∧
    (e.position < s.length →
      (∃ ts, ofText (String.ofList (s.toList.take e.position)) = .ok ts) ∧
      ∃ e', ofText (String.ofList (s.toList.drop e.position)) = .error e' ∧ e'.position = 0) ∧
    (e.position = s.length ↔ ∃ front quote body content, s.toList = front ++ quote :: (body ++ ['\\']) ∧
      (quote = '"' ∨ quote = '\'') ∧ Encodes quote body content ∧ ∃ ts, ofText (String.ofList front) = .ok ts) := by
  have atEnd : (∃ front quote body content, s.toList = front ++ quote :: (body ++ ['\\']) ∧
      (quote = '"' ∨ quote = '\'') ∧ Encodes quote body content ∧ ∃ ts, ofText (String.ofList front) = .ok ts) →
        e.position = s.length := by
    rintro ⟨front, quote, body, content, split, isQuote, encodes, ts, before⟩
    rw [ofText_endsInBackslash split isQuote encodes before] at failed
    cases failed
    rfl
  obtain ⟨front, c, behind, ts, split, layout, noGap, stuck⟩ := exists_front_of_ofChars failed
  rw [Nat.zero_add] at layout stuck
  have length : s.length = front.length + 1 + behind.length := by
    rw [← String.length_toList, split, List.length_append, List.length_cons]
    omega
  have before : ofText (String.ofList front) = .ok ts := by
    rw [ofText, String.toList_ofList]
    exact layout.ofChars
  rcases read_position stuck with here | ⟨isQuote, ends, there⟩
  · refine ⟨by omega, fun _ => ⟨⟨ts, ?_⟩, ?_⟩, fun same => by omega, atEnd⟩
    · rw [here, split, List.take_left]
      exact before
    · -- The same error at the front of what is left, where every position is smaller by the length of what was before.
      have moved := read_later 0 front.length c behind
      rw [Nat.zero_add, stuck] at moved
      cases first : Lexeme.read 0 c behind with
      | ok => rw [first] at moved; cases moved
      | error e' =>
        rw [first] at moved
        cases moved
        refine ⟨e', ?_, ?_⟩
        · rw [here, split, List.drop_left, ofText, String.toList_ofList]
          exact ofChars_of_error noGap first
        · rw [LexicalError.position_later] at here
          omega
  · have noEscape : c ≠ '\\' := by rcases isQuote with rfl | rfl <;> decide
    obtain ⟨body, content, rfl, encodes⟩ := (readQuoted_eq_endsInBackslash_iff noEscape).1 ends
    exact ⟨by omega, fun inside => by omega, fun _ => ⟨front, c, body, content, split, isQuote, encodes, ts, before⟩, atEnd⟩

/-- Half a joiner behind a quoted text, and a quote that is taken by a backslash at the end. -/
theorem first_bad_lexeme_half :
    let s := "title = 'a' & done = true"
    let t := "title = 'a' && note = \"b\\\"\\"
    (ofText s = .error (.halfJoiner .and 12) ∧ (∃ ts, ofText "title = 'a' " = .ok ts) ∧
      ∃ e, ofText "& done = true" = .error e ∧ e.position = 0) ∧
    ofText t = .error (.endsInBackslash 27) ∧ ∃ front quote body content, t.toList = front ++ quote :: (body ++ ['\\']) ∧
      (quote = '"' ∨ quote = '\'') ∧ Encodes quote body content ∧ ∃ ts, ofText (String.ofList front) = .ok ts := by
  intro s t
  have half : ofText s = .error (.halfJoiner .and 12) := by decide +kernel
  have opens : ofText t = .error (.endsInBackslash 27) := by decide +kernel
  have front : String.ofList (s.toList.take 12) = "title = 'a' " := by decide +kernel
  have rest : String.ofList (s.toList.drop 12) = "& done = true" := by decide +kernel
  obtain ⟨before, behind⟩ := (first_bad_lexeme half).2.1 (by decide)
  refine ⟨⟨half, front ▸ before, rest ▸ behind⟩, opens, (first_bad_lexeme opens).2.2.1 (by decide)⟩

end Token

end TaskQuery
