import TaskQuery.Filter.Lexeme
import TaskQuery.Outcome

namespace TaskQuery

namespace Lexeme

/-- The characters of a gap, one by one. -/
def gapCharacters : List Char := [' ', '\t', '\n', '\r']

/-- The signs, one by one. -/
def signCharacters : List Char := ['(', ')', '[', ']', ',', '=', '!', '<', '>', '&', '|', '"', '\'']

/-- What stands between two quotes, and the text that it encodes. A backslash takes the next character with it; a
quote without a backslash ends the text, and so does not occur inside. -/
inductive Encodes (quote : Char) : List Char → List Char → Prop
  | nil : Encodes quote [] []
  | escaped {e : Char} {body content : List Char} :
      Encodes quote body content → Encodes quote ('\\' :: e :: body) (unescape e :: content)
  | plain {c : Char} {body content : List Char} : c ≠ quote → c ≠ '\\' →
      Encodes quote body content → Encodes quote (c :: body) (c :: content)

/-- A character other than those for blanks is itself behind a backslash. -/
theorem Encodes.itself {quote c : Char} {body content : List Char} (same : unescape c = c)
    (encodes : Encodes quote body content) : Encodes quote ('\\' :: c :: body) (c :: content) := by
  have escaped := encodes.escaped (e := c)
  rwa [same] at escaped

/-- What a lexeme is written as. All but quoted texts are written as they are. -/
inductive Spelled : Lexeme → List Char → Prop
  | word {s : String} : s.toList ≠ [] → (∀ c ∈ s.toList, c ∉ gapCharacters ∧ c ∉ signCharacters) →
      Spelled (word s) s.toList
  | quoted {quote : Char} {body content : List Char} : quote = '"' ∨ quote = '\'' → Encodes quote body content →
      Spelled (quoted (String.ofList content)) (quote :: (body ++ [quote]))
  | comparison {op : Operator} : op ≠ .like → op ≠ .isIn → op ≠ .notIn →
      Spelled (comparison op) op.symbol.toList
  | joiner (j : Joiner) : Spelled (joiner j) j.symbol.toList
  | openGroup : Spelled openGroup ['(']
  | closeGroup : Spelled closeGroup [')']
  | openList : Spelled openList ['[']
  | closeList : Spelled closeList [']']
  | comma : Spelled comma [',']

/-- Whether a lexeme ends before `rest`: a word goes on to the next gap or sign, and a sign that may be followed by an
equals sign in one lexeme does not stand before one. -/
def EndsBefore (rest : List Char) : Lexeme → Prop
  | word _ => ∀ c ∈ rest.head?, c ∈ gapCharacters ∨ c ∈ signCharacters
  | comparison .equal | comparison .less | comparison .greater => rest.head? ≠ some '='
  | _ => True

instance : (rest : List Char) → (l : Lexeme) → Decidable (EndsBefore rest l)
  | [], .word _ => .isTrue nofun
  | c :: _, .word _ => decidable_of_iff (c ∈ gapCharacters ∨ c ∈ signCharacters) (by simp [EndsBefore])
  | rest, .comparison .equal | rest, .comparison .less | rest, .comparison .greater =>
    inferInstanceAs (Decidable (rest.head? ≠ some '='))
  | _, .comparison .notEqual | _, .comparison .lessEqual | _, .comparison .greaterEqual | _, .comparison .like
  | _, .comparison .isIn | _, .comparison .notIn | _, .quoted _ | _, .joiner _ | _, .openGroup | _, .closeGroup
  | _, .openList | _, .closeList | _, .comma => .isTrue trivial

theorem forall_mem_of_all {p : Char → Prop} [DecidablePred p] {cs : List Char} (all : cs.all (p ·) = true) :
    ∀ c ∈ cs, p c :=
  fun c member => of_decide_eq_true (List.all_eq_true.1 all c member)

theorem isGap_iff {c : Char} : isGap c = true ↔ c ∈ gapCharacters := by
  simp [isGap, gapCharacters, or_assoc]

theorem isSign_iff {c : Char} : isSign c = true ↔ c ∈ signCharacters := by
  simp [isSign, signCharacters, or_assoc]

theorem isWordPart_iff {c : Char} : isWordPart c = true ↔ c ∉ gapCharacters ∧ c ∉ signCharacters := by
  rw [← isGap_iff, ← isSign_iff]
  simp [isWordPart]

theorem isWordPart_eq_false_iff {c : Char} :
    isWordPart c = false ↔ c ∈ gapCharacters ∨ c ∈ signCharacters := by
  rw [← Bool.not_eq_true, isWordPart_iff, Decidable.not_and_iff_not_or_not, Decidable.not_not, Decidable.not_not]

/-- Reading up to the closing quote finds the encoded text, and nothing else. -/
theorem readQuoted_eq_ok_iff {quote : Char} (noEscape : quote ≠ '\\') {cs content rest : List Char} :
    readQuoted quote cs = .ok (content, rest) ↔ ∃ body, cs = body ++ quote :: rest ∧ Encodes quote body content := by
  constructor
  · intro h
    fun_induction readQuoted quote cs generalizing content rest with
    | case1 => cases h
    | case2 cs =>
      cases h
      exact ⟨[], rfl, .nil⟩
    | case3 => cases h
    | case4 e cs notQuote ih =>
      obtain ⟨⟨found, after⟩, read, eq⟩ := Outcome.map_eq_ok.1 h
      cases eq
      obtain ⟨body, split, encodes⟩ := ih read
      exact ⟨'\\' :: e :: body, by simp [split], .escaped encodes⟩
    | case5 c cs notQuote notEscape ih =>
      obtain ⟨⟨found, after⟩, read, eq⟩ := Outcome.map_eq_ok.1 h
      cases eq
      obtain ⟨body, split, encodes⟩ := ih read
      exact ⟨c :: body, by simp [split], .plain notQuote notEscape encodes⟩
  · rintro ⟨body, rfl, encodes⟩
    induction encodes with
    | nil => rw [List.nil_append, readQuoted.eq_def]; simp
    | escaped _ ih =>
      rw [List.cons_append, List.cons_append, readQuoted.eq_def]
      simp [ih, noEscape.symm, Except.map]
    | plain notQuote notEscape _ ih =>
      rw [List.cons_append, readQuoted.eq_def]
      simp [ih, notQuote, notEscape, Except.map]

section Reads

variable (position : Nat) {cs : List Char}

theorem read_notEqual : read position '!' ('=' :: cs) = .ok (comparison .notEqual, cs) := rfl

theorem read_equal (single : cs.head? ≠ some '=') : read position '=' cs = .ok (comparison .equal, cs) := by
  rw [read.eq_def]
  simp only [Char.reduceEq, if_false, if_true]
  split
  · exact absurd rfl single
  · rfl

theorem readOrder_strict {strict weak : Operator} (single : cs.head? ≠ some '=') :
    readOrder strict weak cs = (comparison strict, cs) := by
  unfold readOrder
  split
  · exact absurd rfl single
  · rfl

theorem read_quote {quote : Char} {body content rest : List Char} (isQuote : quote = '"' ∨ quote = '\'')
    (encodes : Encodes quote body content) :
    read position quote (body ++ quote :: rest) = .ok (quoted (String.ofList content), rest) := by
  have noEscape : quote ≠ '\\' := by rcases isQuote with rfl | rfl <;> decide
  have found : readQuoted quote (body ++ quote :: rest) = .ok (content, rest) :=
    (readQuoted_eq_ok_iff noEscape).2 ⟨body, rfl, encodes⟩
  rcases isQuote with rfl | rfl
  all_goals
    rw [read.eq_def]
    simp [found]

theorem read_word {c : Char} (noSign : c ∉ signCharacters) :
    read position c cs = .ok (word (String.ofList (c :: cs.takeWhile isWordPart)), cs.dropWhile isWordPart) := by
  simp only [signCharacters, List.mem_cons, List.not_mem_nil, or_false, not_or] at noSign
  rw [read.eq_def]
  simp [noSign]

end Reads

theorem readJoiner_spelled {j : Joiner} {first : Char} {position : Nat} {cs rest : List Char} {lexeme : Lexeme}
    (twice : j.symbol.toList = [first, first]) (h : readJoiner j first position cs = .ok (lexeme, rest)) :
    ∃ spelling, first :: cs = spelling ++ rest ∧ Spelled lexeme spelling ∧ EndsBefore rest lexeme := by
  cases cs with
  | nil => cases h
  | cons c cs =>
    simp only [readJoiner] at h
    split at h
    · cases h
      subst c
      exact ⟨j.symbol.toList, by rw [twice]; rfl, .joiner j, trivial⟩
    · cases h

theorem readQuote_spelled {quote : Char} {position : Nat} {cs rest : List Char} {lexeme : Lexeme}
    (isQuote : quote = '"' ∨ quote = '\'') (h : read position quote cs = .ok (lexeme, rest)) :
    ∃ spelling, quote :: cs = spelling ++ rest ∧ Spelled lexeme spelling ∧ EndsBefore rest lexeme := by
  have noEscape : quote ≠ '\\' := by rcases isQuote with rfl | rfl <;> decide
  cases found : readQuoted quote cs with
  | error e => rcases isQuote with rfl | rfl <;> cases e <;> simp [read.eq_def, found] at h
  | ok result =>
    obtain ⟨content, after⟩ := result
    obtain ⟨body, split, encodes⟩ := (readQuoted_eq_ok_iff noEscape).1 found
    rw [split, read_quote position isQuote encodes] at h
    cases h
    exact ⟨quote :: (body ++ [quote]), by simp [split], .quoted isQuote encodes, trivial⟩

theorem readOrder_spelled {strict weak : Operator} {first : Char} {cs rest : List Char} {lexeme : Lexeme}
    (order : strict = .less ∧ weak = .lessEqual ∨ strict = .greater ∧ weak = .greaterEqual)
    (written : strict.symbol.toList = [first]) (h : readOrder strict weak cs = (lexeme, rest)) :
    ∃ spelling, first :: cs = spelling ++ rest ∧ Spelled lexeme spelling ∧ EndsBefore rest lexeme := by
  by_cases double : cs.head? = some '='
  · obtain ⟨tail, rfl⟩ := List.head?_eq_some_iff.1 double
    cases h
    have writtenWeak : weak.symbol.toList = [first, '='] := by
      rcases order with ⟨rfl, rfl⟩ | ⟨rfl, rfl⟩ <;> cases written <;> rfl
    refine ⟨weak.symbol.toList, by rw [writtenWeak]; rfl, .comparison ?_ ?_ ?_, ?_⟩
    all_goals rcases order with ⟨-, rfl⟩ | ⟨-, rfl⟩ <;> trivial
  · rw [readOrder_strict double] at h
    cases h
    refine ⟨strict.symbol.toList, by rw [written]; rfl, .comparison ?_ ?_ ?_, ?_⟩
    all_goals rcases order with ⟨rfl, -⟩ | ⟨rfl, -⟩ <;> first | exact double | trivial

theorem head?_dropWhile_isWordPart {cs : List Char} :
    ∀ c ∈ (cs.dropWhile isWordPart).head?, c ∈ gapCharacters ∨ c ∈ signCharacters := by
  intro c found
  rw [← isWordPart_eq_false_iff]
  have := List.head?_dropWhile_not isWordPart cs
  rw [Option.mem_def.1 found] at this
  simpa using this

theorem Spelled.ofWord {cs : List Char} (nonempty : cs ≠ []) (parts : ∀ c ∈ cs, c ∉ gapCharacters ∧ c ∉ signCharacters) :
    Spelled (.word (String.ofList cs)) cs := by
  have spelled : Spelled (.word (String.ofList cs)) (String.ofList cs).toList := by
    refine .word ?_ ?_
    all_goals rwa [String.toList_ofList]
  rwa [String.toList_ofList] at spelled

/-- What is read as a lexeme is a spelling of it, and the lexeme ends there. -/
theorem read_spelled {position : Nat} {c : Char} {cs rest : List Char} {lexeme : Lexeme} (noGap : c ∉ gapCharacters)
    (h : read position c cs = .ok (lexeme, rest)) :
    ∃ spelling, c :: cs = spelling ++ rest ∧ Spelled lexeme spelling ∧ EndsBefore rest lexeme := by
  by_cases sign : c ∈ signCharacters
  · simp only [signCharacters, List.mem_cons, List.not_mem_nil, or_false] at sign
    rcases sign with rfl | rfl | rfl | rfl | rfl | rfl | rfl | rfl | rfl | rfl | rfl | rfl | rfl
    · cases h
      exact ⟨['('], rfl, .openGroup, trivial⟩
    · cases h
      exact ⟨[')'], rfl, .closeGroup, trivial⟩
    · cases h
      exact ⟨['['], rfl, .openList, trivial⟩
    · cases h
      exact ⟨[']'], rfl, .closeList, trivial⟩
    · cases h
      exact ⟨[','], rfl, .comma, trivial⟩
    · by_cases double : cs.head? = some '='
      · obtain ⟨tail, rfl⟩ := List.head?_eq_some_iff.1 double
        cases h
      · rw [read_equal position double] at h
        cases h
        exact ⟨['='], rfl, .comparison (by decide) (by decide) (by decide), double⟩
    · by_cases double : cs.head? = some '='
      · obtain ⟨tail, rfl⟩ := List.head?_eq_some_iff.1 double
        cases h
        exact ⟨['!', '='], rfl, .comparison (by decide) (by decide) (by decide), trivial⟩
      · rw [read.eq_def] at h
        simp only [Char.reduceEq, if_false, if_true] at h
        split at h
        · exact absurd rfl double
        · cases h
    · exact readOrder_spelled (.inl ⟨rfl, rfl⟩) rfl (Except.ok.inj h)
    · exact readOrder_spelled (.inr ⟨rfl, rfl⟩) rfl (Except.ok.inj h)
    · exact readJoiner_spelled (j := .and) rfl h
    · exact readJoiner_spelled (j := .or) rfl h
    · exact readQuote_spelled (.inl rfl) h
    · exact readQuote_spelled (.inr rfl) h
  · rw [read_word position sign] at h
    cases h
    refine ⟨c :: cs.takeWhile isWordPart, by simp [List.takeWhile_append_dropWhile], .ofWord (by simp) ?_,
      head?_dropWhile_isWordPart⟩
    intro d member
    rcases List.mem_cons.1 member with rfl | member
    · exact ⟨noGap, sign⟩
    · exact isWordPart_iff.1 (List.all_eq_true.1 List.all_takeWhile d member)

theorem takeWhile_word {cs rest : List Char} (parts : ∀ c ∈ cs, c ∉ gapCharacters ∧ c ∉ signCharacters)
    (ends : ∀ c ∈ rest.head?, c ∈ gapCharacters ∨ c ∈ signCharacters) :
    (cs ++ rest).takeWhile isWordPart = cs ∧ (cs ++ rest).dropWhile isWordPart = rest := by
  have inside : ∀ c ∈ cs, isWordPart c = true := fun c member => isWordPart_iff.2 (parts c member)
  rw [List.takeWhile_append_of_pos inside, List.dropWhile_append_of_pos inside]
  cases rest with
  | nil => simp
  | cons c rest =>
    have outside : isWordPart c = false := isWordPart_eq_false_iff.2 (ends c rfl)
    simp [outside]

/-- A spelling of a lexeme is read as that lexeme, if it ends there. -/
theorem Spelled.read {lexeme : Lexeme} {spelling rest : List Char} (spelled : Spelled lexeme spelling)
    (ends : EndsBefore rest lexeme) (position : Nat) :
    ∃ c cs, spelling ++ rest = c :: cs ∧ c ∉ gapCharacters ∧ Lexeme.read position c cs = .ok (lexeme, rest) := by
  cases spelled with
  | @word s nonempty parts =>
    obtain ⟨c, cs, letters⟩ := List.exists_cons_of_ne_nil nonempty
    rw [letters] at parts ⊢
    have first := parts c List.mem_cons_self
    refine ⟨c, cs ++ rest, rfl, first.1, ?_⟩
    obtain ⟨taken, dropped⟩ := takeWhile_word (fun d member => parts d (List.mem_cons_of_mem c member)) ends
    rw [read_word position first.2, taken, dropped, ← letters, String.ofList_toList]
  | @quoted quote body content isQuote encodes =>
    refine ⟨quote, body ++ quote :: rest, by simp, ?_, read_quote position isQuote encodes⟩
    rcases isQuote with rfl | rfl <;> decide
  | @comparison op notLike notIn notNotIn =>
    cases op with
    | equal => exact ⟨'=', rest, rfl, by decide, read_equal position ends⟩
    | notEqual => exact ⟨'!', '=' :: rest, rfl, by decide, read_notEqual position⟩
    | greater => exact ⟨'>', rest, rfl, by decide, congrArg Except.ok (readOrder_strict ends)⟩
    | greaterEqual => exact ⟨'>', '=' :: rest, rfl, by decide, rfl⟩
    | less => exact ⟨'<', rest, rfl, by decide, congrArg Except.ok (readOrder_strict ends)⟩
    | lessEqual => exact ⟨'<', '=' :: rest, rfl, by decide, rfl⟩
    | like => exact absurd rfl notLike
    | isIn => exact absurd rfl notIn
    | notIn => exact absurd rfl notNotIn
  | joiner j =>
    cases j with
    | and => exact ⟨'&', '&' :: rest, rfl, by decide, rfl⟩
    | or => exact ⟨'|', '|' :: rest, rfl, by decide, rfl⟩
  | openGroup => exact ⟨'(', rest, rfl, by decide, rfl⟩
  | closeGroup => exact ⟨')', rest, rfl, by decide, rfl⟩
  | openList => exact ⟨'[', rest, rfl, by decide, rfl⟩
  | closeList => exact ⟨']', rest, rfl, by decide, rfl⟩
  | comma => exact ⟨',', rest, rfl, by decide, rfl⟩

theorem Spelled.ne_nil {lexeme : Lexeme} {spelling : List Char} (spelled : Spelled lexeme spelling) : spelling ≠ [] := by
  cases spelled with
  | word nonempty => exact nonempty
  | @comparison op => cases op <;> simp [Operator.symbol]
  | joiner j => cases j <;> simp [Joiner.symbol]
  | _ => simp

end Lexeme

namespace Token

open Lexeme

/-- A text from a position on, its tokens, and the position of its end: gaps and spellings in turn, each lexeme at the
position of its spelling. -/
inductive Layout : Nat → List Char → List Token → Nat → Prop
  | finish {position : Nat} {gap : List Char} : (∀ c ∈ gap, c ∈ gapCharacters) →
      Layout position gap [] (position + gap.length)
  | token {position finish : Nat} {gap spelling rest : List Char} {lexeme : Lexeme} {ts : List Token} :
      (∀ c ∈ gap, c ∈ gapCharacters) → Spelled lexeme spelling → EndsBefore rest lexeme →
      Layout (position + gap.length + spelling.length) rest ts finish →
      Layout position (gap ++ spelling ++ rest) (⟨lexeme, position + gap.length⟩ :: ts) finish

theorem Layout.finish_eq {position finish : Nat} {cs : List Char} {ts : List Token}
    (layout : Layout position cs ts finish) : finish = position + cs.length := by
  induction layout with
  | finish => rfl
  | token _ _ _ _ ih =>
    rw [ih]
    simp only [List.length_append]
    omega

/-- A gap before a layout is part of it. -/
theorem Layout.cons_gap {position finish : Nat} {c : Char} {cs : List Char} {ts : List Token} (isGap : c ∈ gapCharacters)
    (layout : Layout (position + 1) cs ts finish) : Layout position (c :: cs) ts finish := by
  cases layout with
  | finish blank =>
    have layout : Layout position (c :: cs) [] (position + (c :: cs).length) :=
      .finish (List.forall_mem_cons.2 ⟨isGap, blank⟩)
    rwa [List.length_cons, Nat.add_comm cs.length, ← Nat.add_assoc] at layout
  | @token _ _ gap spelling rest lexeme ts blank spelled ends layout =>
    have shift : position + 1 + gap.length = position + (c :: gap).length := by
      simp only [List.length_cons]
      omega
    rw [shift] at layout ⊢
    exact .token (List.forall_mem_cons.2 ⟨isGap, blank⟩) spelled ends layout

theorem ofChars_gap {position : Nat} {gap cs : List Char} (blank : ∀ c ∈ gap, c ∈ gapCharacters) :
    ofChars position (gap ++ cs) = ofChars (position + gap.length) cs := by
  induction gap generalizing position with
  | nil => rfl
  | cons c gap ih =>
    obtain ⟨first, others⟩ := List.forall_mem_cons.1 blank
    rw [List.cons_append, ofChars.eq_2, if_pos (isGap_iff.2 first), ih others, List.length_cons,
      Nat.add_comm gap.length, Nat.add_assoc]

theorem ofChars_of_read {position : Nat} {c : Char} {cs rest : List Char} {lexeme : Lexeme} (noGap : c ∉ gapCharacters)
    (read : Lexeme.read position c cs = .ok (lexeme, rest)) :
    ofChars position (c :: cs) =
      (ofChars (position + (cs.length + 1 - rest.length)) rest).map (⟨lexeme, position⟩ :: ·) := by
  rw [ofChars.eq_2, if_neg (mt isGap_iff.1 noGap)]
  split
  · rename_i failed
    rw [read] at failed
    cases failed
  · rename_i found after read'
    rw [read] at read'
    cases read'
    rfl

/-- A lexeme at the front of a text is its first token. -/
theorem ofChars_spelled {position : Nat} {spelling rest : List Char} {lexeme : Lexeme}
    (spelled : Spelled lexeme spelling) (ends : EndsBefore rest lexeme) :
    ofChars position (spelling ++ rest) =
      (ofChars (position + spelling.length) rest).map (⟨lexeme, position⟩ :: ·) := by
  obtain ⟨c, cs, split, noGap, read⟩ := spelled.read ends position
  have length := congrArg List.length split
  simp only [List.length_append, List.length_cons] at length
  have taken : cs.length + 1 - rest.length = spelling.length := by omega
  rw [split, ofChars_of_read noGap read, taken]

theorem Layout.ofChars {position finish : Nat} {cs : List Char} {ts : List Token}
    (layout : Layout position cs ts finish) : Token.ofChars position cs = .ok ts := by
  induction layout with
  | @finish position gap blank =>
    rw [← List.append_nil gap, ofChars_gap blank, ofChars.eq_1]
  | token blank spelled ends _ ih =>
    rw [List.append_assoc, ofChars_gap blank, ofChars_spelled spelled ends, ih]
    rfl

theorem layout_ofChars {position : Nat} {cs : List Char} {ts : List Token} (h : Token.ofChars position cs = .ok ts) :
    Layout position cs ts (position + cs.length) := by
  fun_induction Token.ofChars position cs generalizing ts with
  | case1 position =>
    cases h
    exact .finish (List.forall_mem_nil _)
  | case2 position c cs gap ih =>
    have layout := ih h
    rw [Nat.add_right_comm] at layout
    exact .cons_gap (isGap_iff.1 gap) layout
  | case3 => cases h
  | case4 position c cs noGap lexeme rest read ih =>
    obtain ⟨later, found, eq⟩ := Outcome.map_eq_ok.1 h
    cases eq
    obtain ⟨spelling, split, spelled, ends⟩ := read_spelled (mt isGap_iff.2 noGap) read
    have length := congrArg List.length split
    simp only [List.length_append, List.length_cons] at length
    have layout := ih found
    have taken : cs.length + 1 - rest.length = spelling.length := by omega
    have finish : position + (c :: cs).length = position + spelling.length + rest.length := by
      simp only [List.length_cons]
      omega
    rw [taken] at layout
    rw [finish, split]
    have noBlank : ∀ c ∈ [], c ∈ gapCharacters := List.forall_mem_nil _
    exact .token noBlank spelled ends layout

theorem ofChars_eq_ok_iff {position : Nat} {cs : List Char} {ts : List Token} :
    Token.ofChars position cs = .ok ts ↔ Layout position cs ts (position + cs.length) :=
  ⟨layout_ofChars, Layout.ofChars⟩

/-- A text has exactly those tokens that it is a layout of. -/
theorem ofText_eq_ok_iff {s : String} {ts : List Token} :
    Token.ofText s = .ok ts ↔ Layout 0 s.toList ts s.length := by
  have same : Token.ofChars 0 s.toList = .ok ts ↔ Layout 0 s.toList ts (0 + s.toList.length) := ofChars_eq_ok_iff
  rwa [Nat.zero_add, String.length_toList] at same

theorem Layout.position_bounds {position finish : Nat} {cs : List Char} {ts : List Token}
    (layout : Layout position cs ts finish) : ∀ t ∈ ts, position ≤ t.position ∧ t.position < finish := by
  induction layout with
  | finish => exact List.forall_mem_nil _
  | @token position finish gap spelling rest lexeme ts _ spelled _ later ih =>
    have positive := List.length_pos_iff.2 spelled.ne_nil
    have end_eq := later.finish_eq
    intro t member
    rcases List.mem_cons.1 member with rfl | member
    · exact ⟨Nat.le_add_right .., by simp only; omega⟩
    · obtain ⟨lower, upper⟩ := ih t member
      exact ⟨by omega, upper⟩

/-- Every token is spelled somewhere in the text. -/
theorem Layout.spelled_within {position finish : Nat} {cs : List Char} {ts : List Token}
    (layout : Layout position cs ts finish) : ∀ t ∈ ts, ∃ spelling, Spelled t.lexeme spelling ∧ spelling <:+: cs := by
  induction layout with
  | finish => exact List.forall_mem_nil _
  | @token _ _ gap spelling rest _ _ _ spelled _ _ ih =>
    refine List.forall_mem_cons.2 ⟨⟨spelling, spelled, gap, rest, rfl⟩, fun t member => ?_⟩
    obtain ⟨later, laterSpelled, within⟩ := ih t member
    exact ⟨later, laterSpelled, within.trans ⟨gap ++ spelling, [], by rw [List.append_nil]⟩⟩

theorem Layout.positions_increase {position finish : Nat} {cs : List Char} {ts : List Token}
    (layout : Layout position cs ts finish) : ts.Pairwise fun a b => a.position < b.position := by
  induction layout with
  | finish => exact .nil
  | @token position finish gap spelling rest lexeme ts _ spelled _ later ih =>
    have positive := List.length_pos_iff.2 spelled.ne_nil
    refine .cons ?_ ih
    intro t member
    obtain ⟨lower, _⟩ := later.position_bounds t member
    simp only
    omega

/-- Reading into tokens loses nothing and comes to an end: every lexeme takes characters from the front of what is
left, and the tokens that are found lay out the whole text, at increasing positions before its end. -/
theorem ofText_lossless (s : String) :
    (∀ position c cs lexeme rest, c ∉ gapCharacters → Lexeme.read position c cs = .ok (lexeme, rest) →
      ∃ taken, taken ≠ [] ∧ c :: cs = taken ++ rest) ∧
    ∀ ts, (Token.ofText s = .ok ts ↔ Layout 0 s.toList ts s.length) ∧
      (Token.ofText s = .ok ts →
        (ts.Pairwise fun a b => a.position < b.position) ∧ ∀ t ∈ ts, t.position < s.length) := by
  refine ⟨?_, fun ts => ⟨ofText_eq_ok_iff, fun found => ?_⟩⟩
  · intro position c cs lexeme rest noGap read
    obtain ⟨taken, split, spelled, _⟩ := read_spelled noGap read
    exact ⟨taken, spelled.ne_nil, split⟩
  · have layout := ofText_eq_ok_iff.1 found
    exact ⟨layout.positions_increase, fun t member => (layout.position_bounds t member).2⟩

/-- A text with a sign of two characters, gaps, and a quote inside a quoted text. -/
theorem ofText_lossless_quote :
    let ts : List Token := [⟨.word "title", 0⟩, ⟨.comparison .notEqual, 6⟩, ⟨.quoted "it's", 9⟩]
    Token.ofText "title !=\t'it\\'s' " = .ok ts ∧ Layout 0 "title !=\t'it\\'s' ".toList ts 17 ∧
      (ts.Pairwise fun a b => a.position < b.position) ∧ ∀ t ∈ ts, t.position < 17 := by
  intro ts
  have found : Token.ofText "title !=\t'it\\'s' " = .ok ts := Outcome.eq_ok_of_toOption (by decide +kernel)
  obtain ⟨same, positions⟩ := (ofText_lossless "title !=\t'it\\'s' ").2 ts
  exact ⟨found, same.1 found, positions found⟩

end Token

end TaskQuery
