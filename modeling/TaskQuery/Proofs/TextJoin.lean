import TaskQuery.Proofs.LexemeRow

namespace TaskQuery

namespace LexicalError

/-- The same error in a text that begins `k` characters further behind. -/
def later (k : Nat) : LexicalError → LexicalError
  | endsInBackslash p => endsInBackslash (p + k)
  | unclosedQuote p => unclosedQuote (p + k)
  | halfJoiner j p => halfJoiner j (p + k)
  | negation p => negation (p + k)
  | doubledEquals p => doubledEquals (p + k)

theorem position_later (k : Nat) (e : LexicalError) : (e.later k).position = e.position + k := by
  cases e <;> rfl

end LexicalError

/-- The same token in a text that begins `k` characters further behind. -/
def Token.later (k : Nat) (t : Token) : Token :=
  ⟨t.lexeme, t.position + k⟩

namespace Lexeme

theorem readJoiner_later (j : Joiner) (first : Char) (position k : Nat) (cs : List Char) :
    readJoiner j first (position + k) cs = (readJoiner j first position cs).mapError (LexicalError.later k) := by
  cases cs with
  | nil => rfl
  | cons c cs =>
    rw [readJoiner, readJoiner]
    split <;> rfl

/-- What a lexeme is does not depend on its position, which is that of an error. -/
theorem read_later (position k : Nat) (c : Char) (cs : List Char) :
    read (position + k) c cs = (read position c cs).mapError (LexicalError.later k) := by
  have into {p : Prop} [Decidable p] (x y : Except LexicalError (Lexeme × List Char)) :
      (if p then x else y).mapError (LexicalError.later k) =
        if p then x.mapError (LexicalError.later k) else y.mapError (LexicalError.later k) := apply_ite ..
  unfold read
  simp only [into, readJoiner_later]
  repeat' refine ite_congr rfl (fun _ => ?_) (fun _ => ?_)
  all_goals try rfl
  -- What is left are the signs that look at the next character, and the quotes.
  · split <;> rfl
  · split <;> rfl
  · cases readQuoted c cs with
    | ok => rfl
    | error reason =>
      cases reason with
      | unclosed => rfl
      | endsInBackslash =>
        have moved : position + k + 1 + cs.length = position + 1 + cs.length + k := by omega
        exact congrArg (fun place => Except.error (LexicalError.endsInBackslash place)) moved

end Lexeme

namespace Token

open Lexeme

theorem ofChars_of_error {position : Nat} {c : Char} {cs : List Char} {e : LexicalError} (noGap : c ∉ gapCharacters)
    (failed : Lexeme.read position c cs = .error e) : ofChars position (c :: cs) = .error e := by
  rw [ofChars.eq_2, if_neg (mt isGap_iff.1 noGap)]
  split
  · rename_i reason found
    rw [failed] at found
    cases found
    rfl
  · rename_i found
    rw [failed] at found
    cases found

/-- The tokens of a text further behind are the same ones further behind, and so is its error. -/
theorem ofChars_later (position k : Nat) (cs : List Char) :
    ofChars (position + k) cs = ((ofChars position cs).mapError (LexicalError.later k)).map (List.map (later k)) := by
  fun_induction ofChars position cs with
  | case1 => rw [ofChars.eq_1]; rfl
  | case2 position c cs gap ih =>
    rw [ofChars.eq_2, if_pos gap, ← ih, Nat.add_right_comm]
  | case3 position c cs noGap e failed =>
    have moved : Lexeme.read (position + k) c cs = .error (e.later k) := by
      rw [read_later, failed]
      rfl
    exact ofChars_of_error (mt isGap_iff.2 noGap) moved
  | case4 position c cs noGap lexeme rest read ih =>
    have moved : Lexeme.read (position + k) c cs = .ok (lexeme, rest) := by
      rw [read_later, read]
      rfl
    rw [ofChars_of_read (mt isGap_iff.2 noGap) moved, Nat.add_right_comm, ih]
    cases ofChars (position + (cs.length + 1 - rest.length)) rest <;> rfl

/-- Behind a text that has tokens, where every lexeme ends, the reading goes on as if nothing had been before. -/
theorem Layout.ofChars_append {position finish : Nat} {cs rest : List Char} {ts : List Token}
    (layout : Layout position cs ts finish) (boundary : Boundary rest) :
    Token.ofChars position (cs ++ rest) = (Token.ofChars finish rest).map (ts ++ ·) := by
  induction layout with
  | @finish position gap blank =>
    rw [ofChars_gap blank]
    cases Token.ofChars (position + gap.length) rest <;> rfl
  | @token position finish gap spelling behind lexeme ts blank spelled ends _ ih =>
    rw [List.append_assoc, List.append_assoc, ofChars_gap blank, ofChars_spelled spelled (ends.append boundary), ih]
    cases Token.ofChars finish rest <;> rfl

/-- A text that has tokens, a gap and another text: the tokens of the first and those of the second behind them, or the
error of the second, each with its position raised by what stands in front. -/
theorem ofText_join {a w b : String} {as : List Token} (read : ofText a = .ok as) (some : w ≠ "")
    (blank : ∀ c ∈ w.toList, c ∈ gapCharacters) :
    (∀ bs, ofText b = .ok bs →
      ofText (a ++ w ++ b) = .ok (as ++ bs.map fun t => ⟨t.lexeme, t.position + (a.length + w.length)⟩) ∧
        (a ++ w ++ b).length = b.length + (a.length + w.length)) ∧
    ∀ e, ofText b = .error e → ∃ e', ofText (a ++ w ++ b) = .error e' ∧
      e'.position = e.position + (a.length + w.length) := by
  have layout := ofText_eq_ok_iff.1 read
  have boundary : Boundary (w.toList ++ b.toList) := by
    obtain ⟨c, gap, split⟩ := List.exists_cons_of_ne_nil (mt String.toList_eq_nil_iff.1 some)
    rw [split] at blank ⊢
    have first := blank c List.mem_cons_self
    exact boundary_cons (.inl first) (fun equals => by rw [equals] at first; revert first; decide) _
  have joined : ofText (a ++ w ++ b) =
      (((ofText b).mapError (LexicalError.later (a.length + w.length))).map
        (List.map (later (a.length + w.length)))).map (as ++ ·) := by
    rw [ofText, String.toList_append, String.toList_append, List.append_assoc, layout.ofChars_append boundary,
      ofChars_gap blank, String.length_toList, ← Nat.zero_add (a.length + w.length), ofChars_later, ofText, Nat.zero_add]
  constructor
  · intro bs found
    rw [joined, found]
    exact ⟨rfl, by simp only [String.length_append]; omega⟩
  · intro e failed
    rw [joined, failed]
    exact ⟨e.later (a.length + w.length), rfl, e.position_later _⟩

/-- An equals sign before the gap and another one behind it are two signs; half a joiner behind the gap is an error. -/
theorem ofText_join_equals :
    (ofText ("a=" ++ " " ++ "=\"b\"") =
      .ok [⟨.word "a", 0⟩, ⟨.comparison .equal, 1⟩, ⟨.comparison .equal, 3⟩, ⟨.quoted "b", 4⟩]) ∧
    ∃ e, ofText ("a=" ++ "\n " ++ "b |") = .error e ∧ e.position = 6 := by
  have front : ofText "a=" = .ok [⟨.word "a", 0⟩, ⟨.comparison .equal, 1⟩] := Outcome.eq_ok_of_toOption (by decide +kernel)
  have back : ofText "=\"b\"" = .ok [⟨.comparison .equal, 0⟩, ⟨.quoted "b", 1⟩] :=
    Outcome.eq_ok_of_toOption (by decide +kernel)
  have half : ofText "b |" = .error (.halfJoiner .or 2) := by decide +kernel
  have space : ∀ c ∈ " ".toList, c ∈ gapCharacters := forall_mem_of_all (by decide)
  have line : ∀ c ∈ "\n ".toList, c ∈ gapCharacters := forall_mem_of_all (by decide)
  exact ⟨((ofText_join front (by decide) space).1 _ back).1, (ofText_join front (by decide) line).2 _ half⟩

end Token

end TaskQuery
