import TaskQuery.Proofs.OperandRow

namespace TaskQuery

open Lexeme

/-- A text with `w` in the place of every `c`. -/
def Text.replaceAll (c : Char) (w cs : List Char) : List Char :=
  cs.flatMap fun d => if d = c then w else [d]

namespace Written

/-- The signs that are escaped, each with what is put in its place. -/
def escapes : List (Char × List Char) :=
  [('\\', ['\\', '\\']), ('"', ['\\', '"']), ('\x00', []), ('\n', ['\\', 'n']), ('\t', ['\\', 't']), ('\r', ['\\', 'r'])]

/-- A text with one sign after the other escaped throughout. -/
def escapedInTurn (cs : List Char) : List Char :=
  escapes.foldl (fun cs (c, w) => Text.replaceAll c w cs) cs

/-- Every character is escaped by itself. -/
theorem escapedInTurn_eq_flatMap (cs : List Char) : escapedInTurn cs = cs.flatMap fun c => escapedInTurn [c] := by
  simp [escapedInTurn, escapes, Text.replaceAll, List.flatMap_assoc]

/-- Backslashes that are put in are not doubled, since those of the text are escaped first. -/
theorem escapedInTurn_singleton (c : Char) : escapedInTurn [c] = escape c := by
  have signs : ∀ d ∈ escapes.map Prod.fst, escapedInTurn [d] = escape d := forall_mem_of_all (by decide)
  by_cases sign : c ∈ escapes.map Prod.fst
  · exact signs c sign
  · simp only [escapes, List.map_cons, List.map_nil, List.mem_cons, List.not_mem_nil, or_false, not_or] at sign
    simp [escapedInTurn, escapes, Text.replaceAll, escape, sign]

theorem escapedInTurn_eq (cs : List Char) : escapedInTurn cs = cs.flatMap escape := by
  rw [escapedInTurn_eq_flatMap]
  exact congrArg (List.flatMap · cs) (funext escapedInTurn_singleton)

/-- Between its quotes a literal is read up to the last one. -/
theorem readQuoted_escaped (cs rest : List Char) :
    readQuoted '"' (cs.flatMap escape ++ '"' :: rest) = .ok (cs.filter (· ≠ '\x00'), rest) :=
  (readQuoted_eq_ok_iff (by decide)).2 ⟨_, rfl, encodes_escape cs⟩

end Written

namespace Lexeme

/-- What is read does not depend on what follows. -/
theorem readQuoted_append {quote : Char} (noEscape : quote ≠ '\\') {cs content rest : List Char}
    (read : readQuoted quote cs = .ok (content, rest)) (more : List Char) :
    readQuoted quote (cs ++ more) = .ok (content, rest ++ more) := by
  obtain ⟨body, rfl, encodes⟩ := (readQuoted_eq_ok_iff noEscape).1 read
  exact (readQuoted_eq_ok_iff noEscape).2 ⟨body, List.append_assoc .., encodes⟩

end Lexeme

namespace Written

/-- A literal that is cut short has no closing quote. -/
theorem readQuoted_cut {cs front back : List Char} (split : cs.flatMap escape ++ ['"'] = front ++ back) (cut : back ≠ [])
    (result : List Char × List Char) : readQuoted '"' front ≠ .ok result := by
  intro read
  have whole := readQuoted_append (by decide) read back
  rw [← split, readQuoted_escaped] at whole
  have nothing := congrArg Prod.snd (Except.ok.inj whole)
  exact cut (List.append_eq_nil_iff.1 nothing.symm).2

theorem toList_literal (s : String) : (literal .string s).toList = quoted s.toList := by
  rw [literal, if_neg (fun date => Kind.noConfusion date.1), String.toList_ofList]

/-- A literal is read back whole, wherever it stands. It is the text with its escapes put in one after the other, between
quotes; from its opening quote on, the text without null characters is read and exactly what follows the literal is left,
where the reading goes on; and no piece of it that is cut short is read at all. -/
theorem read_literal_within (u s v : String) :
    (literal .string s).toList = '"' :: (escapedInTurn s.toList ++ ['"']) ∧
    ∃ behind, (u ++ literal .string s ++ v).toList.drop u.length = '"' :: behind ∧
      Lexeme.read u.length '"' behind = .ok (.quoted (Text.withoutNulls s), v.toList) ∧
      Token.ofChars u.length ('"' :: behind) =
        (Token.ofChars (u ++ literal .string s).length v.toList).map (⟨.quoted (Text.withoutNulls s), u.length⟩ :: ·) ∧
      ∀ front back, (literal .string s).toList = '"' :: (front ++ back) → back ≠ [] →
        ∀ result, readQuoted '"' front ≠ .ok result := by
  rw [escapedInTurn_eq]
  refine ⟨toList_literal s, s.toList.flatMap escape ++ '"' :: v.toList, ?_, ?_, ?_, ?_⟩
  · rw [String.toList_append, String.toList_append, List.append_assoc, ← String.length_toList, List.drop_left,
      toList_literal, quoted]
    simp
  · exact read_quote u.length (.inl rfl) (encodes_escape s.toList)
  · have spelled : Token.ofChars u.length (quoted s.toList ++ v.toList) = _ :=
      Token.ofChars_spelled (quoted_spelled s) trivial
    rw [← toList_literal, String.length_toList, ← String.length_append] at spelled
    rw [← spelled, toList_literal, quoted]
    simp
  · intro front back split cut
    rw [toList_literal] at split
    exact readQuoted_cut (List.cons.inj split).2 cut

/-- A backslash, a null character and a quote in front of an `n`, one more backslash at the end, and a quote behind the
literal. -/
theorem read_literal_within_backslash :
    let s := "\\\x00\"n\\"
    literal .string s = "\"\\\\\\\"n\\\\\"" ∧
      Lexeme.read 8 '"' "\\\\\\\"n\\\\\"\"b".toList = .ok (.quoted "\\\"n\\", ['"', 'b']) ∧
      ∀ result, readQuoted '"' "\\\\\\\"n\\\\".toList ≠ .ok result := by
  intro s
  have written : literal .string s = "\"\\\\\\\"n\\\\\"" := by decide +kernel
  have text : Text.withoutNulls s = "\\\"n\\" := by decide +kernel
  obtain ⟨_, behind, here, read, _, cut⟩ := read_literal_within "title = " s "\"b"
  rw [written] at here
  have same : '"' :: behind = '"' :: "\\\\\\\"n\\\\\"\"b".toList := here.symm.trans (by decide +kernel)
  rw [(List.cons.inj same).2, text] at read
  exact ⟨written, read, cut _ ['"'] (by decide +kernel) (List.cons_ne_nil _ _)⟩

end Written

end TaskQuery
