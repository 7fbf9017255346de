import TaskQuery.Proofs.BadLexeme
import TaskQuery.Proofs.ReadFailures

namespace TaskQuery

open Lexeme (gapCharacters)

/-- Whether a place in a text, the first character of which has the given position, is that of a character in no gap. -/
def HasLexeme (position : Nat) (cs : List Char) (place : Nat) : Prop :=
  ∃ front c behind, cs = front ++ c :: behind ∧ c ∉ gapCharacters ∧ place = position + front.length

theorem HasLexeme.behind {position place : Nat} {front cs : List Char} (found : HasLexeme (position + front.length) cs place) :
    HasLexeme position (front ++ cs) place := by
  obtain ⟨between, c, behind, rfl, noGap, rfl⟩ := found
  exact ⟨front ++ between, c, behind, by simp, noGap, by rw [List.length_append, Nat.add_assoc]⟩

namespace Token

/-- A lexical error points at the front of what is no lexeme, or at the end of the text. -/
theorem place_of_ofChars {position : Nat} {cs : List Char} {e : LexicalError} (failed : ofChars position cs = .error e) :
    HasLexeme position cs e.position ∨ e.position = position + cs.length := by
  obtain ⟨front, c, behind, _, rfl, _, noGap, stuck⟩ := exists_front_of_ofChars failed
  rcases Lexeme.read_position stuck with here | ⟨_, _, atEnd⟩
  · exact .inl ⟨front, c, behind, rfl, noGap, here⟩
  · right
    rw [atEnd, List.length_append, List.length_cons]
    omega

/-- Every token is at the front of its spelling. -/
theorem Layout.hasLexeme {position finish : Nat} {cs : List Char} {ts : List Token} (layout : Layout position cs ts finish) :
    ∀ t ∈ ts, HasLexeme position cs t.position := by
  induction layout with
  | finish => exact List.forall_mem_nil _
  | @token position finish gap spelling rest lexeme ts blank spelled ends _ ih =>
    obtain ⟨c, behind, split, noGap, _⟩ := spelled.read ends position
    refine List.forall_mem_cons.2 ⟨⟨gap, c, behind, ?_, noGap, rfl⟩, fun t member => ?_⟩
    · rw [List.append_assoc, split]
    · have later := ih t member
      rw [Nat.add_assoc, ← List.length_append] at later
      exact later.behind

end Token

/-- An error that points at a place has this position, and an excerpt. -/
theorem SyntaxError.excerpt?_of_place? {e : SyntaxError} {place : Nat} (found : e.place? = some place) (s : String) :
    e.position = place ∧ e.excerpt? s = some (excerpt s e.position) := by
  cases e with
  | notText | empty => cases found
  | _ => exact ⟨Option.some.inj found, rfl⟩

section Excerpts

/-- The dots in front of what is shown, if the text begins further to the front. -/
def dotsIf (left : Prop) [Decidable left] : List Char :=
  if left then ['.', '.', '.'] else []

/-- The line of an excerpt: at most twenty characters on either side of a place. -/
def excerptLine (cs : List Char) (place : Nat) : List Char :=
  dotsIf (20 < place) ++ ((cs.take (min cs.length (place + 20))).drop (place - 20) ++ dotsIf (place + 20 < cs.length))

/-- How far the mark of an excerpt is moved to the right. -/
def excerptIndent (place : Nat) : Nat :=
  (dotsIf (20 < place)).length + min place 20

theorem excerpt_eq (s : String) (place : Nat) :
    excerpt s place = String.ofList (excerptLine s.toList place ++ '\n' :: (List.replicate (excerptIndent place) ' ' ++ ['^'])) := by
  have front : 0 < place - 20 ↔ 20 < place := by omega
  have back : min s.toList.length (place + 20) < s.toList.length ↔ place + 20 < s.toList.length := by omega
  have indent : place - (place - 20) = min place 20 := by omega
  simp only [excerpt, excerptRadius, front, back, indent, excerptLine, excerptIndent, dotsIf, Nat.add_comm (min place 20),
    List.append_assoc, List.cons_append]

variable {cs : List Char} {place : Nat}

/-- The mark is below the character at the place. -/
theorem excerptLine_indent (inside : place < cs.length) : (excerptLine cs place)[excerptIndent place]? = cs[place]? := by
  have before : place - 20 + min place 20 = place := by omega
  have shown : ((cs.take (min cs.length (place + 20))).drop (place - 20))[min place 20]? = cs[place]? := by
    rw [List.getElem?_drop, before, List.getElem?_take_of_lt (by omega)]
  have room : min place 20 < ((cs.take (min cs.length (place + 20))).drop (place - 20)).length := by
    rw [List.length_drop, List.length_take]
    omega
  rw [excerptLine, excerptIndent, List.getElem?_append_right (Nat.le_add_right _ _), Nat.add_sub_cancel_left,
    List.getElem?_append_left room, shown]

/-- The mark of an error at the end of the text is behind its last character. -/
theorem length_excerptLine (cs : List Char) : (excerptLine cs cs.length).length = excerptIndent cs.length := by
  have noDots : dotsIf (cs.length + 20 < cs.length) = [] := if_neg (by omega)
  have whole : cs.take (min cs.length (cs.length + 20)) = cs := List.take_of_length_le (by omega)
  rw [excerptLine, excerptIndent, noDots, whole, List.append_nil, List.length_append, List.length_drop]
  omega

end Excerpts

namespace Filter

variable {s : String} {e : SyntaxError}

/-- An error in a text that is not blank points at a character in no gap, or at the end of the text. -/
theorem place_of_malformed (failed : read s = .error (.malformed e)) (nonblank : Text.isBlankText s = false) :
    ∃ place, e.place? = some place ∧ (HasLexeme 0 s.toList place ∨ place = s.length) := by
  rw [read, nonblank, if_neg Bool.false_ne_true] at failed
  split at failed
  · rename_i lexical wrong
    cases failed
    have place := Token.place_of_ofChars wrong
    rw [Nat.zero_add, String.length_toList] at place
    exact ⟨lexical.position, rfl, place⟩
  · rename_i ts tokens
    cases Reading.filter_blames ts _ failed with
    | @token t _ member here =>
      exact ⟨t.position, here, .inl ((Token.ofText_eq_ok_iff.1 tokens).hasLexeme t member)⟩
    | finish atEnd => exact ⟨s.length, atEnd, .inr rfl⟩

/-- An error in a text that is not blank points at a character in no gap, or at the end of the text. The excerpt of the
error is the line around this place with a mark in the next line, below the character or behind the last one. -/
theorem excerpt_of_malformed (failed : read s = .error (.malformed e)) (nonblank : Text.isBlankText s = false) :
    (e.position = s.length ∨ e.position < s.length ∧ ∃ c, s.toList[e.position]? = some c ∧ c ∉ gapCharacters) ∧
    ∃ indent, e.excerpt? s = some (String.ofList
        (excerptLine s.toList e.position ++ '\n' :: (List.replicate indent ' ' ++ ['^']))) ∧
      (e.position < s.length → (excerptLine s.toList e.position)[indent]? = s.toList[e.position]?) ∧
      (e.position = s.length → indent = (excerptLine s.toList e.position).length) := by
  obtain ⟨place, found, points⟩ := place_of_malformed failed nonblank
  obtain ⟨rfl, shown⟩ := SyntaxError.excerpt?_of_place? found s
  refine ⟨?_, excerptIndent e.position, by rw [shown, excerpt_eq], fun inside => ?_, fun atEnd => ?_⟩
  · rcases points with ⟨front, c, behind, split, noGap, here⟩ | atEnd
    · right
      rw [Nat.zero_add] at here
      have length := congrArg List.length split
      rw [String.length_toList, List.length_append, List.length_cons] at length
      refine ⟨by omega, c, ?_, noGap⟩
      rw [split, here, List.getElem?_append_right (Nat.le_refl _), Nat.sub_self]
      rfl
    · exact .inl atEnd
  · exact excerptLine_indent (by rwa [String.length_toList])
  · rw [atEnd, ← String.length_toList, length_excerptLine]

/-- A wrong word in the middle of a text, and a text that ends in a backslash between quotes. -/
theorem excerpt_of_malformed_word :
    let s := "title = \"work\" && done = maybe && priority > 1 && labels in [1, 2]"
    let t := "title = \"a\\"
    (read s = .error (.malformed (.notBoolean .done "maybe" 25)) ∧
      excerptLine s.toList 25 = "... = \"work\" && done = maybe && priority > ...".toList ∧
      ∃ indent : Nat, (excerptLine s.toList 25)[indent]? = some 'm') ∧
    read t = .error (.malformed (.lexical (.endsInBackslash 11))) ∧
      ∃ indent, (SyntaxError.lexical (.endsInBackslash 11)).excerpt? t =
          some (String.ofList (t.toList ++ '\n' :: (List.replicate indent ' ' ++ ['^']))) ∧ indent = 11 := by
  intro s t
  have wrongWord : read s = .error (.malformed (.notBoolean .done "maybe" 25)) := by decide +kernel
  have endsOpen : read t = .error (.malformed (.lexical (.endsInBackslash 11))) := by decide +kernel
  have line : excerptLine t.toList 11 = t.toList := by decide +kernel
  obtain ⟨_, indent, _, below, _⟩ := excerpt_of_malformed wrongWord (by decide +kernel)
  obtain ⟨_, behind, shown, _, atEnd⟩ := excerpt_of_malformed endsOpen (by decide +kernel)
  refine ⟨⟨wrongWord, by decide +kernel, indent, (below (by decide)).trans (by decide)⟩, endsOpen, behind, ?_, ?_⟩
  · rwa [← line]
  · rw [atEnd (by decide)]
    decide +kernel

end Filter

end TaskQuery
