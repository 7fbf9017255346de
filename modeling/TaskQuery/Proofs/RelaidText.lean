import Mathlib.Data.List.Forall2
import TaskQuery.Proofs.FilterKinds
import TaskQuery.Proofs.LexemeRow
import TaskQuery.Proofs.QuotedValue

namespace TaskQuery

namespace Lexeme

/-- Whether a text is at its end or goes on with a gap. -/
def GapNext (rest : List Char) : Prop :=
  ∀ c ∈ rest.head?, c ∈ gapCharacters

instance : (rest : List Char) → Decidable (GapNext rest)
  | [] => .isTrue nofun
  | c :: _ => decidable_of_iff (c ∈ gapCharacters) (by simp [GapNext])

/-- Two texts, each with its lexemes, which are as many in both, and each of which is spelled in any of its ways. Where the
first text has a gap behind a lexeme, the second one has some gap, too; it may have gaps where the first one has none. -/
inductive Relaid : List Char → List Lexeme → List Char → List Lexeme → Prop
  | finish {gap gap' : List Char} : (∀ c ∈ gap, c ∈ gapCharacters) → (∀ c ∈ gap', c ∈ gapCharacters) →
      Relaid gap [] gap' []
  | lexeme {gap gap' spelling spelling' rest rest' : List Char} {l l' : Lexeme} {ls ls' : List Lexeme} :
      (∀ c ∈ gap, c ∈ gapCharacters) → (∀ c ∈ gap', c ∈ gapCharacters) → Spelled l spelling → Spelled l' spelling' →
      EndsBefore rest l → (GapNext rest → GapNext rest') → Relaid rest ls rest' ls' →
      Relaid (gap ++ spelling ++ rest) (l :: ls) (gap' ++ spelling' ++ rest') (l' :: ls')

/-- A lexeme remains as it is, or a word is put in quotes. -/
inductive SameText : Lexeme → Lexeme → Prop
  | same (l : Lexeme) : SameText l l
  | quoted (s : String) : SameText (.word s) (.quoted s)

/-- A text between quotes, with a backslash before every backslash and before the quote. -/
def escapeQuote (quote : Char) (content : List Char) : List Char :=
  content.flatMap fun c => if c = quote ∨ c = '\\' then ['\\', c] else [c]

theorem encodes_escapeQuote {quote : Char} (isQuote : quote = '"' ∨ quote = '\'') (content : List Char) :
    Encodes quote (escapeQuote quote content) content := by
  induction content with
  | nil => exact .nil
  | cons c content ih =>
    by_cases escaped : c = quote ∨ c = '\\'
    · have itself : unescape c = c := by
        rcases escaped with rfl | rfl
        · rcases isQuote with rfl | rfl <;> rfl
        · rfl
      simpa [escapeQuote, escaped] using ih.itself itself
    · obtain ⟨notQuote, notEscape⟩ := not_or.1 escaped
      simpa [escapeQuote, escaped] using ih.plain notQuote notEscape

/-- Every text can be put between either of the quotes. -/
theorem Spelled.ofQuote {quote : Char} (isQuote : quote = '"' ∨ quote = '\'') (s : String) :
    Spelled (.quoted s) (quote :: (escapeQuote quote s.toList ++ [quote])) := by
  have spelled := Spelled.quoted isQuote (encodes_escapeQuote isQuote s.toList)
  rwa [String.ofList_toList] at spelled

theorem GapNext.boundary {rest : List Char} (gap : GapNext rest) : Boundary rest := by
  intro c head
  refine ⟨.inl (gap c head), ?_⟩
  rintro rfl
  exact absurd (gap _ head) (by decide)

theorem GapNext.of_blank {gap : List Char} (blank : ∀ c ∈ gap, c ∈ gapCharacters) : GapNext gap :=
  fun c head => blank c (List.mem_of_mem_head? head)

theorem GapNext.of_gap {gap rest : List Char} (blank : ∀ c ∈ gap, c ∈ gapCharacters) (some : gap ≠ []) :
    GapNext (gap ++ rest) := by
  obtain ⟨c, cs, rfl⟩ := List.exists_cons_of_ne_nil some
  intro d head
  cases head
  exact blank c List.mem_cons_self

/-- Where a lexeme ends is seen from the next character. -/
theorem EndsBefore.congr_head {rest rest' : List Char} {l : Lexeme} (same : rest'.head? = rest.head?)
    (ends : EndsBefore rest l) : EndsBefore rest' l := by
  cases l with
  | word =>
    intro c head
    exact ends c (same ▸ head)
  | comparison op => cases op <;> first | trivial | exact fun equals => ends (same ▸ equals)
  | _ => trivial

/-- Two spellings of one text are the same, if not the second one begins with a quote. -/
theorem Spelled.eq_or_quote {l l' : Lexeme} {spelling spelling' : List Char} (same : SameText l l')
    (spelled : Spelled l spelling) (spelled' : Spelled l' spelling') :
    spelling' = spelling ∨ ∃ quote cs, spelling' = quote :: cs ∧ (quote = '"' ∨ quote = '\'') := by
  cases spelled' with
  | quoted isQuote => exact .inr ⟨_, _, rfl, isQuote⟩
  | _ =>
    cases same
    cases spelled
    exact .inl rfl

namespace Relaid

variable {cs cs' : List Char} {ls ls' : List Lexeme}

/-- The lexemes are in fact those of the first text. -/
theorem row_first (relaid : Relaid cs ls cs' ls') : Row cs ls := by
  induction relaid with
  | finish blank _ => exact .gap blank
  | lexeme blank _ spelled _ ends _ _ ih => exact .lexeme blank spelled ends ih

/-- A lexeme that ends in the first text ends in the second one: at a gap, or at the same character, or at a quote. -/
theorem endsBefore {l : Lexeme} (relaid : Relaid cs ls cs' ls') (texts : List.Forall₂ SameText ls ls')
    (gaps : GapNext cs → GapNext cs') (ends : EndsBefore cs l) : EndsBefore cs' l := by
  cases relaid with
  | finish blank => exact (gaps (.of_blank blank)).boundary.endsBefore l
  | @lexeme gap gap' spelling spelling' rest rest' _ _ _ _ blank blank' spelled spelled' =>
    obtain ⟨same, _⟩ := List.forall₂_cons.1 texts
    -- Only where there is no gap in either text does the next spelling matter.
    by_cases opened : gap' = []
    · by_cases closed : gap = []
      · subst opened closed
        rcases spelled.eq_or_quote same spelled' with rfl | ⟨quote, more, rfl, isQuote⟩
        · refine ends.congr_head ?_
          obtain ⟨c, more, rfl⟩ := List.exists_cons_of_ne_nil spelled.ne_nil
          rfl
        · refine (boundary_cons (.inr ?_) ?_ _).endsBefore l
          all_goals rcases isQuote with rfl | rfl <;> decide
      · rw [List.append_assoc] at gaps
        exact (gaps (.of_gap blank closed)).boundary.endsBefore l
    · rw [List.append_assoc]
      exact (GapNext.of_gap blank' opened).boundary.endsBefore l

/-- The second text has its lexemes, too. -/
theorem row_second (relaid : Relaid cs ls cs' ls') (texts : List.Forall₂ SameText ls ls') : Row cs' ls' := by
  induction relaid with
  | finish _ blank' => exact .gap blank'
  | lexeme _ blank' _ spelled' ends gaps later ih =>
    obtain ⟨same, others⟩ := List.forall₂_cons.1 texts
    refine .lexeme blank' spelled' ?_ (ih others)
    cases same with
    | same => exact later.endsBefore others gaps ends
    | quoted => trivial

end Relaid

end Lexeme

open Lexeme

theorem Grammar.Requoted.sameText {ls ls' : List Lexeme} (requoted : Requoted ls ls') :
    List.Forall₂ SameText ls ls' := by
  have same (ls : List Lexeme) : List.Forall₂ SameText ls ls := List.forall₂_same.2 fun l _ => .same l
  induction requoted with
  | nil => exact .nil
  | keep l _ ih => exact .cons (.same l) ih
  | quote _ _ _ _ _ ih => exact .cons (.same _) (List.rel_append (same _) (.cons (.quoted _) ih))

/-- Layout and quotes do not matter. A text that is read remains the same filter if gaps are changed, but not closed, if
quoted texts are quoted otherwise, and if quotes are put around values that stand alone on fields that are no lists. -/
theorem Filter.read_relaid {s s' : String} {ls ls' : List Lexeme} {e : Filter} (read : Filter.read s = .ok e)
    (relaid : Relaid s.toList ls s'.toList ls') (requoted : Grammar.Requoted ls ls') : Filter.read s' = .ok e := by
  obtain ⟨ts, tokens, row⟩ := relaid.row_first.ofText
  obtain ⟨ts', tokens', row'⟩ := (relaid.row_second requoted.sameText).ofText
  have phrase := (Filter.read_eq_ok_iff tokens).1 read
  rw [row] at phrase
  refine (Filter.read_eq_ok_iff tokens').2 ?_
  rw [row']
  exact phrase.requoted requoted

/-- Gaps are opened and changed around each of the lexemes, a value is put in quotes, and a quoted text has the other quotes,
one of which it contains. -/
theorem Filter.read_relaid_apostrophe :
    let e : Filter := ⟨[⟨[⟨.done, .equal, .one (.bool true)⟩, ⟨.title, .equal, .one (.str "it's")⟩], .and⟩], .and⟩
    Filter.read "done= TRUE&&title = \"it's\"" = .ok e ∧
      Filter.read "\ndone =\t\"TRUE\" &&title\t= 'it\\'s'" = .ok e := by
  intro e
  have found : Filter.read "done= TRUE&&title = \"it's\"" = .ok e := by decide +kernel
  have none : ∀ c ∈ [], c ∈ gapCharacters := List.forall_mem_nil _
  have blank : ∀ c ∈ [' '], c ∈ gapCharacters := forall_mem_of_all (by decide)
  have tab : ∀ c ∈ ['\t'], c ∈ gapCharacters := forall_mem_of_all (by decide)
  have line : ∀ c ∈ ['\n'], c ∈ gapCharacters := forall_mem_of_all (by decide)
  have done : Spelled (.word "done") "done".toList := .word (by decide) (forall_mem_of_all (by decide))
  have title : Spelled (.word "title") "title".toList := .word (by decide) (forall_mem_of_all (by decide))
  have truth : Spelled (.word "TRUE") "TRUE".toList := .word (by decide) (forall_mem_of_all (by decide))
  have equal : Spelled (.comparison .equal) ['='] := .comparison (by decide) (by decide) (by decide)
  -- The second condition, then the sign in front of it, then the first condition, each from its end.
  have text := Relaid.lexeme blank blank (.ofQuote (.inl rfl) "it's") (.ofQuote (.inr rfl) "it's") trivial id
    (.finish none none)
  have second := Relaid.lexeme none none title title (by decide) (by decide)
    (.lexeme blank tab equal equal (by decide) (by decide) text)
  have joined := Relaid.lexeme none blank (.joiner .and) (.joiner .and) trivial (by decide) second
  have value := Relaid.lexeme blank tab truth (.ofQuote (.inl rfl) "TRUE") (by decide) (by decide) joined
  have relaid := Relaid.lexeme none line done done (by decide) (by decide)
    (.lexeme none blank equal equal (by decide) (by decide) value)
  have same := Grammar.Requoted.refl [.joiner .and, .word "title", .comparison .equal, .quoted "it's"]
  have named : Field.ofName? "done" = some .done := rfl
  exact ⟨found, Filter.read_relaid found relaid (.quote named (by decide) (.sign .equal) (by decide) same)⟩

end TaskQuery
