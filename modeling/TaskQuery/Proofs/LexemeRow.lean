import TaskQuery.Proofs.Layout

namespace TaskQuery

namespace Lexeme

/-- A text, and the lexemes that are spelled in it with gaps before, between and behind them. -/
inductive Row : List Char → List Lexeme → Prop
  | gap {cs : List Char} : (∀ c ∈ cs, c ∈ gapCharacters) → Row cs []
  | lexeme {gap spelling rest : List Char} {l : Lexeme} {ls : List Lexeme} : (∀ c ∈ gap, c ∈ gapCharacters) →
      Spelled l spelling → EndsBefore rest l → Row rest ls → Row (gap ++ spelling ++ rest) (l :: ls)

/-- Whether every lexeme ends before `rest`. -/
def Boundary (rest : List Char) : Prop :=
  ∀ c ∈ rest.head?, (c ∈ gapCharacters ∨ c ∈ signCharacters) ∧ c ≠ '='

theorem boundary_nil : Boundary [] := by
  intro c head
  cases head

theorem boundary_cons {c : Char} (ends : c ∈ gapCharacters ∨ c ∈ signCharacters) (different : c ≠ '=')
    (rest : List Char) : Boundary (c :: rest) := by
  intro d head
  cases head
  exact ⟨ends, different⟩

theorem Boundary.endsBefore {rest : List Char} (boundary : Boundary rest) (l : Lexeme) : EndsBefore rest l := by
  have noEquals : rest.head? ≠ some '=' := fun head => (boundary '=' head).2 rfl
  cases l with
  | word => exact fun c head => (boundary c head).1
  | comparison op => cases op <;> first | exact noEquals | trivial
  | _ => trivial

theorem EndsBefore.append {rest more : List Char} {l : Lexeme} (ends : EndsBefore rest l) (boundary : Boundary more) :
    EndsBefore (rest ++ more) l := by
  cases rest with
  | nil => exact boundary.endsBefore l
  | cons c rest =>
    cases l with
    | comparison op => cases op <;> exact ends
    | _ => exact ends

theorem EndsBefore.of_append {rest more : List Char} {l : Lexeme} (ends : EndsBefore (rest ++ more) l) :
    EndsBefore rest l := by
  cases rest with
  | nil => exact boundary_nil.endsBefore l
  | cons c rest =>
    cases l with
    | comparison op => cases op <;> exact ends
    | _ => exact ends

namespace Row

variable {cs rest : List Char} {ls ms : List Lexeme}

theorem cons_gap {c : Char} (isGap : c ∈ gapCharacters) (row : Row cs ls) : Row (c :: cs) ls := by
  cases row with
  | gap blank => exact .gap (List.forall_mem_cons.2 ⟨isGap, blank⟩)
  | lexeme blank spelled ends later => exact .lexeme (List.forall_mem_cons.2 ⟨isGap, blank⟩) spelled ends later

theorem gap_append {gap : List Char} (blank : ∀ c ∈ gap, c ∈ gapCharacters) (row : Row cs ls) : Row (gap ++ cs) ls := by
  cases row with
  | gap others => exact .gap (List.forall_mem_append.2 ⟨blank, others⟩)
  | lexeme others spelled ends later =>
    rw [List.append_assoc, ← List.append_assoc, ← List.append_assoc]
    exact .lexeme (List.forall_mem_append.2 ⟨blank, others⟩) spelled ends later

theorem cons {l : Lexeme} {spelling : List Char} (row : Row rest ls) (spelled : Spelled l spelling)
    (ends : EndsBefore rest l) : Row (spelling ++ rest) (l :: ls) := by
  have noGap : ∀ c ∈ [], c ∈ gapCharacters := List.forall_mem_nil _
  exact .lexeme noGap spelled ends row

theorem single {l : Lexeme} {spelling : List Char} (spelled : Spelled l spelling) : Row spelling [l] := by
  have nothing : Row [] [] := .gap (List.forall_mem_nil _)
  have row := nothing.cons spelled (boundary_nil.endsBefore l)
  rwa [List.append_nil] at row

theorem append (row : Row cs ls) (boundary : Boundary rest) (later : Row rest ms) : Row (cs ++ rest) (ls ++ ms) := by
  induction row with
  | gap blank => exact later.gap_append blank
  | lexeme blank spelled ends _ ih =>
    rw [List.append_assoc]
    exact .lexeme blank spelled (ends.append boundary) ih

/-- The tokens of a text are its row, each at some position. -/
theorem layout (row : Row cs ls) (position : Nat) :
    ∃ ts finish, Token.Layout position cs ts finish ∧ ts.map Token.lexeme = ls := by
  induction row generalizing position with
  | gap blank => exact ⟨[], _, .finish blank, rfl⟩
  | @lexeme gap spelling rest l ls blank spelled ends _ ih =>
    obtain ⟨ts, finish, later, same⟩ := ih (position + gap.length + spelling.length)
    exact ⟨_, finish, .token blank spelled ends later, congrArg (l :: ·) same⟩

theorem ofText {s : String} (row : Row s.toList ls) : ∃ ts, Token.ofText s = .ok ts ∧ ts.map Token.lexeme = ls := by
  obtain ⟨ts, _, layout, same⟩ := row.layout 0
  exact ⟨ts, layout.ofChars, same⟩

end Row

end Lexeme

/-- What the tokens of a text are is a row of it. -/
theorem Token.Layout.row {position finish : Nat} {cs : List Char} {ts : List Token}
    (layout : Layout position cs ts finish) : Lexeme.Row cs (ts.map lexeme) := by
  induction layout with
  | finish blank => exact .gap blank
  | token blank spelled ends _ ih => exact .lexeme blank spelled ends ih

end TaskQuery
