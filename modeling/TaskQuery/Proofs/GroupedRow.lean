import TaskQuery.Proofs.Folding
import TaskQuery.Proofs.GrammarReading
import TaskQuery.Proofs.LexemeRow

namespace TaskQuery

/-- The group that its conditions are read as where they stand in brackets. -/
def Group.inBrackets {γ : Type} (g : Group γ) : Group γ :=
  if g.conditions.length = 1 then { g with joiner := .and } else g

/-- The expression with its groups as they are read in brackets. -/
def Expression.inBrackets {γ : Type} (e : Expression γ) : Expression γ :=
  { e with groups := e.groups.map Group.inBrackets }

section Verdicts

variable {γ : Type}

theorem Group.conditions_inBrackets (g : Group γ) : g.inBrackets.conditions = g.conditions := by
  unfold inBrackets
  split <;> rfl

theorem Group.joiner_inBrackets {g : Group γ} (several : g.conditions.length ≠ 1) : g.inBrackets.joiner = g.joiner := by
  rw [inBrackets, if_neg several]

theorem Joiner.pass_singleton {α : Type} (j : Joiner) (test : α → Except Fault Bool) (a : α) :
    j.pass test [a] = test a := by
  cases passes : test a with
  | error fault => cases j <;> simp [pass, allPass, somePass, passes, bind, Except.bind]
  | ok b => cases j <;> cases b <;> simp [pass, allPass, somePass, passes, bind, Except.bind, pure, Except.pure]

theorem Group.pass_inBrackets (test : γ → Except Fault Bool) (g : Group γ) :
    g.inBrackets.joiner.pass test g.inBrackets.conditions = g.joiner.pass test g.conditions := by
  by_cases single : g.conditions.length = 1
  · obtain ⟨c, only⟩ := List.length_eq_one_iff.1 single
    rw [g.conditions_inBrackets, only, Joiner.pass_singleton, Joiner.pass_singleton]
  · rw [inBrackets, if_neg single]

theorem Joiner.pass_map {α β : Type} (j : Joiner) (test : β → Except Fault Bool) (f : α → β) (as : List α) :
    j.pass test (as.map f) = j.pass (fun a => test (f a)) as := by
  induction as with
  | nil => cases j <;> rfl
  | cons a as ih => cases j <;> exact bind_congr fun passes => by cases passes <;> first | rfl | exact ih

/-- Brackets around the groups do not change a verdict, and no fault. -/
theorem Expression.pass_inBrackets (test : γ → Except Fault Bool) (e : Expression γ) :
    e.inBrackets.pass test = e.pass test := by
  rw [pass, inBrackets, Joiner.pass_map]
  simp only [Group.pass_inBrackets]
  rfl

theorem Filter.holds_inBrackets (now : Timestamp) (e : Filter) (task : Value) :
    Expression.holds now e.inBrackets task = e.holds now task :=
  e.pass_inBrackets _

end Verdicts

namespace Grammar

section Runs

variable (admitted : Nat → Prop)

/-- The conditions of a group, in order, with its joiner between any two neighbours. -/
inductive GroupRun : List Lexeme → Group Condition → Prop
  | run {ls more : List Lexeme} {c : Condition} {steps : List (Joiner × Condition)} {j : Joiner} :
      ConditionPhrase admitted ls c → Further (ConditionPhrase admitted) more steps →
      (∀ k ∈ steps.map Prod.fst, k = j) → GroupRun (ls ++ more) ⟨c :: steps.map Prod.snd, j⟩

end Runs

/-- A row in round brackets. -/
def bracketRow (ls : List Lexeme) : List Lexeme :=
  .openGroup :: (ls ++ [.closeGroup])

/-- Rows in round brackets, each behind a joiner. -/
def furtherRows (j : Joiner) (rows : List (List Lexeme)) : List Lexeme :=
  rows.flatMap fun ls => .joiner j :: bracketRow ls

variable {admitted : Nat → Prop}

theorem GroupRun.element {ls : List Lexeme} {g : Group Condition} (run : GroupRun admitted ls g) :
    ElementPhrase admitted (bracketRow ls) (.group g.inBrackets) := by
  cases run with
  | @run ls more c steps j first further uniform =>
    rw [bracketRow, List.append_assoc]
    by_cases alone : steps = []
    · subst alone
      exact .group first further ⟨List.forall_mem_nil _, fun _ => rfl⟩
    · have several : (c :: steps.map Prod.snd).length ≠ 1 := by
        rw [List.length_cons, List.length_map]
        exact fun single => alone (List.eq_nil_of_length_eq_zero (Nat.succ.inj single))
      rw [Group.inBrackets, if_neg several]
      exact .group first further ⟨uniform, fun none => absurd (List.map_eq_nil_iff.1 none) alone⟩

/-- Phrases with one joiner in front of each of them. -/
theorem Further.uniform {α β : Type} {phrase : List Lexeme → β → Prop} {row : α → List Lexeme} {value : α → β} {as : List α}
    (j : Joiner) (phrases : ∀ a ∈ as, phrase (row a) (value a)) :
    Further phrase (as.flatMap fun a => .joiner j :: row a) (as.map fun a => (j, value a)) := by
  induction as with
  | nil => exact .nil
  | cons a as ih =>
    obtain ⟨here, others⟩ := List.forall_mem_cons.1 phrases
    exact .cons here (ih others)

/-- Groups in brackets with one joiner between them are read as a filter of these groups; the joiner of a group alone is
*and*. -/
theorem grouped_phrase {α : Type} {row : α → List Lexeme} {group : α → Group Condition} {a : α} {as : List α} (j : Joiner)
    (runs : ∀ b ∈ a :: as, GroupRun admitted (row b) (group b)) :
    FilterPhrase admitted (bracketRow (row a) ++ furtherRows j (as.map row))
      ⟨(a :: as).map fun b => (group b).inBrackets, if as = [] then .and else j⟩ := by
  obtain ⟨first, later⟩ := List.forall_mem_cons.1 runs
  let steps : List (Joiner × Element) := as.map fun b => (j, .group (group b).inBrackets)
  have further : Further (ElementPhrase admitted) (furtherRows j (as.map row)) steps := by
    rw [furtherRows, List.flatMap_map]
    exact .uniform j fun b member => (later b member).element
  have joiner : Throughout (steps.map Prod.fst) (if as = [] then .and else j) := by
    refine ⟨List.forall_mem_map.2 (List.forall_mem_map.2 fun b member => ?_), fun none => ?_⟩
    · rw [if_neg (List.ne_nil_of_mem member)]
    · rw [if_pos (List.map_eq_nil_iff.1 (List.map_eq_nil_iff.1 none))]
  have phrase := FilterPhrase.grouped first.element further List.mem_cons_self joiner
  have groups : (.group (group a).inBrackets :: steps.map Prod.snd).map Reading.Element.toGroup =
      (a :: as).map fun b => (group b).inBrackets := by
    simp only [steps, List.map_cons, List.map_map]
    rfl
  rwa [groups] at phrase

/-- A filter without an opening bracket is a run of conditions, folded. -/
theorem FilterPhrase.flat_of_noBracket {ls : List Lexeme} {e : Filter} (phrase : FilterPhrase admitted ls e)
    (plain : Lexeme.openGroup ∉ ls) :
    ∃ first more c steps, ls = first ++ more ∧ ConditionPhrase admitted first c ∧
      Further (ConditionPhrase admitted) more steps ∧
      e = Expression.fold (c :: steps.map Prod.snd) (steps.map Prod.fst) := by
  cases phrase with
  | flat first further => exact ⟨_, _, _, _, rfl, first, further, rfl⟩
  | @grouped ls more e steps g j first further grouped _ =>
    have opens {row : List Lexeme} (element : ElementPhrase admitted row (.group g)) : Lexeme.openGroup ∈ row := by
      cases element
      exact List.mem_cons_self
    have found {more : List Lexeme} {steps : List (Joiner × Element)}
        (further : Further (ElementPhrase admitted) more steps) (member : .group g ∈ steps.map Prod.snd) :
        Lexeme.openGroup ∈ more := by
      induction further with
      | nil => cases member
      | cons element _ ih =>
        refine List.mem_cons_of_mem _ (List.mem_append.2 ?_)
        rcases List.mem_cons.1 member with rfl | later
        · exact .inl (opens element)
        · exact .inr (ih later)
    refine absurd (List.mem_append.2 ?_) plain
    rcases List.mem_cons.1 grouped with rfl | later
    · exact .inl (opens first)
    · exact .inr (found further later)

end Grammar

open Grammar Lexeme

namespace Lexeme

theorem Boundary.gap_append {gap rest : List Char} (blank : ∀ c ∈ gap, c ∈ gapCharacters) (boundary : Boundary rest) :
    Boundary (gap ++ rest) := by
  cases gap with
  | nil => exact boundary
  | cons c gap =>
    have isGap := blank c List.mem_cons_self
    refine boundary_cons (.inl isGap) (fun equals => ?_) _
    rw [equals] at isGap
    exact absurd isGap (by decide)

theorem boundary_joiner (j : Joiner) (rest : List Char) : Boundary (j.symbol.toList ++ rest) := by
  cases j <;> exact boundary_cons (.inr (by decide)) (by decide) _

namespace Row

/-- Rows with one joiner between any two of them, with the same gap on both sides of it. -/
theorem joined {α : Type} {text : α → List Char} {row : α → List Lexeme} {gap : List Char} (j : Joiner)
    (blank : ∀ c ∈ gap, c ∈ gapCharacters) {a : α} {as : List α} (rows : ∀ b ∈ a :: as, Row (text b) (row b)) :
    Row ((gap ++ (j.symbol.toList ++ gap)).intercalate ((a :: as).map text))
      (row a ++ as.flatMap fun b => .joiner j :: row b) := by
  induction as generalizing a with
  | nil =>
    rw [List.map_singleton, List.intercalate_singleton, List.flatMap_nil, List.append_nil]
    exact rows a List.mem_cons_self
  | cons b as ih =>
    obtain ⟨first, later⟩ := List.forall_mem_cons.1 rows
    have behind := ((ih later).gap_append blank).cons (.joiner j) trivial
    have joined := first.append ((boundary_joiner j _).gap_append blank) (behind.gap_append blank)
    rw [List.map_cons, List.map_cons, List.intercalate_cons_cons, List.flatMap_cons]
    simpa only [List.append_assoc, List.cons_append, List.map_cons] using joined

end Row

end Lexeme

/-- A row in brackets, written in front of another row. -/
theorem Lexeme.Row.brackets {cs rest : List Char} {ls ms : List Lexeme} (row : Row cs ls) (later : Row rest ms) :
    Row ('(' :: (cs ++ ')' :: rest)) (bracketRow ls ++ ms) := by
  have closing : Row (')' :: rest) (.closeGroup :: ms) := later.cons .closeGroup trivial
  have inside := row.append (boundary_cons (.inr (by decide)) (by decide) rest) closing
  have whole : Row ('(' :: (cs ++ ')' :: rest)) (.openGroup :: (ls ++ .closeGroup :: ms)) := inside.cons .openGroup trivial
  rwa [bracketRow, List.cons_append, List.append_assoc]

theorem Lexeme.Row.bracketed {cs : List Char} {ls : List Lexeme} (row : Row cs ls) :
    Row ('(' :: (cs ++ [')'])) (bracketRow ls) := by
  have nothing : Row [] [] := .gap (List.forall_mem_nil _)
  have brackets := row.brackets nothing
  rwa [List.append_nil] at brackets

/-- Rows in brackets, with one joiner between any two of them. -/
theorem Lexeme.Row.grouped {α : Type} {text : α → List Char} {row : α → List Lexeme} {gap : List Char} (j : Joiner)
    (blank : ∀ c ∈ gap, c ∈ gapCharacters) {a : α} {as : List α} (rows : ∀ b ∈ a :: as, Row (text b) (row b)) :
    Row ((gap ++ (j.symbol.toList ++ gap)).intercalate ((a :: as).map fun b => '(' :: (text b ++ [')'])))
      (bracketRow (row a) ++ furtherRows j (as.map row)) := by
  rw [furtherRows, List.flatMap_map]
  exact .joined j blank fun b member => (rows b member).bracketed

end TaskQuery
