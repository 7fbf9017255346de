import Mathlib.Data.List.Forall2
import TaskQuery.Proofs.GroupedRow

namespace TaskQuery

def Lexeme.isJoiner : Lexeme → Bool
  | joiner _ => true
  | _ => false

namespace Token

def isJoiner (t : Token) : Bool :=
  t.lexeme.isJoiner

/-- The position behind a token of a text, where its lexeme ends. -/
def stop (cs : List Char) (t : Token) : Nat :=
  match cs.drop t.position with
  | [] => t.position
  | c :: behind =>
    match Lexeme.read t.position c behind with
    | .ok (_, rest) => t.position + (behind.length + 1 - rest.length)
    | .error _ => t.position

/-- Brackets for a text, and their positions: before the first of some tokens of it, and behind the last one. -/
def bracketMarks (cs : List Char) (ts : List Token) : List (Nat × Char) :=
  [((ts.head?.map position).getD 0, '('), ((ts.getLast?.map (stop cs)).getD 0, ')')]

end Token

/-- A text from a position on, with further characters put in before given positions. -/
def insertMarks (position : Nat) (cs : List Char) : List (Nat × Char) → List Char
  | [] => cs
  | (place, mark) :: marks => cs.take (place - position) ++ mark :: insertMarks place (cs.drop (place - position)) marks

/-- The tokens of each group, where `rows` are the tokens of each condition. -/
def groupTokens : List (Group Condition) → List (List Token) → List (List Token)
  | [], _ => []
  | g :: gs, rows => (rows.take g.conditions.length).flatten :: groupTokens gs (rows.drop g.conditions.length)

/-- The text of a filter, whose tokens are given, with brackets around the tokens of each of its groups. -/
def Expression.bracketed (e : Filter) (s : String) (ts : List Token) : String :=
  String.ofList (insertMarks 0 s.toList
    ((groupTokens e.groups (ts.splitOnP Token.isJoiner)).flatMap (Token.bracketMarks s.toList)))

section Insertion

variable {position place : Nat} {cs : List Char} {mark : Char} {marks : List (Nat × Char)}

theorem insertMarks_here (xs cs : List Char) :
    insertMarks position (xs ++ cs) ((position + xs.length, mark) :: marks) =
      xs ++ mark :: insertMarks (position + xs.length) cs marks := by
  simp [insertMarks]

/-- What stands before the first mark stays as it is. -/
theorem insertMarks_later (xs cs : List Char) (later : position + xs.length ≤ place) :
    insertMarks position (xs ++ cs) ((place, mark) :: marks) =
      xs ++ insertMarks (position + xs.length) cs ((place, mark) :: marks) := by
  have beyond : xs.length ≤ place - position := by omega
  have rest : place - position - xs.length = place - (position + xs.length) := by omega
  rw [insertMarks, insertMarks, List.take_append, List.drop_append, List.take_of_length_le beyond,
    List.drop_of_length_le beyond, List.nil_append, rest, List.append_assoc]

end Insertion

open Grammar Lexeme

namespace Token

variable {position finish : Nat} {whole cs : List Char}

theorem drop_behind {xs : List Char} (here : whole.drop position = xs ++ cs) : whole.drop (position + xs.length) = cs := by
  rw [← List.drop_drop, here, List.drop_left]

theorem stop_spelled {t : Token} {spelling rest : List Char} (here : whole.drop t.position = spelling ++ rest)
    (spelled : Spelled t.lexeme spelling) (ends : EndsBefore rest t.lexeme) :
    t.stop whole = t.position + spelling.length := by
  obtain ⟨c, behind, split, _, read⟩ := spelled.read ends t.position
  have length := congrArg List.length split
  simp only [List.length_append, List.length_cons] at length
  have taken : behind.length + 1 - rest.length = spelling.length := by omega
  rw [stop, here, split]
  simp only [read, taken]

/-- The tokens at the front of a layout take a part of the text: a gap stands before it, it holds the row of these tokens,
and brackets for them stand at its ends. -/
theorem Layout.cut {used rest : List Token} (layout : Layout position cs (used ++ rest) finish) (nonempty : used ≠ [])
    (here : whole.drop position = cs) :
    ∃ gap body tail, cs = gap ++ (body ++ tail) ∧ (∀ c ∈ gap, c ∈ gapCharacters) ∧ Row body (used.map Token.lexeme) ∧
      Layout (position + gap.length + body.length) tail rest finish ∧
      whole.drop (position + gap.length + body.length) = tail ∧
      bracketMarks whole used = [(position + gap.length, '('), (position + gap.length + body.length, ')')] := by
  induction used generalizing position cs with
  | nil => exact absurd rfl nonempty
  | cons t used ih =>
    cases layout with
    | @token _ _ gap spelling behind lexeme _ blank spelled ends later =>
      rw [List.append_assoc] at here
      have atLexeme := drop_behind here
      have atBehind := drop_behind atLexeme
      cases used with
      | nil =>
        have stopped := stop_spelled (t := ⟨lexeme, position + gap.length⟩) atLexeme spelled ends
        refine ⟨gap, spelling, behind, List.append_assoc _ _ _, blank, .single spelled, later, atBehind, ?_⟩
        simp only [bracketMarks, List.head?_cons, List.getLast?_singleton, Option.map_some, Option.getD_some, stopped]
      | cons next used =>
        obtain ⟨inner, body, tail, rfl, innerBlank, row, after, atTail, marks⟩ :=
          ih later (List.cons_ne_nil _ _) atBehind
        have ends : EndsBefore (inner ++ body) lexeme := by
          rw [← List.append_assoc] at ends
          exact ends.of_append
        have end_eq : position + gap.length + (spelling ++ (inner ++ body)).length =
            position + gap.length + spelling.length + inner.length + body.length := by
          simp only [List.length_append]
          omega
        refine ⟨gap, spelling ++ (inner ++ body), tail, by simp only [List.append_assoc], blank,
          (row.gap_append innerBlank).cons spelled ends, ?_, ?_, ?_⟩
        · rwa [end_eq]
        · rwa [end_eq]
        · simp only [bracketMarks, List.cons.injEq, Prod.mk.injEq, and_true] at marks ⊢
          rw [end_eq, List.getLast?_cons_cons, marks.2]
          exact ⟨rfl, rfl⟩

/-- A row behind a joiner of a layout may be any other one. -/
theorem Layout.cut_joiner {j : Joiner} {place : Nat} {ts : List Token}
    (layout : Layout position cs (⟨.joiner j, place⟩ :: ts) finish) :
    ∃ front rest, cs = front ++ rest ∧ Layout (position + front.length) rest ts finish ∧
      ∀ {more ls}, Row more ls → Row (front ++ more) (.joiner j :: ls) := by
  cases layout with
  | @token _ _ gap spelling rest _ _ blank spelled _ later =>
    refine ⟨gap ++ spelling, rest, rfl, ?_, fun row => .lexeme blank spelled trivial row⟩
    rwa [List.length_append, ← Nat.add_assoc]

end Token

namespace Grammar

/-- Tokens of groups with one joiner between them: the tokens of each group, and the group. -/
inductive Grouping (admitted : Nat → Prop) (between : Joiner) : List Token → List (List Token × Group Condition) → Prop
  | last {ts : List Token} {g : Group Condition} : GroupRun admitted (ts.map Token.lexeme) g →
      Grouping admitted between ts [(ts, g)]
  | cons {ts more : List Token} {position : Nat} {g : Group Condition} {parts : List (List Token × Group Condition)} :
      GroupRun admitted (ts.map Token.lexeme) g → Grouping admitted between more parts →
      Grouping admitted between (ts ++ ⟨.joiner between, position⟩ :: more) ((ts, g) :: parts)

variable {admitted : Nat → Prop} {between : Joiner}

section Joiners

theorem Item.noJoiner {l : Lexeme} {v : Value} (item : Item admitted l v) : l.isJoiner = false := by
  cases item <;> rfl

theorem Items.noJoiner {ls : List Lexeme} {vs : List Value} (items : Items admitted ls vs) :
    ∀ l ∈ ls, l.isJoiner = false := by
  induction items with
  | last item => exact List.forall_mem_singleton.2 item.noJoiner
  | cons item _ ih => exact List.forall_mem_cons.2 ⟨item.noJoiner, List.forall_mem_cons.2 ⟨rfl, ih⟩⟩

theorem Literal.noJoiner {l : Lexeme} {s : String} (literal : Literal l s) : l.isJoiner = false := by
  cases literal <;> rfl

/-- No joiner stands inside a condition. -/
theorem ConditionPhrase.noJoiner {ls : List Lexeme} {c : Condition} (phrase : ConditionPhrase admitted ls c) :
    ∀ l ∈ ls, l.isJoiner = false := by
  cases phrase with
  | condition _ operator value =>
    refine List.forall_mem_cons.2 ⟨rfl, List.forall_mem_append.2 ⟨?_, ?_⟩⟩
    · cases operator with
      | notIn => exact List.forall_mem_cons.2 ⟨rfl, List.forall_mem_singleton.2 rfl⟩
      | _ => exact List.forall_mem_singleton.2 rfl
    · cases value with
      | emptyList => exact List.forall_mem_cons.2 ⟨rfl, List.forall_mem_singleton.2 rfl⟩
      | list items =>
        exact List.forall_mem_cons.2 ⟨rfl, List.forall_mem_append.2 ⟨items.noJoiner, List.forall_mem_singleton.2 rfl⟩⟩
      | bareList _ item items =>
        exact List.forall_mem_cons.2 ⟨item.noJoiner, List.forall_mem_cons.2 ⟨rfl, items.noJoiner⟩⟩
      | scalar scalar =>
        obtain ⟨s, literal⟩ := scalar.literal
        exact List.forall_mem_singleton.2 literal.noJoiner

theorem noJoiner_tokens {ts : List Token} (none : ∀ l ∈ ts.map Token.lexeme, l.isJoiner = false) :
    ∀ t ∈ ts, t.isJoiner = false :=
  List.forall_mem_map.1 none

theorem length_splitOnP_further {ls : List Lexeme} {steps : List (Joiner × Condition)}
    (further : Further (ConditionPhrase admitted) ls steps) {first later : List Token}
    (plain : ∀ t ∈ first, t.isJoiner = false) (same : later.map Token.lexeme = ls) :
    ((first ++ later).splitOnP Token.isJoiner).length = steps.length + 1 := by
  induction further generalizing first later with
  | nil =>
    cases List.map_eq_nil_iff.1 same
    rw [List.append_nil, List.splitOnP_eq_singleton plain]
    rfl
  | @cons ls more j c steps phrase further ih =>
    obtain ⟨t, behind, rfl, joiner, sameBehind⟩ := List.map_eq_cons_iff.1 same
    obtain ⟨next, later, rfl, rfl, rfl⟩ := List.map_eq_append_iff.1 sameBehind
    have parts : t.isJoiner = true := by
      rw [Token.isJoiner, joiner]
      rfl
    rw [List.splitOnP_append_cons_of_forall_mem plain t parts, List.length_cons,
      ih (noJoiner_tokens phrase.noJoiner) rfl, List.length_cons]

/-- The joiners of a group part its tokens into those of its conditions. -/
theorem GroupRun.length_splitOnP {ts : List Token} {g : Group Condition}
    (run : GroupRun admitted (ts.map Token.lexeme) g) : (ts.splitOnP Token.isJoiner).length = g.conditions.length := by
  generalize row : ts.map Token.lexeme = ls at run
  cases run with
  | run phrase further =>
    obtain ⟨first, later, rfl, rfl, same⟩ := List.map_eq_append_iff.1 row
    rw [length_splitOnP_further further (noJoiner_tokens phrase.noJoiner) same, List.length_cons, List.length_map]

theorem ConditionPhrase.exists_concat {ls : List Lexeme} {c : Condition} (phrase : ConditionPhrase admitted ls c) :
    ∃ front l, ls = front ++ [l] ∧ l.isJoiner = false := by
  obtain ⟨name, more, _, rfl, _⟩ := phrase.front
  have nonempty := List.cons_ne_nil (Lexeme.word name) more
  exact ⟨_, _, (List.dropLast_concat_getLast nonempty).symm, phrase.noJoiner _ (List.getLast_mem nonempty)⟩

theorem Further.exists_concat {ls more : List Lexeme} {c : Condition} {steps : List (Joiner × Condition)}
    (further : Further (ConditionPhrase admitted) more steps) (phrase : ConditionPhrase admitted ls c) :
    ∃ front l, ls ++ more = front ++ [l] ∧ l.isJoiner = false := by
  induction further generalizing ls c with
  | nil =>
    rw [List.append_nil]
    exact phrase.exists_concat
  | @cons next more j d steps phrase' _ ih =>
    obtain ⟨front, l, concat, plain⟩ := ih phrase'
    exact ⟨ls ++ .joiner j :: front, l, by simp [concat], plain⟩

end Joiners

end Grammar

theorem flatten_splitOnP {α : Type} (p : α → Bool) (as : List α) :
    (as.splitOnP p).flatten = as.filter fun a => !p a := by
  induction as with
  | nil => rfl
  | cons a as ih =>
    obtain ⟨first, later, split⟩ := List.exists_cons_of_ne_nil (List.splitOnP_ne_nil p as)
    rw [List.splitOnP_cons_eq_if_modifyHead, List.filter_cons, ← ih, split]
    cases p a <;> rfl

namespace Grammar

variable {admitted : Nat → Prop} {between : Joiner} {whole : List Char}

/-- A group begins and ends with tokens of its conditions. -/
theorem GroupRun.bracketMarks {ts : List Token} {g : Group Condition} (run : GroupRun admitted (ts.map Token.lexeme) g) :
    Token.bracketMarks whole (ts.splitOnP Token.isJoiner).flatten = Token.bracketMarks whole ts := by
  have ends : (∃ t, ts.head? = some t ∧ t.isJoiner = false) ∧ ∃ t, ts.getLast? = some t ∧ t.isJoiner = false := by
    generalize row : ts.map Token.lexeme = ls at run
    cases run with
    | run phrase further =>
      constructor
      · obtain ⟨name, more, _, rfl, _⟩ := phrase.front
        obtain ⟨t, behind, rfl, word, _⟩ := List.map_eq_cons_iff.1 row
        exact ⟨t, rfl, by rw [Token.isJoiner, word]; rfl⟩
      · obtain ⟨front, l, concat, plain⟩ := further.exists_concat phrase
        obtain ⟨before, last, rfl, _, same⟩ := List.map_eq_append_iff.1 (row.trans concat)
        obtain ⟨t, rfl, rfl⟩ := List.map_eq_singleton_iff.1 same
        exact ⟨t, List.getLast?_concat, plain⟩
  obtain ⟨⟨t, head, headPlain⟩, u, last, lastPlain⟩ := ends
  have sameHead : (ts.filter fun t => !t.isJoiner).head? = some t := by
    obtain ⟨behind, rfl⟩ := List.head?_eq_some_iff.1 head
    simp [headPlain]
  have sameLast : (ts.filter fun t => !t.isJoiner).getLast? = some u := by
    obtain ⟨before, rfl⟩ := List.getLast?_eq_some_iff.1 last
    simp [lastPlain]
  rw [flatten_splitOnP, Token.bracketMarks, Token.bracketMarks, sameHead, sameLast, head, last]

theorem GroupRun.ne_nil {ts : List Token} {g : Group Condition} (run : GroupRun admitted (ts.map Token.lexeme) g) :
    ts ≠ [] := by
  rintro rfl
  generalize row : ([] : List Token).map Token.lexeme = ls at run
  cases run with
  | run phrase =>
    obtain ⟨name, more, _, rfl, _⟩ := phrase.front
    cases row

theorem isJoiner_joiner {position : Nat} : (⟨.joiner between, position⟩ : Token).isJoiner = true := rfl

/-- The tokens of each group are found from its number of conditions. -/
theorem Grouping.groupTokens {ts : List Token} {parts : List (List Token × Group Condition)}
    (grouping : Grouping admitted between ts parts) :
    (groupTokens (parts.map Prod.snd) (ts.splitOnP Token.isJoiner)).flatMap (Token.bracketMarks whole) =
      (parts.map Prod.fst).flatMap (Token.bracketMarks whole) := by
  induction grouping with
  | last run =>
    simp only [List.map_cons, List.map_nil, TaskQuery.groupTokens, List.flatMap_cons, List.flatMap_nil,
      ← run.length_splitOnP, List.take_length, run.bracketMarks]
  | cons run _ ih =>
    rw [List.splitOnP_append_cons _ _ isJoiner_joiner, List.map_cons, TaskQuery.groupTokens, ← run.length_splitOnP,
      List.take_left, List.drop_left, List.flatMap_cons, run.bracketMarks, ih]
    rfl

theorem Grouping.runs {ts : List Token} {parts : List (List Token × Group Condition)}
    (grouping : Grouping admitted between ts parts) :
    ∀ part ∈ parts, GroupRun admitted (part.1.map Token.lexeme) part.2 := by
  induction grouping with
  | last run => exact List.forall_mem_singleton.2 run
  | cons run _ ih => exact List.forall_mem_cons.2 ⟨run, ih⟩

/-- With brackets around its groups, a text holds their rows in brackets, one after the other. -/
theorem Grouping.row {ts : List Token} {parts : List (List Token × Group Condition)}
    (grouping : Grouping admitted between ts parts) {position finish : Nat} {cs : List Char}
    (layout : Token.Layout position cs ts finish) (here : whole.drop position = cs) :
    ∃ first g later place marks, parts = (first, g) :: later ∧
      (parts.map Prod.fst).flatMap (Token.bracketMarks whole) = (place, '(') :: marks ∧ position ≤ place ∧
      Lexeme.Row (insertMarks position cs ((place, '(') :: marks))
        (bracketRow (first.map Token.lexeme) ++ furtherRows between (later.map fun part => part.1.map Token.lexeme)) := by
  induction grouping generalizing position cs with
  | @last ts g run =>
    rw [← List.append_nil ts] at layout
    obtain ⟨gap, body, tail, rfl, blank, row, after, _, marks⟩ := layout.cut run.ne_nil here
    refine ⟨ts, g, [], _, _, rfl, by rw [List.map_singleton, List.flatMap_singleton, marks], Nat.le_add_right _ _, ?_⟩
    rw [insertMarks_here, insertMarks_here]
    exact (row.brackets after.row).gap_append blank
  | cons run _ ih =>
    obtain ⟨gap, body, tail, rfl, blank, row, after, atTail, marks⟩ := layout.cut run.ne_nil here
    obtain ⟨front, rest, rfl, later, joined⟩ := after.cut_joiner
    obtain ⟨next, h, others, place, found, rfl, sameMarks, beyond, laterRow⟩ := ih later (Token.drop_behind atTail)
    refine ⟨_, _, _, position + gap.length, (position + gap.length + body.length, ')') :: (place, '(') :: found, rfl, ?_,
      Nat.le_add_right _ _, ?_⟩
    · rw [List.map_cons, List.flatMap_cons, marks, sameMarks]
      rfl
    · rw [insertMarks_here, insertMarks_here, insertMarks_later front rest beyond]
      exact (row.brackets (joined laterRow)).gap_append blank

theorem Further.concat {α : Type} {phrase : List Lexeme → α → Prop} {ls more : List Lexeme} {steps : List (Joiner × α)}
    {j : Joiner} {a : α} (further : Further phrase ls steps) (last : phrase more a) :
    Further phrase (ls ++ .joiner j :: more) (steps ++ [(j, a)]) := by
  induction further with
  | nil =>
    have one : Further phrase (.joiner j :: (more ++ [])) [(j, a)] := .cons last .nil
    rwa [List.append_nil] at one
  | cons first _ ih =>
    rw [List.cons_append, List.append_assoc]
    exact .cons first ih

theorem GroupRun.single {ls : List Lexeme} {c : Condition} (phrase : ConditionPhrase admitted ls c) (j : Joiner) :
    GroupRun admitted ls ⟨[c], j⟩ := by
  have run : GroupRun admitted (ls ++ []) ⟨[c], j⟩ := .run phrase .nil (List.forall_mem_nil _)
  rwa [List.append_nil] at run

theorem GroupRun.concat {ls more : List Lexeme} {cs : List Condition} {c : Condition} {j : Joiner}
    (run : GroupRun admitted ls ⟨cs, j⟩) (phrase : ConditionPhrase admitted more c) :
    GroupRun admitted (ls ++ .joiner j :: more) ⟨cs ++ [c], j⟩ := by
  cases run with
  | @run first later d steps _ front further uniform =>
    have longer : ∀ k ∈ (steps ++ [(j, c)]).map Prod.fst, k = j := by
      rw [List.map_append]
      exact List.forall_mem_append.2 ⟨uniform, List.forall_mem_singleton.2 rfl⟩
    have run := GroupRun.run front (further.concat (j := j) phrase) longer
    rwa [List.map_append, ← List.cons_append, ← List.append_assoc] at run

/-- The tokens of a run are those of the groups of its fold, with the other joiner between them; `sofar` are the tokens of
the group that the run begins with. -/
theorem exists_grouping {inner : Joiner} {ls : List Lexeme} {steps : List (Joiner × Condition)}
    (further : Further (ConditionPhrase admitted) ls steps) {sofar later : List Token} {current : List Condition}
    (run : GroupRun admitted (sofar.map Token.lexeme) ⟨current.reverse, inner⟩) (same : later.map Token.lexeme = ls) :
    ∃ parts, Grouping admitted inner.other (sofar ++ later) parts ∧
      parts.map Prod.snd = (Expression.runs inner current steps).map fun run => ⟨run, inner⟩ := by
  induction further generalizing sofar later current with
  | nil =>
    cases List.map_eq_nil_iff.1 same
    rw [List.append_nil]
    exact ⟨_, .last run, rfl⟩
  | @cons ls more j c steps phrase _ ih =>
    obtain ⟨⟨l, position⟩, behind, rfl, rfl, sameBehind⟩ := List.map_eq_cons_iff.1 same
    obtain ⟨next, later, rfl, rfl, sameLater⟩ := List.map_eq_append_iff.1 sameBehind
    by_cases inside : j = inner
    · subst inside
      have grown : GroupRun admitted ((sofar ++ ⟨.joiner j, position⟩ :: next).map Token.lexeme)
          ⟨(c :: current).reverse, j⟩ := by
        rw [List.map_append, List.reverse_cons]
        exact run.concat phrase
      obtain ⟨parts, grouping, groups⟩ := ih grown sameLater
      rw [List.append_assoc] at grouping
      exact ⟨parts, grouping, by simpa [Expression.runs] using groups⟩
    · have alone : GroupRun admitted (next.map Token.lexeme) ⟨[c].reverse, inner⟩ := .single phrase inner
      obtain ⟨parts, grouping, groups⟩ := ih alone sameLater
      refine ⟨(sofar, ⟨current.reverse, inner⟩) :: parts, ?_, ?_⟩
      · rw [Joiner.eq_other_of_ne inside]
        exact .cons run grouping
      · rw [List.map_cons, groups, Expression.runs, if_neg inside]
        rfl

end Grammar

theorem Expression.runs_eq_singleton_iff {γ : Type} {inner : Joiner} {first : γ} {steps : List (Joiner × γ)} :
    (∃ run, runs inner [first] steps = [run]) ↔ ∀ j ∈ steps.map Prod.fst, j = inner := by
  refine ⟨fun ⟨run, single⟩ => ?_, fun uniform => ⟨_, runs_uniform inner [first] steps uniform⟩⟩
  have joiners := intercalate_runs inner steps (List.cons_ne_nil first [])
  rw [single, List.map_singleton, List.intercalate_singleton] at joiners
  intro j member
  refine List.eq_of_mem_replicate (n := run.length - 1) ?_
  rw [joiners]
  exact List.mem_append_right _ member

/-- The fold of a run with its groups in brackets, where these are given in order. -/
theorem Expression.inBrackets_fold_steps {α γ : Type} {first : γ} {steps : List (Joiner × γ)} {inner : Joiner}
    (tighter : inner = Joiner.tighter (steps.map Prod.fst)) {group : α → Group γ} {a : α} {as : List α}
    (groups : (a :: as).map group = (runs inner [first] steps).map fun run => ⟨run, inner⟩) :
    (fold (first :: steps.map Prod.snd) (steps.map Prod.fst)).inBrackets =
      ⟨(a :: as).map fun b => (group b).inBrackets, if as = [] then .and else inner.other⟩ := by
  have alone : as = [] ↔ ∀ j ∈ steps.map Prod.fst, j = inner := by
    rw [← runs_eq_singleton_iff]
    have length := congrArg List.length groups
    rw [List.length_map, List.length_map, List.length_cons] at length
    rw [← List.length_eq_one_iff, ← length, Nat.add_eq_right, List.length_eq_zero_iff]
  rw [inBrackets, fold_steps first steps tighter, ← groups, List.map_map]
  simp only [alone]
  rfl

namespace Filter

/-- The fold of a text says the same as brackets in it. A text without brackets that is read is read with brackets around
its groups, too: with the same conditions in the same groups and the same joiner between them. The joiners inside differ at
most where a condition is alone, and every task has the same verdict. -/
theorem read_bracketed {s : String} {ts : List Token} {e : Filter} (tokens : Token.ofText s = .ok ts)
    (plain : ∀ t ∈ ts, t.lexeme ≠ .openGroup ∧ t.lexeme ≠ .closeGroup) (found : read s = .ok e) :
    ∃ b, read (e.bracketed s ts) = .ok b ∧ b.joiner = e.joiner ∧
      List.Forall₂ (fun g h => h.conditions = g.conditions ∧ (h.joiner ≠ g.joiner → g.conditions.length = 1))
        e.groups b.groups ∧
      ∀ now task, b.holds now task = e.holds now task := by
  refine ⟨e.inBrackets, ?_, rfl, ?_, fun now task => holds_inBrackets now e task⟩
  · have noBracket : Lexeme.openGroup ∉ ts.map Token.lexeme := by
      intro member
      obtain ⟨t, inside, opens⟩ := List.mem_map.1 member
      exact (plain t inside).1 opens
    obtain ⟨ls, more, c, steps, row, phrase, further, rfl⟩ :=
      ((read_eq_ok_iff tokens).1 found).flat_of_noBracket noBracket
    obtain ⟨first, later, rfl, rfl, same⟩ := List.map_eq_append_iff.1 row
    generalize tighter : Joiner.tighter (steps.map Prod.fst) = inner
    have shape := Expression.fold_steps c steps tighter.symm
    have layout := Token.ofText_eq_ok_iff.1 tokens
    have alone : GroupRun Readable (first.map Token.lexeme) ⟨[c].reverse, inner⟩ := .single phrase inner
    obtain ⟨parts, grouping, groups⟩ := exists_grouping further alone same
    obtain ⟨front, g, others, place, marks, rfl, sameMarks, _, rowText⟩ := grouping.row layout List.drop_zero
    have text : (Expression.fold (c :: steps.map Prod.snd) (steps.map Prod.fst)).bracketed s (first ++ later) =
        String.ofList (insertMarks 0 s.toList ((place, '(') :: marks)) := by
      rw [Expression.bracketed, shape, ← sameMarks, ← grouping.groupTokens, groups]
    rw [text, Expression.inBrackets_fold_steps tighter.symm groups]
    rw [← String.toList_ofList (l := insertMarks 0 s.toList ((place, '(') :: marks))] at rowText
    obtain ⟨us, read, sameRow⟩ := rowText.ofText
    have rows := grouped_phrase inner.other grouping.runs
    refine (read_eq_ok_iff read).2 ?_
    rw [sameRow]
    exact rows
  · refine List.forall₂_map_right_iff.2 (List.forall₂_same.2 fun g _ => ⟨g.conditions_inBrackets, fun different => ?_⟩)
    exact Decidable.not_not.1 fun several => different (Group.joiner_inBrackets several)

/-- Two joiners, of which the first one binds tighter. -/
theorem read_bracketed_or :
    let s := "done = true || priority > 2 && title like work"
    let ts : List Token := [⟨.word "done", 0⟩, ⟨.comparison .equal, 5⟩, ⟨.word "true", 7⟩, ⟨.joiner .or, 12⟩,
      ⟨.word "priority", 15⟩, ⟨.comparison .greater, 24⟩, ⟨.word "2", 26⟩, ⟨.joiner .and, 28⟩, ⟨.word "title", 31⟩,
      ⟨.word "like", 37⟩, ⟨.word "work", 42⟩]
    let e : Filter := ⟨[⟨[⟨.done, .equal, .one (.bool true)⟩, ⟨.priority, .greater, .one (.int 2)⟩], .or⟩,
      ⟨[⟨.title, .like, .one (.str "work")⟩], .or⟩], .and⟩
    Token.ofText s = .ok ts ∧ (∀ t ∈ ts, t.lexeme ≠ .openGroup ∧ t.lexeme ≠ .closeGroup) ∧ read s = .ok e ∧
      e.bracketed s ts = "(done = true || priority > 2) && (title like work)" ∧
      ∃ b, read "(done = true || priority > 2) && (title like work)" = .ok b ∧ b.joiner = .and ∧
        b.groups.length = 2 ∧ ∀ now task, b.holds now task = e.holds now task := by
  intro s ts e
  have tokens : Token.ofText s = .ok ts := Outcome.eq_ok_of_toOption (by decide +kernel)
  have plain : ∀ t ∈ ts, t.lexeme ≠ .openGroup ∧ t.lexeme ≠ .closeGroup := by decide
  have found : read s = .ok e := by decide +kernel
  have text : e.bracketed s ts = "(done = true || priority > 2) && (title like work)" := by decide +kernel
  obtain ⟨b, again, joiner, groups, verdicts⟩ := read_bracketed tokens plain found
  rw [text] at again
  exact ⟨tokens, plain, found, text, b, again, joiner, groups.length_eq.symm, verdicts⟩

end Filter

end TaskQuery
