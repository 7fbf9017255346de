import TaskQuery.Proofs.GroupedRow

namespace TaskQuery

open Grammar Lexeme

/-- A text without brackets and with at most one of the joiners, and the filter that it is read as. -/
structure OneJoinerText where
  text : String
  tokens : List Token
  filter : Filter
  ofText : Token.ofText text = .ok tokens
  read : Filter.read text = .ok filter
  plain : ∀ t ∈ tokens, t.lexeme ≠ .openGroup ∧ t.lexeme ≠ .closeGroup
  oneJoiner : ∃ j, ∀ t ∈ tokens, t.lexeme ≠ .joiner j

/-- The texts in round brackets, with a joiner between any two of them. -/
def combinedText (j : Joiner) (texts : List String) : String :=
  (" " ++ j.symbol ++ " ").intercalate (texts.map fun s => "(" ++ s ++ ")")

theorem Grammar.Further.joiners_mem {α : Type} {phrase : List Lexeme → α → Prop} {ls : List Lexeme}
    {steps : List (Joiner × α)} (further : Further phrase ls steps) : ∀ j ∈ steps.map Prod.fst, Lexeme.joiner j ∈ ls := by
  induction further with
  | nil => exact List.forall_mem_nil _
  | cons _ _ ih =>
    refine List.forall_mem_cons.2 ⟨List.mem_cons_self, fun j member => ?_⟩
    exact List.mem_cons_of_mem _ (List.mem_append_right _ (ih j member))

namespace OneJoinerText

/-- The row of a text. -/
def row (t : OneJoinerText) : List Lexeme :=
  t.tokens.map Token.lexeme

/-- The group of all conditions of a text. -/
def group (t : OneJoinerText) : Group Condition :=
  t.filter.groups.headD ⟨[], .and⟩

/-- A text with at most one of the joiners has a single group. -/
theorem filter_eq_run (t : OneJoinerText) : t.filter = ⟨[t.group], .and⟩ ∧ GroupRun Readable t.row t.group := by
  have noBracket : Lexeme.openGroup ∉ t.row := by
    intro member
    obtain ⟨u, inside, opens⟩ := List.mem_map.1 member
    exact (t.plain u inside).1 opens
  obtain ⟨first, more, c, steps, split, phrase, further, fold⟩ :=
    ((Filter.read_eq_ok_iff t.ofText).1 t.read).flat_of_noBracket noBracket
  obtain ⟨k, absent⟩ := t.oneJoiner
  have same : ∀ j ∈ steps.map Prod.fst, j = k.other := by
    intro j member
    have inRow : Lexeme.joiner j ∈ t.row := by
      rw [row, split]
      exact List.mem_append_right first (further.joiners_mem j member)
    obtain ⟨u, inside, joiner⟩ := List.mem_map.1 inRow
    refine Joiner.eq_other_of_ne fun isAbsent => absent u inside ?_
    rw [joiner, isAbsent]
  have tight : ∀ j ∈ steps.map Prod.fst, j = Joiner.tighter (steps.map Prod.fst) := by
    intro j member
    obtain ⟨front, others, cons⟩ := List.exists_cons_of_ne_nil (List.ne_nil_of_mem member)
    rw [same j member, Joiner.tighter, cons]
    exact (same front (cons ▸ List.mem_cons_self)).symm
  have shape := Expression.fold_steps c steps rfl
  rw [if_pos tight, Expression.runs_uniform _ _ _ tight, ← fold] at shape
  rw [group, shape, row, split]
  exact ⟨rfl, .run phrase further tight⟩

end OneJoinerText

theorem select_eq_ok {α : Type} {test : α → Except Fault Bool} {result : α → Bool} {as : List α}
    (known : ∀ a ∈ as, test a = .ok (result a)) : select test as = .ok (as.filter result) := by
  induction as with
  | nil => rfl
  | cons a as ih =>
    obtain ⟨first, others⟩ := List.forall_mem_cons.1 known
    cases passes : result a <;> simp [select, first, passes, ih others, bind, Except.bind, pure, Except.pure]

/-- The filter of combined texts, which asks each of them. -/
theorem exists_combined {j : Joiner} {parts : List OneJoinerText} (some : parts ≠ []) :
    ∃ e, Filter.read (combinedText j (parts.map OneJoinerText.text)) = .ok e ∧
      ∃ k, (parts.length ≠ 1 → k = j) ∧ ∀ test, e.pass test = k.pass (fun t => t.filter.pass test) parts := by
  obtain ⟨a, as, rfl⟩ := List.exists_cons_of_ne_nil some
  have rows : ∀ t ∈ a :: as, Row t.text.toList t.row := fun t _ => (Token.ofText_eq_ok_iff.1 t.ofText).row
  have runs : ∀ t ∈ a :: as, GroupRun Readable t.row t.group := fun t _ => t.filter_eq_run.2
  have text : (combinedText j ((a :: as).map OneJoinerText.text)).toList =
      ([' '] ++ (j.symbol.toList ++ [' '])).intercalate ((a :: as).map fun t => '(' :: (t.text.toList ++ [')'])) := by
    have between : (" " ++ j.symbol ++ " ").toList = [' '] ++ (j.symbol.toList ++ [' ']) := by simp
    rw [combinedText, String.toList_intercalate, between, List.map_map, List.map_map]
    exact congrArg _ (List.map_congr_left fun t _ => by simp)
  have blank : ∀ c ∈ [' '], c ∈ gapCharacters := forall_mem_of_all (by decide)
  have row := Row.grouped j blank rows
  rw [← text] at row
  obtain ⟨us, tokens, same⟩ := row.ofText
  have phrase := grouped_phrase j runs
  rw [← same] at phrase
  refine ⟨_, (Filter.read_eq_ok_iff tokens).2 phrase, if as = [] then .and else j, ?_, fun test => ?_⟩
  · intro several
    refine if_neg fun none => several ?_
    rw [none]
    rfl
  · rw [Expression.pass, Joiner.pass_map]
    refine congrArg (fun judge => Joiner.pass _ judge (a :: as)) (funext fun t => ?_)
    rw [Group.pass_inBrackets, t.filter_eq_run.1, Expression.pass, Joiner.pass_singleton]

/-- Texts combine like sets. Where no condition faults, what texts in brackets select together are the tasks, in their
order, that each of the texts selects if *and* stands between them, and those that some text selects if *or* does. -/
theorem select_combined (j : Joiner) {parts : List OneJoinerText} (some : parts ≠ []) :
    ∃ e, Filter.read (combinedText j (parts.map OneJoinerText.text)) = .ok e ∧
      ∀ {α : Type} [DecidableEq α] (view : α → Value) (now : Timestamp) (tasks : List α),
        (∀ task ∈ tasks, ∀ t ∈ parts, ∀ c ∈ t.filter.conditions, ∃ b, c.holds now (view task) = .ok b) →
        ∃ found : OneJoinerText → List α,
          (∀ t ∈ parts, select (fun task => t.filter.holds now (view task)) tasks = .ok (found t)) ∧
          select (fun task => e.holds now (view task)) tasks =
            .ok (tasks.filter fun task => j.across (fun t => decide (task ∈ found t)) parts) := by
  obtain ⟨e, read, k, several, asks⟩ := exists_combined (j := j) some
  refine ⟨e, read, fun {α} _ view now tasks answered => ?_⟩
  let meets (task : α) (c : Condition) : Bool := (c.holds now (view task)).toOption.getD false
  let verdict (t : OneJoinerText) (task : α) : Bool := t.filter.value (meets task)
  have judged : ∀ task ∈ tasks, ∀ t ∈ parts, t.filter.holds now (view task) = .ok (verdict t task) := by
    intro task member t inside
    refine Expression.pass_eq_ok fun c among => ?_
    obtain ⟨b, holds⟩ := answered task member t inside c among
    simp only [meets, holds]
    rfl
  have whole : ∀ task ∈ tasks, e.holds now (view task) = .ok (j.across (verdict · task) parts) := by
    intro task member
    refine ((asks _).trans (k.pass_eq_ok (judged task member))).trans (congrArg Except.ok ?_)
    by_cases single : parts.length = 1
    · obtain ⟨t, rfl⟩ := List.length_eq_one_iff.1 single
      rw [Joiner.across_singleton, Joiner.across_singleton]
    · rw [several single]
  have each : ∀ t ∈ parts, select (fun task => t.filter.holds now (view task)) tasks = .ok (tasks.filter (verdict t)) :=
    fun t inside => select_eq_ok fun task member => judged task member t inside
  refine ⟨fun t => tasks.filter (verdict t), each, (select_eq_ok whole).trans (congrArg Except.ok ?_)⟩
  refine List.filter_congr fun task member => ?_
  have same : (verdict · task) = fun t => decide (task ∈ tasks.filter (verdict t)) := by
    funext t
    rw [Bool.eq_iff_iff, decide_eq_true_eq, List.mem_filter, and_iff_right member]
  rw [same]

/-- Two texts, one of which has two conditions, over three tasks. -/
theorem select_combined_two :
    let now : Timestamp := .utc ⟨0, by decide⟩
    let done : Condition := ⟨.done, .equal, .one (.bool true)⟩
    let low : Condition := ⟨.priority, .less, .one (.int 2)⟩
    let work : Condition := ⟨.title, .like, .one (.str "work")⟩
    let office := Value.dict [("title", .str "work"), ("done", .bool true), ("priority", .int 3)]
    let garden := Value.dict [("title", .str "rest"), ("done", .bool true), ("priority", .int 1)]
    let school := Value.dict [("title", .str "homework"), ("priority", .int 5)]
    let first : OneJoinerText := ⟨"done = true || priority < 2", [⟨.word "done", 0⟩, ⟨.comparison .equal, 5⟩,
      ⟨.word "true", 7⟩, ⟨.joiner .or, 12⟩, ⟨.word "priority", 15⟩, ⟨.comparison .less, 24⟩, ⟨.word "2", 26⟩],
      ⟨[⟨[done, low], .or⟩], .and⟩, Outcome.eq_ok_of_toOption (by decide +kernel), by decide +kernel, by decide,
      .and, by decide⟩
    let second : OneJoinerText := ⟨"title like work", [⟨.word "title", 0⟩, ⟨.word "like", 6⟩, ⟨.word "work", 11⟩],
      ⟨[⟨[work], .and⟩], .and⟩, Outcome.eq_ok_of_toOption (by decide +kernel), by decide +kernel, by decide,
      .or, by decide⟩
    combinedText .and [first.text, second.text] = "(done = true || priority < 2) && (title like work)" ∧
      ∃ e, Filter.read "(done = true || priority < 2) && (title like work)" = .ok e ∧
        select (e.holds now) [office, garden, school] = .ok [office] := by
  intro now done low work office garden school first second
  have text : combinedText .and [first.text, second.text] = "(done = true || priority < 2) && (title like work)" := by
    decide +kernel
  have answered : ∀ task ∈ [office, garden, school], ∀ t ∈ [first, second], ∀ c ∈ t.filter.conditions,
      (c.holds now task).toOption.isSome = true := by decide +kernel
  obtain ⟨e, read, combines⟩ := select_combined .and (List.cons_ne_nil first [second])
  rw [List.map_cons, List.map_singleton, text] at read
  obtain ⟨found, each, all⟩ := combines id now [office, garden, school] fun task member t inside c among => by
    obtain ⟨b, holds⟩ := Option.isSome_iff_exists.1 (answered task member t inside c among)
    exact ⟨b, Outcome.eq_ok_of_toOption holds⟩
  have firstFound := each first List.mem_cons_self
  have secondFound := each second (List.mem_cons_of_mem _ List.mem_cons_self)
  have ofFirst : select (first.filter.holds now) [office, garden, school] = .ok [office, garden] :=
    Outcome.eq_ok_of_toOption (by decide +kernel)
  have ofSecond : select (second.filter.holds now) [office, garden, school] = .ok [office, school] :=
    Outcome.eq_ok_of_toOption (by decide +kernel)
  have firstSame : found first = [office, garden] := Except.ok.inj (firstFound.symm.trans ofFirst)
  have secondSame : found second = [office, school] := Except.ok.inj (secondFound.symm.trans ofSecond)
  refine ⟨text, e, read, all.trans (congrArg Except.ok ?_)⟩
  simp only [Joiner.across, List.all_cons, List.all_nil, firstSame, secondSame]
  decide +kernel

end TaskQuery
