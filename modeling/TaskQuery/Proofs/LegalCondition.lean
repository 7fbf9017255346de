import TaskQuery.Proofs.FilterVerdict

namespace TaskQuery

/-- A text that is short enough and carries nothing disallowed. -/
structure Limits.AdmitsText (limits : Limits) (s : String) : Prop where
  short : (s.length : Int) ≤ limits.maxStringLength
  harmless : hasDisallowedContent s = false

/-- A condition that no check objects to. -/
structure Condition.Legal (limits : Limits) (now : Timestamp) (c : Condition) : Prop where
  suits : c.field.kind.allows c.operator = true
  present : c.operand.toValue.isNull = false
  fits : Check.kindProblems limits now c.field c.operand.toValue = .ok []
  texts : ∀ s ∈ Check.texts c.operand.toValue, limits.AdmitsText s

/-- A filter whose size is within the limits and whose conditions no check objects to. -/
structure Filter.Legal (limits : Limits) (now : Timestamp) (e : Filter) : Prop where
  nonempty : e.groups ≠ []
  groups : ∀ g ∈ e.groups, g.conditions ≠ []
  depth : 2 ≤ limits.maxDepth
  count : (e.conditions.length : Int) ≤ limits.maxConditions
  conditions : ∀ c ∈ e.conditions, c.Legal limits now

/-- The condition that the names stand for, each of them in any spelling. -/
def Unchecked.Condition.meant? (c : Unchecked.Condition) : Option TaskQuery.Condition :=
  match Field.ofName? c.field, Operator.ofSpelling? c.operator with
  | some field, some operator => some { field, operator, operand := c.operand }
  | _, _ => none

namespace Unchecked.Condition

theorem meant?_eq_some_iff {c : Unchecked.Condition} {meant : TaskQuery.Condition} :
    c.meant? = some meant ↔ Field.ofName? c.field = some meant.field ∧
      Operator.ofSpelling? c.operator = some meant.operator ∧ c.operand = meant.operand := by
  obtain ⟨field, operator, operand⟩ := meant
  unfold meant?
  split
  · rename_i f op named spelled
    simp [named, spelled]
  · rename_i unknown
    refine iff_of_false (fun found => by cases found) ?_
    rintro ⟨named, spelled, _⟩
    exact unknown _ _ named spelled

/-- A condition of the catalogue is meant by its own names. -/
theorem meant?_unchecked (c : TaskQuery.Condition) : c.unchecked.meant? = some c :=
  meant?_eq_some_iff.2 ⟨c.field.ofName?_name, c.operator.ofSpelling?_symbol, rfl⟩

end Unchecked.Condition

theorem mem_texts_list {vs : List Value} {s : String} : s ∈ Check.texts (.list vs) ↔ Value.str s ∈ vs := by
  simp only [Check.texts, List.mem_filterMap]
  constructor
  · rintro ⟨v, member, same⟩
    split at same
    · cases same
      exact member
    · cases same
  · exact fun member => ⟨.str s, member, rfl⟩

namespace Check

variable {limits : Limits} {now : Timestamp}

theorem problemUnless_eq_nil_iff {holds : Bool} {problem : ConditionProblem} :
    problemUnless holds problem = [] ↔ holds = true := by
  cases holds <;> simp [problemUnless]

theorem checked_eq_nil_iff {check : Except Fault Bool} {problem : ConditionProblem} :
    check.map (problemUnless · problem) = .ok [] ↔ check = .ok true := by
  rw [Outcome.map_eq_ok]
  constructor
  · rintro ⟨holds, checked, none⟩
    rwa [problemUnless_eq_nil_iff.1 none] at checked
  · exact fun checked => ⟨true, checked, rfl⟩

theorem kindProblems_boolean_eq_nil_iff {f : Field} (kind : f.kind = .boolean) {v : Value} :
    kindProblems limits now f v = .ok [] ↔ isTruthValue v = true := by
  rw [kindProblems_of_boolean kind, Except.ok.injEq, problemUnless_eq_nil_iff]

theorem kindProblems_number_eq_nil_iff {f : Field} (kind : f.kind = .number) {v : Value} :
    kindProblems limits now f v = .ok [] ↔ isFiniteNumber v = .ok true := by
  rw [kindProblems_of_number kind, checked_eq_nil_iff]

theorem kindProblems_date_eq_nil_iff {f : Field} (kind : f.kind = .date) {v : Value} :
    kindProblems limits now f v = .ok [] ↔ isDate now v = .ok true := by
  rw [kindProblems_of_date kind, checked_eq_nil_iff]

theorem kindProblems_list_eq_nil_iff {f : Field} (kind : f.kind = .array) {vs : List Value} :
    kindProblems limits now f (.list vs) = .ok [] ↔
      (vs.length : Int) ≤ limits.maxArraySize ∧ ∀ v ∈ vs, isIdOrName v = true := by
  rw [kindProblems_of_list kind]
  split
  · rename_i many
    refine iff_of_false (fun none => ?_) fun few => absurd few.1 (Int.not_le.2 many)
    obtain ⟨bound, _, some⟩ := Outcome.map_eq_ok.1 none
    cases some
  · rename_i few
    rw [Except.ok.injEq, problemUnless_eq_nil_iff, List.all_eq_true, and_iff_right (Int.not_lt.1 few)]

theorem lengthProblems_eq_nil_iff {f : Field} {s : String} :
    lengthProblems limits f s = .ok [] ↔ (s.length : Int) ≤ limits.maxStringLength := by
  unfold lengthProblems
  split
  · rename_i long
    refine iff_of_false (fun none => ?_) (Int.not_le.2 long)
    obtain ⟨bound, _, some⟩ := Outcome.map_eq_ok.1 none
    cases some
  · rename_i short
    exact iff_of_true rfl (Int.not_lt.1 short)

theorem textProblems_eq_nil_iff {f : Field} {s : String} :
    textProblems limits f s = .ok [] ↔ limits.AdmitsText s := by
  rw [textProblems, Outcome.map_eq_ok]
  simp only [List.append_eq_nil_iff, problemUnless_eq_nil_iff, Bool.not_eq_true']
  constructor
  · rintro ⟨_, ofLength, rfl, harmless⟩
    exact ⟨lengthProblems_eq_nil_iff.1 ofLength, harmless⟩
  · rintro ⟨short, harmless⟩
    exact ⟨[], lengthProblems_eq_nil_iff.2 short, rfl, harmless⟩

theorem valueProblems_eq_nil_iff {f : Field} {v : Value} :
    valueProblems limits now f v = .ok [] ↔
      v.isNull = false ∧ kindProblems limits now f v = .ok [] ∧ ∀ s ∈ texts v, limits.AdmitsText s := by
  cases missing : v.isNull with
  | true =>
    rw [valueProblems, missing, if_pos rfl]
    refine iff_of_false (fun none => by cases none) ?_
    rintro ⟨present, _⟩
    cases present
  | false =>
    rw [valueProblems_of_present missing, appended_eq_nil_iff, collect_eq_nil_iff]
    simp only [textProblems_eq_nil_iff, true_and]

theorem operatorProblems_eq_nil_iff {f : Field} {operator : Value} :
    operatorProblems f operator = .ok [] ↔ ∃ spelling op, operator = .str spelling ∧
      Operator.ofSpelling? spelling = some op ∧ f.kind.allows op = true := by
  cases operator with
  | str spelling =>
    simp only [operatorProblems]
    cases spelled : Operator.ofSpelling? spelling <;> simp [spelled, problemUnless_eq_nil_iff, Outcome.map_eq_ok]
  | _ => simp [operatorProblems, Outcome.map_eq_ok]

/-- Parts have no problems exactly if they are the name of a field, an operator that suits it, and a value of its kind. -/
theorem partsProblems_eq_nil_iff {field operator v : Value} :
    partsProblems limits now field operator v = .ok [] ↔
      ∃ name f spelling op, field = .str name ∧ Field.ofName? name = some f ∧ operator = .str spelling ∧
        Operator.ofSpelling? spelling = some op ∧ f.kind.allows op = true ∧ valueProblems limits now f v = .ok [] := by
  cases field with
  | str name =>
    cases named : Field.ofName? name with
    | none =>
      obtain ⟨problem, found⟩ := exists_partsProblems_of_unnamed limits now named operator v
      refine iff_of_false (fun none => ?_) ?_
      · rw [found] at none
        cases none
      · rintro ⟨_, _, _, _, same, known, _⟩
        cases same
        rw [named] at known
        cases known
    | some f =>
      rw [partsProblems_of_named named, appended_eq_nil_iff, operatorProblems_eq_nil_iff]
      constructor
      · rintro ⟨⟨spelling, op, rfl, spelled, suits⟩, values⟩
        exact ⟨name, f, spelling, op, rfl, named, rfl, spelled, suits, values⟩
      · rintro ⟨_, f', spelling, op, same, named', rfl, spelled, suits, values⟩
        cases same
        cases named.symm.trans named'
        exact ⟨⟨spelling, op, rfl, spelled, suits⟩, values⟩
  | _ => simp [partsProblems]

/-- A condition has no problems exactly if its names stand for a condition that no check objects to. -/
theorem conditionProblems_eq_nil_iff {c : Unchecked.Condition} :
    conditionProblems limits now c.toValue = .ok [] ↔ ∃ meant, c.meant? = some meant ∧ meant.Legal limits now := by
  simp only [c.conditionProblems_toValue, partsProblems_eq_nil_iff, Unchecked.Condition.meant?_eq_some_iff, Value.str.injEq]
  constructor
  · rintro ⟨_, f, _, op, rfl, named, rfl, spelled, suits, values⟩
    obtain ⟨present, fits, texts⟩ := valueProblems_eq_nil_iff.1 values
    exact ⟨⟨f, op, c.operand⟩, ⟨named, spelled, rfl⟩, suits, present, fits, texts⟩
  · rintro ⟨⟨f, op, operand⟩, ⟨named, spelled, rfl⟩, suits, present, fits, texts⟩
    exact ⟨_, f, _, op, rfl, named, rfl, spelled, suits, valueProblems_eq_nil_iff.2 ⟨present, fits, texts⟩⟩

/-- The conditions of a valid expression stand for conditions that no check objects to. -/
theorem legal_of_treeVerdict {e : Unchecked.Expression} {verdict : Verdict}
    (checked : treeVerdict limits now e = .ok verdict) (valid : verdict.isValid = true) :
    ∀ c ∈ e.conditions, ∃ meant, c.meant? = some meant ∧ meant.Legal limits now := by
  have passes := Unchecked.Expression.valid_iff_passes.1 ⟨verdict, checked, valid⟩
  exact fun c member => conditionProblems_eq_nil_iff.1 (passes.conditions c member)

theorem conditionProblems_unchecked_eq_nil_iff {c : Condition} :
    conditionProblems limits now c.unchecked.toValue = .ok [] ↔ c.Legal limits now := by
  rw [conditionProblems_eq_nil_iff, Unchecked.Condition.meant?_unchecked]
  simp only [Option.some.injEq, exists_eq_left']

/-- A filter has a verdict without problems exactly if its size is within the limits and no check objects to one of its
conditions. -/
theorem filterVerdict_isValid_iff {e : Filter} :
    (∃ verdict, filterVerdict limits now e = .ok verdict ∧ verdict.isValid = true) ↔ e.Legal limits now := by
  have valid : (∃ verdict, filterVerdict limits now e = .ok verdict ∧ verdict.isValid = true) ↔
      e.unchecked.Passes limits now := Unchecked.Expression.valid_iff_passes
  have some : e.unchecked.groups ≠ [] ↔ e.groups ≠ [] := not_congr List.map_eq_nil_iff
  have members : (∀ g ∈ e.unchecked.groups, g.conditions ≠ []) ↔ ∀ g ∈ e.groups, g.conditions ≠ [] := by
    simp only [Expression.unchecked, List.forall_mem_map, ne_eq, List.map_eq_nil_iff]
  have each : (∀ c ∈ e.unchecked.conditions, conditionProblems limits now c.toValue = .ok []) ↔
      ∀ c ∈ e.conditions, c.Legal limits now := by
    simp only [conditions_unchecked, List.forall_mem_map, conditionProblems_unchecked_eq_nil_iff]
  have length : e.unchecked.conditions.length = e.conditions.length := by
    rw [conditions_unchecked, List.length_map]
  rw [valid]
  constructor
  · rintro ⟨-, nonempty, depth, count, groups, conditions⟩
    exact ⟨some.1 nonempty, members.1 groups, depth, length ▸ count, each.1 conditions⟩
  · rintro ⟨nonempty, groups, depth, count, conditions⟩
    have joined : e.unchecked.Joined := ⟨e.joiner.symbol_cases, List.forall_mem_map.2 fun g _ => g.joiner.symbol_cases⟩
    exact ⟨joined, some.2 nonempty, depth, length ▸ count, members.2 groups, each.2 conditions⟩

end Check

end TaskQuery
