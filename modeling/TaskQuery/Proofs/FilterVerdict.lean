import TaskQuery.Proofs.FilterKinds
import TaskQuery.Proofs.OverlongValue
import TaskQuery.Proofs.TreeVerdict

namespace TaskQuery

open Check

theorem Field.isForbidden_name (f : Field) : Field.isForbidden f.name = false := by
  cases f <;> decide

/-- How the value of a condition is not one of the kind of the field: a list where there is to be a single value, a number
or a date that is none, or a list with too many items. -/
def Condition.Misfit (limits : Limits) (now : Timestamp) (c : Condition) (p : ConditionProblem) : Prop :=
  match c.field.kind with
  | .boolean => (∃ items, c.operand = .many items) ∧ p = .notBoolean c.field
  | .number => isFiniteNumber c.operand.toValue = .ok false ∧ p = .notNumber c.field
  | .date => isDate now c.operand.toValue = .ok false ∧ p = .notDate c.field
  | .string => (∃ items, c.operand = .many items) ∧ p = .notText c.field
  | .array => ∃ items, c.operand = .many items ∧ limits.maxArraySize < (items.length : Int) ∧
      p = .tooManyItems c.field items.length (toString limits.maxArraySize)

/-- Why a condition of a filter is reported: its operator or its value does not suit the field, or a text in its value is
too long or has disallowed content. -/
def Condition.Reported (limits : Limits) (now : Timestamp) (c : Condition) (p : ConditionProblem) : Prop :=
  (c.field.kind.allows c.operator = false ∧ p = .unsuitableOperator c.operator c.field) ∨ c.Misfit limits now p ∨
    ∃ s ∈ texts c.operand.toValue,
      (limits.maxStringLength < (s.length : Int) ∧ p = .tooLong c.field s.length (toString limits.maxStringLength)) ∨
        (hasDisallowedContent s = true ∧ p = .disallowedContent c.field)

/-- The texts that have no answer to whether they resolve as date literals. -/
def DateLiteral.Failing (now : Timestamp) (s : String) : Prop :=
  ∃ fault, isResolvable now s = .error fault

namespace Check

/-- The values of a kind that its check has no answer to: an integer beyond the doubles, a text that the check of dates
fails on, and a list with too many items where the bound on them is too long to be written. -/
inductive OffScale (limits : Limits) (failing : String → Prop) : Kind → Value → Prop
  | number {n : Int} : Double.ofInt? n = none → OffScale limits failing .number (.int n)
  | date {s : String} : failing s → OffScale limits failing .date (.str s)
  | items {vs : List Value} : limits.maxArraySize < (vs.length : Int) → TooLong limits.maxArraySize →
      OffScale limits failing .array (.list vs)

/-- The values that the checks have no answer to: those off the scale of their kind, and those with a text that is too long
where the bound on its length is too long to be written. -/
def Unanswered (limits : Limits) (failing : String → Prop) (kind : Kind) (v : Value) : Prop :=
  OffScale limits failing kind v ∨
    ∃ s ∈ texts v, limits.maxStringLength < (s.length : Int) ∧ TooLong limits.maxStringLength

end Check

/-- Limits whose bounds can be written, where a value exceeds them. -/
structure Limits.Expressible (limits : Limits) (v : Value) : Prop where
  items : ∀ vs, v = .list vs → limits.maxArraySize < (vs.length : Int) → ¬TooLong limits.maxArraySize
  texts : ∀ s ∈ Check.texts v, limits.maxStringLength < (s.length : Int) → ¬TooLong limits.maxStringLength

theorem Limits.expressible_of {limits : Limits} (items : ¬TooLong limits.maxArraySize)
    (texts : ¬TooLong limits.maxStringLength) (v : Value) : limits.Expressible v :=
  ⟨fun _ _ _ => items, fun _ _ _ => texts⟩

/-- Whether the check of a condition of a filter has no answer. -/
def Condition.OutOfRange (limits : Limits) (now : Timestamp) (c : Condition) : Prop :=
  Unanswered limits (DateLiteral.Failing now) c.field.kind c.operand.toValue

namespace Check

variable {limits : Limits} {now : Timestamp}

theorem exists_operatorProblems_iff {f : Field} {operator : Value} :
    (∃ problems, operatorProblems f operator = .ok problems) ↔ ¬operator.Overlong := by
  have unknown : (∃ problems, (operator.text.map fun spelling => [ConditionProblem.unknownOperator spelling]) = .ok problems) ↔
      ¬operator.Overlong := by rw [Outcome.exists_map_iff, operator.exists_text_iff]
  unfold operatorProblems
  dsimp only
  split
  · exact unknown
  · rename_i op found
    cases operator with
    | str s => exact iff_of_true ⟨_, rfl⟩ fun overlong => by cases overlong
    | _ => cases found

/-- The checks of the parts of a condition that names a field come down to its operator and its value. -/
theorem partsProblems_of_named {name : String} {f : Field} (named : Field.ofName? name = some f) (operator v : Value) :
    partsProblems limits now (.str name) operator v =
      (do return (← operatorProblems f operator) ++ (← valueProblems limits now f v)) := by
  have nonempty : name.isEmpty = false := by
    refine Bool.eq_false_iff.2 fun empty => ?_
    rw [String.isEmpty_iff.1 empty] at named
    cases named
  simp only [partsProblems, nonempty, Reading.isForbidden_of_ofName? named, named, Bool.false_eq_true, if_false]

/-- Where the operator is known too, there is one problem at most before those of the value. -/
theorem partsProblems_of_spelled {name spelling : String} {f : Field} {op : Operator} (named : Field.ofName? name = some f)
    (spelled : Operator.ofSpelling? spelling = some op) (v : Value) :
    partsProblems limits now (.str name) (.str spelling) v =
      (valueProblems limits now f v).map (problemUnless (f.kind.allows op) (.unsuitableOperator op f) ++ ·) := by
  simp only [partsProblems_of_named named, operatorProblems, spelled]
  cases valueProblems limits now f v <;> rfl

variable (limits now) in
/-- A name that is not one of a field is the only problem. -/
theorem exists_partsProblems_of_unnamed {name : String} (unnamed : Field.ofName? name = none) (operator v : Value) :
    ∃ problem, partsProblems limits now (.str name) operator v = .ok [problem] := by
  simp only [partsProblems, unnamed]
  split
  · exact ⟨_, rfl⟩
  split
  · exact ⟨_, rfl⟩
  · exact ⟨_, rfl⟩

theorem conditionProblems_unchecked (c : Condition) :
    conditionProblems limits now c.unchecked.toValue =
      (valueProblems limits now c.field c.operand.toValue).map
        (problemUnless (c.field.kind.allows c.operator) (.unsuitableOperator c.operator c.field) ++ ·) := by
  have named : Field.ofName? c.unchecked.field = some c.field := c.field.ofName?_name
  have spelled : Operator.ofSpelling? c.unchecked.operator = some c.operator := c.operator.ofSpelling?_symbol
  rw [c.unchecked.conditionProblems_toValue, partsProblems_of_spelled named spelled]
  rfl

theorem mem_problemUnless {holds : Bool} {problem p : ConditionProblem} :
    p ∈ problemUnless holds problem ↔ holds = false ∧ p = problem := by
  cases holds <;> simp [problemUnless]

section Kinds

variable {c : Condition}

theorem isIdOrName_of_listed {v : Value} (listed : v.Listed) : isIdOrName v = true := by
  cases listed with
  | text => rfl
  | number n => cases n <;> rfl

theorem kindProblems_of_boolean {f : Field} (kind : f.kind = .boolean) (v : Value) :
    kindProblems limits now f v = .ok (problemUnless (isTruthValue v) (.notBoolean f)) := by
  simp only [kindProblems, kind]

theorem kindProblems_of_number {f : Field} (kind : f.kind = .number) (v : Value) :
    kindProblems limits now f v = (isFiniteNumber v).map fun holds => problemUnless holds (.notNumber f) := by
  simp only [kindProblems, kind]

theorem kindProblems_of_date {f : Field} (kind : f.kind = .date) (v : Value) :
    kindProblems limits now f v = (isDate now v).map fun holds => problemUnless holds (.notDate f) := by
  simp only [kindProblems, kind]

theorem kindProblems_of_list {f : Field} (kind : f.kind = .array) (vs : List Value) :
    kindProblems limits now f (.list vs) =
      if limits.maxArraySize < (vs.length : Int) then
        (writeInteger limits.maxArraySize).map fun bound => [.tooManyItems f vs.length bound]
      else .ok (problemUnless (vs.all isIdOrName) (.badItem f)) := by
  simp only [kindProblems, kind]

/-- Where a check that may fault gives its answer, there is a problem exactly if the answer is no. -/
theorem mem_checked_iff {check : Except Fault Bool} {problem p : ConditionProblem} {problems : List ConditionProblem}
    (found : check.map (problemUnless · problem) = .ok problems) : p ∈ problems ↔ check = .ok false ∧ p = problem := by
  obtain ⟨holds, rfl, rfl⟩ := Outcome.map_eq_ok.1 found
  rw [mem_problemUnless, Except.ok.injEq]

theorem mem_kindProblems_iff (ofKind : c.OfKind) {problems : List ConditionProblem} {p : ConditionProblem}
    (found : kindProblems limits now c.field c.operand.toValue = .ok problems) :
    p ∈ problems ↔ c.Misfit limits now p := by
  obtain ⟨f, op, operand⟩ := c
  unfold Condition.Misfit
  split
  · rename_i kind
    have boolean : operand.OfKind .boolean := kind ▸ ofKind
    rw [kindProblems_of_boolean kind] at found
    cases found
    rw [mem_problemUnless]
    cases boolean with
    | truth => simp [Operand.toValue, isTruthValue]
    | items => simp [Operand.toValue, isTruthValue]
  · rename_i kind
    rw [kindProblems_of_number kind] at found
    exact mem_checked_iff found
  · rename_i kind
    rw [kindProblems_of_date kind] at found
    exact mem_checked_iff found
  · rename_i kind
    have string : operand.OfKind .string := kind ▸ ofKind
    simp only [kindProblems, kind] at found
    cases string with
    | string =>
      cases found
      simp
    | items =>
      cases found
      simp
  · rename_i kind
    have array : operand.OfKind .array := kind ▸ ofKind
    cases array with
    | @items _ vs listed =>
      rw [Operand.toValue, kindProblems_of_list kind] at found
      split at found
      · rename_i beyond
        obtain ⟨bound, written, rfl⟩ := Outcome.map_eq_ok.1 found
        simp [beyond, (writeInteger_eq_ok_iff.1 written).2]
      · rename_i within
        have all : vs.all isIdOrName = true := List.all_eq_true.2 fun v inside => isIdOrName_of_listed (listed v inside)
        cases found
        simp [all, problemUnless, within]

theorem offScale_number_iff {failing : String → Prop} {n : Int} :
    OffScale limits failing .number (.int n) ↔ Double.ofInt? n = none :=
  ⟨fun | .number beyond => beyond, .number⟩

theorem offScale_date_iff {failing : String → Prop} {s : String} : OffScale limits failing .date (.str s) ↔ failing s :=
  ⟨fun | .date failed => failed, .date⟩

theorem offScale_list_iff {failing : String → Prop} {vs : List Value} :
    OffScale limits failing .array (.list vs) ↔ limits.maxArraySize < (vs.length : Int) ∧ TooLong limits.maxArraySize :=
  ⟨fun | .items beyond long => ⟨beyond, long⟩, fun ⟨beyond, long⟩ => .items beyond long⟩

theorem exists_isFiniteNumber_iff {failing : String → Prop} {v : Value} :
    (∃ holds, isFiniteNumber v = .ok holds) ↔ ¬OffScale limits failing .number v := by
  cases v with
  | int n =>
    rw [isFiniteNumber, offScale_number_iff]
    cases Double.ofInt? n <;> simp
  | _ => exact iff_of_true ⟨_, rfl⟩ fun off => by cases off

theorem exists_isDate_iff {v : Value} :
    (∃ holds, isDate now v = .ok holds) ↔
      ¬OffScale limits (DateLiteral.Failing now) .date v := by
  cases v with
  | str s =>
    rw [isDate, Outcome.exists_ok_iff, offScale_date_iff]
    exact not_exists.symm
  | _ => exact iff_of_true ⟨_, rfl⟩ fun off => by cases off

/-- The check of a kind gives its problems unless the value is off its scale. -/
theorem exists_kindProblems_iff {f : Field} {v : Value} :
    (∃ problems, kindProblems limits now f v = .ok problems) ↔
      ¬OffScale limits (DateLiteral.Failing now) f.kind v := by
  cases kind : f.kind with
  | boolean => exact iff_of_true ⟨_, kindProblems_of_boolean kind v⟩ fun off => by cases off
  | number =>
    rw [kindProblems_of_number kind, Outcome.exists_map_iff]
    exact exists_isFiniteNumber_iff
  | date =>
    rw [kindProblems_of_date kind, Outcome.exists_map_iff]
    exact exists_isDate_iff
  | string =>
    refine iff_of_true ?_ fun off => by cases off
    simp only [kindProblems, kind]
    split
    · exact ⟨_, rfl⟩
    · exact ⟨_, rfl⟩
  | array =>
    cases v with
    | list vs =>
      rw [kindProblems_of_list kind, offScale_list_iff]
      split
      · rename_i beyond
        rw [Outcome.exists_map_iff, exists_writeInteger_iff, and_iff_right beyond]
      · rename_i within
        exact iff_of_true ⟨_, rfl⟩ fun beyond => within beyond.1
    | _ =>
      refine iff_of_true ?_ fun off => by cases off
      simp only [kindProblems, kind]
      exact ⟨_, rfl⟩

section Texts

variable {f : Field} {s : String}

theorem mem_lengthProblems {problems : List ConditionProblem} {p : ConditionProblem}
    (found : lengthProblems limits f s = .ok problems) :
    p ∈ problems ↔ limits.maxStringLength < (s.length : Int) ∧ p = .tooLong f s.length (toString limits.maxStringLength) := by
  unfold lengthProblems at found
  split at found
  · rename_i beyond
    obtain ⟨bound, written, rfl⟩ := Outcome.map_eq_ok.1 found
    rw [List.mem_singleton, (writeInteger_eq_ok_iff.1 written).2, and_iff_right beyond]
  · rename_i within
    cases found
    exact iff_of_false List.not_mem_nil fun long => within long.1

theorem mem_textProblems {problems : List ConditionProblem} {p : ConditionProblem}
    (found : textProblems limits f s = .ok problems) :
    p ∈ problems ↔
      (limits.maxStringLength < (s.length : Int) ∧ p = .tooLong f s.length (toString limits.maxStringLength)) ∨
        (hasDisallowedContent s = true ∧ p = .disallowedContent f) := by
  obtain ⟨lengths, ofLength, rfl⟩ := Outcome.map_eq_ok.1 found
  rw [List.mem_append, mem_lengthProblems ofLength, mem_problemUnless, Bool.not_eq_false']

theorem mem_collect_textProblems {texts : List String} {problems : List ConditionProblem} {p : ConditionProblem}
    (found : collect (textProblems limits f) texts = .ok problems) :
    p ∈ problems ↔ ∃ s ∈ texts,
      (limits.maxStringLength < (s.length : Int) ∧ p = .tooLong f s.length (toString limits.maxStringLength)) ∨
        (hasDisallowedContent s = true ∧ p = .disallowedContent f) := by
  have each : ∀ s ∈ texts, ∀ own, textProblems limits f s = .ok own → ∀ q, q ∈ own ↔
      (limits.maxStringLength < (s.length : Int) ∧ q = .tooLong f s.length (toString limits.maxStringLength)) ∨
        (hasDisallowedContent s = true ∧ q = .disallowedContent f) :=
    fun _ _ _ here _ => mem_textProblems here
  exact mem_collect_of_each each found

theorem exists_textProblems_iff :
    (∃ problems, textProblems limits f s = .ok problems) ↔
      ¬(limits.maxStringLength < (s.length : Int) ∧ TooLong limits.maxStringLength) := by
  rw [textProblems, Outcome.exists_map_iff, lengthProblems]
  split
  · rename_i beyond
    rw [Outcome.exists_map_iff, exists_writeInteger_iff, and_iff_right beyond]
  · rename_i within
    exact iff_of_true ⟨_, rfl⟩ fun long => within long.1

end Texts

/-- A value that is there has the problems of its kind, and behind them those of its texts. -/
theorem valueProblems_of_present {v : Value} (present : v.isNull = false) (f : Field) :
    valueProblems limits now f v =
      (do return (← kindProblems limits now f v) ++ (← collect (textProblems limits f) (texts v))) := by
  rw [valueProblems, present, if_neg Bool.false_ne_true]

theorem exists_valueProblems_iff {f : Field} {v : Value} :
    (∃ problems, valueProblems limits now f v = .ok problems) ↔
      ¬Unanswered limits (DateLiteral.Failing now) f.kind v := by
  cases missing : v.isNull with
  | true =>
    cases v with
    | null =>
      refine iff_of_true ⟨_, rfl⟩ ?_
      generalize f.kind = kind
      rintro (off | ⟨_, inside, _⟩)
      · cases off
      · cases inside
    | _ => cases missing
  | false =>
    rw [valueProblems_of_present missing, Outcome.exists_both_iff, exists_kindProblems_iff, exists_collect_iff, Unanswered,
      not_or]
    simp only [exists_textProblems_iff, not_exists, not_and]

/-- No value that is read is missing. -/
theorem isNull_of_ofKind {operand : Operand} {kind : Kind} (ofKind : operand.OfKind kind) : operand.toValue.isNull = false := by
  cases ofKind with
  | number n => cases n <;> rfl
  | _ => rfl

theorem mem_conditionProblems_iff (ofKind : c.OfKind) {problems : List ConditionProblem} {p : ConditionProblem}
    (found : conditionProblems limits now c.unchecked.toValue = .ok problems) :
    p ∈ problems ↔ c.Reported limits now p := by
  rw [conditionProblems_unchecked, valueProblems_of_present (isNull_of_ofKind ofKind)] at found
  obtain ⟨ofValue, values, rfl⟩ := Outcome.map_eq_ok.1 found
  obtain ⟨ofKindOnly, ofTexts, kinds, collected, rfl⟩ := Outcome.both_eq_ok.1 values
  -- The problems stand in this order: those of the operator, of the kind and of the texts.
  rw [List.mem_append, List.mem_append, mem_problemUnless, mem_kindProblems_iff ofKind kinds,
    mem_collect_textProblems collected]
  exact Iff.rfl

theorem exists_conditionProblems_unchecked_iff :
    (∃ problems, conditionProblems limits now c.unchecked.toValue = .ok problems) ↔ ¬c.OutOfRange limits now := by
  rw [conditionProblems_unchecked, Outcome.exists_map_iff, exists_valueProblems_iff, Condition.OutOfRange]

end Kinds

section Groups

/-- The unchecked form of a group. -/
def uncheckedGroup (g : Group Condition) : Unchecked.Group :=
  ⟨g.conditions.map Condition.unchecked, g.joiner.symbol⟩

theorem groupProblems_unchecked {g : Group Condition} (nonempty : g.conditions ≠ []) (number : Nat) :
    groupProblems limits now number (uncheckedGroup g).toValue =
      collect (fun place => placeProblems limits now number place.2 place.1)
        ((g.conditions.map fun c => c.unchecked.toValue).zipIdx 1) := by
  have wireForms : (uncheckedGroup g).conditions.map Unchecked.Condition.toValue =
      g.conditions.map fun c => c.unchecked.toValue := List.map_map
  rw [Unchecked.Group.groupProblems_eq_collect g.joiner.symbol_cases (mt List.map_eq_nil_iff.1 nonempty), wireForms]

theorem conditions_unchecked (e : Filter) : e.unchecked.conditions = e.conditions.map Condition.unchecked := by
  simp only [Unchecked.Expression.conditions, Expression.conditions, Expression.unchecked, List.flatMap_map, List.map_flatMap]

/-- The wire form of a filter with a group has two levels. -/
theorem nestingDepth_filter {e : Filter} (nonempty : e.groups ≠ []) {depth : Int} (deep : 2 ≤ depth) :
    nestingDepth depth e.toValue = 2 := by
  have levels : e.toValue.levels = 2 := e.unchecked.levels_toValue (mt List.map_eq_nil_iff.1 nonempty)
  obtain ⟨n, rfl⟩ := Int.eq_ofNat_of_zero_le (a := depth) (by omega)
  rw [nestingDepth_eq, levels]
  omega

theorem conditionCount_filter (e : Filter) : conditionCount e.toValue = e.conditions.length := by
  rw [Expression.toValue, e.unchecked.conditionCount_toValue, conditions_unchecked, List.length_map]

/-- The verdict on a filter with a group, where two levels are allowed: its conditions are counted, and then those of its
groups are looked at. -/
theorem filterVerdict_eq {e : Filter} (nonempty : e.groups ≠ []) (deep : 2 ≤ limits.maxDepth) :
    filterVerdict limits now e =
      if limits.maxConditions < (e.conditions.length : Int) then
        (writeInteger limits.maxConditions).map fun bound => .ofProblems [.tooManyConditions e.conditions.length bound]
      else
        (collect (fun place => groupProblems limits now place.2 place.1)
          ((e.groups.map fun g => (uncheckedGroup g).toValue).zipIdx 1)).map
            fun problems => ⟨problems, countWarnings limits e.conditions.length⟩ := by
  have wireForms : e.unchecked.groups.map Unchecked.Group.toValue = e.groups.map fun g => (uncheckedGroup g).toValue :=
    List.map_map
  rw [filterVerdict, e.unchecked.treeVerdict_eq (mt List.map_eq_nil_iff.1 nonempty) e.joiner.symbol_cases deep, wireForms,
    conditions_unchecked, List.length_map]

theorem mem_placeProblems_iff {c : Condition} (ofKind : c.OfKind) {group number : Nat} {problems : List Problem} {p : Problem}
    (found : placeProblems limits now group number c.unchecked.toValue = .ok problems) :
    p ∈ problems ↔ ∃ q, c.Reported limits now q ∧ p = .condition group number q := by
  rw [c.unchecked.placeProblems_toValue] at found
  obtain ⟨ofCondition, checked, rfl⟩ := Outcome.map_eq_ok.1 found
  simp only [List.mem_map, mem_conditionProblems_iff ofKind checked, eq_comm]

theorem mem_groupProblems_iff {g : Group Condition} (nonempty : g.conditions ≠ [])
    (kinds : ∀ c ∈ g.conditions, c.OfKind) {number : Nat} {problems : List Problem} {p : Problem}
    (found : groupProblems limits now number (uncheckedGroup g).toValue = .ok problems) :
    p ∈ problems ↔
      ∃ j c, g.conditions[j]? = some c ∧ ∃ q, c.Reported limits now q ∧ p = .condition number (j + 1) q := by
  have each : ∀ c ∈ g.conditions, ∀ place own, placeProblems limits now number place c.unchecked.toValue = .ok own →
      ∀ p, p ∈ own ↔ ∃ q, c.Reported limits now q ∧ p = .condition number place q :=
    fun c member _ _ here _ => mem_placeProblems_iff (kinds c member) here
  rw [groupProblems_unchecked nonempty] at found
  exact mem_numbered_iff each found

theorem exists_groupProblems_iff {g : Group Condition} (nonempty : g.conditions ≠ [])
    (number : Nat) :
    (∃ problems, groupProblems limits now number (uncheckedGroup g).toValue = .ok problems) ↔
      ∀ c ∈ g.conditions, ¬c.OutOfRange limits now := by
  rw [groupProblems_unchecked nonempty]
  refine exists_numbered_iff fun c _ place => ?_
  rw [c.unchecked.placeProblems_toValue, Outcome.exists_map_iff, exists_conditionProblems_unchecked_iff]

variable {e : Filter}

/-- A filter that was read has a verdict, unless it has too many conditions and the bound on them is too long to be written,
or they are looked at and one of them is out of range. -/
theorem exists_filterVerdict_iff (sound : Filter.Sound e) (deep : 2 ≤ limits.maxDepth) :
    (∃ verdict, filterVerdict limits now e = .ok verdict) ↔
      if limits.maxConditions < (e.conditions.length : Int) then ¬TooLong limits.maxConditions
      else ∀ c ∈ e.conditions, ¬c.OutOfRange limits now := by
  rw [filterVerdict_eq sound.nonempty deep]
  split
  · rw [Outcome.exists_map_iff, exists_writeInteger_iff]
  rw [Outcome.exists_map_iff, Expression.conditions, List.forall_mem_flatMap]
  -- Whether a group faults does not depend on the number that it is given.
  exact exists_numbered_iff (f := groupProblems limits now) fun g member number =>
    exists_groupProblems_iff (sound.groups g member) number

theorem filterVerdict_problems (sound : Filter.Sound e) (deep : 2 ≤ limits.maxDepth) {verdict : Verdict}
    (checked : filterVerdict limits now e = .ok verdict) :
    if limits.maxConditions < (e.conditions.length : Int) then
      verdict.problems = [.tooManyConditions e.conditions.length (toString limits.maxConditions)]
    else ∀ p, p ∈ verdict.problems ↔ ∃ i g, e.groups[i]? = some g ∧ ∃ j c, g.conditions[j]? = some c ∧
      ∃ q, c.Reported limits now q ∧ p = .condition (i + 1) (j + 1) q := by
  rw [filterVerdict_eq sound.nonempty deep] at checked
  split at checked
  · rename_i many
    obtain ⟨bound, written, rfl⟩ := Outcome.map_eq_ok.1 checked
    rw [if_pos many, (writeInteger_eq_ok_iff.1 written).2]
    rfl
  · rename_i few
    have each : ∀ g ∈ e.groups, ∀ number own, groupProblems limits now number (uncheckedGroup g).toValue = .ok own →
        ∀ p, p ∈ own ↔
          ∃ j c, g.conditions[j]? = some c ∧ ∃ q, c.Reported limits now q ∧ p = .condition number (j + 1) q :=
      fun g member _ _ here _ => mem_groupProblems_iff (sound.groups g member) (sound.kinds_of_group member) here
    obtain ⟨problems, found, rfl⟩ := Outcome.map_eq_ok.1 checked
    rw [if_neg few]
    exact fun p => mem_numbered_iff each found

end Groups

end Check

/-- A condition by its names: a field of the catalogue under its own name, the sign of an operator, and a value of the
kind of the field, which is a list for a field that holds lists. -/
def Unchecked.Condition.WellFormed (c : Unchecked.Condition) : Prop :=
  ∃ (f : Field) (op : Operator), c.field = f.name ∧ Field.isForbidden c.field = false ∧ c.operator = op.symbol ∧
    c.operand.OfKind f.kind ∧ (f.kind = .array → ∃ items, c.operand = .many items)

/-- An expression by its names: groups that are not empty, joined by one of the two signs inside and between them. -/
structure Unchecked.Expression.WellFormed (e : Unchecked.Expression) : Prop where
  nonempty : e.groups ≠ []
  operator : e.operator = "&&" ∨ e.operator = "||"
  groups : ∀ g ∈ e.groups, g.conditions ≠ [] ∧ (g.operator = "&&" ∨ g.operator = "||")
  conditions : ∀ g ∈ e.groups, ∀ c ∈ g.conditions, c.WellFormed

theorem Condition.unchecked_wellFormed {c : Condition} (ofKind : c.OfKind) : c.unchecked.WellFormed := by
  refine ⟨c.field, c.operator, rfl, Field.isForbidden_name c.field, rfl, ofKind, fun array => ?_⟩
  have list : c.operand.OfKind .array := array ▸ ofKind
  obtain ⟨f, op, operand⟩ := c
  cases list with
  | items => exact ⟨_, rfl⟩

theorem Filter.Sound.unchecked_wellFormed {e : Filter} (sound : Filter.Sound e) : e.unchecked.WellFormed where
  nonempty := mt List.map_eq_nil_iff.1 sound.nonempty
  operator := e.joiner.symbol_cases
  groups := List.forall_mem_map.2 fun g member => ⟨mt List.map_eq_nil_iff.1 (sound.groups g member), g.joiner.symbol_cases⟩
  conditions := List.forall_mem_map.2 fun _ member => List.forall_mem_map.2 fun c inside =>
    Condition.unchecked_wellFormed (sound.kinds_of_group member c inside)

/-- What a text reads as is well formed. Where two levels are allowed, its wire form has two of them and as many conditions
as it has itself. A verdict says that these are too many or, where they are not, what is wrong with single ones; there is
one unless the conditions are few enough and the value of one is out of range, or they are too many and the bound on them
is too long to be written. -/
theorem Filter.read_wellFormed {s : String} {e : Filter} (read : Filter.read s = .ok e) :
    e.unchecked.WellFormed ∧ ∀ (limits : Limits) (now : Timestamp), 2 ≤ limits.maxDepth →
      nestingDepth limits.maxDepth e.toValue = 2 ∧
      conditionCount e.toValue = e.conditions.length ∧
      ((∃ verdict, filterVerdict limits now e = .ok verdict) ↔
        if limits.maxConditions < (e.conditions.length : Int) then ¬TooLong limits.maxConditions
        else ∀ c ∈ e.conditions, ¬c.OutOfRange limits now) ∧
      ∀ verdict, filterVerdict limits now e = .ok verdict →
        if limits.maxConditions < (e.conditions.length : Int) then
          verdict.errors = [s!"Too many conditions ({e.conditions.length}). Maximum allowed: {limits.maxConditions}"]
        else ∀ line, line ∈ verdict.errors ↔ ∃ i g, e.groups[i]? = some g ∧ ∃ j c, g.conditions[j]? = some c ∧
          ∃ problem, c.Reported limits now problem ∧ line = s!"Group {i + 1}, Condition {j + 1}: {problem.message}" := by
  have sound := Filter.sound_of_read read
  refine ⟨sound.unchecked_wellFormed, fun limits now deep => ⟨nestingDepth_filter sound.nonempty deep,
    conditionCount_filter e, exists_filterVerdict_iff sound deep, fun verdict checked => ?_⟩⟩
  have problems := filterVerdict_problems sound deep checked
  split at problems
  · rename_i many
    rw [if_pos many, Verdict.errors, problems]
    rfl
  · rename_i few
    rw [if_neg few, Verdict.errors]
    intro line
    rw [List.mem_map]
    constructor
    · rintro ⟨p, member, rfl⟩
      obtain ⟨i, g, inGroups, j, c, inside, problem, reported, rfl⟩ := (problems p).1 member
      exact ⟨i, g, inGroups, j, c, inside, problem, reported, rfl⟩
    · rintro ⟨i, g, inGroups, j, c, inside, problem, reported, rfl⟩
      exact ⟨_, (problems _).2 ⟨i, g, inGroups, j, c, inside, problem, reported, rfl⟩, rfl⟩

/-- Two conditions of which one has an operator that does not suit its field. -/
theorem Filter.read_wellFormed_unsuitable :
    let now : Timestamp := ⟨⟨0, by decide⟩, none⟩
    let e : Filter := ⟨[⟨[⟨.percentDone, .less, .one (.int 5)⟩, ⟨.done, .like, .one (.bool true)⟩], .or⟩], .and⟩
    Filter.read "percent_done < 5 || done like TRUE" = .ok e ∧
      filterVerdict {} now e = .ok ⟨[.condition 1 2 (.unsuitableOperator .like .done)], []⟩ ∧
      conditionCount e.toValue = 2 ∧ e.unchecked.WellFormed := by
  intro now e
  have read : Filter.read "percent_done < 5 || done like TRUE" = .ok e := by decide +kernel
  have checked : filterVerdict {} now e = .ok ⟨[.condition 1 2 (.unsuitableOperator .like .done)], []⟩ :=
    by decide +kernel
  obtain ⟨wellFormed, judged⟩ := Filter.read_wellFormed read
  exact ⟨read, checked, (judged {} now (by decide)).2.1, wellFormed⟩

/-- A date on the first day of year 1, ahead of universal time, is read and has no verdict. -/
theorem Filter.read_without_verdict :
    let now : Timestamp := ⟨⟨0, by decide⟩, none⟩
    let e : Filter := ⟨[⟨[⟨.dueDate, .equal, .one (.str "0001-01-01T00:00:00+05:00")⟩], .and⟩], .and⟩
    Filter.read "dueDate = 0001-01-01T00:00:00+05:00" = .ok e ∧ filterVerdict {} now e = .error .instantOutOfRange := by
  intro now e
  have read : Filter.read "dueDate = 0001-01-01T00:00:00+05:00" = .ok e := by decide +kernel
  exact ⟨read, by decide +kernel⟩

end TaskQuery
