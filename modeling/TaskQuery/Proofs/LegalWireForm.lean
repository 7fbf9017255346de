import TaskQuery.Proofs.LegalCondition

namespace TaskQuery

namespace Value

/-- An id or a name: a number or a text, and no truth value. -/
inductive IdOrName : Value → Prop
  | int (n : Int) : IdOrName (.int n)
  | float (x : Double) : IdOrName (.float x)
  | name (s : String) : IdOrName (.str s)

/-- The values for a field of some kind, with date literals seen from `now`. Only an array field takes a list. -/
inductive Fits (limits : Limits) (now : Timestamp) : Kind → Value → Prop
  | truth (b : Bool) : Fits limits now .boolean (.bool b)
  | truthWord {s : String} : s = "true" ∨ s = "false" → Fits limits now .boolean (.str s)
  | int {n : Int} : (Double.ofInt? n).isSome = true → Fits limits now .number (.int n)
  | float {x : Double} : x.isFinite = true → Fits limits now .number (.float x)
  | numeral {s : String} {x : Double} : readMeasure? s = some x → x.isFinite = true → Fits limits now .number (.str s)
  | day (d : Day) : Fits limits now .date (.date d)
  | timestamp (t : Timestamp) : Fits limits now .date (.datetime t)
  | dateLiteral {s : String} {m : Moment} : DateLiteral.resolve now s = .ok (some m) → Fits limits now .date (.str s)
  | string (s : String) : Fits limits now .string (.str s)
  | item {v : Value} : v.IdOrName → Fits limits now .array v
  | items {vs : List Value} : (vs.length : Int) ≤ limits.maxArraySize → (∀ v ∈ vs, v.IdOrName) →
      Fits limits now .array (.list vs)

/-- A text that a value is or has as an item. -/
def Carries (v : Value) (s : String) : Prop :=
  v = .str s ∨ ∃ vs, v = .list vs ∧ .str s ∈ vs

/-- The entries of a condition that no check objects to. -/
inductive LegalCondition (limits : Limits) (now : Timestamp) : Value → Prop
  | intro {entries : List (String × Value)} {name spelling : String} {f : Field} {op : Operator} {v : Value} :
      lookup? "conditions" entries = none → lookup? "groups" entries = none →
      lookup? "field" entries = some (.str name) → Field.isForbidden name = false → Field.ofName? name = some f →
      lookup? "operator" entries = some (.str spelling) → Operator.ofSpelling? spelling = some op →
      f.kind.allows op = true → lookup? "value" entries = some v → v.Fits limits now f.kind →
      (∀ s, v.Carries s → limits.AdmitsText s) → LegalCondition limits now (.dict entries)

/-- Entries that name one of the two joiners, or none. -/
def NamesJoiner (entries : List (String × Value)) : Prop :=
  ∀ v, lookup? "operator" entries = some v → ∃ j : Joiner, v = .str j.symbol

/-- The entries of a group that no check objects to. -/
inductive LegalGroup (limits : Limits) (now : Timestamp) : Value → Prop
  | intro {entries : List (String × Value)} {conditions : List Value} :
      NamesJoiner entries → lookup? "conditions" entries = some (.list conditions) → conditions ≠ [] →
      (∀ c ∈ conditions, c.LegalCondition limits now) → LegalGroup limits now (.dict entries)

/-- The entries of a filter that no check objects to. -/
inductive LegalFilter (limits : Limits) (now : Timestamp) : Value → Prop
  | intro {entries : List (String × Value)} {groups : List Value} :
      NamesJoiner entries → lookup? "groups" entries = some (.list groups) → groups ≠ [] →
      (∀ g ∈ groups, g.LegalGroup limits now) →
      (nestingDepth limits.maxDepth (.dict entries) : Int) ≤ limits.maxDepth →
      (conditionCount (.dict entries) : Int) ≤ limits.maxConditions → LegalFilter limits now (.dict entries)

theorem get_dict_eq_iff {entries : List (String × Value)} {key : String} {v : Value} (present : v ≠ .null) :
    (Value.dict entries).get key = v ↔ lookup? key entries = some v := by
  rw [get]
  cases lookup? key entries with
  | none => simp [present.symm]
  | some w => simp

theorem itemsAt_dict_eq_iff {entries : List (String × Value)} {key : String} {items : List Value} (nonempty : items ≠ []) :
    (Value.dict entries).itemsAt key = items ↔ lookup? key entries = some (.list items) := by
  rw [← get_dict_eq_iff (by simp), itemsAt]
  split
  · rename_i found
    rw [found, Value.list.injEq]
  · rename_i other
    exact iff_of_false nonempty.symm (other items)

theorem isNode_dict_eq_false_iff {entries : List (String × Value)} :
    (Value.dict entries).isNode = false ↔ lookup? "conditions" entries = none ∧ lookup? "groups" entries = none := by
  simp [isNode, hasKey]

end Value

namespace Check

variable {limits : Limits} {now : Timestamp}

theorem isIdOrName_iff {v : Value} : isIdOrName v = true ↔ v.IdOrName := by
  constructor
  · intro holds
    cases v with
    | int n => exact .int n
    | float x => exact .float x
    | str s => exact .name s
    | _ => cases holds
  · rintro (_ | _ | _) <;> rfl

theorem mem_texts_iff {v : Value} {s : String} : s ∈ texts v ↔ v.Carries s := by
  cases v with
  | str t => simp [texts, Value.Carries, eq_comm]
  | list vs =>
    rw [mem_texts_list]
    simp [Value.Carries]
  | _ => simp [texts, Value.Carries]

theorem isTruthValue_iff {v : Value} : isTruthValue v = true ↔ v.Fits limits now .boolean := by
  constructor
  · intro holds
    cases v with
    | bool b => exact .truth b
    | str s => exact .truthWord (by simpa [isTruthValue] using holds)
    | _ => cases holds
  · intro fits
    cases fits with
    | truth b => rfl
    | truthWord word => simpa [isTruthValue] using word

theorem isFiniteNumber_iff {v : Value} : isFiniteNumber v = .ok true ↔ v.Fits limits now .number := by
  constructor
  · intro holds
    cases v with
    | int n =>
      rw [isFiniteNumber.eq_def] at holds
      dsimp only at holds
      split at holds
      · rename_i inRange
        exact .int inRange
      · cases holds
    | float x => exact .float (Except.ok.inj holds)
    | str s =>
      obtain ⟨x, read, finite⟩ := (Option.any_eq_true ..).1 (Except.ok.inj holds)
      exact .numeral read finite
    | _ => cases holds
  · intro fits
    cases fits with
    | int inRange => exact if_pos inRange
    | float finite => exact congrArg Except.ok finite
    | numeral read finite =>
      refine congrArg Except.ok ?_
      rw [read]
      exact finite

theorem isDate_iff {v : Value} : isDate now v = .ok true ↔ v.Fits limits now .date := by
  constructor
  · intro holds
    cases v with
    | date d => exact .day d
    | datetime t => exact .timestamp t
    | str s =>
      obtain ⟨m?, resolved, found⟩ := Outcome.map_eq_ok.1 holds
      obtain ⟨m, rfl⟩ := Option.isSome_iff_exists.1 found
      exact .dateLiteral resolved
    | _ => cases holds
  · intro fits
    cases fits with
    | day d => rfl
    | timestamp t => rfl
    | dateLiteral resolved => exact Outcome.map_eq_ok.2 ⟨_, resolved, rfl⟩

theorem kindProblems_single_eq_nil_iff {f : Field} (kind : f.kind = .array) {v : Value} (single : ∀ vs, v ≠ .list vs) :
    kindProblems limits now f v = .ok [] ↔ isIdOrName v = true := by
  simp only [kindProblems, kind]
  rw [Except.ok.injEq, problemUnless_eq_nil_iff]

theorem kindProblems_array_eq_nil_iff {f : Field} (kind : f.kind = .array) {v : Value} :
    kindProblems limits now f v = .ok [] ↔ v.Fits limits now .array := by
  by_cases listed : ∃ vs, v = .list vs
  · obtain ⟨vs, rfl⟩ := listed
    rw [kindProblems_list_eq_nil_iff kind]
    simp only [isIdOrName_iff]
    constructor
    · rintro ⟨few, each⟩
      exact .items few each
    · intro fits
      cases fits with
      | item single => cases single
      | items few each => exact ⟨few, each⟩
  · rw [kindProblems_single_eq_nil_iff kind (not_exists.1 listed), isIdOrName_iff]
    constructor
    · exact .item
    · intro fits
      cases fits with
      | item single => exact single
      | items => exact absurd ⟨_, rfl⟩ listed

/-- The value of a condition has no problems for the kind of its field exactly if it is a value for this kind. -/
theorem kindProblems_eq_nil_iff {f : Field} {v : Value} :
    kindProblems limits now f v = .ok [] ↔ v.Fits limits now f.kind := by
  cases kind : f.kind with
  | boolean => rw [kindProblems_boolean_eq_nil_iff kind, isTruthValue_iff]
  | number => rw [kindProblems_number_eq_nil_iff kind, isFiniteNumber_iff]
  | date => rw [kindProblems_date_eq_nil_iff kind, isDate_iff]
  | array => exact kindProblems_array_eq_nil_iff kind
  | string =>
    simp only [kindProblems, kind]
    constructor
    · intro none
      cases v with
      | str s => exact .string s
      | _ => cases none
    · intro fits
      cases fits
      rfl

theorem present_of_fits {kind : Kind} {v : Value} (fits : v.Fits limits now kind) : v ≠ .null := by
  rintro rfl
  cases fits with
  | item single => cases single

theorem valueProblems_eq_nil_iff_fits {f : Field} {v : Value} :
    valueProblems limits now f v = .ok [] ↔ v.Fits limits now f.kind ∧ ∀ s, v.Carries s → limits.AdmitsText s := by
  rw [valueProblems_eq_nil_iff, kindProblems_eq_nil_iff]
  simp only [mem_texts_iff]
  refine ⟨And.right, fun legal => ⟨?_, legal⟩⟩
  have present := present_of_fits legal.1
  cases v with
  | null => exact absurd rfl present
  | _ => rfl

theorem acceptedCondition_iff {c : Value} : AcceptedCondition limits now c ↔ c.LegalCondition limits now := by
  constructor
  · rintro ⟨single, legal⟩
    cases c with
    | dict entries =>
      obtain ⟨name, f, spelling, op, field, named, operator, spelled, suits, values⟩ := partsProblems_eq_nil_iff.1 legal
      obtain ⟨fits, admitted⟩ := valueProblems_eq_nil_iff_fits.1 values
      obtain ⟨noConditions, noGroups⟩ := Value.isNode_dict_eq_false_iff.1 single
      exact .intro noConditions noGroups ((Value.get_dict_eq_iff (by simp)).1 field) (Reading.isForbidden_of_ofName? named)
        named ((Value.get_dict_eq_iff (by simp)).1 operator) spelled suits
        ((Value.get_dict_eq_iff (present_of_fits fits)).1 rfl) fits admitted
    | _ => cases legal
  · rintro ⟨noConditions, noGroups, field, _, named, operator, spelled, suits, value, fits, admitted⟩
    refine ⟨Value.isNode_dict_eq_false_iff.2 ⟨noConditions, noGroups⟩, partsProblems_eq_nil_iff.2 ?_⟩
    have found := (Value.get_dict_eq_iff (present_of_fits fits)).2 value
    refine ⟨_, _, _, _, (Value.get_dict_eq_iff (by simp)).2 field, named, (Value.get_dict_eq_iff (by simp)).2 operator,
      spelled, suits, ?_⟩
    rw [found]
    exact valueProblems_eq_nil_iff_fits.2 ⟨fits, admitted⟩

theorem isJoiner_namedJoiner_iff {entries : List (String × Value)} :
    isJoiner (namedJoiner (.dict entries)) = true ↔ Value.NamesJoiner entries := by
  rw [isJoiner_iff, namedJoiner, Value.NamesJoiner, Value.hasKey, Value.get]
  cases lookup? "operator" entries with
  | none => exact iff_of_true ⟨.and, rfl⟩ fun v named => absurd named.symm (Option.some_ne_none v)
  | some v => simp

theorem acceptedGroup_iff {g : Value} : AcceptedGroup limits now g ↔ g.LegalGroup limits now := by
  constructor
  · rintro ⟨joiner, nonempty, conditions⟩
    cases g with
    | dict entries =>
      refine .intro (isJoiner_namedJoiner_iff.1 joiner) ((Value.itemsAt_dict_eq_iff nonempty).1 rfl) nonempty ?_
      exact fun c member => acceptedCondition_iff.1 (conditions c member)
    | _ => exact absurd rfl nonempty
  · rintro ⟨joiner, conditions, nonempty, legal⟩
    have items := (Value.itemsAt_dict_eq_iff nonempty).2 conditions
    refine ⟨isJoiner_namedJoiner_iff.2 joiner, ?_, ?_⟩
    all_goals rw [items]
    · exact nonempty
    · exact fun c member => acceptedCondition_iff.2 (legal c member)

/-- A wire form is valid exactly if its entries are those of a filter that no check objects to. -/
theorem wireVerdict_isValid_iff_legal {v : Value} :
    (∃ verdict, wireVerdict limits now v = .ok verdict ∧ verdict.isValid = true) ↔ v.LegalFilter limits now := by
  rw [wireVerdict_isValid_iff]
  constructor
  · rintro ⟨joiner, nonempty, depth, count, groups⟩
    cases v with
    | dict entries =>
      exact .intro (isJoiner_namedJoiner_iff.1 joiner) ((Value.itemsAt_dict_eq_iff nonempty).1 rfl) nonempty
        (fun g member => acceptedGroup_iff.1 (groups g member)) depth count
    | _ => exact absurd rfl nonempty
  · rintro ⟨joiner, groups, nonempty, legal, depth, count⟩
    have items := (Value.itemsAt_dict_eq_iff nonempty).2 groups
    refine ⟨isJoiner_namedJoiner_iff.2 joiner, ?_, depth, count, ?_⟩
    all_goals rw [items]
    · exact nonempty
    · exact fun g member => acceptedGroup_iff.2 (legal g member)

end Check

end TaskQuery
