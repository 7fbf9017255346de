import Mathlib.Data.List.Forall2
import TaskQuery.Outcome
import TaskQuery.Proofs.GrammarReading
import TaskQuery.Record.FilterRecord

namespace TaskQuery

namespace Admission

section Parts

variable {α β : Type}

theorem both_eq_ok_iff {a : Admission α} {b : Admission β} {x : α} {y : β} :
    both a b = .ok (x, y) ↔ a = .ok x ∧ b = .ok y := by
  cases a <;> cases b <;> simp [both]

theorem ap_eq_ok_iff {f : Admission (α → β)} {a : Admission α} {b : β} :
    ap f a = .ok b ↔ ∃ g x, f = .ok g ∧ a = .ok x ∧ g x = b := by
  rw [ap, Outcome.map_eq_ok]
  constructor
  · rintro ⟨⟨g, x⟩, found, eq⟩
    obtain ⟨first, second⟩ := both_eq_ok_iff.1 found
    exact ⟨g, x, first, second, eq⟩
  · rintro ⟨g, x, first, second, eq⟩
    exact ⟨(g, x), both_eq_ok_iff.2 ⟨first, second⟩, eq⟩

theorem under_eq_ok_iff {key : String} {a : Admission α} {x : α} : under key a = .ok x ↔ a = .ok x := by
  cases a <;> simp [under, Except.mapError]

variable {accept : Value → Admission α} {entries : List (String × Value)} {key : String} {x : α}

theorem required_eq_ok_iff : required key accept entries = .ok x ↔ ∃ v, lookup? key entries = some v ∧ accept v = .ok x := by
  rw [required, under_eq_ok_iff]
  cases lookup? key entries <;> simp [refuse]

theorem withDefault_eq_ok_iff {default : α} :
    withDefault key default accept entries = .ok x ↔
      (∃ v, lookup? key entries = some v ∧ accept v = .ok x) ∨ (lookup? key entries = none ∧ x = default) := by
  rw [withDefault]
  cases lookup? key entries with
  | none => simp [eq_comm]
  | some v => simp [under_eq_ok_iff]

theorem only_eq_ok_iff {known : List String} {a : Admission α} :
    only known entries a = .ok x ↔ (∀ entry ∈ entries, entry.1 ∈ known) ∧ a = .ok x := by
  have strict : ((entries.map Prod.fst).filter (!known.contains ·)).isEmpty = true ↔
      ∀ entry ∈ entries, entry.1 ∈ known := by
    simp [List.filter_eq_nil_iff]
  rw [only, Outcome.map_eq_ok]
  constructor
  · rintro ⟨⟨y, _⟩, found, rfl⟩
    obtain ⟨admitted, unknown⟩ := both_eq_ok_iff.1 found
    split at unknown
    · rename_i empty
      exact ⟨strict.1 empty, admitted⟩
    · cases unknown
  · rintro ⟨within, admitted⟩
    refine ⟨(x, ()), both_eq_ok_iff.2 ⟨admitted, ?_⟩, rfl⟩
    rw [if_pos (strict.2 within)]

theorem itemsFrom_eq_ok_iff {index : Nat} {vs : List Value} {xs : List α} :
    itemsFrom accept index vs = .ok xs ↔ List.Forall₂ (fun v x => accept v = .ok x) vs xs := by
  induction vs generalizing index xs with
  | nil =>
    rw [itemsFrom, List.forall₂_nil_left_iff, Except.ok.injEq, eq_comm]
  | cons v vs ih =>
    rw [itemsFrom, Outcome.map_eq_ok, List.forall₂_cons_left_iff]
    constructor
    · rintro ⟨⟨y, ys⟩, found, rfl⟩
      obtain ⟨first, others⟩ := both_eq_ok_iff.1 found
      exact ⟨y, ys, under_eq_ok_iff.1 first, ih.1 others, rfl⟩
    · rintro ⟨y, ys, first, others, rfl⟩
      exact ⟨(y, ys), both_eq_ok_iff.2 ⟨under_eq_ok_iff.2 first, ih.2 others⟩, rfl⟩

theorem list_eq_ok_iff {v : Value} {xs : List α} :
    list accept v = .ok xs ↔ ∃ vs, v = .list vs ∧ List.Forall₂ (fun v x => accept v = .ok x) vs xs := by
  cases v <;> simp [list, refuse, itemsFrom_eq_ok_iff]

theorem entries_bind_eq_ok_iff {record : String} {v : Value} {parts : List (String × Value) → Admission α} :
    (Admission.entries record v).bind parts = .ok x ↔ ∃ entries, v = .dict entries ∧ parts entries = .ok x := by
  cases v <;> simp [Admission.entries, refuse, Except.bind]

end Parts

end Admission

theorem forall_mem_of_forall₂ {α β : Type} {R : α → β → Prop} {property : β → Prop} {as : List α} {bs : List β}
    (each : ∀ a b, R a b → property b) (related : List.Forall₂ R as bs) : ∀ b ∈ bs, property b := by
  induction related with
  | nil => exact List.forall_mem_nil _
  | cons first _ ih => exact List.forall_mem_cons.2 ⟨each _ _ first, ih⟩

/-- What an admitted condition compares with: a truth value, a number, a text, or several of these. -/
def Operand.Plain : Operand → Prop
  | one v => Admission.isScalar v = true
  | many vs => ∀ v ∈ vs, Admission.isScalar v = true

/-- A wire form of a condition. The field has a name that the catalogue knows, and the operator any of its spellings. -/
inductive Condition.WireForm : Value → Condition → Prop
  | intro {entries : List (String × Value)} {name spelling : String} {c : Condition} :
      (∀ entry ∈ entries, entry.1 ∈ ["field", "operator", "value"]) →
      lookup? "field" entries = some (.str name) → Field.ofName? name = some c.field →
      lookup? "operator" entries = some (.str spelling) → Operator.ofSpelling? spelling = some c.operator →
      lookup? "value" entries = some c.operand.toValue → c.operand.Plain → WireForm (.dict entries) c

/-- Whether the entries of a wire form name a joiner; where they name none, it is *and*. -/
def Joiner.NamedBy (entries : List (String × Value)) (j : Joiner) : Prop :=
  lookup? "operator" entries = some (.str j.symbol) ∨ (lookup? "operator" entries = none ∧ j = .and)

/-- A wire form of a group, which may be empty. -/
inductive Group.WireForm : Value → Group Condition → Prop
  | intro {entries : List (String × Value)} {members : List Value} {g : Group Condition} :
      (∀ entry ∈ entries, entry.1 ∈ ["conditions", "operator"]) →
      lookup? "conditions" entries = some (.list members) → List.Forall₂ Condition.WireForm members g.conditions →
      g.joiner.NamedBy entries → WireForm (.dict entries) g

/-- A wire form of a filter, which may be empty. -/
inductive Filter.WireForm : Value → Filter → Prop
  | intro {entries : List (String × Value)} {members : List Value} {e : Filter} :
      (∀ entry ∈ entries, entry.1 ∈ ["groups", "operator"]) →
      lookup? "groups" entries = some (.list members) → List.Forall₂ Group.WireForm members e.groups →
      e.joiner.NamedBy entries → WireForm (.dict entries) e

namespace Admission

theorem fieldName_eq_ok_iff {v : Value} {f : Field} :
    fieldName v = .ok f ↔ ∃ name, v = .str name ∧ Field.ofName? name = some f := by
  cases v with
  | str name =>
    simp only [fieldName, Value.str.injEq, exists_eq_left']
    by_cases forbidden : Field.isForbidden name = true
    · simp [forbidden, refuse, Reading.ofName?_of_isForbidden forbidden]
    · cases Field.ofName? name <;> simp [forbidden, refuse]
  | _ => simp [fieldName, refuse]

theorem operator_eq_ok_iff {v : Value} {op : Operator} :
    operator v = .ok op ↔ ∃ spelling, v = .str spelling ∧ Operator.ofSpelling? spelling = some op := by
  cases v with
  | str spelling =>
    simp only [operator, Value.str.injEq, exists_eq_left']
    cases Operator.ofSpelling? spelling <;> simp [refuse]
  | _ => simp [operator, refuse]

theorem joiner_eq_ok_iff {v : Value} {j : Joiner} : joiner v = .ok j ↔ v = .str j.symbol := by
  cases v with
  | str s =>
    rw [Value.str.injEq, ← Joiner.ofSymbol?_eq_some_iff, joiner]
    cases Joiner.ofSymbol? s <;> simp [refuse]
  | _ => simp [joiner, refuse]

theorem scalar_eq_ok_iff {v w : Value} : scalar v = .ok w ↔ isScalar v = true ∧ w = v := by
  rw [scalar]
  split
  · rename_i single
    simp [single, eq_comm]
  · rename_i other
    simp [other]

theorem scalars_iff {vs ws : List Value} :
    List.Forall₂ (fun v w => scalar v = .ok w) vs ws ↔ ws = vs ∧ ∀ v ∈ vs, isScalar v = true := by
  simp only [scalar_eq_ok_iff]
  induction vs generalizing ws with
  | nil => simp
  | cons v vs ih =>
    rw [List.forall₂_cons_left_iff, List.forall_mem_cons]
    constructor
    · rintro ⟨w, ws, ⟨single, rfl⟩, others, rfl⟩
      obtain ⟨rfl, singles⟩ := ih.1 others
      exact ⟨rfl, single, singles⟩
    · rintro ⟨rfl, single, singles⟩
      exact ⟨v, vs, ⟨single, rfl⟩, ih.2 ⟨rfl, singles⟩, rfl⟩

theorem operand_eq_ok_iff {v : Value} {o : Operand} : operand v = .ok o ↔ v = o.toValue ∧ o.Plain := by
  by_cases single : isScalar v = true
  · rw [operand, if_pos single]
    cases o with
    | one w =>
      simp only [Except.ok.injEq, Operand.one.injEq, Operand.toValue, Operand.Plain]
      refine ⟨?_, And.left⟩
      rintro rfl
      exact ⟨rfl, single⟩
    | many ws =>
      refine iff_of_false (fun same => by cases same) ?_
      rintro ⟨rfl, -⟩
      cases single
  · rw [operand, if_neg single]
    cases found : list scalar v with
    | ok vs =>
      obtain ⟨items, rfl, each⟩ := list_eq_ok_iff.1 found
      obtain ⟨rfl, singles⟩ := scalars_iff.1 each
      cases o with
      | one w =>
        refine iff_of_false (fun same => by cases same) ?_
        rintro ⟨rfl, plain⟩
        exact single plain
      | many ws =>
        simp only [Except.ok.injEq, Operand.many.injEq, Operand.toValue, Operand.Plain, Value.list.injEq]
        refine ⟨?_, And.left⟩
        rintro rfl
        exact ⟨rfl, singles⟩
    | error complaints =>
      refine iff_of_false (fun same => by cases same) ?_
      rintro ⟨rfl, plain⟩
      cases o with
      | one w => exact single plain
      | many ws =>
        have listed := list_eq_ok_iff.2 ⟨ws, rfl, scalars_iff.2 ⟨rfl, plain⟩⟩
        rw [Operand.toValue, listed] at found
        cases found

theorem named_iff {entries : List (String × Value)} {j : Joiner} :
    withDefault "operator" .and joiner entries = .ok j ↔ j.NamedBy entries := by
  rw [withDefault_eq_ok_iff, Joiner.NamedBy]
  simp only [joiner_eq_ok_iff, exists_eq_right]

theorem condition_eq_ok_iff {v : Value} {c : Condition} : condition v = .ok c ↔ c.WireForm v := by
  rw [condition, entries_bind_eq_ok_iff]
  simp only [only_eq_ok_iff, ap_eq_ok_iff, Outcome.map_eq_ok, required_eq_ok_iff, fieldName_eq_ok_iff,
    operator_eq_ok_iff, operand_eq_ok_iff]
  constructor
  · rintro ⟨entries, rfl, known, _, o, ⟨_, op, ⟨f, ⟨_, field, name, rfl, named⟩, rfl⟩,
      ⟨_, operator, spelling, rfl, spelled⟩, rfl⟩, ⟨_, value, rfl, plain⟩, rfl⟩
    exact .intro known field named operator spelled value plain
  · rintro ⟨known, field, named, operator, spelled, value, plain⟩
    exact ⟨_, rfl, known, _, _, ⟨_, _, ⟨_, ⟨_, field, _, rfl, named⟩, rfl⟩, ⟨_, operator, _, rfl, spelled⟩, rfl⟩,
      ⟨_, value, rfl, plain⟩, rfl⟩

theorem group_eq_ok_iff {v : Value} {g : Group Condition} : group v = .ok g ↔ Group.WireForm v g := by
  rw [group, entries_bind_eq_ok_iff]
  simp only [only_eq_ok_iff, ap_eq_ok_iff, Outcome.map_eq_ok, required_eq_ok_iff, list_eq_ok_iff, condition_eq_ok_iff,
    named_iff]
  constructor
  · rintro ⟨entries, rfl, known, _, j, ⟨cs, ⟨_, conditions, vs, rfl, each⟩, rfl⟩, named, rfl⟩
    exact .intro known conditions each named
  · rintro ⟨known, conditions, each, named⟩
    exact ⟨_, rfl, known, _, _, ⟨_, ⟨_, conditions, _, rfl, each⟩, rfl⟩, named, rfl⟩

end Admission

/-- A wire form is admitted as a filter exactly if it is one of the filter. -/
theorem Filter.ofValue_eq_ok_iff {v : Value} {e : Filter} : Filter.ofValue v = .ok e ↔ Filter.WireForm v e := by
  rw [Filter.ofValue, Admission.expression, Admission.entries_bind_eq_ok_iff]
  simp only [Admission.only_eq_ok_iff, Admission.ap_eq_ok_iff, Outcome.map_eq_ok, Admission.required_eq_ok_iff,
    Admission.list_eq_ok_iff, Admission.group_eq_ok_iff, Admission.named_iff]
  constructor
  · rintro ⟨entries, rfl, known, _, j, ⟨gs, ⟨_, groups, vs, rfl, each⟩, rfl⟩, named, rfl⟩
    exact .intro known groups each named
  · rintro ⟨known, groups, each, named⟩
    exact ⟨_, rfl, known, _, _, ⟨_, ⟨_, groups, _, rfl, each⟩, rfl⟩, named, rfl⟩

/-- The values of an admitted filter are plain. -/
theorem Filter.WireForm.plain {v : Value} {e : Filter} (wire : Filter.WireForm v e) :
    ∀ c ∈ e.conditions, c.operand.Plain := by
  cases wire with
  | intro _ _ groups _ =>
    refine List.forall_mem_flatMap.2 (forall_mem_of_forall₂ (fun _ _ group => ?_) groups)
    cases group with
    | intro _ _ conditions _ =>
      refine forall_mem_of_forall₂ (fun _ _ condition => ?_) conditions
      cases condition with
      | intro _ _ _ _ _ _ plain => exact plain

end TaskQuery
