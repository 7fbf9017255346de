import TaskQuery.Proofs.FilterVerdict
import TaskQuery.Proofs.WireRoundTrip

namespace TaskQuery

open Check

theorem map_eq_map_of_forall₂ {α β γ : Type} {R : α → β → Prop} {f : α → γ} {h : β → γ} {as : List α} {bs : List β}
    (same : ∀ a b, R a b → f a = h b) (related : List.Forall₂ R as bs) : as.map f = bs.map h := by
  rw [← List.forall₂_eq_eq_eq, List.forall₂_map_left_iff, List.forall₂_map_right_iff]
  exact related.imp same

theorem eq_nil_iff_of_forall₂ {α β : Type} {R : α → β → Prop} {as : List α} {bs : List β}
    (related : List.Forall₂ R as bs) : as = [] ↔ bs = [] := by
  rw [← List.length_eq_zero_iff, related.length_eq, List.length_eq_zero_iff]

theorem lookup?_eq_none {names : List String} {entries : List (String × Value)} {key : String}
    (known : ∀ entry ∈ entries, entry.1 ∈ names) (other : key ∉ names) : lookup? key entries = none := by
  induction entries with
  | nil => rfl
  | cons entry entries ih =>
    obtain ⟨first, others⟩ := List.forall_mem_cons.1 known
    have different : entry.1 ≠ key := fun same => other (same ▸ first)
    rw [lookup?, if_neg different, ih others]

theorem namedJoiner_of_namedBy {entries : List (String × Value)} {j : Joiner} (named : j.NamedBy entries) :
    namedJoiner (.dict entries) = .str j.symbol := by
  rcases named with found | ⟨missing, rfl⟩
  · simp [namedJoiner, Value.hasKey, Value.get, found]
  · simp [namedJoiner, Value.hasKey, missing]

namespace Condition

variable {v : Value} {c : Condition}

theorem WireForm.isNode (wire : WireForm v c) : v.isNode = false := by
  cases wire with
  | intro known =>
    have noConditions : lookup? "conditions" _ = none := lookup?_eq_none known (by decide)
    have noGroups : lookup? "groups" _ = none := lookup?_eq_none known (by decide)
    simp [Value.isNode, Value.hasKey, noConditions, noGroups]

/-- The problems of a wire form are those of the operator and of the value, whatever the names in it are. -/
theorem WireForm.problems (wire : WireForm v c) (limits : Limits) (now : Timestamp) :
    conditionProblems limits now v =
      (valueProblems limits now c.field c.operand.toValue).map
        (problemUnless (c.field.kind.allows c.operator) (.unsuitableOperator c.operator c.field) ++ ·) := by
  cases wire with
  | @intro entries name spelling _ _ field named operator spelled value =>
    have parts : conditionProblems limits now (.dict entries) =
        partsProblems limits now (.str name) (.str spelling) c.operand.toValue := by
      simp [conditionProblems, Value.get, field, operator, value]
    rw [parts, partsProblems_of_spelled named spelled]

end Condition

theorem Check.memberProblems_congr {vs ws : List Value} {cs : List Condition} (limits : Limits) (now : Timestamp)
    (first : List.Forall₂ Condition.WireForm vs cs) (second : List.Forall₂ Condition.WireForm ws cs) (group number : Nat) :
    memberProblems limits now group number vs = memberProblems limits now group number ws := by
  induction first generalizing ws number with
  | nil =>
    cases second
    rfl
  | cons wire _ ih =>
    cases second with
    | cons other others =>
      rw [memberProblems, memberProblems, ih others, wire.isNode, other.isNode, wire.problems, other.problems]

namespace Group

variable {v : Value} {g : Group Condition}

theorem WireForm.itemsAt (wire : WireForm v g) :
    List.Forall₂ Condition.WireForm (v.itemsAt "conditions") g.conditions := by
  cases wire with
  | intro _ found related _ => simpa [Value.itemsAt, Value.get, found] using related

theorem WireForm.children (wire : WireForm v g) : v.children = v.itemsAt "conditions" := by
  cases wire with
  | intro known =>
    have noGroups : lookup? "groups" _ = none := lookup?_eq_none known (by decide)
    rw [Value.children_eq]
    simp [Value.hasKey, noGroups]

theorem WireForm.isNode (wire : WireForm v g) : v.isNode = true := by
  cases wire with
  | intro _ found => simp [Value.isNode, Value.hasKey, found]

theorem WireForm.leaves (wire : WireForm v g) : ∀ c ∈ v.children, c.isNode = false := by
  rw [wire.children]
  exact forall_mem_of_forall₂ (fun _ _ condition => Condition.WireForm.isNode condition) wire.itemsAt.flip

theorem WireForm.levels (wire : WireForm v g) : v.levels = 1 :=
  Value.levels_of_leaves wire.leaves

theorem WireForm.leafCount (wire : WireForm v g) : v.leafCount = g.conditions.length := by
  rw [Value.leafCount_of_leaves wire.leaves, wire.children, wire.itemsAt.length_eq]

theorem WireForm.joined (wire : WireForm v g) : isJoiner (namedJoiner v) = true := by
  cases wire with
  | intro _ _ _ named =>
    rw [namedJoiner_of_namedBy named]
    exact isJoiner_symbol _

theorem WireForm.problems_of_empty (wire : WireForm v g) (empty : g.conditions = []) (limits : Limits) (now : Timestamp)
    (number : Nat) : groupProblems limits now number v = .ok [.emptyGroup number] := by
  have joined := wire.joined
  have none := (eq_nil_iff_of_forall₂ wire.itemsAt).2 empty
  cases wire with
  | intro => exact groupProblems_of_empty joined none number

/-- All wire forms of a group have the same problems. -/
theorem WireForm.problems_eq {w : Value} (first : WireForm v g) (second : WireForm w g) (limits : Limits) (now : Timestamp)
    (number : Nat) : groupProblems limits now number v = groupProblems limits now number w := by
  by_cases empty : g.conditions = []
  · rw [first.problems_of_empty empty, second.problems_of_empty empty]
  · rw [groupProblems_of_joined first.joined (mt (eq_nil_iff_of_forall₂ first.itemsAt).1 empty),
      groupProblems_of_joined second.joined (mt (eq_nil_iff_of_forall₂ second.itemsAt).1 empty),
      memberProblems_congr limits now first.itemsAt second.itemsAt]

end Group

theorem Check.groupsProblems_congr {vs ws : List Value} {gs : List (Group Condition)} (limits : Limits) (now : Timestamp)
    (first : List.Forall₂ Group.WireForm vs gs) (second : List.Forall₂ Group.WireForm ws gs) (number : Nat) :
    groupsProblems limits now number vs = groupsProblems limits now number ws := by
  induction first generalizing ws number with
  | nil =>
    cases second
    rfl
  | cons wire _ ih =>
    cases second with
    | cons other others => rw [groupsProblems, groupsProblems, ih others, wire.problems_eq other]

namespace Filter

variable {v : Value} {e : Filter}

theorem WireForm.itemsAt (wire : WireForm v e) : List.Forall₂ Group.WireForm (v.itemsAt "groups") e.groups := by
  cases wire with
  | intro _ found related _ => simpa [Value.itemsAt, Value.get, found] using related

theorem WireForm.children (wire : WireForm v e) : v.children = v.itemsAt "groups" := by
  cases wire with
  | intro _ found =>
    rw [Value.children_eq]
    simp [Value.hasKey, found]

theorem WireForm.nodes (wire : WireForm v e) : ∀ g ∈ v.children, g.isNode = true := by
  rw [wire.children]
  exact forall_mem_of_forall₂ (fun _ _ group => Group.WireForm.isNode group) wire.itemsAt.flip

theorem WireForm.levels (wire : WireForm v e) : v.levels = (e.groups.map fun _ => 1).foldr max 0 + 1 := by
  rw [Value.levels_of_nodes wire.nodes, wire.children,
    map_eq_map_of_forall₂ (fun _ _ group => Group.WireForm.levels group) wire.itemsAt]

theorem WireForm.conditionCount (wire : WireForm v e) : conditionCount v = e.conditions.length := by
  rw [conditionCount_eq, Value.leafCount_of_nodes wire.nodes, wire.children,
    map_eq_map_of_forall₂ (fun _ _ group => Group.WireForm.leafCount group) wire.itemsAt, Expression.conditions,
    List.length_flatMap]

theorem WireForm.joined (wire : WireForm v e) : isJoiner (namedJoiner v) = true := by
  cases wire with
  | intro _ _ _ named =>
    rw [namedJoiner_of_namedBy named]
    exact isJoiner_symbol _

theorem WireForm.verdict_of_empty (wire : WireForm v e) (empty : e.groups = []) (limits : Limits) (now : Timestamp) :
    wireVerdict limits now v = .ok (.ofProblems [.noGroups]) := by
  have joined := wire.joined
  have none := (eq_nil_iff_of_forall₂ wire.itemsAt).2 empty
  cases wire with
  | intro => exact wireVerdict_of_empty joined none

/-- All wire forms of a filter have the same verdict. -/
theorem WireForm.verdict_eq {w : Value} (first : WireForm v e) (second : WireForm w e) (limits : Limits) (now : Timestamp) :
    wireVerdict limits now v = wireVerdict limits now w := by
  by_cases empty : e.groups = []
  · rw [first.verdict_of_empty empty, second.verdict_of_empty empty]
  · have levels : v.levels = w.levels := by rw [first.levels, second.levels]
    rw [wireVerdict_of_joined first.joined (mt (eq_nil_iff_of_forall₂ first.itemsAt).1 empty),
      wireVerdict_of_joined second.joined (mt (eq_nil_iff_of_forall₂ second.itemsAt).1 empty), groupsVerdict, groupsVerdict,
      nestingDepth_congr levels, first.conditionCount, second.conditionCount,
      groupsProblems_congr limits now first.itemsAt second.itemsAt]

/-- The verdict on an admitted wire form, or the fault in its place, is that on the filter: the same problems in the same
order, and the same warnings. -/
theorem wireVerdict_of_ofValue (admitted : Filter.ofValue v = .ok e) (limits : Limits) (now : Timestamp) :
    wireVerdict limits now v = filterVerdict limits now e := by
  have wire := Filter.ofValue_eq_ok_iff.1 admitted
  exact wire.verdict_eq (Filter.wireForm_toValue wire.plain) limits now

/-- Other spellings, no joiner between the groups and an empty group: every problem is found in its place. -/
theorem wireVerdict_of_ofValue_spelled :
    let limits : Limits := { warnConditions := 1 }
    let now : Timestamp := ⟨⟨0, by decide⟩, none⟩
    let v : Value := .dict [("groups", .list [
      .dict [("conditions", .list [
        .dict [("field", .str "due_date"), ("operator", .str "Not  In"), ("value", .list [.str "now"])],
        .dict [("value", .str "<script"), ("operator", .str "LIKE"), ("field", .str "title")]])],
      .dict [("operator", .str "||"), ("conditions", .list [])]])]
    let e : Filter := ⟨[⟨[⟨.dueDate, .notIn, .many [.str "now"]⟩, ⟨.title, .like, .one (.str "<script")⟩], .and⟩,
      ⟨[], .or⟩], .and⟩
    Filter.ofValue v = .ok e ∧ wireVerdict limits now v = filterVerdict limits now e ∧
      filterVerdict limits now e = .ok ⟨[.condition 1 1 (.unsuitableOperator .notIn .dueDate),
        .condition 1 1 (.notDate .dueDate), .condition 1 2 (.disallowedContent .title), .emptyGroup 2],
        [.manyConditions 2]⟩ := by
  intro limits now v e
  have admitted : Filter.ofValue v = .ok e := by decide +kernel
  exact ⟨admitted, Filter.wireVerdict_of_ofValue admitted limits now, by decide +kernel⟩

end Filter

end TaskQuery
