import TaskQuery.Check.Nesting
import TaskQuery.Filter.Wire

namespace TaskQuery

namespace Value

/-- The items of the list under a key; none where there is no list. -/
def itemsAt (v : Value) (key : String) : List Value :=
  match v.get key with
  | list items => items
  | _ => []

theorem children_eq (v : Value) :
    v.children = if v.hasKey "groups" then v.itemsAt "groups" else v.itemsAt "conditions" := by
  by_cases inGroups : v.hasKey "groups" = true
  · rw [children, if_pos inGroups, if_pos inGroups]
    rfl
  · rw [children, if_neg inGroups, if_neg inGroups]
    rfl

theorem hasKey_of_itemsAt {v : Value} {key : String} (some : v.itemsAt key ≠ []) : v.hasKey key = true := by
  cases v with
  | dict entries =>
    cases found : lookup? key entries with
    | none => simp [itemsAt, get, found] at some
    | some => simp [hasKey, found]
  | _ => exact absurd rfl some

theorem sizeOf_le_totalSize {v : Value} {vs : List Value} (member : v ∈ vs) : sizeOf v ≤ totalSize vs := by
  induction member with
  | head => exact Nat.le_add_right _ _
  | tail w _ ih => exact Nat.le_trans ih (Nat.le_add_left _ _)

theorem sizeOf_lt_of_mem_childNodes {child v : Value} (member : child ∈ v.childNodes) : sizeOf child < sizeOf v :=
  Nat.lt_of_le_of_lt (sizeOf_le_totalSize member) v.totalSize_childNodes_lt

/-- The levels of a node: its own and those of the deepest node among its children. -/
def levels (v : Value) : Nat :=
  (v.childNodes.attach.map fun child => child.1.levels).foldr max 0 + 1
termination_by sizeOf v
decreasing_by exact sizeOf_lt_of_mem_childNodes child.2

/-- The children that are no nodes, of a node and of all nodes below it. -/
def leafCount (v : Value) : Nat :=
  (v.children.filter (!·.isNode)).length + (v.childNodes.attach.map fun child => child.1.leafCount).sum
termination_by sizeOf v
decreasing_by exact sizeOf_lt_of_mem_childNodes child.2

theorem levels_eq (v : Value) : v.levels = (v.childNodes.map levels).foldr max 0 + 1 := by
  rw [levels, List.attach_map_val]

theorem leafCount_eq (v : Value) :
    v.leafCount = (v.children.filter (!·.isNode)).length + (v.childNodes.map leafCount).sum := by
  rw [leafCount, List.attach_map_val]

section Children

variable {v : Value}

theorem childNodes_of_leaves (leaves : ∀ child ∈ v.children, child.isNode = false) : v.childNodes = [] := by
  rw [childNodes, List.filter_eq_nil_iff]
  exact fun child member => by rw [leaves child member]; exact Bool.false_ne_true

/-- A node without nodes among its children has one level. -/
theorem levels_of_leaves (leaves : ∀ child ∈ v.children, child.isNode = false) : v.levels = 1 := by
  rw [levels_eq, childNodes_of_leaves leaves]
  rfl

theorem leafCount_of_leaves (leaves : ∀ child ∈ v.children, child.isNode = false) : v.leafCount = v.children.length := by
  have all : v.children.filter (!·.isNode) = v.children :=
    List.filter_eq_self.2 fun child member => by rw [leaves child member]; rfl
  rw [leafCount_eq, childNodes_of_leaves leaves, all]
  rfl

theorem childNodes_of_nodes (nodes : ∀ child ∈ v.children, child.isNode = true) : v.childNodes = v.children :=
  List.filter_eq_self.2 nodes

theorem levels_of_nodes (nodes : ∀ child ∈ v.children, child.isNode = true) :
    v.levels = (v.children.map levels).foldr max 0 + 1 := by
  rw [levels_eq, childNodes_of_nodes nodes]

/-- A node with nodes alone among its children counts what lies below these. -/
theorem leafCount_of_nodes (nodes : ∀ child ∈ v.children, child.isNode = true) :
    v.leafCount = (v.children.map leafCount).sum := by
  have none : v.children.filter (!·.isNode) = [] := by
    rw [List.filter_eq_nil_iff]
    exact fun child member => by rw [nodes child member]; exact Bool.false_ne_true
  rw [leafCount_eq, childNodes_of_nodes nodes, none]
  exact Nat.zero_add _

end Children

end Value

theorem foldr_max_le_iff {ns : List Nat} {start bound : Nat} :
    ns.foldr max start ≤ bound ↔ start ≤ bound ∧ ∀ n ∈ ns, n ≤ bound := by
  induction ns with
  | nil => simp
  | cons n ns ih =>
    rw [List.foldr_cons, Nat.max_le, ih, List.forall_mem_cons]
    exact and_left_comm

theorem Value.levels_le_succ_iff {v : Value} {bound : Nat} :
    v.levels ≤ bound + 1 ↔ ∀ child ∈ v.childNodes, child.levels ≤ bound := by
  rw [v.levels_eq, Nat.add_le_add_iff_right, foldr_max_le_iff, List.forall_mem_map]
  exact and_iff_right (Nat.zero_le bound)

theorem Value.levels_pos (v : Value) : 0 < v.levels := by
  rw [v.levels_eq]
  exact Nat.succ_pos _

/-- Counting on from some pending nodes adds what lies below them. -/
theorem countFrom_eq (total : Nat) (pending : List Value) :
    countFrom total pending = total + (pending.map Value.leafCount).sum := by
  fun_induction countFrom total pending with
  | case1 => rfl
  | case2 total node pending ih =>
    have reversed : (node.childNodes.reverse.map Value.leafCount).sum = (node.childNodes.map Value.leafCount).sum := by
      rw [List.map_reverse, List.sum_reverse]
    rw [ih, List.map_append, List.sum_append, reversed, List.map_cons, List.sum_cons, node.leafCount_eq]
    omega

theorem conditionCount_eq (v : Value) : conditionCount v = v.leafCount := by
  rw [conditionCount, countFrom_eq]
  simp

/-- The deepest level below some pending nodes, which stand at the given depths; at least the deepest so far. -/
def deepestBelow (deepest : Nat) (pending : List (Value × Nat)) : Nat :=
  (pending.map fun step => step.1.levels + step.2 - 1).foldr max deepest

theorem deepestBelow_le_iff {deepest bound : Nat} {pending : List (Value × Nat)} :
    deepestBelow deepest pending ≤ bound ↔ deepest ≤ bound ∧ ∀ step ∈ pending, step.1.levels + step.2 ≤ bound + 1 := by
  rw [deepestBelow, foldr_max_le_iff, List.forall_mem_map]
  simp only [Nat.sub_le_iff_le_add]

theorem Value.levels_add_le_iff {v : Value} {depth bound : Nat} :
    v.levels + depth ≤ bound + 1 ↔
      depth ≤ bound ∧ ∀ child ∈ v.childNodes, child.levels + (depth + 1) ≤ bound + 1 := by
  constructor
  · intro within
    have positive := v.levels_pos
    have below : ∀ child ∈ v.childNodes, child.levels ≤ bound - depth := levels_le_succ_iff.1 (by omega)
    refine ⟨by omega, fun child member => ?_⟩
    have := below child member
    omega
  · rintro ⟨here, below⟩
    have levels : v.levels ≤ bound - depth + 1 := by
      refine levels_le_succ_iff.2 fun child member => ?_
      have := below child member
      omega
    omega

/-- To visit a node is to take its depth and to go on to the nodes below it. -/
theorem deepestBelow_cons (deepest depth : Nat) (node : Value) (pending : List (Value × Nat)) :
    deepestBelow deepest ((node, depth) :: pending) =
      deepestBelow (max deepest depth) (node.nodesBelow depth ++ pending) := by
  have same_bounds (bound : Nat) : deepestBelow deepest ((node, depth) :: pending) ≤ bound ↔
      deepestBelow (max deepest depth) (node.nodesBelow depth ++ pending) ≤ bound := by
    have below : (∀ step ∈ node.nodesBelow depth, step.1.levels + step.2 ≤ bound + 1) ↔
        ∀ child ∈ node.childNodes, child.levels + (depth + 1) ≤ bound + 1 := by
      simp [Value.nodesBelow]
    rw [deepestBelow_le_iff, deepestBelow_le_iff, List.forall_mem_cons, List.forall_mem_append, below,
      Value.levels_add_le_iff, Nat.max_le]
    simp only [and_assoc]
  exact Nat.le_antisymm ((same_bounds _).2 (Nat.le_refl _)) ((same_bounds _).1 (Nat.le_refl _))

/-- The walk for depth finds the deepest level, or stops one level below its limit. The pending nodes stand at most one
level below the deepest one so far. -/
theorem deepestFrom_eq {limit deepest : Nat} {pending : List (Value × Nat)} (within : deepest ≤ limit)
    (near : ∀ step ∈ pending, step.2 ≤ deepest + 1) :
    deepestFrom limit deepest pending = min (deepestBelow deepest pending) (limit + 1) := by
  fun_induction deepestFrom limit deepest pending with
  | case1 deepest => simp [deepestBelow]; omega
  | case2 deepest node depth pending beyond =>
    have nearby := near _ List.mem_cons_self
    have positive := node.levels_pos
    have reached : node.levels + depth ≤ deepestBelow deepest ((node, depth) :: pending) + 1 :=
      (deepestBelow_le_iff.1 (Nat.le_refl _)).2 (node, depth) List.mem_cons_self
    omega
  | case3 deepest node depth pending here ih =>
    rw [deepestBelow_cons]
    refine ih (by omega) (List.forall_mem_append.2 ⟨fun step below => ?_, fun step later => ?_⟩)
    · obtain ⟨child, _, rfl⟩ := List.mem_map.1 below
      exact Nat.succ_le_succ (Nat.le_max_right _ _)
    · have := near step (List.mem_cons_of_mem _ later)
      omega

theorem nestingDepth_eq (limit : Nat) (v : Value) : nestingDepth limit v = min v.levels (limit + 1) := by
  have near : ∀ step ∈ [(v, 1)], step.2 ≤ 0 + 1 := List.forall_mem_singleton.2 (Nat.le_refl 1)
  rw [nestingDepth, deepestFrom_eq (Nat.zero_le limit) near]
  simp [deepestBelow]

/-- The depth of nesting depends on the levels alone. -/
theorem nestingDepth_congr {v w : Value} (same : v.levels = w.levels) (limit : Int) :
    nestingDepth limit v = nestingDepth limit w := by
  by_cases negative : limit < 0
  · have beyond : limit < ((max 0 1 : Nat) : Int) := by omega
    rw [nestingDepth, nestingDepth, deepestFrom, deepestFrom, if_pos beyond, if_pos beyond]
  · obtain ⟨bound, rfl⟩ := Int.eq_ofNat_of_zero_le (Int.not_lt.1 negative)
    rw [nestingDepth_eq, nestingDepth_eq, same]

/-- The depth that is found keeps to the limit exactly if the levels do, though the depth depends on the limit itself. -/
theorem nestingDepth_le_iff {limit : Int} {v : Value} : (nestingDepth limit v : Int) ≤ limit ↔ (v.levels : Int) ≤ limit := by
  by_cases negative : limit < 0
  · exact iff_of_false (by omega) (by omega)
  · obtain ⟨bound, rfl⟩ := Int.eq_ofNat_of_zero_le (Int.not_lt.1 negative)
    rw [nestingDepth_eq]
    omega

namespace Unchecked

theorem Condition.isNode_toValue (c : Condition) : c.toValue.isNode = false := by
  simp [toValue, Value.isNode, Value.hasKey, lookup?]

theorem Group.itemsAt_toValue (g : Group) : g.toValue.itemsAt "conditions" = g.conditions.map Condition.toValue := by
  simp [toValue, Value.itemsAt, Value.get, lookup?]

theorem Group.hasKey_toValue (g : Group) : g.toValue.hasKey "groups" = false := by
  simp [toValue, Value.hasKey, lookup?]

theorem Group.isNode_toValue (g : Group) : g.toValue.isNode = true := by
  simp [toValue, Value.isNode, Value.hasKey, lookup?]

theorem Group.children_toValue (g : Group) : g.toValue.children = g.conditions.map Condition.toValue := by
  rw [Value.children_eq, g.hasKey_toValue, if_neg Bool.false_ne_true, g.itemsAt_toValue]

theorem Group.leaves_toValue (g : Group) : ∀ child ∈ g.toValue.children, child.isNode = false := by
  rw [g.children_toValue, List.forall_mem_map]
  exact fun c _ => c.isNode_toValue

theorem Group.levels_toValue (g : Group) : g.toValue.levels = 1 :=
  Value.levels_of_leaves g.leaves_toValue

theorem Group.leafCount_toValue (g : Group) : g.toValue.leafCount = g.conditions.length := by
  rw [Value.leafCount_of_leaves g.leaves_toValue, g.children_toValue, List.length_map]

variable (e : Expression)

theorem Expression.itemsAt_toValue : e.toValue.itemsAt "groups" = e.groups.map Group.toValue := by
  simp [toValue, Value.itemsAt, Value.get, lookup?]

theorem Expression.children_toValue : e.toValue.children = e.groups.map Group.toValue := by
  have inGroups : e.toValue.hasKey "groups" = true := by
    simp [toValue, Value.hasKey, lookup?]
  rw [Value.children_eq, if_pos inGroups, e.itemsAt_toValue]

theorem Expression.nodes_toValue : ∀ child ∈ e.toValue.children, child.isNode = true := by
  rw [e.children_toValue, List.forall_mem_map]
  exact fun g _ => g.isNode_toValue

theorem Expression.childNodes_toValue : e.toValue.childNodes = e.groups.map Group.toValue := by
  rw [Value.childNodes_of_nodes e.nodes_toValue, e.children_toValue]

/-- An expression with a group has two levels. -/
theorem Expression.levels_toValue (nonempty : e.groups ≠ []) : e.toValue.levels = 2 := by
  have atMost : e.toValue.levels ≤ 1 + 1 := by
    rw [Value.levels_le_succ_iff, e.childNodes_toValue, List.forall_mem_map]
    exact fun g _ => Nat.le_of_eq g.levels_toValue
  have atLeast : ¬e.toValue.levels ≤ 0 + 1 := by
    rw [Value.levels_le_succ_iff, e.childNodes_toValue, List.forall_mem_map]
    intro none
    obtain ⟨g, member⟩ := List.exists_mem_of_ne_nil e.groups nonempty
    have := none g member
    rw [g.levels_toValue] at this
    omega
  omega

theorem Expression.leafCount_toValue : e.toValue.leafCount = e.conditions.length := by
  have counts : (e.groups.map Group.toValue).map Value.leafCount = e.groups.map fun g => g.conditions.length := by
    rw [List.map_map]
    exact List.map_congr_left fun g _ => g.leafCount_toValue
  rw [Value.leafCount_of_nodes e.nodes_toValue, e.children_toValue, counts, conditions, List.length_flatMap]

end Unchecked

end TaskQuery
