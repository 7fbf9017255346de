import TaskQuery.Proofs.WireWalk

namespace TaskQuery.Value

/-- What a dictionary lists: the items under `groups` where that key is there, and else those under `conditions`. A key
without a list gives none. -/
def listed : Value → List Value
  | dict entries =>
    match lookup? "groups" entries, lookup? "conditions" entries with
    | some (list items), _ => items
    | none, some (list items) => items
    | _, _ => []
  | _ => []

theorem children_eq_listed (v : Value) : v.children = v.listed := by
  cases v with
  | dict entries =>
    rw [children_eq]
    cases inGroups : lookup? "groups" entries with
    | some groups => cases groups <;> simp [hasKey, itemsAt, get, listed, inGroups]
    | none =>
      cases inConditions : lookup? "conditions" entries with
      | some conditions => cases conditions <;> simp [hasKey, itemsAt, get, listed, inGroups, inConditions]
      | none => simp [hasKey, itemsAt, get, listed, inGroups, inConditions]
  | _ => rfl

/-- The children of a node that are no nodes: its own conditions. -/
def leaves (v : Value) : List Value :=
  v.listed.filter fun child => !child.isNode

/-- Whether a node stands so many levels below another one. -/
inductive Below : Value → Nat → Value → Prop
  | self (v : Value) : Below v 0 v
  | child {v child w : Value} {depth : Nat} : child ∈ v.listed → child.isNode = true → Below child depth w →
      Below v (depth + 1) w

/-- A node and the nodes below it, each before those that it lists. -/
def nodes (v : Value) : List Value :=
  v :: v.childNodes.attach.flatMap fun child => child.1.nodes
termination_by sizeOf v
decreasing_by exact sizeOf_lt_of_mem_childNodes child.2

/-- Whether two values list the same nodes in any order, and so on below these, and as many children that are no nodes. -/
inductive Rearranged : Value → Value → Prop
  | list {v w : Value} (pairs : List (Value × Value)) (before : v.listed.Perm (pairs.map Prod.fst))
      (after : w.listed = pairs.map Prod.snd) (alike : ∀ pair ∈ pairs, pair.1.isNode = pair.2.isNode)
      (below : ∀ pair ∈ pairs, pair.1.isNode = true → Rearranged pair.1 pair.2) : Rearranged v w

section Walks

variable {v w : Value} {depth : Nat}

theorem childNodes_eq_listed (v : Value) : v.childNodes = v.listed.filter isNode := by
  rw [childNodes, children_eq_listed]

theorem mem_childNodes_iff : w ∈ v.childNodes ↔ w ∈ v.listed ∧ w.isNode = true := by
  rw [childNodes_eq_listed, List.mem_filter]

theorem nodes_eq (v : Value) : v.nodes = v :: (v.listed.filter isNode).flatMap nodes := by
  rw [nodes, ← childNodes_eq_listed, List.flatMap_def, List.flatMap_def, List.attach_map_val]

theorem below_zero_iff : v.Below 0 w ↔ v = w := by
  constructor
  · rintro ⟨⟩
    rfl
  · rintro rfl
    exact .self v

theorem below_succ_iff : v.Below (depth + 1) w ↔ ∃ child ∈ v.childNodes, child.Below depth w := by
  constructor
  · rintro (_ | @⟨_, child, _, _, lists, node, below⟩)
    exact ⟨child, mem_childNodes_iff.2 ⟨lists, node⟩, below⟩
  · rintro ⟨child, member, below⟩
    obtain ⟨lists, node⟩ := mem_childNodes_iff.1 member
    exact .child lists node below

/-- A node has more levels than a number exactly if a node stands that far below it. -/
theorem lt_levels_iff : depth < v.levels ↔ ∃ w, v.Below depth w := by
  induction depth generalizing v with
  | zero => exact iff_of_true v.levels_pos ⟨v, .self v⟩
  | succ depth ih =>
    rw [← Nat.not_le, levels_le_succ_iff]
    simp only [below_succ_iff, Classical.not_forall, Nat.not_le, ih, exists_prop]
    constructor
    · rintro ⟨child, member, w, below⟩
      exact ⟨w, child, member, below⟩
    · rintro ⟨w, child, member, below⟩
      exact ⟨child, member, w, below⟩

theorem mem_nodes_iff : w ∈ v.nodes ↔ ∃ depth, v.Below depth w := by
  induction v using nodes.induct with
  | case1 v ih =>
    rw [nodes_eq, List.mem_cons, List.mem_flatMap, ← childNodes_eq_listed]
    constructor
    · rintro (rfl | ⟨child, member, inside⟩)
      · exact ⟨0, .self w⟩
      · obtain ⟨depth, below⟩ := (ih ⟨child, member⟩).1 inside
        exact ⟨depth + 1, below_succ_iff.2 ⟨child, member, below⟩⟩
    · rintro ⟨depth, below⟩
      cases depth with
      | zero => exact .inl (below_zero_iff.1 below).symm
      | succ depth =>
        obtain ⟨child, member, below⟩ := below_succ_iff.1 below
        exact .inr ⟨child, member, (ih ⟨child, member⟩).2 ⟨depth, below⟩⟩

/-- The conditions below a node are those that it and the nodes below it list. -/
theorem leafCount_eq_length (v : Value) : v.leafCount = (v.nodes.flatMap leaves).length := by
  induction v using nodes.induct with
  | case1 v ih =>
    have below : v.childNodes.map leafCount = v.childNodes.map fun child => (child.nodes.flatMap leaves).length :=
      List.map_congr_left fun child member => ih ⟨child, member⟩
    rw [leafCount_eq, below, nodes_eq, List.flatMap_cons, List.flatMap_assoc, List.length_append, List.length_flatMap,
      children_eq_listed, childNodes_eq_listed]
    rfl

theorem levels_le_succ_of_perm {items : List Value} {bound : Nat} (lists : v.listed.Perm items) :
    v.levels ≤ bound + 1 ↔ ∀ child ∈ items, child.isNode = true → child.levels ≤ bound := by
  rw [levels_le_succ_iff]
  simp only [mem_childNodes_iff, and_imp, lists.mem_iff]

theorem leafCount_of_perm {items : List Value} (lists : v.listed.Perm items) :
    v.leafCount = (items.filter fun child => !child.isNode).length + ((items.filter isNode).map leafCount).sum := by
  rw [leafCount_eq, children_eq_listed, childNodes_eq_listed, (lists.filter _).length_eq,
    ((lists.filter isNode).map leafCount).sum_nat]

namespace Rearranged

theorem of_perm_of_refl (lists : v.listed.Perm w.listed)
    (below : ∀ child ∈ w.listed, child.isNode = true → child.Rearranged child) : v.Rearranged w := by
  refine .list (w.listed.map fun child => (child, child)) ?_ ?_ ?_ ?_
  · rwa [List.map_map, Function.comp_def, List.map_id']
  · rw [List.map_map, Function.comp_def, List.map_id']
  · exact List.forall_mem_map.2 fun child _ => rfl
  · exact List.forall_mem_map.2 below

protected theorem refl (v : Value) : v.Rearranged v := by
  induction v using nodes.induct with
  | case1 v ih => exact of_perm_of_refl (.refl _) fun child lists node => ih ⟨child, mem_childNodes_iff.2 ⟨lists, node⟩⟩

/-- To list the same children in another order is a rearrangement. -/
theorem of_perm (lists : v.listed.Perm w.listed) : v.Rearranged w :=
  of_perm_of_refl lists fun child _ _ => .refl child

theorem levels_eq (rearranged : v.Rearranged w) : v.levels = w.levels := by
  induction rearranged with
  | @list v w pairs before after alike below ih =>
    have same_bounds (bound : Nat) : v.levels ≤ bound + 1 ↔ w.levels ≤ bound + 1 := by
      rw [levels_le_succ_of_perm before, levels_le_succ_of_perm (.of_eq after), List.forall_mem_map, List.forall_mem_map]
      refine forall_congr' fun pair => forall_congr' fun member => ?_
      rw [← alike pair member]
      exact forall_congr' fun node => by rw [ih pair member node]
    have left := (same_bounds (w.levels - 1)).2
    have right := (same_bounds (v.levels - 1)).1
    have := v.levels_pos
    have := w.levels_pos
    omega

theorem leafCount_eq (rearranged : v.Rearranged w) : v.leafCount = w.leafCount := by
  induction rearranged with
  | @list v w pairs before after alike below ih =>
    have nodes : pairs.filter (fun pair => pair.1.isNode) = pairs.filter fun pair => pair.2.isNode :=
      List.filter_congr alike
    have leaves : pairs.filter (fun pair => !pair.1.isNode) = pairs.filter fun pair => !pair.2.isNode :=
      List.filter_congr fun pair member => by rw [alike pair member]
    have counts : (pairs.filter fun pair => pair.1.isNode).map (fun pair => pair.1.leafCount) =
        (pairs.filter fun pair => pair.1.isNode).map fun pair => pair.2.leafCount := by
      refine List.map_congr_left fun pair member => ?_
      obtain ⟨listed, node⟩ := List.mem_filter.1 member
      exact ih pair listed node
    rw [leafCount_of_perm before, leafCount_of_perm (.of_eq after)]
    simp only [List.filter_map, List.length_map, List.map_map, Function.comp_def]
    rw [leaves, counts, nodes]

end Rearranged

/-- What the walks find in a wire form. -/
structure Walked (v : Value) : Prop where
  /-- A node has one level more than the deepest of the nodes that it lists, or one if it lists none. -/
  recursion : v.levels = ((v.listed.filter isNode).map levels).foldr max 0 + 1
  /-- Depth is the number of levels, as far as the limit reaches and one further. -/
  depth (limit : Nat) : nestingDepth limit v = min v.levels (limit + 1)
  /-- Depth is beyond the limit exactly if the levels are, and then there is a node that far below. -/
  exceeds (limit : Nat) : (limit < nestingDepth limit v ↔ limit < v.levels) ∧ (limit < v.levels ↔ ∃ w, v.Below limit w)
  /-- The nodes are the wire form itself and those of the nodes that it lists: they are what stands below it at any depth. -/
  nodes : v.nodes = v :: (v.listed.filter isNode).flatMap nodes ∧ ∀ w, w ∈ v.nodes ↔ ∃ depth, v.Below depth w
  /-- The count is of the children that are no nodes, over all the nodes. -/
  count : conditionCount v = (v.nodes.map fun node => (node.listed.filter fun child => !child.isNode).length).sum
  /-- Neither depends on the order in which children are listed. -/
  unordered {w : Value} : v.Rearranged w →
    (∀ limit, nestingDepth limit v = nestingDepth limit w) ∧ conditionCount v = conditionCount w

/-- The walks over a list of pending nodes find what recursion on the nodes does. -/
theorem walked (v : Value) : v.Walked := by
  refine ⟨?recursion, ?depth, ?exceeds, ?nodes, ?count, ?unordered⟩
  case recursion => rw [Value.levels_eq, childNodes_eq_listed]
  case depth => exact fun limit => nestingDepth_eq limit v
  case exceeds =>
    intro limit
    rw [nestingDepth_eq]
    exact ⟨by omega, lt_levels_iff⟩
  case nodes => exact ⟨v.nodes_eq, fun w => mem_nodes_iff⟩
  case count =>
    rw [conditionCount_eq, leafCount_eq_length, List.length_flatMap]
    rfl
  case unordered =>
    intro w rearranged
    refine ⟨nestingDepth_congr rearranged.levels_eq, ?_⟩
    rw [conditionCount_eq, conditionCount_eq, rearranged.leafCount_eq]

/-- A group and a condition in either order, under either key, with a limit that the levels exceed. -/
theorem walked_swapped :
    let group : Value := .dict [("conditions", .list [])]
    let v : Value := .dict [("groups", .list [group, .str "done"]), ("conditions", .list [group, group])]
    let w : Value := .dict [("conditions", .list [.str "done", group])]
    v.Rearranged w ∧ (nestingDepth 1 v = 2 ∧ conditionCount v = 1) ∧ nestingDepth 1 w = 2 ∧ conditionCount w = 1 := by
  intro group v w
  have rearranged : v.Rearranged w := .of_perm (.swap _ _ _)
  have found : nestingDepth 1 v = 2 ∧ conditionCount v = 1 := by decide +kernel
  obtain ⟨depth, count⟩ := (walked v).unordered rearranged
  exact ⟨rearranged, found, (depth 1).symm.trans found.1, count.symm.trans found.2⟩

end Walks

end TaskQuery.Value
