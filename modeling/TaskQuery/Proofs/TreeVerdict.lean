import TaskQuery.Proofs.Acceptance

namespace TaskQuery.Unchecked

open Check

/-- The lines about a group with a number, where the problems of its conditions are known. -/
def Group.lines (problems : Condition → List ConditionProblem) (number : Nat) (g : Group) : List String :=
  if g.conditions = [] then [s!"Group {number} must contain at least one condition"]
  else (g.conditions.zipIdx 1).flatMap fun place =>
    (problems place.1).map fun problem => s!"Group {number}, Condition {place.2}: {problem.message}"

/-- The lines about an expression: those about its groups, which are numbered from one. -/
def Expression.lines (problems : Condition → List ConditionProblem) (e : Expression) : List String :=
  (e.groups.zipIdx 1).flatMap fun place => place.1.lines problems place.2

/-- An expression with one of the two signs between its groups and between the conditions of every group. -/
structure Expression.Joined (e : Expression) : Prop where
  operator : e.operator = "&&" ∨ e.operator = "||"
  groups : ∀ g ∈ e.groups, g.operator = "&&" ∨ g.operator = "||"

/-- An expression that is checked to the end and has no problems. -/
def Expression.Valid (limits : Limits) (now : Timestamp) (e : Expression) : Prop :=
  ∃ verdict, treeVerdict limits now e = .ok verdict ∧ verdict.isValid = true

/-- To leave out a single group, or a single condition of a group. -/
inductive Expression.Deletion : Expression → Expression → Prop
  | group {front back : List Group} {g : Group} {operator : String} :
      Deletion ⟨front ++ g :: back, operator⟩ ⟨front ++ back, operator⟩
  | condition {front back : List Group} {before behind : List Condition} {c : Condition} {inner operator : String} :
      Deletion ⟨front ++ ⟨before ++ c :: behind, inner⟩ :: back, operator⟩
        ⟨front ++ ⟨before ++ behind, inner⟩ :: back, operator⟩

variable {limits : Limits} {now : Timestamp}

theorem isJoiner_text {s : String} : isJoiner (.str s) = true ↔ s = "&&" ∨ s = "||" := by
  simp only [isJoiner_iff, Value.str.injEq]
  constructor
  · rintro ⟨j, rfl⟩
    exact j.symbol_cases
  · rintro (rfl | rfl)
    · exact ⟨.and, rfl⟩
    · exact ⟨.or, rfl⟩

theorem Condition.conditionProblems_toValue (c : Condition) :
    conditionProblems limits now c.toValue = partsProblems limits now (.str c.field) (.str c.operator) c.operand.toValue := by
  simp [conditionProblems, toValue, Value.get, lookup?]

theorem Condition.placeProblems_toValue (c : Condition) (number place : Nat) :
    placeProblems limits now number place c.toValue =
      (conditionProblems limits now c.toValue).map (·.map (Problem.condition number place)) := by
  rw [placeProblems, c.isNode_toValue, if_neg Bool.false_ne_true]

theorem Group.isJoiner_toValue_iff (g : Group) :
    isJoiner (namedJoiner g.toValue) = true ↔ g.operator = "&&" ∨ g.operator = "||" := by
  have named : namedJoiner g.toValue = .str g.operator := by
    simp [toValue, namedJoiner, Value.hasKey, Value.get, lookup?]
  rw [named, isJoiner_text]

theorem Expression.isJoiner_toValue_iff (e : Expression) :
    isJoiner (namedJoiner e.toValue) = true ↔ e.operator = "&&" ∨ e.operator = "||" := by
  have named : namedJoiner e.toValue = .str e.operator := by
    simp [toValue, namedJoiner, Value.hasKey, Value.get, lookup?]
  rw [named, isJoiner_text]

theorem Group.itemsAt_toValue_ne_nil_iff (g : Group) : g.toValue.itemsAt "conditions" ≠ [] ↔ g.conditions ≠ [] := by
  rw [g.itemsAt_toValue, Ne, List.map_eq_nil_iff]

theorem Expression.itemsAt_toValue_ne_nil_iff (e : Expression) : e.toValue.itemsAt "groups" ≠ [] ↔ e.groups ≠ [] := by
  rw [e.itemsAt_toValue, Ne, List.map_eq_nil_iff]

/-- A group with a joiner and conditions has the problems of these, which are numbered from one. -/
theorem Group.groupProblems_eq_collect {g : Group} (joiner : g.operator = "&&" ∨ g.operator = "||")
    (nonempty : g.conditions ≠ []) (number : Nat) :
    groupProblems limits now number g.toValue =
      collect (fun place => placeProblems limits now number place.2 place.1)
        ((g.conditions.map Condition.toValue).zipIdx 1) := by
  rw [groupProblems_of_joined (g.isJoiner_toValue_iff.2 joiner) (g.itemsAt_toValue_ne_nil_iff.2 nonempty),
    g.itemsAt_toValue, memberProblems_eq_collect]

section Lines

variable {own : Condition → List ConditionProblem} {number : Nat} {g : Group}

/-- The problems of a group with a number, where those of its conditions are known. -/
def Group.problems (own : Condition → List ConditionProblem) (number : Nat) (g : Group) : List Problem :=
  if g.conditions = [] then [.emptyGroup number]
  else (g.conditions.zipIdx 1).flatMap fun place => (own place.1).map (Problem.condition number place.2)

theorem Group.groupProblems_toValue (joiner : g.operator = "&&" ∨ g.operator = "||")
    (each : ∀ c ∈ g.conditions, conditionProblems limits now c.toValue = .ok (own c)) :
    groupProblems limits now number g.toValue = .ok (g.problems own number) := by
  unfold Group.problems
  split
  · rename_i empty
    have nothing : g.toValue.itemsAt "conditions" = [] := by rw [g.itemsAt_toValue, empty, List.map_nil]
    exact groupProblems_of_empty (g.isJoiner_toValue_iff.2 joiner) nothing number
  · rename_i nonempty
    have places : ∀ c ∈ g.conditions, ∀ place,
        placeProblems limits now number place c.toValue = .ok ((own c).map (Problem.condition number place)) := by
      intro c member place
      rw [c.placeProblems_toValue, each c member]
      rfl
    rw [Group.groupProblems_eq_collect joiner nonempty, collect_numbered places]

theorem Group.message_problems : (g.problems own number).map Problem.message = g.lines own number := by
  unfold Group.problems Group.lines
  split
  · rfl
  · simp only [List.map_flatMap, List.map_map]
    rfl

end Lines

namespace Expression

variable {e : Expression}

theorem conditionCount_toValue (e : Expression) : conditionCount e.toValue = e.conditions.length := by
  rw [conditionCount_eq, e.leafCount_toValue]

/-- The two levels of an expression are within a bound exactly if the bound is two or more. -/
theorem nestingDepth_toValue_le_iff (nonempty : e.groups ≠ []) {depth : Int} :
    (nestingDepth depth e.toValue : Int) ≤ depth ↔ 2 ≤ depth := by
  rw [nestingDepth_le_iff, e.levels_toValue nonempty]
  rfl

/-- The verdict on an expression with groups and a joiner, where two levels are allowed: its conditions are counted, and
then those of its groups are looked at. -/
theorem treeVerdict_eq (nonempty : e.groups ≠ []) (operator : e.operator = "&&" ∨ e.operator = "||")
    (deep : 2 ≤ limits.maxDepth) :
    treeVerdict limits now e =
      if limits.maxConditions < (e.conditions.length : Int) then
        (writeInteger limits.maxConditions).map fun bound => .ofProblems [.tooManyConditions e.conditions.length bound]
      else
        (collect (fun place => groupProblems limits now place.2 place.1) ((e.groups.map Group.toValue).zipIdx 1)).map
          fun problems => ⟨problems, countWarnings limits e.conditions.length⟩ := by
  have sized : wireVerdict limits now e.toValue = groupsVerdict limits now [] e.toValue (e.toValue.itemsAt "groups") :=
    wireVerdict_of_joined (e.isJoiner_toValue_iff.2 operator) (e.itemsAt_toValue_ne_nil_iff.2 nonempty)
  have shallow := (nestingDepth_toValue_le_iff nonempty).2 deep
  rw [treeVerdict, sized, groupsVerdict, if_neg (Int.not_lt.2 shallow), e.conditionCount_toValue, e.itemsAt_toValue,
    groupsProblems_eq_collect]
  rfl

/-- Where no check of a condition faults, an expression has the problems of its conditions at their places. -/
theorem errors_treeVerdict (nonempty : e.groups ≠ []) (joined : e.Joined) (deep : 2 ≤ limits.maxDepth)
    (few : (e.conditions.length : Int) ≤ limits.maxConditions) {problems : Condition → List ConditionProblem}
    (answered : ∀ c ∈ e.conditions, conditionProblems limits now c.toValue = .ok (problems c)) :
    ∃ verdict, treeVerdict limits now e = .ok verdict ∧ verdict.errors = e.lines problems := by
  have groups : ∀ g ∈ e.groups, ∀ number,
      groupProblems limits now number g.toValue = .ok (g.problems problems number) := fun g member number =>
    Group.groupProblems_toValue (joined.groups g member) (List.forall_mem_flatMap.1 answered g member)
  rw [treeVerdict_eq nonempty joined.operator deep, if_neg (Int.not_lt.2 few), collect_numbered groups]
  refine ⟨_, rfl, ?_⟩
  simp only [Verdict.errors, lines, List.map_flatMap, Group.message_problems]

theorem acceptedGroup_toValue_iff {g : Group} :
    AcceptedGroup limits now g.toValue ↔ (g.operator = "&&" ∨ g.operator = "||") ∧ g.conditions ≠ [] ∧
      ∀ c ∈ g.conditions, conditionProblems limits now c.toValue = .ok [] := by
  have each : (∀ c ∈ g.toValue.itemsAt "conditions", AcceptedCondition limits now c) ↔
      ∀ c ∈ g.conditions, conditionProblems limits now c.toValue = .ok [] := by
    rw [g.itemsAt_toValue, List.forall_mem_map]
    exact forall₂_congr fun c _ => ⟨AcceptedCondition.legal, fun legal => ⟨c.isNode_toValue, legal⟩⟩
  rw [← g.isJoiner_toValue_iff, ← g.itemsAt_toValue_ne_nil_iff, ← each]
  constructor
  · rintro ⟨joiner, nonempty, legal⟩
    exact ⟨joiner, nonempty, legal⟩
  · rintro ⟨joiner, nonempty, legal⟩
    exact ⟨joiner, nonempty, legal⟩

/-- What it takes for an expression to be valid. -/
structure Passes (limits : Limits) (now : Timestamp) (e : Expression) : Prop where
  joined : e.Joined
  nonempty : e.groups ≠ []
  depth : 2 ≤ limits.maxDepth
  count : (e.conditions.length : Int) ≤ limits.maxConditions
  groups : ∀ g ∈ e.groups, g.conditions ≠ []
  conditions : ∀ c ∈ e.conditions, conditionProblems limits now c.toValue = .ok []

theorem valid_iff_passes : e.Valid limits now ↔ e.Passes limits now := by
  have each : (∀ g ∈ e.toValue.itemsAt "groups", AcceptedGroup limits now g) ↔
      ∀ g ∈ e.groups, (g.operator = "&&" ∨ g.operator = "||") ∧ g.conditions ≠ [] ∧
        ∀ c ∈ g.conditions, conditionProblems limits now c.toValue = .ok [] := by
    simp only [e.itemsAt_toValue, List.forall_mem_map, acceptedGroup_toValue_iff]
  rw [Valid, treeVerdict, wireVerdict_isValid_iff]
  constructor
  · rintro ⟨operator, some, depth, count, accepted⟩
    have nonempty := e.itemsAt_toValue_ne_nil_iff.1 some
    have groups := each.1 accepted
    rw [e.conditionCount_toValue] at count
    exact ⟨⟨e.isJoiner_toValue_iff.1 operator, fun g member => (groups g member).1⟩, nonempty,
      (nestingDepth_toValue_le_iff nonempty).1 depth, count, fun g member => (groups g member).2.1,
      List.forall_mem_flatMap.2 fun g member => (groups g member).2.2⟩
  · rintro ⟨joined, nonempty, depth, count, groups, conditions⟩
    have legal := List.forall_mem_flatMap.1 conditions
    rw [← e.conditionCount_toValue] at count
    exact ⟨e.isJoiner_toValue_iff.2 joined.operator, e.itemsAt_toValue_ne_nil_iff.2 nonempty,
      (nestingDepth_toValue_le_iff nonempty).2 depth, count,
      each.2 fun g member => ⟨joined.groups g member, groups g member, legal g member⟩⟩

/-- An expression within another one: it has the same joiners, and some of the conditions in their order. -/
structure PartOf (part e : Expression) : Prop where
  operator : part.operator = e.operator
  groups : ∀ g ∈ part.groups, ∃ h ∈ e.groups, g.operator = h.operator
  conditions : part.conditions.Sublist e.conditions

theorem partOf_single {g : Group} (member : g ∈ e.groups) : PartOf ⟨[g], e.operator⟩ e where
  operator := rfl
  groups := List.forall_mem_singleton.2 ⟨g, member, rfl⟩
  conditions := by
    obtain ⟨front, back, split⟩ := List.append_of_mem member
    simp only [conditions, split, List.flatMap_append, List.flatMap_cons, List.flatMap_nil, List.append_nil]
    exact (List.sublist_append_left _ _).trans (List.sublist_append_right _ _)

theorem Deletion.partOf {rest : Expression} (deletion : Deletion e rest) : PartOf rest e := by
  cases deletion with
  | @group front back g operator =>
    refine ⟨rfl, fun h member => ⟨h, ?_, rfl⟩, ?_⟩
    · exact ((List.sublist_cons_self g back).append_left front).subset member
    · simp only [conditions, List.flatMap_append, List.flatMap_cons]
      exact (List.sublist_append_right _ _).append_left _
  | @condition front back before behind c inner operator =>
    refine ⟨rfl, fun h member => ?_, ?_⟩
    · rw [List.mem_append, List.mem_cons] at member
      rcases member with inFront | rfl | inBack
      · exact ⟨h, List.mem_append_left _ inFront, rfl⟩
      · exact ⟨_, List.mem_append_right _ List.mem_cons_self, rfl⟩
      · exact ⟨h, List.mem_append_right _ (List.mem_cons_of_mem _ inBack), rfl⟩
    · simp only [conditions, List.flatMap_append, List.flatMap_cons]
      have shorter : (before ++ behind).Sublist (before ++ c :: behind) := (List.sublist_cons_self c behind).append_left before
      exact (shorter.append_right _).append_left _

/-- What is within an expression without problems has none, as long as nothing in it is empty. -/
theorem Passes.part {part : Expression} (passes : e.Passes limits now) (within : PartOf part e)
    (nonempty : part.groups ≠ []) (groups : ∀ g ∈ part.groups, g.conditions ≠ []) : part.Passes limits now where
  joined := by
    refine ⟨within.operator ▸ passes.joined.operator, fun g member => ?_⟩
    obtain ⟨h, inside, same⟩ := within.groups g member
    rw [same]
    exact passes.joined.groups h inside
  nonempty := nonempty
  depth := passes.depth
  count := by
    have fewer := within.conditions.length_le
    have count := passes.count
    omega
  groups := groups
  conditions := fun c member => passes.conditions c (within.conditions.subset member)

/-- The problems of an expression are those of its conditions, in order and at their places, and its empty groups. It is
valid exactly if its groups are valid each on its own, and it stays so when a group or a condition is left out. -/
theorem judged_by_parts (nonempty : e.groups ≠ []) (joined : e.Joined) (deep : 2 ≤ limits.maxDepth)
    (few : (e.conditions.length : Int) ≤ limits.maxConditions) :
    (∀ problems : Condition → List ConditionProblem,
      (∀ c ∈ e.conditions, conditionProblems limits now c.toValue = .ok (problems c)) →
        ∃ verdict, treeVerdict limits now e = .ok verdict ∧ verdict.errors = e.lines problems) ∧
    (e.Valid limits now ↔ ∀ g ∈ e.groups, Valid limits now ⟨[g], e.operator⟩) ∧
    (e.Valid limits now → ∀ rest, Deletion e rest → rest.groups ≠ [] → (∀ g ∈ rest.groups, g.conditions ≠ []) →
      rest.Valid limits now) := by
  refine ⟨fun problems => errors_treeVerdict nonempty joined deep few, ?_, fun valid rest deletion some full => ?_⟩
  · simp only [valid_iff_passes]
    constructor
    · intro passes g member
      exact passes.part (partOf_single member) (List.cons_ne_nil g []) (List.forall_mem_singleton.2 (passes.groups g member))
    · intro each
      refine ⟨joined, nonempty, deep, few, fun g member => ?_, List.forall_mem_flatMap.2 fun g member c inside => ?_⟩
      · exact (each g member).groups g (List.mem_singleton_self g)
      · exact (each g member).conditions c (List.mem_flatMap.2 ⟨g, List.mem_singleton_self g, inside⟩)
  · exact valid_iff_passes.2 ((valid_iff_passes.1 valid).part deletion.partOf some full)

/-- An empty group between two others, and a wrong condition behind a good one; without the empty group and the wrong
condition nothing is wrong any more, and nothing is when the first group is left out besides. -/
theorem judged_by_parts_three :
    let now : Timestamp := .utc ⟨0, by decide⟩
    let good : Condition := ⟨"done", "=", .one (.bool true)⟩
    let wrong : Condition := ⟨"done", "like", .one (.str "maybe")⟩
    let e : Expression := ⟨[⟨[good, wrong], "||"⟩, ⟨[], "&&"⟩, ⟨[good], "&&"⟩], "&&"⟩
    let mended : Expression := ⟨[⟨[good], "||"⟩, ⟨[good], "&&"⟩], "&&"⟩
    (∃ verdict, treeVerdict .standard now e = .ok verdict ∧ verdict.errors =
      ["Group 1, Condition 2: Invalid operator \"like\" for field \"done\" of type \"boolean\"",
        "Group 1, Condition 2: Field \"done\" requires a boolean value", "Group 2 must contain at least one condition"]) ∧
    mended.Valid .standard now ∧ Valid .standard now ⟨[⟨[good], "&&"⟩], "&&"⟩ := by
  intro now good wrong e mended
  have joined : e.Joined := ⟨by decide, by decide⟩
  have mendedJoined : mended.Joined := ⟨by decide, by decide⟩
  have mendedValid : mended.Valid .standard now := ⟨⟨[], []⟩, by decide +kernel, rfl⟩
  refine ⟨?_, mendedValid, ?_⟩
  · obtain ⟨errors, _⟩ := @judged_by_parts .standard now e (by decide) joined (by decide) (by decide)
    obtain ⟨verdict, found, lines⟩ := errors
      (fun c => if c = good then [] else [.unsuitableOperator .like .done, .notBoolean .done]) (by decide +kernel)
    exact ⟨verdict, found, lines.trans (by decide +kernel)⟩
  · obtain ⟨_, _, kept⟩ := @judged_by_parts .standard now mended (by decide) mendedJoined (by decide) (by decide)
    have deletion : Deletion mended ⟨[⟨[good], "&&"⟩], "&&"⟩ := @Deletion.group [] [⟨[good], "&&"⟩] ⟨[good], "||"⟩ "&&"
    exact kept mendedValid _ deletion (by decide) (by decide)

end Expression

end TaskQuery.Unchecked
