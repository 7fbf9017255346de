import TaskQuery.Proofs.ProblemList

namespace TaskQuery.Check

variable {limits : Limits} {now : Timestamp}

/-- A condition of a group that has no problems. -/
structure AcceptedCondition (limits : Limits) (now : Timestamp) (c : Value) : Prop where
  single : c.isNode = false
  legal : conditionProblems limits now c = .ok []

/-- A group that has no problems. -/
structure AcceptedGroup (limits : Limits) (now : Timestamp) (g : Value) : Prop where
  joiner : isJoiner (namedJoiner g) = true
  nonempty : g.itemsAt "conditions" ≠ []
  conditions : ∀ c ∈ g.itemsAt "conditions", AcceptedCondition limits now c

/-- A wire form that has no problems. -/
structure Accepted (limits : Limits) (now : Timestamp) (v : Value) : Prop where
  joiner : isJoiner (namedJoiner v) = true
  nonempty : v.itemsAt "groups" ≠ []
  depth : (nestingDepth limits.maxDepth v : Int) ≤ limits.maxDepth
  count : (conditionCount v : Int) ≤ limits.maxConditions
  groups : ∀ g ∈ v.itemsAt "groups", AcceptedGroup limits now g

theorem placeProblems_eq_nil_iff {group number : Nat} {c : Value} :
    placeProblems limits now group number c = .ok [] ↔ AcceptedCondition limits now c := by
  unfold placeProblems
  split
  · rename_i node
    refine iff_of_false (fun found => by cases found) fun accepted => ?_
    rw [accepted.single] at node
    cases node
  · rename_i single
    rw [Outcome.map_eq_ok]
    constructor
    · rintro ⟨problems, legal, none⟩
      cases List.map_eq_nil_iff.1 none
      exact ⟨Bool.eq_false_iff.2 single, legal⟩
    · exact fun accepted => ⟨[], accepted.legal, rfl⟩

theorem memberProblems_eq_nil_iff {group number : Nat} {members : List Value} :
    memberProblems limits now group number members = .ok [] ↔ ∀ c ∈ members, AcceptedCondition limits now c := by
  simp only [memberProblems_eq_collect, collect_eq_nil_iff, placeProblems_eq_nil_iff]
  exact forall_mem_zipIdx_fst

theorem groupProblems_eq_nil_iff {number : Nat} {g : Value} :
    groupProblems limits now number g = .ok [] ↔ AcceptedGroup limits now g := by
  constructor
  · intro none
    have joined : isJoiner (namedJoiner g) = true ∧ g.itemsAt "conditions" ≠ [] := by
      unfold groupProblems at none
      split at none
      · obtain ⟨found, joiner, none⟩ := Outcome.bind_eq_ok.1 none
        split at none
        · obtain ⟨_, empty⟩ := List.append_eq_nil_iff.1 (Except.ok.inj none)
          cases empty
        · rename_i members listed
          obtain ⟨problems, _, none⟩ := Outcome.bind_eq_ok.1 none
          obtain ⟨rfl, rfl⟩ := List.append_eq_nil_iff.1 (Except.ok.inj none)
          obtain ⟨rfl, nonempty⟩ := items?_get_eq_some_iff.1 listed
          exact ⟨joinerProblems_eq_nil_iff.1 joiner, nonempty⟩
      · cases none
    rw [groupProblems_of_joined joined.1 joined.2, memberProblems_eq_nil_iff] at none
    exact ⟨joined.1, joined.2, none⟩
  · rintro ⟨joiner, nonempty, conditions⟩
    rw [groupProblems_of_joined joiner nonempty, memberProblems_eq_nil_iff]
    exact conditions

theorem groupsProblems_eq_nil_iff {number : Nat} {groups : List Value} :
    groupsProblems limits now number groups = .ok [] ↔ ∀ g ∈ groups, AcceptedGroup limits now g := by
  simp only [groupsProblems_eq_collect, collect_eq_nil_iff, groupProblems_eq_nil_iff]
  exact forall_mem_zipIdx_fst

/-- The problems found before the groups are looked at stay in the verdict. -/
theorem problems_of_groupsVerdict {found : List Problem} {v : Value} {groups : List Value} {verdict : Verdict}
    (checked : groupsVerdict limits now found v groups = .ok verdict) : ∃ more, verdict.problems = found ++ more := by
  unfold groupsVerdict at checked
  split at checked
  · obtain ⟨bound, _, rfl⟩ := Outcome.map_eq_ok.1 checked
    exact ⟨_, rfl⟩
  split at checked
  · obtain ⟨bound, _, rfl⟩ := Outcome.map_eq_ok.1 checked
    exact ⟨_, rfl⟩
  · obtain ⟨problems, _, rfl⟩ := Outcome.map_eq_ok.1 checked
    exact ⟨problems, rfl⟩

/-- A wire form has a verdict without problems exactly if it is accepted. -/
theorem wireVerdict_isValid_iff {v : Value} :
    (∃ verdict, wireVerdict limits now v = .ok verdict ∧ verdict.isValid = true) ↔ Accepted limits now v := by
  constructor
  · rintro ⟨verdict, checked, valid⟩
    have empty : verdict.problems = [] := List.isEmpty_iff.1 valid
    have joined : isJoiner (namedJoiner v) = true ∧ v.itemsAt "groups" ≠ [] := by
      unfold wireVerdict at checked
      split at checked
      · obtain ⟨found, joiner, checked⟩ := Outcome.bind_eq_ok.1 checked
        split at checked
        · cases checked
          simp [Verdict.ofProblems] at empty
        · rename_i groups listed
          obtain ⟨rfl, nonempty⟩ := items?_get_eq_some_iff.1 listed
          obtain ⟨more, problems⟩ := problems_of_groupsVerdict checked
          rw [empty] at problems
          obtain ⟨rfl, _⟩ := List.append_eq_nil_iff.1 problems.symm
          exact ⟨joinerProblems_eq_nil_iff.1 joiner, nonempty⟩
      · cases checked
        cases empty
    rw [wireVerdict_of_joined joined.1 joined.2, groupsVerdict] at checked
    split at checked
    · obtain ⟨bound, _, rfl⟩ := Outcome.map_eq_ok.1 checked
      cases empty
    rename_i depth
    split at checked
    · obtain ⟨bound, _, rfl⟩ := Outcome.map_eq_ok.1 checked
      cases empty
    rename_i count
    obtain ⟨problems, legal, rfl⟩ := Outcome.map_eq_ok.1 checked
    cases empty
    exact ⟨joined.1, joined.2, Int.not_lt.1 depth, Int.not_lt.1 count, groupsProblems_eq_nil_iff.1 legal⟩
  · rintro ⟨joiner, nonempty, depth, count, groups⟩
    refine ⟨⟨[], countWarnings limits (conditionCount v)⟩, ?_, rfl⟩
    rw [wireVerdict_of_joined joiner nonempty, groupsVerdict, if_neg (Int.not_lt.2 depth), if_neg (Int.not_lt.2 count),
      groupsProblems_eq_nil_iff.2 groups]
    rfl

/-- The conditions of groups, as they are checked. -/
def memberCount (groups : List Value) : Nat :=
  (groups.map fun g => (g.itemsAt "conditions").length).sum

theorem AcceptedGroup.isNode {g : Value} (accepted : AcceptedGroup limits now g) : g.isNode = true := by
  rw [Value.isNode, Value.hasKey_of_itemsAt accepted.nonempty, Bool.true_or]

/-- The walk counts the conditions of an accepted group, unless the group has the key `groups` besides. -/
theorem AcceptedGroup.leafCount_eq {g : Value} (accepted : AcceptedGroup limits now g)
    (plain : g.hasKey "groups" = false) : g.leafCount = (g.itemsAt "conditions").length := by
  have children : g.children = g.itemsAt "conditions" := by
    rw [g.children_eq, plain]
    exact if_neg Bool.false_ne_true
  have leaves : ∀ c ∈ g.children, c.isNode = false := by
    rw [children]
    exact fun c member => (accepted.conditions c member).single
  rw [Value.leafCount_of_leaves leaves, children]

/-- What the walk counts below accepted groups: the conditions of those without the key `groups`, and for the others what
lies below that key. -/
theorem sum_leafCount_eq {groups : List Value} (accepted : ∀ g ∈ groups, AcceptedGroup limits now g) :
    (groups.map Value.leafCount).sum =
      memberCount (groups.filter (!·.hasKey "groups")) + ((groups.filter (·.hasKey "groups")).map Value.leafCount).sum := by
  induction groups with
  | nil => rfl
  | cons g groups ih =>
    obtain ⟨here, others⟩ := List.forall_mem_cons.1 accepted
    rw [List.map_cons, List.sum_cons, ih others]
    by_cases marked : g.hasKey "groups" = true
    · simp only [memberCount, List.filter_cons, marked, Bool.not_true, Bool.false_eq_true, if_false, if_true,
        List.map_cons, List.sum_cons]
      omega
    · have plain := Bool.eq_false_iff.2 marked
      simp only [memberCount, List.filter_cons, plain, Bool.not_false, Bool.false_eq_true, if_false, if_true,
        List.map_cons, List.sum_cons, here.leafCount_eq plain]
      omega

theorem Accepted.conditionCount_eq {v : Value} (accepted : Accepted limits now v) :
    conditionCount v = ((v.itemsAt "groups").map Value.leafCount).sum := by
  have children : v.children = v.itemsAt "groups" := by
    rw [v.children_eq, if_pos (Value.hasKey_of_itemsAt accepted.nonempty)]
  have nodes : ∀ g ∈ v.children, g.isNode = true := by
    rw [children]
    exact fun g member => (accepted.groups g member).isNode
  rw [TaskQuery.conditionCount_eq, Value.leafCount_of_nodes nodes, children]

theorem memberCount_pos {groups : List Value} (nonempty : groups ≠ [])
    (accepted : ∀ g ∈ groups, AcceptedGroup limits now g) : 1 ≤ memberCount groups := by
  cases groups with
  | nil => exact absurd rfl nonempty
  | cons g groups =>
    have some := List.length_pos_iff.2 (accepted g List.mem_cons_self).nonempty
    rw [memberCount, List.map_cons, List.sum_cons]
    omega

/-- A valid wire form has a condition. Its conditions keep to the limit as far as they are counted: those of all groups
without the key `groups`, together with what lies below that key in the others. So they all do if no group has that key. -/
theorem conditions_within_limit {v : Value} {verdict : Verdict} (checked : wireVerdict limits now v = .ok verdict)
    (valid : verdict.isValid = true) :
    1 ≤ memberCount (v.itemsAt "groups") ∧
    ((memberCount ((v.itemsAt "groups").filter (!·.hasKey "groups")) +
      (((v.itemsAt "groups").filter (·.hasKey "groups")).map Value.leafCount).sum : Nat) : Int) ≤ limits.maxConditions ∧
    ((∀ g ∈ v.itemsAt "groups", g.hasKey "groups" = false) →
      (memberCount (v.itemsAt "groups") : Int) ≤ limits.maxConditions) := by
  have accepted := wireVerdict_isValid_iff.1 ⟨verdict, checked, valid⟩
  have counted := accepted.count
  rw [accepted.conditionCount_eq, sum_leafCount_eq accepted.groups] at counted
  refine ⟨memberCount_pos accepted.nonempty accepted.groups, counted, fun plain => ?_⟩
  have all : (v.itemsAt "groups").filter (!·.hasKey "groups") = v.itemsAt "groups" := by
    rw [List.filter_eq_self]
    exact fun g member => by rw [plain g member]; rfl
  rw [all] at counted
  omega

/-- Two conditions in two groups keep to a limit of two. -/
theorem conditions_within_limit_two :
    let limits : Limits := { maxConditions := 2 }
    let now : Timestamp := ⟨⟨0, by decide⟩, none⟩
    let c := Value.dict [("field", .str "done"), ("operator", .str "="), ("value", .bool true)]
    let v := Value.dict [("groups", .list [.dict [("conditions", .list [c])], .dict [("conditions", .list [c])]])]
    wireVerdict limits now v = .ok ⟨[], []⟩ ∧ (memberCount (v.itemsAt "groups") : Int) ≤ limits.maxConditions := by
  intro limits now c v
  have checked : wireVerdict limits now v = .ok ⟨[], []⟩ := by decide +kernel
  exact ⟨checked, (conditions_within_limit checked rfl).2.2 (by decide)⟩

/-- A group with the key `groups` keeps its conditions out of the count: a limit of one lets two of them through. -/
theorem limit_passed_over :
    let limits : Limits := { maxConditions := 1 }
    let now : Timestamp := ⟨⟨0, by decide⟩, none⟩
    let c := Value.dict [("field", .str "done"), ("operator", .str "="), ("value", .bool true)]
    let v := Value.dict [("groups", .list [.dict [("groups", .list []), ("conditions", .list [c, c])]])]
    wireVerdict limits now v = .ok ⟨[], []⟩ ∧ ¬(memberCount (v.itemsAt "groups") : Int) ≤ limits.maxConditions := by
  intro limits now c v
  exact ⟨by decide +kernel, by decide⟩

end TaskQuery.Check
