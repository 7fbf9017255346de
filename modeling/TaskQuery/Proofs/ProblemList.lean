import TaskQuery.Check.Expression
import TaskQuery.Outcome
import TaskQuery.Proofs.WireWalk

namespace TaskQuery

section Collect

variable {α β : Type} {f : α → Except Fault (List β)} {as : List α} {bs : List β}

theorem collect_cons_eq_ok {a : α} :
    collect f (a :: as) = .ok bs ↔ ∃ here later, f a = .ok here ∧ collect f as = .ok later ∧ here ++ later = bs :=
  Outcome.both_eq_ok

theorem appended_eq_nil_iff {x y : Except Fault (List β)} :
    (do return (← x) ++ (← y)) = .ok [] ↔ x = .ok [] ∧ y = .ok [] := by
  rw [Outcome.both_eq_ok]
  constructor
  · rintro ⟨here, later, first, others, none⟩
    obtain ⟨rfl, rfl⟩ := List.append_eq_nil_iff.1 none
    exact ⟨first, others⟩
  · rintro ⟨first, others⟩
    exact ⟨[], [], first, others, rfl⟩

theorem collect_eq_nil_iff : collect f as = .ok [] ↔ ∀ a ∈ as, f a = .ok [] := by
  induction as with
  | nil => simp [collect]
  | cons a as ih =>
    rw [List.forall_mem_cons, ← ih]
    exact appended_eq_nil_iff

/-- What is collected are the lists of the items, and nothing else. -/
theorem mem_collect_iff (found : collect f as = .ok bs) {b : β} : b ∈ bs ↔ ∃ a ∈ as, ∃ own, f a = .ok own ∧ b ∈ own := by
  induction as generalizing bs with
  | nil =>
    cases found
    simp
  | cons a as ih =>
    obtain ⟨here, later, first, others, rfl⟩ := collect_cons_eq_ok.1 found
    rw [List.mem_append, ih others]
    constructor
    · rintro (inside | ⟨c, among, own⟩)
      · exact ⟨a, List.mem_cons_self, here, first, inside⟩
      · exact ⟨c, List.mem_cons_of_mem a among, own⟩
    · rintro ⟨c, among, own, fromItem, inside⟩
      rcases List.mem_cons.1 among with rfl | among
      · rw [first] at fromItem
        cases fromItem
        exact .inl inside
      · exact .inr ⟨c, among, own, fromItem, inside⟩

/-- Collecting comes to an end exactly if no item faults. -/
theorem exists_collect_iff : (∃ bs, collect f as = .ok bs) ↔ ∀ a ∈ as, ∃ own, f a = .ok own := by
  induction as with
  | nil => simp [collect]
  | cons a as ih =>
    rw [List.forall_mem_cons, ← ih]
    constructor
    · rintro ⟨bs, found⟩
      obtain ⟨here, later, first, others, _⟩ := collect_cons_eq_ok.1 found
      exact ⟨⟨here, first⟩, later, others⟩
    · rintro ⟨⟨here, first⟩, later, others⟩
      exact ⟨here ++ later, collect_cons_eq_ok.2 ⟨here, later, first, others, rfl⟩⟩

/-- Where it is known what the members of the list of an item are, so are those of what is collected. -/
theorem mem_collect_of_each {property : α → β → Prop}
    (each : ∀ a ∈ as, ∀ own, f a = .ok own → ∀ b, b ∈ own ↔ property a b) (found : collect f as = .ok bs) {b : β} :
    b ∈ bs ↔ ∃ a ∈ as, property a b := by
  rw [mem_collect_iff found]
  refine exists_congr fun a => and_congr_right fun member => ?_
  constructor
  · rintro ⟨own, here, inside⟩
    exact (each a member own here b).1 inside
  · intro holds
    obtain ⟨own, here⟩ := exists_collect_iff.1 ⟨bs, found⟩ a member
    exact ⟨own, here, (each a member own here b).2 holds⟩

theorem collect_map {γ : Type} (g : γ → α) (cs : List γ) : collect f (cs.map g) = collect (fun c => f (g c)) cs := by
  induction cs with
  | nil => rfl
  | cons c cs ih => rw [List.map_cons, collect, collect, ih]

/-- Where no item faults, what is collected is known item by item. -/
theorem collect_of_forall {own : α → List β} (each : ∀ a ∈ as, f a = .ok (own a)) :
    collect f as = .ok (as.flatMap own) := by
  induction as with
  | nil => rfl
  | cons a as ih =>
    obtain ⟨first, others⟩ := List.forall_mem_cons.1 each
    exact collect_cons_eq_ok.2 ⟨own a, as.flatMap own, first, ih others, rfl⟩

theorem forall_mem_zipIdx_fst {property : α → Prop} {start : Nat} :
    (∀ place ∈ as.zipIdx start, property place.1) ↔ ∀ a ∈ as, property a := by
  rw [← List.forall_mem_map, List.zipIdx_map_fst]

section Numbered

variable {γ : Type} {f : Nat → γ → Except Fault (List β)} {g : α → γ}

/-- What is collected from numbered items has the property that tells the members of the list of an item. -/
theorem mem_numbered_iff {property : Nat → α → β → Prop}
    (each : ∀ a ∈ as, ∀ number own, f number (g a) = .ok own → ∀ b, b ∈ own ↔ property number a b)
    (found : collect (fun place => f place.2 place.1) ((as.map g).zipIdx 1) = .ok bs) {b : β} :
    b ∈ bs ↔ ∃ i a, as[i]? = some a ∧ property (i + 1) a b := by
  rw [List.zipIdx_map, collect_map] at found
  rw [mem_collect_of_each (fun place member => each place.1 (List.fst_mem_of_mem_zipIdx member) place.2) found]
  constructor
  · rintro ⟨⟨a, number⟩, inside, holds⟩
    obtain ⟨positive, place⟩ := List.mk_mem_zipIdx_iff_le_and_getElem?_sub.1 inside
    refine ⟨number - 1, a, place, ?_⟩
    rwa [Nat.sub_add_cancel positive]
  · rintro ⟨i, a, place, holds⟩
    refine ⟨(a, i + 1), ?_, holds⟩
    rw [List.mk_mem_zipIdx_iff_le_and_getElem?_sub, Nat.add_sub_cancel]
    exact ⟨Nat.le_add_left 1 i, place⟩

theorem collect_numbered {own : Nat → α → List β}
    (each : ∀ a ∈ as, ∀ number, f number (g a) = .ok (own number a)) :
    collect (fun place => f place.2 place.1) ((as.map g).zipIdx 1) =
      .ok ((as.zipIdx 1).flatMap fun place => own place.2 place.1) := by
  rw [List.zipIdx_map, collect_map]
  exact collect_of_forall fun place member => each place.1 (List.fst_mem_of_mem_zipIdx member) place.2

/-- Collecting from numbered items comes to an end exactly if each of them, under any number, gives its list. -/
theorem exists_numbered_iff {defined : α → Prop} (each : ∀ a ∈ as, ∀ number, (∃ own, f number (g a) = .ok own) ↔ defined a) :
    (∃ bs, collect (fun place => f place.2 place.1) ((as.map g).zipIdx 1) = .ok bs) ↔ ∀ a ∈ as, defined a := by
  rw [exists_collect_iff, List.zipIdx_map, List.forall_mem_map]
  refine Iff.trans (forall_congr' fun place => forall_congr' fun member => ?_) forall_mem_zipIdx_fst
  exact each place.1 (List.fst_mem_of_mem_zipIdx member) place.2

end Numbered

end Collect

theorem Joiner.symbol_cases (j : Joiner) : j.symbol = "&&" ∨ j.symbol = "||" := by
  cases j
  · exact .inl rfl
  · exact .inr rfl

namespace Check

theorem isJoiner_iff {v : Value} : isJoiner v = true ↔ ∃ j : Joiner, v = .str j.symbol := by
  cases v with
  | str s => simp only [isJoiner, Option.isSome_iff_exists, Joiner.ofSymbol?_eq_some_iff, Value.str.injEq]
  | _ => simp [isJoiner]

theorem isJoiner_symbol (j : Joiner) : isJoiner (.str j.symbol) = true :=
  isJoiner_iff.2 ⟨j, rfl⟩

theorem items?_eq_some_iff {v : Value} {items : List Value} : items? v = some items ↔ v = .list items ∧ items ≠ [] := by
  cases v with
  | list found =>
    cases found with
    | nil => simp [items?, eq_comm]
    | cons =>
      simp only [items?, Option.some.injEq, Value.list.injEq]
      refine ⟨fun same => ⟨same, ?_⟩, And.left⟩
      rw [← same]
      exact List.cons_ne_nil _ _
  | _ => simp [items?]

theorem items?_get_eq_some_iff {v : Value} {key : String} {items : List Value} :
    items? (v.get key) = some items ↔ v.itemsAt key = items ∧ items ≠ [] := by
  rw [items?_eq_some_iff, Value.itemsAt]
  split
  · rename_i found
    rw [found, Value.list.injEq]
  · rename_i other
    constructor
    · rintro ⟨found, _⟩
      exact absurd found (other items)
    · rintro ⟨rfl, nonempty⟩
      exact absurd rfl nonempty

theorem items?_get_eq_none_iff {v : Value} {key : String} : items? (v.get key) = none ↔ v.itemsAt key = [] := by
  rw [Value.itemsAt]
  cases v.get key with
  | list items => cases items <;> simp [items?]
  | _ => simp [items?]

variable (limits : Limits) (now : Timestamp)

/-- The problems of the member of a group with a number. -/
def placeProblems (group number : Nat) (c : Value) : Except Fault (List Problem) :=
  if c.isNode then .ok [.nestedGroup group number]
  else (conditionProblems limits now c).map (·.map (Problem.condition group number))

theorem memberProblems_eq_collect (group number : Nat) (members : List Value) :
    memberProblems limits now group number members =
      collect (fun place => placeProblems limits now group place.2 place.1) (members.zipIdx number) := by
  induction members generalizing number with
  | nil => rfl
  | cons c members ih =>
    rw [memberProblems, List.zipIdx_cons, collect, placeProblems, ← ih]
    split <;> rfl

theorem groupsProblems_eq_collect (number : Nat) (groups : List Value) :
    groupsProblems limits now number groups =
      collect (fun place => groupProblems limits now place.2 place.1) (groups.zipIdx number) := by
  induction groups generalizing number with
  | nil => rfl
  | cons g groups ih =>
    rw [groupsProblems, List.zipIdx_cons, collect, ← ih]

variable {limits now}

theorem joinerProblems_of_isJoiner {problem : String → Problem} {v : Value} (joiner : isJoiner (namedJoiner v) = true) :
    joinerProblems problem v = .ok [] :=
  if_pos joiner

theorem joinerProblems_eq_nil_iff {problem : String → Problem} {v : Value} :
    joinerProblems problem v = .ok [] ↔ isJoiner (namedJoiner v) = true := by
  refine ⟨fun none => ?_, joinerProblems_of_isJoiner⟩
  unfold joinerProblems at none
  split at none
  · assumption
  · obtain ⟨spelling, _, found⟩ := Outcome.map_eq_ok.1 none
    cases found

/-- A group with a joiner and conditions has the problems of its conditions. -/
theorem groupProblems_of_joined {g : Value} (joiner : isJoiner (namedJoiner g) = true)
    (nonempty : g.itemsAt "conditions" ≠ []) (number : Nat) :
    groupProblems limits now number g = memberProblems limits now number 1 (g.itemsAt "conditions") := by
  have members := items?_get_eq_some_iff.2 ⟨rfl, nonempty⟩
  cases g with
  | dict entries =>
    rw [groupProblems, joinerProblems_of_isJoiner joiner, members]
    exact bind_pure (memberProblems limits now number 1 _)
  | _ => exact absurd rfl nonempty

/-- A group with a joiner and no conditions has the problem that it is empty. -/
theorem groupProblems_of_empty {entries : List (String × Value)} (joiner : isJoiner (namedJoiner (.dict entries)) = true)
    (empty : (Value.dict entries).itemsAt "conditions" = []) (number : Nat) :
    groupProblems limits now number (.dict entries) = .ok [.emptyGroup number] := by
  rw [groupProblems, joinerProblems_of_isJoiner joiner, items?_get_eq_none_iff.2 empty]
  rfl

/-- A wire form with a joiner and groups is judged by its size first, and then by its groups. -/
theorem wireVerdict_of_joined {v : Value} (joiner : isJoiner (namedJoiner v) = true)
    (nonempty : v.itemsAt "groups" ≠ []) :
    wireVerdict limits now v = groupsVerdict limits now [] v (v.itemsAt "groups") := by
  have groups := items?_get_eq_some_iff.2 ⟨rfl, nonempty⟩
  cases v with
  | dict entries =>
    rw [wireVerdict, joinerProblems_of_isJoiner joiner, groups]
    rfl
  | _ => exact absurd rfl nonempty

/-- A wire form with a joiner and no groups is judged by that. -/
theorem wireVerdict_of_empty {entries : List (String × Value)} (joiner : isJoiner (namedJoiner (.dict entries)) = true)
    (empty : (Value.dict entries).itemsAt "groups" = []) :
    wireVerdict limits now (.dict entries) = .ok (.ofProblems [.noGroups]) := by
  rw [wireVerdict, joinerProblems_of_isJoiner joiner, items?_get_eq_none_iff.2 empty]
  rfl

end Check

end TaskQuery
