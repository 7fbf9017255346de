import TaskQuery.Proofs.RecordView

namespace TaskQuery

/-- The names under which a single value of a task is looked up. -/
def valueNames : List String :=
  ["done", "priority", "percent_done", "percentDone", "due_date", "dueDate", "created", "updated", "title", "description"]

/-- The names under which the related items of a task are looked up. -/
def relationNames : List String :=
  ["assignees", "labels"]

/-- A relation is looked up under one name, and any other field under one name or two. -/
theorem Field.names_seen (f : Field) :
    if f.kind = .array then f.recordKey = f.name ∧ f.name ∈ relationNames
    else f.recordKey ∈ valueNames ∧ f.name ∈ valueNames := by
  cases f <;> decide

namespace Match

/-- Whether two items of a relation are the same to a filter: dictionaries with the same id, whatever else they hold, or one
and the same value. A missing id counts as null. -/
inductive SameItem : Value → Value → Prop
  | ids {own other : List (String × Value)} :
      Value.get (.dict own) "id" = Value.get (.dict other) "id" → SameItem (.dict own) (.dict other)
  | value (v : Value) : SameItem v v

/-- Whether two dictionaries are the same task to a filter: they agree under the names of single values, where a null counts
as nothing, and have relations of equal length whose items agree one by one. -/
structure SameSight (task other : List (String × Value)) : Prop where
  values : ∀ name ∈ valueNames, Value.get (.dict task) name = Value.get (.dict other) name
  relations : ∀ name ∈ relationNames, ∃ items others, lookup? name task = some (.list items) ∧
    lookup? name other = some (.list others) ∧ List.Forall₂ SameItem items others

theorem SameItem.identity_eq {v w : Value} (same : SameItem v w) : identity v = identity w := by
  cases same with
  | ids id => exact id
  | value => rfl

theorem identities_eq_of_sameItems {items others : List Value} (same : List.Forall₂ SameItem items others) :
    identities (.list items) = identities (.list others) := by
  rw [identities_list, identities_list]
  refine congrArg Except.ok ?_
  induction same with
  | nil => rfl
  | cons first _ ih => rw [List.map_cons, List.map_cons, first.identity_eq, ih]

/-- A field under one name holds what stands under this name. -/
theorem fieldValue_of_sameName {f : Field} (same : f.recordKey = f.name) (task : Value) :
    fieldValue task f = part task f.name := by
  rw [fieldValue_eq, same]
  exact ite_self _

/-- To the comparisons of any field, tasks of the same sight hold alike values. -/
theorem SameSight.alike {task other : List (String × Value)} (same : SameSight task other) (f : Field) :
    Alike f.kind (fieldValue (.dict task) f) (fieldValue (.dict other) f) := by
  have names := f.names_seen
  split at names
  · rename_i array
    obtain ⟨items, others, held, heldThere, members⟩ := same.relations f.name names.2
    rw [fieldValue_of_sameName names.1, fieldValue_of_sameName names.1, part_of_lookup? held, part_of_lookup? heldThere,
      array]
    exact identities_eq_of_sameItems members
  · have key : part (.dict task) f.recordKey = part (.dict other) f.recordKey := same.values _ names.1
    have name : part (.dict task) f.name = part (.dict other) f.name := same.values _ names.2
    rw [fieldValue_eq, fieldValue_eq, key, name]
    exact .refl _ _

end Match

/-- Every expression, with any texts for its fields and operators, has the same outcome for tasks of the same sight, be it an
answer or a fault. -/
theorem Unchecked.Expression.holds_of_sameSight {task other : List (String × Value)} (same : Match.SameSight task other)
    (now : Timestamp) (e : Unchecked.Expression) : e.holds now (.dict task) = e.holds now (.dict other) :=
  holds_congr same.alike now e

/-- Two tasks of the same sight that differ under names beyond the catalogue, in the order of their entries, in an explicit
null and in what their labels have besides an id. -/
theorem Unchecked.Expression.holds_of_sameSight_labels :
    let task : List (String × Value) := [("id", .int 1), ("__proto__", .str "x"), ("title", .str "report"),
      ("labels", .list [.dict [("id", .int 4), ("title", .str "bug")], .int 7]), ("assignees", .list [])]
    let other : List (String × Value) := [("labels", .list [.dict [("hex", .str "f00"), ("id", .int 4)], .int 7]),
      ("due_date", .null), ("owner", .bool true), ("assignees", .list []), ("title", .str "report")]
    Match.SameSight task other ∧
      ∀ (now : Timestamp) (e : Unchecked.Expression), e.holds now (.dict task) = e.holds now (.dict other) := by
  intro task other
  have values : ∀ name ∈ valueNames, Value.get (.dict task) name = Value.get (.dict other) name := by decide
  have same : Match.SameSight task other :=
    ⟨values, List.forall_mem_cons.2 ⟨⟨[], [], rfl, rfl, .nil⟩,
      List.forall_mem_singleton.2 ⟨_, _, rfl, rfl, .cons (.ids rfl) (.cons (.value _) .nil)⟩⟩⟩
  exact ⟨same, fun now e => Unchecked.Expression.holds_of_sameSight same now e⟩

end TaskQuery
