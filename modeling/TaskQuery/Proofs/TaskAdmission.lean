import TaskQuery.Proofs.FilterAdmission
import TaskQuery.Proofs.HeldValue
import TaskQuery.Record.Task

namespace TaskQuery

namespace Admission

variable {α : Type} {accept : Value → Admission α} {v : Value}

theorem optional_eq_ok_iff {x : Option α} :
    optional accept v = .ok x ↔ (v = .null ∧ x = none) ∨ (v ≠ .null ∧ ∃ a, accept v = .ok a ∧ some a = x) := by
  rw [optional, ne_eq, ← Value.isNull_iff]
  split
  · rename_i missing
    simp [missing, eq_comm]
  · rename_i present
    simp [present, Outcome.map_eq_ok]

theorem relation_eq_ok_iff {xs : List α} :
    relation accept v = .ok xs ↔
      (v = .null ∧ xs = []) ∨ ∃ vs, v = .list vs ∧ List.Forall₂ (fun v x => accept v = .ok x) vs xs := by
  rw [relation, list_eq_ok_iff.symm]
  cases v <;> simp [Value.isNull, list, refuse, eq_comm]

variable {entries : List (String × Value)} {key : String}

/-- Where null stands for the default, a missing entry counts as null. -/
theorem withDefault_eq_part {default : α} (absent : accept .null = .ok default) {x : α} :
    withDefault key default accept entries = .ok x ↔ accept (Match.part (.dict entries) key) = .ok x := by
  rw [withDefault_eq_ok_iff, Match.part, Match.parts]
  cases lookup? key entries with
  | none => simp [absent, eq_comm]
  | some v => simp

theorem optionalEntry_eq_ok_iff {x : Option α} :
    withDefault key none (optional accept) entries = .ok x ↔
      (Match.part (.dict entries) key = .null ∧ x = none) ∨
        (Match.part (.dict entries) key ≠ .null ∧ ∃ a, accept (Match.part (.dict entries) key) = .ok a ∧ some a = x) := by
  have absent : optional accept .null = .ok none := rfl
  rw [withDefault_eq_part absent, optional_eq_ok_iff]

theorem relationEntry_eq_ok_iff {xs : List α} :
    withDefault key [] (relation accept) entries = .ok xs ↔
      (Match.part (.dict entries) key = .null ∧ xs = []) ∨
        ∃ vs, Match.part (.dict entries) key = .list vs ∧ List.Forall₂ (fun v x => accept v = .ok x) vs xs := by
  have absent : relation accept .null = .ok [] := rfl
  rw [withDefault_eq_part absent, relation_eq_ok_iff]

/-- The attributes of a task, each admitted from the entry under its key. -/
structure TaskForm (entries : List (String × Value)) (t : TaskRecord) : Prop where
  id : withDefault "id" none (optional integer) entries = .ok t.id
  title : withDefault "title" none (optional text) entries = .ok t.title
  description : withDefault "description" none (optional text) entries = .ok t.description
  done : withDefault "done" false truthValue entries = .ok t.done
  priority : withDefault "priority" none (optional integer) entries = .ok t.priority
  percentDone : withDefault "percent_done" none (optional double) entries = .ok t.percentDone
  dueDate : withDefault "due_date" none (optional taskDate) entries = .ok t.dueDate
  created : withDefault "created" none (optional taskDate) entries = .ok t.created
  updated : withDefault "updated" none (optional taskDate) entries = .ok t.updated
  projectId : withDefault "project_id" none (optional integer) entries = .ok t.projectId
  assignees : withDefault "assignees" [] (relation taskUser) entries = .ok t.assignees
  labels : withDefault "labels" [] (relation taskLabel) entries = .ok t.labels

theorem task_eq_ok_iff {t : TaskRecord} : task v = .ok t ↔ ∃ entries, v = .dict entries ∧ TaskForm entries t := by
  rw [task, entries_bind_eq_ok_iff]
  simp only [ap_eq_ok_iff, Outcome.map_eq_ok]
  constructor
  · rintro ⟨entries, rfl, _, _, ⟨_, _, ⟨_, _, ⟨_, _, ⟨_, _, ⟨_, _, ⟨_, _, ⟨_, _, ⟨_, _, ⟨_, _, ⟨_, _, ⟨_, id, rfl⟩, title, rfl⟩,
      description, rfl⟩, done, rfl⟩, priority, rfl⟩, percentDone, rfl⟩, dueDate, rfl⟩, created, rfl⟩, updated, rfl⟩,
      projectId, rfl⟩, assignees, rfl⟩, labels, rfl⟩
    exact ⟨entries, rfl, id, title, description, done, priority, percentDone, dueDate, created, updated, projectId,
      assignees, labels⟩
  · rintro ⟨entries, rfl, id, title, description, done, priority, percentDone, dueDate, created, updated, projectId,
      assignees, labels⟩
    exact ⟨entries, rfl, _, _, ⟨_, _, ⟨_, _, ⟨_, _, ⟨_, _, ⟨_, _, ⟨_, _, ⟨_, _, ⟨_, _, ⟨_, _, ⟨_, _, ⟨_, id, rfl⟩, title, rfl⟩,
      description, rfl⟩, done, rfl⟩, priority, rfl⟩, percentDone, rfl⟩, dueDate, rfl⟩, created, rfl⟩, updated, rfl⟩,
      projectId, rfl⟩, assignees, rfl⟩, labels, rfl⟩

end Admission

/-- What a task record holds in a field. -/
def TaskRecord.held (t : TaskRecord) : Field → Value
  | .done => .bool t.done
  | .priority => .ofOption .int t.priority
  | .percentDone => .ofOption .float t.percentDone
  | .dueDate => .ofOption TaskDate.toValue t.dueDate
  | .assignees => .list (t.assignees.map TaskUser.toValue)
  | .labels => .list (t.labels.map TaskLabel.toValue)
  | .created => .ofOption TaskDate.toValue t.created
  | .updated => .ofOption TaskDate.toValue t.updated
  | .title => .ofOption .str t.title
  | .description => .ofOption .str t.description

/-- A record has an attribute for every field, and none under the other name of a field. -/
theorem TaskRecord.fieldValue_toValue (t : TaskRecord) (f : Field) : Match.fieldValue t.toValue f = t.held f := by
  have stored : Match.part t.toValue f.recordKey = t.held f := by
    cases f <;> simp [Match.part, Match.parts, toValue, entries, lookup?, Field.recordKey, Field.name, held]
  rw [Match.fieldValue_eq, stored]
  split
  · rename_i missing
    by_cases same : f.recordKey = f.name
    · rw [← same, stored]
    · have nothing : Match.part t.toValue f.name = .null := by
        cases f <;> first | exact absurd rfl same |
          simp [Match.part, Match.parts, toValue, entries, lookup?, Field.name]
      rw [nothing, Value.isNull_iff.1 missing]
  · rfl

end TaskQuery
