import TaskQuery.Outcome
import TaskQuery.Value.Display

namespace TaskQuery.Value

/-- A value with an integer in it that is too long to be written. -/
inductive Overlong : Value → Prop
  | int {n : Int} : TooLong n → Overlong (int n)
  | item {items : List Value} {v : Value} : v ∈ items → Overlong v → Overlong (list items)
  | entry {entries : List (String × Value)} {e : String × Value} : e ∈ entries → Overlong e.2 → Overlong (dict entries)
  | attribute {attributes : List (String × Value)} {e : String × Value} : e ∈ attributes → Overlong e.2 →
      Overlong (record attributes)

theorem overlong_int_iff {n : Int} : (int n).Overlong ↔ TooLong n :=
  ⟨fun | .int long => long, .int⟩

theorem overlong_list_iff {items : List Value} : (list items).Overlong ↔ ∃ v ∈ items, v.Overlong :=
  ⟨fun | .item member long => ⟨_, member, long⟩, fun ⟨_, member, long⟩ => .item member long⟩

theorem overlong_dict_iff {entries : List (String × Value)} : (dict entries).Overlong ↔ ∃ e ∈ entries, e.2.Overlong :=
  ⟨fun | .entry member long => ⟨_, member, long⟩, fun ⟨_, member, long⟩ => .entry member long⟩

theorem overlong_record_iff {attributes : List (String × Value)} :
    (record attributes).Overlong ↔ ∃ e ∈ attributes, e.2.Overlong :=
  ⟨fun | .attribute member long => ⟨_, member, long⟩, fun ⟨_, member, long⟩ => .attribute member long⟩

mutual

/-- A value has a spelling unless an integer in it has none. -/
theorem exists_shown_iff : ∀ v : Value, (∃ text, v.shown = .ok text) ↔ ¬v.Overlong
  | null | bool _ | float _ | str _ | date _ | datetime _ =>
    iff_of_true ⟨_, rfl⟩ fun overlong => by cases overlong
  | int n => by
    rw [shown, exists_writeInteger_iff, overlong_int_iff]
  | list items => by
    rw [shown, Outcome.exists_map_iff, exists_shownItems_iff items, overlong_list_iff]
    simp only [not_exists, not_and]
  | dict entries => by
    rw [shown, Outcome.exists_map_iff, exists_shownEntries_iff entries, overlong_dict_iff]
    simp only [not_exists, not_and]
  | record attributes => by
    rw [shown, Outcome.exists_map_iff, exists_shownEntries_iff attributes, overlong_record_iff]
    simp only [not_exists, not_and]

theorem exists_shownItems_iff : ∀ items : List Value, (∃ texts, shownItems items = .ok texts) ↔ ∀ v ∈ items, ¬v.Overlong
  | [] => iff_of_true ⟨[], rfl⟩ (List.forall_mem_nil _)
  | v :: items => by
    rw [List.forall_mem_cons, ← exists_shown_iff v, ← exists_shownItems_iff items]
    exact Outcome.exists_both_iff

theorem exists_shownEntries_iff :
    ∀ entries : List (String × Value), (∃ texts, shownEntries entries = .ok texts) ↔ ∀ e ∈ entries, ¬e.2.Overlong
  | [] => iff_of_true ⟨[], rfl⟩ (List.forall_mem_nil _)
  | (key, v) :: entries => by
    rw [List.forall_mem_cons, ← exists_shown_iff v, ← exists_shownEntries_iff entries]
    exact Outcome.exists_both_iff

end

/-- So a value has a text. -/
theorem exists_text_iff (v : Value) : (∃ text, v.text = .ok text) ↔ ¬v.Overlong := by
  cases v with
  | str | date | datetime => exact iff_of_true ⟨_, rfl⟩ fun overlong => by cases overlong
  | _ => exact exists_shown_iff _

end TaskQuery.Value
