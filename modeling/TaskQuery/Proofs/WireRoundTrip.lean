import TaskQuery.Filter.Wire
import TaskQuery.Proofs.FilterAdmission
import TaskQuery.Proofs.FilterKinds
import TaskQuery.Record.SavedFilter

namespace TaskQuery

theorem Condition.wireForm_toValue {c : Condition} (plain : c.operand.Plain) : WireForm c.unchecked.toValue c :=
  .intro (by simp) rfl c.field.ofName?_name rfl c.operator.ofSpelling?_symbol rfl plain

theorem Filter.wireForm_toValue {e : Filter} (plain : ∀ c ∈ e.conditions, c.operand.Plain) : WireForm e.toValue e := by
  have inGroup : ∀ g ∈ e.groups, ∀ c ∈ g.conditions, c.operand.Plain := List.forall_mem_flatMap.1 plain
  refine .intro (by simp) rfl ?_ (.inl rfl)
  simp only [Expression.unchecked, List.map_map, List.forall₂_map_left_iff, List.forall₂_same]
  intro g member
  refine .intro (by simp) rfl ?_ (.inl rfl)
  simp only [List.map_map, List.forall₂_map_left_iff, List.forall₂_same]
  exact fun c inside => Condition.wireForm_toValue (inGroup g member c inside)

theorem Filter.ofValue_toValue {e : Filter} (plain : ∀ c ∈ e.conditions, c.operand.Plain) :
    Filter.ofValue e.toValue = .ok e :=
  Filter.ofValue_eq_ok_iff.2 (Filter.wireForm_toValue plain)

theorem Value.Listed.isScalar {v : Value} (listed : v.Listed) : Admission.isScalar v = true := by
  cases listed with
  | text => rfl
  | number n => cases n <;> rfl

theorem Operand.OfKind.plain {kind : Kind} {operand : Operand} (ofKind : operand.OfKind kind) : operand.Plain := by
  cases ofKind with
  | truth | date | string => rfl
  | number n => cases n <;> rfl
  | items listed => exact fun v inside => (listed v inside).isScalar

theorem Filter.plain_of_read {s : String} {e : Filter} (read : Filter.read s = .ok e) :
    ∀ c ∈ e.conditions, c.operand.Plain :=
  fun c member => ((Filter.sound_of_read read).kinds c member).plain

namespace Unchecked

/-- A condition that is named as the catalogue names it, with a plain value. -/
structure Condition.Canonical (c : Condition) : Prop where
  field : ∃ f : Field, c.field = f.name
  operator : ∃ op : Operator, c.operator = op.symbol
  operand : c.operand.Plain

/-- An expression of canonical conditions under the two joiners. It may be empty, and so may its groups. -/
structure Expression.Canonical (e : Expression) : Prop where
  joiner : ∃ j : Joiner, e.operator = j.symbol
  joiners : ∀ g ∈ e.groups, ∃ j : Joiner, g.operator = j.symbol
  conditions : ∀ c ∈ e.conditions, c.Canonical

theorem exists_map_eq {α β : Type} {f : α → β} {property : α → Prop} {bs : List β}
    (each : ∀ b ∈ bs, ∃ a, property a ∧ f a = b) : ∃ as : List α, (∀ a ∈ as, property a) ∧ as.map f = bs := by
  induction bs with
  | nil => exact ⟨[], List.forall_mem_nil _, rfl⟩
  | cons b bs ih =>
    obtain ⟨⟨a, holds, rfl⟩, others⟩ := List.forall_mem_cons.1 each
    obtain ⟨as, hold, rfl⟩ := ih others
    exact ⟨a :: as, List.forall_mem_cons.2 ⟨holds, hold⟩, rfl⟩

theorem Condition.Canonical.exists_condition {c : Condition} (canonical : c.Canonical) :
    ∃ d : TaskQuery.Condition, d.operand.Plain ∧ d.unchecked = c := by
  obtain ⟨f, field⟩ := canonical.field
  obtain ⟨op, operator⟩ := canonical.operator
  obtain ⟨_, _, operand⟩ := c
  cases field
  cases operator
  exact ⟨⟨f, op, operand⟩, canonical.operand, rfl⟩

/-- The canonical expressions are those that filters with plain values are, without their types. -/
theorem Expression.canonical_iff {u : Expression} :
    u.Canonical ↔ ∃ e : Filter, (∀ c ∈ e.conditions, c.operand.Plain) ∧ e.unchecked = u := by
  constructor
  · rintro ⟨⟨j, joiner⟩, joiners, conditions⟩
    have each : ∀ g ∈ u.groups, ∃ h : TaskQuery.Group TaskQuery.Condition,
        (∀ c ∈ h.conditions, c.operand.Plain) ∧
          (⟨h.conditions.map TaskQuery.Condition.unchecked, h.joiner.symbol⟩ : Group) = g := by
      intro g member
      obtain ⟨k, operator⟩ := joiners g member
      obtain ⟨cs, plain, same⟩ := exists_map_eq fun c inside =>
        (conditions c (List.mem_flatMap.2 ⟨g, member, inside⟩)).exists_condition
      exact ⟨⟨cs, k⟩, plain, by rw [same, ← operator]⟩
    obtain ⟨groups, plain, same⟩ := exists_map_eq each
    exact ⟨⟨groups, j⟩, List.forall_mem_flatMap.2 plain, by rw [TaskQuery.Expression.unchecked, same, ← joiner]⟩
  · rintro ⟨e, plain, rfl⟩
    refine ⟨⟨e.joiner, rfl⟩, List.forall_mem_map.2 fun g _ => ⟨g.joiner, rfl⟩, ?_⟩
    refine List.forall_mem_flatMap.2 (List.forall_mem_map.2 fun g member => List.forall_mem_map.2 fun c inside => ?_)
    exact ⟨⟨c.field, rfl⟩, ⟨c.operator, rfl⟩, plain c (List.mem_flatMap.2 ⟨g, member, inside⟩)⟩

/-- An expression comes back from its wire form exactly if it is canonical. -/
theorem Expression.ofValue_toValue_iff {u : Expression} :
    (Filter.ofValue u.toValue).map TaskQuery.Expression.unchecked = .ok u ↔ u.Canonical := by
  rw [Expression.canonical_iff, Outcome.map_eq_ok]
  constructor
  · rintro ⟨e, admitted, same⟩
    exact ⟨e, (Filter.ofValue_eq_ok_iff.1 admitted).plain, same⟩
  · rintro ⟨e, plain, rfl⟩
    exact ⟨e, Filter.ofValue_toValue plain, rfl⟩

end Unchecked

/-- Filters come back from their wire forms. An expression does, with the type of every value, exactly if it is canonical;
every filter that is read from text or admitted from a wire form does. A saved filter therefore has one filter, whether it
stores its wire form or its text alone. -/
theorem Filter.wire_roundTrip :
    (∀ u : Unchecked.Expression, (Filter.ofValue u.toValue).map Expression.unchecked = .ok u ↔ u.Canonical) ∧
    (∀ s e, Filter.read s = .ok e → Filter.ofValue e.toValue = .ok e) ∧
    (∀ (saved : SavedFilter) e, Filter.read saved.filter = .ok e →
      ∃ entries, e.toValue = .dict entries ∧ { saved with expression := some entries }.resolve = .ok e ∧
        { saved with expression := none }.resolve = .ok e) ∧
    ∀ v e, Filter.ofValue v = .ok e → Filter.ofValue e.toValue = .ok e := by
  have ofText (s : String) (e : Filter) (read : Filter.read s = .ok e) : Filter.ofValue e.toValue = .ok e :=
    Filter.ofValue_toValue (Filter.plain_of_read read)
  refine ⟨fun _ => Unchecked.Expression.ofValue_toValue_iff, ofText, fun saved e read => ?_, fun v e admitted => ?_⟩
  · refine ⟨_, rfl, ?_, ?_⟩
    · show (Filter.ofValue e.toValue).mapError SavedFilter.Unresolved.refused = .ok e
      rw [ofText _ _ read]
      rfl
    · rw [SavedFilter.resolve, read]
      rfl
  · exact Filter.ofValue_toValue (Filter.ofValue_eq_ok_iff.1 admitted).plain

/-- An empty group beside one with values of every type, a text, and a wire form with other spellings and without joiners. -/
theorem Filter.wire_roundTrip_mixed :
    let u : Unchecked.Expression := ⟨[⟨[], "||"⟩, ⟨[⟨"dueDate", "not in", .many [.bool true, .int 1, .float .nan, .str "1"]⟩,
      ⟨"done", "like", .one (.int 1)⟩], "&&"⟩], "||"⟩
    let ofText : Filter := ⟨[⟨[⟨.percentDone, .less, .one (.int 5)⟩, ⟨.labels, .isIn, .many [.int 1, .str "a"]⟩], .or⟩], .and⟩
    let saved : SavedFilter := ⟨"1", "a", none, "percent_done < 5 || labels in 1, a", none, ⟨⟨0, by decide⟩, none⟩,
      ⟨⟨0, by decide⟩, none⟩, none, false⟩
    let loose : Value := .dict [("groups", .list [.dict [("conditions", .list [.dict [("value", .str "now"),
      ("operator", .str "Not  In"), ("field", .str "due_date")]])]])]
    let strict : Filter := ⟨[⟨[⟨.dueDate, .notIn, .one (.str "now")⟩], .and⟩], .and⟩
    (Filter.ofValue u.toValue).map Expression.unchecked = .ok u ∧ Filter.ofValue ofText.toValue = .ok ofText ∧
      saved.resolve = .ok ofText ∧
      (∃ entries, ofText.toValue = .dict entries ∧ { saved with expression := some entries }.resolve = .ok ofText) ∧
      Filter.ofValue loose = .ok strict ∧ Filter.ofValue strict.toValue = .ok strict := by
  intro u ofText saved loose strict
  obtain ⟨canonical, texts, stored, again⟩ := Filter.wire_roundTrip
  have read : Filter.read "percent_done < 5 || labels in 1, a" = .ok ofText := by decide +kernel
  have admitted : Filter.ofValue loose = .ok strict := by decide +kernel
  obtain ⟨entries, wire, fromWire, fromText⟩ := stored saved ofText read
  refine ⟨(canonical u).2 ⟨⟨.or, rfl⟩, ?_, ?_⟩, texts _ _ read, fromText, ⟨entries, wire, fromWire⟩, admitted,
    again _ _ admitted⟩
  · exact List.forall_mem_cons.2 ⟨⟨.or, rfl⟩, List.forall_mem_singleton.2 ⟨.and, rfl⟩⟩
  · refine List.forall_mem_cons.2 ⟨⟨⟨.dueDate, rfl⟩, ⟨.notIn, rfl⟩, ?_⟩,
      List.forall_mem_singleton.2 ⟨⟨.done, rfl⟩, ⟨.like, rfl⟩, rfl⟩⟩
    show ∀ v ∈ [Value.bool true, .int 1, .float .nan, .str "1"], Admission.isScalar v = true
    decide

end TaskQuery
