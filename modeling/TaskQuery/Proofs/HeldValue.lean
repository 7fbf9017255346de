import TaskQuery.Match.Filter
import TaskQuery.Outcome

namespace TaskQuery

theorem Value.isNull_iff {v : Value} : v.isNull = true ↔ v = .null := by
  cases v <;> simp [isNull]

theorem Value.measure?_float (x : Double) : (Value.float x).measure? = .ok (if x.isNumber then some x else none) := rfl

theorem Value.measure?_int (n : Int) :
    (Value.int n).measure? = (Double.ofInt? n).elim (.error .numberOutOfRange) fun x => .ok (some x) := rfl

theorem Operator.ofSymbol?_eq_some_iff {s : String} {op : Operator} : ofSymbol? s = some op ↔ s = op.symbol := by
  constructor
  · intro known
    unfold ofSymbol? at known
    split at known <;> cases known <;> rfl
  · rintro rfl
    exact op.ofSymbol?_symbol

theorem Double.order?_eq_none {x y : Double} (apart : x.isNumber = false ∨ y.isNumber = false) : x.order? y = none := by
  have nowhere {z : Double} (h : z.isNumber = false) : z.position? = none := by
    cases z <;> first | rfl | cases h
  rcases apart with left | right
  · rw [order?, nowhere left]
  · rw [order?, nowhere right]
    cases x.position? <;> rfl

namespace Match

/-- Whether two doubles stand to one another as an operator asks. They are seen by their places on the line of values; what
has no place equals nothing and stands in no order. -/
def relates (op : Operator) (x y : Double) : Bool :=
  match op with
  | .equal => Number.same (.float x) (.float y)
  | .notEqual => !Number.same (.float x) (.float y)
  | op => (x.order? y).any op.acceptsOrder

theorem relates_congr {x x' : Double} (same : x.position? = x'.position?) (op : Operator) (y : Double) :
    relates op x y = relates op x' y := by
  have equal : Number.same (.float x) (.float y) = Number.same (.float x') (.float y) := by
    simp only [Number.same, Number.position?, same]
  have order : x.order? y = x'.order? y := by
    simp only [Double.order?, same]
  simp only [relates, equal, order]

/-- Doubles are compared without a fault. -/
theorem compareValues_float (op : Operator) (x y : Double) :
    compareValues (some op) (.float x) (.float y) = .ok (relates op x y) := by
  cases number : x.isNumber with
  | false =>
    have apart := Double.order?_eq_none (y := y) (.inl number)
    cases op <;> simp [compareValues, relates, Value.measure?_float, number, apart, bind, Except.bind, pure, Except.pure] <;> rfl
  | true =>
    cases target : y.isNumber with
    | false =>
      have apart := Double.order?_eq_none (x := x) (.inr target)
      cases op <;>
        simp [compareValues, relates, Value.measure?_float, number, target, apart, bind, Except.bind, pure, Except.pure] <;> rfl
    | true =>
      cases op <;> simp [compareValues, relates, Value.measure?_float, number, target, bind, Except.bind, pure, Except.pure] <;> rfl

/-- A number field is compared as a double; what is no number counts as zero. -/
theorem compareHeld_number {now : Timestamp} {op : Operator} {actual : Value} {operand : Operand} {y : Double}
    (target : measureOf operand = .ok (some y)) :
    compareHeld now .number op actual operand = actual.measure?.map fun x => relates op (x.getD .zero) y := by
  simp only [compareHeld, target]
  cases actual.measure? with
  | error fault => rfl
  | ok x => exact compareValues_float op (x.getD .zero) y

/-- A date is compared with a text as the literal that it is. -/
theorem targetOf_text (now : Timestamp) (s : String) :
    targetOf now (.one (.str s)) = (DateLiteral.resolve now s).map (·.map Timestamp.utc) := rfl

section Dates

variable {now : Timestamp} {op : Operator} {actual : Value} {operand : Operand}

theorem compareHeld_date_of_error {fault : Fault} (failed : taskInstant actual = .error fault) :
    compareHeld now .date op actual operand = .error fault := by
  simp only [compareHeld, failed]
  rfl

/-- A date that is absent differs from every day, and stands in no other relation to one. -/
theorem compareHeld_date_of_absent (absent : taskInstant actual = .ok none) :
    compareHeld now .date op actual operand = .ok (op = .notEqual) := by
  simp only [compareHeld, absent]
  rfl

theorem compareHeld_date_of_instant {m : Moment} (held : taskInstant actual = .ok (some m)) :
    compareHeld now .date op actual operand = compareDates now (some op) (.utc m) operand := by
  simp only [compareHeld, held]
  rfl

theorem compareDates_of_unresolved {actual : Timestamp} (unresolved : targetOf now operand = .ok none) :
    compareDates now (some op) actual operand = .ok false := by
  simp only [compareDates, unresolved]
  rfl

end Dates

/-- A field is read under the name of its attribute or, where that gives null, under its own name. -/
theorem fieldValue_eq (task : Value) (f : Field) :
    fieldValue task f = if (part task f.recordKey).isNull then part task f.name else part task f.recordKey := by
  simp only [fieldValue, taskValue, f.ofName?_name]
  by_cases same : f.recordKey = f.name
  · simp [same]
  · simp [same]

theorem fieldValue_of_sameKey {f : Field} (same : f.recordKey = f.name) (task : Value) :
    fieldValue task f = part task f.recordKey := by
  rw [fieldValue_eq, same, ite_self]

/-- A task with a single attribute holds it in the field. -/
theorem fieldValue_single (f : Field) (v : Value) : fieldValue (.dict [(f.recordKey, v)]) f = v := by
  have held : part (.dict [(f.recordKey, v)]) f.recordKey = v := by
    simp [part, parts, lookup?]
  rw [fieldValue_eq, held]
  split
  · rename_i missing
    rw [Value.isNull_iff.1 missing, part, parts]
    by_cases same : f.recordKey = f.name <;> simp [lookup?, same]
  · rfl

theorem fieldValue_empty (f : Field) : fieldValue (.dict []) f = .null := by
  rw [fieldValue_eq]
  rfl

theorem identities_list (items : List Value) : identities (.list items) = .ok (items.map identity) := by
  cases items <;> rfl

end Match

namespace Condition

theorem holds_of_allows {c : Condition} (suits : c.field.kind.allows c.operator = true) (now : Timestamp) (task : Value) :
    c.holds now task = Match.compareHeld now c.field.kind c.operator (Match.fieldValue task c.field) c.operand :=
  if_pos suits

/-- A condition on a relation compares the identities of its items. -/
theorem holds_of_relation {f : Field} (relation : f.kind = .array) {op : Operator} (membership : op = .isIn ∨ op = .notIn)
    (operand : Operand) (now : Timestamp) (task : Value) :
    (⟨f, op, operand⟩ : Condition).holds now task =
      (Match.identities (Match.fieldValue task f)).map fun ids =>
        Match.compareLists (some op) ids (Match.valuesOf operand) := by
  have suits : f.kind.allows op = true := by rcases membership with rfl | rfl <;> simp [relation, Kind.allows]
  rw [holds_of_allows suits]
  simp only [relation, Match.compareHeld]

theorem known?_unchecked (c : Condition) : c.unchecked.known? = some c := by
  simp only [Unchecked.Condition.known?, unchecked, c.field.ofName?_name, c.operator.ofSymbol?_symbol]

/-- A condition of the catalogue is evaluated in the same way by its names. -/
theorem holds_unchecked (c : Condition) (now : Timestamp) (task : Value) :
    c.unchecked.holds now task = c.holds now task := by
  rw [Unchecked.Condition.holds, c.known?_unchecked]

end Condition

theorem Unchecked.Condition.known?_eq_some_iff {c : Unchecked.Condition} {known : TaskQuery.Condition} :
    c.known? = some known ↔
      Field.ofName? c.field = some known.field ∧ c.operator = known.operator.symbol ∧ c.operand = known.operand := by
  obtain ⟨field, operator, operand⟩ := known
  simp only [← Operator.ofSymbol?_eq_some_iff]
  unfold known?
  split
  · rename_i f op named spelled
    simp [named, spelled]
  · rename_i unknown
    refine iff_of_false (fun found => by cases found) ?_
    rintro ⟨named, spelled, _⟩
    exact unknown _ _ named spelled

end TaskQuery
