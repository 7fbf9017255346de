import TaskQuery.Proofs.MatchFaults
import TaskQuery.Proofs.RecordView
import TaskQuery.Proofs.Rounding

namespace TaskQuery

/-- Whether exactly one of several outcomes is a yes. Either all of them are answers, or all are the same fault. -/
def ExactlyOneYes (outcomes : List (Except Fault Bool)) : Prop :=
  (∃ answers : List Bool, outcomes = answers.map .ok ∧ answers.count true = 1) ∨
    ∃ fault, ∀ outcome ∈ outcomes, outcome = .error fault

namespace ExactlyOneYes

/-- Outcomes that are read off one result have exactly one yes among them, if the readings of every such result have. -/
theorem map {α β : Type} {tests : List β} {test : β → α → Bool}
    (each : ∀ a, (tests.map fun t => test t a).count true = 1) (x : Except Fault α) :
    ExactlyOneYes (tests.map fun t => x.map (test t)) := by
  cases x with
  | ok a =>
    refine .inl ⟨tests.map fun t => test t a, ?_, each a⟩
    rw [List.map_map]
    rfl
  | error fault => exact .inr ⟨fault, List.forall_mem_map.2 fun _ _ => rfl⟩

/-- An outcome and its opposite have exactly one yes. -/
theorem opposites (x : Except Fault Bool) : ExactlyOneYes [x, x.map not] := by
  cases x with
  | ok met =>
    refine .inl ⟨[met, !met], rfl, ?_⟩
    cases met <;> rfl
  | error fault => exact .inr ⟨fault, List.forall_mem_cons.2 ⟨rfl, List.forall_mem_singleton.2 rfl⟩⟩

end ExactlyOneYes

namespace Operator

/-- Whether two things that stand in some order are as an operator asks. -/
def meets (op : Operator) (order : Ordering) : Bool :=
  match op with
  | .equal => order = .eq
  | .notEqual => order ≠ .eq
  | op => op.acceptsOrder order

/-- The operators that compare by size. -/
def ofOrder : List Operator :=
  [equal, notEqual, greater, greaterEqual, less, lessEqual]

/-- The operators of order with their opposites. -/
def strictChoices : List (List Operator) :=
  [[less, greaterEqual], [greater, lessEqual]]

/-- The operators of which exactly one is met, in whatever order two things stand. -/
def choices : List (List Operator) :=
  [equal, notEqual] :: [less, equal, greater] :: strictChoices

theorem count_meets {ops : List Operator} (choice : ops ∈ choices) (order : Ordering) :
    (ops.map fun op => op.meets order).count true = 1 := by
  revert ops
  cases order <;> decide

end Operator

namespace Position

theorem lt_irrefl (p : Position) : p.lt p = false := by
  cases p <;> simp [lt]

theorem order_eq_iff {p q : Position} : p.order q = .eq ↔ p = q := by
  unfold order
  by_cases same : p = q
  · simp [same, lt_irrefl]
  · by_cases below : p.lt q = true <;> simp [same, below]

end Position

namespace Double

theorem exists_position {x : Double} (number : x.isNumber = true) : ∃ p, x.position? = some p := by
  cases x with
  | nan => cases number
  | infinite negative => exact ⟨_, rfl⟩
  | finite negative code => exact ⟨_, rfl⟩

end Double

/-- The double that a value is compared as is a number. -/
theorem Value.isNumber_of_measure? {v : Value} {x : Double} (measured : v.measure? = .ok (some x)) : x.isNumber = true := by
  cases v with
  | bool b =>
    have truth : Double.ofBool b = x := Option.some.inj (Except.ok.inj measured)
    rw [← truth, Double.ofBool]
    split
    · exact Double.isNumber_ofRatio false 1 1
    · rfl
  | int n =>
    rw [measure?_int] at measured
    cases nearest : Double.ofInt? n with
    | none =>
      rw [nearest] at measured
      cases measured
    | some y =>
      rw [nearest] at measured
      cases measured
      exact Double.isNumber_of_ofInt? nearest
  | float y =>
    rw [measure?_float] at measured
    split at measured
    · cases measured
      assumption
    · cases measured
  | str s =>
    have found : (readMeasure? s).filter Double.isNumber = some x := Except.ok.inj measured
    exact (Option.filter_eq_some_iff.1 found).2
  | _ => cases measured

namespace Match

/-- Numbers stand to one another as the order of their places says. -/
theorem relates_of_positions {x y : Double} {p q : Position} (left : x.position? = some p) (right : y.position? = some q)
    (op : Operator) : relates op x y = op.meets (p.order q) := by
  have order : x.order? y = some (p.order q) := by rw [Double.order?, left, right]
  have same : Number.same (.float x) (.float y) = (p == q) := by rw [Number.same, Number.position?, Number.position?, left, right]
  have equal : (p == q) = decide (p.order q = .eq) := by
    rw [decide_eq_decide.2 Position.order_eq_iff]
    rfl
  cases op with
  | equal => exact same.trans equal
  | notEqual => rw [relates, same, equal, Operator.meets, decide_not]
  | _ =>
    show (x.order? y).any _ = _
    rw [order]
    rfl

/-- Asked for a number, a number field is compared by one order for all operators. -/
theorem exists_order_of_number {operand : Operand} {y : Double} (target : measureOf operand = .ok (some y)) (actual : Value) :
    ∃ order : Except Fault Ordering, ∀ now op, compareHeld now .number op actual operand = order.map (Operator.meets op) := by
  have number : y.isNumber = true := by
    cases operand with
    | one v => exact Value.isNumber_of_measure? target
    | many items => cases target
  obtain ⟨q, right⟩ := Double.exists_position number
  cases measured : actual.measure? with
  | error fault => exact ⟨.error fault, fun now op => by rw [compareHeld_number target, measured]; rfl⟩
  | ok x =>
    have held : (x.getD .zero).isNumber = true := by
      cases x with
      | none => rfl
      | some x => exact Value.isNumber_of_measure? measured
    obtain ⟨p, left⟩ := Double.exists_position held
    refine ⟨.ok (p.order q), fun now op => ?_⟩
    rw [compareHeld_number target, measured]
    exact congrArg Except.ok (relates_of_positions left right op)

section Dates

variable {now : Timestamp} {operand : Operand} {target : Timestamp}

/-- A date that is there stands to another one as the order of their instants says. -/
theorem compareDates_order (resolved : targetOf now operand = .ok (some target)) (m : Moment) {op : Operator}
    (strict : ∃ ops ∈ Operator.strictChoices, op ∈ ops) :
    compareDates now (some op) (.utc m) operand =
      .ok (op.meets (compare (Timestamp.utc m).instantMicros target.instantMicros)) := by
  simp only [Operator.strictChoices, List.mem_cons, List.not_mem_nil, or_false, exists_eq_or_imp, exists_eq_left] at strict
  rcases strict with (rfl | rfl) | (rfl | rfl)
  all_goals
    simp only [compareDates, resolved]
    rfl

/-- A date field, asked for a date: not equal is the opposite of equal, also where the date is absent. -/
theorem compareHeld_date_notEqual (resolved : targetOf now operand = .ok (some target)) (actual : Value) :
    compareHeld now .date .notEqual actual operand = (compareHeld now .date .equal actual operand).map not := by
  cases held : taskInstant actual with
  | error fault =>
    rw [compareHeld_date_of_error held, compareHeld_date_of_error held]
    rfl
  | ok instant =>
    cases instant with
    | none =>
      rw [compareHeld_date_of_absent held, compareHeld_date_of_absent held]
      rfl
    | some m =>
      rw [compareHeld_date_of_instant held, compareHeld_date_of_instant held]
      rw [compareDates_equal resolved, compareDates_notEqual resolved]

end Dates

end Match

namespace Field

/-- The outcomes for a task of the conditions that ask for an operand in a field, with one operator after the other. -/
def outcomes (f : Field) (now : Timestamp) (task : Value) (operand : Operand) (ops : List Operator) :
    List (Except Fault Bool) :=
  ops.map fun op => Condition.holds now ⟨f, op, operand⟩ task

/-- How the operators exclude one another on a field, for a task and an operand. -/
structure Exclusive (f : Field) (now : Timestamp) (task : Value) (operand : Operand) : Prop where
  /-- On a truth value, and on a text, exactly one of equal and not equal is met. -/
  equality : f.kind = .boolean ∨ f.kind = .string → ExactlyOneYes (f.outcomes now task operand [.equal, .notEqual])
  /-- On a relation exactly one of membership and its opposite is met. -/
  membership : f.kind = .array → ExactlyOneYes (f.outcomes now task operand [.isIn, .notIn])
  /-- On a number exactly one of each choice is met, if the operand is a number. -/
  size : f.kind = .number → ∀ y, Match.measureOf operand = .ok (some y) → ∀ ops ∈ Operator.choices,
    ExactlyOneYes (f.outcomes now task operand ops)
  /-- On a number nothing is met by an operand that is none. -/
  noNumber : f.kind = .number → Match.measureOf operand = .ok none → ∀ op ∈ Operator.ofOrder,
    Condition.holds now ⟨f, op, operand⟩ task = .ok false
  /-- On a date exactly one of equal and not equal is met, if the operand is a date. -/
  day : f.kind = .date → ∀ target, Match.targetOf now operand = .ok (some target) →
    ExactlyOneYes (f.outcomes now task operand [.equal, .notEqual])
  /-- On a date that is there, exactly one of an operator of order and its opposite is met. -/
  instant : f.kind = .date → ∀ target m, Match.targetOf now operand = .ok (some target) →
    taskInstant (Match.fieldValue task f) = .ok (some m) → ∀ ops ∈ Operator.strictChoices,
    ExactlyOneYes (f.outcomes now task operand ops)
  /-- On a date that is absent, only not equal is met. -/
  absent : f.kind = .date → ∀ target, Match.targetOf now operand = .ok (some target) →
    taskInstant (Match.fieldValue task f) = .ok none → ∀ op ∈ Operator.ofOrder,
    Condition.holds now ⟨f, op, operand⟩ task = .ok (op = .notEqual)

variable {f : Field} {now : Timestamp} {task : Value} {operand : Operand}

theorem outcomes_of_allows {ops : List Operator} (suits : ∀ op ∈ ops, f.kind.allows op = true) :
    f.outcomes now task operand ops =
      ops.map fun op => Match.compareHeld now f.kind op (Match.fieldValue task f) operand :=
  List.map_congr_left fun op member => Condition.holds_of_allows (c := ⟨f, op, operand⟩) (suits op member) now task

/-- Two operators that suit a field are a choice if what the second one gives is the opposite of what the first one gives. -/
theorem exactlyOneYes_pair {op other : Operator} (suits : f.kind.allows op = true) (suitsToo : f.kind.allows other = true)
    (opposite : Match.compareHeld now f.kind other (Match.fieldValue task f) operand =
      (Match.compareHeld now f.kind op (Match.fieldValue task f) operand).map not) :
    ExactlyOneYes (f.outcomes now task operand [op, other]) := by
  rw [outcomes_of_allows (List.forall_mem_cons.2 ⟨suits, List.forall_mem_singleton.2 suitsToo⟩), List.map_cons,
    List.map_singleton, opposite]
  exact .opposites _

theorem allows_of_choice {kind : Kind} (sized : kind = .number ∨ kind = .date) :
    ∀ ops ∈ Operator.choices, ∀ op ∈ ops, kind.allows op = true := by
  rcases sized with rfl | rfl <;> decide

theorem strict_mem_choices {ops : List Operator} (strict : ops ∈ Operator.strictChoices) : ops ∈ Operator.choices :=
  List.mem_cons_of_mem _ (List.mem_cons_of_mem _ strict)

/-- Whatever a task holds in a field and whatever it is compared with, opposite operators exclude one another. -/
theorem exclusive_operators (f : Field) (now : Timestamp) (task : Value) (operand : Operand) : f.Exclusive now task operand where
  equality kind := by
    rcases kind with kind | kind
    · refine exactlyOneYes_pair (by rw [kind]; rfl) (by rw [kind]; rfl) ?_
      rw [kind, Match.compareHeld, Match.compareHeld]
      cases Match.isTrue operand <;> rfl
    · refine exactlyOneYes_pair (by rw [kind]; rfl) (by rw [kind]; rfl) ?_
      rw [kind, Match.compareHeld, Match.compareHeld]
      cases Match.heldText (Match.fieldValue task f) <;> cases operand.text <;> rfl
  membership kind := by
    refine exactlyOneYes_pair (by rw [kind]; rfl) (by rw [kind]; rfl) ?_
    rw [kind, Match.compareHeld, Match.compareHeld]
    cases Match.identities (Match.fieldValue task f) <;> rfl
  size kind y target ops choice := by
    obtain ⟨order, compared⟩ := Match.exists_order_of_number target (Match.fieldValue task f)
    rw [outcomes_of_allows (allows_of_choice (.inl kind) ops choice), kind]
    simp only [compared now]
    exact .map (Operator.count_meets choice) order
  noNumber kind target op sized := by
    have suits : ∀ op ∈ Operator.ofOrder, Kind.number.allows op = true := by decide
    rw [Condition.holds_of_allows (by rw [kind]; exact suits op sized)]
    simp only [kind, Match.compareHeld, target]
    rfl
  day kind target resolved := by
    refine exactlyOneYes_pair (by rw [kind]; rfl) (by rw [kind]; rfl) ?_
    rw [kind]
    exact Match.compareHeld_date_notEqual resolved _
  instant kind target m resolved held ops strict := by
    have choice := strict_mem_choices strict
    have compared : ∀ op ∈ ops, Match.compareHeld now .date op (Match.fieldValue task f) operand =
        (Except.ok (compare (Timestamp.utc m).instantMicros target.instantMicros)).map (Operator.meets op) := by
      intro op member
      rw [Match.compareHeld_date_of_instant held]
      exact Match.compareDates_order resolved m ⟨ops, strict, member⟩
    rw [outcomes_of_allows (allows_of_choice (.inr kind) ops choice), kind, List.map_congr_left compared]
    exact .map (Operator.count_meets choice) _
  absent kind target resolved missing op sized := by
    have suits : ∀ op ∈ Operator.ofOrder, Kind.date.allows op = true := by decide
    rw [Condition.holds_of_allows (by rw [kind]; exact suits op sized)]
    simp only [kind]
    exact Match.compareHeld_date_of_absent missing

/-- A text that names no number against infinity, a relation that is a text against an id in a text, and a date against the
beginning of its day in universal time. -/
theorem exclusive_operators_junk :
    let now : Timestamp := .utc ⟨0, by decide⟩
    let task := Value.dict [("priority", .str "nan"), ("labels", .str "75"), ("due_date", .str "2024-05-01T23:30:00-01:00")]
    let day : Timestamp := .utc (.midnight ⟨739007, by decide⟩)
    Match.measureOf (.one (.str "1e999")) = .ok (some (.infinite false)) ∧
      ExactlyOneYes (priority.outcomes now task (.one (.str "1e999")) [.less, .equal, .greater]) ∧
      ExactlyOneYes (labels.outcomes now task (.many [.str "5"]) [.isIn, .notIn]) ∧
      Match.targetOf now (.one (.str "2024-05-02")) = .ok (some day) ∧
      ExactlyOneYes (dueDate.outcomes now task (.one (.str "2024-05-02")) [.less, .greaterEqual]) := by
  intro now task day
  have infinite : Match.measureOf (.one (.str "1e999")) = .ok (some (.infinite false)) := by decide +kernel
  have resolved : Match.targetOf now (.one (.str "2024-05-02")) = .ok (some day) := by decide +kernel
  have held : taskInstant (Match.fieldValue task .dueDate) =
      .ok (some ⟨739007 * dayMicros + 1800 * secondMicros, by decide⟩) := by decide +kernel
  exact ⟨infinite, (exclusive_operators .priority now task _).size rfl _ infinite _ (by decide),
    (exclusive_operators .labels now task _).membership rfl, resolved,
    (exclusive_operators .dueDate now task _).instant rfl _ _ resolved held _ (by decide)⟩

end Field

end TaskQuery
