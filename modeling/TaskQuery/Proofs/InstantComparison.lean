import TaskQuery.Proofs.OppositeOperators
import TaskQuery.Proofs.WrittenTimestamp

namespace TaskQuery

/-- Whether two instants stand to one another as an operator asks. Equality is of days. -/
def Operator.meetsInstants (op : Operator) (m n : Moment) : Bool :=
  match op with
  | .equal => m.day = n.day
  | .notEqual => m.day ≠ n.day
  | .greater => n.micros < m.micros
  | .greaterEqual => n.micros ≤ m.micros
  | .less => m.micros < n.micros
  | .lessEqual => m.micros ≤ n.micros
  | .like | .isIn | .notIn => false

/-- Whether a value of a task shows an instant: it is a timestamp, or a timestamp in writing. -/
inductive Value.Shows : Value → Moment → Prop
  | timestamp {t : Timestamp} {m : Moment} : t.instant? = some m → Shows (.datetime t) m
  | text {w : WrittenTimestamp} {m : Moment} : w.timestamp.instant? = some m → Shows (.str w.text) m

/-- Whether a condition asks for an instant: by a timestamp, or by one in writing that is no longer than a literal may be. -/
inductive Operand.AsksFor : Operand → Moment → Prop
  | timestamp {t : Timestamp} {n : Moment} : t.instant? = some n → AsksFor (.one (.datetime t)) n
  | text {w : WrittenTimestamp} {n : Moment} : w.text.length ≤ maxDateLiteralLength → w.timestamp.instant? = some n →
      AsksFor (.one (.str w.text)) n

/-- An instant from year 3 on is shown by a clock that has left year 1. -/
theorem Timestamp.reading_of_late {t : Timestamp} {m : Moment} (instant : t.instant? = some m) (late : 3 ≤ m.day.year) :
    365 ≤ t.reading.day.number := by
  have instants := instant?_eq_some_iff.1 instant
  have behind : (m.micros : Int) - dayMicros < t.reading.micros := by
    obtain ⟨reading, offset⟩ := t
    show (m.micros : Int) - dayMicros < reading.micros
    cases offset with
    | none =>
      rw [show (reading.micros : Int) = m.micros from instants]
      exact Int.sub_lt_self _ (by decide)
    | some offset =>
      have bounded := offset.bounded
      rw [instantMicros] at instants
      dsimp only at instants
      omega
  have twoYears : 730 ≤ m.day.number := by
    obtain ⟨-, started, -⟩ := yearOfDay_bounds m.day.number
    exact Nat.le_trans (daysBeforeYear_mono (by decide) late) started
  have day := m.micros_eq
  have reading := t.reading.micros_eq
  have clock := t.reading.clock_lt
  unfold dayMicros secondMicros at *
  omega

theorem Value.Shows.taskInstant {v : Value} {m : Moment} (shown : v.Shows m) (late : 3 ≤ m.day.year) :
    taskInstant v = .ok (some m) := by
  cases shown with
  | @timestamp t _ instant =>
    have later : t.reading.day.year ≠ 1 := by
      rw [ne_eq, Day.year_eq_one_iff, Nat.not_lt]
      exact Timestamp.reading_of_late instant late
    rw [taskInstant_timestamp instant, if_neg later]
  | @text w _ instant =>
    have later : 365 ≤ w.reading.day.number := Timestamp.reading_of_late instant late
    rw [w.day_reading] at later
    rw [w.taskInstant_text, if_neg (by omega), DateLiteral.instantOf_of_instant? instant]
    rfl

theorem Operand.AsksFor.target {operand : Operand} {n : Moment} (asked : operand.AsksFor n) (now : Timestamp) :
    ∃ target, Match.targetOf now operand = .ok (some target) ∧ target.instant? = some n := by
  cases asked with
  | @timestamp t _ instant =>
    refine ⟨_, rfl, ?_⟩
    rw [Timestamp.instant?_eq_some_iff] at instant ⊢
    obtain ⟨reading, offset⟩ := t
    cases offset with
    | none => exact (Int.sub_zero _).trans instant
    | some offset => exact instant
  | @text w _ short instant =>
    refine ⟨.utc n, ?_, Timestamp.instant?_utc n⟩
    rw [Match.targetOf_text, w.resolve_text short, DateLiteral.instantOf_of_instant? instant]
    rfl

namespace Match

variable {now : Timestamp} {operand : Operand} {target : Timestamp} {n : Moment}

/-- An operator of order asks for the order of the instants. -/
theorem meets_compare {op : Operator} (strict : ∃ ops ∈ Operator.strictChoices, op ∈ ops) (m n : Moment) :
    op.meets (compare (m.micros : Int) n.micros) = op.meetsInstants m n := by
  have order : compare (m.micros : Int) n.micros =
      if m.micros < n.micros then .lt else if m.micros = n.micros then .eq else .gt := by
    simp only [compare, compareOfLessAndEq, Int.ofNat_lt, Int.natCast_inj]
  rw [order]
  simp only [Operator.strictChoices, List.mem_cons, List.not_mem_nil, or_false, exists_eq_or_imp, exists_eq_left] at strict
  rcases strict with (rfl | rfl) | (rfl | rfl)
  all_goals
    simp only [Operator.meets, Operator.meetsInstants]
    split
    · simp [Operator.acceptsOrder]
      omega
    · split
      · simp [Operator.acceptsOrder]
        omega
      · simp [Operator.acceptsOrder]
        omega

/-- A date of a task is compared with the instant of the date that is asked for. -/
theorem compareDates_of_instants (resolved : targetOf now operand = .ok (some target)) (instant : target.instant? = some n)
    (m : Moment) {op : Operator} (suits : Kind.date.allows op = true) :
    compareDates now (some op) (.utc m) operand = .ok (op.meetsInstants m n) := by
  have byDay : sameDay (.utc m) target = .ok (m.day = n.day) := by
    rw [sameDay_utc, DateLiteral.instantOf_of_instant? instant]
    rfl
  have left : (Timestamp.utc m).instantMicros = m.micros := Int.sub_zero _
  have right : target.instantMicros = n.micros := Timestamp.instant?_eq_some_iff.1 instant
  have ordered (strict : ∃ ops ∈ Operator.strictChoices, op ∈ ops) :
      compareDates now (some op) (.utc m) operand = .ok (op.meetsInstants m n) := by
    rw [compareDates_order resolved m strict, left, right, meets_compare strict]
  cases op with
  | equal => rw [compareDates_equal resolved, byDay, Operator.meetsInstants]
  | notEqual =>
    rw [compareDates_notEqual resolved, byDay]
    simp [Except.map, Operator.meetsInstants]
  | greater | greaterEqual | less | lessEqual => exact ordered (by decide)
  | like | isIn | notIn => cases suits

end Match

/-- Whatever shows the date of a task and whatever asks for a date, a condition on a date field has the answer of the two
instants: by days of universal time for equality, and by the instants themselves for order. An operator that is not one of dates
is met by nothing. -/
theorem Unchecked.Condition.holds_of_instants {name : String} {f : Field} (named : Field.ofName? name = some f)
    (date : f.kind = .date) {task : Value} {operand : Operand} {m n : Moment} (shown : (Match.fieldValue task f).Shows m)
    (late : 3 ≤ m.day.year) (asked : operand.AsksFor n) (op : Operator) (now : Timestamp) :
    (⟨name, op.symbol, operand⟩ : Unchecked.Condition).holds now task = .ok (op.meetsInstants m n) := by
  have known : (⟨name, op.symbol, operand⟩ : Unchecked.Condition).known? = some ⟨f, op, operand⟩ :=
    known?_eq_some_iff.2 ⟨named, rfl, rfl⟩
  obtain ⟨target, resolved, instant⟩ := asked.target now
  rw [Unchecked.Condition.holds, known]
  by_cases suits : f.kind.allows op = true
  · show TaskQuery.Condition.holds now ⟨f, op, operand⟩ task = _
    rw [TaskQuery.Condition.holds_of_allows suits]
    rw [date] at suits
    simp only [date]
    rw [Match.compareHeld_date_of_instant (shown.taskInstant late), Match.compareDates_of_instants resolved instant m suits]
  · show TaskQuery.Condition.holds now ⟨f, op, operand⟩ task = _
    rw [TaskQuery.Condition.holds, if_neg suits]
    rw [date] at suits
    cases op with
    | like | isIn | notIn => rfl
    | _ => exact absurd rfl suits

/-- A date that is written behind universal time, and in the year before, asked for by one that is written ahead of it. -/
theorem Unchecked.Condition.holds_of_instants_newYear :
    let newYear : Moment := ⟨738885 * dayMicros + 1800 * secondMicros, by decide⟩
    let task := Value.dict [("due_date", .str "2023-12-31T23:30:00.000000-01:00")]
    let operand := Operand.one (.str "2024-01-01T05:30:00+05:00")
    (Match.fieldValue task .dueDate).Shows newYear ∧ 3 ≤ newYear.day.year ∧ operand.AsksFor newYear ∧
      ∀ (op : Operator) (now : Timestamp), (⟨"dueDate", op.symbol, operand⟩ : Unchecked.Condition).holds now task =
        .ok (op.meetsInstants newYear newYear) := by
  intro newYear task operand
  let behind : WrittenTimestamp := ⟨⟨738884, by decide⟩, 23, 30, 0, some 0, .distance true 1 0⟩
  let ahead : WrittenTimestamp := ⟨⟨738885, by decide⟩, 5, 30, 0, none, .distance false 5 0⟩
  have held : Match.fieldValue task .dueDate = .str behind.text := by decide +kernel
  have literal : operand = .one (.str ahead.text) := by decide +kernel
  have shown : (Match.fieldValue task .dueDate).Shows newYear := held ▸ .text (by decide +kernel)
  have asked : operand.AsksFor newYear := literal ▸ .text (by decide +kernel) (by decide +kernel)
  have late : 3 ≤ newYear.day.year := by decide +kernel
  exact ⟨shown, late, asked, fun op now => holds_of_instants rfl rfl shown late asked op now⟩

end TaskQuery
