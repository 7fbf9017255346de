import TaskQuery.Proofs.MatchFaults

namespace TaskQuery

namespace Match

variable {now : Timestamp} {operand : Operand}

/-- A text stands for no date as an operand exactly if it does as a literal. -/
theorem targetOf_text_eq_none_iff {s : String} :
    targetOf now (.one (.str s)) = .ok none ↔ DateLiteral.resolve now s = .ok none := by
  rw [targetOf_text, Outcome.map_eq_ok]
  constructor
  · rintro ⟨instant, resolved, none⟩
    rw [resolved, Option.map_eq_none_iff.1 none]
  · exact fun unresolved => ⟨none, unresolved, rfl⟩

/-- A date field that is asked for what is no date. -/
theorem compareHeld_date_of_unresolved (unresolved : targetOf now operand = .ok none) (op : Operator) (actual : Value) :
    compareHeld now .date op actual operand =
      actual.heldTimestamp?.elim (.ok (op = .notEqual)) fun t => (DateLiteral.instantOf t).map fun _ => false := by
  cases held : taskInstant actual with
  | error fault =>
    obtain ⟨t, timestamp, beyond, rfl⟩ := taskInstant_eq_error_iff.1 held
    have failed := DateLiteral.instantOf_eq_error_iff.2 ⟨beyond, rfl⟩
    rw [compareHeld_date_of_error held, timestamp, Option.elim_some, failed]
    rfl
  | ok instant =>
    cases instant with
    | none =>
      rw [compareHeld_date_of_absent held, taskInstant_eq_none_iff.1 held]
      rfl
    | some m =>
      rw [compareHeld_date_of_instant held, compareDates_of_unresolved unresolved]
      rw [taskInstant_eq] at held
      cases timestamp : actual.heldTimestamp? with
      | none =>
        rw [timestamp] at held
        cases held
      | some t =>
        rw [timestamp] at held
        obtain ⟨m', reached, _⟩ := Outcome.map_eq_ok.1 held
        rw [Option.elim_some, reached]
        rfl

section Unresolved

variable {op : Operator} {actual : Value}

theorem compareHeld_date_met_iff (unresolved : targetOf now operand = .ok none) :
    compareHeld now .date op actual operand = .ok true ↔ actual.heldTimestamp? = none ∧ op = .notEqual := by
  rw [compareHeld_date_of_unresolved unresolved]
  cases actual.heldTimestamp? with
  | none => simp
  | some t =>
    refine iff_of_false (fun met => ?_) fun absent => Option.some_ne_none t absent.1
    obtain ⟨_, _, same⟩ := Outcome.map_eq_ok.1 met
    exact Bool.false_ne_true same

theorem compareHeld_date_fails_iff (unresolved : targetOf now operand = .ok none) {fault : Fault} :
    compareHeld now .date op actual operand = .error fault ↔
      ∃ t, actual.heldTimestamp? = some t ∧ t.BeyondCalendar ∧ fault = .instantOutOfRange := by
  rw [compareHeld_date_of_unresolved unresolved]
  cases actual.heldTimestamp? with
  | none => simp
  | some t => simp [Outcome.map_eq_error, DateLiteral.instantOf_eq_error_iff]

end Unresolved

end Match

theorem Outcome.eq_no_iff {x : Except Fault Bool} : x = .ok false ↔ x ≠ .ok true ∧ ∀ fault, x ≠ .error fault := by
  cases x with
  | error fault => simp
  | ok met => cases met <;> simp

namespace Unchecked.Condition

variable {now : Timestamp} {task : Value} {c : Unchecked.Condition} {f : Field}

/-- A condition on a field has another outcome than *no* exactly if the condition of the catalogue has it: the operator is
spelled like there, and suits the field. -/
theorem holds_iff_of_named {outcome : Except Fault Bool} (named : Field.ofName? c.field = some f) (other : outcome ≠ .ok false) :
    c.holds now task = outcome ↔ ∃ op, Operator.ofSymbol? c.operator = some op ∧ f.kind.allows op = true ∧
      Match.compareHeld now f.kind op (Match.fieldValue task f) c.operand = outcome := by
  rw [holds, known?, named]
  cases spelled : Operator.ofSymbol? c.operator with
  | none =>
    refine iff_of_false (Ne.symm other) ?_
    rintro ⟨op, same, _⟩
    cases same
  | some op =>
    simp only [Option.some.injEq, exists_eq_left', TaskQuery.Condition.holds]
    by_cases suits : f.kind.allows op = true
    · rw [if_pos suits, and_iff_right suits]
    · rw [if_neg suits]
      exact iff_of_false (Ne.symm other) fun met => suits met.1

theorem unresolved_met_iff (named : Field.ofName? c.field = some f) (kind : f.kind = .date)
    (unresolved : Match.targetOf now c.operand = .ok none) :
    c.holds now task = .ok true ↔
      (Match.fieldValue task f).heldTimestamp? = none ∧ c.operator = Operator.notEqual.symbol := by
  rw [holds_iff_of_named named (by simp), kind]
  simp only [Match.compareHeld_date_met_iff unresolved, Operator.ofSymbol?_eq_some_iff]
  constructor
  · rintro ⟨_, spelled, _, absent, rfl⟩
    exact ⟨absent, spelled⟩
  · rintro ⟨absent, spelled⟩
    exact ⟨.notEqual, spelled, rfl, absent, rfl⟩

theorem unresolved_fails_iff (named : Field.ofName? c.field = some f) (kind : f.kind = .date)
    (unresolved : Match.targetOf now c.operand = .ok none) {fault : Fault} :
    c.holds now task = .error fault ↔ ∃ op t, Operator.ofSymbol? c.operator = some op ∧ Kind.date.allows op = true ∧
      (Match.fieldValue task f).heldTimestamp? = some t ∧ t.BeyondCalendar ∧ fault = .instantOutOfRange := by
  rw [holds_iff_of_named named (by simp), kind]
  simp only [Match.compareHeld_date_fails_iff unresolved]
  refine exists_congr fun op => ?_
  simp only [exists_and_left]

/-- Asked for what is no date, by whatever operator, a date field does not meet the condition, but for two cases: the date is
absent and the operator asks for a difference, when it does meet the condition, or the date lies beyond the calendar and the
operator is one of dates, when there is no answer. -/
theorem unresolved_not_met_iff (named : Field.ofName? c.field = some f) (kind : f.kind = .date)
    (unresolved : Match.targetOf now c.operand = .ok none) :
    (c.holds now task = .ok false ↔
      ¬((Match.fieldValue task f).heldTimestamp? = none ∧ c.operator = Operator.notEqual.symbol) ∧
      ¬∃ op t, Operator.ofSymbol? c.operator = some op ∧ Kind.date.allows op = true ∧
        (Match.fieldValue task f).heldTimestamp? = some t ∧ t.BeyondCalendar) ∧
    (c.holds now task = .ok true ↔
      (Match.fieldValue task f).heldTimestamp? = none ∧ c.operator = Operator.notEqual.symbol) := by
  refine ⟨?_, unresolved_met_iff named kind unresolved⟩
  rw [Outcome.eq_no_iff, ne_eq, unresolved_met_iff named kind unresolved]
  refine and_congr_right fun _ => ?_
  constructor
  · rintro answers ⟨op, t, spelled, suits, held, beyond⟩
    exact answers _ ((unresolved_fails_iff named kind unresolved).2 ⟨op, t, spelled, suits, held, beyond, rfl⟩)
  · intro within fault failed
    obtain ⟨op, t, spelled, suits, held, beyond, _⟩ := (unresolved_fails_iff named kind unresolved).1 failed
    exact within ⟨op, t, spelled, suits, held, beyond⟩

/-- A task with a date, asked whether it differs from a date that lies beyond the calendar. -/
theorem unresolved_not_met_far :
    let now : Timestamp := .utc ⟨0, by decide⟩
    let task := Value.dict [("due_date", .str "2024-05-20T09:00:00Z")]
    let c : Unchecked.Condition := ⟨"due_date", "!=", .one (.str "now-8000y")⟩
    Field.ofName? c.field = some .dueDate ∧ Match.targetOf now c.operand = .ok none ∧ c.holds now task = .ok false := by
  intro now task c
  have unresolved : Match.targetOf now c.operand = .ok none :=
    Match.targetOf_text_eq_none_iff.2 (by decide +kernel)
  have reached : (Match.fieldValue task .dueDate).heldTimestamp?.any (fun t => !t.instant?.isNone) = true := by decide +kernel
  obtain ⟨t, held, within⟩ := (Option.any_eq_true _ _).1 reached
  refine ⟨rfl, unresolved, (unresolved_not_met_iff rfl rfl unresolved).1.2 ⟨?_, ?_⟩⟩
  · rintro ⟨absent, _⟩
    cases held.symm.trans absent
  · rintro ⟨_, other, _, _, same, beyond⟩
    cases held.symm.trans same
    rw [Timestamp.instant?_eq_none_iff.2 beyond] at within
    cases within

/-- A task without a date differs from what is no date. -/
theorem unresolved_met_by_absent :
    let now : Timestamp := .utc ⟨0, by decide⟩
    let c : Unchecked.Condition := ⟨"dueDate", "!=", .one (.str "tomorrow")⟩
    DateLiteral.resolve now "tomorrow" = .ok none ∧ c.holds now (.dict []) = .ok true := by
  decide +kernel

end Unchecked.Condition

end TaskQuery
