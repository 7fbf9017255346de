import TaskQuery.Proofs.DraftText
import TaskQuery.Proofs.FilterVerdict
import TaskQuery.Proofs.MatchFaults

namespace TaskQuery

section Lengths

theorem length_isoFraction (micros : Nat) : (isoFraction micros).length = if micros = 0 then 0 else 7 := by
  rw [isoFraction, apply_ite List.length, List.length_nil, List.length_cons, length_paddedDigits]

theorem length_isoClock (clock : Nat) : (isoClock clock).length = 8 + (isoFraction (clock % secondMicros)).length := by
  simp only [isoClock, List.length_append, List.length_cons, length_paddedDigits]
  omega

theorem length_offset (offset : Offset) :
    offset.iso.length = 6 + if offset.micros.natAbs % (60 * secondMicros) = 0 then 0
      else 3 + (isoFraction (offset.micros.natAbs % secondMicros)).length := by
  simp only [Offset.iso, List.length_append, List.length_cons, length_paddedDigits, apply_ite List.length, List.length_nil]
  split <;> omega

theorem Timestamp.length_iso (t : Timestamp) :
    t.iso.length = 19 + (isoFraction (t.reading.clock % secondMicros)).length + (Iso.zoneText t.offset).length := by
  rw [← String.length_toList, Iso.toList_iso, List.length_append, List.length_cons, List.length_append, Iso.length_day,
    length_isoClock]
  omega

/-- The timestamps whose text is short enough for a literal: those without an offset, and those where both the clock and
the offset show whole seconds. -/
def Timestamp.FitsLiteral (t : Timestamp) : Prop :=
  ∀ offset, t.offset = some offset → t.reading.clock % secondMicros = 0 ∧ offset.micros.natAbs % secondMicros = 0

theorem Timestamp.length_iso_le_iff (t : Timestamp) : t.iso.length ≤ maxDateLiteralLength ↔ t.FitsLiteral := by
  obtain ⟨reading, offset⟩ := t
  simp only [length_iso, length_isoFraction, maxDateLiteralLength, FitsLiteral]
  cases offset with
  | none =>
    have short : (19 + if reading.clock % secondMicros = 0 then 0 else 7) ≤ 30 := by
      split <;> decide
    simpa [Iso.zoneText] using short
  | some offset =>
    simp only [Option.some.injEq, forall_eq', Iso.zoneText, length_offset, length_isoFraction]
    by_cases fraction : reading.clock % secondMicros = 0
    · by_cases minutes : offset.micros.natAbs % (60 * secondMicros) = 0
      · have seconds : offset.micros.natAbs % secondMicros = 0 := by
          unfold secondMicros at *
          omega
        simp [fraction, minutes, seconds]
      · by_cases seconds : offset.micros.natAbs % secondMicros = 0
        · simp [fraction, minutes, seconds]
        · simp [fraction, minutes, seconds]
    · simp only [fraction, if_false, false_and, iff_false, Nat.not_le]
      omega

/-- A whole number of seconds is read as it is. -/
theorem Offset.asRead_of_seconds {offset : Offset} (seconds : offset.micros.natAbs % secondMicros = 0) :
    offset.asRead = offset := by
  obtain ⟨micros, bounded⟩ := offset
  rw [asRead]
  split
  · rename_i small
    have zero : micros = 0 := by
      rw [Nat.mod_eq_of_lt small] at seconds
      exact Int.natAbs_eq_zero.1 seconds
    subst zero
    rfl
  · rfl

theorem Timestamp.FitsLiteral.asRead {t : Timestamp} (fits : t.FitsLiteral) : t.offset.map Offset.asRead = t.offset := by
  obtain ⟨reading, offset⟩ := t
  cases offset with
  | none => rfl
  | some offset =>
    obtain ⟨-, seconds⟩ := fits offset rfl
    exact congrArg some (Offset.asRead_of_seconds seconds)

end Lengths

namespace DateLiteral

variable {s : String} {now : Timestamp}

theorem resolve_of_long (long : maxDateLiteralLength < s.length) : resolve now s = .ok none := by
  rw [resolve, read?, if_pos long]

theorem beginsLikeDate_iso (d : Day) (rest : List Char) : beginsLikeDate (d.iso ++ rest) = true := by
  have front : (d.iso ++ rest).take 10 = d.iso := List.take_left' (Iso.length_day d)
  have long : 10 ≤ (d.iso ++ rest).length := by
    rw [List.length_append, Iso.length_day]
    exact Nat.le_add_right 10 _
  have digit (n : Nat) : (Text.asciiDigit? (Nat.digitChar (n % 10))).isSome = true := by
    rw [asciiDigit?_digitChar _ (Nat.mod_lt n (by decide)), Option.isSome_some]
  rw [beginsLikeDate, front, decide_eq_true long, Bool.true_and]
  simp [Day.iso, paddedDigits, digit]

/-- A text without blanks that begins like a date and is no longer than a literal may be is read as a date. -/
theorem resolve_of_date (solid : ∀ c ∈ s.toList, Text.isBlank c = false) {d : Day} {rest : List Char}
    (shape : s.toList = d.iso ++ rest) (short : s.length ≤ maxDateLiteralLength) : resolve now s = isoInstant s := by
  have date : beginsLikeDate s.toList = true := by
    rw [shape, beginsLikeDate_iso]
  have literal : read? s = some (.iso s) := by
    rw [read?, if_neg (Nat.not_lt.2 short), Text.trim_eq_self solid]
    exact if_pos date
  rw [resolve, literal]
  rfl

theorem isoTimestamp?_of_isoCharacters (characters : ∀ c ∈ s.toList, c ∈ Draft.isoCharacters) :
    isoTimestamp? s = Iso.readTimestamp? s := by
  have solid : ∀ c ∈ s.toList, Text.isBlank c = false := fun c member => Draft.isBlank_isoCharacters c (characters c member)
  have noLetter {c : Char} (letter : c ∉ Draft.isoCharacters) : s.toList.getLast? ≠ some c :=
    fun last => letter (characters c (List.mem_of_getLast? last))
  have upper : s.toList.getLast? ≠ some 'Z' := noLetter (by decide)
  have lower : s.toList.getLast? ≠ some 'z' := noLetter (by decide)
  rw [isoTimestamp?]
  simp only [Text.trim_eq_self solid, upper, lower, or_self, if_false, String.ofList_toList]

/-- A text in the notation of dates that begins like a date and is no longer than a literal may be stands for the instant
it is read as. -/
theorem resolve_of_isoCharacters (characters : ∀ c ∈ s.toList, c ∈ Draft.isoCharacters) {d : Day} {rest : List Char}
    (shape : s.toList = d.iso ++ rest) (short : s.length ≤ maxDateLiteralLength) {t : Timestamp}
    (read : Iso.readTimestamp? s = some t) {m : Moment} (instant : t.instant? = some m) : resolve now s = .ok (some m) := by
  have solid : ∀ c ∈ s.toList, Text.isBlank c = false := fun c member => Draft.isBlank_isoCharacters c (characters c member)
  rw [resolve_of_date solid shape short, isoInstant_eq, isoTimestamp?_of_isoCharacters characters, read, Option.elim_some,
    instantOf_of_instant? instant]
  rfl

end DateLiteral

/-- The date literal of a condition stands for an instant at all times, or for none, and the condition is reported for its
date exactly if there is none, under all limits whose bound on texts can be written if the literal exceeds it. -/
structure Condition.StandsFor (c : Condition) (instant : Option Moment) : Prop where
  resolved : ∃ s, c.operand = .one (.str s) ∧ ∀ now, DateLiteral.resolve now s = .ok instant
  reported : ∀ limits now, limits.Expressible c.operand.toValue →
    ∃ problems, Check.conditionProblems limits now c.unchecked.toValue = .ok problems ∧
      (.notDate c.field ∈ problems ↔ instant = none)

theorem Condition.standsFor {f : Field} (kind : f.kind = .date) (op : Operator) {s : String} {instant : Option Moment}
    (resolved : ∀ now, DateLiteral.resolve now s = .ok instant) : StandsFor ⟨f, op, .one (.str s)⟩ instant := by
  have date (now : Timestamp) : Check.isDate now (.str s) = .ok instant.isSome := by
    rw [Check.isDate, DateLiteral.isResolvable, resolved now]
    rfl
  have ofKind : Condition.OfKind ⟨f, op, .one (.str s)⟩ := by
    rw [Condition.OfKind, kind]
    exact .date s
  refine ⟨⟨s, rfl, resolved⟩, fun limits now expressible => ?_⟩
  have answered : ¬OutOfRange limits now ⟨f, op, .one (.str s)⟩ := by
    rintro (off | ⟨text, inside, beyond, long⟩)
    · simp only [kind, Operand.toValue] at off
      obtain ⟨fault, failed⟩ := Check.offScale_date_iff.1 off
      cases (date now).symm.trans failed
    · exact expressible.texts text inside beyond long
  obtain ⟨problems, found⟩ := Check.exists_conditionProblems_unchecked_iff.2 answered
  refine ⟨problems, found, ?_⟩
  rw [Check.mem_conditionProblems_iff ofKind found, ← Option.not_isSome_iff_eq_none, Bool.not_eq_true]
  constructor
  · rintro (⟨-, wrong⟩ | misfit | ⟨text, -, ⟨-, wrong⟩ | ⟨-, wrong⟩⟩)
    · cases wrong
    · simp only [Misfit, kind, Operand.toValue, date now, Except.ok.injEq, and_true] at misfit
      exact misfit
    · cases wrong
    · cases wrong
  · intro missing
    refine .inr (.inl ?_)
    simp only [Misfit, kind, Operand.toValue, date now, Except.ok.injEq, and_true]
    exact missing

theorem Day.standsFor {f : Field} (kind : f.kind = .date) (op : Operator) (d : Day) :
    Condition.StandsFor ⟨f, op, .one (.str (String.ofList d.iso))⟩ (some (.midnight d)) := by
  refine Condition.standsFor kind op fun now => ?_
  have characters : ∀ c ∈ (String.ofList d.iso).toList, c ∈ Draft.isoCharacters := by
    rw [String.toList_ofList]
    exact Draft.day_characters d
  have shape : (String.ofList d.iso).toList = d.iso ++ [] := by
    rw [String.toList_ofList, List.append_nil]
  have short : (String.ofList d.iso).length ≤ maxDateLiteralLength := by
    rw [String.length_ofList, Iso.length_day]
    decide
  exact DateLiteral.resolve_of_isoCharacters characters shape short (Iso.readTimestamp?_day d) rfl

theorem Timestamp.standsFor {f : Field} (kind : f.kind = .date) (op : Operator) {t : Timestamp} (fits : t.FitsLiteral)
    {m : Moment} (instant : t.instant? = some m) : Condition.StandsFor ⟨f, op, .one (.str t.iso)⟩ (some m) := by
  refine Condition.standsFor kind op fun now => ?_
  have read : Iso.readTimestamp? t.iso = some t := by
    rw [Iso.readTimestamp?_iso, fits.asRead]
  exact DateLiteral.resolve_of_isoCharacters (Draft.timestamp_characters t) (Iso.toList_iso t) (t.length_iso_le_iff.2 fits)
    read instant

theorem Timestamp.standsFor_none {f : Field} (kind : f.kind = .date) (op : Operator) {t : Timestamp}
    (unfit : ¬t.FitsLiteral) : Condition.StandsFor ⟨f, op, .one (.str t.iso)⟩ none := by
  have long : maxDateLiteralLength < t.iso.length := Nat.not_le.1 (mt t.length_iso_le_iff.1 unfit)
  exact Condition.standsFor kind op fun now => DateLiteral.resolve_of_long long

namespace Draft

theorem compare_eq_ok {name : String} {operator value : Value} {f : Field} {op : Operator} {operand : Operand}
    (named : Field.ofName? name = some f) (spelled : operator? operator = some op)
    (accepted : Draft.operand f.kind value = .ok operand) (d : Draft) :
    d.compare name operator value = .ok (d.add ⟨f, op, operand⟩) := by
  rw [compare, condition, Reading.isForbidden_of_ofName? named, if_neg Bool.false_ne_true, named]
  simp only [spelled, accepted, Except.map]

/-- A day on a date field stands for its midnight of universal time. A timestamp stands for its instant if its text is
short enough for a literal; it is accepted all the same if it is not, stands for nothing and is reported as no date. -/
theorem compare_date_standsFor {name : String} {operator : Value} {f : Field} {op : Operator}
    (named : Field.ofName? name = some f) (date : f.kind = .date) (spelled : operator? operator = some op) (d : Draft) :
    (∀ day, ∃ c, d.compare name operator (.date day) = .ok (d.add c) ∧ c.field = f ∧ c.operator = op ∧
      c.StandsFor (some (.midnight day))) ∧
    ∀ t m, t.instant? = some m → ∃ c, d.compare name operator (.datetime t) = .ok (d.add c) ∧ c.field = f ∧
      c.operator = op ∧ (t.FitsLiteral → c.StandsFor (some m)) ∧ (¬t.FitsLiteral → c.StandsFor none) := by
  constructor
  · intro day
    exact ⟨_, compare_eq_ok named spelled rfl d, rfl, rfl, day.standsFor date op⟩
  · intro t m instant
    exact ⟨_, compare_eq_ok named spelled rfl d, rfl, rfl, fun fits => t.standsFor date op fits instant,
      t.standsFor_none date op⟩

/-- Half past nine on a clock five and a half hours ahead of universal time. -/
theorem compare_date_standsFor_ahead :
    let t : Timestamp := ⟨⟨63850152600000000, by decide⟩, some ⟨19800000000, by decide⟩⟩
    let c : Condition := ⟨.dueDate, .lessEqual, .one (.str "2024-05-01T09:30:00+05:30")⟩
    empty.compare "due_date" (.str "<=") (.datetime t) = .ok (empty.add c) ∧
      c.StandsFor (some ⟨63850132800000000, by decide⟩) := by
  intro t c
  have compared : empty.compare "due_date" (.str "<=") (.datetime t) = .ok (empty.add c) := by decide +kernel
  obtain ⟨-, timestamps⟩ := compare_date_standsFor (by decide : Field.ofName? "due_date" = some .dueDate) rfl
    (by decide +kernel : operator? (.str "<=") = some .lessEqual) empty
  obtain ⟨stored, same, -, -, fits, -⟩ := timestamps t ⟨63850132800000000, by decide⟩ (by decide +kernel)
  have eq : stored = c := by
    rw [compared, Except.ok.injEq] at same
    exact (List.cons.inj (congrArg conditions same)).1.symm
  rw [eq] at fits
  refine ⟨compared, fits ?_⟩
  rintro offset known
  cases known
  exact ⟨by decide, by decide⟩

/-- A fraction of a second on a clock that shows universal time. The timestamp itself would pass as a date. -/
theorem compare_date_lost :
    let t : Timestamp := ⟨⟨63850152600123456, by decide⟩, some .zero⟩
    let c : Condition := ⟨.dueDate, .equal, .one (.str "2024-05-01T09:30:00.123456+00:00")⟩
    t.instant? = some t.reading ∧ (∀ now, Check.isDate now (.datetime t) = .ok true) ∧
      empty.compare "dueDate" (.str "=") (.datetime t) = .ok (empty.add c) ∧ c.StandsFor none := by
  intro t c
  have long : maxDateLiteralLength < "2024-05-01T09:30:00.123456+00:00".length := by decide
  exact ⟨by decide +kernel, fun now => rfl, by decide +kernel,
    Condition.standsFor rfl .equal fun now => DateLiteral.resolve_of_long long⟩

end Draft

end TaskQuery
