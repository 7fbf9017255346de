import TaskQuery.Proofs.VerdictFaults

namespace TaskQuery

namespace Text

variable {drop : Char → Bool} {cs : List Char}

theorem head?_dropWhile {c : Char} (first : (cs.dropWhile drop).head? = some c) : drop c = false := by
  have kept := List.head?_dropWhile_not drop cs
  rwa [first] at kept

/-- What has been stripped has nothing left to drop at either end. -/
theorem stripWhere_idem (drop : Char → Bool) (cs : List Char) :
    stripWhere drop (stripWhere drop cs) = stripWhere drop cs := by
  let front := cs.dropWhile drop
  let back := front.reverse.dropWhile drop
  have parts : front = back.reverse ++ (front.reverse.takeWhile drop).reverse := by
    rw [← List.reverse_append, List.takeWhile_append_dropWhile, List.reverse_reverse]
  refine stripWhere_of_ends (fun c (first : back.reverse.head? = some c) => ?_) fun c last => ?_
  · have begins : front.head? = some c := by rw [parts, List.head?_append, first, Option.some_or]
    exact head?_dropWhile begins
  · have ends : back.head? = some c := by rwa [← back.reverse_reverse]
    exact head?_dropWhile ends

theorem trim_trim (s : String) : trim (trim s) = trim s := by
  rw [trim, trim, String.toList_ofList, stripWhere_idem]

end Text

namespace Timestamp

/-- Whether a timestamp leaves the calendar by its offset: the clock shows the first day and is ahead by more than the time
since midnight, or it shows the last day and is behind by at least the time until midnight. -/
def LeavesCalendar (t : Timestamp) : Prop :=
  ∃ offset, t.offset = some offset ∧
    (t.reading.day.number = 0 ∧ (t.reading.clock : Int) < offset.micros ∨
      t.reading.day.number + 1 = dayCount ∧ (dayMicros : Int) ≤ t.reading.clock - offset.micros)

/-- An instant is outside the calendar only by an offset, and only from the first day or the last. -/
theorem beyondCalendar_iff {t : Timestamp} : t.BeyondCalendar ↔ t.LeavesCalendar := by
  obtain ⟨reading, offset⟩ := t
  have inRange := reading.inRange
  cases offset with
  | none =>
    refine iff_of_false ?_ ?_
    · simp only [BeyondCalendar, instantMicros]
      omega
    · rintro ⟨_, known, _⟩
      exact Option.some_ne_none _ known.symm
  | some offset =>
    have micros := reading.micros_eq
    have inDay := reading.clock_lt
    have day := reading.day.inRange
    have bounded := offset.bounded
    simp only [LeavesCalendar, Option.some.injEq, exists_eq_left', BeyondCalendar, instantMicros]
    unfold momentCount dayCount dayMicros secondMicros at *
    omega

end Timestamp

/-- Whether a result is there but for one exception, in which an instant is out of range. -/
structure AnswersUnless {α : Type} (exception : Prop) (result : Except Fault α) : Prop where
  answers : (∃ a, result = .ok a) ↔ ¬exception
  fault : result = .error .instantOutOfRange ↔ exception

theorem answersUnless_of_error {α : Type} {exception : Prop} {result : Except Fault α}
    (failing : ∀ fault, result = .error fault ↔ exception ∧ fault = .instantOutOfRange) : AnswersUnless exception result := by
  refine ⟨Outcome.exists_ok_iff.trans ⟨fun never holds => ?_, fun never fault failed => ?_⟩, ?_⟩
  · exact never _ ((failing _).2 ⟨holds, rfl⟩)
  · exact never ((failing fault).1 failed).1
  · rw [failing, and_iff_left rfl]

namespace DateLiteral

variable {now : Timestamp} {m : Moment} {s : String}

/-- Whether a text is read as an ISO date, well formed or not. -/
def LooksIso (s : String) : Prop :=
  s.length ≤ maxDateLiteralLength ∧ beginsLikeDate (Text.trim s).toList = true

/-- Whether a text is a well-formed ISO date that leaves the calendar by its offset. -/
def LeavesCalendar (s : String) : Prop :=
  ∃ t, isoTimestamp? s = some t ∧ t.LeavesCalendar

theorem isoTimestamp?_trim (s : String) : isoTimestamp? (Text.trim s) = isoTimestamp? s := by
  rw [isoTimestamp?, Text.trim_trim, isoTimestamp?]

theorem read?_eq_iso_iff {text : String} : read? s = some (iso text) ↔ LooksIso s ∧ Text.trim s = text := by
  unfold read? LooksIso
  dsimp only
  split
  · rename_i long
    exact iff_of_false (Option.some_ne_none _).symm fun both => Nat.not_le.2 long both.1.1
  · rename_i short
    rw [and_iff_right (Nat.not_lt.1 short)]
    split
    · rename_i shape
      rw [and_iff_right shape, Option.some.injEq, iso.injEq]
    · rename_i other
      refine iff_of_false (fun found => ?_) fun both => other both.1
      split at found <;> cases found

theorem literalTimestamp?_eq_some_iff {t : Timestamp} :
    literalTimestamp? s = some t ↔ LooksIso s ∧ isoTimestamp? s = some t := by
  unfold literalTimestamp?
  split
  · rename_i text read
    obtain ⟨looks, rfl⟩ := read?_eq_iso_iff.1 read
    rw [isoTimestamp?_trim, and_iff_right looks]
  · rename_i other
    exact iff_of_false (Option.some_ne_none t).symm fun both => other _ (read?_eq_iso_iff.2 ⟨both.1, rfl⟩)

theorem exists_beyond_iff :
    (∃ t, literalTimestamp? s = some t ∧ t.BeyondCalendar) ↔ LooksIso s ∧ LeavesCalendar s := by
  simp only [literalTimestamp?_eq_some_iff, Timestamp.beyondCalendar_iff, LeavesCalendar, and_assoc, exists_and_left]

/-- As the date of a task, a text needs to be no literal: it is an ISO date unless it begins like the first day. -/
theorem heldTimestamp?_str_eq_some_iff {t : Timestamp} :
    (Value.str s).heldTimestamp? = some t ↔ ¬absentDateText.isPrefixOf s.toList ∧ isoTimestamp? s = some t := by
  have empty (none : s.isEmpty = true) : isoTimestamp? s = .none := by
    rw [String.isEmpty_iff.1 none]
    decide +kernel
  rw [Value.heldTimestamp?]
  by_cases none : s.isEmpty = true
  · rw [if_pos (by rw [none, Bool.true_or]), empty none]
    exact iff_of_false (Option.some_ne_none t).symm fun both => Option.some_ne_none t both.2.symm
  · rw [Bool.not_eq_true] at none
    rw [none, Bool.false_or]
    split
    · rename_i absent
      exact iff_of_false (Option.some_ne_none t).symm fun both => both.1 absent
    · rename_i written
      rw [and_iff_right written]

/-- A text has an answer as a literal, as the value of a date condition and as the date of a task, unless it is read as an
ISO date there, is a well-formed one and leaves the calendar by its offset. -/
theorem answers_unless (instant : now.instant? = some m) (s : String) :
    AnswersUnless (LooksIso s ∧ LeavesCalendar s) (resolve now s) ∧
    (∀ current : Moment, AnswersUnless (LooksIso s ∧ LeavesCalendar s) (isResolvable (.utc current) s)) ∧
    AnswersUnless (¬absentDateText.isPrefixOf s.toList ∧ LeavesCalendar s) (taskInstant (.str s)) := by
  have reached : ¬now.BeyondCalendar := by
    rw [← Timestamp.instant?_eq_none_iff, instant]
    exact Option.some_ne_none m
  refine ⟨answersUnless_of_error fun fault => ?_, fun current => answersUnless_of_error fun fault => ?_,
    answersUnless_of_error fun fault => ?_⟩
  · rw [resolve_eq_error_iff reached, exists_beyond_iff]
  · rw [isResolvable_eq_error_iff (Timestamp.not_beyondCalendar_utc current), exists_beyond_iff]
  · rw [taskInstant_eq_error_iff]
    simp only [heldTimestamp?_str_eq_some_iff, Timestamp.beyondCalendar_iff, LeavesCalendar, ← and_assoc, exists_and_right]
    simp only [and_assoc, exists_and_left]

/-- Five hours ahead of universal time, the first day of the calendar begins at five; seen from a clock that shows its midnight. -/
theorem answers_unless_atFive :
    let now : Timestamp := ⟨.midnight ⟨0, by decide⟩, some ⟨-3600 * secondMicros, by decide⟩⟩
    let m : Moment := ⟨3600 * secondMicros, by decide⟩
    now.instant? = some m ∧ (∃ date?, resolve now "0001-01-01T05:00:00+05:00" = .ok date?) ∧
      resolve now "0001-01-01T04:59:59+05:00" = .error .instantOutOfRange := by
  intro now m
  have instant : now.instant? = some m := by decide +kernel
  have five : isoTimestamp? "0001-01-01T05:00:00+05:00" =
      some ⟨⟨5 * 3600 * secondMicros, by decide⟩, some ⟨5 * 3600 * secondMicros, by decide⟩⟩ := by decide +kernel
  have early : isoTimestamp? "0001-01-01T04:59:59+05:00" =
      some ⟨⟨17999 * secondMicros, by decide⟩, some ⟨5 * 3600 * secondMicros, by decide⟩⟩ := by decide +kernel
  refine ⟨instant, (answers_unless instant _).1.answers.2 ?_, (answers_unless instant _).1.fault.2 ?_⟩
  · rintro ⟨_, t, read, leaves⟩
    rw [five, Option.some.injEq] at read
    rw [← Timestamp.beyondCalendar_iff, ← read] at leaves
    exact leaves.elim (by decide) (by decide)
  · exact ⟨⟨by decide, by decide⟩, _, early, _, rfl, .inl ⟨by decide, by decide⟩⟩

/-- To ask for a date on the first day by a clock ahead of universal time is a fault, and so it is on the last day by a clock
behind it, while an offset that ends outside the calendar stands for nothing. -/
theorem dates_without_answer :
    let now : Timestamp := .utc ⟨739020 * dayMicros + 45045 * secondMicros, by decide⟩
    let first := "0001-01-01T00:00:00+05:00"
    let last := "9999-12-31T23:59:59-01:00"
    resolve now first = .error .instantOutOfRange ∧ isResolvable now first = .error .instantOutOfRange ∧
      resolve now last = .error .instantOutOfRange ∧ taskInstant (.str last) = .error .instantOutOfRange ∧
      resolve now "now+9999y" = .ok none := by
  decide +kernel

end DateLiteral

end TaskQuery
