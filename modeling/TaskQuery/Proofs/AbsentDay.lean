import TaskQuery.Proofs.WrittenTimestamp

namespace TaskQuery

/-- Whether the offset of a timestamp, if it has one, is nothing or at least a second. -/
def Timestamp.OffsetIsRead (t : Timestamp) : Prop :=
  ∀ offset ∈ t.offset, offset.micros = 0 ∨ secondMicros ≤ offset.micros.natAbs

/-- What a timestamp is read as when it is written. -/
def Timestamp.asRead (t : Timestamp) : Timestamp :=
  ⟨t.reading, t.offset.map Offset.asRead⟩

/-- An offset is nothing when it is read exactly if it is less than a second. -/
theorem Offset.micros_asRead (offset : Offset) :
    offset.asRead.micros = if offset.micros.natAbs < secondMicros then 0 else offset.micros := by
  rw [asRead, apply_ite Offset.micros]
  rfl

namespace Timestamp

variable {t : Timestamp} {m : Moment}

/-- A written timestamp shows an instant of the calendar if the timestamp does, since an offset is lost only together with what
it changes. -/
theorem exists_instant?_asRead (instant : t.instant? = some m) :
    ∃ m', t.asRead.instant? = some m' ∧ (m' = m ↔ t.OffsetIsRead) := by
  obtain ⟨reading, offset⟩ := t
  cases offset with
  | none => exact ⟨m, instant, iff_of_true rfl nofun⟩
  | some offset =>
    have micros : (reading.micros : Int) - offset.micros = m.micros := instant?_eq_some_iff.1 instant
    have read : (⟨reading, some offset⟩ : Timestamp).OffsetIsRead ↔
        offset.micros = 0 ∨ secondMicros ≤ offset.micros.natAbs := by
      simp [OffsetIsRead]
    by_cases short : offset.micros.natAbs < secondMicros
    · refine ⟨reading, ?_, ?_⟩
      · rw [instant?_eq_some_iff]
        show (reading.micros : Int) - offset.asRead.micros = reading.micros
        rw [offset.micros_asRead, if_pos short, Int.sub_zero]
      · rw [read, ← Nat.not_lt, or_iff_left (not_not_intro short)]
        constructor
        · rintro rfl
          omega
        · exact fun zero => Moment.eq_of_micros (by omega)
    · refine ⟨m, ?_, iff_of_true rfl (read.2 (.inr (Nat.not_lt.1 short)))⟩
      rw [instant?_eq_some_iff]
      show (reading.micros : Int) - offset.asRead.micros = m.micros
      rw [offset.micros_asRead, if_neg short, micros]

end Timestamp

section AbsentDates

variable {t : Timestamp} {m : Moment}

/-- The first day of the calendar is a day of year 1. -/
theorem Day.year_of_first {d : Day} (first : d.number = 0) : d.year = 1 := by
  rw [Day.year_eq_one_iff, first]
  decide

theorem taskInstant_iso (instant : t.asRead.instant? = some m) :
    taskInstant (.str t.iso) = .ok (if t.reading.day.number = 0 then none else some m) := by
  have read : DateLiteral.isoTimestamp? t.iso = some t.asRead :=
    (DateLiteral.isoTimestamp?_of_isoCharacters (Draft.timestamp_characters t)).trans (Iso.readTimestamp?_iso t)
  rw [taskInstant_of_day (Iso.toList_iso t), DateLiteral.isoInstant_eq, read, Option.elim_some,
    DateLiteral.instantOf_of_instant? instant, apply_ite Except.ok]
  rfl

theorem taskInstant_day (d : Day) :
    taskInstant (.str (String.ofList d.iso)) = .ok (if d.number = 0 then none else some (.midnight d)) := by
  have characters : ∀ c ∈ (String.ofList d.iso).toList, c ∈ Draft.isoCharacters := by
    rw [String.toList_ofList]
    exact Draft.day_characters d
  have read : DateLiteral.isoTimestamp? (String.ofList d.iso) = some ⟨.midnight d, none⟩ :=
    (DateLiteral.isoTimestamp?_of_isoCharacters characters).trans (Iso.readTimestamp?_day d)
  have shape : (String.ofList d.iso).toList = d.iso ++ [] := by
    rw [String.toList_ofList, List.append_nil]
  rw [taskInstant_of_day shape, DateLiteral.isoInstant_eq, read, Option.elim_some, apply_ite Except.ok]
  rfl

/-- A timestamp and its text are the same date of a task, both absent or both the same instant, on the first day of year 1 and
from year 2 on; but the offset must not be lost in writing. -/
theorem timestamp_alike_iff (instant : t.instant? = some m) :
    taskInstant (.datetime t) = taskInstant (.str t.iso) ↔
      t.reading.day.number = 0 ∨ t.reading.day.year ≠ 1 ∧ t.OffsetIsRead := by
  obtain ⟨m', written, same⟩ := Timestamp.exists_instant?_asRead instant
  rw [taskInstant_timestamp instant, taskInstant_iso written, Except.ok.injEq]
  by_cases first : t.reading.day.number = 0
  · rw [if_pos (Day.year_of_first first), if_pos first]
    exact iff_of_true rfl (.inl first)
  · rw [if_neg first, or_iff_right first]
    by_cases early : t.reading.day.year = 1
    · rw [if_pos early]
      exact iff_of_false nofun fun later => later.1 early
    · rw [if_neg early, and_iff_right early, Option.some.injEq, ← same]
      exact eq_comm

/-- A day and its text are the same date of a task unless the day is the first one. -/
theorem day_alike_iff (d : Day) :
    taskInstant (.date d) = taskInstant (.str (String.ofList d.iso)) ↔ d.number ≠ 0 := by
  rw [taskInstant_day, taskInstant, Except.ok.injEq]
  split
  · rename_i first
    exact iff_of_false (Option.some_ne_none _) (not_not_intro first)
  · rename_i later
    exact iff_of_true rfl later

/-- When a value and its text are the same date of a task, and which dates they are. None of them fails. -/
theorem taskInstant_alike_iff (instant : t.instant? = some m) (d : Day) :
    ((taskInstant (.datetime t) = taskInstant (.str t.iso) ↔
        t.reading.day.number = 0 ∨ t.reading.day.year ≠ 1 ∧ t.OffsetIsRead) ∧
      taskInstant (.datetime t) = .ok (if t.reading.day.year = 1 then none else some m) ∧
      ∃ m', t.asRead.instant? = some m' ∧
        taskInstant (.str t.iso) = .ok (if t.reading.day.number = 0 then none else some m')) ∧
    (taskInstant (.date d) = taskInstant (.str (String.ofList d.iso)) ↔ d.number ≠ 0) ∧
      taskInstant (.date d) = .ok (some (.midnight d)) ∧
      taskInstant (.str (String.ofList d.iso)) = .ok (if d.number = 0 then none else some (.midnight d)) := by
  obtain ⟨m', written, _⟩ := Timestamp.exists_instant?_asRead instant
  exact ⟨⟨timestamp_alike_iff instant, taskInstant_timestamp instant, m', written, taskInstant_iso written⟩,
    day_alike_iff d, rfl, taskInstant_day d⟩

/-- A timestamp of the second day, by a clock that is ahead of universal time by a second, and the last day of the calendar. -/
theorem taskInstant_alike_second :
    let t : Timestamp := ⟨.midnight ⟨366, by decide⟩, some ⟨secondMicros, by decide⟩⟩
    let last : Day := ⟨dayCount - 1, by decide⟩
    t.iso = "0002-01-02T00:00:00+00:00:01" ∧ taskInstant (.datetime t) = taskInstant (.str t.iso) ∧
      taskInstant (.date last) = taskInstant (.str (String.ofList last.iso)) := by
  intro t last
  have instant : t.instant? = some ⟨366 * dayMicros - secondMicros, by decide⟩ := by decide +kernel
  have read : t.OffsetIsRead := by
    rintro offset (same : some _ = some offset)
    cases same
    exact .inr (by decide)
  have later : t.reading.day.year ≠ 1 := by decide +kernel
  obtain ⟨⟨timestamp, _⟩, day, _⟩ := taskInstant_alike_iff instant last
  exact ⟨by decide +kernel, timestamp.2 (.inr ⟨later, read⟩), day.2 (by decide)⟩

/-- The first day is a date, and its text is none; a later clock time of year 1 is none, and its text is a date. -/
theorem taskInstant_not_alike :
    let first : Day := ⟨0, by decide⟩
    let june : Timestamp := ⟨.midnight ⟨151, by decide⟩, none⟩
    String.ofList first.iso = "0001-01-01" ∧ taskInstant (.date first) = .ok (some (.midnight first)) ∧
      taskInstant (.str "0001-01-01") = .ok none ∧
      june.iso = "0001-06-01T00:00:00" ∧ taskInstant (.datetime june) = .ok none ∧
      taskInstant (.str "0001-06-01T00:00:00") = .ok (some june.reading) := by
  decide +kernel

end AbsentDates

end TaskQuery
