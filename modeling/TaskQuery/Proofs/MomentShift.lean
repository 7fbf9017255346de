import TaskQuery.Calendar.Moment
import TaskQuery.Proofs.CivilDay

namespace TaskQuery

namespace Moment

variable {m m' : Moment} {micros : Int}

theorem eq_of_micros (same : m.micros = m'.micros) : m = m' := by
  cases m
  cases m'
  cases same
  rfl

theorem ofMicros?_eq_some_iff : ofMicros? micros = some m ↔ (m.micros : Int) = micros := by
  have inRange := m.inRange
  unfold ofMicros?
  split
  · split
    · rw [Option.some.injEq]
      constructor
      · rintro rfl
        exact Int.toNat_of_nonneg (by assumption)
      · intro same
        exact eq_of_micros (by show micros.toNat = m.micros; omega)
    · exact iff_of_false nofun (by omega)
  · exact iff_of_false nofun (by omega)

theorem ofMicros?_eq_none_iff : ofMicros? micros = none ↔ micros < 0 ∨ (momentCount : Int) ≤ micros := by
  unfold ofMicros?
  split
  · split
    · exact iff_of_false nofun (by omega)
    · exact iff_of_true rfl (by omega)
  · exact iff_of_true rfl (by omega)

theorem shift?_eq_some_iff : m.shift? micros = some m' ↔ (m'.micros : Int) = m.micros + micros :=
  ofMicros?_eq_some_iff

theorem shift?_eq_none_iff :
    m.shift? micros = none ↔ m.micros + micros < 0 ∨ (momentCount : Int) ≤ m.micros + micros :=
  ofMicros?_eq_none_iff

/-- Day and clock reading of a moment. -/
theorem micros_eq (m : Moment) : m.micros = m.day.number * dayMicros + m.clock :=
  (Nat.div_add_mod' m.micros dayMicros).symm

theorem clock_lt (m : Moment) : m.clock < dayMicros :=
  Nat.mod_lt _ (by decide)

/-- Day and clock reading that a moment is composed of are read off it. -/
theorem day_clock_of_micros {d : Day} {clock : Nat} (micros : m.micros = d.number * dayMicros + clock)
    (inDay : clock < dayMicros) : m.day = d ∧ m.clock = clock := by
  constructor
  · refine Day.eq_of_number ?_
    show m.micros / dayMicros = d.number
    rw [micros, Nat.add_comm, Nat.add_mul_div_right _ _ (by decide), Nat.div_eq_of_lt inDay, Nat.zero_add]
  · rw [Moment.clock, micros, Nat.mul_add_mod', Nat.mod_eq_of_lt inDay]

theorem day_clock_midnight (d : Day) : (midnight d).day = d ∧ (midnight d).clock = 0 :=
  day_clock_of_micros (Nat.add_zero _).symm (by decide)

/-- A day and a clock reading are the moment they are read off. -/
theorem at?_eq_some_iff {d : Day} {clock : Nat} : at? d clock = some m ↔ m.day = d ∧ m.clock = clock := by
  constructor
  · intro reached
    rw [at?] at reached
    split at reached
    · rename_i inDay
      exact day_clock_of_micros (Int.natCast_inj.1 (ofMicros?_eq_some_iff.1 reached)) inDay
    · cases reached
  · rintro ⟨rfl, rfl⟩
    rw [at?, if_pos m.clock_lt]
    exact ofMicros?_eq_some_iff.2 (Int.natCast_inj.2 m.micros_eq)

theorem exists_at? (d : Day) {clock : Nat} (inDay : clock < dayMicros) : ∃ m, at? d clock = some m := by
  have day := d.inRange
  refine Option.ne_none_iff_exists'.1 fun missing => ?_
  rw [at?, if_pos inDay, ofMicros?_eq_none_iff] at missing
  unfold momentCount dayCount dayMicros secondMicros at *
  omega

/-- Moments are in the order of their days. -/
theorem micros_lt_of_day (earlier : m.day.number < m'.day.number) : m.micros < m'.micros :=
  Nat.lt_of_div_lt_div earlier

theorem day_le_of_micros (earlier : m.micros ≤ m'.micros) : m.day.number ≤ m'.day.number :=
  Nat.div_le_div_right earlier

end Moment

theorem Timestamp.instant?_eq_some_iff {t : Timestamp} {m : Moment} :
    t.instant? = some m ↔ t.instantMicros = m.micros := by
  obtain ⟨reading, offset⟩ := t
  cases offset with
  | none =>
    rw [instant?, instantMicros, Option.some.injEq, Int.natCast_inj]
    exact ⟨congrArg Moment.micros, Moment.eq_of_micros⟩
  | some offset =>
    rw [instant?, instantMicros, Moment.shift?_eq_some_iff]
    exact eq_comm

end TaskQuery
