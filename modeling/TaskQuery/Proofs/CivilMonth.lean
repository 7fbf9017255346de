import TaskQuery.Proofs.CivilDay

namespace TaskQuery

section Lengths

variable {lengths : List Nat} {index length rest : Nat}

/-- A day of one of some months lies within all of them. -/
theorem sum_take_add_lt (at? : lengths[index]? = some length) (short : rest < length) :
    (lengths.take index).sum + rest < lengths.sum := by
  induction lengths generalizing index with
  | nil => cases at?
  | cons first lengths ih =>
    cases index with
    | zero =>
      cases at?
      simp only [List.take_zero, List.sum_nil, List.sum_cons]
      omega
    | succ index =>
      have within := ih at?
      simp only [List.take_succ_cons, List.sum_cons]
      omega

/-- A day of one of some months is found there. -/
theorem splitMonths_take (at? : lengths[index]? = some length) (short : rest < length) (first : Nat) :
    splitMonths lengths first ((lengths.take index).sum + rest) = (first + index, rest) := by
  induction lengths generalizing index first with
  | nil => cases at?
  | cons here lengths ih =>
    cases index with
    | zero =>
      cases at?
      simp only [List.take_zero, List.sum_nil, Nat.zero_add, Nat.add_zero]
      exact if_pos short
    | succ index =>
      have later : ¬here + (lengths.take index).sum + rest < here := by omega
      have behind : here + (lengths.take index).sum + rest - here = (lengths.take index).sum + rest := by omega
      rw [List.take_succ_cons, List.sum_cons, splitMonths, if_neg later, behind, ih at? (first + 1)]
      exact congrArg (Prod.mk · rest) (by omega)

end Lengths

theorem daysBeforeMonth_add_lt {year index length rest : Nat} (at? : (monthLengths year)[index]? = some length)
    (short : rest < length) : daysBeforeMonth year (index + 1) + rest < yearLength year := by
  rw [daysBeforeMonth_succ, ← sum_monthLengths]
  exact sum_take_add_lt at? short

/-- The days of a month end where a later one begins. -/
theorem daysBeforeMonth_lt {year month later day : Nat} (positive : 1 ≤ month) (after : month < later) (twelve : later ≤ 12)
    (within : day < daysInMonth year month) : daysBeforeMonth year month + day < daysBeforeMonth year later := by
  obtain ⟨index, length, rfl, at?, size, _⟩ := exists_monthLength year positive (by omega)
  obtain ⟨further, rfl⟩ := Nat.exists_eq_add_of_le' (Nat.lt_of_le_of_lt positive after)
  have short : day < length := size ▸ within
  have front : ((monthLengths year).take (further + 1))[index]? = some length := by
    rw [List.getElem?_take_of_lt (by omega), at?]
  have sum := sum_take_add_lt front short
  rw [List.take_take, Nat.min_eq_left (by omega)] at sum
  rwa [daysBeforeMonth_succ, daysBeforeMonth_succ]

namespace Day

variable {year month day : Nat} {d e : Day}

/-- What a day is read off as whose number is composed of the days before its year, the days before its month and a rest. -/
theorem civil_of_number {index length rest : Nat} (positive : 1 ≤ year) (at? : (monthLengths year)[index]? = some length)
    (short : rest < length) (number : d.number = daysBeforeYear year + daysBeforeMonth year (index + 1) + rest) :
    d.year = year ∧ d.month = index + 1 ∧ d.dayOfMonth = rest + 1 := by
  have inYear := daysBeforeMonth_add_lt at? short
  have next := daysBeforeYear_succ positive
  have sameYear : d.year = year := yearOfDay_eq (by omega) (by omega)
  have inMonths : d.number - daysBeforeYear year = ((monthLengths year).take index).sum + rest := by
    rw [number, Nat.add_assoc, Nat.add_sub_cancel_left, daysBeforeMonth_succ]
  have split : d.monthAndDay = (1 + index, rest) := by
    rw [monthAndDay, sameYear, inMonths, splitMonths_take at? short]
  refine ⟨sameYear, ?_, ?_⟩
  · rw [Day.month, split, Nat.add_comm]
  · rw [dayOfMonth, split]

/-- Year, month and day of the month within bounds name a day that is read off as them. -/
theorem exists_civil (bounds : 1 ≤ year ∧ year < yearBound ∧ 1 ≤ month ∧ month ≤ 12 ∧ 1 ≤ day ∧ day ≤ daysInMonth year month) :
    ∃ d, ofCivil? year month day = some d ∧ d.year = year ∧ d.month = month ∧ d.dayOfMonth = day := by
  simp only [ofCivil?, if_pos bounds]
  obtain ⟨positive, inRange, first, twelve, started, ended⟩ := bounds
  obtain ⟨index, length, rfl, at?, size, _⟩ := exists_monthLength year first twelve
  have short : day - 1 < length := by omega
  have inYear := daysBeforeMonth_add_lt at? short
  have next := daysBeforeYear_succ positive
  have last : daysBeforeYear (year + 1) ≤ daysBeforeYear yearBound := daysBeforeYear_mono (Nat.le_add_left 1 year) inRange
  have count : daysBeforeYear yearBound = dayCount := by decide
  let d : Day := ⟨daysBeforeYear year + daysBeforeMonth year (index + 1) + (day - 1), by omega⟩
  obtain ⟨sameYear, sameMonth, sameDay⟩ := civil_of_number (d := d) positive at? short rfl
  exact ⟨d, ofNumber?_number d, sameYear, sameMonth, sameDay.trans (Nat.sub_add_cancel started)⟩

theorem ofCivil?_eq_some_iff :
    ofCivil? year month day = some d ↔ d.year = year ∧ d.month = month ∧ d.dayOfMonth = day := by
  constructor
  · intro named
    by_cases bounds : 1 ≤ year ∧ year < yearBound ∧ 1 ≤ month ∧ month ≤ 12 ∧ 1 ≤ day ∧ day ≤ daysInMonth year month
    · obtain ⟨_, named', parts⟩ := exists_civil bounds
      cases named.symm.trans named'
      exact parts
    · rw [ofCivil?, if_neg bounds] at named
      cases named
  · rintro ⟨rfl, rfl, rfl⟩
    exact ofCivil?_civil d

/-- The number of the month of a day, by which months are counted across years. -/
def monthNumber (d : Day) : Nat :=
  d.year * 12 + d.month

/-- The days of a later month are later. -/
theorem number_lt_of_monthNumber (earlier : d.monthNumber < e.monthNumber) : d.number < e.number := by
  obtain ⟨⟨_, _, first, twelve, started, ended⟩, number⟩ := d.civil_spec
  obtain ⟨⟨positive', _, _, twelve', _⟩, number'⟩ := e.civil_spec
  unfold monthNumber at earlier
  by_cases sameYear : d.year = e.year
  · rw [← sameYear] at number'
    have within : d.dayOfMonth - 1 < daysInMonth d.year d.month := by omega
    have later := daysBeforeMonth_lt first (by omega : d.month < e.month) twelve' within
    omega
  · have before : d.year + 1 ≤ e.year := by omega
    have next : daysBeforeYear (d.year + 1) ≤ daysBeforeYear e.year := daysBeforeYear_mono (Nat.le_add_left 1 _) before
    have inYear : d.number < daysBeforeYear (d.year + 1) := (yearOfDay_bounds d.number).2.2
    omega

end Day

end TaskQuery
