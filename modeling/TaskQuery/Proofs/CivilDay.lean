import TaskQuery.Calendar.Day

namespace TaskQuery

/-- The length of a year. -/
def yearLength (year : Nat) : Nat :=
  if isLeapYear year then 366 else 365

theorem daysBeforeYear_succ {year : Nat} (positive : 1 ≤ year) :
    daysBeforeYear (year + 1) = daysBeforeYear year + yearLength year := by
  obtain ⟨n, rfl⟩ := Nat.exists_eq_add_of_le' positive
  -- The centuries taken away are among the leap days.
  have smaller : n / 100 ≤ n / 4 := Nat.div_le_div_left (by decide) (by decide)
  simp only [daysBeforeYear, yearLength, isLeapYear, Nat.add_sub_cancel, Nat.succ_div, Nat.dvd_iff_mod_eq_zero]
  by_cases four : (n + 1) % 4 = 0
  · by_cases hundred : (n + 1) % 100 = 0
    · by_cases fourHundred : (n + 1) % 400 = 0
      · simp [four, hundred, fourHundred]
        omega
      · simp [four, hundred, fourHundred]
        omega
    · have fourHundred : (n + 1) % 400 ≠ 0 := by omega
      simp [four, hundred, fourHundred]
      omega
  · have hundred : (n + 1) % 100 ≠ 0 := by omega
    have fourHundred : (n + 1) % 400 ≠ 0 := by omega
    simp [four, hundred, fourHundred]
    omega

theorem daysBeforeYear_mono {year later : Nat} (positive : 1 ≤ year) (after : year ≤ later) :
    daysBeforeYear year ≤ daysBeforeYear later := by
  induction after with
  | refl => exact Nat.le_refl _
  | step after ih =>
    rw [daysBeforeYear_succ (Nat.le_trans positive after)]
    exact Nat.le_trans ih (Nat.le_add_right _ _)

/-- A day lies in its year. -/
theorem yearOfDay_bounds (number : Nat) :
    1 ≤ yearOfDay number ∧ daysBeforeYear (yearOfDay number) ≤ number ∧ number < daysBeforeYear (yearOfDay number + 1) := by
  simp only [yearOfDay]
  split
  · unfold daysBeforeYear at *
    omega
  split
  · unfold daysBeforeYear at *
    omega
  · unfold daysBeforeYear at *
    omega

/-- No other year holds it. -/
theorem yearOfDay_eq {year number : Nat} (started : daysBeforeYear year ≤ number)
    (ended : number < daysBeforeYear (year + 1)) : yearOfDay number = year := by
  obtain ⟨_, started', ended'⟩ := yearOfDay_bounds number
  refine Nat.le_antisymm (Nat.not_lt.1 fun later => ?_) (Nat.not_lt.1 fun earlier => ?_)
  · exact Nat.not_le.2 ended (Nat.le_trans (daysBeforeYear_mono (Nat.le_add_left 1 year) later) started')
  · exact Nat.not_le.2 ended' (Nat.le_trans (daysBeforeYear_mono (Nat.le_add_left 1 _) earlier) started)

theorem yearOfDay_lt {number : Nat} (inRange : number < dayCount) : yearOfDay number < yearBound := by
  obtain ⟨-, started, -⟩ := yearOfDay_bounds number
  unfold daysBeforeYear dayCount yearBound at *
  omega

-- The zero that a sum begins with is that of the core library, also where a library has one of its own for monoids.
attribute [instance (high)] Zero.ofOfNat0

theorem sum_monthLengths (year : Nat) : (monthLengths year).sum = yearLength year := by
  unfold monthLengths yearLength
  split <;> rfl

theorem daysBeforeMonth_succ (year index : Nat) :
    daysBeforeMonth year (index + 1) = ((monthLengths year).take index).sum := by
  rw [daysBeforeMonth, Nat.add_sub_cancel, List.sum_eq_foldl]

theorem daysInMonth_succ (year index : Nat) : daysInMonth year (index + 1) = ((monthLengths year)[index]?).getD 0 := by
  rw [daysInMonth, if_neg (Nat.succ_ne_zero index), Nat.add_sub_cancel]

theorem monthLengths_bounds (year : Nat) : ∀ length ∈ monthLengths year, 28 ≤ length ∧ length ≤ 31 := by
  unfold monthLengths
  split <;> decide

/-- A month from 1 to 12 by its index. -/
theorem exists_monthLength (year : Nat) {month : Nat} (positive : 1 ≤ month) (twelve : month ≤ 12) :
    ∃ index length, month = index + 1 ∧ (monthLengths year)[index]? = some length ∧ daysInMonth year month = length ∧
      28 ≤ length ∧ length ≤ 31 := by
  obtain ⟨index, rfl⟩ := Nat.exists_eq_add_of_le' positive
  have inYear : index < (monthLengths year).length := twelve
  have at? := List.getElem?_eq_getElem inYear
  refine ⟨index, _, rfl, at?, ?_, monthLengths_bounds year _ (List.getElem_mem inYear)⟩
  rw [daysInMonth_succ, at?, Option.getD_some]

/-- A day within some months is a day of one of them, behind the months before it. -/
theorem exists_splitMonths {lengths : List Nat} {day : Nat} (within : day < lengths.sum) (first : Nat) :
    ∃ index length rest, splitMonths lengths first day = (first + index, rest) ∧ lengths[index]? = some length ∧
      rest < length ∧ (lengths.take index).sum + rest = day := by
  induction lengths generalizing day first with
  | nil => exact absurd within (Nat.not_lt_zero day)
  | cons length lengths ih =>
    by_cases here : day < length
    · exact ⟨0, length, day, if_pos here, rfl, here, Nat.zero_add day⟩
    · have later : day - length < lengths.sum := by
        rw [List.sum_cons] at within
        omega
      obtain ⟨index, found, rest, split, at?, short, sum⟩ := ih later (first + 1)
      refine ⟨index + 1, found, rest, ?_, at?, short, ?_⟩
      · rw [splitMonths, if_neg here, split, Nat.add_right_comm, Nat.add_assoc]
      · rw [List.take_succ_cons, List.sum_cons]
        omega

namespace Day

theorem eq_of_number {d e : Day} (same : d.number = e.number) : d = e := by
  cases d
  cases e
  cases same
  rfl

/-- What year, month and day of the month are read off as: those of a day, and its number behind the days before them. -/
theorem civil_spec (d : Day) :
    (1 ≤ d.year ∧ d.year < yearBound ∧ 1 ≤ d.month ∧ d.month ≤ 12 ∧ 1 ≤ d.dayOfMonth ∧
      d.dayOfMonth ≤ daysInMonth d.year d.month) ∧
    daysBeforeYear d.year + daysBeforeMonth d.year d.month + (d.dayOfMonth - 1) = d.number := by
  obtain ⟨positive, started, ended⟩ := yearOfDay_bounds d.number
  have inYear : d.number - daysBeforeYear d.year < (monthLengths d.year).sum := by
    rw [daysBeforeYear_succ positive] at ended
    rw [sum_monthLengths, Day.year]
    omega
  obtain ⟨index, length, rest, split, at?, short, sum⟩ := exists_splitMonths inYear 1
  have month : d.month = index + 1 := by
    rw [Day.month, monthAndDay, split, Nat.add_comm]
  have day : d.dayOfMonth = rest + 1 := by
    rw [dayOfMonth, monthAndDay, split]
  have twelve : index < 12 := (List.getElem?_eq_some_iff.1 at?).1
  have size : daysInMonth d.year d.month = length := by
    rw [month, daysInMonth_succ, at?, Option.getD_some]
  have before : daysBeforeMonth d.year d.month + rest = d.number - daysBeforeYear d.year := by
    rw [month, daysBeforeMonth_succ, sum]
  have year : daysBeforeYear d.year ≤ d.number := started
  refine ⟨⟨positive, yearOfDay_lt d.inRange, ?_⟩, ?_⟩ <;> omega

theorem year_eq_one_iff (d : Day) : d.year = 1 ↔ d.number < 365 := by
  constructor
  · intro first
    have ended := (yearOfDay_bounds d.number).2.2
    rwa [show yearOfDay d.number = 1 from first] at ended
  · have started : daysBeforeYear 1 ≤ d.number := Nat.zero_le _
    exact yearOfDay_eq started

theorem ofNumber?_eq_some_iff {number : Int} {d : Day} : ofNumber? number = some d ↔ (d.number : Int) = number := by
  have inRange := d.inRange
  unfold ofNumber?
  split
  · split
    · rw [Option.some.injEq]
      constructor
      · rintro rfl
        exact Int.toNat_of_nonneg (by assumption)
      · intro same
        exact eq_of_number (by show number.toNat = d.number; omega)
    · exact iff_of_false nofun (by omega)
  · exact iff_of_false nofun (by omega)

theorem ofNumber?_number (d : Day) : ofNumber? d.number = some d :=
  ofNumber?_eq_some_iff.2 rfl

/-- Year, month and day of the month of a day name it. -/
theorem ofCivil?_civil (d : Day) : ofCivil? d.year d.month d.dayOfMonth = some d := by
  obtain ⟨bounds, number⟩ := d.civil_spec
  rw [ofCivil?, if_pos bounds, number, ofNumber?_number]

theorem dayOfMonth_le (d : Day) : d.dayOfMonth ≤ 31 := by
  obtain ⟨⟨_, _, positive, twelve, _, within⟩, _⟩ := d.civil_spec
  obtain ⟨_, length, _, _, size, _, longest⟩ := exists_monthLength d.year positive twelve
  omega

end Day

end TaskQuery
