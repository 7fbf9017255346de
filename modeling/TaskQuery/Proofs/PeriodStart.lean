import TaskQuery.Proofs.RelativeOffset

namespace TaskQuery

namespace Day

variable {d e s : Day} {p : Period}

/-- Whether a day is the first one of a period. -/
def Begins (d : Day) : Period → Prop
  | .day => True
  | .week => ∃ year week, ofWeek? year week 1 = some d
  | .month => ∃ year month, ofCivil? year month 1 = some d
  | .year => ∃ year, ofCivil? year 1 1 = some d

section Week

/-- Week one begins on the Monday that is nearest to the first day of its year. -/
theorem firstWeekMonday_spec (year : Nat) : firstWeekMonday year % 7 = 0 ∧
    (daysBeforeYear year : Int) ≤ firstWeekMonday year + 3 ∧ firstWeekMonday year ≤ daysBeforeYear year + 3 := by
  simp only [firstWeekMonday]
  split <;> omega

/-- A year has a week 53 if the Thursday of that week lies in it. -/
theorem hasWeek53_of_thursday {year : Nat}
    (within : firstWeekMonday year + 52 * 7 + 3 < daysBeforeYear year + yearLength year) : hasWeek53 year = true := by
  simp only [hasWeek53, Bool.or_eq_true, Bool.and_eq_true, beq_iff_eq]
  simp only [firstWeekMonday, yearLength] at within
  by_cases leap : isLeapYear year = true
  · rw [if_pos leap] at within
    by_cases wednesday : daysBeforeYear year % 7 = 2
    · exact .inr ⟨wednesday, leap⟩
    · refine .inl ?_
      split at within <;> omega
  · rw [if_neg leap] at within
    refine .inl ?_
    split at within <;> omega

/-- Weeks begin on Mondays, and every Monday begins a week. -/
theorem begins_week_iff : d.Begins .week ↔ d.weekday = 0 := by
  constructor
  · rintro ⟨year, week, named⟩
    obtain ⟨monday, _⟩ := firstWeekMonday_spec year
    rw [ofWeek?] at named
    split at named
    · have number := ofNumber?_eq_some_iff.1 named
      unfold weekday
      omega
    · cases named
  · intro monday
    unfold weekday at monday
    have inRange := d.inRange
    -- A week belongs to the year of its Thursday.
    have thursday : d.number + 3 < dayCount := by
      unfold dayCount at *
      omega
    obtain ⟨positive, started, ended⟩ := yearOfDay_bounds (d.number + 3)
    have bounded := yearOfDay_lt thursday
    generalize yearOfDay (d.number + 3) = year at *
    rw [daysBeforeYear_succ positive] at ended
    obtain ⟨multiple, early, late⟩ := firstWeekMonday_spec year
    have length : yearLength year ≤ 366 := by
      unfold yearLength
      split <;> decide
    let week := ((d.number - firstWeekMonday year) / 7).toNat + 1
    have number : (d.number : Int) = firstWeekMonday year + (week - 1) * 7 := by omega
    have last : week ≤ 52 ∨ week = 53 ∧ hasWeek53 year = true := by
      by_cases regular : week ≤ 52
      · exact .inl regular
      · exact .inr ⟨by omega, hasWeek53_of_thursday (by omega)⟩
    refine ⟨year, week, ?_⟩
    rw [ofWeek?, if_pos ⟨positive, bounded, by omega, last, by omega, by omega⟩, ofNumber?_eq_some_iff]
    omega

end Week

theorem begins_month_iff : d.Begins .month ↔ d.dayOfMonth = 1 := by
  constructor
  · rintro ⟨year, month, named⟩
    exact (ofCivil?_eq_some_iff.1 named).2.2
  · exact fun first => ⟨d.year, d.month, ofCivil?_eq_some_iff.2 ⟨rfl, rfl, first⟩⟩

theorem begins_year_iff : d.Begins .year ↔ d.month = 1 ∧ d.dayOfMonth = 1 := by
  constructor
  · rintro ⟨year, named⟩
    exact (ofCivil?_eq_some_iff.1 named).2
  · exact fun first => ⟨d.year, ofCivil?_eq_some_iff.2 ⟨rfl, first⟩⟩

theorem number_of_begins_year (begins : d.Begins .year) : d.number = daysBeforeYear d.year := by
  obtain ⟨month, day⟩ := begins_year_iff.1 begins
  have number := d.civil_spec.2
  rw [month, day] at number
  exact number.symm

theorem year_le_of_number (earlier : d.number ≤ e.number) : d.year ≤ e.year := by
  refine Nat.not_lt.1 fun later => ?_
  have between : daysBeforeYear (e.year + 1) ≤ daysBeforeYear d.year := daysBeforeYear_mono (Nat.le_add_left 1 _) later
  have started := (yearOfDay_bounds d.number).2.1
  have ended := (yearOfDay_bounds e.number).2.2
  unfold year at *
  omega

/-- Two days on which months begin are in the order of their months. -/
theorem number_le_of_begins_month (begins : d.Begins .month) (others : e.Begins .month)
    (ordered : d.monthNumber ≤ e.monthNumber) : d.number ≤ e.number := by
  rw [begins_month_iff] at begins others
  rcases Nat.lt_or_eq_of_le ordered with earlier | same
  · exact Nat.le_of_lt (number_lt_of_monthNumber earlier)
  · obtain ⟨⟨_, _, first, twelve, _⟩, number⟩ := d.civil_spec
    obtain ⟨⟨_, _, first', twelve', _⟩, number'⟩ := e.civil_spec
    unfold monthNumber at same
    have year : d.year = e.year := by omega
    have month : d.month = e.month := by omega
    rw [begins, year, month] at number
    rw [others] at number'
    omega

/-- Whether a day is the latest one up to another day on which a period begins. -/
structure IsStart (s d : Day) (p : Period) : Prop where
  begins : s.Begins p
  reached : s.number ≤ d.number
  latest : ∀ e : Day, e.Begins p → e.number ≤ d.number → e.number ≤ s.number

theorem isStart_week (number : s.number = d.number - d.weekday) : s.IsStart d .week := by
  unfold weekday at number
  refine ⟨begins_week_iff.2 ?_, by omega, fun e begins reached => ?_⟩
  · unfold weekday
    omega
  · have monday := begins_week_iff.1 begins
    unfold weekday at monday
    omega

theorem isStart_month (number : s.number = d.number - (d.dayOfMonth - 1)) : s.IsStart d .month := by
  obtain ⟨⟨positive, _, started, twelve, _, _⟩, civil⟩ := d.civil_spec
  obtain ⟨index, length, month, at?, _, long, _⟩ := exists_monthLength d.year started twelve
  have first : s.number = daysBeforeYear d.year + daysBeforeMonth d.year (index + 1) + 0 := by
    rw [← month]
    omega
  obtain ⟨sameYear, sameMonth, day⟩ := civil_of_number positive at? (by omega) first
  have begins := begins_month_iff.2 day
  have same : s.monthNumber = d.monthNumber := by
    unfold monthNumber
    rw [sameYear, sameMonth, month]
  refine ⟨begins, by omega, fun e others reached => ?_⟩
  refine number_le_of_begins_month others begins (Nat.not_lt.1 fun later => ?_)
  rw [same] at later
  exact Nat.not_lt.2 reached (number_lt_of_monthNumber later)

theorem isStart_year (number : s.number = daysBeforeYear d.year) : s.IsStart d .year := by
  obtain ⟨positive, started, _⟩ := yearOfDay_bounds d.number
  have january : (monthLengths d.year)[0]? = some 31 := rfl
  obtain ⟨_, first⟩ := civil_of_number positive january (by decide : 0 < 31) number
  refine ⟨begins_year_iff.2 first, Nat.le_trans (Nat.le_of_eq number) started, fun e begins reached => ?_⟩
  rw [number, number_of_begins_year begins]
  exact daysBeforeYear_mono (yearOfDay_bounds e.number).1 (year_le_of_number reached)

theorem isStart_of_number (number : s.number = d.periodStart p) : s.IsStart d p := by
  cases p with
  | day => exact ⟨trivial, Nat.le_of_eq number, fun e _ reached => Nat.le_trans reached (Nat.le_of_eq number.symm)⟩
  | week => exact isStart_week number
  | month => exact isStart_month number
  | year => exact isStart_year number

theorem periodStart_le (d : Day) (p : Period) : d.periodStart p ≤ d.number := by
  cases p with
  | day => exact Nat.le_refl _
  | week | month => exact Nat.sub_le _ _
  | year => exact (yearOfDay_bounds d.number).2.1

end Day

/-- The periods that are made of shorter ones. -/
inductive Period.MadeOf : Period → Period → Prop
  | weekOfDays : MadeOf .week .day
  | monthOfDays : MadeOf .month .day
  | yearOfDays : MadeOf .year .day
  | yearOfMonths : MadeOf .year .month

theorem Day.Begins.shorter {d : Day} {p q : Period} (begins : d.Begins p) (made : p.MadeOf q) : d.Begins q := by
  cases made with
  | weekOfDays | monthOfDays | yearOfDays => trivial
  | yearOfMonths => exact begins_month_iff.2 (begins_year_iff.1 begins).2

namespace Moment

variable {m later start start' : Moment} {p q : Period}

/-- Whether a period starts at a moment: at midnight of its first day. -/
def Starts (m : Moment) (p : Period) : Prop :=
  m.clock = 0 ∧ m.day.Begins p

/-- Whether a moment is the latest one up to another moment at which a period starts. -/
structure IsFloor (start m : Moment) (p : Period) : Prop where
  starts : start.Starts p
  reached : start.micros ≤ m.micros
  latest : ∀ other : Moment, other.Starts p → other.micros ≤ m.micros → other.micros ≤ start.micros

theorem micros_of_midnight (midnight : m.clock = 0) : m.micros = m.day.number * dayMicros := by
  rw [m.micros_eq, midnight, Nat.add_zero]

theorem isFloor_midnight {s : Day} (first : s.IsStart m.day p) : (midnight s).IsFloor m p := by
  obtain ⟨day, clock⟩ := day_clock_midnight s
  refine ⟨⟨clock, day.symm ▸ first.begins⟩, ?_, fun other starts reached => ?_⟩
  · rw [m.micros_eq]
    exact Nat.le_trans (Nat.mul_le_mul_right _ first.reached) (Nat.le_add_right _ _)
  · rw [micros_of_midnight starts.1]
    exact Nat.mul_le_mul_right _ (first.latest _ starts.2 (day_le_of_micros reached))

/-- The start of a period is in the calendar, and is the latest one. -/
theorem exists_startOf? (m : Moment) (p : Period) : ∃ start, m.startOf? p = some start ∧ start.IsFloor m p := by
  let s : Day := ⟨m.day.periodStart p, Nat.lt_of_le_of_lt (m.day.periodStart_le p) m.day.inRange⟩
  refine ⟨midnight s, ?_, isFloor_midnight (Day.isStart_of_number rfl)⟩
  rw [startOf?, show Day.ofNumber? (m.day.periodStart p) = some s from s.ofNumber?_number, Option.map_some]

theorem IsFloor.mono (floor : start.IsFloor m p) (floor' : start'.IsFloor later p) (ordered : m.micros ≤ later.micros) :
    start.micros ≤ start'.micros :=
  floor'.latest start floor.starts (Nat.le_trans floor.reached ordered)

theorem IsFloor.unique (floor : start.IsFloor m p) (floor' : start'.IsFloor m p) : start = start' :=
  eq_of_micros (Nat.le_antisymm (floor.mono floor' (Nat.le_refl _)) (floor'.mono floor (Nat.le_refl _)))

theorem Starts.isFloor (starts : m.Starts p) : m.IsFloor m p :=
  ⟨starts, Nat.le_refl _, fun _ _ reached => reached⟩

/-- A long period starts no later than the shorter ones that it is made of. -/
theorem IsFloor.shorter (floor : start.IsFloor m p) (floor' : start'.IsFloor m q) (made : p.MadeOf q) :
    start.micros ≤ start'.micros :=
  floor'.latest start ⟨floor.starts.1, floor.starts.2.shorter made⟩ floor.reached

theorem startOf?_eq_some_iff : m.startOf? p = some start ↔ start.IsFloor m p := by
  obtain ⟨found, reached, floor⟩ := exists_startOf? m p
  rw [reached, Option.some.injEq]
  constructor
  · rintro rfl
    exact floor
  · exact floor.unique

end Moment

namespace Period

def letter : Period → Char
  | day => 'd'
  | week => 'w'
  | month => 'M'
  | year => 'y'

/-- The literal that asks for the start of a period. -/
def literal (p : Period) : String :=
  String.ofList ['n', 'o', 'w', '/', p.letter]

end Period

namespace DateLiteral

variable {now : Timestamp} {m : Moment} {p q : Period} {start : Moment}

theorem read?_startOf (p : Period) : read? p.literal = some (.relative (some (.startOf p))) := by
  have shape : p.literal.toList = ['n', 'o', 'w', '/', p.letter] := String.toList_ofList
  have solid : ∀ c ∈ p.literal.toList, Text.isBlank c = false := by
    have letter : Text.isBlank p.letter = false := by
      cases p <;> decide
    have word : ∀ c ∈ ['n', 'o', 'w', '/'], Text.isBlank c = false := Lexeme.forall_mem_of_all (by decide)
    rw [shape]
    exact List.forall_mem_append.2 ⟨word, List.forall_mem_singleton.2 letter⟩
  have short : p.literal.length ≤ maxDateLiteralLength := by
    rw [← String.length_toList, shape]
    exact (by decide : 5 ≤ maxDateLiteralLength)
  have step : readStep ['/', p.letter] = some (.startOf p) := by
    cases p <;> rfl
  rw [read?_now shape solid short, step]

/-- The literal for the start of a period stands for the latest one up to the instant of the reference. -/
theorem resolve_startOf_iff (instant : now.instant? = some m) :
    resolve now p.literal = .ok (some start) ↔ start.IsFloor m p := by
  rw [resolve_relative instant (read?_startOf p), Except.ok.injEq]
  exact Moment.startOf?_eq_some_iff

/-- What the literals for starts of periods stand for, seen from a reference. -/
structure TrueFloors (now : Timestamp) (m : Moment) : Prop where
  /-- Each of them stands for the latest start up to the reference. -/
  answers (p : Period) : ∃ start, resolve now p.literal = .ok (some start) ∧ start.IsFloor m p
  /-- The start of a week is a Monday. -/
  monday {start : Moment} : resolve now Period.week.literal = .ok (some start) → start.day.weekday = 0
  /-- The start stands for itself, on every clock that shows it. -/
  settled {p : Period} {start : Moment} {again : Timestamp} : resolve now p.literal = .ok (some start) →
    again.instant? = some start → resolve again p.literal = .ok (some start)
  /-- A later reference, by any clock, has no earlier start. -/
  monotone {p : Period} {start start' later : Moment} {after : Timestamp} : resolve now p.literal = .ok (some start) →
    after.instant? = some later → m.micros ≤ later.micros → resolve after p.literal = .ok (some start') →
    start.micros ≤ start'.micros
  /-- A long period starts no later than the shorter ones that it is made of. -/
  nested {p q : Period} {start start' : Moment} : p.MadeOf q → resolve now p.literal = .ok (some start) →
    resolve now q.literal = .ok (some start') → start.micros ≤ start'.micros

/-- The starts of periods are true floors, whatever the reference, as long as the calendar has its instant. -/
theorem trueFloors (instant : now.instant? = some m) : TrueFloors now m := by
  refine ⟨?answers, ?monday, ?settled, ?monotone, ?nested⟩
  case answers =>
    intro p
    obtain ⟨start, _, floor⟩ := Moment.exists_startOf? m p
    exact ⟨start, (resolve_startOf_iff instant).2 floor, floor⟩
  case monday =>
    intro start resolved
    exact Day.begins_week_iff.1 ((resolve_startOf_iff instant).1 resolved).starts.2
  case settled =>
    intro p start again resolved shown
    have floor := (resolve_startOf_iff instant).1 resolved
    exact (resolve_startOf_iff shown).2 floor.starts.isFloor
  case monotone =>
    intro p start start' later after resolved shown ordered resolved'
    exact ((resolve_startOf_iff instant).1 resolved).mono ((resolve_startOf_iff shown).1 resolved') ordered
  case nested =>
    intro p q start start' made resolved resolved'
    exact ((resolve_startOf_iff instant).1 resolved).shorter ((resolve_startOf_iff instant).1 resolved') made

/-- An hour after midnight of a Monday on a clock ahead of universal time, where the first week of the calendar has not ended. -/
theorem trueFloors_firstWeek :
    let now : Timestamp := ⟨⟨7 * dayMicros + 3600 * secondMicros, by decide⟩, some ⟨10800 * secondMicros, by decide⟩⟩
    let m : Moment := ⟨6 * dayMicros + 79200 * secondMicros, by decide⟩
    let first : Moment := .midnight ⟨0, by decide⟩
    now.instant? = some m ∧ resolve now "now/w" = .ok (some first) ∧ first.IsFloor m .week ∧
      resolve now "now/d" = .ok (some (.midnight ⟨6, by decide⟩)) := by
  intro now m first
  have instant : now.instant? = some m := by decide +kernel
  have week : resolve now "now/w" = .ok (some first) := by decide +kernel
  obtain ⟨start, resolved, floor⟩ := (trueFloors instant).answers .week
  rw [show Period.week.literal = "now/w" from rfl, week, Except.ok.injEq, Option.some.injEq] at resolved
  exact ⟨instant, week, resolved ▸ floor, by decide +kernel⟩

end DateLiteral

end TaskQuery
