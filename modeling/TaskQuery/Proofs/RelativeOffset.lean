import TaskQuery.Proofs.CivilMonth
import TaskQuery.Proofs.MatchFaults
import TaskQuery.Proofs.NumberWriting

namespace TaskQuery

/-- What an offset of one adds: microseconds, or months. -/
inductive OffsetUnit.Size where
  | micros (count : Nat) (positive : 0 < count)
  | months (count : Nat) (positive : 0 < count)

def OffsetUnit.size : OffsetUnit → Size
  | second => .micros secondMicros (by decide)
  | minute => .micros (60 * secondMicros) (by decide)
  | hour => .micros (3600 * secondMicros) (by decide)
  | day => .micros (86400 * secondMicros) (by decide)
  | week => .micros (604800 * secondMicros) (by decide)
  | month => .months 1 (by decide)
  | year => .months 12 (by decide)

namespace Moment

variable {m m' : Moment} {amount : Int} {unit : OffsetUnit}

/-- Whether a moment is so many months after another one: by the months from year to year, with the day of the month kept where
the month has it, and with the same clock time. -/
structure MonthsAfter (m m' : Moment) (months : Int) : Prop where
  month : (m'.day.monthNumber : Int) = m.day.monthNumber + months
  day : m'.day.dayOfMonth = min m.day.dayOfMonth (daysInMonth m'.day.year m'.day.month)
  clock : m'.clock = m.clock

/-- The year that is so many months after a moment. -/
def yearAfter (m : Moment) (months : Int) : Int :=
  (m.day.monthNumber + months - 1) / 12

/-- Whether an offset leads from one moment to another. -/
def Reaches (m m' : Moment) (amount : Int) (unit : OffsetUnit) : Prop :=
  match unit.size with
  | .micros count _ => (m'.micros : Int) = m.micros + amount * count
  | .months count _ => m.MonthsAfter m' (amount * count)

/-- Whether an offset leads out of the years 1 to 9999. -/
def LeavesCalendar (m : Moment) (amount : Int) (unit : OffsetUnit) : Prop :=
  match unit.size with
  | .micros count _ => m.micros + amount * count < 0 ∨ (momentCount : Int) ≤ m.micros + amount * count
  | .months count _ => m.yearAfter (amount * count) < 1 ∨ 9999 < m.yearAfter (amount * count)

section Months

variable {months : Int}

theorem shiftMonths?_eq_some_iff : m.shiftMonths? months = some m' ↔ m.MonthsAfter m' months := by
  obtain ⟨⟨_, _, first, twelve, _⟩, _⟩ := m'.day.civil_spec
  simp only [shiftMonths?]
  -- The months that go by until the end of the offset, counted from year 0.
  generalize total : (m.day.year * 12 + (m.day.month - 1) + months : Int) = passed
  constructor
  · intro reached
    split at reached
    · obtain ⟨_, named, at?⟩ := Option.bind_eq_some_iff.1 reached
      obtain ⟨rfl, clock⟩ := at?_eq_some_iff.1 at?
      obtain ⟨year, month, day⟩ := Day.ofCivil?_eq_some_iff.1 named
      refine ⟨?_, ?_, clock⟩
      · unfold Day.monthNumber
        omega
      · rw [day, year, month]
    · cases reached
  · rintro ⟨number, day, clock⟩
    unfold Day.monthNumber at number
    have year : m'.day.year = (passed / 12).toNat := by omega
    have month : m'.day.month = (passed % 12).toNat + 1 := by omega
    rw [year, month] at day
    rw [if_pos (by omega), Day.ofCivil?_eq_some_iff.2 ⟨year, month, day⟩, Option.bind_some]
    exact at?_eq_some_iff.2 ⟨rfl, clock⟩

/-- Every month of the calendar has a day that is no later in it than a given one. -/
theorem exists_shiftMonths? (started : 1 ≤ m.yearAfter months) (ended : m.yearAfter months ≤ 9999) :
    ∃ m', m.shiftMonths? months = some m' := by
  obtain ⟨⟨_, _, _, _, first, _⟩, _⟩ := m.day.civil_spec
  simp only [shiftMonths?]
  generalize total : (m.day.year * 12 + (m.day.month - 1) + months : Int) = passed
  have year : m.yearAfter months = passed / 12 := by
    unfold yearAfter Day.monthNumber
    omega
  rw [year] at started ended
  have yearStarted : 1 ≤ (passed / 12).toNat := by omega
  have yearEnded : (passed / 12).toNat < yearBound := by unfold yearBound; omega
  have monthStarted : 1 ≤ (passed % 12).toNat + 1 := Nat.le_add_left 1 _
  have monthEnded : (passed % 12).toNat + 1 ≤ 12 := by omega
  obtain ⟨_, length, _, _, size, long, _⟩ := exists_monthLength (passed / 12).toNat monthStarted monthEnded
  have dayStarted : 1 ≤ min m.day.dayOfMonth (daysInMonth (passed / 12).toNat ((passed % 12).toNat + 1)) := by omega
  obtain ⟨d, named, _⟩ :=
    Day.exists_civil ⟨yearStarted, yearEnded, monthStarted, monthEnded, dayStarted, Nat.min_le_right _ _⟩
  rw [if_pos (by omega), named, Option.bind_some]
  exact exists_at? d m.clock_lt

theorem shiftMonths?_eq_none_iff : m.shiftMonths? months = none ↔ m.yearAfter months < 1 ∨ 9999 < m.yearAfter months := by
  constructor
  · intro missing
    by_cases started : 1 ≤ m.yearAfter months
    · refine .inr (Int.not_le.1 fun ended => ?_)
      obtain ⟨_, reached⟩ := exists_shiftMonths? started ended
      cases missing.symm.trans reached
    · exact .inl (Int.not_le.1 started)
  · intro outside
    refine Option.eq_none_iff_forall_ne_some.2 fun m' reached => ?_
    obtain ⟨⟨_, inRange, first, twelve, _⟩, _⟩ := m'.day.civil_spec
    have number := (shiftMonths?_eq_some_iff.1 reached).month
    unfold yearAfter Day.monthNumber at *
    unfold yearBound at inRange
    omega

end Months

theorem offset?_eq (m : Moment) (amount : Int) (unit : OffsetUnit) :
    m.offset? amount unit = match unit.size with
      | .micros count _ => m.shift? (amount * count)
      | .months count _ => m.shiftMonths? (amount * count) := by
  cases unit with
  | second | day => rfl
  | minute | hour => exact congrArg m.shift? (Int.mul_assoc _ _ _)
  | week => exact congrArg m.shift? (Int.mul_assoc _ _ _)
  | month => exact congrArg m.shiftMonths? (Int.mul_one amount).symm
  | year => rfl

/-- An offset arrives where its unit leads. -/
theorem offset?_eq_some_iff : m.offset? amount unit = some m' ↔ m.Reaches m' amount unit := by
  rw [offset?_eq, Reaches]
  cases unit.size with
  | micros => exact shift?_eq_some_iff
  | months => exact shiftMonths?_eq_some_iff

/-- An offset arrives nowhere exactly if it leads out of the calendar. -/
theorem offset?_eq_none_iff : m.offset? amount unit = none ↔ m.LeavesCalendar amount unit := by
  rw [offset?_eq, LeavesCalendar]
  cases unit.size with
  | micros => exact shift?_eq_none_iff
  | months => exact shiftMonths?_eq_none_iff

/-- A greater amount arrives later. -/
theorem Reaches.lt {more : Int} {later : Moment} (reached : m.Reaches m' amount unit) (greater : amount < more)
    (further : m.Reaches later more unit) : m'.micros < later.micros := by
  unfold Reaches at reached further
  cases size : unit.size with
  | micros count positive =>
    simp only [size] at reached further
    have shorter := Int.mul_lt_mul_of_pos_right greater (Int.natCast_pos.2 positive)
    omega
  | months count positive =>
    simp only [size] at reached further
    have shorter := Int.mul_lt_mul_of_pos_right greater (Int.natCast_pos.2 positive)
    have before := reached.month
    have after := further.month
    exact micros_lt_of_day (Day.number_lt_of_monthNumber (by omega))

end Moment

namespace DateLiteral

open Numeral

/-- Whether a text is the reference with an offset: the word, a sign, one digit or more, of any script, and the letter of the
unit, which may be missing for days. -/
inductive IsOffset : String → Int → OffsetUnit → Prop
  | intro {negative : Bool} {cs : List Char} {ds : List Nat} {unit : OffsetUnit} {letter : List Char} : Digits cs ds →
      cs ≠ [] → (letter = [unit.letter] ∨ unit = .day ∧ letter = []) →
      IsOffset (String.ofList ('n' :: 'o' :: 'w' :: (if negative then '-' else '+') :: (cs ++ letter)))
        (if negative then -(Text.digitsValue ds : Int) else Text.digitsValue ds) unit

/-- Every amount of every unit has an offset, by its decimal digits. -/
theorem isOffset_decimal (amount : Int) (unit : OffsetUnit) :
    IsOffset (String.ofList ('n' :: 'o' :: 'w' :: (if amount < 0 then '-' else '+') ::
      (Nat.toDigits 10 amount.natAbs ++ [unit.letter]))) amount unit := by
  have offset := @IsOffset.intro (decide (amount < 0)) _ _ unit _ (digits_values (isDigit_toDigits amount.natAbs))
    Nat.toDigits_ne_nil (.inl rfl)
  have value : (if amount < 0 then -(amount.natAbs : Int) else amount.natAbs) = amount := by
    split <;> omega
  simpa only [digitsValue_values, Nat.ofDigitChars_ten_toDigits, decide_eq_true_eq, value] using offset

variable {s : String} {amount : Int} {unit : OffsetUnit}

theorem letter_cases {letter : List Char} (spelled : letter = [unit.letter] ∨ unit = .day ∧ letter = []) :
    NoDigit letter ∧ ∀ c ∈ letter, Text.isBlank c = false := by
  rcases spelled with rfl | ⟨_, rfl⟩
  · have noDigit : Text.digitValue? unit.letter = none := by
      cases unit <;> rfl
    have solid : Text.isBlank unit.letter = false := by
      cases unit <;> rfl
    refine ⟨?_, List.forall_mem_singleton.2 solid⟩
    rintro c (head : some unit.letter = some c)
    cases head
    exact noDigit
  · exact ⟨noDigit_nil, List.forall_mem_nil _⟩

/-- No blank is part of an offset. -/
theorem IsOffset.solid (offset : IsOffset s amount unit) : ∀ c ∈ s.toList, Text.isBlank c = false := by
  obtain ⟨digits, _, spelled⟩ := offset
  have digit : ∀ c ∈ _, Text.isBlank c = false := fun c member =>
    Bool.eq_false_iff.2 fun blank => digits.value member (Text.digitValue?_of_isBlank blank)
  rw [String.toList_ofList]
  refine List.forall_mem_cons.2 ⟨by decide, List.forall_mem_cons.2 ⟨by decide, List.forall_mem_cons.2 ⟨by decide,
    List.forall_mem_cons.2 ⟨by split <;> decide, List.forall_mem_append.2 ⟨digit, (letter_cases spelled).2⟩⟩⟩⟩⟩

theorem beginsLikeDate_now (cs : List Char) : beginsLikeDate ('n' :: cs) = false := by
  simp [beginsLikeDate, List.zipIdx_cons, Text.asciiDigit?]

theorem readStep_offset {negative : Bool} {cs letter : List Char} {ds : List Nat} (digits : Digits cs ds) (nonempty : cs ≠ [])
    (spelled : letter = [unit.letter] ∨ unit = .day ∧ letter = []) :
    readStep ((if negative then '-' else '+') :: (cs ++ letter)) =
      some (.offset (if negative then -(Text.digitsValue ds : Int) else Text.digitsValue ds) unit) := by
  have read := digits.read (letter_cases spelled).1
  obtain ⟨d, ds, rfl⟩ : ∃ d others, ds = d :: others := by
    refine List.exists_cons_of_ne_nil fun empty => nonempty (List.eq_nil_of_length_eq_zero ?_)
    rw [digits.length_eq, empty, List.length_nil]
  have known : OffsetUnit.ofLetter? unit.letter = some unit := by
    cases unit <;> rfl
  have step {sign : Char} (marked : sign = '+' ∨ sign = '-') : readStep (sign :: (cs ++ letter)) =
      some (.offset (if sign = '-' then -(Text.digitsValue (d :: ds) : Int) else Text.digitsValue (d :: ds)) unit) := by
    have noSlash : ∀ other, sign = '/' → cs ++ letter = [other] → False :=
      fun _ slash _ => absurd (slash ▸ marked) (by decide)
    rw [readStep, if_pos marked, read]
    · rcases spelled with rfl | ⟨rfl, rfl⟩
      · exact congrArg (Option.map _) known
      · rfl
    · exact noSlash
  cases negative with
  | false => exact step (.inl rfl)
  | true => exact step (.inr rfl)

/-- A text that begins with the word and has no blanks is read as the step behind the word. -/
theorem read?_now {rest : List Char} (shape : s.toList = 'n' :: 'o' :: 'w' :: rest)
    (solid : ∀ c ∈ s.toList, Text.isBlank c = false) (short : s.length ≤ maxDateLiteralLength) :
    read? s = some (.relative (readStep rest)) := by
  rw [read?, if_neg (Nat.not_lt.2 short), Text.trim_eq_self solid]
  simp only [shape, beginsLikeDate_now, Bool.false_eq_true, if_false]

theorem read?_offset (offset : IsOffset s amount unit) (short : s.length ≤ maxDateLiteralLength) :
    read? s = some (.relative (some (.offset amount unit))) := by
  have solid := offset.solid
  obtain ⟨digits, nonempty, spelled⟩ := offset
  rw [read?_now String.toList_ofList solid short, readStep_offset digits nonempty spelled]

section Reference

variable {now : Timestamp} {m : Moment} (instant : now.instant? = some m)

include instant

/-- A step leads on from the instant of the reference. -/
theorem resolve_relative {step : Option Step} (read : read? s = some (.relative step)) :
    resolve now s = .ok (step.bind m.step?) := by
  rw [resolve, read]
  show (instantOf now).map _ = _
  rw [instantOf_of_instant? instant]
  rfl

/-- An offset is counted from the instant of the reference. -/
theorem resolve_offset (offset : IsOffset s amount unit) (short : s.length ≤ maxDateLiteralLength) :
    resolve now s = .ok (m.offset? amount unit) :=
  resolve_relative instant (read?_offset offset short)

end Reference

/-- What the offsets that are no longer than a literal may be stand for, seen from a reference. -/
structure ExactOffsets (now : Timestamp) (m : Moment) : Prop where
  /-- Every offset has an answer. -/
  answers {s : String} {amount : Int} {unit : OffsetUnit} : IsOffset s amount unit → s.length ≤ maxDateLiteralLength →
    ∃ result, resolve now s = .ok result
  /-- An offset stands for the moment that its amount leads to. -/
  arrives {s : String} {amount : Int} {unit : OffsetUnit} {m' : Moment} : IsOffset s amount unit →
    s.length ≤ maxDateLiteralLength → (resolve now s = .ok (some m') ↔ m.Reaches m' amount unit)
  /-- An offset stands for no date exactly if its amount leads out of the calendar. -/
  leaves {s : String} {amount : Int} {unit : OffsetUnit} : IsOffset s amount unit → s.length ≤ maxDateLiteralLength →
    (resolve now s = .ok none ↔ m.LeavesCalendar amount unit)
  /-- A year is twelve months. -/
  years {s t : String} {amount : Int} : IsOffset s amount .year → s.length ≤ maxDateLiteralLength →
    IsOffset t (12 * amount) .month → t.length ≤ maxDateLiteralLength → resolve now s = resolve now t
  /-- A greater amount stands for a later moment. -/
  increasing {s t : String} {amount more : Int} {unit : OffsetUnit} {earlier later : Moment} : IsOffset s amount unit →
    s.length ≤ maxDateLiteralLength → IsOffset t more unit → t.length ≤ maxDateLiteralLength → amount < more →
    resolve now s = .ok (some earlier) → resolve now t = .ok (some later) → earlier.micros < later.micros

/-- Offsets are exact, whatever the reference, as long as the calendar has its instant. -/
theorem exactOffsets {now : Timestamp} {m : Moment} (instant : now.instant? = some m) : ExactOffsets now m := by
  have arrives {s : String} {amount : Int} {unit : OffsetUnit} {m' : Moment} (offset : IsOffset s amount unit)
      (short : s.length ≤ maxDateLiteralLength) : resolve now s = .ok (some m') ↔ m.Reaches m' amount unit := by
    rw [resolve_offset instant offset short, Except.ok.injEq, Moment.offset?_eq_some_iff]
  refine ⟨?answers, arrives, ?leaves, ?years, ?increasing⟩
  case answers => exact fun offset short => ⟨_, resolve_offset instant offset short⟩
  case leaves =>
    intro s amount unit offset short
    rw [resolve_offset instant offset short, Except.ok.injEq, Moment.offset?_eq_none_iff]
  case years =>
    intro s t amount inYears shortYears inMonths shortMonths
    rw [resolve_offset instant inYears shortYears, resolve_offset instant inMonths shortMonths, Moment.offset?_eq,
      Moment.offset?_eq]
    simp only [OffsetUnit.size, Int.natCast_one, Int.mul_one, Int.mul_comm 12 amount]
    rfl
  case increasing =>
    intro s t amount more unit earlier later offset short further shortFurther greater reached reachedLater
    exact ((arrives offset short).1 reached).lt greater ((arrives further shortFurther).1 reachedLater)

/-- The last day of January, seen from which a month on is the last day of February, and a year on twelve months. -/
theorem exactOffsets_clamped :
    let now : Timestamp := .utc (.midnight ⟨738915, by decide⟩)
    resolve now "now+1M" = .ok (some (.midnight ⟨738944, by decide⟩)) ∧ resolve now "now+1y" = resolve now "now+12M" ∧
      resolve now "now-2024y" = .ok none := by
  intro now
  have laws := exactOffsets (Timestamp.instant?_utc (.midnight ⟨738915, by decide⟩))
  have month : IsOffset "now+1M" 1 .month := isOffset_decimal 1 .month
  have year : IsOffset "now+1y" 1 .year := isOffset_decimal 1 .year
  have months : IsOffset "now+12M" (12 * 1) .month := isOffset_decimal 12 .month
  have digits : Digits ['2', '0', '2', '4'] [2, 0, 2, 4] := rfl
  have past : IsOffset "now-2024y" (-2024) .year := @IsOffset.intro true _ _ .year _ digits (by decide) (.inl rfl)
  refine ⟨(laws.arrives month (by decide)).2 ⟨?_, ?_, ?_⟩, laws.years year (by decide) months (by decide),
    (laws.leaves past (by decide)).2 (.inl ?_)⟩
  -- The month after January, the shorter length of it, midnight, and a year before the first one.
  all_goals decide +kernel

end DateLiteral

end TaskQuery
