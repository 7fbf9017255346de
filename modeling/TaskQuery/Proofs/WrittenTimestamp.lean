import TaskQuery.Proofs.DraftDate

namespace TaskQuery

/-- The offset of a clock that is behind universal time, or ahead of it, by less than a day. -/
def Offset.ofDistance (behind : Bool) (micros : Nat) (bounded : micros < dayMicros) : Offset :=
  ⟨if behind then -(micros : Int) else micros, by
    cases behind
    · exact bounded
    · rwa [if_pos rfl, Int.natAbs_neg]⟩

namespace DateLiteral

/-- The letter for universal time is read as a distance of zero from it. -/
theorem isoTimestamp?_letter {cs : List Char} (solid : ∀ c ∈ cs, Text.isBlank c = false) :
    isoTimestamp? (String.ofList (cs ++ ['Z'])) =
      Iso.readTimestamp? (String.ofList (cs ++ ['+', '0', '0', ':', '0', '0'])) := by
  have all : ∀ c ∈ (String.ofList (cs ++ ['Z'])).toList, Text.isBlank c = false := by
    rw [String.toList_ofList]
    exact List.forall_mem_append.2 ⟨solid, List.forall_mem_singleton.2 (by decide)⟩
  have last : (cs ++ ['Z']).getLast? = some 'Z' := List.getLast?_concat
  rw [isoTimestamp?]
  simp only [Text.trim_eq_self all, String.toList_ofList, last, true_or, if_true, List.dropLast_concat]

end DateLiteral

/-- A timestamp is absent as the date of a task if its clock shows year 1, and otherwise its instant. -/
theorem taskInstant_timestamp {t : Timestamp} {m : Moment} (instant : t.instant? = some m) :
    taskInstant (.datetime t) = .ok (if t.reading.day.year = 1 then none else some m) := by
  rw [taskInstant, DateLiteral.instantOf_of_instant? instant, apply_ite Except.ok]
  rfl

/-- The first day of the calendar is the one whose text stands for no date. -/
theorem isPrefixOf_absentDateText (d : Day) (rest : List Char) :
    absentDateText.isPrefixOf (d.iso ++ rest) = true ↔ d.number = 0 := by
  let first : Day := ⟨0, by decide⟩
  have text : absentDateText = first.iso := by decide
  have front : (d.iso ++ rest).take first.iso.length = d.iso := List.take_left' ((Iso.length_day d).trans (Iso.length_day first).symm)
  rw [List.isPrefixOf_iff_prefix, text, List.prefix_iff_eq_take, front]
  constructor
  · intro same
    have read := Iso.readDate_iso first
    rw [same, Iso.readDate_iso, Option.some.injEq] at read
    rw [read]
  · intro zero
    have same : d = first := Day.eq_of_number zero
    rw [same]

/-- A text that begins with a day is absent as the date of a task if the day is the first one, and otherwise what it is
read as. -/
theorem taskInstant_of_day {s : String} {d : Day} {rest : List Char} (shape : s.toList = d.iso ++ rest) :
    taskInstant (.str s) = if d.number = 0 then .ok none else DateLiteral.isoInstant s := by
  have nonempty : s.isEmpty = false := by
    rw [Bool.eq_false_iff, ne_eq, String.isEmpty_iff]
    rintro rfl
    cases shape
  simp only [taskInstant, nonempty, Bool.false_or, shape, isPrefixOf_absentDateText]

/-- What stands behind a clock time. A distance of zero may have either sign. -/
inductive WrittenZone where
  | none
  | universal
  | distance (behind : Bool) (hours : Fin 24) (minutes : Fin 60)

namespace WrittenZone

def text : WrittenZone → List Char
  | none => []
  | universal => ['Z']
  | distance behind hours minutes =>
    (if behind then '-' else '+') :: (paddedDigits 2 hours ++ ':' :: paddedDigits 2 minutes)

def distanceMicros (hours : Fin 24) (minutes : Fin 60) : Nat :=
  (hours * 3600 + minutes * 60) * secondMicros

theorem distanceMicros_lt (hours : Fin 24) (minutes : Fin 60) : distanceMicros hours minutes < dayMicros := by
  have hour := hours.isLt
  have minute := minutes.isLt
  unfold distanceMicros dayMicros secondMicros
  omega

def offset : WrittenZone → Option Offset
  | none => .none
  | universal => some .zero
  | distance behind hours minutes => some (.ofDistance behind (distanceMicros hours minutes) (distanceMicros_lt hours minutes))

theorem readClock_distance (hours : Fin 24) (minutes : Fin 60) :
    ∃ c, Iso.readClock (paddedDigits 2 hours ++ ':' :: paddedDigits 2 minutes) = some c ∧ c.leftover = false ∧
      c.total = distanceMicros hours minutes := by
  have hour := hours.isLt
  have minute := minutes.isLt
  have nonempty := Iso.paddedDigits_append_ne_nil minutes []
  rw [List.append_nil] at nonempty
  refine ⟨.ofParts [hours, minutes] 0 false, ?_, rfl, ?_⟩
  · rw [Iso.readClock, Iso.readParts_colon (by omega) rfl nonempty, Iso.readParts_last (by omega)]
    rfl
  · simp [Iso.Clock.total, Iso.Clock.ofParts, distanceMicros]

/-- A zone is read as it is written. -/
theorem readsZone_text (z : WrittenZone) : Iso.ReadsZone z.text z.offset := by
  cases z with
  | none => exact .none
  | universal => exact .some rfl rfl
  | distance behind hours minutes =>
    obtain ⟨c, read, complete, total⟩ := readClock_distance hours minutes
    have begins : Iso.beginsZone (if behind then '-' else '+') = true := by
      cases behind <;> rfl
    have noLetter : (if behind then '-' else '+') ≠ 'Z' := by
      cases behind <;> decide
    have sign : ((if behind then '-' else '+') = '-') ↔ behind = true := by
      cases behind <;> decide
    refine .some begins ?_
    rw [Iso.readZone_sign noLetter read complete, total]
    simp only [sign]
    split
    · rename_i short
      -- Less than a second is nothing at all, since a distance has whole minutes.
      have zero : distanceMicros hours minutes = 0 := by
        unfold distanceMicros secondMicros at *
        omega
      simp [Offset.ofDistance, Offset.zero, zero]
    · exact dif_pos (Offset.ofDistance behind _ (distanceMicros_lt hours minutes)).bounded

/-- The characters of a zone are those of dates unless it is the letter. -/
theorem characters (z : WrittenZone) : z = .universal ∨ ∀ c ∈ z.text, c ∈ Draft.isoCharacters := by
  cases z with
  | none => exact .inr (List.forall_mem_nil _)
  | universal => exact .inl rfl
  | distance behind hours minutes =>
    have row (n : Nat) : ∀ c ∈ paddedDigits 2 n, c ∈ Draft.isoCharacters := Draft.paddedDigits_characters 2 n
    exact .inr (List.forall_mem_cons.2 ⟨by cases behind <;> decide, List.forall_mem_append.2
      ⟨row _, List.forall_mem_cons.2 ⟨by decide, row _⟩⟩⟩)

end WrittenZone

/-- A timestamp as it is written. The fraction of a second has six digits where it is there. -/
structure WrittenTimestamp where
  day : Day
  hour : Fin 24
  minute : Fin 60
  second : Fin 60
  fraction : Option (Fin 1000000)
  zone : WrittenZone

namespace WrittenTimestamp

def fractionText : Option (Fin 1000000) → List Char
  | none => []
  | some micros => '.' :: paddedDigits 6 micros

def clockText (w : WrittenTimestamp) : List Char :=
  paddedDigits 2 w.hour ++ ':' :: (paddedDigits 2 w.minute ++ ':' :: (paddedDigits 2 w.second ++ fractionText w.fraction))

def text (w : WrittenTimestamp) : String :=
  String.ofList (w.day.iso ++ 'T' :: (w.clockText ++ w.zone.text))

/-- The microseconds since midnight that the clock shows. -/
def clock (w : WrittenTimestamp) : Nat :=
  (w.hour * 3600 + w.minute * 60 + w.second) * secondMicros + w.fraction.elim 0 Fin.val

theorem clock_lt (w : WrittenTimestamp) : w.clock < dayMicros := by
  have hour := w.hour.isLt
  have minute := w.minute.isLt
  have second := w.second.isLt
  have fraction : w.fraction.elim 0 Fin.val < 1000000 := by
    cases w.fraction with
    | none => decide
    | some micros => exact micros.isLt
  unfold clock dayMicros secondMicros
  omega

/-- What the clock shows on the day. -/
def reading (w : WrittenTimestamp) : Moment :=
  ⟨w.day.number * dayMicros + w.clock, by
    have day := w.day.inRange
    have clock := w.clock_lt
    unfold momentCount dayCount dayMicros secondMicros at *
    omega⟩

def timestamp (w : WrittenTimestamp) : Timestamp :=
  ⟨w.reading, w.zone.offset⟩

theorem day_reading (w : WrittenTimestamp) : w.reading.day = w.day :=
  (Moment.day_clock_of_micros rfl w.clock_lt).1

theorem clock_reading (w : WrittenTimestamp) : w.reading.clock = w.clock :=
  (Moment.day_clock_of_micros rfl w.clock_lt).2

theorem readClock_clockText (w : WrittenTimestamp) :
    ∃ c, Iso.readClock w.clockText = some c ∧ c.leftover = false ∧ c.total = w.clock ∧
      c.hour < 24 ∧ c.minute < 60 ∧ c.second < 60 := by
  have hour := w.hour.isLt
  have minute := w.minute.isLt
  have second := w.second.isLt
  have last : Iso.readParts 1 [↑w.hour, ↑w.minute] (some true) (paddedDigits 2 w.second ++ fractionText w.fraction) =
      some (.ofParts [w.hour, w.minute, w.second] (w.fraction.elim 0 Fin.val) false) := by
    cases w.fraction with
    | none => rw [fractionText, List.append_nil, Iso.readParts_last (by omega)]; rfl
    | some micros => rw [fractionText, Iso.readParts_point (by omega) micros.isLt]; rfl
  refine ⟨.ofParts [w.hour, w.minute, w.second] (w.fraction.elim 0 Fin.val) false, ?_, rfl, ?_, hour, minute, second⟩
  · rw [clockText, Iso.readClock, Iso.readParts_colon (by omega) rfl (Iso.paddedDigits_append_ne_nil _ _),
      Iso.readParts_colon (by omega) rfl (Iso.paddedDigits_append_ne_nil _ _)]
    exact last
  · simp [Iso.Clock.total, Iso.Clock.ofParts, clock]

/-- What holds of the ten digits, the colon and the point holds of a clock time. -/
theorem forall_mem_clockText {property : Char → Prop} (digits : ∀ d < 10, property (Nat.digitChar d)) (colon : property ':')
    (point : property '.') (w : WrittenTimestamp) : ∀ c ∈ w.clockText, property c := by
  have row (width n : Nat) : ∀ c ∈ paddedDigits width n, property c := forall_mem_paddedDigits digits width n
  have fraction : ∀ c ∈ fractionText w.fraction, property c := by
    cases w.fraction with
    | none => exact List.forall_mem_nil _
    | some micros => exact List.forall_mem_cons.2 ⟨point, row 6 micros⟩
  exact List.forall_mem_append.2 ⟨row 2 _, List.forall_mem_cons.2 ⟨colon, List.forall_mem_append.2 ⟨row 2 _,
    List.forall_mem_cons.2 ⟨colon, List.forall_mem_append.2 ⟨row 2 _, fraction⟩⟩⟩⟩⟩

/-- A timestamp is read as what it shows, however it is written. -/
theorem readTimestamp?_text (w : WrittenTimestamp) : Iso.readTimestamp? w.text = some w.timestamp := by
  have noZone : ∀ c ∈ w.clockText, Iso.beginsZone c = false := forall_mem_clockText (by decide) (by decide) (by decide) w
  obtain ⟨c, read, complete, total, hour, minute, second⟩ := w.readClock_clockText
  have moment : Iso.momentAt w.reading.day c = some w.reading :=
    Iso.momentAt_clock (total.trans w.clock_reading.symm) hour minute second
  rw [w.day_reading] at moment
  rw [text, Iso.readTimestamp?_time, Iso.readTime_clock noZone read complete moment w.zone.readsZone_text, timestamp]

theorem toList_text (w : WrittenTimestamp) : w.text.toList = w.day.iso ++ 'T' :: (w.clockText ++ w.zone.text) := by
  rw [text, String.toList_ofList]

/-- The characters up to the zone. -/
theorem front_characters (w : WrittenTimestamp) : ∀ c ∈ w.day.iso ++ 'T' :: w.clockText, c ∈ Draft.isoCharacters := by
  have clock : ∀ c ∈ w.clockText, c ∈ Draft.isoCharacters :=
    forall_mem_clockText Draft.digit_isoCharacters (by decide) (by decide) w
  exact List.forall_mem_append.2 ⟨Draft.day_characters _, List.forall_mem_cons.2 ⟨by decide, clock⟩⟩

theorem toList_text_front (w : WrittenTimestamp) : w.text.toList = (w.day.iso ++ 'T' :: w.clockText) ++ w.zone.text := by
  rw [toList_text, List.append_assoc, List.cons_append]

theorem isoTimestamp?_text (w : WrittenTimestamp) : DateLiteral.isoTimestamp? w.text = some w.timestamp := by
  have front := w.front_characters
  rcases w.zone.characters with universal | plain
  · have letter : w.text = String.ofList ((w.day.iso ++ 'T' :: w.clockText) ++ ['Z']) := by
      rw [← String.ofList_toList (s := w.text), toList_text_front, universal, WrittenZone.text]
    have solid : ∀ c ∈ w.day.iso ++ 'T' :: w.clockText, Text.isBlank c = false :=
      fun c member => Draft.isBlank_isoCharacters c (front c member)
    -- The same timestamp with a distance of zero.
    let w' : WrittenTimestamp := { w with zone := .distance false 0 0 }
    have zero : String.ofList ((w.day.iso ++ 'T' :: w.clockText) ++ ['+', '0', '0', ':', '0', '0']) = w'.text := by
      rw [← String.ofList_toList (s := w'.text), toList_text_front]
      rfl
    rw [letter, DateLiteral.isoTimestamp?_letter solid, zero, readTimestamp?_text]
    simp only [timestamp, universal]
    rfl
  · refine (DateLiteral.isoTimestamp?_of_isoCharacters ?_).trans w.readTimestamp?_text
    rw [toList_text_front]
    exact List.forall_mem_append.2 ⟨front, plain⟩

/-- A written timestamp is read as the instant that it shows. -/
theorem isoInstant_text (w : WrittenTimestamp) :
    DateLiteral.isoInstant w.text = (DateLiteral.instantOf w.timestamp).map some := by
  rw [DateLiteral.isoInstant_eq, isoTimestamp?_text, Option.elim_some]

theorem resolve_text (w : WrittenTimestamp) (short : w.text.length ≤ maxDateLiteralLength) (now : Timestamp) :
    DateLiteral.resolve now w.text = (DateLiteral.instantOf w.timestamp).map some := by
  have zone : ∀ c ∈ w.zone.text, Text.isBlank c = false := by
    rcases w.zone.characters with universal | plain
    · rw [universal]
      exact List.forall_mem_singleton.2 (by decide)
    · exact fun c member => Draft.isBlank_isoCharacters c (plain c member)
  have solid : ∀ c ∈ w.text.toList, Text.isBlank c = false := by
    rw [toList_text_front]
    exact List.forall_mem_append.2
      ⟨fun c member => Draft.isBlank_isoCharacters c (w.front_characters c member), zone⟩
  rw [DateLiteral.resolve_of_date solid w.toList_text short, isoInstant_text]

theorem taskInstant_text (w : WrittenTimestamp) :
    taskInstant (.str w.text) =
      if w.day.number = 0 then .ok none else (DateLiteral.instantOf w.timestamp).map some := by
  rw [taskInstant_of_day w.toList_text, isoInstant_text]

end WrittenTimestamp

end TaskQuery
