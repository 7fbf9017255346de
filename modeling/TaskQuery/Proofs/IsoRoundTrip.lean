import TaskQuery.Calendar.IsoReading
import TaskQuery.Calendar.IsoWriting
import TaskQuery.Proofs.MomentShift

namespace TaskQuery

open Text

section Digits

variable {width n : Nat}

theorem length_paddedDigits (width n : Nat) : (paddedDigits width n).length = width := by
  induction width generalizing n with
  | zero => rfl
  | succ width ih => rw [paddedDigits, List.length_append, ih, List.length_singleton]

/-- What holds of the ten digits holds of a row of them. -/
theorem forall_mem_paddedDigits {property : Char → Prop} (digits : ∀ d < 10, property (Nat.digitChar d)) (width n : Nat) :
    ∀ c ∈ paddedDigits width n, property c := by
  induction width generalizing n with
  | zero => exact List.forall_mem_nil _
  | succ width ih =>
    exact List.forall_mem_append.2 ⟨ih _, List.forall_mem_singleton.2 (digits _ (Nat.mod_lt n (by decide)))⟩

theorem forall_mem_isoFraction {property : Char → Prop} (digits : ∀ d < 10, property (Nat.digitChar d))
    (point : property '.') (micros : Nat) : ∀ c ∈ isoFraction micros, property c := by
  unfold isoFraction
  split
  · exact List.forall_mem_nil _
  · exact List.forall_mem_cons.2 ⟨point, forall_mem_paddedDigits digits 6 micros⟩

/-- What holds of the ten digits, the colon and the point holds of a clock reading. -/
theorem forall_mem_isoClock {property : Char → Prop} (digits : ∀ d < 10, property (Nat.digitChar d)) (colon : property ':')
    (point : property '.') (clock : Nat) : ∀ c ∈ isoClock clock, property c := by
  have row (n : Nat) : ∀ c ∈ paddedDigits 2 n, property c := forall_mem_paddedDigits digits 2 n
  exact List.forall_mem_append.2 ⟨row _, List.forall_mem_cons.2 ⟨colon, List.forall_mem_append.2 ⟨row _,
    List.forall_mem_cons.2 ⟨colon, List.forall_mem_append.2 ⟨row _, forall_mem_isoFraction digits point _⟩⟩⟩⟩⟩

theorem asciiDigit?_digitChar : ∀ d < 10, asciiDigit? (Nat.digitChar d) = some d := by
  decide

theorem digitsValue_concat (ds : List Nat) (d : Nat) : digitsValue (ds ++ [d]) = digitsValue ds * 10 + d := by
  rw [digitsValue, List.foldl_append]
  rfl

theorem mapM_paddedDigits (fits : n < 10 ^ width) :
    ∃ ds, (paddedDigits width n).mapM asciiDigit? = some ds ∧ digitsValue ds = n := by
  induction width generalizing n with
  | zero =>
    have zero : n = 0 := by
      rwa [Nat.pow_zero, Nat.lt_one_iff] at fits
    exact ⟨[], rfl, zero.symm⟩
  | succ width ih =>
    have front : n / 10 < 10 ^ width := Nat.div_lt_of_lt_mul (by rwa [Nat.pow_succ'] at fits)
    obtain ⟨ds, read, value⟩ := ih front
    have last := asciiDigit?_digitChar (n % 10) (Nat.mod_lt n (by decide))
    refine ⟨ds ++ [n % 10], ?_, ?_⟩
    · simp [paddedDigits, List.mapM_append, read, last]
    · rw [digitsValue_concat, value, Nat.div_add_mod']

/-- A row of digits is read as the number it was written for. -/
theorem Iso.takeDigits_paddedDigits (fits : n < 10 ^ width) (rest : List Char) :
    takeDigits width (paddedDigits width n ++ rest) = some (n, rest) := by
  obtain ⟨ds, read, value⟩ := mapM_paddedDigits fits
  have front : (paddedDigits width n ++ rest).take width = paddedDigits width n :=
    List.take_left' (length_paddedDigits width n)
  have back : (paddedDigits width n ++ rest).drop width = rest :=
    List.drop_left' (length_paddedDigits width n)
  simp only [takeDigits, front, back, length_paddedDigits, if_true, read, Option.map_some, value]

end Digits

/-- What an offset is read as when it is written: an offset of less than a second is none. -/
def Offset.asRead (offset : Offset) : Offset :=
  if offset.micros.natAbs < secondMicros then .zero else offset

namespace Iso

section Dates

theorem length_day (d : Day) : d.iso.length = 10 := by
  simp [Day.iso, length_paddedDigits]

theorem readDate_iso (d : Day) : readDate d.iso = some d := by
  obtain ⟨⟨-, year, -, month, -, -⟩, -⟩ := d.civil_spec
  have twoDigits {n : Nat} (short : n ≤ 31) (rest : List Char) : takeDigits 2 (paddedDigits 2 n ++ rest) = some (n, rest) :=
    takeDigits_paddedDigits (Nat.lt_of_le_of_lt short (by decide)) rest
  have readYear (rest : List Char) : takeDigits 4 (paddedDigits 4 d.year ++ rest) = some (d.year, rest) :=
    takeDigits_paddedDigits year rest
  have readMonth := twoDigits (Nat.le_trans month (by decide)) ('-' :: paddedDigits 2 d.dayOfMonth)
  have readDay := twoDigits d.dayOfMonth_le []
  rw [List.append_nil] at readDay
  have noWeek (rest : List Char) : paddedDigits 2 d.month ++ '-' :: paddedDigits 2 d.dayOfMonth ≠ 'W' :: rest := by
    intro same
    have front : Nat.digitChar (d.month / 10 % 10) = 'W' := (List.cons.inj same).1
    have digits : ∀ n < 10, Nat.digitChar n ≠ 'W' := by decide
    exact digits _ (Nat.mod_lt _ (by decide)) front
  simp [readDate, Day.iso, readYear, dropMark, readMonth, readDay, d.ofCivil?_civil]

theorem dateLength_iso (d : Day) (rest : List Char) (long : (d.iso ++ rest).length ≠ 7) :
    dateLength (d.iso ++ rest) = 10 := by
  have hyphen : (d.iso ++ rest)[4]? = some '-' := rfl
  have noWeek : (d.iso ++ rest)[5]? ≠ some 'W' := by
    have digits : ∀ n < 10, some (Nat.digitChar n) ≠ some 'W' := by decide
    exact digits (d.month / 10 % 10) (Nat.mod_lt _ (by decide))
  rw [dateLength, if_neg long, if_pos hyphen, if_neg noWeek]

end Dates

section Clocks

variable {more value micros : Nat} {parts : List Nat} {colons : Option Bool}

theorem readFraction_digits (fits : micros < 10 ^ 6) : readFraction (paddedDigits 6 micros) = some (micros, false) := by
  have digits := takeDigits_paddedDigits fits []
  rw [List.append_nil] at digits
  simp [readFraction, length_paddedDigits, digits, isLeftover]

/-- A part of a clock time before a colon. -/
theorem readParts_colon (fits : value < 100) (noPoint : colons.getD true = true) {next : List Char} (further : next ≠ []) :
    readParts (more + 1) parts colons (paddedDigits 2 value ++ ':' :: next) =
      readParts more (parts ++ [value]) (some true) next := by
  obtain ⟨first, others, rfl⟩ := List.exists_cons_of_ne_nil further
  rw [readParts, takeDigits_paddedDigits fits]
  simp [noPoint]

/-- The last part of a clock time without a fraction. -/
theorem readParts_last (fits : value < 100) :
    readParts (more + 1) parts colons (paddedDigits 2 value) = some (.ofParts (parts ++ [value]) 0 false) := by
  have digits : takeDigits 2 (paddedDigits 2 value ++ []) = some (value, []) := takeDigits_paddedDigits fits []
  rw [List.append_nil] at digits
  rw [readParts, digits]

/-- The last part of a clock time with a fraction, which may be zero. -/
theorem readParts_point (fits : value < 100) (small : micros < 10 ^ 6) :
    readParts (more + 1) parts colons (paddedDigits 2 value ++ '.' :: paddedDigits 6 micros) =
      some (.ofParts (parts ++ [value]) micros false) := by
  have fraction := readFraction_digits small
  have nonempty : paddedDigits 6 micros ≠ [] := List.ne_nil_of_length_pos (by rw [length_paddedDigits]; decide)
  obtain ⟨first, others, shape⟩ := List.exists_cons_of_ne_nil nonempty
  rw [readParts, takeDigits_paddedDigits fits]
  rw [shape] at fraction
  simp [shape, fraction]

/-- The last part of a clock time, with a fraction only where there is one. -/
theorem readParts_fraction (fits : value < 100) (small : micros < 10 ^ 6) :
    readParts (more + 1) parts colons (paddedDigits 2 value ++ isoFraction micros) =
      some (.ofParts (parts ++ [value]) micros false) := by
  unfold isoFraction
  split
  · rename_i whole
    rw [List.append_nil, readParts_last fits, whole]
  · exact readParts_point fits small

/-- The hour of a clock reading stands first. -/
theorem readClock_hour {clock : Nat} (inDay : clock < dayMicros) {last : List Char} (nonempty : last ≠ []) :
    readClock (paddedDigits 2 (clock / secondMicros / 3600) ++ ':' :: last) =
      readParts 2 [clock / secondMicros / 3600] (some true) last := by
  have hour : clock / secondMicros / 3600 < 100 := by
    unfold dayMicros secondMicros at *
    omega
  rw [readClock, readParts_colon hour rfl nonempty, List.nil_append]

theorem paddedDigits_append_ne_nil (n : Nat) (rest : List Char) : paddedDigits 2 n ++ rest ≠ [] := by
  simp [paddedDigits]

/-- A clock reading is read as hour, minute, second and fraction. -/
theorem readClock_iso {clock : Nat} (inDay : clock < dayMicros) :
    ∃ c, readClock (isoClock clock) = some c ∧ c.leftover = false ∧ c.total = clock ∧
      c.hour < 24 ∧ c.minute < 60 ∧ c.second < 60 := by
  have minute : clock / secondMicros / 60 % 60 < 60 := Nat.mod_lt _ (by decide)
  have second : clock / secondMicros % 60 < 60 := Nat.mod_lt _ (by decide)
  have fraction : clock % secondMicros < 10 ^ 6 := Nat.mod_lt _ (by decide)
  have read : readClock (isoClock clock) = some (.ofParts [clock / secondMicros / 3600, clock / secondMicros / 60 % 60,
      clock / secondMicros % 60] (clock % secondMicros) false) := by
    rw [isoClock, readClock_hour inDay (paddedDigits_append_ne_nil _ _),
      readParts_colon (Nat.lt_trans minute (by decide)) rfl (paddedDigits_append_ne_nil _ _),
      readParts_fraction (Nat.lt_trans second (by decide)) fraction]
    rfl
  refine ⟨_, read, rfl, ?_, ?_, minute, second⟩
  · simp only [Clock.total, Clock.ofParts, List.getD_cons_zero, List.getD_cons_succ]
    unfold secondMicros
    omega
  · show clock / secondMicros / 3600 < 24
    unfold dayMicros secondMicros at *
    omega

/-- A clock time of whole minutes is read as hour and minute. -/
theorem readClock_minutes {clock : Nat} (inDay : clock < dayMicros) (whole : clock % (60 * secondMicros) = 0) :
    ∃ c, readClock (paddedDigits 2 (clock / secondMicros / 3600) ++ ':' :: paddedDigits 2 (clock / secondMicros / 60 % 60)) =
      some c ∧ c.leftover = false ∧ c.total = clock := by
  have minute : clock / secondMicros / 60 % 60 < 60 := Nat.mod_lt _ (by decide)
  have read : readClock (paddedDigits 2 (clock / secondMicros / 3600) ++ ':' ::
      paddedDigits 2 (clock / secondMicros / 60 % 60)) =
        some (.ofParts [clock / secondMicros / 3600, clock / secondMicros / 60 % 60] 0 false) := by
    rw [← List.append_nil (paddedDigits 2 (_ % 60)), readClock_hour inDay (paddedDigits_append_ne_nil _ _)]
    exact readParts_fraction (Nat.lt_trans minute (by decide)) (by decide : 0 < 10 ^ 6)
  refine ⟨_, read, rfl, ?_⟩
  simp only [Clock.total, Clock.ofParts, List.getD_cons_zero, List.getD_cons_succ, List.getD_nil]
  unfold secondMicros at *
  omega

end Clocks

section Offsets

/-- A zone is read as its sign and its clock time. -/
theorem readZone_sign {sign : Char} (noLetter : sign ≠ 'Z') {cs : List Char} {c : Clock} (clock : readClock cs = some c)
    (complete : c.leftover = false) :
    readZone (sign :: cs) = if c.total < secondMicros then some .zero
      else Offset.ofMicros? (if sign = '-' then -(c.total : Int) else c.total) := by
  simp [readZone, clock, complete]

/-- An offset is written as a sign and a clock time. -/
theorem readClock_offset (offset : Offset) :
    ∃ cs c, offset.iso = (if offset.micros < 0 then '-' else '+') :: cs ∧ readClock cs = some c ∧ c.leftover = false ∧
      c.total = offset.micros.natAbs := by
  by_cases whole : offset.micros.natAbs % (60 * secondMicros) = 0
  · obtain ⟨c, read, complete, total⟩ := readClock_minutes offset.bounded whole
    refine ⟨_, c, ?_, read, complete, total⟩
    simp only [Offset.iso, if_pos whole, List.append_nil]
  · obtain ⟨c, read, complete, total, -⟩ := readClock_iso offset.bounded
    refine ⟨_, c, ?_, read, complete, total⟩
    simp only [Offset.iso, if_neg whole, isoClock]

/-- An offset is read as it is written unless it is less than a second. -/
theorem readZone_iso (offset : Offset) : readZone offset.iso = some offset.asRead := by
  obtain ⟨cs, c, iso, read, complete, total⟩ := readClock_offset offset
  have noLetter : (if offset.micros < 0 then '-' else '+') ≠ 'Z' := by
    split <;> decide
  have sign : ((if offset.micros < 0 then '-' else '+') = '-') ↔ offset.micros < 0 := by
    split <;> simp [*]
  have size : (if offset.micros < 0 then -(offset.micros.natAbs : Int) else offset.micros.natAbs) = offset.micros := by
    split <;> omega
  rw [iso, readZone_sign noLetter read complete, total, Offset.asRead, apply_ite some]
  simp only [sign, size, Offset.ofMicros?, offset.bounded, dif_pos]

end Offsets

section Timestamps

theorem momentAt_clock {m : Moment} {c : Clock} (total : c.total = m.clock) (hour : c.hour < 24) (minute : c.minute < 60)
    (second : c.second < 60) : momentAt m.day c = some m := by
  rw [momentAt, if_pos ⟨hour, minute, second⟩, total]
  exact Moment.at?_eq_some_iff.2 ⟨rfl, rfl⟩

/-- The characters of an offset, none if there is none. -/
def zoneText : Option Offset → List Char
  | none => []
  | some offset => offset.iso

theorem toList_iso (t : Timestamp) :
    t.iso.toList = t.reading.day.iso ++ 'T' :: (isoClock t.reading.clock ++ zoneText t.offset) := by
  rw [Timestamp.iso, Timestamp.isoWith, String.toList_ofList]
  rfl

/-- What is read as a zone behind a clock time: nothing, or a text that begins like a zone. -/
inductive ReadsZone : List Char → Option Offset → Prop
  | none : ReadsZone [] none
  | some {sign : Char} {cs : List Char} {offset : Offset} : beginsZone sign = true → readZone (sign :: cs) = some offset →
      ReadsZone (sign :: cs) (some offset)

/-- A clock time ends where its zone begins. -/
theorem readTime_clock {d : Day} {clock zone : List Char} {c : Clock} {m : Moment} {offset : Option Offset}
    (noZone : ∀ mark ∈ clock, beginsZone mark = false) (read : readClock clock = some c) (complete : c.leftover = false)
    (moment : momentAt d c = some m) (zoned : ReadsZone zone offset) : readTime d (clock ++ zone) = some ⟨m, offset⟩ := by
  have front : (clock ++ zone).takeWhile (!beginsZone ·) = clock := by
    have solid : ∀ mark ∈ clock, (!beginsZone mark) = true := fun mark member => by rw [noZone mark member, Bool.not_false]
    have back : zone.takeWhile (!beginsZone ·) = [] := by
      cases zoned with
      | none => rfl
      | some begins _ => exact List.takeWhile_cons_of_neg (by simp [begins])
    rw [List.takeWhile_append_of_pos solid, back, List.append_nil]
  rw [readTime, front, List.drop_left]
  cases zoned with
  | none => simp [read, moment, complete]
  | some _ zoneRead => simp [read, moment, zoneRead]

theorem readsZone_iso (offset : Option Offset) : ReadsZone (zoneText offset) (offset.map Offset.asRead) := by
  cases offset with
  | none => exact .none
  | some offset =>
    have sign : beginsZone (if offset.micros < 0 then '-' else '+') = true := by
      split <;> rfl
    exact .some sign (readZone_iso offset)

theorem readTime_iso (t : Timestamp) :
    readTime t.reading.day (isoClock t.reading.clock ++ zoneText t.offset) =
      some ⟨t.reading, t.offset.map Offset.asRead⟩ := by
  have noZone : ∀ c ∈ isoClock t.reading.clock, beginsZone c = false :=
    forall_mem_isoClock (by decide) (by decide) (by decide) t.reading.clock
  obtain ⟨c, read, complete, total, hour, minute, second⟩ := readClock_iso t.reading.clock_lt
  exact readTime_clock noZone read complete (momentAt_clock total hour minute second) (readsZone_iso t.offset)

/-- A day is read as it is written, a timestamp at midnight. -/
theorem readTimestamp?_day (d : Day) : readTimestamp? (String.ofList d.iso) = some ⟨.midnight d, none⟩ := by
  have size := length_day d
  have length := dateLength_iso d [] (by simp [size])
  have front : d.iso.take 10 = d.iso := List.take_of_length_le (Nat.le_of_eq size)
  have back : d.iso.drop 10 = [] := List.drop_of_length_le (Nat.le_of_eq size)
  rw [List.append_nil] at length
  simp [readTimestamp?, length, size, front, back, readDate_iso]

/-- Behind a day and a separator stands a time. -/
theorem readTimestamp?_time (d : Day) (separator : Char) (time : List Char) :
    readTimestamp? (String.ofList (d.iso ++ separator :: time)) = readTime d time := by
  have size := length_day d
  have long : 10 < (d.iso ++ separator :: time).length := by
    rw [List.length_append, List.length_cons, size]
    omega
  have length := dateLength_iso d (separator :: time) (by omega)
  rw [readTimestamp?, String.toList_ofList]
  dsimp only
  rw [if_neg (by omega), length, List.take_left' size, List.drop_left' size, readDate_iso]

/-- A timestamp is read as it is written unless its offset is less than a second. -/
theorem readTimestamp?_iso (t : Timestamp) : readTimestamp? t.iso = some ⟨t.reading, t.offset.map Offset.asRead⟩ := by
  rw [← String.ofList_toList (s := t.iso), toList_iso, readTimestamp?_time, readTime_iso]

end Timestamps

end Iso

end TaskQuery
