import TaskQuery.Proofs.LegalCondition
import TaskQuery.Proofs.MomentShift
import TaskQuery.Proofs.TaskAdmission

namespace TaskQuery

namespace Timestamp

/-- Whether the instant of a timestamp lies outside the years 1 to 9999. -/
def BeyondCalendar (t : Timestamp) : Prop :=
  t.instantMicros < 0 ∨ (momentCount : Int) ≤ t.instantMicros

theorem instant?_eq_none_iff {t : Timestamp} : t.instant? = none ↔ t.BeyondCalendar := by
  obtain ⟨reading, offset⟩ := t
  cases offset with
  | none =>
    have inRange := reading.inRange
    refine iff_of_false (Option.some_ne_none _) ?_
    simp only [BeyondCalendar, instantMicros]
    omega
  | some offset => exact Moment.shift?_eq_none_iff

theorem instant?_utc (m : Moment) : (utc m).instant? = some m :=
  instant?_eq_some_iff.2 (Int.sub_zero _)

theorem not_beyondCalendar_utc (m : Moment) : ¬(utc m).BeyondCalendar := by
  rw [← instant?_eq_none_iff, instant?_utc]
  exact Option.some_ne_none m

end Timestamp

namespace DateLiteral

theorem instantOf_eq_error_iff {t : Timestamp} {fault : Fault} :
    instantOf t = .error fault ↔ t.BeyondCalendar ∧ fault = .instantOutOfRange := by
  rw [← Timestamp.instant?_eq_none_iff, instantOf]
  cases t.instant? <;> simp [eq_comm]

theorem instantOf_of_instant? {t : Timestamp} {m : Moment} (instant : t.instant? = some m) : instantOf t = .ok m := by
  rw [instantOf, instant]

theorem instantOf_utc (m : Moment) : instantOf (.utc m) = .ok m :=
  instantOf_of_instant? (Timestamp.instant?_utc m)

/-- The timestamp of an ISO date between blanks; one final `Z` or `z` stands for universal time. -/
def isoTimestamp? (s : String) : Option Timestamp :=
  let cs := (Text.trim s).toList
  Iso.readTimestamp? (String.ofList
    (if cs.getLast? = some 'Z' ∨ cs.getLast? = some 'z' then cs.dropLast ++ ['+', '0', '0', ':', '0', '0'] else cs))

theorem isoInstant_eq (s : String) :
    isoInstant s = (isoTimestamp? s).elim (.ok none) fun t => (instantOf t).map some := by
  unfold isoInstant isoTimestamp?
  dsimp only
  split
  · rename_i unread
    rw [unread]
    rfl
  · rename_i t read
    rw [read, Option.elim_some, instantOf]
    cases t.instant? <;> rfl

end DateLiteral

/-- The timestamp that a value is as the date of a task, where it does not count as absent. -/
def Value.heldTimestamp? : Value → Option Timestamp
  | .datetime t => if t.reading.day.year = 1 then none else some t
  | .date d => some (.utc (.midnight d))
  | .str s => if s.isEmpty || absentDateText.isPrefixOf s.toList then none else DateLiteral.isoTimestamp? s
  | _ => none

theorem taskInstant_eq (v : Value) :
    taskInstant v = v.heldTimestamp?.elim (.ok none) fun t => (DateLiteral.instantOf t).map some := by
  cases v with
  | datetime t =>
    simp only [taskInstant, Value.heldTimestamp?]
    split <;> rfl
  | date d =>
    rw [taskInstant, Value.heldTimestamp?, Option.elim_some, DateLiteral.instantOf_utc]
    rfl
  | str s =>
    simp only [taskInstant, Value.heldTimestamp?]
    split
    · rfl
    · exact DateLiteral.isoInstant_eq s
  | _ => rfl

theorem taskInstant_eq_error_iff {v : Value} {fault : Fault} :
    taskInstant v = .error fault ↔ ∃ t, v.heldTimestamp? = some t ∧ t.BeyondCalendar ∧ fault = .instantOutOfRange := by
  rw [taskInstant_eq]
  cases v.heldTimestamp? with
  | none => simp
  | some t => simp [Outcome.map_eq_error, DateLiteral.instantOf_eq_error_iff]

/-- A date is absent exactly if no timestamp is held. -/
theorem taskInstant_eq_none_iff {v : Value} : taskInstant v = .ok none ↔ v.heldTimestamp? = none := by
  rw [taskInstant_eq]
  cases v.heldTimestamp? with
  | none => exact iff_of_true rfl rfl
  | some t =>
    refine iff_of_false (fun absent => ?_) (Option.some_ne_none t)
    obtain ⟨m, _, same⟩ := Outcome.map_eq_ok.1 absent
    cases same

theorem Value.measure?_eq_error_iff {v : Value} {fault : Fault} :
    v.measure? = .error fault ↔ ∃ n, v = .int n ∧ Double.ofInt? n = none ∧ fault = .numberOutOfRange := by
  cases v with
  | int n =>
    rw [measure?_int]
    cases nearest : Double.ofInt? n with
    | none =>
      constructor
      · intro failed
        cases failed
        exact ⟨n, rfl, nearest, rfl⟩
      · rintro ⟨_, _, _, rfl⟩
        rfl
    | some x =>
      refine iff_of_false (fun failed => by cases failed) ?_
      rintro ⟨m, same, beyond, _⟩
      cases same
      cases nearest.symm.trans beyond
  | _ =>
    refine iff_of_false (fun failed => by cases failed) ?_
    rintro ⟨n, same, _⟩
    cases same

/-- Why a condition gives no answer for a task: the task holds an integer beyond the doubles, or a date beyond the calendar,
or its date is to be compared with such a date by day. -/
inductive Condition.OutOfReach (task : Value) (c : Condition) : Fault → Prop
  | number {n : Int} : c.field.kind = .number → Match.fieldValue task c.field = .int n → Double.ofInt? n = none →
      OutOfReach task c .numberOutOfRange
  | held {t : Timestamp} : c.field.kind = .date → (Match.fieldValue task c.field).heldTimestamp? = some t →
      t.BeyondCalendar → OutOfReach task c .instantOutOfRange
  | asked {t asked : Timestamp} : c.field.kind = .date → (Match.fieldValue task c.field).heldTimestamp? = some t →
      c.operator = .equal ∨ c.operator = .notEqual → c.operand = .one (.datetime asked) → asked.BeyondCalendar →
      OutOfReach task c .instantOutOfRange

namespace Match

variable {now : Timestamp} {op : Operator} {fault : Fault}

theorem sameDay_utc (m : Moment) (target : Timestamp) :
    sameDay (.utc m) target = (DateLiteral.instantOf target).map fun other => decide (m.day = other.day) := by
  simp only [sameDay, DateLiteral.instantOf_utc]
  cases DateLiteral.instantOf target <;> rfl

section Day

variable {expected : Operand} {target : Timestamp} (resolved : targetOf now expected = .ok (some target)) (actual : Timestamp)

include resolved

theorem compareDates_equal : compareDates now (some .equal) actual expected = sameDay actual target := by
  simp only [compareDates, resolved]
  rfl

theorem compareDates_notEqual :
    compareDates now (some .notEqual) actual expected = (sameDay actual target).map not := by
  simp only [compareDates, resolved]
  show (sameDay actual target >>= fun same => .ok !same) = _
  cases sameDay actual target <;> rfl

end Day

/-- A date is compared with another one without a fault, unless it is by day and the other one is beyond the calendar. -/
theorem compareDates_eq_error_iff {m : Moment} {expected : Operand} {target : Timestamp}
    (resolved : targetOf now expected = .ok (some target)) (suits : Kind.date.allows op = true) :
    compareDates now (some op) (.utc m) expected = .error fault ↔
      (op = .equal ∨ op = .notEqual) ∧ target.BeyondCalendar ∧ fault = .instantOutOfRange := by
  have byDay : sameDay (.utc m) target = .error fault ↔ target.BeyondCalendar ∧ fault = .instantOutOfRange := by
    rw [sameDay_utc, Outcome.map_eq_error, DateLiteral.instantOf_eq_error_iff]
  cases op with
  | equal =>
    rw [compareDates_equal resolved, byDay]
    simp
  | notEqual =>
    rw [compareDates_notEqual resolved, Outcome.map_eq_error, byDay]
    simp
  | like | isIn | notIn => cases suits
  | _ =>
    simp only [compareDates, resolved]
    refine iff_of_false (fun failed => by cases failed) ?_
    rintro ⟨same | same, _⟩ <;> cases same

end Match

theorem Double.isNumber_of_isFinite {x : Double} (finite : x.isFinite = true) : x.isNumber = true := by
  cases x with
  | nan => cases finite
  | infinite => cases finite
  | finite => rfl

namespace Condition.Legal

variable {limits : Limits} {clock now : Timestamp} {c : Condition} {fault : Fault}

/-- A boolean field is compared with a truth value or the text of one. -/
theorem exists_truth (legal : c.Legal limits clock) (kind : c.field.kind = .boolean) :
    ∃ b, Match.isTrue c.operand = .ok b := by
  have truth := (Check.kindProblems_boolean_eq_nil_iff kind).1 legal.fits
  cases operand : c.operand with
  | many items =>
    rw [operand] at truth
    cases truth
  | one v =>
    rw [operand] at truth
    cases v with
    | bool | str => exact ⟨_, rfl⟩
    | _ => cases truth

/-- A text field is compared with a text. -/
theorem exists_text (legal : c.Legal limits clock) (kind : c.field.kind = .string) : ∃ s, c.operand = .one (.str s) := by
  have text := legal.fits
  simp only [Check.kindProblems, kind] at text
  cases operand : c.operand with
  | many items =>
    rw [operand] at text
    cases text
  | one v =>
    rw [operand] at text
    cases v with
    | str s => exact ⟨s, rfl⟩
    | _ => cases text

/-- A number field is compared with a finite number. -/
theorem exists_measure (legal : c.Legal limits clock) (kind : c.field.kind = .number) :
    ∃ y, Match.measureOf c.operand = .ok (some y) := by
  have checked := (Check.kindProblems_number_eq_nil_iff kind).1 legal.fits
  cases operand : c.operand with
  | many items =>
    rw [operand] at checked
    cases checked
  | one v =>
    rw [operand] at checked
    have finite : Check.isFiniteNumber v = .ok true := checked
    cases v with
    | int n =>
      cases nearest : Double.ofInt? n with
      | none =>
        rw [Check.isFiniteNumber, nearest] at finite
        cases finite
      | some y =>
        refine ⟨y, ?_⟩
        show (Value.int n).measure? = .ok (some y)
        rw [Value.measure?_int, nearest]
        rfl
    | float x =>
      have number : x.isNumber = true := Double.isNumber_of_isFinite (Except.ok.inj finite)
      exact ⟨x, by rw [Match.measureOf, Value.measure?_float, if_pos number]⟩
    | str s =>
      have some : (readMeasure? s).any Double.isFinite = true := Except.ok.inj finite
      cases read : readMeasure? s with
      | none =>
        rw [read] at some
        cases some
      | some x =>
        rw [read] at some
        have number : x.isNumber = true := Double.isNumber_of_isFinite some
        refine ⟨x, ?_⟩
        show Except.ok ((readMeasure? s).filter Double.isNumber) = .ok (Option.some x)
        rw [read, Option.filter_some, if_pos number]
    | _ => cases finite

/-- A date field is compared with a day, a timestamp, or a text that resolves as a date literal. -/
theorem exists_date (legal : c.Legal limits clock) (kind : c.field.kind = .date) :
    ∃ v, c.operand = .one v ∧ Check.isDate clock v = .ok true := by
  have checked := (Check.kindProblems_date_eq_nil_iff kind).1 legal.fits
  cases operand : c.operand with
  | one v =>
    rw [operand] at checked
    exact ⟨v, rfl, checked⟩
  | many items =>
    rw [operand] at checked
    cases checked

end Condition.Legal

/-- A literal that resolves at one time has no fault at another. -/
theorem DateLiteral.exists_resolve {clock now : Timestamp} {s : String} (resolvable : isResolvable clock s = .ok true)
    (reached : ¬now.BeyondCalendar) : ∃ target?, resolve now s = .ok target? := by
  obtain ⟨found, resolved, some⟩ := Outcome.map_eq_ok.1 resolvable
  unfold resolve at resolved ⊢
  cases literal : read? s with
  | none => exact ⟨none, rfl⟩
  | some literal' =>
    rw [literal] at resolved
    cases literal' with
    | iso text => exact ⟨found, resolved⟩
    | relative step =>
      cases instant : instantOf now with
      | error fault => exact absurd (instantOf_eq_error_iff.1 instant).1 reached
      | ok m => exact ⟨step.bind m.step?, by simp only [resolveFrom, instant]; rfl⟩

/-- What a legal date operand is compared as: nothing, a timestamp within the calendar, or the timestamp that it is. -/
theorem Match.exists_target {clock now : Timestamp} {v : Value} (date : Check.isDate clock v = .ok true)
    (reached : ¬now.BeyondCalendar) :
    ∃ target?, targetOf now (.one v) = .ok target? ∧ ∀ target, target? = some target →
      (target.BeyondCalendar ↔ ∃ asked, v = .datetime asked ∧ asked.BeyondCalendar) := by
  cases v with
  | datetime t =>
    refine ⟨_, rfl, fun target same => ?_⟩
    cases same
    have instant : Timestamp.instantMicros { t with offset := some (t.offset.getD .zero) } = t.instantMicros := by
      obtain ⟨reading, offset⟩ := t
      cases offset with
      | none => exact Int.sub_zero _
      | some offset => rfl
    simp only [Timestamp.BeyondCalendar, instant, Value.datetime.injEq, exists_eq_left']
  | date d =>
    refine ⟨_, rfl, fun target same => ?_⟩
    cases same
    exact iff_of_false (Timestamp.not_beyondCalendar_utc _) (by rintro ⟨_, same, _⟩; cases same)
  | str s =>
    obtain ⟨instant?, resolved⟩ := DateLiteral.exists_resolve date reached
    have target : targetOf now (.one (.str s)) = .ok (instant?.map .utc) := by
      rw [targetOf_text, resolved]
      rfl
    refine ⟨_, target, fun target same => ?_⟩
    obtain ⟨m, _, rfl⟩ := Option.map_eq_some_iff.1 same
    exact iff_of_false (Timestamp.not_beyondCalendar_utc _) (by rintro ⟨_, same, _⟩; cases same)
  | _ => cases date

namespace Condition

variable {limits : Limits} {clock now : Timestamp} {c : Condition} {task : Value} {fault : Fault}

theorem OutOfReach.kind (out : c.OutOfReach task fault) : c.field.kind = .number ∨ c.field.kind = .date := by
  cases out with
  | number kind => exact .inl kind
  | held kind | asked kind => exact .inr kind

theorem OutOfReach.eq_of_date (out : c.OutOfReach task fault) (kind : c.field.kind = .date) :
    fault = .instantOutOfRange := by
  cases out with
  | number other => cases kind.symm.trans other
  | held | asked => rfl

/-- A condition on a date that is not held, or not beyond the calendar, is out of reach by its own date only. -/
theorem OutOfReach.asked_of_date (out : c.OutOfReach task fault) (kind : c.field.kind = .date) {instant : Option Moment}
    (held : taskInstant (Match.fieldValue task c.field) = .ok instant) :
    ∃ asked, instant ≠ none ∧ (c.operator = .equal ∨ c.operator = .notEqual) ∧ c.operand = .one (.datetime asked) ∧
      asked.BeyondCalendar := by
  cases out with
  | number other => cases kind.symm.trans other
  | held _ timestamp beyond =>
    have failed := taskInstant_eq_error_iff.2 ⟨_, timestamp, beyond, rfl⟩
    cases held.symm.trans failed
  | @asked t asked _ timestamp byDay operand beyond =>
    refine ⟨asked, ?_, byDay, operand, beyond⟩
    rintro rfl
    cases (taskInstant_eq_none_iff.1 held).symm.trans timestamp

theorem Legal.date_eq_error_iff (legal : c.Legal limits clock) (kind : c.field.kind = .date) (reached : ¬now.BeyondCalendar) :
    Match.compareHeld now .date c.operator (Match.fieldValue task c.field) c.operand = .error fault ↔
      c.OutOfReach task fault := by
  obtain ⟨v, operand, date⟩ := legal.exists_date kind
  obtain ⟨target?, resolved, beyond⟩ := Match.exists_target date reached
  have suits := legal.suits
  rw [kind] at suits
  rw [← operand] at resolved
  cases held : taskInstant (Match.fieldValue task c.field) with
  | error fault' =>
    obtain ⟨t, timestamp, outside, rfl⟩ := taskInstant_eq_error_iff.1 held
    rw [Match.compareHeld_date_of_error held]
    constructor
    · intro same
      cases same
      exact .held kind timestamp outside
    · exact fun out => by rw [out.eq_of_date kind]
  | ok instant =>
    cases instant with
    | none =>
      rw [Match.compareHeld_date_of_absent held]
      refine iff_of_false (fun failed => by cases failed) fun out => ?_
      obtain ⟨_, present, _⟩ := out.asked_of_date kind held
      exact present rfl
    | some m =>
      rw [Match.compareHeld_date_of_instant held]
      cases target? with
      | none =>
        rw [Match.compareDates_of_unresolved resolved]
        refine iff_of_false (fun failed => by cases failed) fun out => ?_
        obtain ⟨asked, _, _, same, _⟩ := out.asked_of_date kind held
        rw [same] at resolved
        cases resolved
      | some target =>
        rw [Match.compareDates_eq_error_iff resolved suits, beyond target rfl]
        constructor
        · rintro ⟨byDay, ⟨asked, rfl, outside⟩, rfl⟩
          have present : (Match.fieldValue task c.field).heldTimestamp? ≠ none := by
            rw [ne_eq, ← taskInstant_eq_none_iff, held]
            intro same
            cases same
          obtain ⟨t, timestamp⟩ := Option.ne_none_iff_exists'.1 present
          exact .asked kind timestamp byDay operand outside
        · intro out
          obtain ⟨asked, _, byDay, same, outside⟩ := out.asked_of_date kind held
          rw [same] at operand
          cases operand
          exact ⟨byDay, ⟨asked, rfl, outside⟩, out.eq_of_date kind⟩

/-- A condition that no check objects to gives no answer for a task exactly if it is out of reach there. -/
theorem Legal.holds_eq_error_iff (legal : c.Legal limits clock) (reached : ¬now.BeyondCalendar)
    (readable : c.field.kind = .string → ∃ text, Match.heldText (Match.fieldValue task c.field) = .ok text)
    (enumerable : c.field.kind = .array → ∃ ids, Match.identities (Match.fieldValue task c.field) = .ok ids) :
    c.holds now task = .error fault ↔ c.OutOfReach task fault := by
  have suits := legal.suits
  rw [holds_of_allows suits]
  have within (number : c.field.kind ≠ .number) (date : c.field.kind ≠ .date) : ¬c.OutOfReach task fault :=
    fun out => out.kind.elim number date
  cases kind : c.field.kind with
  | boolean =>
    obtain ⟨b, truth⟩ := legal.exists_truth kind
    rw [kind] at suits within
    have byValue : c.operator = .equal ∨ c.operator = .notEqual := by simpa [Kind.allows] using suits
    refine iff_of_false (fun failed => ?_) (within (by decide) (by decide))
    rw [Match.compareHeld, truth] at failed
    rcases byValue with op | op
    · rw [op] at failed
      cases failed
    · rw [op] at failed
      cases failed
  | number =>
    obtain ⟨y, target⟩ := legal.exists_measure kind
    rw [Match.compareHeld_number target, Outcome.map_eq_error, Value.measure?_eq_error_iff]
    constructor
    · rintro ⟨n, held, beyond, rfl⟩
      exact .number kind held beyond
    · intro out
      cases out with
      | number _ held beyond => exact ⟨_, held, beyond, rfl⟩
      | held other | asked other => cases kind.symm.trans other
  | date => exact legal.date_eq_error_iff kind reached
  | string =>
    obtain ⟨text, found⟩ := readable kind
    obtain ⟨s, operand⟩ := legal.exists_text kind
    rw [kind] at within
    refine iff_of_false (fun failed => ?_) (within (by decide) (by decide))
    rw [Match.compareHeld, found, operand] at failed
    cases failed
  | array =>
    obtain ⟨ids, found⟩ := enumerable kind
    rw [kind] at within
    refine iff_of_false (fun failed => ?_) (within (by decide) (by decide))
    rw [Match.compareHeld, found] at failed
    cases failed

end Condition

section Pass

variable {α : Type} {test : α → Except Fault Bool} {fault : Fault}

theorem exists_of_allPass_eq_error {as : List α} (failed : allPass test as = .error fault) :
    ∃ a ∈ as, test a = .error fault := by
  induction as with
  | nil => cases failed
  | cons a as ih =>
    rw [allPass] at failed
    cases first : test a with
    | error fault' =>
      rw [first] at failed
      cases failed
      exact ⟨a, List.mem_cons_self, first⟩
    | ok met =>
      rw [first] at failed
      cases met with
      | false => cases failed
      | true =>
        obtain ⟨b, later, here⟩ := ih failed
        exact ⟨b, List.mem_cons_of_mem a later, here⟩

theorem exists_of_somePass_eq_error {as : List α} (failed : somePass test as = .error fault) :
    ∃ a ∈ as, test a = .error fault := by
  induction as with
  | nil => cases failed
  | cons a as ih =>
    rw [somePass] at failed
    cases first : test a with
    | error fault' =>
      rw [first] at failed
      cases failed
      exact ⟨a, List.mem_cons_self, first⟩
    | ok met =>
      rw [first] at failed
      cases met with
      | true => cases failed
      | false =>
        obtain ⟨b, later, here⟩ := ih failed
        exact ⟨b, List.mem_cons_of_mem a later, here⟩

theorem Joiner.exists_of_pass_eq_error {j : Joiner} {as : List α} (failed : j.pass test as = .error fault) :
    ∃ a ∈ as, test a = .error fault := by
  cases j with
  | and => exact exists_of_allPass_eq_error failed
  | or => exact exists_of_somePass_eq_error failed

/-- The fault of an expression is the fault of one of its conditions. -/
theorem Expression.exists_of_pass_eq_error {γ : Type} {test : γ → Except Fault Bool} {e : Expression γ}
    (failed : e.pass test = .error fault) : ∃ c ∈ e.conditions, test c = .error fault := by
  obtain ⟨g, member, failed⟩ := Joiner.exists_of_pass_eq_error failed
  obtain ⟨c, inside, failed⟩ := Joiner.exists_of_pass_eq_error failed
  exact ⟨c, List.mem_flatMap.2 ⟨g, member, inside⟩, failed⟩

end Pass

/-- The texts of an admitted task are texts, in the dictionary as in the record, or missing. -/
theorem Admission.exists_heldText {v task : Value} {t : TaskRecord} (admitted : Admission.task v = .ok t)
    (seen : task = v ∨ task = t.toValue) {f : Field} (string : f.kind = .string) :
    ∃ text, Match.heldText (Match.fieldValue task f) = .ok text := by
  obtain ⟨entries, rfl, form⟩ := Admission.task_eq_ok_iff.1 admitted
  have written {key : String} {x : Option String} (entry : withDefault key none (optional text) entries = .ok x) :
      ∃ text, Match.heldText (Match.part (.dict entries) key) = .ok text := by
    rcases optionalEntry_eq_ok_iff.1 entry with ⟨missing, _⟩ | ⟨_, s, found, _⟩
    · exact ⟨"", by rw [missing]; rfl⟩
    · cases held : Match.part (.dict entries) key with
      | str s => exact ⟨s, rfl⟩
      | _ =>
        rw [held] at found
        cases found
  have held (x : Option String) : ∃ text, Match.heldText (.ofOption .str x) = .ok text := by
    cases x <;> exact ⟨_, rfl⟩
  rcases seen with rfl | rfl
  · rw [Match.fieldValue_of_sameKey (by cases f <;> first | rfl | cases string)]
    cases f with
    | title => exact written form.title
    | description => exact written form.description
    | _ => cases string
  · rw [t.fieldValue_toValue]
    cases f with
    | title | description => exact held _
    | _ => cases string

/-- The relations of an admitted task are lists, in the dictionary as in the record. -/
theorem Admission.exists_identities {v task : Value} {t : TaskRecord} (admitted : Admission.task v = .ok t)
    (seen : task = v ∨ task = t.toValue) {f : Field} (array : f.kind = .array) :
    ∃ ids, Match.identities (Match.fieldValue task f) = .ok ids := by
  obtain ⟨entries, rfl, form⟩ := Admission.task_eq_ok_iff.1 admitted
  have listed {α : Type} {accept : Value → Admission α} {key : String} {xs : List α}
      (relation : withDefault key [] (relation accept) entries = .ok xs) :
      ∃ ids, Match.identities (Match.part (.dict entries) key) = .ok ids := by
    rcases relationEntry_eq_ok_iff.1 relation with ⟨missing, _⟩ | ⟨vs, found, _⟩
    · exact ⟨[], by rw [missing]; rfl⟩
    · exact ⟨_, by rw [found, Match.identities_list]⟩
  rcases seen with rfl | rfl
  · rw [Match.fieldValue_of_sameKey (by cases f <;> first | rfl | cases array)]
    cases f with
    | assignees => exact listed form.assignees
    | labels => exact listed form.labels
    | _ => cases array
  · rw [t.fieldValue_toValue]
    cases f with
    | assignees => exact ⟨_, Match.identities_list _⟩
    | labels => exact ⟨_, Match.identities_list _⟩
    | _ => cases array

/-- Whether an unchecked condition stands for one that is out of reach. -/
def Unchecked.Condition.OutOfReach (task : Value) (c : Unchecked.Condition) (fault : Fault) : Prop :=
  ∃ known, c.known? = some known ∧ known.OutOfReach task fault

namespace Unchecked

variable {limits : Limits} {clock now : Timestamp} {task : Value} {fault : Fault}

/-- A condition is known to be the one that it is checked as. -/
theorem Condition.meant?_of_known {c : Condition} {known : TaskQuery.Condition} (found : c.known? = some known) :
    c.meant? = some known := by
  obtain ⟨field, operator, operand⟩ := known?_eq_some_iff.1 found
  refine meant?_eq_some_iff.2 ⟨field, ?_, operand⟩
  rw [operator, Operator.ofSpelling?_symbol]

theorem Condition.holds_eq_error_iff {c : Condition} {meant : TaskQuery.Condition} (stands : c.meant? = some meant)
    (legal : meant.Legal limits clock) (reached : ¬now.BeyondCalendar)
    (readable : ∀ f : Field, f.kind = .string → ∃ text, Match.heldText (Match.fieldValue task f) = .ok text)
    (enumerable : ∀ f : Field, f.kind = .array → ∃ ids, Match.identities (Match.fieldValue task f) = .ok ids) :
    c.holds now task = .error fault ↔ c.OutOfReach task fault := by
  unfold holds OutOfReach
  cases found : c.known? with
  | none =>
    refine iff_of_false (fun failed => by cases failed) ?_
    rintro ⟨_, known, _⟩
    cases known
  | some known =>
    cases stands.symm.trans (meant?_of_known found)
    simp only [Option.some.injEq, exists_eq_left']
    exact legal.holds_eq_error_iff reached (readable _) (enumerable _)

theorem Expression.conditions_joined (e : Expression) : e.joined.conditions = e.conditions := by
  simp only [joined, conditions, TaskQuery.Expression.conditions, List.flatMap_map]

/-- A valid expression gives its answer for every admitted task, as a dictionary and as a record, at every time within the
calendar, unless it fails with the fault of a condition that is out of reach for the task. Each of its conditions fails
exactly if it is out of reach. -/
theorem Expression.holds_of_valid {e : Expression} {verdict : Verdict} {v : Value} {t : TaskRecord}
    (checked : Check.treeVerdict limits clock e = .ok verdict) (valid : verdict.isValid = true)
    (admitted : Admission.task v = .ok t) (seen : task = v ∨ task = t.toValue) (reached : ¬now.BeyondCalendar) :
    ((∃ answer, e.holds now task = .ok answer) ∨
      ∃ fault, e.holds now task = .error fault ∧ ∃ c ∈ e.conditions, c.OutOfReach task fault) ∧
    ∀ c ∈ e.conditions, ∀ fault, c.holds now task = .error fault ↔ c.OutOfReach task fault := by
  have each : ∀ c ∈ e.conditions, ∀ fault, c.holds now task = .error fault ↔ c.OutOfReach task fault := by
    intro c member fault
    obtain ⟨meant, stands, legal⟩ := Check.legal_of_treeVerdict checked valid c member
    exact c.holds_eq_error_iff stands legal reached (fun f string => Admission.exists_heldText admitted seen string)
      fun f array => Admission.exists_identities admitted seen array
  refine ⟨?_, each⟩
  cases outcome : e.holds now task with
  | ok answer => exact .inl ⟨answer, rfl⟩
  | error fault =>
    obtain ⟨c, member, failed⟩ := TaskQuery.Expression.exists_of_pass_eq_error outcome
    rw [e.conditions_joined] at member
    exact .inr ⟨fault, rfl, c, member, (each c member fault).1 failed⟩

/-- A task whose number and date are within reach. -/
theorem Expression.holds_of_valid_dated :
    let now : Timestamp := ⟨⟨0, by decide⟩, none⟩
    let v := Value.dict [("priority", .int 3), ("due_date", .str "2024-05-01T23:30:00-01:00")]
    let t : TaskRecord :=
      ⟨none, none, none, false, some 3, none, some (.text "2024-05-01T23:30:00-01:00"), none, none, none, [], []⟩
    let e : Expression :=
      ⟨[⟨[⟨"priority", ">", .one (.int 1)⟩, ⟨"dueDate", "=", .one (.str "2024-05-02")⟩], "&&"⟩], "&&"⟩
    Check.treeVerdict {} now e = .ok ⟨[], []⟩ ∧ Admission.task v = .ok t ∧ ¬now.BeyondCalendar ∧
      ∃ answer, e.holds now t.toValue = .ok answer := by
  intro now v t e
  have checked : Check.treeVerdict {} now e = .ok ⟨[], []⟩ := by decide +kernel
  have admitted : Admission.task v = .ok t := by decide +kernel
  have reached : ¬now.BeyondCalendar := fun beyond => beyond.elim (by decide) (by decide)
  refine ⟨checked, admitted, reached, ?_⟩
  obtain ⟨outcome, each⟩ := Expression.holds_of_valid checked rfl admitted (.inr rfl) reached
  refine outcome.resolve_right ?_
  rintro ⟨fault, -, c, member, out⟩
  have answers : ∀ c ∈ e.conditions, c.holds now t.toValue = .ok true := by decide +kernel
  cases (answers c member).symm.trans ((each c member fault).2 out)

/-- A valid expression fails for an admitted task with an integer beyond the doubles, and another one for a date that is
beyond the calendar in universal time. -/
theorem Expression.valid_fails :
    let now : Timestamp := ⟨⟨0, by decide⟩, none⟩
    let urgent : Expression := ⟨[⟨[⟨"priority", ">", .one (.int 1)⟩], "&&"⟩], "&&"⟩
    let due : Expression := ⟨[⟨[⟨"dueDate", ">", .one (.str "now")⟩], "&&"⟩], "&&"⟩
    let large : TaskRecord := ⟨none, none, none, false, some (2 ^ 1024), none, none, none, none, none, [], []⟩
    let late : TaskRecord :=
      ⟨none, none, none, false, none, none, some (.text "9999-12-31T23:59:59-01:00"), none, none, none, [], []⟩
    Check.treeVerdict {} now urgent = .ok ⟨[], []⟩ ∧ Admission.task (.dict [("priority", .int (2 ^ 1024))]) = .ok large ∧
      urgent.holds now large.toValue = .error .numberOutOfRange ∧
      Check.treeVerdict {} now due = .ok ⟨[], []⟩ ∧
      Admission.task (.dict [("due_date", .str "9999-12-31T23:59:59-01:00")]) = .ok late ∧
      due.holds now late.toValue = .error .instantOutOfRange ∧ ¬now.BeyondCalendar := by
  intro now urgent due large late
  have reached : ¬now.BeyondCalendar := fun beyond => beyond.elim (by decide) (by decide)
  have overflow : Check.treeVerdict {} now urgent = .ok ⟨[], []⟩ ∧
      Admission.task (.dict [("priority", .int (2 ^ 1024))]) = .ok large ∧
      urgent.holds now large.toValue = .error .numberOutOfRange := by decide +kernel
  have leaves : Check.treeVerdict {} now due = .ok ⟨[], []⟩ ∧
      Admission.task (.dict [("due_date", .str "9999-12-31T23:59:59-01:00")]) = .ok late ∧
      due.holds now late.toValue = .error .instantOutOfRange := by decide +kernel
  exact ⟨overflow.1, overflow.2.1, overflow.2.2, leaves.1, leaves.2.1, leaves.2.2, reached⟩

end Unchecked

end TaskQuery
