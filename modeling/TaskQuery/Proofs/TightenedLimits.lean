import TaskQuery.CommandLine.Invocation
import TaskQuery.Proofs.DraftExamination
import TaskQuery.Query.Run

namespace TaskQuery

/-- Limits that are no wider than others, apart from the length of texts. -/
structure Limits.NarrowerThan (limits held : Limits) : Prop where
  conditions : limits.maxConditions ≤ held.maxConditions
  depth : limits.maxDepth ≤ held.maxDepth
  items : limits.maxArraySize = held.maxArraySize
  warnings : limits.warnConditions = held.warnConditions

/-- A filter of several conditions, or one of a single condition whose texts keep to the limits for short queries. -/
def Filter.Brief (e : Filter) : Prop :=
  e.conditions.length = 1 → ∀ c ∈ e.conditions, ∀ s ∈ Check.texts c.operand.toValue,
    (s.length : Int) ≤ Limits.simple.maxStringLength

section Transfer

variable {limits held : Limits} {now : Timestamp}

theorem Check.kindProblems_congr (items : limits.maxArraySize = held.maxArraySize) (f : Field) (v : Value) :
    kindProblems held now f v = kindProblems limits now f v := by
  simp only [kindProblems, items]

/-- A condition that is legal for some limits is so for others, if its texts are short enough for these. -/
theorem Condition.Legal.held_iff {c : Condition} (legal : c.Legal limits now)
    (items : limits.maxArraySize = held.maxArraySize) :
    c.Legal held now ↔ ∀ s ∈ Check.texts c.operand.toValue, (s.length : Int) ≤ held.maxStringLength := by
  constructor
  · exact fun legal s member => (legal.texts s member).short
  · intro short
    refine ⟨legal.suits, legal.present, ?_, fun s member => ⟨short s member, (legal.texts s member).harmless⟩⟩
    rw [Check.kindProblems_congr items]
    exact legal.fits

theorem Filter.Legal.held_iff {e : Filter} (legal : e.Legal limits now) (narrower : limits.NarrowerThan held) :
    e.Legal held now ↔
      ∀ c ∈ e.conditions, ∀ s ∈ Check.texts c.operand.toValue, (s.length : Int) ≤ held.maxStringLength := by
  constructor
  · intro legal c member
    exact fun s inside => ((legal.conditions c member).texts s inside).short
  · intro short
    refine ⟨legal.nonempty, legal.groups, Int.le_trans legal.depth narrower.depth,
      Int.le_trans legal.count narrower.conditions, fun c member => ?_⟩
    exact ((legal.conditions c member).held_iff narrower.items).2 (short c member)

/-- The verdict on a legal filter: nothing is wrong, and there may be a warning for its size. -/
theorem Filter.Legal.filterVerdict {e : Filter} (legal : e.Legal limits now) :
    Check.filterVerdict limits now e = .ok ⟨[], Check.countWarnings limits e.conditions.length⟩ := by
  obtain ⟨verdict, checked, valid⟩ := Check.filterVerdict_isValid_iff.2 legal
  rw [Check.filterVerdict_eq legal.nonempty legal.depth, if_neg (Int.not_lt.2 legal.count)] at checked
  obtain ⟨problems, found, rfl⟩ := Outcome.map_eq_ok.1 checked
  have none : problems = [] := List.isEmpty_iff.1 valid
  rw [Check.filterVerdict_eq legal.nonempty legal.depth, if_neg (Int.not_lt.2 legal.count), found, none]
  rfl

theorem Check.OffScale.of_narrower {failing : String → Prop} {kind : Kind} {v : Value}
    (items : limits.maxArraySize = held.maxArraySize) (off : OffScale held failing kind v) :
    OffScale limits failing kind v := by
  cases off with
  | number beyond => exact .number beyond
  | date failed => exact .date failed
  | items beyond long =>
    rw [← items] at beyond long
    exact .items beyond long

/-- Whether a filter that was read has a verdict does not depend on the limits, as far as they let its conditions be looked
at and their bounds can be written. -/
theorem Filter.Legal.exists_filterVerdict {e : Filter} (legal : e.Legal limits now) (sound : Filter.Sound e)
    (narrower : limits.NarrowerThan held) (expressible : ∀ v, held.Expressible v) :
    ∃ verdict, Check.filterVerdict held now e = .ok verdict := by
  have few : ¬limits.maxConditions < (e.conditions.length : Int) := Int.not_lt.2 legal.count
  have fewer : ¬held.maxConditions < (e.conditions.length : Int) :=
    Int.not_lt.2 (Int.le_trans legal.count narrower.conditions)
  have within := (Check.exists_filterVerdict_iff sound legal.depth).1 ⟨_, legal.filterVerdict⟩
  rw [if_neg few] at within
  refine (Check.exists_filterVerdict_iff sound (Int.le_trans legal.depth narrower.depth)).2 ?_
  rw [if_neg fewer]
  rintro c member (off | ⟨s, inside, beyond, long⟩)
  · exact within c member (.inl (off.of_narrower narrower.items))
  · exact (expressible _).texts s inside beyond long

end Transfer

namespace Query

open CommandLine (Settings)

/-- The limits of a command line, and those that its bounds make of the standard ones, are no wider than the limits without
any bounds, if the bounds are not above the standard ones. -/
theorem narrowerThan_limitsFor {settings : Settings} {limits? : Option Limits}
    (asked : limits? = settings.limits? ∨ limits? = some (Limits.standard.override
      { maxConditions := settings.maxConditions, maxDepth := settings.maxDepth }))
    (conditions : ∀ n ∈ settings.maxConditions, n ≤ Limits.standard.maxConditions)
    (depth : ∀ n ∈ settings.maxDepth, n ≤ Limits.standard.maxDepth) (e : Filter) :
    (limitsFor limits? e).NarrowerThan (limitsFor none e) ∧
      (limitsFor limits? e).maxStringLength ≤ Limits.standard.maxStringLength := by
  have without : limitsFor none e = .simple ∨ limitsFor none e = .standard := by
    by_cases single : e.conditions.length = 1
    · exact .inl (if_pos single)
    · exact .inr (if_neg single)
  have given : limits? = none ∨ limits? = some (Limits.standard.override
      { maxConditions := settings.maxConditions, maxDepth := settings.maxDepth }) := by
    refine asked.elim (fun same => ?_) .inr
    rw [same, Settings.limits?]
    split
    · exact .inl rfl
    · exact .inr rfl
  rcases given with rfl | rfl
  · refine ⟨⟨Int.le_refl _, Int.le_refl _, rfl, rfl⟩, ?_⟩
    rcases without with simple | standard
    · exact Int.le_trans (Int.le_of_eq (congrArg Limits.maxStringLength simple)) (by decide)
    · exact Int.le_of_eq (congrArg Limits.maxStringLength standard)
  · have few : settings.maxConditions.getD Limits.standard.maxConditions ≤ Limits.standard.maxConditions := by
      cases bound : settings.maxConditions with
      | none => exact Int.le_refl _
      | some n => exact conditions n bound
    have shallow : settings.maxDepth.getD Limits.standard.maxDepth ≤ Limits.standard.maxDepth := by
      cases bound : settings.maxDepth with
      | none => exact Int.le_refl _
      | some n => exact depth n bound
    refine ⟨?_, Int.le_refl _⟩
    rcases without with simple | standard
    · rw [simple]
      exact ⟨few, shallow, rfl, rfl⟩
    · rw [standard]
      exact ⟨few, shallow, rfl, rfl⟩

theorem expressible_limitsFor (e : Filter) (v : Value) : (limitsFor none e).Expressible v := by
  by_cases single : e.conditions.length = 1
  · have simple : limitsFor none e = .simple := if_pos single
    rw [simple]
    exact Limits.expressible_of (by decide +kernel) (by decide +kernel) v
  · have standard : limitsFor none e = .standard := if_neg single
    rw [standard]
    exact Limits.expressible_of (by decide +kernel) (by decide +kernel) v

/-- A text that nothing is found wrong with was read, and its verdict is that of its filter. -/
theorem exists_read_of_examine {limits? : Option Limits} {now : Timestamp} {text : Value} {x : Examination}
    (examined : examine limits? now text = .ok x) (valid : x.verdict.isValid = true) :
    ∃ s e, text = .str s ∧ Check.textProblem? maxFilterLength (.str s) = .ok none ∧ Filter.read s = .ok e ∧ x.filter? = some e ∧
      Check.filterVerdict (limitsFor limits? e) now e = .ok x.verdict := by
  cases text with
  | str s =>
    rcases passed : Check.textProblem? maxFilterLength (.str s) with fault | _ | problem
    · simp only [examine, passed] at examined
      cases examined
    · cases read : Filter.read s with
      | ok e =>
        rw [examine_of_read passed read] at examined
        obtain ⟨verdict, checked, rfl⟩ := Outcome.map_eq_ok.1 examined
        exact ⟨s, e, rfl, passed, read, rfl, checked⟩
      | error failure =>
        simp only [examine, passed, read] at examined
        cases failure with
        | malformed e =>
          cases examined
          cases valid
        | tooManyDigits count => cases examined
    · simp only [examine, passed] at examined
      cases examined
      cases valid
  | _ =>
    cases examined
    cases valid

theorem run_of_read {α : Type} {limits? : Option Limits} {view : α → Value} {clock now : Timestamp} {tasks : List α}
    {s : String} {e : Filter} (passed : Check.textProblem? maxFilterLength (.str s) = .ok none) (read : Filter.read s = .ok e) :
    run limits? view clock now tasks (.str s) = runFilter limits? view clock now tasks e := by
  simp only [run, passed, read]

/-- Bounds that are not above the standard ones only take texts away, but for a single condition with a long text. What is
found valid with such bounds is examined without them as well, as the same filter. It is valid then exactly if it keeps to
the limits for short queries or has several conditions, and there is no difference to be seen in this case: the warnings
are the same, and the same tasks are selected. -/
theorem examine_without_bounds {settings : Settings} {limits? : Option Limits}
    (asked : limits? = settings.limits? ∨ limits? = some (Limits.standard.override
      { maxConditions := settings.maxConditions, maxDepth := settings.maxDepth }))
    (conditions : ∀ n ∈ settings.maxConditions, n ≤ Limits.standard.maxConditions)
    (depth : ∀ n ∈ settings.maxDepth, n ≤ Limits.standard.maxDepth) {now : Timestamp} {text : Value} {x : Examination}
    (examined : examine limits? now text = .ok x) (valid : x.verdict.isValid = true) :
    ∃ e y, x.filter? = some e ∧ examine none now text = .ok y ∧ y.filter? = some e ∧
      (y.verdict.isValid = true ↔ Filter.Brief e) ∧
      (Filter.Brief e → y = x ∧ ∀ {α : Type} (view : α → Value) (reference : Timestamp) (tasks : List α),
        run none view now reference tasks text = run limits? view now reference tasks text) := by
  obtain ⟨s, e, rfl, passed, read, filter, checked⟩ := exists_read_of_examine examined valid
  obtain ⟨narrower, bound⟩ := narrowerThan_limitsFor asked conditions depth e
  have legal := Check.filterVerdict_isValid_iff.1 ⟨_, checked, valid⟩
  obtain ⟨verdict, held⟩ := legal.exists_filterVerdict (Filter.sound_of_read read) narrower (expressible_limitsFor e)
  have brief : e.Legal (limitsFor none e) now ↔ Filter.Brief e := by
    rw [legal.held_iff narrower]
    by_cases single : e.conditions.length = 1
    · have simple : limitsFor none e = .simple := if_pos single
      rw [simple, Filter.Brief, imp_iff_right single]
    · have standard : limitsFor none e = .standard := if_neg single
      rw [standard]
      refine iff_of_true (fun c member t inside => ?_) fun one => absurd one single
      exact Int.le_trans ((legal.conditions c member).texts t inside).short bound
  have without : examine none now (.str s) = .ok ⟨some e, verdict⟩ := by
    rw [examine_of_read passed read, held]
    rfl
  have judged : verdict.isValid = true ↔ e.Legal (limitsFor none e) now := by
    rw [← Check.filterVerdict_isValid_iff, held]
    simp
  refine ⟨e, _, filter, without, rfl, judged.trans brief, fun short => ?_⟩
  -- Both verdicts are the one on a legal filter, and both limits warn of the same number of conditions.
  have same : Check.filterVerdict (limitsFor none e) now e = Check.filterVerdict (limitsFor limits? e) now e := by
    rw [(brief.2 short).filterVerdict, legal.filterVerdict, Check.countWarnings, Check.countWarnings, narrower.warnings]
  refine ⟨?_, fun view reference tasks => ?_⟩
  · obtain ⟨filter?, found⟩ := x
    cases filter
    rw [← same, held] at checked
    cases checked
    rfl
  · rw [run_of_read passed read, run_of_read passed read, runFilter, runFilter, same]

/-- Two conditions under a bound of two. -/
theorem examine_without_bounds_two :
    let now : Timestamp := ⟨⟨0, by decide⟩, none⟩
    let settings : Settings := ⟨.json, some 2, none⟩
    let text := Value.str "title like work || done = true"
    let e : Filter := ⟨[⟨[⟨.title, .like, .one (.str "work")⟩, ⟨.done, .equal, .one (.bool true)⟩], .or⟩], .and⟩
    examine settings.limits? now text = .ok ⟨some e, ⟨[], []⟩⟩ ∧ Filter.Brief e ∧
      examine none now text = .ok ⟨some e, ⟨[], []⟩⟩ := by
  intro now settings text e
  have examined : examine settings.limits? now text = .ok ⟨some e, ⟨[], []⟩⟩ := Outcome.eq_ok_of_toOption (by decide +kernel)
  have conditions : ∀ n ∈ settings.maxConditions, n ≤ Limits.standard.maxConditions := by decide
  have depth : ∀ n ∈ settings.maxDepth, n ≤ Limits.standard.maxDepth := by decide
  obtain ⟨_, y, filter, without, _, _, same⟩ := examine_without_bounds (.inl rfl) conditions depth examined rfl
  cases filter
  have brief : Filter.Brief e := fun single => absurd single (by decide)
  obtain ⟨rfl, _⟩ := same brief
  exact ⟨examined, brief, without⟩

/-- A comparison of the title with the letter `a`, a number of times. -/
def titleOfLetters (n : Nat) : Condition :=
  ⟨.title, .equal, .one (.str (String.ofList (List.replicate n 'a')))⟩

theorem written_titleOfLetters (n : Nat) :
    (titleOfLetters n).written = .ok ("title = \"" ++ String.ofList (List.replicate n 'a') ++ "\"") := by
  have escaped : (List.replicate n 'a').flatMap Written.escape = List.replicate n 'a' := by
    induction n with
    | zero => rfl
    | succ n ih => rw [List.replicate_succ, List.flatMap_cons, ih]; rfl
  have text : (titleOfLetters n).written = .ok
      ("title" ++ " " ++ "=" ++ " " ++ String.ofList (Written.quoted (String.ofList (List.replicate n 'a')).toList)) := rfl
  rw [text, Written.quoted, String.toList_ofList, escaped, Except.ok.injEq, ← String.toList_inj]
  simp

theorem read_titleOfLetters (n : Nat) :
    Filter.read ("title = \"" ++ String.ofList (List.replicate n 'a') ++ "\"") =
      .ok ⟨[⟨[titleOfLetters n], .and⟩], .and⟩ := by
  have noNull : '\x00' ∉ (String.ofList (List.replicate n 'a')).toList := by
    rw [String.toList_ofList]
    exact fun null => absurd (List.eq_of_mem_replicate null) (by decide)
  obtain ⟨text, written, read⟩ := (Condition.read_written_iff (titleOfLetters n)).2 (.string noNull)
  cases written.symm.trans (written_titleOfLetters n)
  exact read

theorem legal_titleOfLetters_iff {limits : Limits} {now : Timestamp} {n : Nat} :
    (titleOfLetters n).Legal limits now ↔ (n : Int) ≤ limits.maxStringLength := by
  have length : (String.ofList (List.replicate n 'a')).length = n := by rw [String.length_ofList, List.length_replicate]
  constructor
  · intro legal
    have short := (legal.texts _ (List.mem_singleton_self _)).short
    rwa [length] at short
  · intro short
    refine ⟨rfl, rfl, rfl, List.forall_mem_singleton.2 ⟨?_, hasDisallowedContent_replicate n⟩⟩
    rwa [length]

/-- A title of 201 characters is valid under the standard bounds, and too long for a single condition without any. -/
theorem examine_bounds_long :
    let now : Timestamp := ⟨⟨0, by decide⟩, none⟩
    let bounds : Limits.Override := { maxConditions := some 50, maxDepth := some 10 }
    let text := "title = \"" ++ String.ofList (List.replicate 201 'a') ++ "\""
    (50 ≤ Limits.standard.maxConditions ∧ 10 ≤ Limits.standard.maxDepth) ∧
      (∃ x, examine (some (Limits.standard.override bounds)) now (.str text) = .ok x ∧ x.verdict.isValid = true) ∧
      ¬∃ x, examine none now (.str text) = .ok x ∧ x.verdict.isValid = true := by
  intro now bounds text
  have read : Filter.read text = .ok ⟨[⟨[titleOfLetters 201], .and⟩], .and⟩ := read_titleOfLetters 201
  have characters (letters : List Char) :
      ("title = \"" ++ String.ofList letters ++ "\"").toList = "title = \"".toList ++ (letters ++ ['"']) := by simp
  have passed : Check.textProblem? maxFilterLength (.str text) = .ok none := by
    rw [Check.textProblem?_eq_none_iff, ← String.length_toList, characters (List.replicate 201 'a')]
    have front : ∀ ch ∈ "title = \"".toList, Check.isForbiddenControl ch = false := Lexeme.forall_mem_of_all (by decide)
    have letters : ∀ ch ∈ List.replicate 201 'a', Check.isForbiddenControl ch = false := by
      intro ch member
      rw [List.eq_of_mem_replicate member]
      decide
    have back : ∀ ch ∈ ['"'], Check.isForbiddenControl ch = false := List.forall_mem_singleton.2 (by decide)
    refine ⟨?_, List.forall_mem_append.2 ⟨front, List.forall_mem_append.2 ⟨letters, back⟩⟩⟩
    rw [List.length_append, List.length_append, List.length_replicate]
    decide
  have alone : [titleOfLetters 201] ≠ [] := List.cons_ne_nil _ _
  refine ⟨by decide, (examine_isValid_iff fun _ => read).2 ⟨passed, ?_⟩, fun found => ?_⟩
  · exact ⟨List.cons_ne_nil _ _, List.forall_mem_singleton.2 alone, by decide, by decide,
      List.forall_mem_singleton.2 (legal_titleOfLetters_iff.2 (by decide))⟩
  · have legal := ((examine_isValid_iff fun _ => read).1 found).2
    have short := legal_titleOfLetters_iff.1 (legal.conditions _ (List.mem_singleton_self _))
    exact absurd short (by decide)

end Query

end TaskQuery
