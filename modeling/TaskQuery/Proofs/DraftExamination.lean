import TaskQuery.Proofs.DisallowedContent
import TaskQuery.Proofs.DraftDate
import TaskQuery.Proofs.DraftReading
import TaskQuery.Proofs.Judgement

namespace TaskQuery

open Grammar Lexeme

theorem Text.stripWhere_concat {drop : Char → Bool} {c : Char} (dropped : drop c = true) (cs : List Char) :
    stripWhere drop (cs ++ [c]) = stripWhere drop cs := by
  rw [stripWhere, stripWhere, List.dropWhile_append]
  split
  · rename_i all
    simp [List.isEmpty_iff.1 all, dropped]
  · simp [dropped]

theorem Text.trim_dropFinalNewline (s : String) : Text.trim (String.ofList (dropFinalNewline s.toList)) = Text.trim s := by
  rw [trim, trim, String.toList_ofList]
  rcases dropFinalNewline_cases s.toList with same | longer
  · rw [same]
  · have blank : isBlank '\n' = true := by decide
    rw [longer, stripWhere_concat blank, ← longer]

namespace DateLiteral

variable {now : Timestamp} {s : String}

theorem length_le_of_isResolvable (resolves : isResolvable now s = .ok true) : s.length ≤ maxDateLiteralLength := by
  refine Nat.le_of_not_lt fun long => ?_
  rw [isResolvable, resolve_of_long long] at resolves
  cases resolves

theorem isResolvable_dropFinalNewline (resolves : isResolvable now s = .ok true) :
    isResolvable now (String.ofList (dropFinalNewline s.toList)) = .ok true := by
  have short := length_le_of_isResolvable resolves
  have shorter : (String.ofList (dropFinalNewline s.toList)).length ≤ s.length := by
    rw [String.length_ofList, ← String.length_toList]
    exact length_dropFinalNewline_le s.toList
  have same : read? (String.ofList (dropFinalNewline s.toList)) = read? s := by
    rw [read?, read?, if_neg (Nat.not_lt.2 (Nat.le_trans shorter short)), if_neg (Nat.not_lt.2 short),
      Text.trim_dropFinalNewline]
  have resolved : resolve now (String.ofList (dropFinalNewline s.toList)) = resolve now s := by
    rw [resolve, resolve, same]
  rw [isResolvable, resolved]
  exact resolves

end DateLiteral

theorem Text.length_withoutNulls_le (s : String) : (Text.withoutNulls s).length ≤ s.length := by
  rw [withoutNulls, String.length_ofList, ← String.length_toList]
  exact List.length_filter_le _ _

/-- A text that passes without its null characters, on a field of some kind: it is short enough, and where it has null
characters it carries nothing disallowed without them, and on a date field still resolves. -/
structure Limits.Carries (limits : Limits) (now : Timestamp) (kind : Kind) (s : String) : Prop where
  short : ((Text.withoutNulls s).length : Int) ≤ limits.maxStringLength
  harmless : '\x00' ∈ s.toList → hasDisallowedContent (Text.withoutNulls s) = false
  dated : '\x00' ∈ s.toList → kind = .date → DateLiteral.isResolvable now (Text.withoutNulls s) = .ok true

/-- Room for one item, where a condition on an array field has a single text. -/
def Limits.AdmitsSingle (limits : Limits) (c : Condition) : Prop :=
  c.field.kind = .array → ∀ s, c.operand = .one (.str s) → 1 ≤ limits.maxArraySize

/-- Room for the names of the numbers in a list that are not finite. -/
def Limits.AdmitsNames (limits : Limits) (c : Condition) : Prop :=
  c.field.kind = .array → ∀ vs, c.operand = .many vs → ∀ x, Value.float x ∈ vs → x.isFinite = false →
    (x.display.length : Int) ≤ limits.maxStringLength

section Carrying

variable {limits held : Limits} {now : Timestamp} {kind : Kind} {s : String}

theorem Limits.Carries.admitsText (carries : held.Carries now kind s) (harmless : hasDisallowedContent s = false) :
    held.AdmitsText (Text.withoutNulls s) := by
  refine ⟨carries.short, ?_⟩
  by_cases null : '\x00' ∈ s.toList
  · exact carries.harmless null
  · rwa [Text.withoutNulls_eq_self null]

theorem Limits.carries_iff (other : kind ≠ .date) (harmless : hasDisallowedContent s = false) :
    held.Carries now kind s ↔ held.AdmitsText (Text.withoutNulls s) :=
  ⟨fun carries => carries.admitsText harmless,
    fun admitted => ⟨admitted.short, fun _ => admitted.harmless, fun _ date => absurd date other⟩⟩

/-- A text on a date field passes as it is read exactly if it passes without its null characters. It may be read without
a line feed at its end, and then it has no null character. -/
theorem Limits.carries_date_iff (admitted : limits.AdmitsText s) (resolves : DateLiteral.isResolvable now s = .ok true)
    (visible : Written.isBare s.toList = true → '\x00' ∉ s.toList)
    (dates : (maxDateLiteralLength : Int) ≤ held.maxStringLength ∨ limits.maxStringLength ≤ held.maxStringLength) :
    held.Carries now .date s ↔ DateLiteral.isResolvable now (Written.textLexeme .date s).text = .ok true ∧
      held.AdmitsText (Written.textLexeme .date s).text := by
  by_cases bare : Written.isBare s.toList = true
  · have noNull := visible bare
    have text : (Written.textLexeme .date s).text = String.ofList (dropFinalNewline s.toList) := by
      rw [Written.textLexeme, if_pos ⟨rfl, bare⟩]
      rfl
    have short := DateLiteral.length_le_of_isResolvable resolves
    have shorter := length_dropFinalNewline_le s.toList
    have bound := admitted.short
    rw [String.length_toList] at shorter
    have carries : held.Carries now .date s := by
      refine ⟨?_, fun null => absurd null noNull, fun null => absurd null noNull⟩
      rw [Text.withoutNulls_eq_self noNull]
      omega
    rw [text]
    refine iff_of_true carries ⟨DateLiteral.isResolvable_dropFinalNewline resolves, ?_,
      hasDisallowedContent_dropFinalNewline admitted.harmless⟩
    rw [String.length_ofList]
    omega
  · have text : (Written.textLexeme .date s).text = Text.withoutNulls s := by
      rw [Written.textLexeme, if_neg fun both => bare both.2]
      rfl
    rw [text]
    constructor
    · intro carries
      refine ⟨?_, carries.admitsText admitted.harmless⟩
      by_cases null : '\x00' ∈ s.toList
      · exact carries.dated null rfl
      · rwa [Text.withoutNulls_eq_self null]
    · rintro ⟨dated, short, harmless⟩
      exact ⟨short, fun _ => harmless, fun _ _ => dated⟩

theorem isIdOrName_returned {v : Value} (idOrName : Check.isIdOrName v = true) : Check.isIdOrName v.returned = true := by
  cases v with
  | float x =>
    rw [Value.returned]
    split <;> rfl
  | str => rfl
  | int => rfl
  | _ => cases idOrName

/-- The name of a number that is not finite has at most four characters, and carries nothing disallowed. -/
theorem display_of_not_isFinite {x : Double} (infinite : x.isFinite = false) :
    x.display.length ≤ 4 ∧ hasDisallowedContent x.display = false := by
  cases x with
  | nan => decide +kernel
  | infinite negative => cases negative <;> decide +kernel
  | finite => cases infinite

theorem Limits.admits_of_le (item : 1 ≤ held.maxArraySize) (name : 4 ≤ held.maxStringLength) (c : Condition) :
    held.AdmitsSingle c ∧ held.AdmitsNames c := by
  refine ⟨fun _ _ _ => item, fun _ _ _ x _ infinite => ?_⟩
  have short := (display_of_not_isFinite infinite).1
  omega

/-- The texts that are read from a list are admitted exactly if its own texts pass, and there is room for the names of the
numbers in it that are not finite. -/
theorem carries_items_iff {vs : List Value} (admitted : ∀ s, Value.str s ∈ vs → limits.AdmitsText s) :
    (∀ s, Value.str s ∈ vs.map Value.returned → held.AdmitsText s) ↔
      (∀ x, Value.float x ∈ vs → x.isFinite = false → (x.display.length : Int) ≤ held.maxStringLength) ∧
        ∀ s, Value.str s ∈ vs → held.Carries now .array s := by
  have other : Kind.array ≠ .date := by decide
  constructor
  · refine fun returned => ⟨fun x member infinite => ?_, fun s member => ?_⟩
    · have name : (Value.float x).returned = .str x.display := if_neg (Bool.eq_false_iff.1 infinite)
      exact (returned _ (name ▸ List.mem_map_of_mem member)).short
    · exact (Limits.carries_iff other (admitted s member).harmless).2 (returned _ (List.mem_map_of_mem member))
  · rintro ⟨names, carries⟩ s member
    obtain ⟨v, inside, same⟩ := List.mem_map.1 member
    cases v with
    | str t =>
      cases same
      exact (carries t inside).admitsText (admitted t inside).harmless
    | float x =>
      rw [Value.returned] at same
      split at same
      · cases same
      · rename_i notFinite
        cases same
        have infinite := Bool.eq_false_iff.2 notFinite
        exact ⟨names x inside infinite, (display_of_not_isFinite infinite).2⟩
    | _ => cases same

end Carrying

/-- Limits that differ from others in the length of texts alone. They may ask for shorter texts, but still leave room for
date literals. -/
structure Limits.Tightened (limits held : Limits) : Prop where
  depth : held.maxDepth = limits.maxDepth
  conditions : held.maxConditions = limits.maxConditions
  items : held.maxArraySize = limits.maxArraySize
  texts : (maxDateLiteralLength : Int) ≤ held.maxStringLength ∨ limits.maxStringLength ≤ held.maxStringLength

section Returned

variable {limits held : Limits} {now : Timestamp} {c : Condition}

/-- What is read from a legal condition is of the kind of the field exactly if there is room for it as a list, apart from
dates. -/
theorem Condition.Legal.fits_returned_iff (legal : c.Legal limits now) (regular : c.operand.Regular c.field.kind)
    (tightened : limits.Tightened held) (other : c.field.kind ≠ .date) :
    Check.kindProblems held now c.field c.returned.operand.toValue = .ok [] ↔ held.AdmitsSingle c := by
  obtain ⟨f, op, operand⟩ := c
  have fits : Check.kindProblems limits now f operand.toValue = .ok [] := legal.fits
  show Check.kindProblems held now f (operand.returned f.kind).toValue = .ok [] ↔
    (f.kind = .array → ∀ s, operand = .one (.str s) → 1 ≤ held.maxArraySize)
  dsimp only at regular other
  generalize kind : f.kind = k at regular other ⊢
  cases regular with
  | truth b => exact iff_of_true ((Check.kindProblems_boolean_eq_nil_iff kind).2 rfl) fun array => by cases array
  | @number n finite =>
    have number := (Check.kindProblems_number_eq_nil_iff kind).1 fits
    have same : (Operand.one n.value).returned .number = .one n.value := by cases n <;> rfl
    rw [same]
    exact iff_of_true ((Check.kindProblems_number_eq_nil_iff kind).2 number) fun array => by cases array
  | string s =>
    have text : Check.kindProblems held now f (.str (Text.withoutNulls s)) = .ok [] := by
      simp only [Check.kindProblems, kind]
    exact iff_of_true text fun array => by cases array
  | date => exact absurd rfl other
  | single s =>
    refine (Check.kindProblems_list_eq_nil_iff kind).trans ⟨fun list _ _ _ => list.1, fun room => ?_⟩
    exact ⟨room rfl s rfl, List.forall_mem_singleton.2 rfl⟩
  | @items vs idsOrNames =>
    obtain ⟨few, _⟩ := (Check.kindProblems_list_eq_nil_iff kind).1 fits
    refine iff_of_true ((Check.kindProblems_list_eq_nil_iff kind).2 ⟨?_, ?_⟩) fun _ _ same => by cases same
    · rwa [List.length_map, tightened.items]
    · exact List.forall_mem_map.2 fun v member => isIdOrName_returned (idsOrNames v member)

/-- The texts that are read from a legal condition are admitted exactly if its texts pass and there is room for names, apart
from dates. -/
theorem Condition.Legal.texts_returned_iff (legal : c.Legal limits now) (regular : c.operand.Regular c.field.kind)
    (other : c.field.kind ≠ .date) :
    (∀ s ∈ Check.texts c.returned.operand.toValue, held.AdmitsText s) ↔
      held.AdmitsNames c ∧ ∀ s ∈ Check.texts c.operand.toValue, held.Carries now c.field.kind s := by
  obtain ⟨f, op, operand⟩ := c
  have admitted : ∀ s ∈ Check.texts operand.toValue, limits.AdmitsText s := legal.texts
  have single {t : String} {property : String → Prop} : (∀ s ∈ Check.texts (.str t), property s) ↔ property t :=
    List.forall_mem_singleton
  have noNames {v : Value} : held.AdmitsNames ⟨f, op, .one v⟩ := fun _ _ same => by cases same
  show (∀ s ∈ Check.texts (operand.returned f.kind).toValue, held.AdmitsText s) ↔
    _ ∧ ∀ s ∈ Check.texts operand.toValue, held.Carries now f.kind s
  dsimp only at regular other
  generalize kind : f.kind = k at regular other ⊢
  cases regular with
  | truth b => exact iff_of_true (List.forall_mem_nil _) ⟨noNames, List.forall_mem_nil _⟩
  | @number n finite => cases n <;> exact iff_of_true (List.forall_mem_nil _) ⟨noNames, List.forall_mem_nil _⟩
  | string s | single s =>
    rw [and_iff_right noNames]
    have harmless := (single.1 admitted).harmless
    exact single.trans ((Limits.carries_iff other harmless).symm.trans single.symm)
  | date => exact absurd rfl other
  | @items vs _ =>
    have names : held.AdmitsNames ⟨f, op, .many vs⟩ ↔ ∀ x, Value.float x ∈ vs → x.isFinite = false →
        (x.display.length : Int) ≤ held.maxStringLength := by
      refine ⟨fun names => names kind vs rfl, fun room _ items same => ?_⟩
      cases same
      exact room
    show (∀ s ∈ Check.texts (.list (vs.map Value.returned)), held.AdmitsText s) ↔
      _ ∧ ∀ s ∈ Check.texts (.list vs), held.Carries now .array s
    simp only [mem_texts_list, names]
    exact carries_items_iff fun s member => admitted s (mem_texts_list.2 member)

/-- What is read from a legal condition on a date is a date with admitted texts exactly if its texts pass. -/
theorem Condition.Legal.date_returned_iff (legal : c.Legal limits now) (regular : c.operand.Regular c.field.kind)
    (tightened : limits.Tightened held) (kind : c.field.kind = .date)
    (visible : ∀ s, c.operand = .one (.str s) → Written.isBare s.toList = true → '\x00' ∉ s.toList) :
    (Check.kindProblems held now c.field c.returned.operand.toValue = .ok [] ∧
      ∀ s ∈ Check.texts c.returned.operand.toValue, held.AdmitsText s) ↔
      ∀ s ∈ Check.texts c.operand.toValue, held.Carries now c.field.kind s := by
  obtain ⟨f, op, operand⟩ := c
  have fits : Check.kindProblems limits now f operand.toValue = .ok [] := legal.fits
  have admitted : ∀ s ∈ Check.texts operand.toValue, limits.AdmitsText s := legal.texts
  have single {t : String} {property : String → Prop} : (∀ s ∈ Check.texts (.str t), property s) ↔ property t :=
    List.forall_mem_singleton
  dsimp only at regular kind visible ⊢
  rw [Condition.returned]
  dsimp only
  rw [Check.kindProblems_date_eq_nil_iff kind]
  rw [kind] at regular ⊢
  cases regular with
  | date s =>
    have resolves : DateLiteral.isResolvable now s = .ok true := (Check.kindProblems_date_eq_nil_iff kind).1 fits
    have dated := Limits.carries_date_iff (single.1 admitted) resolves (visible s rfl) tightened.texts
    exact (and_congr Iff.rfl single).trans (dated.symm.trans single.symm)

/-- No check objects to what is read from a legal condition exactly if its texts pass without their null characters, and
there is room for what is read as a list or as a name. -/
theorem Condition.Legal.returned_iff (legal : c.Legal limits now) (regular : c.operand.Regular c.field.kind)
    (tightened : limits.Tightened held)
    (visible : c.field.kind = .date → ∀ s, c.operand = .one (.str s) → Written.isBare s.toList = true → '\x00' ∉ s.toList) :
    c.returned.Legal held now ↔ held.AdmitsSingle c ∧ held.AdmitsNames c ∧
      ∀ s ∈ Check.texts c.operand.toValue, held.Carries now c.field.kind s := by
  have present : c.returned.operand.toValue.isNull = false := regular.present_returned
  have parts : c.returned.Legal held now ↔ Check.kindProblems held now c.field c.returned.operand.toValue = .ok [] ∧
      ∀ s ∈ Check.texts c.returned.operand.toValue, held.AdmitsText s :=
    ⟨fun legal => ⟨legal.fits, legal.texts⟩, fun both => ⟨legal.suits, present, both.1, both.2⟩⟩
  rw [parts]
  by_cases date : c.field.kind = .date
  · have noArray : c.field.kind ≠ .array := by
      rw [date]
      decide
    have single : held.AdmitsSingle c := fun array => absurd array noArray
    have names : held.AdmitsNames c := fun array => absurd array noArray
    rw [and_iff_right single, and_iff_right names]
    exact legal.date_returned_iff regular tightened date (visible date)
  · exact and_congr (legal.fits_returned_iff regular tightened date) (legal.texts_returned_iff regular date)

end Returned

/-- A filter with its conditions changed is as large as before, so it is legal exactly if the new conditions are. -/
theorem Filter.Legal.map_iff {limits held : Limits} {now : Timestamp} {e : Filter} (legal : e.Legal limits now)
    (tightened : limits.Tightened held) (f : Condition → Condition) :
    Filter.Legal held now (e.map f) ↔ ∀ c ∈ e.conditions, (f c).Legal held now := by
  have conditions : (∀ c ∈ (e.map f).conditions, c.Legal held now) ↔ ∀ c ∈ e.conditions, (f c).Legal held now := by
    rw [e.conditions_map, List.forall_mem_map]
  refine ⟨fun legal => conditions.1 legal.conditions, fun each => ⟨?_, ?_, ?_, ?_, conditions.2 each⟩⟩
  · exact mt List.map_eq_nil_iff.1 legal.nonempty
  · exact List.forall_mem_map.2 fun g member => mt List.map_eq_nil_iff.1 (legal.groups g member)
  · rw [tightened.depth]
    exact legal.depth
  · rw [e.conditions_map, List.length_map, tightened.conditions]
    exact legal.count

/-- A text passes the checks of a text exactly if it is short enough and has no control characters. -/
theorem Check.textProblem?_eq_none_iff {bound : Nat} {s : String} :
    textProblem? bound (.str s) = .ok none ↔ s.length ≤ bound ∧ ∀ ch ∈ s.toList, isForbiddenControl ch = false := by
  simp only [textProblem?]
  by_cases long : (bound : Int) < (s.length : Int)
  · rw [if_pos long]
    refine iff_of_false (fun found => ?_) ?_
    · obtain ⟨_, _, same⟩ := Outcome.map_eq_ok.1 found
      cases same
    · rintro ⟨short, _⟩
      omega
  have short : s.length ≤ bound := by omega
  rw [if_neg long, and_iff_right short]
  by_cases control : s.toList.any isForbiddenControl = true
  · obtain ⟨ch, member, forbidden⟩ := List.any_eq_true.1 control
    rw [if_pos control]
    refine iff_of_false (fun found => by cases found) fun visible => ?_
    exact Bool.false_ne_true ((visible ch member).symm.trans forbidden)
  · rw [if_neg control]
    refine iff_of_true rfl fun ch member => Bool.eq_false_iff.2 fun forbidden => control ?_
    exact List.any_eq_true.2 ⟨ch, member, forbidden⟩

namespace Query

/-- A text is held to the limits that its filter is held to, but for a filter of a single condition without any given. -/
theorem limitsFor_cases (limits? : Option Limits) (e : Filter) :
    (limits? = none ∧ e.conditions.length = 1 ∧ limitsFor limits? e = .simple) ∨
      (¬(limits? = none ∧ e.conditions.length = 1) ∧ limitsFor limits? e = limits?.getD .standard) := by
  cases limits? with
  | some limits => exact .inr ⟨fun both => Option.some_ne_none limits both.1, rfl⟩
  | none =>
    by_cases single : e.conditions.length = 1
    · exact .inl ⟨rfl, single, if_pos single⟩
    · exact .inr ⟨fun both => single both.2, if_neg single⟩

theorem tightened_limitsFor (limits? : Option Limits) (e : Filter) :
    (limits?.getD .standard).Tightened (limitsFor limits? e) := by
  rcases limitsFor_cases limits? e with ⟨rfl, _, simple⟩ | ⟨_, same⟩
  · rw [simple]
    exact ⟨rfl, rfl, rfl, .inl (by decide)⟩
  · rw [same]
    exact ⟨rfl, rfl, rfl, .inr (Int.le_refl _)⟩

/-- A text that passes the checks of a text is examined as the filter that it is read as. -/
theorem examine_of_read {limits? : Option Limits} {now : Timestamp} {s : String} {e : Filter}
    (passed : Check.textProblem? maxFilterLength (.str s) = .ok none) (read : Filter.read s = .ok e) :
    examine limits? now (.str s) =
      (Check.filterVerdict (limitsFor limits? e) now e).map fun verdict => ⟨some e, verdict⟩ := by
  simp only [examine, passed, read]

/-- The examination of a text that can be read finds nothing exactly if it passes the checks of a text and its filter is
legal. -/
theorem examine_isValid_iff {limits? : Option Limits} {now : Timestamp} {s : String} {e : Filter}
    (read : Check.textProblem? maxFilterLength (.str s) = .ok none → Filter.read s = .ok e) :
    (∃ x, examine limits? now (.str s) = .ok x ∧ x.verdict.isValid = true) ↔
      Check.textProblem? maxFilterLength (.str s) = .ok none ∧ e.Legal (limitsFor limits? e) now := by
  rw [← Check.filterVerdict_isValid_iff]
  rcases problem : Check.textProblem? maxFilterLength (.str s) with fault | _ | p
  · simp only [examine, problem]
    refine iff_of_false ?_ ?_
    · rintro ⟨_, same, _⟩
      cases same
    · rintro ⟨same, _⟩
      cases same
  · rw [examine_of_read problem (read problem)]
    simp only [Outcome.map_eq_ok]
    constructor
    · rintro ⟨_, ⟨verdict, checked, rfl⟩, valid⟩
      exact ⟨trivial, verdict, checked, valid⟩
    · rintro ⟨_, verdict, checked, valid⟩
      exact ⟨_, ⟨verdict, checked, rfl⟩, valid⟩
  · simp only [examine, problem]
    refine iff_of_false ?_ ?_
    · rintro ⟨_, same, valid⟩
      cases same
      cases valid
    · rintro ⟨same, _⟩
      cases same

end Query

namespace Draft

variable {property : Condition → Prop} {d : Draft}

/-- The filter of a draft has the conditions of the draft. -/
theorem Holds.conditions_build (holds : Holds property d) : d.build.conditions = d.conditions := by
  by_cases none : d.conditions = []
  · rw [build, none]
    rfl
  · obtain ⟨first, steps, conditions, joiners⟩ := Expression.exists_steps none holds.joiners
    rw [build, conditions, joiners]
    exact Expression.conditions_fold_steps first steps

/-- The text of every condition stands in the text of the draft. -/
theorem Holds.mem_written (holds : Holds property d) {whole : String} (written : d.written = .ok whole) {c : Condition}
    (member : c ∈ d.conditions) {own : String} (ofCondition : c.written = .ok own) :
    ∀ ch ∈ own.toList, ch ∈ whole.toList := by
  obtain ⟨conditions, joiners, pending⟩ := d
  cases conditions with
  | nil => cases member
  | cons first rest =>
    intro ch inside
    obtain ⟨firstText, texts, ofFirst, ofRest, rfl⟩ := Outcome.both_eq_ok.1 written
    rw [String.toList_append, List.mem_append]
    rcases List.mem_cons.1 member with rfl | later
    · cases ofFirst.symm.trans ofCondition
      exact .inl inside
    · have balance : joiners.length = rest.length := holds.joiners
      rw [← List.map_snd_zip (Nat.le_of_eq balance.symm)] at later
      obtain ⟨step, inZip, rfl⟩ := List.mem_map.1 later
      obtain ⟨text, among, ofStep⟩ := Outcome.exists_of_mapM ofRest inZip
      obtain ⟨same, ofOwn, rfl⟩ := Outcome.map_eq_ok.1 ofStep
      cases ofOwn.symm.trans ofCondition
      rw [String.toList_join]
      exact .inr (List.mem_flatMap.2 ⟨_, among, by simp [inside]⟩)

/-- A date that is written without quotes has no null character where the whole text has no control character. -/
theorem Holds.noNull_of_bare (holds : Holds property d) {whole : String} (written : d.written = .ok whole)
    (visible : ∀ ch ∈ whole.toList, Check.isForbiddenControl ch = false) {c : Condition} (member : c ∈ d.conditions)
    (date : c.field.kind = .date) {s : String} (text : c.operand = .one (.str s)) (bare : Written.isBare s.toList = true) :
    '\x00' ∉ s.toList := by
  intro null
  have literal : Written.literal .date s = s := if_pos ⟨rfl, bare⟩
  have ofOperand : c.operand.written c.field.kind = .ok s := by
    rw [text, date]
    exact congrArg Except.ok literal
  have ofCondition : c.written = .ok (c.field.name ++ " " ++ c.operator.symbol ++ " " ++ s) := by
    rw [Condition.written, ofOperand]
    rfl
  have inside : '\x00' ∈ (c.field.name ++ " " ++ c.operator.symbol ++ " " ++ s).toList := by
    rw [String.toList_append]
    exact List.mem_append_right _ null
  have control : Check.isForbiddenControl '\x00' = true := by decide
  exact Bool.false_ne_true ((visible _ (holds.mem_written written member ofCondition _ inside)).symm.trans control)

/-- What the examination of the text of a draft asks for beyond the check of its filter. -/
structure Passes (limits? : Option Limits) (now : Timestamp) (d : Draft) : Prop where
  /-- The draft can be written, as a text that is short enough and has no control characters. -/
  written : ∃ text, d.written = .ok text ∧ text.length ≤ maxFilterLength ∧
    ∀ ch ∈ text.toList, Check.isForbiddenControl ch = false
  /-- A single condition is held to the limits for short queries, where none are given. -/
  brief : limits? = none → d.size = 1 → ∀ c ∈ d.conditions, ∀ s ∈ Check.texts c.operand.toValue,
    ((Text.withoutNulls s).length : Int) ≤ Limits.simple.maxStringLength
  /-- Leaving out null characters brings nothing disallowed to light. -/
  harmless : ∀ c ∈ d.conditions, ∀ s ∈ Check.texts c.operand.toValue, '\x00' ∈ s.toList →
    hasDisallowedContent (Text.withoutNulls s) = false
  /-- Dates resolve without their null characters. -/
  dated : ∀ c ∈ d.conditions, c.field.kind = .date → ∀ s ∈ Check.texts c.operand.toValue, '\x00' ∈ s.toList →
    DateLiteral.isResolvable now (Text.withoutNulls s) = .ok true
  /-- A day on an array field is read as a list. -/
  single : ∀ c ∈ d.conditions, (limits?.getD .standard).AdmitsSingle c
  /-- A number in a list that is not finite is read as its name. -/
  names : ∀ c ∈ d.conditions, (limits?.getD .standard).AdmitsNames c

/-- A draft passes exactly if its text passes the checks of a text, and every condition in it passes under the limits that
the text is held to. -/
theorem passes_iff {limits? : Option Limits} {held : Limits} {now : Timestamp} {text : String}
    (written : d.written = .ok text) (legal : ∀ c ∈ d.conditions, c.Legal (limits?.getD .standard) now)
    (cases : (limits? = none ∧ d.size = 1 ∧ held = .simple) ∨
      (¬(limits? = none ∧ d.size = 1) ∧ held = limits?.getD .standard)) :
    d.Passes limits? now ↔
      (text.length ≤ maxFilterLength ∧ ∀ ch ∈ text.toList, Check.isForbiddenControl ch = false) ∧
      ∀ c ∈ d.conditions, held.AdmitsSingle c ∧ held.AdmitsNames c ∧
        ∀ s ∈ Check.texts c.operand.toValue, held.Carries now c.field.kind s := by
  have room : ∀ c, held.AdmitsSingle c ∧ held.AdmitsNames c ↔
      (limits?.getD .standard).AdmitsSingle c ∧ (limits?.getD .standard).AdmitsNames c := by
    intro c
    rcases cases with ⟨none, _, simple⟩ | ⟨_, asked⟩
    · -- Both the limits for short queries and those for others have room.
      rw [none, simple]
      exact iff_of_true (Limits.admits_of_le (by decide) (by decide) c) (Limits.admits_of_le (by decide) (by decide) c)
    · rw [asked]
  constructor
  · intro passes
    obtain ⟨own, same, fitting⟩ := passes.written
    cases written.symm.trans same
    refine ⟨fitting, fun c member => ?_⟩
    obtain ⟨single, names⟩ := (room c).2 ⟨passes.single c member, passes.names c member⟩
    refine ⟨single, names, fun s inside => ⟨?_, passes.harmless c member s inside, ?_⟩⟩
    · rcases cases with ⟨none, single, simple⟩ | ⟨_, asked⟩
      · rw [simple]
        exact passes.brief none single c member s inside
      · have shorter := Text.length_withoutNulls_le s
        have bound := ((legal c member).texts s inside).short
        rw [asked]
        omega
    · exact fun null date => passes.dated c member date s inside null
  · rintro ⟨fitting, each⟩
    have carries := fun c member => (each c member).2.2
    have asked := fun c member => (room c).1 ⟨(each c member).1, (each c member).2.1⟩
    refine ⟨⟨text, written, fitting⟩, fun none single c member s inside => ?_, fun c member s inside => ?_, ?_,
      fun c member => (asked c member).1, fun c member => (asked c member).2⟩
    · rcases cases with ⟨_, _, simple⟩ | ⟨other, _⟩
      · rw [← simple]
        exact (carries c member s inside).short
      · exact absurd ⟨none, single⟩ other
    · exact (carries c member s inside).harmless
    · exact fun c member date s inside null => (carries c member s inside).dated null date

/-- The text of regular conditions that passes the checks of a text is read, as the fold of what each of them is read as. -/
theorem Holds.read_returned (regular : d.Holds fun c => c.operand.Regular c.field.kind) (nonempty : d.conditions ≠ [])
    {text : String} (written : d.written = .ok text)
    (passed : Check.textProblem? maxFilterLength (.str text) = .ok none) :
    Filter.read text = .ok (d.build.map Condition.returned) := by
  obtain ⟨ts, tokens, phrase⟩ := regular.written_phrase nonempty written fun _ _ regular => Condition.row_returned regular
  have short := (Check.textProblem?_eq_none_iff.1 passed).1
  exact Filter.read_of_short tokens (Nat.le_trans short (by decide)) phrase

/-- Where the filter of a draft is valid, it can be written as a text that is found valid exactly if it passes. -/
theorem examine_written_isValid_iff {steps : List Step} {limits? : Option Limits} {now : Timestamp} {verdict : Verdict}
    (checked : Check.filterVerdict (limits?.getD .standard) now (empty.run steps).build = .ok verdict)
    (valid : verdict.isValid = true) :
    (∃ text x, (empty.run steps).written = .ok text ∧ Query.examine limits? now (.str text) = .ok x ∧
      x.verdict.isValid = true) ↔ (empty.run steps).Passes limits? now := by
  have drafted := holds_drafted steps
  generalize empty.run steps = d at *
  have legal := Check.filterVerdict_isValid_iff.1 ⟨verdict, checked, valid⟩
  have same := drafted.conditions_build
  have each : ∀ c ∈ d.conditions, c.Legal (limits?.getD .standard) now := by
    rw [← same]
    exact legal.conditions
  have regular : d.Holds fun c => c.operand.Regular c.field.kind :=
    ⟨fun c member => (drafted.conditions c member).regular (each c member).fits, drafted.joiners⟩
  have nonempty : d.conditions ≠ [] := by
    intro none
    refine legal.nonempty ?_
    rw [build, none]
    rfl
  have size : (d.build.map Condition.returned).conditions.length = d.size := by
    rw [Expression.conditions_map, List.length_map, same]
    rfl
  have tightened := Query.tightened_limitsFor limits? (d.build.map Condition.returned)
  have cases := Query.limitsFor_cases limits? (d.build.map Condition.returned)
  rw [size] at cases
  cases written : d.written with
  | error fault =>
    refine iff_of_false (by simp) fun passes => ?_
    obtain ⟨text, found, _⟩ := passes.written
    cases written.symm.trans found
  | ok text =>
    simp only [Except.ok.injEq, exists_and_left, exists_eq_left']
    rw [Query.examine_isValid_iff (regular.read_returned nonempty written), Check.textProblem?_eq_none_iff,
      passes_iff written each cases, legal.map_iff tightened, same]
    -- In a text without control characters no bare date has a null character, so each condition is judged by its texts.
    refine and_congr_right fun passed => forall_congr' fun c => forall_congr' fun member => ?_
    refine (each c member).returned_iff (regular.conditions c member) tightened fun date _ text bare => ?_
    exact regular.noNull_of_bare written passed.2 member date text bare

/-- A title with a null character, and a list. -/
theorem examine_written_isValid_list :
    let now : Timestamp := ⟨⟨0, by decide⟩, none⟩
    let steps : List Step := [.compare "title" (.str "like") (.str "wo\x00rk"), .joinByOr,
      .compare "labels" (.str "in") (.list [.int 4, .str "x"])]
    let text := "title like \"work\" || labels in [4, \"x\"]"
    (empty.run steps).written = .ok text ∧
      Check.filterVerdict .standard now (empty.run steps).build = .ok ⟨[], []⟩ ∧
      (empty.run steps).Passes none now ∧ ∃ x, Query.examine none now (.str text) = .ok x ∧ x.verdict.isValid = true := by
  intro now steps text
  have written : (empty.run steps).written = .ok text := by decide +kernel
  have checked : Check.filterVerdict .standard now (empty.run steps).build = .ok ⟨[], []⟩ := by decide +kernel
  have asked : (none : Option Limits).getD .standard = .standard := rfl
  have room : ∀ c, Limits.standard.AdmitsSingle c ∧ Limits.standard.AdmitsNames c :=
    Limits.admits_of_le (by decide) (by decide)
  have passes : (empty.run steps).Passes none now := by
    exact ⟨⟨text, written, by decide, forall_mem_of_all (by decide)⟩, fun _ single => absurd single (by decide +kernel),
      by decide +kernel, by decide +kernel, fun c _ => (room c).1, fun c _ => (room c).2⟩
  obtain ⟨own, x, same, found⟩ := (examine_written_isValid_iff (asked ▸ checked) rfl).2 passes
  cases written.symm.trans same
  exact ⟨written, checked, passes, x, found⟩

/-- A title of 201 characters is valid as a filter, and too long for the text of a single condition. -/
theorem examine_written_long :
    let now : Timestamp := ⟨⟨0, by decide⟩, none⟩
    let title := String.ofList (List.replicate 201 'a')
    let d := empty.run [.compare "title" (.str "=") (.str title)]
    (∃ verdict, Check.filterVerdict .standard now d.build = .ok verdict ∧ verdict.isValid = true) ∧
      ¬∃ text x, d.written = .ok text ∧ Query.examine none now (.str text) = .ok x ∧ x.verdict.isValid = true := by
  intro now title d
  let c : Condition := ⟨.title, .equal, .one (.str title)⟩
  have run : d = ⟨[c], [], .and⟩ := rfl
  have length : title.length = 201 := by rw [String.length_ofList, List.length_replicate]
  have noNull : '\x00' ∉ title.toList := by
    rw [String.toList_ofList]
    exact fun null => absurd (List.eq_of_mem_replicate null) (by decide)
  have writable : Holds Condition.Writable d := by
    rw [run]
    exact ⟨List.forall_mem_singleton.2 (.string title), rfl⟩
  have filter : d.build = ⟨[⟨[c], .and⟩], .and⟩ := rfl
  have unchanged : c.withoutNulls = c := by
    show Condition.mk .title .equal (.one (.str (Text.withoutNulls title))) = c
    rw [Text.withoutNulls_eq_self noNull]
  obtain ⟨text, written, read⟩ := writable.read_written (List.cons_ne_nil c [])
  rw [filter, Filter.withoutNulls, Expression.map] at read
  simp only [List.map_cons, List.map_nil, unchanged] at read
  refine ⟨Check.filterVerdict_isValid_iff.2 ?_, ?_⟩
  · have admitted : Limits.standard.AdmitsText title := by
      refine ⟨?_, hasDisallowedContent_replicate 201⟩
      rw [length]
      decide
    have legal : c.Legal .standard now := ⟨rfl, rfl, rfl, List.forall_mem_singleton.2 admitted⟩
    rw [filter]
    exact ⟨List.cons_ne_nil _ _, List.forall_mem_singleton.2 (List.cons_ne_nil _ _), by decide, by decide,
      List.forall_mem_singleton.2 legal⟩
  · rintro ⟨own, x, same, found⟩
    cases written.symm.trans same
    obtain ⟨_, legal⟩ := (Query.examine_isValid_iff fun _ => read).1 ⟨x, found⟩
    have short := (legal.conditions c (List.mem_singleton_self c)).texts title (List.mem_singleton_self title)
    have bound : (title.length : Int) ≤ 200 := short.short
    rw [length] at bound
    exact absurd bound (by decide)

end Draft

end TaskQuery
