import TaskQuery.Proofs.ConditionText
import TaskQuery.Proofs.DraftRun
import TaskQuery.Proofs.IsoRoundTrip

namespace TaskQuery

open Grammar Lexeme

namespace Expression

variable {γ δ : Type}

/-- The expression with every condition changed. -/
def map (f : γ → δ) (e : Expression γ) : Expression δ where
  groups := e.groups.map fun g => ⟨g.conditions.map f, g.joiner⟩
  joiner := e.joiner

theorem conditions_map (f : γ → δ) (e : Expression γ) : (e.map f).conditions = e.conditions.map f := by
  rw [conditions, conditions, map, List.flatMap_map, List.map_flatMap]

theorem runs_map (f : γ → δ) (inner : Joiner) (current : List γ) (steps : List (Joiner × γ)) :
    runs inner (current.map f) (steps.map fun step => (step.1, f step.2)) =
      (runs inner current steps).map (List.map f) := by
  induction steps generalizing current with
  | nil => simp [runs]
  | cons step steps ih =>
    obtain ⟨j, c⟩ := step
    by_cases same : j = inner
    · have changed := ih (c :: current)
      simpa [runs, same] using changed
    · have changed := ih [c]
      simpa [runs, same] using changed

/-- Folding does not look at the conditions. -/
theorem fold_map (f : γ → δ) (conditions : List γ) (joiners : List Joiner) :
    fold (conditions.map f) joiners = (fold conditions joiners).map f := by
  cases conditions with
  | nil => rfl
  | cons first rest =>
    have tail : joiners.zip (rest.map f) = (joiners.zip rest).map fun step => (step.1, f step.2) := by
      rw [List.zip_map_right]
      rfl
    have changed := runs_map f (joiners.head?.getD .and) [first] (joiners.zip rest)
    rw [List.map_singleton, ← tail] at changed
    have joined (inner : Joiner) :
        (joiners.zip (rest.map f)).all (fun step => step.1 = inner) =
          (joiners.zip rest).all fun step => step.1 = inner := by
      rw [tail, List.all_map]
      rfl
    simp only [fold, map, List.map_cons, changed, joined, List.map_map]
    rfl

end Expression

/-- A filter without the null characters of its texts. -/
def Filter.withoutNulls (e : Filter) : Filter :=
  e.map Condition.withoutNulls

namespace Draft

/-- The values that the text of a draft keeps, on a field of some kind: what suits the kind, as a value or as text. An
integer is not too long to be read, a double is finite, and the text of a date can stand without quotes. -/
inductive Suits : Kind → Value → Prop
  | truth (b : Bool) : Suits .boolean (.bool b)
  | truthText (s : String) : Suits .boolean (.str s)
  | int (n : Int) : Suits .number (.int n)
  | float {x : Double} : x.isFinite = true → Suits .number (.float x)
  | numberText {s : String} : (∀ x, readLiteral (Text.trim s) = .number (.float x) → x.isFinite = true) →
      Suits .number (.str s)
  | string (s : String) : Suits .string (.str s)
  | date (d : Day) : Suits .date (.date d)
  | datetime (t : Timestamp) : Suits .date (.datetime t)
  | dateText {s : String} : '\x00' ∉ s.toList → s.toList.getLast? ≠ some '\n' → Suits .date (.str s)
  | item {v : Value} : v.Writable → Suits .array v
  | items {vs : List Value} : (∀ v ∈ vs, v.Writable) → Suits .array (.list vs)

/-- The characters of days and timestamps. -/
def isoCharacters : List Char := ['0', '1', '2', '3', '4', '5', '6', '7', '8', '9', '-', '+', ':', '.', 'T']

theorem isBlank_isoCharacters : ∀ c ∈ isoCharacters, Text.isBlank c = false :=
  Lexeme.forall_mem_of_all (by decide)

theorem digit_isoCharacters : ∀ d < 10, Nat.digitChar d ∈ isoCharacters := by
  decide

theorem paddedDigits_characters (width n : Nat) : ∀ c ∈ paddedDigits width n, c ∈ isoCharacters :=
  forall_mem_paddedDigits digit_isoCharacters width n

theorem day_characters (d : Day) : ∀ c ∈ d.iso, c ∈ isoCharacters := by
  have hyphen : '-' ∈ isoCharacters := by decide
  exact List.forall_mem_append.2 ⟨paddedDigits_characters _ _, List.forall_mem_cons.2 ⟨hyphen,
    List.forall_mem_append.2 ⟨paddedDigits_characters _ _, List.forall_mem_cons.2 ⟨hyphen, paddedDigits_characters _ _⟩⟩⟩⟩

theorem timestamp_characters (t : Timestamp) : ∀ c ∈ t.iso.toList, c ∈ isoCharacters := by
  have colon : ':' ∈ isoCharacters := by decide
  have point : '.' ∈ isoCharacters := by decide
  have distance (offset : Offset) : ∀ c ∈ offset.iso, c ∈ isoCharacters := by
    refine List.forall_mem_cons.2 ⟨by split <;> decide, List.forall_mem_append.2 ⟨paddedDigits_characters _ _,
      List.forall_mem_cons.2 ⟨colon, List.forall_mem_append.2 ⟨paddedDigits_characters _ _, ?_⟩⟩⟩⟩
    split
    · exact List.forall_mem_nil _
    · exact List.forall_mem_cons.2 ⟨colon, List.forall_mem_append.2 ⟨paddedDigits_characters _ _,
        forall_mem_isoFraction digit_isoCharacters point _⟩⟩
  rw [Iso.toList_iso]
  refine List.forall_mem_append.2 ⟨day_characters _, List.forall_mem_cons.2 ⟨by decide,
    List.forall_mem_append.2 ⟨forall_mem_isoClock digit_isoCharacters colon point _, ?_⟩⟩⟩
  unfold Iso.zoneText
  split
  · exact List.forall_mem_nil _
  · exact distance _

theorem writable_of_isoCharacters {s : String} (characters : ∀ c ∈ s.toList, c ∈ isoCharacters) :
    Operand.Writable .date (.one (.str s)) := by
  refine .date (fun null => ?_) (fun feed => ?_)
  · exact absurd (characters _ null) (by decide)
  · exact absurd (characters _ (List.mem_of_getLast? feed)) (by decide)

theorem writable_of_readLiteral {s : String} {n : Int} (read : readLiteral s = .number (.int n)) :
    (Number.int n).Writable := by
  obtain ⟨m, spelled, digits, value⟩ := readLiteral_eq_number_iff.1 read
  by_cases integral : m.integral = true
  · rw [Numeral.number, if_pos integral] at value
    cases value
    have below := spelled.natAbs_toInt_lt
    have bound : 10 ^ m.whole.length ≤ 10 ^ integerDigitLimit := Nat.pow_le_pow_right (by decide) (digits integral)
    exact Number.writable_int_iff.2 (Nat.lt_of_lt_of_le below bound)
  · rw [Numeral.number, if_neg integral] at value
    cases value

/-- An integer in the range of the doubles is not too long to be read. -/
theorem writable_of_ofInt? {n : Int} (inRange : (Double.ofInt? n).isSome = true) : (Number.int n).Writable := by
  have below := Double.natAbs_lt_of_ofInt? inRange (k := integerDigitLimit) (by decide)
  exact Number.writable_int_iff.2 (Nat.lt_of_lt_of_le below (Nat.pow_le_pow_left (by decide) _))

/-- What an accepted value is on a field is writable there. -/
theorem Suits.writable {kind : Kind} {v : Value} {operand : Operand} (suits : Suits kind v)
    (accepted : Draft.operand kind v = .ok operand) : operand.Writable kind := by
  cases suits with
  | truth b =>
    cases accepted
    exact .truth b
  | truthText s =>
    simp only [Draft.operand, booleanOperand] at accepted
    split at accepted
    · cases accepted
      exact .truth true
    split at accepted
    · cases accepted
      exact .truth false
    · cases accepted
  | int n =>
    have read : numberOperand (.int n) = .ok operand := accepted
    rw [numberOperand.eq_def] at read
    dsimp only at read
    split at read
    · rename_i inRange
      cases read
      exact .number (writable_of_ofInt? inRange)
    · cases read
  | @float x finite =>
    have read : numberOperand (.float x) = .ok operand := accepted
    rw [numberOperand.eq_def] at read
    dsimp only at read
    rw [if_pos finite] at read
    cases read
    exact .number (n := .float x) finite
  | @numberText s finite =>
    have read : numberOperand (.str s) = .ok operand := accepted
    rw [numberOperand.eq_def] at read
    dsimp only at read
    split at read
    · rename_i n literal
      cases read
      exact .number (n := .int n) (writable_of_readLiteral literal)
    · rename_i x literal
      cases read
      exact .number (n := .float x) (finite x literal)
    · cases read
    · cases read
  | string s =>
    cases accepted
    exact .string s
  | date d =>
    cases accepted
    refine writable_of_isoCharacters ?_
    rw [String.toList_ofList]
    exact day_characters d
  | datetime t =>
    cases accepted
    exact writable_of_isoCharacters (timestamp_characters t)
  | dateText noNull noFeed =>
    cases accepted
    exact .date noNull noFeed
  | item writable =>
    have single : ∀ item ∈ [v], item.Writable := List.forall_mem_singleton.2 writable
    cases writable with
    | text s =>
      cases accepted
      exact .items single
    | @number n writable =>
      cases n <;> (cases accepted; exact .items single)
  | items writable =>
    cases accepted
    exact .items writable

theorem operand_of_condition {field : String} {operator value : Value} {c : Condition}
    (accepted : condition field operator value = .ok c) : operand c.field.kind value = .ok c.operand := by
  unfold condition at accepted
  split at accepted
  · cases accepted
  split at accepted
  · cases accepted
  split at accepted
  · cases accepted
  obtain ⟨operand, found, eq⟩ := Outcome.map_eq_ok.1 accepted
  cases eq
  exact found

theorem writable_of_condition {field : String} {operator value : Value} {c : Condition}
    (accepted : condition field operator value = .ok c) (suits : Suits c.field.kind value) : c.Writable :=
  suits.writable (operand_of_condition accepted)

section Reading

variable {admitted : Nat → Prop} {property : Condition → Prop} {form : Condition → Condition}

theorem written_further
    (row : ∀ c text, property c → c.written = .ok text → ∃ ls, Row text.toList ls ∧ ConditionPhrase admitted ls (form c))
    {steps : List (Joiner × Condition)} (hold : ∀ step ∈ steps, property step.2) {texts : List String}
    (written : steps.mapM (fun (j, c) => c.written.map (" " ++ j.symbol ++ " " ++ ·)) = .ok texts) :
    ∃ ls, Row (String.join texts).toList ls ∧ Boundary (String.join texts).toList ∧
      Further (ConditionPhrase admitted) ls (steps.map fun step => (step.1, form step.2)) := by
  induction steps generalizing texts with
  | nil =>
    cases written
    exact ⟨[], .gap (by simp), by simpa using boundary_nil, .nil⟩
  | cons step steps ih =>
    obtain ⟨j, c⟩ := step
    obtain ⟨first, others⟩ := List.forall_mem_cons.1 hold
    obtain ⟨_, rest, firstWritten, restWritten, rfl⟩ := Outcome.mapM_cons_eq_ok.1 written
    obtain ⟨text, ofCondition, rfl⟩ := Outcome.map_eq_ok.1 firstWritten
    obtain ⟨more, later, boundary, further⟩ := ih others restWritten
    obtain ⟨ls, own, phrase⟩ := row c text first ofCondition
    have gap (cs : List Char) : Boundary (' ' :: cs) := boundary_cons (.inl (by decide)) (by decide) cs
    have behindJoiner := (own.append boundary later).cons_gap (c := ' ') (by decide)
    have joiner : Row j.symbol.toList [.joiner j] := .single (.joiner j)
    have joined := (joiner.append (gap _) behindJoiner).cons_gap (c := ' ') (by decide)
    refine ⟨_, ?_, ?_, .cons phrase further⟩
    · simpa [String.join_cons] using joined
    · simpa [String.join_cons] using gap _

/-- A draft can be written if its conditions can. -/
theorem Holds.exists_written_iff {d : Draft} (holds : Holds property d) :
    (∃ text, d.written = .ok text) ↔ ∀ c ∈ d.conditions, ∃ text, c.written = .ok text := by
  obtain ⟨conditions, joiners, pending⟩ := d
  cases conditions with
  | nil => exact iff_of_true ⟨"", rfl⟩ (List.forall_mem_nil _)
  | cons first rest =>
    have balance : joiners.length = rest.length := holds.joiners
    have further : (∃ texts, (joiners.zip rest).mapM (fun (j, c) => c.written.map (" " ++ j.symbol ++ " " ++ ·)) = .ok texts) ↔
        ∀ c ∈ rest, ∃ text, c.written = .ok text := by
      have rests : (joiners.zip rest).map Prod.snd = rest := List.map_snd_zip (Nat.le_of_eq balance.symm)
      have own : (∀ c ∈ (joiners.zip rest).map Prod.snd, ∃ text, c.written = .ok text) ↔
          ∀ step ∈ joiners.zip rest, ∃ text, step.2.written = .ok text := List.forall_mem_map
      rw [rests] at own
      rw [Outcome.exists_mapM_iff, own]
      exact forall_congr' fun step => forall_congr' fun _ => Outcome.exists_map_iff
    rw [List.forall_mem_cons, ← further]
    exact Outcome.exists_both_iff

/-- Where the text of every condition is a row for that condition in some form, the text of a draft is a row for the fold
of its conditions in this form. -/
theorem Holds.written_phrase {d : Draft} {text : String} (holds : Holds property d) (nonempty : d.conditions ≠ [])
    (written : d.written = .ok text)
    (row : ∀ c text, property c → c.written = .ok text → ∃ ls, Row text.toList ls ∧ ConditionPhrase admitted ls (form c)) :
    ∃ ts, Token.ofText text = .ok ts ∧ FilterPhrase admitted (ts.map Token.lexeme) (d.build.map form) := by
  obtain ⟨conditions, joiners, pending⟩ := d
  cases conditions with
  | nil => exact absurd rfl nonempty
  | cons first rest =>
    obtain ⟨firstHolds, others⟩ := List.forall_mem_cons.1 holds.conditions
    have balance : joiners.length = rest.length := holds.joiners
    have inZip : ∀ step ∈ joiners.zip rest, property step.2 := fun step member => others _ (List.of_mem_zip member).2
    obtain ⟨firstText, texts, ofFirst, ofRest, rfl⟩ := Outcome.both_eq_ok.1 written
    obtain ⟨ls, own, phrase⟩ := row first firstText firstHolds ofFirst
    obtain ⟨more, later, boundary, further⟩ := written_further row inZip ofRest
    have whole : Row (firstText ++ String.join texts).toList (ls ++ more) := by
      rw [String.toList_append]
      exact own.append boundary later
    obtain ⟨ts, tokens, lexemes⟩ := whole.ofText
    have filter := FilterPhrase.flat phrase further
    have fronts : ((joiners.zip rest).map fun step => (step.1, form step.2)).map Prod.fst = joiners := by
      rw [List.map_map]
      exact List.map_fst_zip (Nat.le_of_eq balance)
    have backs : ((joiners.zip rest).map fun step => (step.1, form step.2)).map Prod.snd = rest.map form := by
      have rests : (joiners.zip rest).map Prod.snd = rest := List.map_snd_zip (Nat.le_of_eq balance.symm)
      rw [List.map_map, ← rests, List.map_map, rests]
      rfl
    rw [← lexemes, fronts, backs, ← List.map_cons, Expression.fold_map] at filter
    exact ⟨ts, tokens, filter⟩

end Reading

/-- Writable conditions are written as a text that is read as the fold of the conditions without their null characters. -/
theorem Holds.read_written {d : Draft} (holds : Holds Condition.Writable d) (nonempty : d.conditions ≠ []) :
    ∃ text, d.written = .ok text ∧ Filter.read text = .ok d.build.withoutNulls := by
  obtain ⟨text, written⟩ := holds.exists_written_iff.2 fun c member => (holds.conditions c member).exists_written
  obtain ⟨ts, tokens, phrase⟩ := holds.written_phrase nonempty written fun _ _ writable => writable.row
  exact ⟨text, written, (Filter.read_eq_ok_iff tokens).2 phrase⟩

/-- A draft is written as a text that is read as its filter, without null characters, whatever steps led to the draft: it
has a condition, and the values that were accepted suit their fields. -/
theorem run_read_written {steps : List Step}
    (suits : ∀ field operator value c, .compare field operator value ∈ steps →
      condition field operator value = .ok c → Suits c.field.kind value)
    (nonempty : (empty.run steps).conditions ≠ []) :
    ∃ text, (empty.run steps).written = .ok text ∧ Filter.read text = .ok (empty.run steps).build.withoutNulls := by
  have holds : Holds Condition.Writable (empty.run steps) := by
    refine holds_empty.run ?_
    rintro c ⟨field, operator, value, member, accepted⟩
    exact writable_of_condition accepted (suits field operator value c member accepted)
  exact holds.read_written nonempty

/-- A quoted text with a quote, a null character and signs in it, a number in a text, a list, and a step that is refused. -/
theorem run_read_written_quote :
    let steps : List Step := [.compare "title" (.str "LIKE") (.str "a\"\x00 && ("), .joinByOr,
      .compare "priority" (.str ">=") (.str " 07 "), .compare "done" (.str "=") .null,
      .compare "labels" (.str "Not  In") (.list [.int 4, .str "b, c"])]
    let text := "title like \"a\\\" && (\" || priority >= 7 && labels not in [4, \"b, c\"]"
    (empty.run steps).written = .ok text ∧
      Filter.read text = .ok ⟨[⟨[⟨.title, .like, .one (.str "a\" && (")⟩,
        ⟨.priority, .greaterEqual, .one (.int 7)⟩], .or⟩, ⟨[⟨.labels, .notIn, .many [.int 4, .str "b, c"]⟩], .or⟩], .and⟩ := by
  intro steps text
  have run : empty.run steps = ⟨[⟨.title, .like, .one (.str "a\"\x00 && (")⟩,
      ⟨.priority, .greaterEqual, .one (.int 7)⟩, ⟨.labels, .notIn, .many [.int 4, .str "b, c"]⟩], [.or, .and], .and⟩ := by
    decide +kernel
  have suits : ∀ field operator value c, .compare field operator value ∈ steps →
      condition field operator value = .ok c → Suits c.field.kind value := by
    intro field operator value c member accepted
    simp only [steps, List.mem_cons, List.not_mem_nil, or_false, Step.compare.injEq, reduceCtorEq, false_or] at member
    rcases member with ⟨rfl, rfl, rfl⟩ | ⟨rfl, rfl, rfl⟩ | ⟨rfl, rfl, rfl⟩ | ⟨rfl, rfl, rfl⟩
    · cases accepted
      exact .string _
    · have literal : readLiteral (Text.trim " 07 ") = .number (.int 7) := by decide +kernel
      cases accepted
      refine .numberText fun x float => ?_
      rw [literal] at float
      cases float
    · cases accepted
    · have four : (Number.int 4).Writable := by
        show (Nat.toDigits 10 4).length ≤ integerDigitLimit
        decide
      cases accepted
      exact .items (List.forall_mem_cons.2 ⟨.number four, List.forall_mem_singleton.2 (.text _)⟩)
  have written : (empty.run steps).written = .ok text := by
    rw [run]
    decide +kernel
  obtain ⟨own, same, read⟩ := run_read_written suits (by rw [run]; exact List.cons_ne_nil _ _)
  cases written.symm.trans same
  rw [run] at read
  exact ⟨written, read⟩

end Draft

end TaskQuery
