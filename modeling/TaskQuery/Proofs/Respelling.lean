import TaskQuery.Proofs.HeldValue
import TaskQuery.Proofs.LegalCondition
import TaskQuery.Proofs.SmallLetters

namespace TaskQuery

namespace Text

/-- The letters up to the next blank belong to the word that has begun. -/
theorem wordsAfter_eq_cons {word : List Char} (begun : word ≠ []) (cs : List Char) :
    ∃ letters later, wordsAfter word cs = (word.reverse ++ letters) :: later := by
  induction cs generalizing word with
  | nil => exact ⟨[], [], by simp [wordsAfter, begun]⟩
  | cons c cs ih =>
    by_cases blank : isBlank c = true
    · exact ⟨[], wordsAfter [] cs, by simp [wordsAfter, blank, begun]⟩
    · obtain ⟨letters, later, words⟩ := ih (List.cons_ne_nil c word)
      exact ⟨c :: letters, later, by simp [wordsAfter, blank, words]⟩

/-- A text that does not begin with a blank keeps its first character when its blanks are squeezed. -/
theorem squeeze_cons {c : Char} (letter : isBlank c = false) (cs : List Char) : ∃ rest, squeeze (c :: cs) = c :: rest := by
  obtain ⟨letters, later, found⟩ := wordsAfter_eq_cons (List.cons_ne_nil c []) cs
  have split : words (c :: cs) = (c :: letters) :: later := by
    simpa [words, wordsAfter, letter] using found
  rw [squeeze, split]
  cases later with
  | nil => exact ⟨letters, by simp⟩
  | cons word later => exact ⟨letters ++ ' ' :: [' '].intercalate (word :: later), by simp [List.intercalate]⟩

theorem ascii_of_isAlpha {c : Char} (letter : c.isAlpha = true) : c.toNat < 128 := by
  have lastCapital : 'Z'.val.toNat = 90 := rfl
  have lastSmall : 'z'.val.toNat = 122 := rfl
  have ranges : (decide (c.val ≥ 'A'.val ∧ c.val ≤ 'Z'.val) ||
      decide (c.val ≥ 'a'.val) && decide (c.val ≤ 'z'.val)) = true := letter
  simp only [Bool.or_eq_true, Bool.and_eq_true, decide_eq_true_eq, ge_iff_le, UInt32.le_iff_toNat_le] at ranges
  show c.val.toNat < 128
  omega

/-- A letter is no blank, and its small form is a letter. -/
theorem letter_of_isAlpha {c : Char} (letter : c.isAlpha = true) : isBlank c = false ∧ c.toLower.isAlpha = true :=
  of_ascii (fun c => c.isAlpha = true → isBlank c = false ∧ c.toLower.isAlpha = true) (by decide)
    (ascii_of_isAlpha letter) letter

theorem lower_cons_of_isAlpha {c : Char} (letter : c.isAlpha = true) (cs : List Char) :
    ∃ rest, lower (c :: cs) = c.toLower :: rest := by
  have ascii := ascii_of_isAlpha letter
  -- The two capitals whose small form is not a single letter of its own are beyond ASCII.
  have sigma : c ≠ capitalSigma := by
    rintro rfl
    exact absurd ascii (by decide)
  have dotted : c ≠ 'İ' := by
    rintro rfl
    exact absurd ascii (by decide)
  have single : lowerAt [] c cs = [c.toLower] := by
    rw [lowerAt, if_neg sigma, if_neg dotted, lowerChar]
    simp [ascii]
  refine ⟨lowerAfter [c] cs, ?_⟩
  rw [lower, lowerAfter, single]
  rfl

end Text

namespace Operator

/-- The operators that are spelled with letters. -/
def IsWord (op : Operator) : Prop :=
  op = like ∨ op = isIn ∨ op = notIn

theorem isWord_of_head {op : Operator} {c : Char} {cs : List Char} (spelled : op.symbol.toList = c :: cs)
    (letter : c.isAlpha = true) : op.IsWord := by
  have head : op.symbol.toList.head? = some c := by rw [spelled]; rfl
  cases op with
  | like => exact .inl rfl
  | isIn => exact .inr (.inl rfl)
  | notIn => exact .inr (.inr rfl)
  | _ =>
    cases head
    cases letter

/-- An operator that is not spelled as the catalogue does is a word, and no other operator has that spelling. -/
theorem eq_symbol_or_isWord {s : String} {op : Operator} (spelled : ofSpelling? s = some op) :
    s = op.symbol ∨ ofSymbol? s = none ∧ op.IsWord := by
  cases exact : ofSymbol? s with
  | some other =>
    have same : s = other.symbol := ofSymbol?_eq_some_iff.1 exact
    rw [same, ofSpelling?_symbol] at spelled
    cases spelled
    exact .inl same
  | none =>
    refine .inr ⟨rfl, ?_⟩
    unfold ofSpelling? at spelled
    split at spelled
    · rename_i begins
      have squeezed := congrArg String.toList (ofSymbol?_eq_some_iff.1 spelled)
      rw [String.toList_ofList] at squeezed
      cases letters : s.toList with
      | nil =>
        rw [letters] at begins
        cases begins
      | cons c cs =>
        rw [letters] at begins squeezed
        have letter : c.isAlpha = true := begins
        obtain ⟨rest, front⟩ := Text.squeeze_cons (Text.letter_of_isAlpha letter).1 cs
        obtain ⟨small, lowered⟩ := Text.lower_cons_of_isAlpha letter rest
        rw [front, lowered] at squeezed
        exact isWord_of_head squeezed.symm (Text.letter_of_isAlpha letter).2
    · rw [exact] at spelled
      cases spelled

end Operator

namespace Kind

theorem allows_like {kind : Kind} : kind.allows .like = true ↔ kind = .string := by
  cases kind <;> decide

theorem allows_isIn {kind : Kind} : kind.allows .isIn = true ↔ kind = .array := by
  cases kind <;> decide

theorem allows_notIn {kind : Kind} : kind.allows .notIn = true ↔ kind = .array := by
  cases kind <;> decide

end Kind

namespace Match

/-- Whether a value stands for a number when it is compared as an identifier. -/
def StandsForId (v : Value) : Prop :=
  ∃ id, v.identifier? = some id ∧ id.position? ≠ none

theorem same_self {id : Number} (placed : id.position? ≠ none) : id.same id = true := by
  obtain ⟨p, position⟩ := Option.ne_none_iff_exists'.1 placed
  simp [Number.same, position]

/-- What has an identifier in common with something stands for a number. -/
theorem exists_standsForId_of_overlap {actual expected : List Value} (common : overlap actual expected = true) :
    ∃ v ∈ expected, StandsForId v := by
  unfold overlap at common
  simp only [List.any_eq_true, isAmong] at common
  obtain ⟨id, among, other, _, same⟩ := common
  obtain ⟨v, member, named⟩ := List.mem_filterMap.1 among
  refine ⟨v, member, id, named, fun nowhere => ?_⟩
  simp [Number.same, nowhere] at same

theorem overlap_nil (expected : List Value) : overlap [] expected = false :=
  List.any_eq_false.2 fun _ _ => Bool.false_ne_true

theorem overlap_single {v : Value} {expected : List Value} (member : v ∈ expected) (stands : StandsForId v) :
    overlap [v] expected = true := by
  obtain ⟨id, named, placed⟩ := stands
  simp only [overlap, List.any_eq_true]
  refine ⟨id, List.mem_filterMap.2 ⟨v, member, named⟩, ?_⟩
  simp [isAmong, named, same_self placed]

theorem compareTexts_like_self (s : String) : compareTexts (some .like) s s = true :=
  Text.occursIn_iff.2 ⟨[], [], by simp⟩

end Match

namespace Condition

variable {limits : Limits} {clock : Timestamp} {c : Condition}

theorem Legal.string_operand (legal : c.Legal limits clock) (kind : c.field.kind = .string) :
    ∃ s, c.operand = .one (.str s) := by
  have fits := legal.fits
  simp only [Check.kindProblems, kind] at fits
  split at fits
  · rename_i s text
    cases operand : c.operand with
    | one v =>
      rw [operand] at text
      exact ⟨s, congrArg Operand.one text⟩
    | many items =>
      rw [operand] at text
      cases text
  · cases fits

/-- A condition with a word for an operator is met by some task, unless it asks for identifiers and names none. -/
theorem Legal.exists_holds_iff (legal : c.Legal limits clock) (word : c.operator.IsWord) (now : Timestamp) :
    (∃ task, c.holds now task = .ok true) ↔
      (c.operator = .isIn → ∃ v ∈ Match.valuesOf c.operand, Match.StandsForId v) := by
  have suits := legal.suits
  simp only [holds_of_allows suits]
  rcases word with op | op | op <;> rw [op] at suits
  · have kind := Kind.allows_like.1 suits
    obtain ⟨s, operand⟩ := legal.string_operand kind
    refine iff_of_true ⟨.dict [(c.field.recordKey, .str s)], ?_⟩ (by simp [op])
    rw [kind, op, operand, Match.fieldValue_single]
    exact congrArg Except.ok (Match.compareTexts_like_self s)
  · have kind := Kind.allows_isIn.1 suits
    simp only [kind, op, forall_const]
    constructor
    · rintro ⟨task, met⟩
      obtain ⟨ids, _, common⟩ := Outcome.map_eq_ok.1 met
      exact Match.exists_standsForId_of_overlap common
    · rintro ⟨v, member, stands⟩
      have common := Match.overlap_single member stands
      refine ⟨.dict [(c.field.recordKey, .list [.dict [("id", v)]])], ?_⟩
      rw [Match.fieldValue_single, Match.compareHeld, Match.identities_list]
      exact congrArg Except.ok common
  · have kind := Kind.allows_notIn.1 suits
    have apart := Match.overlap_nil (Match.valuesOf c.operand)
    refine iff_of_true ⟨.dict [], ?_⟩ (by simp [op])
    rw [kind, op, Match.fieldValue_empty]
    show Except.ok (!Match.overlap [] (Match.valuesOf c.operand)) = .ok true
    rw [apart]
    rfl

/-- A condition with a word for an operator does not fail on every task: some task meets it, or has no items to look at. -/
theorem Legal.exists_holds_ne_false (legal : c.Legal limits clock) (word : c.operator.IsWord) (now : Timestamp) :
    ∃ task, c.holds now task ≠ .ok false := by
  by_cases op : c.operator = .isIn
  · have suits := legal.suits
    rw [op] at suits
    have kind := Kind.allows_isIn.1 suits
    refine ⟨.dict [(c.field.recordKey, .bool true)], ?_⟩
    rw [holds_of_allows legal.suits, kind, Match.fieldValue_single]
    intro same
    cases same
  · obtain ⟨task, met⟩ := (legal.exists_holds_iff word now).2 fun isIn => absurd isIn op
    refine ⟨task, ?_⟩
    rw [met]
    intro same
    cases same

end Condition

namespace Unchecked.Condition

/-- A condition whose operator is spelled as the catalogue does holds as the condition that it stands for. -/
theorem holds_of_symbol {c : Unchecked.Condition} {meant : TaskQuery.Condition} (stands : c.meant? = some meant)
    (spelled : c.operator = meant.operator.symbol) (now : Timestamp) (task : Value) :
    c.holds now task = meant.holds now task := by
  obtain ⟨field, _, operand⟩ := meant?_eq_some_iff.1 stands
  have known : c.known? = some meant := known?_eq_some_iff.2 ⟨field, spelled, operand⟩
  rw [holds, known]

/-- A condition whose operator is spelled otherwise holds for no task. -/
theorem holds_of_respelled {c : Unchecked.Condition} {meant : TaskQuery.Condition} (stands : c.meant? = some meant)
    (respelled : c.operator ≠ meant.operator.symbol) (now : Timestamp) (task : Value) :
    c.holds now task = .ok false := by
  obtain ⟨_, spelling, _⟩ := meant?_eq_some_iff.1 stands
  rcases Operator.eq_symbol_or_isWord spelling with same | ⟨unknown, _⟩
  · exact absurd same respelled
  · have notKnown : c.known? = none := by
      rw [known?, unknown]
      cases Field.ofName? c.field <;> rfl
    rw [holds, notKnown]

/-- A condition without problems stands for one of the catalogue, and holds like it for all tasks exactly if its operator
is spelled like there. In any other spelling, which only a word can have, the condition holds for no task at all, while the
one that it stands for holds for some, unless this asks for identifiers and names none. -/
theorem holds_meant_iff {limits : Limits} {clock : Timestamp} {c : Unchecked.Condition}
    (legal : Check.conditionProblems limits clock c.toValue = .ok []) :
    ∃ meant, c.meant? = some meant ∧
      ((∀ now task, c.holds now task = meant.unchecked.holds now task) ↔ c.operator = meant.operator.symbol) ∧
      (c.operator ≠ meant.operator.symbol → meant.operator.IsWord ∧ ∀ now,
        (∀ task, c.holds now task = .ok false) ∧
        ((∃ task, meant.unchecked.holds now task = .ok true) ↔
          (meant.operator = .isIn → ∃ v ∈ Match.valuesOf c.operand, Match.StandsForId v))) := by
  obtain ⟨meant, stands, sound⟩ := Check.conditionProblems_eq_nil_iff.1 legal
  obtain ⟨_, spelling, operand⟩ := meant?_eq_some_iff.1 stands
  have word (respelled : c.operator ≠ meant.operator.symbol) : meant.operator.IsWord := by
    rcases Operator.eq_symbol_or_isWord spelling with same | ⟨_, word⟩
    · exact absurd same respelled
    · exact word
  refine ⟨meant, stands, ⟨fun alike => ?_, fun spelled now task => ?_⟩, fun respelled => ⟨word respelled, fun now => ?_⟩⟩
  · refine Decidable.byContradiction fun respelled => ?_
    have now : Timestamp := ⟨.midnight ⟨0, by decide⟩, none⟩
    obtain ⟨task, met⟩ := sound.exists_holds_ne_false (word respelled) now
    have failed := holds_of_respelled stands respelled now task
    rw [alike now task, meant.holds_unchecked] at failed
    exact met failed
  · rw [meant.holds_unchecked, holds_of_symbol stands spelled]
  · refine ⟨holds_of_respelled stands respelled now, ?_⟩
    simp only [meant.holds_unchecked, operand]
    exact sound.exists_holds_iff (word respelled) now

/-- Two spellings of the same condition: both are without problems, and only one of them can be met. -/
theorem holds_meant_like :
    let now : Timestamp := ⟨⟨0, by decide⟩, none⟩
    let plain : Unchecked.Condition := ⟨"percent_done", ">=", .one (.str "50")⟩
    let capital : Unchecked.Condition := ⟨"title", "LIKE", .one (.str "b")⟩
    Check.conditionProblems {} now plain.toValue = .ok [] ∧
      (∀ clock task, plain.holds clock task = (⟨"percentDone", ">=", .one (.str "50")⟩ : Unchecked.Condition).holds clock task) ∧
      Check.conditionProblems {} now capital.toValue = .ok [] ∧ ∀ clock task, capital.holds clock task = .ok false := by
  intro now plain capital
  have plainLegal : Check.conditionProblems {} now plain.toValue = .ok [] := by decide +kernel
  have capitalLegal : Check.conditionProblems {} now capital.toValue = .ok [] := by decide +kernel
  refine ⟨plainLegal, ?_, capitalLegal, ?_⟩
  · obtain ⟨meant, stands, alike, _⟩ := holds_meant_iff plainLegal
    have known : plain.meant? = some ⟨.percentDone, .greaterEqual, .one (.str "50")⟩ := by decide +kernel
    rw [known] at stands
    cases stands
    exact alike.2 rfl
  · obtain ⟨meant, stands, _, respelled⟩ := holds_meant_iff capitalLegal
    have known : capital.meant? = some ⟨.title, .like, .one (.str "b")⟩ := by decide +kernel
    rw [known] at stands
    cases stands
    exact fun clock task => ((respelled (by decide)).2 clock).1 task

/-- A condition without problems that a task would meet if its operator were in small letters. -/
theorem respelled_not_met :
    let now : Timestamp := ⟨⟨0, by decide⟩, none⟩
    let c : Unchecked.Condition := ⟨"title", "LIKE", .one (.str "b")⟩
    let task := Value.dict [("title", .str "abc")]
    Check.conditionProblems {} now c.toValue = .ok [] ∧ c.meant? = some ⟨.title, .like, .one (.str "b")⟩ ∧
      c.holds now task = .ok false ∧
      (⟨"title", "like", .one (.str "b")⟩ : Unchecked.Condition).holds now task = .ok true := by
  decide +kernel

end Unchecked.Condition

end TaskQuery
