import TaskQuery.Number.Numeral

namespace TaskQuery

open Text

namespace Numeral

/-- A row of decimal digits, of any script, and their values. -/
def Digits (cs : List Char) (ds : List Nat) : Prop :=
  cs.map digitValue? = ds.map some

/-- A sign, and whether it is minus. -/
inductive SpellsSign : List Char → Bool → Prop
  | none : SpellsSign [] false
  | plus : SpellsSign ['+'] false
  | minus : SpellsSign ['-'] true

/-- A point, and the digits behind it. -/
inductive SpellsFraction : List Char → Option (List Nat) → Prop
  | none : SpellsFraction [] none
  | point {cs : List Char} {ds : List Nat} : Digits cs ds → SpellsFraction ('.' :: cs) (some ds)

/-- An exponent, and its value. -/
inductive SpellsExponent : List Char → Option Int → Prop
  | none : SpellsExponent [] none
  | power {mark : Char} {sign cs : List Char} {negative : Bool} {ds : List Nat} : mark = 'e' ∨ mark = 'E' →
      SpellsSign sign negative → Digits cs ds → ds ≠ [] →
      SpellsExponent (mark :: (sign ++ cs)) (some (if negative then -(digitsValue ds : Int) else digitsValue ds))

/-- A number with at least one digit before its exponent. -/
inductive Spelled : List Char → Numeral → Prop
  | parts {sign cs point power : List Char} {negative : Bool} {whole : List Nat} {fraction : Option (List Nat)}
      {exponent : Option Int} : SpellsSign sign negative → Digits cs whole → SpellsFraction point fraction →
      SpellsExponent power exponent → whole ≠ [] ∨ fraction.getD [] ≠ [] →
      Spelled (sign ++ (cs ++ (point ++ power)))
        ⟨negative, whole, fraction.getD [], exponent.getD 0, fraction.isNone && exponent.isNone⟩

/-- Whether no digit stands at the front. -/
def NoDigit (cs : List Char) : Prop :=
  ∀ c ∈ cs.head?, digitValue? c = none

theorem noDigit_nil : NoDigit [] := by
  intro c head
  cases head

theorem Digits.length_eq {cs : List Char} {ds : List Nat} (digits : Digits cs ds) : cs.length = ds.length := by
  have same := congrArg List.length digits
  rwa [List.length_map, List.length_map] at same

theorem Digits.value {cs : List Char} {ds : List Nat} (digits : Digits cs ds) {c : Char} (member : c ∈ cs) :
    digitValue? c ≠ none := by
  have found : digitValue? c ∈ ds.map some := digits ▸ List.mem_map_of_mem member
  obtain ⟨d, _, eq⟩ := List.mem_map.1 found
  rw [← eq]
  exact Option.some_ne_none d

theorem digits_nil : Digits [] [] := rfl

theorem digits_cons {c : Char} {cs : List Char} {d : Nat} {ds : List Nat} :
    Digits (c :: cs) (d :: ds) ↔ digitValue? c = some d ∧ Digits cs ds := by
  simp [Digits]

theorem readDigits_digits (cs : List Char) :
    ∃ written, cs = written ++ (readDigits digitValue? cs).2 ∧ Digits written (readDigits digitValue? cs).1 ∧
      NoDigit (readDigits digitValue? cs).2 := by
  induction cs with
  | nil => exact ⟨[], rfl, digits_nil, noDigit_nil⟩
  | cons c cs ih =>
    obtain ⟨written, split, digits, stop⟩ := ih
    cases value : digitValue? c with
    | none =>
      simp only [readDigits, value]
      refine ⟨[], rfl, digits_nil, ?_⟩
      intro d head
      cases head
      exact value
    | some d =>
      simp only [readDigits, value]
      exact ⟨c :: written, by rw [List.cons_append, ← split], digits_cons.2 ⟨value, digits⟩, stop⟩

theorem Digits.read {cs rest : List Char} {ds : List Nat} (digits : Digits cs ds) (stop : NoDigit rest) :
    readDigits digitValue? (cs ++ rest) = (ds, rest) := by
  induction cs generalizing ds with
  | nil =>
    have empty : ds = [] := List.eq_nil_of_length_eq_zero digits.length_eq.symm
    subst empty
    cases rest with
    | nil => rfl
    | cons c rest => simp [readDigits, stop c rfl]
  | cons c cs ih =>
    obtain _ | ⟨d, ds⟩ := ds
    · cases digits.length_eq
    · obtain ⟨value, later⟩ := digits_cons.1 digits
      simp [readDigits, value, ih later]

theorem readSign_sign (cs : List Char) :
    ∃ sign, cs = sign ++ (readSign cs).2 ∧ SpellsSign sign (readSign cs).1 := by
  unfold readSign
  split
  · exact ⟨['+'], rfl, .plus⟩
  · exact ⟨['-'], rfl, .minus⟩
  · exact ⟨[], rfl, .none⟩

theorem SpellsSign.read {sign cs : List Char} {negative : Bool} (spelled : SpellsSign sign negative)
    (unsigned : ∀ c ∈ cs.head?, c ≠ '+' ∧ c ≠ '-') : readSign (sign ++ cs) = (negative, cs) := by
  cases spelled with
  | none =>
    rw [List.nil_append]
    unfold readSign
    split
    · exact absurd rfl (unsigned '+' rfl).1
    · exact absurd rfl (unsigned '-' rfl).2
    · rfl
  | plus => rfl
  | minus => rfl

theorem readFraction_fraction (cs : List Char) :
    ∃ point, cs = point ++ (readFraction digitValue? cs).2 ∧
      SpellsFraction point (readFraction digitValue? cs).1 := by
  unfold readFraction
  split
  · rename_i cs
    obtain ⟨written, split, digits, _⟩ := readDigits_digits cs
    exact ⟨'.' :: written, by rw [List.cons_append, ← split], .point digits⟩
  · exact ⟨[], rfl, .none⟩

theorem SpellsFraction.read {point cs : List Char} {fraction : Option (List Nat)}
    (spelled : SpellsFraction point fraction) (stop : NoDigit cs) (noPoint : cs.head? ≠ some '.') :
    readFraction digitValue? (point ++ cs) = (fraction, cs) := by
  cases spelled with
  | none =>
    rw [List.nil_append]
    unfold readFraction
    split
    · exact absurd rfl noPoint
    · rfl
  | point digits => rw [List.cons_append, readFraction, digits.read stop]

theorem readExponent_exponent (cs : List Char) :
    ∃ power, cs = power ++ (readExponent digitValue? cs).2 ∧
      SpellsExponent power (readExponent digitValue? cs).1 := by
  unfold readExponent
  split
  · exact ⟨[], rfl, .none⟩
  · rename_i mark rest
    split
    · rename_i isMark
      obtain ⟨sign, signSplit, signSpelled⟩ := readSign_sign rest
      obtain ⟨written, split, digits, _⟩ := readDigits_digits (readSign rest).2
      dsimp only
      split
      · exact ⟨[], rfl, .none⟩
      · rename_i ds after nonempty read
        rw [read] at split digits
        refine ⟨mark :: (sign ++ written), ?_, .power isMark signSpelled digits ?_⟩
        · rw [List.cons_append, List.append_assoc, ← split, ← signSplit]
        · rintro rfl
          exact nonempty rfl
    · exact ⟨[], rfl, .none⟩

theorem Digits.head?_ne {cs : List Char} {ds : List Nat} (digits : Digits cs ds) :
    ∀ c ∈ cs.head?, c ≠ '+' ∧ c ≠ '-' := by
  intro c head
  have value := digits.value (List.mem_of_mem_head? head)
  constructor
  all_goals
    rintro rfl
    exact value (by decide)

theorem SpellsExponent.read {power : List Char} {exponent : Option Int} (spelled : SpellsExponent power exponent) :
    readExponent digitValue? power = (exponent, []) := by
  cases spelled with
  | none => rfl
  | @power mark sign cs negative ds isMark signSpelled digits nonempty =>
    have read := digits.read noDigit_nil
    rw [List.append_nil] at read
    obtain ⟨d, ds, rfl⟩ := List.exists_cons_of_ne_nil nonempty
    simp only [readExponent, if_pos isMark, signSpelled.read digits.head?_ne, read]

theorem SpellsExponent.front {power : List Char} {exponent : Option Int} (spelled : SpellsExponent power exponent) :
    ∀ c ∈ power.head?, c = 'e' ∨ c = 'E' := by
  cases spelled with
  | none => simp
  | power isMark =>
    intro c head
    cases head
    exact isMark

theorem SpellsFraction.front {point rest : List Char} {fraction : Option (List Nat)}
    (spelled : SpellsFraction point fraction) (front : ∀ c ∈ rest.head?, c = 'e' ∨ c = 'E') :
    ∀ c ∈ (point ++ rest).head?, c = '.' ∨ c = 'e' ∨ c = 'E' := by
  cases spelled with
  | none => exact fun c head => .inr (front c head)
  | point =>
    intro c head
    cases head
    exact .inl rfl

theorem noDigit_of_front {cs : List Char} (front : ∀ c ∈ cs.head?, c = '.' ∨ c = 'e' ∨ c = 'E') :
    NoDigit cs := by
  intro c head
  rcases front c head with rfl | rfl | rfl <;> decide

theorem read?_spelled {cs : List Char} {n : Numeral} (h : read? digitValue? cs = some n) : Spelled cs n := by
  obtain ⟨sign, signSplit, signSpelled⟩ := readSign_sign cs
  obtain ⟨written, split, digits, _⟩ := readDigits_digits (readSign cs).2
  obtain ⟨point, pointSplit, pointSpelled⟩ := readFraction_fraction (readDigits digitValue? (readSign cs).2).2
  obtain ⟨power, powerSplit, powerSpelled⟩ :=
    readExponent_exponent (readFraction digitValue? (readDigits digitValue? (readSign cs).2).2).2
  simp only [read?] at h
  split at h
  · cases h
  · rename_i complete
    simp only [Bool.or_eq_true, Bool.and_eq_true, List.isEmpty_iff, Bool.not_eq_true', not_or, not_and,
      Bool.not_eq_false] at complete
    cases h
    have whole : cs = sign ++ (written ++ (point ++ power)) := by
      rw [complete.2, List.append_nil] at powerSplit
      rw [← powerSplit, ← pointSplit, ← split, ← signSplit]
    have digit := Decidable.or_iff_not_imp_left.2 fun noWhole => complete.1 (Decidable.not_not.1 noWhole)
    have spelled := Spelled.parts signSpelled digits pointSpelled powerSpelled digit
    rwa [← whole] at spelled

theorem Spelled.read? {cs : List Char} {n : Numeral} (spelled : Spelled cs n) :
    Numeral.read? digitValue? cs = some n := by
  cases spelled with
  | @parts sign cs point power negative whole fraction exponent signSpelled digits pointSpelled powerSpelled digit =>
    have powerFront := powerSpelled.front
    have pointFront := pointSpelled.front powerFront
    have unsigned : ∀ c ∈ (cs ++ (point ++ power)).head?, c ≠ '+' ∧ c ≠ '-' := by
      intro c head
      cases cs with
      | nil => rcases pointFront c head with rfl | rfl | rfl <;> decide
      | cons => exact digits.head?_ne c head
    have noPoint : power.head? ≠ some '.' := by
      intro head
      rcases powerFront '.' head with eq | eq <;> exact absurd eq (by decide)
    have digitsRead := digits.read (noDigit_of_front pointFront)
    have pointRead := pointSpelled.read (noDigit_of_front fun c head => .inr (powerFront c head)) noPoint
    have present : ¬(whole = [] ∧ fraction.getD [] = []) := by
      rintro ⟨noWhole, noFraction⟩
      exact digit.elim (· noWhole) (· noFraction)
    simp [Numeral.read?, signSpelled.read unsigned, digitsRead, pointRead, powerSpelled.read, present]

theorem Spelled.whole_length_le {cs : List Char} {n : Numeral} (spelled : Spelled cs n) : n.whole.length ≤ cs.length := by
  cases spelled with
  | parts _ digits _ _ _ =>
    simp only [List.length_append, digits.length_eq]
    omega

/-- The number that a numeral denotes: an integer if it has neither a point nor an exponent, and a double otherwise. -/
def number (n : Numeral) : Number :=
  if n.integral then .int n.toInt else .float n.toDecimal.toDouble

end Numeral

/-- What a number literal is read as, by the numeral that it spells. -/
theorem readLiteral_of_spelled {s : String} {n : Numeral} (spelled : Numeral.Spelled (dropFinalNewline s.toList) n) :
    readLiteral s =
      if n.integral = true ∧ integerDigitLimit < n.whole.length then .tooManyDigits n.whole.length
      else .number n.number := by
  simp only [readLiteral, spelled.read?]
  by_cases integral : n.integral = true
  · by_cases long : integerDigitLimit < n.whole.length
    · simp [integral, long]
    · simp [integral, long, Numeral.number]
  · simp [integral, Numeral.number]

theorem readLiteral_eq_notNumber_iff {s : String} :
    readLiteral s = .notNumber ↔ ∀ n, ¬Numeral.Spelled (dropFinalNewline s.toList) n := by
  constructor
  · intro h n spelled
    rw [readLiteral_of_spelled spelled] at h
    split at h <;> cases h
  · intro unspelled
    have unread : Numeral.read? digitValue? (dropFinalNewline s.toList) = Option.none :=
      Option.eq_none_iff_forall_ne_some.2 fun n found => unspelled n (Numeral.read?_spelled found)
    simp [readLiteral, unread]

theorem length_dropFinalNewline_le (cs : List Char) : (dropFinalNewline cs).length ≤ cs.length := by
  unfold dropFinalNewline
  split
  · rw [List.length_dropLast]
    omega
  · exact Nat.le_refl _

end TaskQuery
