import TaskQuery.Proofs.HeldValue
import TaskQuery.Proofs.IntegerDoubles
import TaskQuery.Proofs.OperandRow
import TaskQuery.Proofs.TotalReading

namespace TaskQuery

theorem Numeral.negative_eq (m : Numeral) (nonzero : m.toInt ≠ 0) : m.negative = decide (m.toInt < 0) := by
  unfold toInt at nonzero ⊢
  by_cases negative : m.negative = true
  · rw [if_pos negative] at nonzero ⊢
    rw [negative, eq_comm, decide_eq_true_iff]
    omega
  · rw [if_neg negative] at nonzero ⊢
    rw [Bool.eq_false_iff.2 negative, eq_comm, decide_eq_false_iff_not]
    omega

/-- An integer without point and exponent is its digits over one. -/
theorem Numeral.Spelled.toDecimal_integral {cs : List Char} {m : Numeral} (spelled : Spelled cs m)
    (integral : m.integral = true) : m.toDecimal.num = m.toInt.natAbs ∧ m.toDecimal.den = 1 := by
  cases spelled with
  | @parts _ _ _ _ negative whole fraction exponent =>
    obtain ⟨noFraction, noExponent⟩ := Bool.and_eq_true_iff.1 integral
    obtain rfl := Option.isNone_iff_eq_none.1 noFraction
    obtain rfl := Option.isNone_iff_eq_none.1 noExponent
    cases negative <;> simp [Numeral.toDecimal, Decimal.num, Decimal.den, Numeral.toInt]

/-- The text of an integer is read as the double nearest to it. A zero may keep another sign. -/
theorem readMeasure?_toString (n : Int) :
    ∃ x, readMeasure? (toString n) = some x ∧ x.isNumber = true ∧
      x.position? = (Double.ofRatio (n < 0) n.natAbs 1).position? := by
  obtain ⟨m, spelled, integral, value, _⟩ := Numeral.spelled_toString n
  obtain ⟨num, den⟩ := spelled.toDecimal_integral integral
  have noFeed : dropFinalNewline (toString n).toList = (toString n).toList := (Number.int n).dropFinalNewline_display
  rw [← noFeed] at spelled
  refine ⟨_, spelled.readMeasure?, ?_⟩
  rw [Decimal.toDouble_eq, num, den, value]
  refine ⟨Double.isNumber_ofRatio _ _ _, ?_⟩
  by_cases zero : n = 0
  · rw [zero, Int.natAbs_zero, Double.position?_ofRatio_zero, Double.position?_ofRatio_zero]
  · have sign : m.toDecimal.negative = decide (n < 0) := value ▸ m.negative_eq (value ▸ zero)
    rw [sign]

/-- The text of an integer, as an identifier, has the place of the double nearest to the integer. -/
theorem Value.identifier?_toString (n : Int) :
    ∃ id, (Value.str (toString n)).identifier? = some id ∧
      id.position? = (Double.ofRatio (n < 0) n.natAbs 1).position? := by
  obtain ⟨x, read, isNumber, place⟩ := readMeasure?_toString n
  have trimmed : Text.trim (toString n) = toString n := (Number.int n).trim_display
  simp only [identifier?, trimmed, read, Option.filter_some, isNumber, if_true, Option.map_some]
  refine ⟨_, rfl, ?_⟩
  split
  · rename_i whole
    rw [← place, Double.toInt?_eq_some_iff.1 whole, Number.position?]
  · exact place

namespace Match

variable {v w : Value} {id other : Number}

/-- Identifiers are compared by their places. -/
theorem overlap_congr_place (left : v.identifier? = some id) (right : w.identifier? = some other)
    (same : id.position? = other.position?) (actual : List Value) : overlap actual [v] = overlap actual [w] := by
  have alike : Number.same id = Number.same other := by
    funext a
    rw [Number.same, Number.same, same]
  simp only [overlap, List.filterMap_cons, left, right, List.filterMap_nil, List.any_cons, isAmong, alike]

/-- An identifier is among integers if it has the place of one of them. -/
theorem overlap_integers_iff (named : v.identifier? = some id) (ids : List Int) :
    overlap (ids.map .int) [v] = true ↔ ∃ m ∈ ids, id.position? = some (.point (m * unitsPerOne)) := by
  have integers : (ids.map Value.int).filterMap Value.identifier? = ids.map Number.int := by
    rw [List.filterMap_map]
    exact congrFun (List.filterMap_eq_map (f := Number.int)) ids
  simp only [overlap, integers, List.filterMap_cons, named, List.filterMap_nil, List.any_cons, List.any_nil,
    Bool.or_false, isAmong, List.any_map, List.any_eq_true]
  refine exists_congr fun m => and_congr_right fun _ => ?_
  rw [Function.comp_apply, Number.same, Number.position?]
  generalize Position.point (m * unitsPerOne) = place
  cases id.position? with
  | none => exact iff_of_false Bool.false_ne_true (Option.some_ne_none place).symm
  | some p => exact beq_iff_eq.trans Option.some_inj.symm

theorem overlap_int (ids : List Int) (n : Int) : overlap (ids.map .int) [.int n] = decide (n ∈ ids) := by
  have positive : (unitsPerOne : Int) ≠ 0 := Int.natCast_ne_zero.2 (Nat.ne_of_gt unitsPerOne_pos)
  have place (m : Int) : (Number.int n).position? = some (.point (m * unitsPerOne)) ↔ n = m := by
    rw [Number.position?, Option.some.injEq, Position.point.injEq, Int.mul_eq_mul_right_iff positive]
  have named : (Value.int n).identifier? = some (.int n) := rfl
  rw [Bool.eq_iff_iff, overlap_integers_iff named, decide_eq_true_iff]
  simp only [place, exists_eq_right']

theorem overlap_text (ids : List Int) (n : Int) :
    overlap (ids.map .int) [.str (toString n)] = (Double.rounded? n).any (· ∈ ids) := by
  obtain ⟨id, named, place⟩ := Value.identifier?_toString n
  rw [Bool.eq_iff_iff, overlap_integers_iff named, Option.any_eq_true]
  simp only [place, ← Double.toInt?_eq_some_iff, ← Double.rounded?_eq, decide_eq_true_eq]
  exact exists_congr fun m => and_comm

end Match

namespace Condition

/-- Membership of an identifier that is written as an integer. -/
def plainId (f : Field) (op : Operator) (n : Int) : Condition :=
  ⟨f, op, .many [.int n]⟩

/-- Membership of an identifier that is written as the text of an integer. -/
def quotedId (f : Field) (op : Operator) (n : Int) : Condition :=
  ⟨f, op, .many [.str (toString n)]⟩

section Relation

variable {f : Field} (relation : f.kind = .array)

include relation

/-- On integers, a plain identifier is one of them, and a quoted one is rounded first. -/
theorem ids_of_integers (n : Int) (now : Timestamp) {task : Value} {ids : List Int}
    (held : Match.identities (Match.fieldValue task f) = .ok (ids.map .int)) :
    (plainId f .isIn n).holds now task = .ok (decide (n ∈ ids)) ∧
    (plainId f .notIn n).holds now task = .ok (!decide (n ∈ ids)) ∧
    (quotedId f .isIn n).holds now task = .ok ((Double.rounded? n).any (· ∈ ids)) ∧
    (quotedId f .notIn n).holds now task = .ok (!(Double.rounded? n).any (· ∈ ids)) := by
  have answer {op : Operator} (membership : op = .isIn ∨ op = .notIn) (items : List Value) :
      (⟨f, op, .many items⟩ : Condition).holds now task = .ok (Match.compareLists (some op) (ids.map .int) items) := by
    rw [holds_of_relation relation membership, held]
    rfl
  simp only [plainId, quotedId, answer (.inl rfl), answer (.inr rfl), Match.compareLists, Match.overlap_int,
    Match.overlap_text, and_self]

/-- On every task whatever it holds, an integer that is a double means the same identifier in quotes. -/
theorem holds_quotedId {n : Int} (exact : Double.Exact n) {op : Operator} (membership : op = .isIn ∨ op = .notIn)
    (now : Timestamp) (task : Value) : (quotedId f op n).holds now task = (plainId f op n).holds now task := by
  obtain ⟨id, named, place⟩ := Value.identifier?_toString n
  have same : id.position? = (Number.int n).position? := by
    rw [place, Number.position?, ← Double.toInt?_eq_some_iff, ← Double.rounded?_eq, Double.rounded?_eq_self_iff]
    exact exact
  have common := Match.overlap_congr_place named (w := .int n) rfl same
  have alike (ids : List Value) :
      Match.compareLists (some op) ids [.str (toString n)] = Match.compareLists (some op) ids [.int n] := by
    rcases membership with rfl | rfl <;> simp only [Match.compareLists, common]
  simp only [quotedId, plainId, holds_of_relation relation membership, Match.valuesOf, alike]

end Relation

/-- An identifier in quotes is rounded to a double, a plain one is not. On a task whose relation holds integers the plain
one is in the relation if it is one of them, and the quoted one if the integer that it is rounded to is. So the two
agree on every task if and only if the integer is a double itself. -/
theorem quotedId_iff {f : Field} (relation : f.kind = .array) (n : Int) :
    (∀ (now : Timestamp) (task : Value) (ids : List Int),
      Match.identities (Match.fieldValue task f) = .ok (ids.map .int) →
        (plainId f .isIn n).holds now task = .ok (decide (n ∈ ids)) ∧
        (plainId f .notIn n).holds now task = .ok (!decide (n ∈ ids)) ∧
        (quotedId f .isIn n).holds now task = .ok ((Double.rounded? n).any (· ∈ ids)) ∧
        (quotedId f .notIn n).holds now task = .ok (!(Double.rounded? n).any (· ∈ ids))) ∧
    ∀ op, op = .isIn ∨ op = .notIn →
      ((∀ now task, (quotedId f op n).holds now task = (plainId f op n).holds now task) ↔ Double.Exact n) := by
  refine ⟨fun now _ _ held => ids_of_integers relation n now held, fun op membership => ?_⟩
  refine ⟨fun agree => ?_, fun exact now task => holds_quotedId relation exact membership now task⟩
  -- A task that holds this one identifier tells the two apart.
  let now : Timestamp := .utc ⟨0, by decide⟩
  let task : Value := .dict [(f.recordKey, .list [.int n])]
  have held : Match.identities (Match.fieldValue task f) = .ok ([n].map .int) := by
    rw [Match.fieldValue_single]
    rfl
  obtain ⟨plainIn, plainOut, quotedIn, quotedOut⟩ := ids_of_integers relation n now held
  have member : (Double.rounded? n).any (· ∈ [n]) = true := by
    rcases membership with rfl | rfl
    · have answers := (quotedIn.symm.trans (agree now task)).trans plainIn
      simpa using answers
    · have answers := (quotedOut.symm.trans (agree now task)).trans plainOut
      simpa using answers
  obtain ⟨m, rounded, same⟩ := (Option.any_eq_true _ _).1 member
  rw [decide_eq_true_iff, List.mem_singleton] at same
  rw [← Double.rounded?_eq_self_iff, rounded, same]

/-- The identifier 2⁶⁰ means the same in quotes, although it is beyond 2⁵³. -/
theorem quotedId_power :
    let now : Timestamp := .utc ⟨0, by decide⟩
    let task : Value := .dict [("labels", .list [.dict [("id", .int (2 ^ 60))]])]
    Field.labels.kind = .array ∧ Match.identities (Match.fieldValue task .labels) = .ok ([2 ^ 60].map .int) ∧
      (plainId .labels .isIn (2 ^ 60)).holds now task = .ok true ∧
      ∀ now task, (quotedId .labels .isIn (2 ^ 60)).holds now task = (plainId .labels .isIn (2 ^ 60)).holds now task := by
  intro now task
  have held : Match.identities (Match.fieldValue task .labels) = .ok ([2 ^ 60].map .int) := by rfl
  have exact : Double.Exact (2 ^ 60) := ⟨1, 60, by decide, by decide, by decide⟩
  obtain ⟨answers, agree⟩ := quotedId_iff (f := .labels) rfl (2 ^ 60)
  exact ⟨rfl, held, by simpa using (answers now task [2 ^ 60] held).1, (agree .isIn (.inl rfl)).2 exact⟩

/-- A label whose identifier is 2⁵³ + 1 is not found by that identifier in quotes. -/
theorem quotedId_missed :
    let now : Timestamp := .utc ⟨0, by decide⟩
    let task : Value := .dict [("labels", .list [.dict [("id", .int (2 ^ 53 + 1))]])]
    (plainId .labels .isIn (2 ^ 53 + 1)).holds now task = .ok true ∧
      (quotedId .labels .isIn (2 ^ 53 + 1)).holds now task = .ok false := by
  decide +kernel

end Condition

end TaskQuery
