import Mathlib.Algebra.Field.Rat
import Mathlib.Data.Rat.Cast.CharZero
import Mathlib.Order.WithBot
import TaskQuery.Proofs.HeldValue
import TaskQuery.Proofs.Rounding

namespace TaskQuery

section Values

/-- The exact value of a number: a fraction, or one of the two ends beyond all fractions. Not-a-number has none. -/
def Number.value? : Number → Option (WithBot (WithTop ℚ))
  | .int n => some ((n : ℚ) : WithTop ℚ)
  | .float .nan => none
  | .float (.infinite negative) => some (if negative then ⊥ else ⊤)
  | .float (.finite negative code) =>
    let units : Int := if negative then -(codeUnits code : Int) else codeUnits code
    some ((units / unitsPerOne : ℚ) : WithTop ℚ)

/-- The value of a place on the line. -/
def Position.value : Position → WithBot (WithTop ℚ)
  | bottom => ⊥
  | point units => ((units / unitsPerOne : ℚ) : WithTop ℚ)
  | top => ⊤

theorem unitsPerOne_ne_zero : (unitsPerOne : ℚ) ≠ 0 :=
  Nat.cast_ne_zero.2 (Nat.ne_of_gt unitsPerOne_pos)

theorem Position.value_injective : Function.Injective value := by
  intro p q same
  match p, q with
  | bottom, bottom | top, top => rfl
  | point u, point v =>
    have quotient : (u / unitsPerOne : ℚ) = v / unitsPerOne := WithTop.coe_injective (WithBot.coe_injective same)
    rw [div_left_inj' unitsPerOne_ne_zero, Int.cast_inj] at quotient
    rw [quotient]
  | bottom, point _ | bottom, top | point _, bottom | point _, top | top, bottom | top, point _ => cases same

theorem Number.value?_eq (a : Number) : a.value? = a.position?.map Position.value := by
  match a with
  | .int n =>
    have whole : ((n * unitsPerOne : Int) / unitsPerOne : ℚ) = n := by
      rw [Int.cast_mul, Int.cast_natCast, mul_div_cancel_right₀ _ unitsPerOne_ne_zero]
    rw [position?, Option.map_some, Position.value, whole]
    rfl
  | .float .nan => rfl
  | .float (.infinite true) => rfl
  | .float (.infinite false) => rfl
  | .float (.finite negative code) => rfl

/-- Numbers are the same if they have the same exact value. -/
theorem Number.same_iff {a b : Number} : a.same b = true ↔ ∃ x, a.value? = some x ∧ b.value? = some x := by
  rw [value?_eq, value?_eq, same]
  cases a.position? with
  | none =>
    refine iff_of_false Bool.false_ne_true ?_
    rintro ⟨x, valued, _⟩
    exact Option.some_ne_none x valued.symm
  | some p =>
    cases b.position? with
    | none =>
      refine iff_of_false Bool.false_ne_true ?_
      rintro ⟨x, _, valued⟩
      exact Option.some_ne_none x valued.symm
    | some q =>
      simp only [Option.map_some, Option.some.injEq, exists_eq_left', beq_iff_eq, Position.value_injective.eq_iff]
      exact eq_comm

end Values

namespace Match

/-- Whether two values name the same identifier: both stand for a number when they are compared as identifiers, and the numbers
are equal. -/
def SameId (v w : Value) : Prop :=
  ∃ id other x, v.identifier? = some id ∧ w.identifier? = some other ∧ id.value? = some x ∧ other.value? = some x

theorem SameId.symm {v w : Value} (same : SameId v w) : SameId w v := by
  obtain ⟨id, other, x, named, namedToo, value, valueToo⟩ := same
  exact ⟨other, id, x, namedToo, named, valueToo, value⟩

/-- How a test of two lists behaves that asks for a common identifier. -/
structure PairwiseOverlap (test : List Value → List Value → Bool) : Prop where
  /-- It is passed by a pair of items, one of each list, with the same identifier. -/
  iff_pair : ∀ actual expected, test actual expected = true ↔ ∃ v ∈ actual, ∃ w ∈ expected, SameId v w
  symmetric : ∀ actual expected, test actual expected = test expected actual
  /-- The order of the items and how often they stand there do not matter. -/
  of_members : ∀ {actual actual' expected expected' : List Value}, (∀ v, v ∈ actual ↔ v ∈ actual') →
    (∀ v, v ∈ expected ↔ v ∈ expected') → test actual expected = test actual' expected'
  append_left : ∀ actual further expected, test (actual ++ further) expected = (test actual expected || test further expected)
  append_right : ∀ actual expected further, test actual (expected ++ further) = (test actual expected || test actual further)

theorem overlap_iff (actual expected : List Value) :
    overlap actual expected = true ↔ ∃ v ∈ actual, ∃ w ∈ expected, SameId v w := by
  simp only [overlap, isAmong, List.any_eq_true, Number.same_iff]
  constructor
  · rintro ⟨other, among, id, present, x, valueToo, value⟩
    obtain ⟨w, asked, namedToo⟩ := List.mem_filterMap.1 among
    obtain ⟨v, held, named⟩ := List.mem_filterMap.1 present
    exact ⟨v, held, w, asked, id, other, x, named, namedToo, value, valueToo⟩
  · rintro ⟨v, held, w, asked, id, other, x, named, namedToo, value, valueToo⟩
    exact ⟨other, List.mem_filterMap.2 ⟨w, asked, namedToo⟩, id, List.mem_filterMap.2 ⟨v, held, named⟩, x, valueToo, value⟩

/-- All the laws of membership follow from its being a matter of pairs. -/
theorem pairwiseOverlap_of_pairs {test : List Value → List Value → Bool}
    (pairs : ∀ actual expected, test actual expected = true ↔ ∃ v ∈ actual, ∃ w ∈ expected, SameId v w) :
    PairwiseOverlap test where
  iff_pair := pairs
  symmetric actual expected := by
    rw [Bool.eq_iff_iff, pairs, pairs]
    constructor
    · rintro ⟨v, held, w, asked, same⟩
      exact ⟨w, asked, v, held, same.symm⟩
    · rintro ⟨w, asked, v, held, same⟩
      exact ⟨v, held, w, asked, same.symm⟩
  of_members held asked := by
    rw [Bool.eq_iff_iff, pairs, pairs]
    simp only [held, asked]
  append_left actual further expected := by
    rw [Bool.eq_iff_iff, Bool.or_eq_true, pairs, pairs, pairs]
    simp only [List.mem_append, or_and_right, exists_or]
  append_right actual expected further := by
    rw [Bool.eq_iff_iff, Bool.or_eq_true, pairs, pairs, pairs]
    simp only [List.mem_append, or_and_right, exists_or, and_or_left]

/-- With more items a list has no fewer identifiers in common. -/
theorem overlap_mono {actual more : List Value} (within : actual ⊆ more) {expected : List Value}
    (common : overlap actual expected = true) : overlap more expected = true := by
  obtain ⟨v, held, pair⟩ := (overlap_iff actual expected).1 common
  exact (overlap_iff more expected).2 ⟨v, within held, pair⟩

/-- Whether a task has a further item in a relation: the items are the ones of another task, which may have no relation at all,
and one more that stands anywhere among them. -/
inductive GainsItem (f : Field) (task more : Value) : Prop
  | intro {items others : List Value} {item : Value} :
      fieldValue task f = .list items ∨ fieldValue task f = .null ∧ items = [] → fieldValue more f = .list others →
      others.Perm (item :: items) → GainsItem f task more

theorem GainsItem.identities {f : Field} {task more : Value} (gains : GainsItem f task more) :
    ∃ ids others, Match.identities (fieldValue task f) = .ok ids ∧ Match.identities (fieldValue more f) = .ok others ∧
      ids ⊆ others := by
  obtain @⟨items, others, item, before, after, further⟩ := gains
  refine ⟨items.map identity, others.map identity, ?_, ?_, ?_⟩
  · rcases before with held | ⟨absent, rfl⟩
    · rw [held, identities_list]
    · rw [absent]
      rfl
  · rw [after, identities_list]
  · exact List.map_subset identity fun v member => further.symm.subset (List.mem_cons_of_mem item member)

end Match

namespace Condition

/-- A further item can only turn membership from no to yes, and the opposite from yes to no. -/
theorem holds_of_gain {f : Field} (relation : f.kind = .array) {task more : Value} (gains : Match.GainsItem f task more)
    (now : Timestamp) (operand : Operand) :
    ∃ before after : Bool, (before = true → after = true) ∧
      (⟨f, .isIn, operand⟩ : Condition).holds now task = .ok before ∧
      (⟨f, .isIn, operand⟩ : Condition).holds now more = .ok after ∧
      (⟨f, .notIn, operand⟩ : Condition).holds now task = .ok !before ∧
      (⟨f, .notIn, operand⟩ : Condition).holds now more = .ok !after := by
  obtain ⟨ids, others, held, heldMore, within⟩ := gains.identities
  refine ⟨Match.overlap ids (Match.valuesOf operand), Match.overlap others (Match.valuesOf operand),
    Match.overlap_mono within, ?_⟩
  simp only [holds_of_relation relation (.inl rfl), holds_of_relation relation (.inr rfl), held, heldMore]
  exact ⟨rfl, rfl, rfl, rfl⟩

/-- Membership is a matter of pairs with the same identifier, and symmetric, blind to order and repetition, and additive in both
lists. A further label turns a condition of membership from no to yes at most, and its opposite from yes to no. -/
theorem membership_by_pairs :
    Match.PairwiseOverlap (Match.compareLists (some .isIn)) ∧
      ∀ {f : Field} {task more : Value}, f.kind = .array → Match.GainsItem f task more →
        ∀ (now : Timestamp) (operand : Operand), ∃ before after : Bool, (before = true → after = true) ∧
          (⟨f, .isIn, operand⟩ : Condition).holds now task = .ok before ∧
          (⟨f, .isIn, operand⟩ : Condition).holds now more = .ok after ∧
          (⟨f, .notIn, operand⟩ : Condition).holds now task = .ok !before ∧
          (⟨f, .notIn, operand⟩ : Condition).holds now more = .ok !after :=
  ⟨Match.pairwiseOverlap_of_pairs Match.overlap_iff, fun relation gains now operand =>
    holds_of_gain relation gains now operand⟩

/-- A first label, which is asked for among others by a text of its number. -/
theorem membership_by_pairs_first :
    let now : Timestamp := .utc ⟨0, by decide⟩
    let task := Value.dict [("labels", .null)]
    let more := Value.dict [("labels", .list [.dict [("id", .int 12)]])]
    let operand := Operand.many [.bool true, .str " 1_2.0 ", .null]
    Match.GainsItem .labels task more ∧ Match.SameId (.int 12) (.str " 1_2.0 ") ∧
      (⟨.labels, .isIn, operand⟩ : Condition).holds now task = .ok false ∧
      (⟨.labels, .isIn, operand⟩ : Condition).holds now more = .ok true ∧
      (⟨.labels, .notIn, operand⟩ : Condition).holds now task = .ok true ∧
      (⟨.labels, .notIn, operand⟩ : Condition).holds now more = .ok false := by
  intro now task more operand
  have gains : Match.GainsItem .labels task more := .intro (.inr ⟨rfl, rfl⟩) rfl (.refl _)
  have missed : (⟨.labels, .isIn, operand⟩ : Condition).holds now task = .ok false := by decide +kernel
  have met : (⟨.labels, .isIn, operand⟩ : Condition).holds now more = .ok true := by decide +kernel
  obtain ⟨pairs, gain⟩ := membership_by_pairs
  obtain ⟨before, after, _, isIn, isInMore, notIn, notInMore⟩ := gain rfl gains now operand
  have compared : Match.compareLists (some .isIn) [.int 12] [.str " 1_2.0 "] = true := by decide +kernel
  obtain ⟨v, held, w, asked, same⟩ := (pairs.iff_pair _ _).1 compared
  rw [List.mem_singleton] at held asked
  cases missed.symm.trans isIn
  cases met.symm.trans isInMore
  exact ⟨gains, held ▸ asked ▸ same, missed, met, notIn, notInMore⟩

end Condition

end TaskQuery
