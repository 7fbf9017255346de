import TaskQuery.Number.Basic
import TaskQuery.Proofs.Layout
import TaskQuery.Proofs.NumeralText
import TaskQuery.Proofs.Rounding

namespace TaskQuery

open Text

namespace Numeral

/-- The values of digits from `0` to `9`. -/
def values (cs : List Char) : List Nat :=
  cs.map fun c => c.toNat - '0'.toNat

/-- A text that spells a decimal number with a point or an exponent. -/
def SpellsDecimal (cs : List Char) (d : Decimal) : Prop :=
  ∃ n, Spelled cs n ∧ n.integral = false ∧ n.toDecimal = d

theorem digits_values {cs : List Char} (ascii : ∀ c ∈ cs, c.isDigit = true) : Digits cs (values cs) := by
  induction cs with
  | nil => rfl
  | cons c cs ih =>
    obtain ⟨first, others⟩ := List.forall_mem_cons.1 ascii
    simp only [Char.isDigit, Bool.and_eq_true, decide_eq_true_eq] at first
    have low : 0x30 ≤ c.toNat := UInt32.le_iff_toNat_le.1 first.1
    have high : c.toNat ≤ 0x39 := UInt32.le_iff_toNat_le.1 first.2
    have small : c.toNat < 0x80 := by omega
    refine digits_cons.2 ⟨?_, ih others⟩
    simp [digitValue?, small, low, high]

theorem values_ne_nil {cs : List Char} (nonempty : cs ≠ []) : values cs ≠ [] :=
  mt List.map_eq_nil_iff.1 nonempty

theorem digitsValue_values (cs : List Char) : digitsValue (values cs) = Nat.ofDigitChars 10 cs 0 := by
  simp only [digitsValue, values, List.foldl_map, Nat.ofDigitChars_eq_foldl, Nat.mul_comm]

theorem digitsValue_values_append (cs more : List Char) :
    digitsValue (values cs ++ values more) = Nat.ofDigitChars 10 (cs ++ more) 0 := by
  rw [← digitsValue_values, values, values, values, List.map_append]

section Parts

variable {sign whole fraction power : List Char} {negative : Bool} {exponent : Option Int}

theorem spellsDecimal_point (signSpelled : SpellsSign sign negative) (nonempty : whole ≠ [])
    (wholeDigits : ∀ c ∈ whole, c.isDigit = true) (fractionDigits : ∀ c ∈ fraction, c.isDigit = true)
    (powerSpelled : SpellsExponent power exponent) :
    SpellsDecimal (sign ++ (whole ++ ('.' :: fraction ++ power)))
      ⟨negative, Nat.ofDigitChars 10 (whole ++ fraction) 0, exponent.getD 0 - fraction.length⟩ := by
  have point : SpellsFraction ('.' :: fraction) (some (values fraction)) := .point (digits_values fractionDigits)
  refine ⟨_, .parts signSpelled (digits_values wholeDigits) point powerSpelled (.inl (values_ne_nil nonempty)), rfl, ?_⟩
  simp only [toDecimal, Option.getD_some, digitsValue_values_append]
  rw [values, List.length_map]

theorem spellsDecimal_power {value : Int} (signSpelled : SpellsSign sign negative) (nonempty : whole ≠ [])
    (wholeDigits : ∀ c ∈ whole, c.isDigit = true) (powerSpelled : SpellsExponent power (some value)) :
    SpellsDecimal (sign ++ (whole ++ power)) ⟨negative, Nat.ofDigitChars 10 whole 0, value⟩ := by
  refine ⟨_, .parts signSpelled (digits_values wholeDigits) .none powerSpelled (.inl (values_ne_nil nonempty)), rfl, ?_⟩
  simp only [toDecimal, Option.getD_none, List.append_nil, digitsValue_values, Option.getD_some, List.length_nil]
  rw [Int.natCast_zero, Int.sub_zero]

end Parts

theorem isDigit_toDigits (n : Nat) : ∀ c ∈ Nat.toDigits 10 n, c.isDigit = true :=
  fun _ member => Nat.isDigit_of_mem_toDigits (by decide) (by decide) member

theorem isDigit_zeros (k : Nat) : ∀ c ∈ List.replicate k '0', c.isDigit = true := by
  intro c member
  rw [List.eq_of_mem_replicate member]
  rfl

/-- An exponent is written with its sign. -/
theorem exponentText_spelled (exponent : Int) : SpellsExponent ('e' :: exponentText exponent) (some exponent) := by
  generalize written : (if (Nat.toDigits 10 exponent.natAbs).length < 2 then '0' :: Nat.toDigits 10 exponent.natAbs
    else Nat.toDigits 10 exponent.natAbs) = cs
  have ascii : ∀ c ∈ cs, c.isDigit = true := by
    rw [← written]
    split
    · exact List.forall_mem_cons.2 ⟨rfl, isDigit_toDigits _⟩
    · exact isDigit_toDigits _
  have value : digitsValue (values cs) = exponent.natAbs := by
    rw [digitsValue_values, ← written]
    split
    · rw [Nat.ofDigitChars_cons]
      exact Nat.ofDigitChars_ten_toDigits
    · exact Nat.ofDigitChars_ten_toDigits
  have nonempty : cs ≠ [] := by
    rw [← written]
    split
    · exact List.cons_ne_nil _ _
    · exact Nat.toDigits_ne_nil
  have mark : 'e' = 'e' ∨ 'e' = 'E' := .inl rfl
  have power (sign : Char) (negative : Bool) (spelled : SpellsSign [sign] negative) :=
    SpellsExponent.power mark spelled (digits_values ascii) (values_ne_nil nonempty)
  rw [value] at power
  simp only [exponentText, written]
  by_cases below : exponent < 0
  · have minus := power '-' true .minus
    have same : -(exponent.natAbs : Int) = exponent := by omega
    rw [if_pos rfl, same] at minus
    rwa [if_pos below]
  · have plus := power '+' false .plus
    have same : (exponent.natAbs : Int) = exponent := by omega
    rw [if_neg Bool.false_ne_true, same] at plus
    rwa [if_neg below]

section Notation

variable {sign digits : List Char} {negative : Bool} (signSpelled : SpellsSign sign negative) (leading : Int)

include signSpelled

theorem power_spelled : digits ≠ [] → (∀ c ∈ digits, c.isDigit = true) →
    SpellsDecimal (sign ++ ((match digits with | [] => [] | [d] => [d] | d :: rest => d :: '.' :: rest) ++
      'e' :: exponentText leading)) ⟨negative, Nat.ofDigitChars 10 digits 0, leading + 1 - digits.length⟩ := by
  intro nonempty ascii
  match digits with
  | [] => exact absurd rfl nonempty
  | [d] =>
    have spelled := spellsDecimal_power signSpelled (List.cons_ne_nil d []) ascii (exponentText_spelled leading)
    rwa [List.length_singleton, Int.natCast_one, Int.add_sub_cancel]
  | d :: next :: rest =>
    obtain ⟨first, others⟩ := List.forall_mem_cons.1 ascii
    have spelled := spellsDecimal_point signSpelled (List.cons_ne_nil d []) (List.forall_mem_singleton.2 first) others
      (exponentText_spelled leading)
    have exponent : leading + 1 - (d :: next :: rest).length = leading - (next :: rest).length := by
      simp only [List.length_cons]
      omega
    rwa [exponent]

variable (ascii : ∀ c ∈ digits, c.isDigit = true)

include ascii

theorem belowOne_spelled (below : leading < 0) :
    SpellsDecimal (sign ++ '0' :: '.' :: (List.replicate (-leading - 1).toNat '0' ++ digits))
      ⟨negative, Nat.ofDigitChars 10 digits 0, leading + 1 - digits.length⟩ := by
  have fraction := List.forall_mem_append.2 ⟨isDigit_zeros (-leading - 1).toNat, ascii⟩
  have spelled := spellsDecimal_point signSpelled (List.cons_ne_nil '0' []) (List.forall_mem_singleton.2 rfl) fraction
    .none
  have value : Nat.ofDigitChars 10 (['0'] ++ (List.replicate (-leading - 1).toNat '0' ++ digits)) 0 =
      Nat.ofDigitChars 10 digits 0 := by
    rw [Nat.ofDigitChars_append, Nat.ofDigitChars_append, Nat.ofDigitChars_replicate_zero]
    rfl
  have exponent : (0 : Int) - (List.replicate (-leading - 1).toNat '0' ++ digits).length = leading + 1 - digits.length := by
    simp only [List.length_append, List.length_replicate]
    omega
  rw [value, Option.getD_none, exponent, List.append_nil] at spelled
  exact spelled

theorem padded_spelled (nonempty : digits ≠ []) {zeros : Nat} :
    SpellsDecimal (sign ++ (digits ++ List.replicate zeros '0' ++ ['.', '0']))
      ⟨negative, Nat.ofDigitChars 10 digits 0 * 10 ^ (zeros + 1), -1⟩ := by
  have whole := List.forall_mem_append.2 ⟨ascii, isDigit_zeros zeros⟩
  have spelled := spellsDecimal_point signSpelled (List.append_ne_nil_of_left_ne_nil nonempty _) whole
    (isDigit_zeros 1) .none
  have value : Nat.ofDigitChars 10 (digits ++ List.replicate zeros '0' ++ List.replicate 1 '0') 0 =
      Nat.ofDigitChars 10 digits 0 * 10 ^ (zeros + 1) := by
    rw [List.append_assoc, List.replicate_append_replicate, Nat.ofDigitChars_append, Nat.ofDigitChars_replicate_zero,
      Nat.mul_comm]
  rw [value, List.append_nil] at spelled
  exact spelled

theorem pointed_spelled {whole : Nat} (positive : 0 < whole) (inside : whole < digits.length) :
    SpellsDecimal (sign ++ (digits.take whole ++ '.' :: digits.drop whole))
      ⟨negative, Nat.ofDigitChars 10 digits 0, whole - digits.length⟩ := by
  have front : digits.take whole ≠ [] := by
    rw [← List.length_pos_iff, List.length_take]
    omega
  have fraction : ∀ c ∈ digits.drop whole, c.isDigit = true := fun c member => ascii c (List.mem_of_mem_drop member)
  have spelled := spellsDecimal_point signSpelled front (fun c member => ascii c (List.mem_of_mem_take member)) fraction
    .none
  have exponent : (0 : Int) - (digits.drop whole).length = whole - digits.length := by
    rw [List.length_drop]
    omega
  rw [List.take_append_drop, Option.getD_none, exponent, List.append_nil] at spelled
  exact spelled

/-- Digits spell the same value in every notation. -/
theorem layOut_spelled (nonempty : digits ≠ []) :
    ∃ d, SpellsDecimal (sign ++ layOut digits leading) d ∧
      d.toDouble = Decimal.toDouble ⟨negative, Nat.ofDigitChars 10 digits 0, leading + 1 - digits.length⟩ := by
  unfold layOut
  by_cases large : leading < -4 ∨ 16 ≤ leading
  · rw [if_pos large]
    exact ⟨_, power_spelled signSpelled leading nonempty ascii, rfl⟩
  rw [if_neg large]
  by_cases below : leading < 0
  · rw [if_pos below]
    exact ⟨_, belowOne_spelled signSpelled leading ascii below, rfl⟩
  rw [if_neg below]
  dsimp only
  by_cases inside : digits.length ≤ leading.toNat + 1
  · rw [if_pos inside]
    have exponent : -1 + ((leading.toNat + 1 - digits.length + 1 : Nat) : Int) = leading + 1 - digits.length := by omega
    refine ⟨_, padded_spelled signSpelled ascii nonempty, ?_⟩
    rw [Decimal.toDouble_mul_pow, exponent]
  · rw [if_neg inside]
    have exponent : ((leading.toNat + 1 : Nat) : Int) - digits.length = leading + 1 - digits.length := by omega
    refine ⟨_, pointed_spelled signSpelled ascii (Nat.succ_pos _) (by omega), ?_⟩
    rw [exponent]

end Notation

end Numeral

theorem exactDecimal_toDouble (negative : Bool) (code : Fin codeBound) :
    (exactDecimal negative code).toDouble = .finite negative code := by
  have up : (-1074 : Int).toNat = 0 := rfl
  have down : (- -1074 : Int).toNat = 1074 := rfl
  have same : (exactDecimal negative code).num * unitsPerOne = codeUnits code * (exactDecimal negative code).den := by
    simp only [Decimal.num, Decimal.den, exactDecimal, up, down]
    rw [Nat.pow_zero, Nat.mul_one, unitsPerOne]
    generalize 1074 = k
    rw [Nat.mul_assoc, ← Nat.mul_pow]
  rw [Decimal.toDouble_eq, Double.ofRatio_congr _ (Decimal.den_pos _) unitsPerOne_pos same]
  exact Double.ofRatio_codeUnits negative code

theorem find?_getD {α : Type} {P : α → Prop} [DecidablePred P] {l : List α} {default : α} (holds : P default) :
    P ((l.find? fun a => P a).getD default) := by
  cases found : l.find? fun a => P a with
  | none => exact holds
  | some a => exact of_decide_eq_true (List.find?_some found :)

/-- The shortest decimal number of a finite double reads back as that double. -/
theorem shortestDecimal_toDouble (negative : Bool) (code : Fin codeBound) :
    (shortestDecimal negative code).toDouble = .finite negative code := by
  have reads := exactDecimal_toDouble negative code
  unfold shortestDecimal
  generalize exactDecimal negative code = default at reads ⊢
  exact find?_getD (P := fun d : Decimal => d.toDouble = .finite negative code) reads

theorem dropTens_eq (fuel coefficient : Nat) (exponent : Int) :
    ∃ k : Nat, coefficient = (dropTens fuel coefficient exponent).1 * 10 ^ k ∧
      (dropTens fuel coefficient exponent).2 = exponent + k := by
  induction fuel generalizing coefficient exponent with
  | zero => exact ⟨0, (Nat.mul_one _).symm, (Int.add_zero _).symm⟩
  | succ fuel ih =>
    simp only [dropTens]
    split
    · rename_i tens
      obtain ⟨k, value, power⟩ := ih (coefficient / 10) (exponent + 1)
      refine ⟨k + 1, ?_, ?_⟩
      · rw [Nat.pow_succ, ← Nat.mul_assoc, ← value]
        omega
      · rw [power]
        omega
    · exact ⟨0, (Nat.mul_one _).symm, (Int.add_zero _).symm⟩

theorem dropTens_toDouble (negative : Bool) (fuel coefficient : Nat) (exponent : Int) :
    Decimal.toDouble ⟨negative, (dropTens fuel coefficient exponent).1, (dropTens fuel coefficient exponent).2⟩ =
      Decimal.toDouble ⟨negative, coefficient, exponent⟩ := by
  obtain ⟨k, value, power⟩ := dropTens_eq fuel coefficient exponent
  rw [power, ← Decimal.toDouble_mul_pow, ← value]

namespace Double

open Numeral

theorem magnitudeText_spelled {sign : List Char} {negative : Bool} (signSpelled : SpellsSign sign negative)
    (code : Fin codeBound) :
    ∃ d, SpellsDecimal (sign ++ magnitudeText code) d ∧ d.toDouble = .finite negative code := by
  unfold magnitudeText
  by_cases zero : code.val = 0
  · have spelled := spellsDecimal_point signSpelled (List.cons_ne_nil '0' []) (isDigit_zeros 1) (isDigit_zeros 1) .none
    have same : zeroCode = code := Fin.ext zero.symm
    rw [if_pos zero]
    exact ⟨_, spelled, congrArg (Double.finite negative) same⟩
  · rw [if_neg zero]
    dsimp only
    have shortest := Decimal.toDouble_sign (shortestDecimal_toDouble false code) negative
    rw [← dropTens_toDouble negative 400] at shortest
    generalize dropTens 400 (shortestDecimal false code).coefficient (shortestDecimal false code).exponent = dropped
      at shortest ⊢
    obtain ⟨coefficient, exponent⟩ := dropped
    obtain ⟨d, spelled, value⟩ := layOut_spelled signSpelled
      (exponent + (Nat.toDigits 10 coefficient).length - 1) (isDigit_toDigits coefficient) Nat.toDigits_ne_nil
    have power : exponent + (Nat.toDigits 10 coefficient).length - 1 + 1 - (Nat.toDigits 10 coefficient).length =
        exponent := by omega
    rw [power, Nat.ofDigitChars_ten_toDigits, shortest] at value
    exact ⟨d, spelled, value⟩

/-- The text of a finite double spells a decimal number to which the double is nearest. -/
theorem display_spelled {x : Double} (finite : x.isFinite = true) :
    ∃ d, SpellsDecimal x.display.toList d ∧ d.toDouble = x := by
  cases x with
  | nan => cases finite
  | infinite => cases finite
  | finite negative code =>
    rw [display, String.toList_ofList]
    cases negative with
    | true => exact magnitudeText_spelled .minus code
    | false => exact magnitudeText_spelled .none code

end Double

theorem toList_toString (n : Int) :
    (toString n).toList = (if n < 0 then ['-'] else []) ++ Nat.toDigits 10 n.natAbs := by
  rw [Int.toString_eq_repr, Int.repr_eq_if]
  by_cases below : n < 0
  · have magnitude : (-n).toNat = n.natAbs := by omega
    rw [if_neg (Int.not_le.2 below), if_pos below, String.toList_append, Nat.toList_repr, magnitude]
    rfl
  · have magnitude : n.toNat = n.natAbs := by omega
    rw [if_pos (Int.not_lt.1 below), if_neg below, Nat.toList_repr, magnitude, List.nil_append]

/-- The text of an integer spells the integer. -/
theorem Numeral.spelled_toString (n : Int) :
    ∃ m, Numeral.Spelled (toString n).toList m ∧ m.integral = true ∧ m.toInt = n ∧
      m.whole.length = (Nat.toDigits 10 n.natAbs).length := by
  have spelled {sign : List Char} {negative : Bool} (signSpelled : SpellsSign sign negative) :=
    Spelled.parts signSpelled (digits_values (isDigit_toDigits n.natAbs)) .none .none
      (.inl (values_ne_nil Nat.toDigits_ne_nil))
  have value : digitsValue (values (Nat.toDigits 10 n.natAbs)) = n.natAbs := by
    rw [digitsValue_values, Nat.ofDigitChars_ten_toDigits]
  rw [toList_toString]
  simp only [List.append_nil] at spelled
  by_cases below : n < 0
  · rw [if_pos below]
    refine ⟨_, spelled .minus, rfl, ?_, List.length_map _⟩
    simp only [toInt, value, if_true]
    omega
  · rw [if_neg below]
    refine ⟨_, spelled .none, rfl, ?_, List.length_map _⟩
    simp only [toInt, value, Bool.false_eq_true, if_false]
    omega

/-- No blank is a digit. -/
theorem Text.digitValue?_of_isBlank {c : Char} (blank : isBlank c = true) : digitValue? c = none := by
  simp only [isBlank, isSpace, Bool.or_eq_true, Bool.and_eq_true, beq_iff_eq, decide_eq_true_eq] at blank
  unfold digitValue?
  by_cases low : c.toNat < 0x80
  · have noDigit : ¬(0x30 ≤ c.toNat ∧ c.toNat ≤ 0x39) := by omega
    simp only [if_pos low, if_neg noDigit]
  · have apart : ∀ first ∈ zeroDigits, first = 0x30 ∨ 0xA0 < first ∧ (first + 10 ≤ 0x1680 ∨ 0x1680 < first) ∧
        (first + 10 ≤ 0x2000 ∨ 0x3000 < first) := by decide
    simp only [if_neg low, Option.map_eq_none_iff, List.find?_eq_none, Bool.and_eq_true, decide_eq_true_eq]
    intro first member
    have := apart first member
    omega

theorem Text.digitValue?_lt {c : Char} {d : Nat} (value : digitValue? c = some d) : d < 10 := by
  unfold digitValue? at value
  dsimp only at value
  split at value
  · split at value
    · cases value
      omega
    · cases value
  · obtain ⟨first, found, eq⟩ := Option.map_eq_some_iff.1 value
    have script := List.find?_some found
    simp only [Bool.and_eq_true, decide_eq_true_eq] at script
    omega

section Stripping

variable {drop : Char → Bool} {cs : List Char}

theorem Text.dropWhile_eq_self (solid : ∀ c, cs.head? = some c → drop c = false) : cs.dropWhile drop = cs := by
  cases cs with
  | nil => rfl
  | cons c cs => rw [List.dropWhile_cons_of_neg (Bool.eq_false_iff.1 (solid c rfl))]

/-- Nothing is stripped where both ends are to stay. -/
theorem Text.stripWhere_of_ends (first : ∀ c, cs.head? = some c → drop c = false)
    (last : ∀ c, cs.reverse.head? = some c → drop c = false) : stripWhere drop cs = cs := by
  rw [stripWhere, dropWhile_eq_self first, dropWhile_eq_self last, List.reverse_reverse]

theorem Text.stripWhere_eq_self (solid : ∀ c ∈ cs, drop c = false) : stripWhere drop cs = cs :=
  stripWhere_of_ends (fun c first => solid c (List.mem_of_mem_head? first))
    fun c last => solid c (List.mem_reverse.1 (List.mem_of_mem_head? last))

end Stripping

theorem Text.trim_eq_self {s : String} (solid : ∀ c ∈ s.toList, isBlank c = false) : trim s = s := by
  rw [trim, stripWhere_eq_self solid, String.ofList_toList]

namespace Numeral

theorem Spelled.characters {cs : List Char} {n : Numeral} (spelled : Spelled cs n) :
    ∀ c ∈ cs, digitValue? c ≠ none ∨ c ∈ ['+', '-', '.', 'e', 'E'] := by
  have signs {sign : List Char} {negative : Bool} (spelled : SpellsSign sign negative) :
      ∀ c ∈ sign, digitValue? c ≠ none ∨ c ∈ ['+', '-', '.', 'e', 'E'] := by
    cases spelled <;> simp
  have digits {cs : List Char} {ds : List Nat} (digits : Digits cs ds) :
      ∀ c ∈ cs, digitValue? c ≠ none ∨ c ∈ ['+', '-', '.', 'e', 'E'] := fun c member => .inl (digits.value member)
  cases spelled with
  | parts signSpelled whole pointSpelled powerSpelled =>
    refine List.forall_mem_append.2 ⟨signs signSpelled, List.forall_mem_append.2 ⟨digits whole,
      List.forall_mem_append.2 ⟨?_, ?_⟩⟩⟩
    · cases pointSpelled with
      | none => exact List.forall_mem_nil _
      | point fraction => exact List.forall_mem_cons.2 ⟨.inr (by decide), digits fraction⟩
    · cases powerSpelled with
      | none => exact List.forall_mem_nil _
      | power mark signSpelled exponent =>
        refine List.forall_mem_cons.2 ⟨.inr ?_, List.forall_mem_append.2 ⟨signs signSpelled, digits exponent⟩⟩
        rcases mark with rfl | rfl <;> decide

theorem Digits.value_lt {cs : List Char} {ds : List Nat} (digits : Digits cs ds) :
    digitsValue ds < 10 ^ ds.length := by
  have general (start : Nat) :
      ds.foldl (fun value d => value * 10 + d) start < (start + 1) * 10 ^ ds.length := by
    induction ds generalizing cs start with
    | nil => simp
    | cons d ds ih =>
      obtain _ | ⟨c, cs⟩ := cs
      · cases digits.length_eq
      · obtain ⟨value, later⟩ := digits_cons.1 digits
        have small := Text.digitValue?_lt value
        calc
          ds.foldl (fun value d => value * 10 + d) (start * 10 + d) < (start * 10 + d + 1) * 10 ^ ds.length :=
            ih later _
          _ ≤ (start + 1) * 10 * 10 ^ ds.length := Nat.mul_le_mul_right _ (by omega)
          _ = (start + 1) * 10 ^ (d :: ds).length := by
            rw [Nat.mul_assoc, ← Nat.pow_succ', List.length_cons]
  have value := general 0
  rwa [Nat.zero_add, Nat.one_mul] at value

theorem Spelled.natAbs_toInt_lt {cs : List Char} {n : Numeral} (spelled : Spelled cs n) :
    n.toInt.natAbs < 10 ^ n.whole.length := by
  cases spelled with
  | parts _ digits _ _ _ =>
    have below := digits.value_lt
    simp only [toInt]
    split <;> omega

/-- A spelled number is a word, and no blank stands in it. -/
theorem Spelled.solid {cs : List Char} {n : Numeral} (spelled : Spelled cs n) :
    cs ≠ [] ∧ ∀ c ∈ cs, (c ∉ Lexeme.gapCharacters ∧ c ∉ Lexeme.signCharacters) ∧ isBlank c = false := by
  constructor
  · cases spelled with
    | parts _ whole pointSpelled _ digit =>
      intro empty
      simp only [List.append_eq_nil_iff] at empty
      obtain ⟨-, rfl, rfl, -⟩ := empty
      cases pointSpelled
      exact digit.elim (fun present => present (List.eq_nil_of_length_eq_zero whole.length_eq.symm)) (· rfl)
  · intro c member
    rcases spelled.characters c member with digit | mark
    · refine ⟨⟨fun gap => digit ?_, fun sign => digit ?_⟩, ?_⟩
      · have none : ∀ c ∈ Lexeme.gapCharacters, digitValue? c = none := Lexeme.forall_mem_of_all (by decide)
        exact none c gap
      · have none : ∀ c ∈ Lexeme.signCharacters, digitValue? c = none := Lexeme.forall_mem_of_all (by decide)
        exact none c sign
      · exact Bool.eq_false_iff.2 fun blank => digit (digitValue?_of_isBlank blank)
    · have plain : ∀ c ∈ ['+', '-', '.', 'e', 'E'],
          (c ∉ Lexeme.gapCharacters ∧ c ∉ Lexeme.signCharacters) ∧ isBlank c = false :=
        Lexeme.forall_mem_of_all (by decide)
      exact plain c mark

end Numeral

end TaskQuery
