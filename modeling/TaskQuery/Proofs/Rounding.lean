import TaskQuery.Number.Decimal

namespace TaskQuery

theorem unitsPerOne_pos : 0 < unitsPerOne := by decide +kernel

theorem two_pow_add_units (k : Nat) : 2 ^ (k + 1074) = 2 ^ k * unitsPerOne := by
  rw [unitsPerOne, Nat.pow_add]

theorem roundHalfEven_mul_left {k : Nat} (positive : 0 < k) (num den : Nat) :
    roundHalfEven (k * num) (k * den) = roundHalfEven num den := by
  have floor : k * num / (k * den) = num / den := Nat.mul_div_mul_left num den positive
  have rest : 2 * (k * num % (k * den)) = k * (2 * (num % den)) := by
    rw [Nat.mul_mod_mul_left, Nat.mul_left_comm]
  simp only [roundHalfEven, floor, rest, Nat.mul_lt_mul_left positive]

theorem roundHalfEven_of_exact {n den : Nat} (positive : 0 < den) : roundHalfEven (n * den) den = n := by
  have floor : n * den / den = n := Nat.mul_div_cancel n positive
  have rest : 2 * (n * den % den) < den := by
    rw [Nat.mul_mod_left]
    omega
  simp only [roundHalfEven, floor, if_pos rest]

theorem roundHalfEven_of_small {num den : Nat} (small : 2 * num < den) : roundHalfEven num den = 0 := by
  have below : num < den := by omega
  have floor : num / den = 0 := Nat.div_eq_of_lt below
  have rest : 2 * (num % den) < den := by rwa [Nat.mod_eq_of_lt below]
  simp only [roundHalfEven, floor, if_pos rest]

theorem log2_mul_two_pow {significand digits shift : Nat} (low : 2 ^ digits ≤ significand)
    (high : significand < 2 ^ digits + 2 ^ digits) : (significand * 2 ^ shift).log2 = digits + shift := by
  have double : 2 ^ (digits + shift + 1) = (2 ^ digits + 2 ^ digits) * 2 ^ shift := by
    rw [Nat.add_right_comm, Nat.pow_add, Nat.pow_succ, Nat.mul_two]
  have positive : 0 < significand * 2 ^ shift :=
    Nat.mul_pos (Nat.lt_of_lt_of_le (Nat.two_pow_pos digits) low) (Nat.two_pow_pos shift)
  refine (Nat.log2_eq_iff (Nat.ne_of_gt positive)).2 ⟨?_, ?_⟩
  · rw [Nat.pow_add]
    exact Nat.mul_le_mul_right _ low
  · rw [double]
    exact Nat.mul_lt_mul_of_pos_right high (Nat.two_pow_pos shift)

/-- A code and its magnitude: the significand moves up by a number of binary digits. -/
theorem codeUnits_shift (code : Nat) :
    ∃ significand, codeUnits code = significand * 2 ^ ((codeUnits code).log2 - 52) ∧
      code = ((codeUnits code).log2 - 52) * 2 ^ 52 + significand := by
  have parts : code = 2 ^ 52 * (code / 2 ^ 52) + code % 2 ^ 52 := (Nat.div_add_mod code (2 ^ 52)).symm
  have below : code % 2 ^ 52 < 2 ^ 52 := Nat.mod_lt code (Nat.two_pow_pos 52)
  by_cases field : code / 2 ^ 52 = 0
  · have magnitude : codeUnits code = code % 2 ^ 52 := by simp only [codeUnits, if_pos field]
    have shift : (codeUnits code).log2 - 52 = 0 := by
      rw [magnitude]
      by_cases zero : code % 2 ^ 52 = 0
      · rw [zero, Nat.log2_zero]
      · have := (Nat.log2_lt zero).2 below
        omega
    refine ⟨code % 2 ^ 52, ?_, ?_⟩
    · rw [shift, magnitude, Nat.pow_zero, Nat.mul_one]
    · rwa [shift, Nat.zero_mul, Nat.zero_add, eq_comm, Nat.mod_eq_iff_lt (Nat.ne_of_gt (Nat.two_pow_pos 52)),
        ← Nat.div_eq_zero_iff_lt (Nat.two_pow_pos 52)]
  · have magnitude : codeUnits code = (2 ^ 52 + code % 2 ^ 52) * 2 ^ (code / 2 ^ 52 - 1) := by
      simp only [codeUnits, if_neg field]
    have top : (codeUnits code).log2 = 52 + (code / 2 ^ 52 - 1) := by
      rw [magnitude]
      exact log2_mul_two_pow (Nat.le_add_right _ _) (Nat.add_lt_add_left below _)
    have shift : (codeUnits code).log2 - 52 = code / 2 ^ 52 - 1 := by omega
    refine ⟨2 ^ 52 + code % 2 ^ 52, ?_, ?_⟩
    · rwa [shift]
    · rw [shift]
      omega

namespace Double

/-- Common factors of a quotient do not matter. -/
theorem ofRatio_mul_left (negative : Bool) {k : Nat} (positive : 0 < k) (num den : Nat) :
    ofRatio negative (k * num) (k * den) = ofRatio negative num den := by
  have units : k * num * unitsPerOne = k * (num * unitsPerOne) := Nat.mul_assoc ..
  have quotient : k * (num * unitsPerOne) / (k * den) = num * unitsPerOne / den := Nat.mul_div_mul_left _ _ positive
  have scaled (shift : Nat) : k * den * 2 ^ shift = k * (den * 2 ^ shift) := Nat.mul_assoc ..
  simp only [ofRatio, units, quotient, scaled, roundHalfEven_mul_left positive]

/-- Quotients of the same value have the same nearest double. -/
theorem ofRatio_congr (negative : Bool) {num den num' den' : Nat} (positive : 0 < den) (positive' : 0 < den')
    (same : num * den' = num' * den) : ofRatio negative num den = ofRatio negative num' den' :=
  calc
    ofRatio negative num den = ofRatio negative (den' * num) (den' * den) :=
      (ofRatio_mul_left negative positive' num den).symm
    _ = ofRatio negative (den * num') (den * den') := by
      rw [Nat.mul_comm den' num, same, Nat.mul_comm num' den, Nat.mul_comm den' den]
    _ = ofRatio negative num' den' := ofRatio_mul_left negative positive num' den'

theorem isNumber_ofRatio (negative : Bool) (num den : Nat) : (ofRatio negative num den).isNumber = true := by
  unfold ofRatio
  dsimp only
  split <;> rfl

/-- The double nearest to the value of a code is the double with this code. -/
theorem ofRatio_codeUnits (negative : Bool) (code : Fin codeBound) :
    ofRatio negative (codeUnits code) unitsPerOne = .finite negative code := by
  obtain ⟨significand, magnitude, code_eq⟩ := codeUnits_shift code
  have quotient : codeUnits code * unitsPerOne / unitsPerOne = codeUnits code := Nat.mul_div_cancel _ unitsPerOne_pos
  generalize shift_eq : (codeUnits code).log2 - 52 = shift at magnitude code_eq
  have scaled : codeUnits code * unitsPerOne = significand * (unitsPerOne * 2 ^ shift) := by
    rw [magnitude, Nat.mul_assoc, Nat.mul_comm (2 ^ shift)]
  have rounded : roundHalfEven (codeUnits code * unitsPerOne) (unitsPerOne * 2 ^ shift) = significand := by
    rw [scaled]
    exact roundHalfEven_of_exact (Nat.mul_pos unitsPerOne_pos (Nat.two_pow_pos shift))
  have inRange : shift * 2 ^ 52 + significand < codeBound := code_eq ▸ code.isLt
  have same : (⟨shift * 2 ^ 52 + significand, inRange⟩ : Fin codeBound) = code := Fin.ext code_eq.symm
  simp only [ofRatio, quotient, shift_eq, rounded, dif_pos inRange, same]

/-- A value below half a unit is rounded to zero. -/
theorem ofRatio_of_small (negative : Bool) {num den : Nat} (small : 2 * (num * unitsPerOne) < den) :
    ofRatio negative num den = .finite negative zeroCode := by
  have below : num * unitsPerOne < den := by omega
  have quotient : num * unitsPerOne / den = 0 := Nat.div_eq_of_lt below
  have rounded : roundHalfEven (num * unitsPerOne) den = 0 := roundHalfEven_of_small small
  simp [ofRatio, quotient, Nat.log2_zero, rounded, codeBound_pos, zeroCode]

/-- A value of 2¹⁰²⁵ or more is beyond the largest double. -/
theorem ofRatio_of_large (negative : Bool) {num den k : Nat} (positive : 0 < den) (high : 1025 ≤ k)
    (large : 2 ^ k * den ≤ num) : ofRatio negative num den = .infinite negative := by
  have units : 2 ^ (k + 1074) ≤ num * unitsPerOne / den := by
    rw [Nat.le_div_iff_mul_le positive, two_pow_add_units, Nat.mul_right_comm]
    exact Nat.mul_le_mul_right _ large
  have nonzero : num * unitsPerOne / den ≠ 0 := Nat.ne_of_gt (Nat.lt_of_lt_of_le (Nat.two_pow_pos _) units)
  have top : k + 1074 ≤ (num * unitsPerOne / den).log2 := (Nat.le_log2 nonzero).2 units
  have beyond (rounded : Nat) :
      ¬((num * unitsPerOne / den).log2 - 52) * 2 ^ 52 + rounded < codeBound := by
    rw [codeBound]
    omega
  simp only [ofRatio, dif_neg (beyond _)]

theorem ofRatio_sign {negative sign : Bool} {num den : Nat} {code : Fin codeBound}
    (found : ofRatio negative num den = .finite sign code) (other : Bool) :
    ofRatio other num den = .finite other code := by
  simp only [ofRatio] at found ⊢
  split at found
  · rename_i inRange
    cases found
    rw [dif_pos inRange]
  · cases found

/-- An integer that has a nearest double is below 2¹⁰²⁵. -/
theorem natAbs_lt_of_ofInt? {n : Int} {k : Nat} (inRange : (ofInt? n).isSome = true) (high : 1025 ≤ k) :
    n.natAbs < 2 ^ k := by
  refine Nat.lt_of_not_le fun beyond => ?_
  have large : 2 ^ k * 1 ≤ n.natAbs := by rwa [Nat.mul_one]
  have infinite := ofRatio_of_large (n < 0) Nat.one_pos high large
  rw [ofInt?, infinite] at inRange
  cases inRange

end Double

namespace Decimal

theorem den_pos (d : Decimal) : 0 < d.den :=
  Nat.pow_pos (by decide)

/-- Reading a decimal number is rounding its value: the shortcuts change nothing. -/
theorem toDouble_eq (d : Decimal) : d.toDouble = .ofRatio d.negative d.num d.den := by
  by_cases zero : d.coefficient = 0
  · have num : d.num = 0 := by rw [num, zero, Nat.zero_mul]
    have small : 2 * (d.num * unitsPerOne) < d.den := by
      rw [num, Nat.zero_mul, Nat.mul_zero]
      exact d.den_pos
    rw [toDouble, if_pos zero, Double.ofRatio_of_small _ small]
  rw [toDouble, if_neg zero]
  by_cases large : 400 ≤ d.exponent
  · have den : d.den = 1 := by
      have : (-d.exponent).toNat = 0 := by omega
      rw [den, this, Nat.pow_zero]
    have num : 2 ^ (3 * d.exponent.toNat) * 1 ≤ d.num :=
      calc
        2 ^ (3 * d.exponent.toNat) * 1 = (2 ^ 3) ^ d.exponent.toNat := by rw [Nat.mul_one, Nat.pow_mul]
        _ ≤ 10 ^ d.exponent.toNat := Nat.pow_le_pow_left (by decide) _
        _ ≤ d.num := Nat.le_mul_of_pos_left _ (Nat.pos_of_ne_zero zero)
    rw [if_pos large, den, Double.ofRatio_of_large _ Nat.one_pos (by omega) num]
  rw [if_neg large]
  by_cases small : (d.coefficient.log2 + 1101 : Int) ≤ 3 * -d.exponent
  · have num : d.num = d.coefficient := by
      have : d.exponent.toNat = 0 := by omega
      rw [num, this, Nat.pow_zero, Nat.mul_one]
    have below : 2 * (d.num * unitsPerOne) < d.den :=
      calc
        2 * (d.num * unitsPerOne) < 2 * (2 ^ (d.coefficient.log2 + 1) * unitsPerOne) := by
          rw [num]
          have := Nat.mul_lt_mul_of_pos_right (Nat.lt_log2_self (n := d.coefficient)) unitsPerOne_pos
          omega
        _ = 2 ^ (d.coefficient.log2 + 1 + 1 + 1074) := by
          rw [← two_pow_add_units, ← Nat.pow_succ', Nat.add_right_comm]
        _ ≤ 2 ^ (3 * (-d.exponent).toNat) := Nat.pow_le_pow_right (by decide) (by omega)
        _ = (2 ^ 3) ^ (-d.exponent).toNat := Nat.pow_mul ..
        _ ≤ d.den := Nat.pow_le_pow_left (by decide) _
    rw [if_pos small, Double.ofRatio_of_small _ below]
  rw [if_neg small]

/-- Powers of ten may move from the exponent to the coefficient. -/
theorem toDouble_mul_pow (negative : Bool) (coefficient k : Nat) (exponent : Int) :
    toDouble ⟨negative, coefficient * 10 ^ k, exponent⟩ = toDouble ⟨negative, coefficient, exponent + k⟩ := by
  have powers : k + exponent.toNat + (-(exponent + k)).toNat = (exponent + k).toNat + (-exponent).toNat := by omega
  rw [toDouble_eq, toDouble_eq]
  refine Double.ofRatio_congr negative (den_pos _) (den_pos _) ?_
  simp only [num, den]
  rw [Nat.mul_assoc coefficient, ← Nat.pow_add, Nat.mul_assoc, ← Nat.pow_add, powers, Nat.pow_add, Nat.mul_assoc]

theorem toDouble_sign {d : Decimal} {sign : Bool} {code : Fin codeBound} (found : d.toDouble = .finite sign code)
    (other : Bool) : toDouble ⟨other, d.coefficient, d.exponent⟩ = .finite other code := by
  rw [toDouble_eq] at found ⊢
  exact Double.ofRatio_sign found other

end Decimal

end TaskQuery
