import TaskQuery.Proofs.Rounding

namespace TaskQuery

theorem codeUnits_of_fraction {fraction : Nat} (below : fraction < 2 ^ 52) : codeUnits fraction = fraction := by
  have field : fraction / 2 ^ 52 = 0 := Nat.div_eq_of_lt below
  simp only [codeUnits, if_pos field, Nat.mod_eq_of_lt below]

theorem codeUnits_of_significand {significand : Nat} (low : 2 ^ 52 ≤ significand) (high : significand < 2 ^ 53)
    (shift : Nat) : codeUnits (shift * 2 ^ 52 + significand) = significand * 2 ^ shift := by
  have field : (shift * 2 ^ 52 + significand) / 2 ^ 52 = shift + 1 := by omega
  have fraction : 2 ^ 52 + (shift * 2 ^ 52 + significand) % 2 ^ 52 = significand := by omega
  simp only [codeUnits, field, if_neg (Nat.succ_ne_zero shift), fraction, Nat.add_sub_cancel]

/-- Every magnitude of 53 binary digits, moved up no further than the range allows, has a code. -/
theorem exists_code {significand exponent : Nat} (digits : significand < 2 ^ 53) (range : exponent ≤ 2045) :
    ∃ code : Fin codeBound, codeUnits code = significand * 2 ^ exponent := by
  -- A significand that is too short for a code of its own borrows a digit from the exponent.
  induction exponent generalizing significand with
  | zero =>
    by_cases short : significand < 2 ^ 52
    · have inRange : significand < codeBound := by rw [codeBound]; omega
      exact ⟨⟨significand, inRange⟩, by rw [codeUnits_of_fraction short, Nat.pow_zero, Nat.mul_one]⟩
    · have inRange : 0 * 2 ^ 52 + significand < codeBound := by rw [codeBound]; omega
      exact ⟨⟨_, inRange⟩, codeUnits_of_significand (Nat.not_lt.1 short) digits 0⟩
  | succ exponent ih =>
    by_cases short : significand < 2 ^ 52
    · have doubled : 2 * significand < 2 ^ 53 := by omega
      obtain ⟨code, magnitude⟩ := ih doubled (Nat.le_of_succ_le range)
      exact ⟨code, by rw [magnitude, Nat.pow_succ', Nat.mul_assoc, Nat.mul_left_comm]⟩
    · have inRange : (exponent + 1) * 2 ^ 52 + significand < codeBound := by rw [codeBound]; omega
      exact ⟨⟨_, inRange⟩, codeUnits_of_significand (Nat.not_lt.1 short) digits (exponent + 1)⟩

/-- The magnitude of a code has 53 binary digits at most, moved up. -/
theorem exists_significand (code : Fin codeBound) :
    ∃ significand exponent, significand < 2 ^ 53 ∧ exponent ≤ 2045 ∧ codeUnits code = significand * 2 ^ exponent := by
  have fraction : (code : Nat) % 2 ^ 52 < 2 ^ 52 := Nat.mod_lt _ (Nat.two_pow_pos 52)
  by_cases field : (code : Nat) / 2 ^ 52 = 0
  · refine ⟨code % 2 ^ 52, 0, by omega, by omega, ?_⟩
    simp only [codeUnits, if_pos field, Nat.pow_zero, Nat.mul_one]
  · have below : (code : Nat) < 2047 * 2 ^ 52 := code.isLt
    refine ⟨2 ^ 52 + code % 2 ^ 52, code / 2 ^ 52 - 1, by omega, by omega, ?_⟩
    simp only [codeUnits, if_neg field]

namespace Double

/-- An integer that is a double: 53 binary digits, moved up no further than the range allows. -/
def Exact (n : Int) : Prop :=
  ∃ significand exponent, significand < 2 ^ 53 ∧ exponent ≤ 971 ∧ n.natAbs = significand * 2 ^ exponent

/-- All integers up to 2⁵³ are doubles. -/
theorem exact_of_natAbs_le {n : Int} (small : n.natAbs ≤ 2 ^ 53) : Exact n := by
  rcases Nat.lt_or_eq_of_le small with below | top
  · exact ⟨n.natAbs, 0, below, by decide, by rw [Nat.pow_zero, Nat.mul_one]⟩
  · exact ⟨1, 53, by decide, by decide, by rw [top, Nat.one_mul]⟩

theorem exact_iff_exists_code {n : Int} :
    Exact n ↔ ∃ code : Fin codeBound, codeUnits code = n.natAbs * unitsPerOne := by
  constructor
  · rintro ⟨significand, exponent, digits, range, magnitude⟩
    obtain ⟨code, units⟩ := exists_code digits (Nat.add_le_add_right range 1074)
    refine ⟨code, ?_⟩
    rw [units, two_pow_add_units, magnitude, Nat.mul_assoc]
  · rintro ⟨code, units⟩
    obtain ⟨significand, exponent, digits, range, magnitude⟩ := exists_significand code
    rw [units, unitsPerOne] at magnitude
    rcases Nat.le_total 1074 exponent with high | low
    · obtain ⟨above, rfl⟩ := Nat.exists_eq_add_of_le' high
      rw [Nat.pow_add, ← Nat.mul_assoc] at magnitude
      exact ⟨significand, above, digits, by omega, Nat.eq_of_mul_eq_mul_right (Nat.two_pow_pos 1074) magnitude⟩
    · obtain ⟨rest, total⟩ := Nat.exists_eq_add_of_le' low
      rw [total, Nat.pow_add, ← Nat.mul_assoc] at magnitude
      have whole := Nat.eq_of_mul_eq_mul_right (Nat.two_pow_pos exponent) magnitude
      have bound : n.natAbs ≤ significand := whole ▸ Nat.le_mul_of_pos_right _ (Nat.two_pow_pos rest)
      exact exact_of_natAbs_le (by omega)

theorem toInt?_of_units {x : Double} {units n : Int} (held : x.units? = some units) :
    x.toInt? = some n ↔ units = n * unitsPerOne := by
  have positive : (unitsPerOne : Int) ≠ 0 := Int.natCast_ne_zero.2 (Nat.ne_of_gt unitsPerOne_pos)
  simp only [toInt?, held, Option.bind_some]
  generalize (unitsPerOne : Int) = one at positive ⊢
  constructor
  · intro whole
    split at whole
    · rename_i divisible
      rw [← Option.some.inj whole, Int.ediv_mul_cancel (Int.dvd_of_emod_eq_zero divisible)]
    · cases whole
  · rintro rfl
    rw [if_pos (Int.mul_emod_left n one), Int.mul_ediv_cancel n positive]

/-- A double is equal to an integer if both have the same place. -/
theorem toInt?_eq_some_iff {x : Double} {n : Int} :
    x.toInt? = some n ↔ x.position? = some (.point (n * unitsPerOne)) := by
  cases x with
  | nan => exact ⟨nofun, nofun⟩
  | infinite negative => cases negative <;> exact ⟨nofun, nofun⟩
  | finite negative code =>
    rw [toInt?_of_units rfl, position?, Option.some.injEq, Position.point.injEq]

theorem signed_natAbs_mul (n : Int) (k : Nat) :
    (if n < 0 then -((n.natAbs * k : Nat) : Int) else (n.natAbs * k : Nat)) = n * k := by
  rw [Int.natCast_mul]
  split
  · rename_i below
    rw [Int.ofNat_natAbs_of_nonpos (Int.le_of_lt below), Int.neg_mul, Int.neg_neg]
  · rename_i within
    rw [Int.natAbs_of_nonneg (Int.not_lt.1 within)]

section Code

variable {n : Int} {negative : Bool} {code : Fin codeBound}

theorem codeUnits_of_toInt? (whole : (finite negative code).toInt? = some n) :
    codeUnits code = n.natAbs * unitsPerOne := by
  have place := toInt?_eq_some_iff.1 whole
  simp only [position?, Option.some.injEq, Position.point.injEq] at place
  have magnitude := congrArg Int.natAbs place
  rw [Int.natAbs_mul, Int.natAbs_natCast] at magnitude
  rw [← magnitude]
  split <;> simp only [Int.natAbs_neg, Int.natAbs_natCast]

variable (units : codeUnits code = n.natAbs * unitsPerOne)

include units

theorem toInt?_of_codeUnits : (finite (n < 0) code).toInt? = some n := by
  rw [toInt?_eq_some_iff, position?, units]
  simp only [decide_eq_true_eq, signed_natAbs_mul]

theorem nearest_of_codeUnits : ofRatio (n < 0) n.natAbs 1 = .finite (n < 0) code := by
  rw [← ofRatio_codeUnits, units]
  exact ofRatio_congr _ Nat.one_pos unitsPerOne_pos (Nat.mul_one _).symm

end Code

/-- The integer that an integer is rounded to when it is made a double, if it does not become infinite. -/
def rounded? (n : Int) : Option Int :=
  (ofInt? n).bind toInt?

theorem rounded?_eq (n : Int) : rounded? n = (ofRatio (n < 0) n.natAbs 1).toInt? := by
  rw [rounded?, ofInt?]
  cases ofRatio (n < 0) n.natAbs 1 <;> rfl

/-- An integer is rounded to itself if it is a double. -/
theorem rounded?_eq_self_iff {n : Int} : rounded? n = some n ↔ Exact n := by
  rw [rounded?_eq, exact_iff_exists_code]
  constructor
  · intro whole
    generalize ofRatio (n < 0) n.natAbs 1 = nearest at whole
    match nearest with
    | .finite negative code => exact ⟨code, codeUnits_of_toInt? whole⟩
  · rintro ⟨code, units⟩
    rw [nearest_of_codeUnits units, toInt?_of_codeUnits units]

instance (n : Int) : Decidable (Exact n) :=
  decidable_of_iff _ rounded?_eq_self_iff

example : Exact (2 ^ 53) ∧ ¬Exact (2 ^ 53 + 1) ∧ Exact (2 ^ 53 + 2) := by decide +kernel

theorem position?_ofRatio_zero (negative : Bool) : (ofRatio negative 0 1).position? = some (.point 0) := by
  rw [ofRatio_of_small negative (by rw [Nat.zero_mul]; exact Nat.one_pos)]
  cases negative <;> rfl

end Double

end TaskQuery
