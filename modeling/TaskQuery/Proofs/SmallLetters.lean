import TaskQuery.Text.Lower

namespace TaskQuery.Text

/-- Whether a run has a capital with this number. -/
def CaseRun.covers (run : CaseRun) (n : Nat) : Bool :=
  run.first ≤ n && n ≤ run.last && (n - run.first) % run.step == 0

/-- The numbers of the least and of the greatest small letter of a run. -/
def CaseRun.low (run : CaseRun) : Nat := (run.first + run.shift).toNat

def CaseRun.high (run : CaseRun) : Nat := (run.last + run.shift).toNat

/-- Whether no small letter of a run is a capital of another one, seen from their bounds: they are apart, or the one has
the odd places between the even ones of the other. -/
def CaseRun.leadsOutOf (run other : CaseRun) : Bool :=
  Nat.blt run.high other.first || Nat.blt other.last run.low ||
    Nat.beq other.step 2 && (Nat.beq run.step 2 || Nat.beq run.first run.last) &&
      Nat.beq ((run.low + other.first) % 2) 1

theorem CaseRun.not_covers {run other : CaseRun} {n : Nat} (out : run.leadsOutOf other = true)
    (start : 0 ≤ run.first + run.shift) (covers : run.covers n = true) :
    other.covers (n + run.shift).toNat = false := by
  rw [Bool.eq_false_iff]
  intro again
  simp only [leadsOutOf, low, high, Bool.or_eq_true, Bool.and_eq_true, Nat.blt_eq, Nat.beq_eq] at out
  simp only [CaseRun.covers, Bool.and_eq_true, decide_eq_true_eq, beq_iff_eq] at covers again
  obtain ⟨⟨lower, upper⟩, step⟩ := covers
  obtain ⟨⟨lower', upper'⟩, step'⟩ := again
  rcases out with (below | above) | ⟨⟨two', two | single⟩, odd⟩
  · omega
  · omega
  · rw [two'] at step'
    rw [two] at step
    omega
  · rw [two'] at step'
    omega

/-- The dotted capital I is in no run, and no small letter of a run is this one either. -/
def dottedCapital : CaseRun := ⟨0x130, 0x130, 1, 0⟩

theorem leadsOutOf_all {run : CaseRun} (member : run ∈ caseRuns) :
    0 ≤ run.first + run.shift ∧ ∀ other ∈ dottedCapital :: caseRuns, run.leadsOutOf other = true := by
  have starts : ∀ run ∈ caseRuns, 0 ≤ run.first + run.shift := by decide +kernel
  have table : caseRuns.all (fun run => (dottedCapital :: caseRuns).all run.leadsOutOf) = true := by decide +kernel
  exact ⟨starts run member, List.all_eq_true.1 (List.all_eq_true.1 table run member)⟩

/-- Whether a character is its own small form, wherever it stands. The capital sigma is none, since it has a small letter. -/
def IsSmall (c : Char) : Prop :=
  lowerChar c = c ∧ c ≠ 'İ'

theorem IsSmall.ne_sigma {c : Char} (small : IsSmall c) : c ≠ capitalSigma := by
  rintro rfl
  exact absurd small.1 (by decide +kernel)

instance (c : Char) : Decidable (IsSmall c) :=
  inferInstanceAs (Decidable (lowerChar c = c ∧ c ≠ 'İ'))

/-- What holds of the first 128 characters one by one. -/
theorem of_ascii (property : Char → Prop) (each : ∀ n < 0x80, property (Char.ofNat n)) {c : Char}
    (ascii : c.toNat < 0x80) : property c := by
  have here := each c.toNat ascii
  rwa [Char.ofNat_toNat] at here

theorem toNat_ofNat (n : Nat) : (Char.ofNat n).toNat = n ∨ (Char.ofNat n).toNat = 0 := by
  by_cases valid : n.isValidChar
  · rw [Char.ofNat, dif_pos valid]
    exact .inl rfl
  · rw [Char.ofNat, dif_neg valid]
    exact .inr rfl

/-- Beyond ASCII, the small letter is looked up in the runs. -/
theorem lowerChar_of_large {c : Char} (large : ¬c.toNat < 0x80) :
    lowerChar c = (caseRuns.find? (CaseRun.covers · c.toNat)).elim c fun run => Char.ofNat (c.toNat + run.shift).toNat := by
  rw [lowerChar, if_neg large]
  unfold CaseRun.covers
  split
  · rename_i found
    rw [found]
    rfl
  · rename_i found
    rw [found]
    rfl

/-- A character whose number is in no run is its own small form. -/
theorem isSmall_of_not_covers {c : Char} (apart : ∀ run ∈ dottedCapital :: caseRuns, run.covers c.toNat = false) :
    IsSmall c := by
  by_cases ascii : c.toNat < 0x80
  · have noCapital : (⟨0x41, 0x5A, 1, 32⟩ : CaseRun).covers c.toNat = false :=
      apart _ (List.mem_cons_of_mem _ List.mem_cons_self)
    exact of_ascii (fun c => CaseRun.covers ⟨0x41, 0x5A, 1, 32⟩ c.toNat = false → IsSmall c) (by decide +kernel) ascii
      noCapital
  · obtain ⟨dotted, apart⟩ := List.forall_mem_cons.1 apart
    refine ⟨?_, fun isDotted => by rw [isDotted] at dotted; cases dotted⟩
    rw [lowerChar_of_large ascii, List.find?_eq_none.2 fun run member => Bool.eq_false_iff.1 (apart run member)]
    rfl

/-- What a capital of a run leads to is its own small form. -/
theorem isSmall_of_covers {run : CaseRun} {n : Nat} (member : run ∈ caseRuns) (covers : run.covers n = true) :
    IsSmall (Char.ofNat (n + run.shift).toNat) := by
  obtain ⟨start, out⟩ := leadsOutOf_all member
  refine isSmall_of_not_covers fun other among => ?_
  rcases toNat_ofNat (n + run.shift).toNat with number | zero
  · rw [number]
    exact CaseRun.not_covers (out other among) start covers
  · have unused : ∀ other ∈ dottedCapital :: caseRuns, other.covers 0 = false := by decide +kernel
    rw [zero]
    exact unused other among

theorem isSmall_lowerChar {c : Char} (plain : c ≠ 'İ') : IsSmall (lowerChar c) := by
  by_cases ascii : c.toNat < 0x80
  · exact of_ascii (fun c => IsSmall (lowerChar c)) (by decide +kernel) ascii
  · cases found : caseRuns.find? (CaseRun.covers · c.toNat) with
    | none =>
      have same : lowerChar c = c := by rw [lowerChar_of_large ascii, found]; rfl
      rw [same]
      exact ⟨same, plain⟩
    | some run =>
      have covers : run.covers c.toNat = true := by simpa using List.find?_some found
      rw [lowerChar_of_large ascii, found]
      exact isSmall_of_covers (List.mem_of_find?_eq_some found) covers

/-- The small form of a character is small, whatever stands around it. -/
theorem isSmall_of_mem_lowerAt {before after : List Char} {c d : Char} (member : d ∈ lowerAt before c after) :
    IsSmall d := by
  have finalSigma : IsSmall 'ς' ∧ IsSmall 'σ' := by decide +kernel
  have parts : IsSmall 'i' ∧ IsSmall (Char.ofNat 0x307) := by decide +kernel
  unfold lowerAt at member
  split at member
  · split at member
    · exact List.mem_singleton.1 member ▸ finalSigma.1
    · exact List.mem_singleton.1 member ▸ finalSigma.2
  split at member
  · rcases List.mem_cons.1 member with rfl | member
    · exact parts.1
    · exact List.mem_singleton.1 member ▸ parts.2
  · rename_i plain
    exact List.mem_singleton.1 member ▸ isSmall_lowerChar plain

theorem isSmall_of_mem_lowerAfter {before cs : List Char} : ∀ d ∈ lowerAfter before cs, IsSmall d := by
  induction cs generalizing before with
  | nil => exact List.forall_mem_nil _
  | cons c cs ih => exact List.forall_mem_append.2 ⟨fun d => isSmall_of_mem_lowerAt, ih⟩

/-- A text of small letters only stays as it is. -/
theorem lowerAfter_of_isSmall {before cs : List Char} (small : ∀ c ∈ cs, IsSmall c) : lowerAfter before cs = cs := by
  induction cs generalizing before with
  | nil => rfl
  | cons c cs ih =>
    obtain ⟨first, others⟩ := List.forall_mem_cons.1 small
    rw [lowerAfter, ih others, lowerAt, if_neg first.ne_sigma, if_neg first.2, first.1]
    rfl

theorem lower_lower (cs : List Char) : lower (lower cs) = lower cs :=
  lowerAfter_of_isSmall isSmall_of_mem_lowerAfter

end TaskQuery.Text
