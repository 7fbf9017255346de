namespace TaskQuery.Text

/-- Whether `needle` occurs in the text as one piece. -/
def occursIn (needle : List Char) : List Char → Bool
  | [] => needle.isEmpty
  | c :: cs => needle.isPrefixOf (c :: cs) || occursIn needle cs

/-- An occurrence is a splitting of the text around the needle. -/
theorem occursIn_iff {needle cs : List Char} :
    occursIn needle cs = true ↔ ∃ left right, cs = left ++ needle ++ right := by
  induction cs with
  | nil =>
    constructor
    · intro h
      exact ⟨[], [], by simpa [occursIn] using h.symm⟩
    · rintro ⟨left, right, h⟩
      have : needle = [] := by
        have := congrArg List.length h
        simp only [List.length_nil, List.length_append] at this
        exact List.eq_nil_of_length_eq_zero (by omega)
      simp [occursIn, this]
  | cons c cs ih =>
    simp only [occursIn, Bool.or_eq_true, ih, List.isPrefixOf_iff_prefix]
    constructor
    · rintro (⟨right, h⟩ | ⟨left, right, h⟩)
      · exact ⟨[], right, by simpa using h.symm⟩
      · exact ⟨c :: left, right, by simp [h]⟩
    · rintro ⟨left, right, h⟩
      cases left with
      | nil => exact .inl ⟨right, by simpa using h.symm⟩
      | cons d left =>
        simp only [List.cons_append, List.cons.injEq] at h
        exact .inr ⟨left, right, h.2⟩

end TaskQuery.Text
