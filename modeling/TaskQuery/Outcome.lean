namespace TaskQuery.Outcome

variable {ε α β γ : Type}

instance decidableEq [DecidableEq ε] [DecidableEq α] : DecidableEq (Except ε α)
  | .ok a, .ok b => decidable_of_iff (a = b) (Except.ok.injEq a b).symm.to_iff
  | .error d, .error e => decidable_of_iff (d = e) (Except.error.injEq d e).symm.to_iff
  | .ok _, .error _ => isFalse fun same => by cases same
  | .error _, .ok _ => isFalse fun same => by cases same

/-- A mapped result is there if the result is. -/
theorem map_eq_ok {x : Except ε α} {f : α → β} {b : β} : x.map f = .ok b ↔ ∃ a, x = .ok a ∧ f a = b := by
  cases x <;> simp [Except.map]

/-- A mapped result is missing if the result is. -/
theorem map_eq_error {x : Except ε α} {f : α → β} {e : ε} : x.map f = .error e ↔ x = .error e := by
  cases x <;> simp [Except.map]

theorem exists_map_iff {x : Except ε α} {f : α → β} : (∃ b, x.map f = .ok b) ↔ ∃ a, x = .ok a := by
  cases x <;> simp [Except.map]

/-- A result is there unless it is missing. -/
theorem exists_ok_iff {x : Except ε α} : (∃ a, x = .ok a) ↔ ∀ e, x ≠ .error e := by
  cases x <;> simp

/-- A result in two steps is there if both steps give theirs. -/
theorem bind_eq_ok {x : Except ε α} {f : α → Except ε β} {b : β} :
    (x >>= f) = .ok b ↔ ∃ a, x = .ok a ∧ f a = .ok b := by
  cases x <;> simp [bind, Except.bind]

/-- Two results are put together where both are there. -/
theorem both_eq_ok {x : Except ε α} {y : Except ε β} {f : α → β → γ} {c : γ} :
    (do return f (← x) (← y)) = .ok c ↔ ∃ a b, x = .ok a ∧ y = .ok b ∧ f a b = c := by
  cases x <;> cases y <;> simp [bind, Except.bind, pure, Except.pure]

theorem exists_both_iff {x : Except ε α} {y : Except ε β} {f : α → β → γ} :
    (∃ c, (do return f (← x) (← y)) = .ok c) ↔ (∃ a, x = .ok a) ∧ ∃ b, y = .ok b := by
  cases x <;> cases y <;> simp [bind, Except.bind, pure, Except.pure]

section Lists

variable {f : α → Except ε β} {as : List α} {bs : List β}

theorem mapM_cons_eq_ok {a : α} :
    (a :: as).mapM f = .ok bs ↔ ∃ b rest, f a = .ok b ∧ as.mapM f = .ok rest ∧ b :: rest = bs := by
  rw [List.mapM_cons]
  exact both_eq_ok

/-- The results of a list are there if each of them is. -/
theorem exists_mapM_iff : (∃ bs, as.mapM f = .ok bs) ↔ ∀ a ∈ as, ∃ b, f a = .ok b := by
  induction as with
  | nil => exact iff_of_true ⟨[], rfl⟩ (List.forall_mem_nil _)
  | cons a as ih =>
    rw [List.forall_mem_cons, ← ih]
    constructor
    · rintro ⟨bs, found⟩
      obtain ⟨b, rest, first, others, _⟩ := mapM_cons_eq_ok.1 found
      exact ⟨⟨b, first⟩, rest, others⟩
    · rintro ⟨⟨b, first⟩, rest, others⟩
      exact ⟨b :: rest, mapM_cons_eq_ok.2 ⟨b, rest, first, others, rfl⟩⟩

theorem exists_of_mapM (found : as.mapM f = .ok bs) {a : α} (member : a ∈ as) : ∃ b ∈ bs, f a = .ok b := by
  induction as generalizing bs with
  | nil => cases member
  | cons first as ih =>
    obtain ⟨b, rest, here, others, rfl⟩ := mapM_cons_eq_ok.1 found
    rcases List.mem_cons.1 member with rfl | later
    · exact ⟨b, List.mem_cons_self, here⟩
    · obtain ⟨c, inside, there⟩ := ih others later
      exact ⟨c, List.mem_cons_of_mem b inside, there⟩

/-- Where all results are known, so is that of the list. -/
theorem mapM_of_forall {own : α → β} (each : ∀ a ∈ as, f a = .ok (own a)) : as.mapM f = .ok (as.map own) := by
  induction as with
  | nil => rfl
  | cons a as ih =>
    obtain ⟨first, others⟩ := List.forall_mem_cons.1 each
    exact mapM_cons_eq_ok.2 ⟨own a, as.map own, first, ih others, rfl⟩

end Lists

/-- A result that is there as an option is there. -/
theorem eq_ok_of_toOption {x : Except ε α} {a : α} (h : x.toOption = some a) : x = .ok a := by
  cases x with
  | error => nomatch h
  | ok b =>
    cases h
    rfl

end TaskQuery.Outcome
