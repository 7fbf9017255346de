import TaskQuery.Proofs.GrammarReading

namespace TaskQuery

open Grammar

/-- The place in a text that an error points at. Texts without any lexeme, and values that are no texts, have none. -/
def SyntaxError.place? : SyntaxError → Option Nat
  | notText | empty => none
  | e => some e.position

namespace Reading

/-- The causes of a failure to read tokens of a text that ends at `finish`. -/
inductive Cause (finish : Nat) (ts : List Token) : ReadFailure → Prop
  | digits {t : Token} {s : String} {count : Nat} : t ∈ ts → Literal t.lexeme s →
      readLiteral s = .tooManyDigits count ∨ readLiteral (Text.trim s) = .tooManyDigits count →
      Cause finish ts (.tooManyDigits count)
  | token {t : Token} {e : SyntaxError} : t ∈ ts → e.place? = some t.position → Cause finish ts (.malformed e)
  | finish {e : SyntaxError} : e.place? = some finish → Cause finish ts (.malformed e)

/-- Whether a result is a failure only for a cause in the tokens. -/
def Blames {α : Type} (finish : Nat) (ts : List Token) (r : Except ReadFailure α) : Prop :=
  ∀ failure, r = .error failure → Cause finish ts failure

variable {α β : Type} {finish : Nat} {t : Token} {ts us : List Token}

theorem Cause.mono {failure : ReadFailure} (cause : Cause finish us failure) (within : us ⊆ ts) :
    Cause finish ts failure := by
  cases cause with
  | digits member literal long => exact .digits (within member) literal long
  | token member here => exact .token (within member) here
  | finish atEnd => exact .finish atEnd

theorem blames_ok (a : α) : Blames finish ts (.ok a) := by
  intro failure failed
  cases failed

theorem blames_token {e : SyntaxError} (member : t ∈ ts) (here : e.place? = some t.position) :
    Blames finish ts (malformed e : Except ReadFailure α) := by
  intro failure failed
  cases failed
  exact .token member here

theorem blames_front {e : SyntaxError} (here : e.place? = some t.position) :
    Blames finish (t :: ts) (malformed e : Except ReadFailure α) :=
  blames_token List.mem_cons_self here

theorem blames_finish {e : SyntaxError} (atEnd : e.place? = some finish) :
    Blames finish ts (malformed e : Except ReadFailure α) := by
  intro failure failed
  cases failed
  exact .finish atEnd

namespace Blames

variable {r : Except ReadFailure α}

theorem mono (blames : Blames finish us r) (within : us ⊆ ts) : Blames finish ts r :=
  fun failure failed => (blames failure failed).mono within

theorem map {f : α → β} (blames : Blames finish ts r) : Blames finish ts (r.map f) :=
  fun failure failed => blames failure (Outcome.map_eq_error.1 failed)

theorem bind {f : α → Except ReadFailure β} (first : Blames finish ts r) (next : ∀ a, r = .ok a → Blames finish ts (f a)) :
    Blames finish ts (r >>= f) := by
  cases result : r with
  | error e =>
    intro failure failed
    cases failed
    exact first e result
  | ok a => exact next a result

/-- A failure is the same, whatever was to be read. -/
theorem error {e : ReadFailure} (blames : Blames finish ts (.error e : Except ReadFailure α)) :
    Blames finish ts (.error e : Except ReadFailure β) :=
  fun failure failed => blames failure (by cases failed; rfl)

end Blames

theorem item?_blames {r : Except ReadFailure Value} (found : item? t.lexeme = some r) : Blames finish (t :: ts) r := by
  obtain ⟨lexeme, position⟩ := t
  rintro failure rfl
  cases lexeme with
  | word s =>
    simp only [item?] at found
    split at found <;> cases found
    rename_i read
    exact .digits List.mem_cons_self (.word s) (.inl read)
  | _ => cases found

theorem operator_blames (f : Field) (ts : List Token) : Blames finish ts (operator finish f ts) := by
  unfold operator
  split
  · exact blames_finish rfl
  split
  · exact blames_ok _
  · split
    · exact blames_ok _
    split
    · exact blames_ok _
    split
    · split
      · split
        · exact blames_ok _
        · exact blames_front rfl
      · exact blames_front rfl
    · exact blames_front rfl
  · exact blames_front rfl

theorem listItems_blames (opening : Nat) (ts : List Token) : Blames finish ts (listItems finish opening ts) := by
  fun_induction listItems finish opening ts with
  | case1 | case4 => exact blames_finish rfl
  | case2 => exact blames_front rfl
  | case3 t ts e found => exact (item?_blames found).error
  | case5 => exact blames_ok _
  | case6 t v found position rest ih =>
    exact (ih.mono fun _ member => List.mem_cons_of_mem _ (List.mem_cons_of_mem _ member)).map
  | case7 => exact blames_token (List.mem_cons_of_mem _ List.mem_cons_self) rfl

theorem bracketList_blames (opening : Nat) (ts : List Token) : Blames finish ts (bracketList finish opening ts) := by
  unfold bracketList
  split
  · exact blames_ok _
  · exact listItems_blames opening _

theorem bareItems_blames (ts : List Token) : Blames finish ts (bareItems finish ts) := by
  fun_induction bareItems finish ts with
  | case1 => exact blames_finish rfl
  | case2 => exact blames_token (List.mem_cons_of_mem _ List.mem_cons_self) rfl
  | case3 position t rest e found =>
    exact (item?_blames found).error.mono (List.subset_cons_self _ _)
  | case4 position t rest v found ih =>
    exact (ih.mono fun _ member => List.mem_cons_of_mem _ (List.mem_cons_of_mem _ member)).map
  | case5 => exact blames_ok _

theorem scalar_blames {s : String} (literal : Literal t.lexeme s) (f : Field) :
    Blames finish (t :: ts) (scalar f t.position t.lexeme s) := by
  unfold scalar
  split
  · split
    · exact blames_ok _
    split
    · exact blames_ok _
    · exact blames_front rfl
  · split
    · exact blames_ok _
    · exact blames_ok _
    · exact blames_front rfl
    · rename_i read
      intro failure failed
      cases failed
      exact .digits List.mem_cons_self literal (.inr read)
  · split
    · exact blames_ok _
    · rename_i found
      exact (item?_blames found).error
    · exact blames_front rfl
  · exact blames_ok _
  · exact blames_ok _

theorem valueFrom_blames {s : String} (literal : Literal t.lexeme s) (f : Field) (op : Operator) (ts : List Token) :
    Blames finish (t :: ts) (valueFrom finish f op t s ts) := by
  unfold valueFrom
  split
  · split
    · exact ((bareItems_blames _).mono (List.subset_cons_self _ _)).map
    · rename_i found
      exact (item?_blames found).error
    · exact blames_front rfl
  · exact (scalar_blames literal f).map

theorem value_blames (f : Field) (op : Operator) (ts : List Token) : Blames finish ts (value finish f op ts) := by
  unfold value
  split
  · exact blames_finish rfl
  rename_i t ts
  obtain ⟨lexeme, position⟩ := t
  dsimp only
  split
  · exact ((bracketList_blames _ _).mono (List.subset_cons_self _ _)).map
  · exact valueFrom_blames (.word _) f op ts
  · exact valueFrom_blames (.quoted _) f op ts
  · exact blames_front rfl

theorem field_blames (ts : List Token) : Blames finish ts (field finish ts) := by
  unfold field
  split
  · exact blames_finish rfl
  split
  · exact blames_front rfl
  · exact blames_front rfl
  · split
    · exact blames_front rfl
    split
    · exact blames_front rfl
    · exact blames_ok _
  · exact blames_front rfl

theorem condition_blames (ts : List Token) : Blames finish ts (condition finish ts) := by
  refine (field_blames ts).bind fun ⟨f, afterField⟩ readField => ?_
  obtain ⟨name, position, rfl, _⟩ := field_phrase readField
  refine ((operator_blames f afterField).mono (List.subset_cons_self _ _)).bind fun ⟨op, afterOperator⟩ readOperator => ?_
  obtain ⟨os, rfl, _⟩ := operator_phrase readOperator
  refine ((value_blames f op afterOperator).mono ?_).bind fun _ _ => blames_ok _
  exact fun t member => List.mem_cons_of_mem _ (List.mem_append_right os member)

theorem furtherConditions_blames (inUse : Option Joiner) (ts : List Token) :
    Blames finish ts (furtherConditions finish inUse ts) := by
  fun_induction furtherConditions finish inUse ts with
  | case1 inUse j position ts agrees e read =>
    have blames : Blames finish ts (condition finish ts) := condition_blames ts
    rw [read] at blames
    exact blames.error.mono (List.subset_cons_self _ _)
  | case2 inUse j position ts agrees c rest read ih =>
    obtain ⟨used, rfl, _⟩ := condition_phrase read
    exact (ih.mono fun t member => List.mem_cons_of_mem _ (List.mem_append_right used member)).map
  | case3 => exact blames_front rfl
  | case4 => exact blames_ok _

theorem group_blames (opening : Nat) (ts : List Token) : Blames finish ts (group finish opening ts) := by
  refine (condition_blames ts).bind fun ⟨first, afterFirst⟩ readFirst => ?_
  obtain ⟨used, rfl, _⟩ := condition_phrase readFirst
  refine ((furtherConditions_blames none afterFirst).mono (List.subset_append_right _ _)).bind fun found readFurther => ?_
  obtain ⟨cs, joiner, afterLast⟩ := found
  obtain ⟨later, _, rfl, _⟩ := furtherConditions_phrase readFurther
  dsimp only
  split
  · exact blames_ok _
  · exact blames_finish rfl
  · exact blames_token (List.mem_append_right used (List.mem_append_right later List.mem_cons_self)) rfl

theorem element_blames (ts : List Token) : Blames finish ts (element finish ts) := by
  unfold element
  split
  · exact ((group_blames _ _).mono (List.subset_cons_self _ _)).map
  · exact (condition_blames _).map

theorem furtherElements_blames (ts : List Token) : Blames finish ts (furtherElements finish ts) := by
  fun_induction furtherElements finish ts with
  | case1 j position ts e read =>
    have blames : Blames finish ts (element finish ts) := element_blames ts
    rw [read] at blames
    exact blames.error.mono (List.subset_cons_self _ _)
  | case2 j position ts e rest read ih =>
    obtain ⟨used, rfl, _⟩ := element_phrase read
    exact (ih.mono fun t member => List.mem_cons_of_mem _ (List.mem_append_right used member)).map
  | case3 => exact blames_ok _

/-- The joiners between elements are tokens, at the positions that are kept for them. -/
theorem furtherElements_joiners {rest : List Token} {es : List ((Joiner × Nat) × Element)}
    (read : furtherElements finish ts = .ok (es, rest)) : ∀ step ∈ es, ⟨.joiner step.1.1, step.1.2⟩ ∈ ts := by
  fun_induction furtherElements finish ts generalizing es rest with
  | case1 => cases read
  | case2 j position ts e after readElement ih =>
    obtain ⟨⟨later, behind⟩, readLater, eq⟩ := Outcome.map_eq_ok.1 read
    cases eq
    obtain ⟨used, rfl, _⟩ := element_phrase readElement
    refine List.forall_mem_cons.2 ⟨List.mem_cons_self, fun step member => ?_⟩
    exact List.mem_cons_of_mem _ (List.mem_append_right used (ih readLater step member))
  | case3 =>
    cases read
    exact List.forall_mem_nil _

theorem assemble_blames {first : Element} {further : List ((Joiner × Nat) × Element)}
    (joiners : ∀ step ∈ further, ⟨.joiner step.1.1, step.1.2⟩ ∈ ts) : Blames finish ts (assemble first further) := by
  unfold assemble
  dsimp only
  split
  · exact blames_ok _
  split
  · rename_i found position mixed
    obtain ⟨step, member, same⟩ := List.mem_map.1 (List.mem_of_find?_eq_some mixed)
    refine blames_token (joiners step member) ?_
    rw [same]
    rfl
  · exact blames_ok _

theorem place?_trailing (t : Token) : (trailing t).place? = some t.position := by
  obtain ⟨lexeme, position⟩ := t
  cases lexeme with
  | word s | quoted s =>
    simp only [trailing]
    split
    · rfl
    split <;> rfl
  | _ => rfl

/-- Reading the tokens of a text fails only for a cause in them. -/
theorem filter_blames (ts : List Token) : Blames finish ts (filter finish ts) := by
  refine (element_blames ts).bind fun ⟨first, afterFirst⟩ readFirst => ?_
  obtain ⟨used, rfl, _⟩ := element_phrase readFirst
  refine ((furtherElements_blames afterFirst).mono (List.subset_append_right _ _)).bind fun found readFurther => ?_
  obtain ⟨further, afterLast⟩ := found
  have joiners := furtherElements_joiners readFurther
  obtain ⟨later, rfl, _⟩ := furtherElements_phrase readFurther
  dsimp only
  split
  · exact blames_token (List.mem_append_right used (List.mem_append_right later List.mem_cons_self)) (place?_trailing _)
  · exact assemble_blames fun step member => List.mem_append_right used (joiners step member)

end Reading

end TaskQuery
