import TaskQuery.Proofs.Grammar
import TaskQuery.Proofs.Layout

namespace TaskQuery

open Grammar

/-- How many digits the reader takes for an integer. -/
def Grammar.Readable (digits : Nat) : Prop :=
  digits ≤ integerDigitLimit

theorem readLiteral_eq_number_iff {s : String} {n : Number} :
    readLiteral s = .number n ↔ NumberText Readable s n := by
  constructor
  · intro h
    cases read : Numeral.read? Text.digitValue? (dropFinalNewline s.toList) with
    | none => simp [readLiteral, read] at h
    | some m =>
      have spelled := Numeral.read?_spelled read
      rw [readLiteral_of_spelled spelled] at h
      split at h
      · cases h
      · rename_i digits
        cases h
        exact ⟨m, spelled, fun integral => Nat.le_of_not_lt fun long => digits ⟨integral, long⟩, rfl⟩
  · rintro ⟨m, spelled, digits, rfl⟩
    rw [readLiteral_of_spelled spelled, if_neg]
    rintro ⟨integral, long⟩
    exact Nat.not_lt.2 (digits integral) long

theorem readLiteral_eq_notNumber_iff_plain {s : String} : readLiteral s = .notNumber ↔ ¬IsNumberText s :=
  readLiteral_eq_notNumber_iff.trans not_exists.symm

namespace Reading

theorem item?_eq_ok_iff {l : Lexeme} {v : Value} : item? l = some (.ok v) ↔ Item Readable l v := by
  constructor
  · intro h
    cases l with
    | word s =>
      simp only [item?] at h
      split at h
      · rename_i n read
        cases h
        exact .number (n := .int n) (readLiteral_eq_number_iff.1 read)
      · rename_i x read
        cases h
        exact .number (n := .float x) (readLiteral_eq_number_iff.1 read)
      · rename_i read
        cases h
        exact .text (readLiteral_eq_notNumber_iff_plain.1 read)
      · cases h
    | quoted s =>
      cases h
      exact .quoted s
    | _ => cases h
  · intro item
    cases item with
    | @number s n number =>
      have read := readLiteral_eq_number_iff.2 number
      cases n <;> simp [item?, read, Number.value]
    | text plain => simp [item?, readLiteral_eq_notNumber_iff_plain.2 plain]
    | quoted => rfl

theorem scalar_phrase {f : Field} {position : Nat} {l : Lexeme} {s : String} {operand : Operand} (literal : Literal l s)
    (h : scalar f position l s = .ok operand) : Scalar Readable f.kind l operand := by
  unfold scalar at h
  split at h
  · rename_i kind
    rw [kind]
    split at h
    · rename_i word
      cases h
      exact .isTrue literal (eq_of_beq word)
    split at h
    · rename_i word
      cases h
      exact .isFalse literal (eq_of_beq word)
    · cases h
  · rename_i kind
    rw [kind]
    split at h
    · rename_i n read
      cases h
      exact .number (n := .int n) literal (readLiteral_eq_number_iff.1 read)
    · rename_i x read
      cases h
      exact .number (n := .float x) literal (readLiteral_eq_number_iff.1 read)
    · cases h
    · cases h
  · rename_i kind
    rw [kind]
    split at h
    · rename_i v found
      cases h
      exact .array (item?_eq_ok_iff.1 found)
    · cases h
    · cases h
  · rename_i kind
    cases h
    rw [kind]
    exact .date literal
  · rename_i kind
    cases h
    rw [kind]
    exact .string literal

theorem scalar_of_phrase {f : Field} {l : Lexeme} {s : String} {operand : Operand}
    (literal : Literal l s) (phrase : Scalar Readable f.kind l operand) (position : Nat) :
    scalar f position l s = .ok operand := by
  generalize kind : f.kind = k at phrase
  cases phrase with
  | isTrue other word =>
    cases literal.unique other
    simp [scalar, kind, isWordLike, word]
  | isFalse other word =>
    cases literal.unique other
    simp [scalar, kind, isWordLike, word]
  | @number _ _ n other number =>
    cases literal.unique other
    have read := readLiteral_eq_number_iff.2 number
    cases n <;> simp [scalar, kind, read, Number.value]
  | date other =>
    cases literal.unique other
    simp [scalar, kind]
  | string other =>
    cases literal.unique other
    simp [scalar, kind]
  | array item => simp [scalar, kind, item?_eq_ok_iff.2 item]

theorem operator_phrase {finish : Nat} {f : Field} {ts rest : List Token} {op : Operator}
    (h : operator finish f ts = .ok (op, rest)) :
    ∃ used, ts = used ++ rest ∧ OperatorPhrase (used.map Token.lexeme) op := by
  unfold operator at h
  split at h
  · cases h
  rename_i t ts
  obtain ⟨lexeme, position⟩ := t
  dsimp only at h
  split at h
  · cases h
    exact ⟨[_], rfl, .sign op⟩
  · rename_i s
    split at h
    · rename_i word
      cases h
      exact ⟨[_], rfl, .like (eq_of_beq word)⟩
    split at h
    · rename_i word
      cases h
      exact ⟨[_], rfl, .isIn (eq_of_beq word)⟩
    split at h
    · rename_i word
      split at h
      · split at h
        · rename_i next
          cases h
          exact ⟨[_, _], rfl, .notIn (eq_of_beq word) (eq_of_beq next)⟩
        · cases h
      · cases h
    · cases h
  · cases h

theorem operator_of_phrase {ls : List Lexeme} {op : Operator} (phrase : OperatorPhrase ls op) {used : List Token}
    (same : used.map Token.lexeme = ls) (finish : Nat) (f : Field) (rest : List Token) :
    operator finish f (used ++ rest) = .ok (op, rest) := by
  cases phrase with
  | sign op =>
    obtain ⟨t, rfl, eq⟩ := List.map_eq_singleton_iff.1 same
    simp [operator, eq]
  | like word =>
    obtain ⟨t, rfl, eq⟩ := List.map_eq_singleton_iff.1 same
    simp [operator, eq, isWordLike, word]
  | isIn word =>
    obtain ⟨t, rfl, eq⟩ := List.map_eq_singleton_iff.1 same
    simp [operator, eq, isWordLike, word]
  | notIn word next =>
    obtain ⟨t, used, rfl, eq, same⟩ := List.map_eq_cons_iff.1 same
    obtain ⟨⟨u, q⟩, rfl, rfl⟩ := List.map_eq_singleton_iff.1 same
    simp [operator, eq, isWordLike, word, next]

theorem listItems_phrase {finish opening : Nat} {ts rest : List Token} {vs : List Value}
    (h : listItems finish opening ts = .ok (vs, rest)) :
    ∃ used position, ts = used ++ ⟨.closeList, position⟩ :: rest ∧ Items Readable (used.map Token.lexeme) vs := by
  fun_induction listItems finish opening ts generalizing vs rest with
  | case1 => cases h
  | case2 => cases h
  | case3 => cases h
  | case4 => cases h
  | case5 t v item position rest =>
    cases h
    exact ⟨[t], position, rfl, .last (item?_eq_ok_iff.1 item)⟩
  | case6 t v item position ts ih =>
    obtain ⟨⟨later, after⟩, read, eq⟩ := Outcome.map_eq_ok.1 h
    cases eq
    obtain ⟨used, close, split, items⟩ := ih read
    exact ⟨t :: ⟨.comma, position⟩ :: used, close, by simp [split], .cons (item?_eq_ok_iff.1 item) items⟩
  | case7 => cases h

theorem listItems_of_phrase {ls : List Lexeme} {vs : List Value} (items : Items Readable ls vs) {used : List Token}
    (same : used.map Token.lexeme = ls) (finish opening position : Nat) (rest : List Token) :
    listItems finish opening (used ++ ⟨.closeList, position⟩ :: rest) = .ok (vs, rest) := by
  induction items generalizing used with
  | last item =>
    obtain ⟨t, rfl, rfl⟩ := List.map_eq_singleton_iff.1 same
    rw [List.singleton_append, listItems.eq_def]
    simp [item?_eq_ok_iff.2 item]
  | cons item _ ih =>
    obtain ⟨t, behind, rfl, rfl, sameBehind⟩ := List.map_eq_cons_iff.1 same
    obtain ⟨⟨l, q⟩, later, rfl, rfl, sameLater⟩ := List.map_eq_cons_iff.1 sameBehind
    rw [List.cons_append, List.cons_append, listItems.eq_def]
    simp [item?_eq_ok_iff.2 item, ih sameLater, Except.map]

/-- Whether no comma stands at the front, so that a list without brackets has come to its end. -/
def NoComma (ts : List Token) : Prop :=
  ∀ t ∈ ts.head?, t.lexeme ≠ .comma

theorem bareItems_phrase {finish : Nat} {ts rest : List Token} {vs : List Value}
    (h : bareItems finish ts = .ok (vs, rest)) :
    vs = [] ∧ ts = rest ∧ NoComma rest ∨ ∃ position used, ts = ⟨.comma, position⟩ :: (used ++ rest) ∧
      Items Readable (used.map Token.lexeme) vs := by
  fun_induction bareItems finish ts generalizing vs rest with
  | case1 => cases h
  | case2 => cases h
  | case3 => cases h
  | case4 position t ts v item ih =>
    obtain ⟨⟨later, after⟩, read, eq⟩ := Outcome.map_eq_ok.1 h
    cases eq
    have item := item?_eq_ok_iff.1 item
    rcases ih read with ⟨rfl, rfl, _⟩ | ⟨comma, used, rfl, items⟩
    · exact .inr ⟨position, [t], rfl, .last item⟩
    · exact .inr ⟨position, t :: ⟨.comma, comma⟩ :: used, rfl, .cons item items⟩
  | case5 ts noComma =>
    cases h
    refine .inl ⟨rfl, rfl, ?_⟩
    intro t head isComma
    obtain ⟨tail, rfl⟩ := List.head?_eq_some_iff.1 head
    obtain ⟨l, position⟩ := t
    cases isComma
    exact noComma position tail rfl

theorem bareItems_of_noComma {ts : List Token} (stop : NoComma ts) (finish : Nat) :
    bareItems finish ts = .ok ([], ts) := by
  rw [bareItems.eq_def]
  split
  · exact absurd rfl (stop _ rfl)
  · rfl

theorem bareItems_of_phrase {ls : List Lexeme} {vs : List Value} (items : Items Readable ls vs) {used rest : List Token}
    (same : used.map Token.lexeme = ls) (stop : NoComma rest) (finish position : Nat) :
    bareItems finish (⟨.comma, position⟩ :: (used ++ rest)) = .ok (vs, rest) := by
  induction items generalizing used position with
  | last item =>
    obtain ⟨t, rfl, rfl⟩ := List.map_eq_singleton_iff.1 same
    rw [List.singleton_append, bareItems.eq_def]
    simp [item?_eq_ok_iff.2 item, bareItems_of_noComma stop, Except.map]
  | cons item _ ih =>
    obtain ⟨t, behind, rfl, rfl, sameBehind⟩ := List.map_eq_cons_iff.1 same
    obtain ⟨⟨l, q⟩, later, rfl, rfl, sameLater⟩ := List.map_eq_cons_iff.1 sameBehind
    rw [List.cons_append, List.cons_append, bareItems.eq_def]
    simp [item?_eq_ok_iff.2 item, ih sameLater, Except.map]

theorem valueFrom_phrase {finish : Nat} {f : Field} {op : Operator} {t : Token} {s : String} {ts rest : List Token}
    {operand : Operand} (literal : Literal t.lexeme s) (h : valueFrom finish f op t s ts = .ok (operand, rest)) :
    ∃ used, ts = used ++ rest ∧ ValuePhrase Readable f.kind op (t.lexeme :: used.map Token.lexeme) operand := by
  unfold valueFrom at h
  split at h
  · rename_i position ts membership
    have membership : op = .isIn ∨ op = .notIn := by simpa [isMembership] using membership
    split at h
    · rename_i v item
      have item := item?_eq_ok_iff.1 item
      obtain ⟨⟨vs, after⟩, read, eq⟩ := Outcome.map_eq_ok.1 h
      cases eq
      rcases bareItems_phrase read with ⟨_, rfl, noComma⟩ | ⟨comma, used, split, items⟩
      · exact absurd rfl (noComma _ rfl)
      · exact ⟨⟨.comma, comma⟩ :: used, split, .bareList membership item items⟩
    · cases h
    · cases h
  · obtain ⟨found, read, eq⟩ := Outcome.map_eq_ok.1 h
    cases eq
    exact ⟨[], rfl, .scalar (scalar_phrase literal read)⟩

theorem value_phrase {finish : Nat} {f : Field} {op : Operator} {ts rest : List Token} {operand : Operand}
    (h : value finish f op ts = .ok (operand, rest)) :
    ∃ used, ts = used ++ rest ∧ ValuePhrase Readable f.kind op (used.map Token.lexeme) operand := by
  unfold value at h
  split at h
  · cases h
  rename_i t ts
  obtain ⟨lexeme, position⟩ := t
  dsimp only at h
  split at h
  · obtain ⟨⟨vs, after⟩, read, eq⟩ := Outcome.map_eq_ok.1 h
    cases eq
    unfold bracketList at read
    split at read
    · cases read
      exact ⟨[_, _], rfl, .emptyList⟩
    · obtain ⟨used, close, split, items⟩ := listItems_phrase read
      refine ⟨⟨.openList, position⟩ :: (used ++ [⟨.closeList, close⟩]), by simp [split], ?_⟩
      rw [List.map_cons, List.map_append]
      exact .list items
  · rename_i s
    obtain ⟨used, split, phrase⟩ := valueFrom_phrase (.word s) h
    exact ⟨⟨.word s, position⟩ :: used, by simp [split], phrase⟩
  · rename_i s
    obtain ⟨used, split, phrase⟩ := valueFrom_phrase (.quoted s) h
    exact ⟨⟨.quoted s, position⟩ :: used, by simp [split], phrase⟩
  · cases h

theorem value_eq_valueFrom {finish : Nat} {f : Field} {op : Operator} {t : Token} {s : String} {ts : List Token}
    (literal : Literal t.lexeme s) : value finish f op (t :: ts) = valueFrom finish f op t s ts := by
  obtain ⟨lexeme, position⟩ := t
  cases literal <;> rfl

theorem bracketList_items {ls : List Lexeme} {vs : List Value} (items : Items Readable ls vs) {used : List Token}
    (same : used.map Token.lexeme = ls) (finish opening position : Nat) (rest : List Token) :
    bracketList finish opening (used ++ ⟨.closeList, position⟩ :: rest) = .ok (vs, rest) := by
  have read := listItems_of_phrase items same finish opening position rest
  unfold bracketList
  split
  · rename_i front
    rw [front, listItems.eq_def] at read
    cases read
  · exact read

theorem value_of_phrase {ls : List Lexeme} {f : Field} {op : Operator} {operand : Operand}
    (phrase : ValuePhrase Readable f.kind op ls operand) {used rest : List Token} (same : used.map Token.lexeme = ls)
    (stop : NoComma rest) (finish : Nat) : value finish f op (used ++ rest) = .ok (operand, rest) := by
  cases phrase with
  | emptyList =>
    obtain ⟨⟨l, p⟩, behind, rfl, rfl, sameBehind⟩ := List.map_eq_cons_iff.1 same
    obtain ⟨⟨m, q⟩, rfl, rfl⟩ := List.map_eq_singleton_iff.1 sameBehind
    rfl
  | list items =>
    obtain ⟨⟨l, p⟩, behind, rfl, rfl, sameBehind⟩ := List.map_eq_cons_iff.1 same
    obtain ⟨inner, close, rfl, sameInner, sameClose⟩ := List.map_eq_append_iff.1 sameBehind
    obtain ⟨⟨m, q⟩, rfl, rfl⟩ := List.map_eq_singleton_iff.1 sameClose
    have read := bracketList_items items sameInner finish p q rest
    simp [value, read, Except.map]
  | bareList membership item items =>
    obtain ⟨t, behind, rfl, rfl, sameBehind⟩ := List.map_eq_cons_iff.1 same
    obtain ⟨⟨m, q⟩, later, rfl, rfl, sameLater⟩ := List.map_eq_cons_iff.1 sameBehind
    obtain ⟨s, literal⟩ := item.literal
    have isMember : isMembership op = true := by simpa [isMembership] using membership
    have read := bareItems_of_phrase items sameLater stop finish q
    rw [List.cons_append, List.cons_append, value_eq_valueFrom literal]
    simp [valueFrom, isMember, item?_eq_ok_iff.2 item, read, Except.map]
  | scalar scalar =>
    obtain ⟨t, rfl, rfl⟩ := List.map_eq_singleton_iff.1 same
    obtain ⟨s, literal⟩ := scalar.literal
    rw [List.singleton_append, value_eq_valueFrom literal]
    unfold valueFrom
    split
    · exact absurd rfl (stop _ rfl)
    · rw [scalar_of_phrase literal scalar]
      rfl

theorem field_phrase {finish : Nat} {ts rest : List Token} {f : Field} (h : field finish ts = .ok (f, rest)) :
    ∃ name position, ts = ⟨.word name, position⟩ :: rest ∧ Field.ofName? name = some f := by
  unfold field at h
  split at h
  · cases h
  rename_i t ts
  obtain ⟨lexeme, position⟩ := t
  dsimp only at h
  split at h
  · cases h
  · cases h
  · rename_i name
    split at h
    · cases h
    split at h
    · cases h
    · rename_i named
      cases h
      exact ⟨name, position, rfl, named⟩
  · cases h

theorem ofName?_of_isForbidden {name : String} (forbidden : Field.isForbidden name = true) : Field.ofName? name = none := by
  simp only [Field.isForbidden, Bool.or_eq_true, beq_iff_eq] at forbidden
  rcases forbidden with (rfl | rfl) | rfl <;> rfl

/-- The name of a field is not forbidden. -/
theorem isForbidden_of_ofName? {name : String} {f : Field} (named : Field.ofName? name = some f) :
    Field.isForbidden name = false := by
  refine Bool.eq_false_iff.2 fun forbidden => ?_
  rw [ofName?_of_isForbidden forbidden] at named
  cases named

theorem field_of_name {name : String} {f : Field} (named : Field.ofName? name = some f) (finish position : Nat)
    (ts : List Token) : field finish (⟨.word name, position⟩ :: ts) = .ok (f, ts) := by
  simp [field, isForbidden_of_ofName? named, named]

/-- What is read as a condition is a phrase of the grammar. -/
theorem condition_phrase {finish : Nat} {ts rest : List Token} {c : Condition}
    (h : condition finish ts = .ok (c, rest)) :
    ∃ used, ts = used ++ rest ∧ ConditionPhrase Readable (used.map Token.lexeme) c := by
  unfold condition at h
  obtain ⟨⟨f, afterField⟩, fieldRead, h⟩ := Outcome.bind_eq_ok.1 h
  obtain ⟨⟨op, afterOperator⟩, operatorRead, h⟩ := Outcome.bind_eq_ok.1 h
  obtain ⟨⟨operand, afterValue⟩, valueRead, h⟩ := Outcome.bind_eq_ok.1 h
  cases h
  obtain ⟨name, position, rfl, named⟩ := field_phrase fieldRead
  obtain ⟨os, rfl, operatorPhrase⟩ := operator_phrase operatorRead
  obtain ⟨vs, rfl, valuePhrase⟩ := value_phrase valueRead
  refine ⟨⟨.word name, position⟩ :: (os ++ vs), by simp, ?_⟩
  rw [List.map_cons, List.map_append]
  exact .condition named operatorPhrase valuePhrase

/-- A phrase is read as its condition, unless a comma follows it. -/
theorem condition_of_phrase {ls : List Lexeme} {c : Condition} (phrase : ConditionPhrase Readable ls c)
    {used rest : List Token} (same : used.map Token.lexeme = ls) (stop : NoComma rest) (finish : Nat) :
    condition finish (used ++ rest) = .ok (c, rest) := by
  cases phrase with
  | condition named operatorPhrase valuePhrase =>
    obtain ⟨⟨l, p⟩, behind, rfl, rfl, sameBehind⟩ := List.map_eq_cons_iff.1 same
    obtain ⟨os, vs, rfl, sameOperator, sameValue⟩ := List.map_eq_append_iff.1 sameBehind
    have operatorRead := operator_of_phrase operatorPhrase sameOperator finish
    have valueRead := value_of_phrase valuePhrase sameValue stop finish
    rw [List.cons_append, List.append_assoc]
    simp [condition, field_of_name named, operatorRead, valueRead, bind, Except.bind, pure, Except.pure]

theorem furtherConditions_phrase {finish : Nat} {inUse joiner : Option Joiner} {ts rest : List Token}
    {cs : List Condition} (h : furtherConditions finish inUse ts = .ok (cs, joiner, rest)) :
    ∃ used steps, ts = used ++ rest ∧ Further (ConditionPhrase Readable) (used.map Token.lexeme) steps ∧
      steps.map Prod.snd = cs ∧ (∀ k ∈ steps.map Prod.fst, joiner = some k) ∧ (steps = [] → joiner = inUse) ∧
      (∀ k, inUse = some k → joiner = some k) := by
  fun_induction furtherConditions finish inUse ts generalizing cs joiner rest with
  | case1 => cases h
  | case2 inUse j position ts agrees c after read ih =>
    obtain ⟨⟨later, last, behind⟩, readLater, eq⟩ := Outcome.map_eq_ok.1 h
    cases eq
    obtain ⟨first, rfl, phrase⟩ := condition_phrase read
    obtain ⟨used, steps, rfl, further, rfl, uniform, _, kept⟩ := ih readLater
    have last_eq := kept j rfl
    refine ⟨⟨.joiner j, position⟩ :: (first ++ used), (j, c) :: steps, by simp, ?_, rfl, ?_, ?_, ?_⟩
    · rw [List.map_cons, List.map_append]
      exact .cons phrase further
    · exact List.forall_mem_cons.2 ⟨last_eq, uniform⟩
    · intro empty
      cases empty
    · rintro k rfl
      rw [last_eq, ← agrees]
      rfl
  | case3 => cases h
  | case4 inUse ts =>
    cases h
    exact ⟨[], [], rfl, .nil, rfl, List.forall_mem_nil _, fun _ => rfl, fun _ eq => eq⟩

/-- Whether neither a comma nor a joiner stands at the front, so that a run has come to its end. -/
def EndsRun (ts : List Token) : Prop :=
  ∀ t ∈ ts.head?, t.lexeme ≠ .comma ∧ ∀ j, t.lexeme ≠ .joiner j

theorem EndsRun.noComma {ts : List Token} (stop : EndsRun ts) : NoComma ts :=
  fun t head => (stop t head).1

theorem noComma_of_further {α : Type} {phrase : List Lexeme → α → Prop} {ls : List Lexeme} {steps : List (Joiner × α)}
    (further : Further phrase ls steps) {used rest : List Token} (same : used.map Token.lexeme = ls) (stop : NoComma rest) :
    NoComma (used ++ rest) := by
  cases further with
  | nil =>
    cases List.map_eq_nil_iff.1 same
    exact stop
  | cons =>
    obtain ⟨⟨l, p⟩, behind, rfl, rfl, _⟩ := List.map_eq_cons_iff.1 same
    intro t head isComma
    cases head
    cases isComma

theorem noComma_nil : NoComma [] := by
  intro t head
  cases head

theorem furtherConditions_of_endsRun {ts : List Token} (stop : EndsRun ts) (finish : Nat) (inUse : Option Joiner) :
    furtherConditions finish inUse ts = .ok ([], inUse, ts) := by
  rw [furtherConditions.eq_def]
  split
  · rename_i j position ts
    exact absurd rfl ((stop _ rfl).2 j)
  · rfl

theorem furtherConditions_of_condition {finish position : Nat} {inUse : Option Joiner} {j : Joiner} {ts rest : List Token}
    {c : Condition} (agrees : inUse.getD j = j) (read : condition finish ts = .ok (c, rest)) :
    furtherConditions finish inUse (⟨.joiner j, position⟩ :: ts) =
      (furtherConditions finish (some j) rest).map fun (cs, joiner, behind) => (c :: cs, joiner, behind) := by
  rw [furtherConditions.eq_def]
  simp only [agrees, if_true]
  split
  · rename_i failed
    rw [read] at failed
    cases failed
  · rename_i found after read'
    rw [read] at read'
    cases read'
    rfl

theorem furtherConditions_of_phrase {ls : List Lexeme} {steps : List (Joiner × Condition)}
    (further : Further (ConditionPhrase Readable) ls steps) {used rest : List Token} (same : used.map Token.lexeme = ls)
    (stop : EndsRun rest) {j : Joiner} (uniform : ∀ k ∈ steps.map Prod.fst, k = j) (finish : Nat) (inUse : Option Joiner)
    (agrees : inUse.getD j = j) :
    ∃ joiner, furtherConditions finish inUse (used ++ rest) = .ok (steps.map Prod.snd, joiner, rest) ∧
      (steps = [] → joiner = inUse) ∧ (steps ≠ [] → joiner = some j) := by
  induction further generalizing used inUse with
  | nil =>
    cases List.map_eq_nil_iff.1 same
    exact ⟨inUse, furtherConditions_of_endsRun stop finish inUse, fun _ => rfl, fun inside => absurd rfl inside⟩
  | @cons ls more k c steps phrase further ih =>
    obtain ⟨⟨l, p⟩, behind, rfl, rfl, sameBehind⟩ := List.map_eq_cons_iff.1 same
    obtain ⟨first, later, rfl, sameFirst, sameLater⟩ := List.map_eq_append_iff.1 sameBehind
    rw [List.map_cons, List.forall_mem_cons] at uniform
    obtain ⟨rfl, uniform⟩ := uniform
    have read := condition_of_phrase phrase sameFirst (noComma_of_further further sameLater stop.noComma) finish
    obtain ⟨joiner, readLater, atEnd, inside⟩ := ih sameLater uniform (some k) rfl
    have joiner_eq : joiner = some k := by
      cases steps with
      | nil => exact atEnd rfl
      | cons => exact inside (List.cons_ne_nil _ _)
    refine ⟨joiner, ?_, fun empty => absurd empty (List.cons_ne_nil _ _), fun _ => joiner_eq⟩
    rw [List.cons_append, List.append_assoc, furtherConditions_of_condition agrees read, readLater]
    rfl

theorem group_phrase {finish opening : Nat} {ts rest : List Token} {g : Group Condition}
    (h : group finish opening ts = .ok (g, rest)) :
    ∃ used, ts = used ++ rest ∧ ElementPhrase Readable (.openGroup :: used.map Token.lexeme) (.group g) := by
  unfold group at h
  obtain ⟨⟨c, afterFirst⟩, readFirst, behindFirst⟩ := Outcome.bind_eq_ok.1 h
  obtain ⟨⟨cs, joiner, afterLast⟩, readFurther, closing⟩ := Outcome.bind_eq_ok.1 behindFirst
  obtain ⟨first, rfl, phrase⟩ := condition_phrase readFirst
  obtain ⟨later, steps, rfl, further, rfl, uniform, alone, _⟩ := furtherConditions_phrase readFurther
  clear h behindFirst
  dsimp only at closing
  split at closing
  · rename_i position rest
    cases closing
    refine ⟨first ++ (later ++ [⟨.closeGroup, position⟩]), by simp, ?_⟩
    rw [List.map_append, List.map_append]
    refine .group phrase further ⟨fun k member => by rw [uniform k member]; rfl, fun none => ?_⟩
    rw [alone (List.map_eq_nil_iff.1 none)]
    rfl
  · cases closing
  · cases closing

theorem element_phrase {finish : Nat} {ts rest : List Token} {e : Element} (h : element finish ts = .ok (e, rest)) :
    ∃ used, ts = used ++ rest ∧ ElementPhrase Readable (used.map Token.lexeme) e := by
  unfold element at h
  split at h
  · rename_i position ts
    obtain ⟨⟨g, after⟩, read, eq⟩ := Outcome.map_eq_ok.1 h
    cases eq
    obtain ⟨used, rfl, phrase⟩ := group_phrase read
    exact ⟨⟨.openGroup, position⟩ :: used, rfl, phrase⟩
  · obtain ⟨⟨c, after⟩, read, eq⟩ := Outcome.map_eq_ok.1 h
    cases eq
    obtain ⟨used, rfl, phrase⟩ := condition_phrase read
    exact ⟨used, rfl, .single phrase⟩

theorem element_of_phrase {ls : List Lexeme} {e : Element} (phrase : ElementPhrase Readable ls e)
    {used rest : List Token} (same : used.map Token.lexeme = ls) (stop : NoComma rest) (finish : Nat) :
    element finish (used ++ rest) = .ok (e, rest) := by
  cases phrase with
  | single phrase =>
    have read := condition_of_phrase phrase same stop finish
    cases phrase with
    | condition =>
      obtain ⟨⟨l, p⟩, behind, rfl, rfl, _⟩ := List.map_eq_cons_iff.1 same
      simp only [List.cons_append] at read ⊢
      simp [element, read, Except.map]
  | @group ls more c steps j phrase further joiner =>
    obtain ⟨⟨l, p⟩, behind, rfl, rfl, sameBehind⟩ := List.map_eq_cons_iff.1 same
    obtain ⟨first, behindFirst, rfl, sameFirst, sameBehindFirst⟩ := List.map_eq_append_iff.1 sameBehind
    obtain ⟨later, close, rfl, sameLater, sameClose⟩ := List.map_eq_append_iff.1 sameBehindFirst
    obtain ⟨⟨m, q⟩, rfl, rfl⟩ := List.map_eq_singleton_iff.1 sameClose
    have stop : EndsRun (⟨.closeGroup, q⟩ :: rest) := by
      intro t head
      cases head
      refine ⟨fun isComma => ?_, fun j isJoiner => ?_⟩
      · cases isComma
      · cases isJoiner
    obtain ⟨found, readFurther, alone, several⟩ :=
      furtherConditions_of_phrase further sameLater stop joiner.1 finish none rfl
    have found_eq : found.getD .and = j := by
      cases steps with
      | nil => rw [alone rfl, joiner.2 rfl]; rfl
      | cons => rw [several (List.cons_ne_nil _ _)]; rfl
    have readFirst := condition_of_phrase phrase sameFirst (noComma_of_further further sameLater stop.noComma) finish
    simp only [List.cons_append, List.append_assoc, List.nil_append, element, group]
    simp [readFirst, readFurther, found_eq, bind, Except.bind, pure, Except.pure, Except.map]

theorem furtherElements_phrase {finish : Nat} {ts rest : List Token} {es : List ((Joiner × Nat) × Element)}
    (h : furtherElements finish ts = .ok (es, rest)) :
    ∃ used, ts = used ++ rest ∧
      Further (ElementPhrase Readable) (used.map Token.lexeme) (es.map fun step => (step.1.1, step.2)) := by
  fun_induction furtherElements finish ts generalizing es rest with
  | case1 => cases h
  | case2 j position ts e after read ih =>
    obtain ⟨⟨later, behind⟩, readLater, eq⟩ := Outcome.map_eq_ok.1 h
    cases eq
    obtain ⟨first, rfl, phrase⟩ := element_phrase read
    obtain ⟨used, rfl, further⟩ := ih readLater
    refine ⟨⟨.joiner j, position⟩ :: (first ++ used), by simp, ?_⟩
    rw [List.map_cons, List.map_append]
    exact .cons phrase further
  | case3 =>
    cases h
    exact ⟨[], rfl, .nil⟩

theorem furtherElements_of_element {finish position : Nat} {j : Joiner} {ts rest : List Token} {e : Element}
    (read : element finish ts = .ok (e, rest)) :
    furtherElements finish (⟨.joiner j, position⟩ :: ts) =
      (furtherElements finish rest).map fun (es, behind) => (((j, position), e) :: es, behind) := by
  rw [furtherElements.eq_def]
  dsimp only
  split
  · rename_i failed
    rw [read] at failed
    cases failed
  · rename_i found after read'
    rw [read] at read'
    cases read'
    rfl

theorem furtherElements_of_phrase {ls : List Lexeme} {steps : List (Joiner × Element)}
    (further : Further (ElementPhrase Readable) ls steps) {used : List Token} (same : used.map Token.lexeme = ls)
    (finish : Nat) :
    ∃ es, furtherElements finish used = .ok (es, []) ∧ (es.map fun step => (step.1.1, step.2)) = steps := by
  induction further generalizing used with
  | nil =>
    cases List.map_eq_nil_iff.1 same
    exact ⟨[], by rw [furtherElements.eq_def], rfl⟩
  | @cons ls more j e steps phrase further ih =>
    obtain ⟨⟨l, p⟩, behind, rfl, rfl, sameBehind⟩ := List.map_eq_cons_iff.1 same
    obtain ⟨first, later, rfl, sameFirst, sameLater⟩ := List.map_eq_append_iff.1 sameBehind
    have stop := noComma_of_further further sameLater noComma_nil
    rw [List.append_nil] at stop
    have read := element_of_phrase phrase sameFirst stop finish
    obtain ⟨es, readLater, rfl⟩ := ih sameLater
    refine ⟨((j, p), e) :: es, ?_, rfl⟩
    rw [furtherElements_of_element read, readLater]
    rfl

theorem singles?_eq_some_iff {es : List Element} {cs : List Condition} :
    singles? es = some cs ↔ es = cs.map Element.single := by
  induction es generalizing cs with
  | nil => cases cs <;> simp [singles?]
  | cons e es ih =>
    cases e with
    | group g => cases cs <;> simp [singles?]
    | single c =>
      simp only [singles?, Option.map_eq_some_iff, ih]
      constructor
      · rintro ⟨later, rfl, rfl⟩
        rfl
      · intro same
        obtain ⟨d, later, rfl, head, tail⟩ := List.map_eq_cons_iff.1 same.symm
        cases head
        exact ⟨later, tail.symm, rfl⟩

theorem singles?_eq_none_iff {es : List Element} : singles? es = none ↔ ∃ g, Element.group g ∈ es := by
  induction es with
  | nil => simp [singles?]
  | cons e es ih => cases e <;> simp [singles?, ih]

/-- A run of single elements is a run of conditions, and conversely. -/
theorem further_singles {ls : List Lexeme} {steps : List (Joiner × Element)} {cs : List Condition}
    (further : Further (ElementPhrase Readable) ls steps) (singles : steps.map Prod.snd = cs.map Element.single) :
    ∃ plain, Further (ConditionPhrase Readable) ls plain ∧ plain.map Prod.snd = cs ∧
      plain.map Prod.fst = steps.map Prod.fst := by
  induction further generalizing cs with
  | nil =>
    cases List.map_eq_nil_iff.1 singles.symm
    exact ⟨[], .nil, rfl, rfl⟩
  | @cons ls more j e steps phrase _ ih =>
    obtain ⟨c, cs, rfl, rfl, later⟩ := List.map_eq_cons_iff.1 singles.symm
    obtain ⟨plain, further, rfl, joiners⟩ := ih later.symm
    cases phrase with
    | single phrase => exact ⟨(j, c) :: plain, .cons phrase further, rfl, by simp [joiners]⟩

theorem further_elements {ls : List Lexeme} {steps : List (Joiner × Condition)}
    (further : Further (ConditionPhrase Readable) ls steps) :
    Further (ElementPhrase Readable) ls (steps.map fun step => (step.1, .single step.2)) := by
  induction further with
  | nil => exact .nil
  | cons phrase _ ih => exact .cons (.single phrase) ih

/-- The joiners of a run of elements, without their positions. -/
theorem joiners_further (es : List ((Joiner × Nat) × Element)) :
    (es.map fun step => (step.1.1, step.2)).map Prod.fst = (es.map fun step => step.1).map Prod.fst := by
  rw [List.map_map, List.map_map]
  rfl

theorem elements_further (es : List ((Joiner × Nat) × Element)) :
    (es.map fun step => (step.1.1, step.2)).map Prod.snd = es.map Prod.snd := by
  rw [List.map_map]
  rfl

theorem assemble_phrase {ls more : List Lexeme} {first : Element} {es : List ((Joiner × Nat) × Element)} {e : Filter}
    (phrase : ElementPhrase Readable ls first)
    (further : Further (ElementPhrase Readable) more (es.map fun step => (step.1.1, step.2)))
    (h : assemble first es = .ok e) : FilterPhrase Readable (ls ++ more) e := by
  unfold assemble at h
  dsimp only at h
  split at h
  · rename_i cs singles
    cases h
    obtain ⟨c, cs, rfl, rfl, later⟩ := List.map_eq_cons_iff.1 (singles?_eq_some_iff.1 singles).symm
    rw [← elements_further] at later
    obtain ⟨plain, further, rfl, joiners⟩ := further_singles further later.symm
    cases phrase with
    | single phrase =>
      rw [← joiners_further, ← joiners]
      exact .flat phrase further
  · rename_i grouped
    obtain ⟨g, member⟩ := singles?_eq_none_iff.1 grouped
    split at h
    · cases h
    · rename_i agree
      cases h
      rw [← elements_further]
      refine .grouped phrase further (g := g) (by rwa [elements_further]) ⟨?_, ?_⟩
      · rw [joiners_further]
        intro k found
        obtain ⟨step, stepMember, rfl⟩ := List.mem_map.1 found
        simpa using List.find?_eq_none.1 agree step stepMember
      · intro none
        rw [joiners_further, List.map_eq_nil_iff] at none
        rw [none]
        rfl

theorem assemble_of_flat {c : Condition} {es : List ((Joiner × Nat) × Element)} {steps : List (Joiner × Condition)}
    (same : (es.map fun step => (step.1.1, step.2)) = steps.map fun step => (step.1, .single step.2)) :
    assemble (.single c) es = .ok (Expression.fold (c :: steps.map Prod.snd) (steps.map Prod.fst)) := by
  have singles : singles? (.single c :: es.map Prod.snd) = some (c :: steps.map Prod.snd) := by
    rw [singles?_eq_some_iff, ← elements_further, same, List.map_cons, List.map_map, List.map_map]
    rfl
  have joiners : (es.map fun step => step.1).map Prod.fst = steps.map Prod.fst := by
    rw [← joiners_further, same, List.map_map]
    rfl
  simp only [assemble, singles, joiners]

theorem assemble_of_grouped {first : Element} {es : List ((Joiner × Nat) × Element)} {steps : List (Joiner × Element)}
    {g : Group Condition} {j : Joiner} (same : (es.map fun step => (step.1.1, step.2)) = steps)
    (grouped : .group g ∈ first :: steps.map Prod.snd) (joiner : Throughout (steps.map Prod.fst) j) :
    assemble first es = .ok ⟨(first :: steps.map Prod.snd).map Element.toGroup, j⟩ := by
  subst same
  rw [elements_further] at grouped ⊢
  rw [joiners_further] at joiner
  have notSingles : singles? (first :: es.map Prod.snd) = none := singles?_eq_none_iff.2 ⟨g, grouped⟩
  have front : ((es.map fun step => step.1).head?.map Prod.fst).getD .and = j := by
    cases es with
    | nil => exact (joiner.2 rfl).symm
    | cons step es => exact joiner.1 _ List.mem_cons_self
  have agree : (es.map fun step => step.1).find? (fun step => step.1 ≠ j) = none := by
    rw [List.find?_eq_none]
    intro step member
    simpa using joiner.1 _ (List.mem_map_of_mem member)
  simp only [assemble, notSingles, front]
  rw [agree]

/-- Reading all tokens finds exactly the phrases of the grammar. -/
theorem filter_eq_ok_iff {finish : Nat} {ts : List Token} {e : Filter} :
    filter finish ts = .ok e ↔ FilterPhrase Readable (ts.map Token.lexeme) e := by
  constructor
  · intro h
    unfold filter at h
    obtain ⟨⟨first, afterFirst⟩, readFirst, behindFirst⟩ := Outcome.bind_eq_ok.1 h
    obtain ⟨⟨es, afterLast⟩, readFurther, closing⟩ := Outcome.bind_eq_ok.1 behindFirst
    obtain ⟨used, rfl, phrase⟩ := element_phrase readFirst
    obtain ⟨later, rfl, further⟩ := furtherElements_phrase readFurther
    dsimp only at closing
    split at closing
    · cases closing
    · rw [List.append_nil, List.map_append]
      exact assemble_phrase phrase further closing
  · intro phrase
    generalize row : ts.map Token.lexeme = ls at phrase
    cases phrase with
    | flat phrase further =>
      obtain ⟨used, later, rfl, sameFirst, sameLater⟩ := List.map_eq_append_iff.1 row
      have elements := further_elements further
      have stop := noComma_of_further elements sameLater noComma_nil
      rw [List.append_nil] at stop
      obtain ⟨es, readFurther, same⟩ := furtherElements_of_phrase elements sameLater finish
      simp [filter, element_of_phrase (.single phrase) sameFirst stop, readFurther, assemble_of_flat same, bind,
        Except.bind]
    | grouped phrase further grouped joiner =>
      obtain ⟨used, later, rfl, sameFirst, sameLater⟩ := List.map_eq_append_iff.1 row
      have stop := noComma_of_further further sameLater noComma_nil
      rw [List.append_nil] at stop
      obtain ⟨es, readFurther, same⟩ := furtherElements_of_phrase further sameLater finish
      simp only [filter, element_of_phrase phrase sameFirst stop, readFurther, bind, Except.bind]
      exact assemble_of_grouped same grouped joiner

end Reading

theorem Field.exists_nonblank_of_ofName? {name : String} {f : Field} (named : Field.ofName? name = some f) :
    ∃ c ∈ name.toList, Text.isBlank c = false := by
  unfold Field.ofName? at named
  split at named
  all_goals first | exact ⟨_, List.mem_cons_self, by decide⟩ | cases named

namespace Grammar

variable {admitted : Nat → Prop}

theorem ConditionPhrase.front {ls : List Lexeme} {c : Condition} (phrase : ConditionPhrase admitted ls c) :
    ∃ name more f, ls = .word name :: more ∧ Field.ofName? name = some f := by
  cases phrase with
  | condition named => exact ⟨_, _, _, rfl, named⟩

/-- A row of the grammar begins with a bracket or the name of a field. -/
theorem FilterPhrase.front {ls : List Lexeme} {e : Filter} (phrase : FilterPhrase admitted ls e) :
    ∃ l more, ls = l :: more ∧ (l = .openGroup ∨ ∃ name f, l = .word name ∧ Field.ofName? name = some f) := by
  cases phrase with
  | flat phrase =>
    obtain ⟨name, more, f, rfl, named⟩ := phrase.front
    exact ⟨_, _, rfl, .inr ⟨name, f, rfl, named⟩⟩
  | grouped phrase =>
    cases phrase with
    | single phrase =>
      obtain ⟨name, more, f, rfl, named⟩ := phrase.front
      exact ⟨_, _, rfl, .inr ⟨name, f, rfl, named⟩⟩
    | group => exact ⟨_, _, rfl, .inl rfl⟩

/-- A text with a row of the grammar is not blank. -/
theorem FilterPhrase.not_blank {s : String} {ts : List Token} {e : Filter} (tokens : Token.ofText s = .ok ts)
    (phrase : FilterPhrase admitted (ts.map Token.lexeme) e) : Text.isBlankText s = false := by
  obtain ⟨l, more, row, front⟩ := phrase.front
  obtain ⟨t, behind, rfl, rfl, _⟩ := List.map_eq_cons_iff.1 row
  obtain ⟨spelling, spelled, within⟩ := (Token.ofText_eq_ok_iff.1 tokens).spelled_within t List.mem_cons_self
  have visible : ∃ c ∈ spelling, Text.isBlank c = false := by
    rcases front with bracket | ⟨name, f, word, named⟩
    · rw [bracket] at spelled
      cases spelled
      exact ⟨'(', List.mem_cons_self, by decide⟩
    · rw [word] at spelled
      cases spelled
      exact Field.exists_nonblank_of_ofName? named
  obtain ⟨c, member, nonblank⟩ := visible
  refine Bool.eq_false_iff.2 fun blank => ?_
  have := List.all_eq_true.1 blank c (within.subset member)
  rw [nonblank] at this
  cases this

end Grammar

/-- The reader finds exactly the rows of the grammar, over integers that it takes. -/
theorem Filter.read_eq_ok_iff {s : String} {ts : List Token} {e : Filter} (tokens : Token.ofText s = .ok ts) :
    Filter.read s = .ok e ↔ FilterPhrase Readable (ts.map Token.lexeme) e := by
  rw [← @Reading.filter_eq_ok_iff s.length ts e]
  constructor
  · intro h
    unfold Filter.read at h
    split at h
    · cases h
    · rwa [tokens] at h
  · intro read
    have visible := (Reading.filter_eq_ok_iff.1 read).not_blank tokens
    simp [Filter.read, visible, tokens, read]

theorem Text.length_trim_le (s : String) : (Text.trim s).length ≤ s.length := by
  have shorter (cs : List Char) : (cs.dropWhile Text.isBlank).length ≤ cs.length :=
    (List.dropWhile_suffix Text.isBlank).length_le
  have inner := shorter s.toList
  have outer := shorter (s.toList.dropWhile Text.isBlank).reverse
  rw [List.length_reverse] at outer
  rw [String.length_toList] at inner
  rw [Text.trim, Text.stripWhere, String.length_ofList, List.length_reverse]
  exact Nat.le_trans outer inner

/-- Integers with any number of digits. -/
def Grammar.AnyLength (_ : Nat) : Prop :=
  True

/-- A literal of few characters spells no integer of many digits. -/
theorem Grammar.keeps_of_short {admitted : Nat → Prop} {l : Lexeme} (short : l.text.length ≤ integerDigitLimit) :
    Keeps admitted Readable l := by
  intro s m literal spelled _
  have text_eq : l.text = s := by cases literal <;> rfl
  rw [text_eq] at short
  have bound {t : String} (spelled : Numeral.Spelled (dropFinalNewline t.toList) m) (le : t.length ≤ s.length) :
      m.whole.length ≤ integerDigitLimit := by
    have whole := spelled.whole_length_le
    have body := length_dropFinalNewline_le t.toList
    rw [String.length_toList] at body
    omega
  rcases spelled with spelled | spelled
  · exact bound spelled (Nat.le_refl _)
  · exact bound spelled (Text.length_trim_le s)

/-- The reader takes exactly the texts of the grammar, and a text has one reading only: the filter that is read. Literals
are no longer here than an integer may be, so that no integer is refused for its length. -/
theorem Filter.read_eq_ok_iff_phrase {s : String} {ts : List Token} (tokens : Token.ofText s = .ok ts)
    (short : ∀ t ∈ ts, t.lexeme.text.length ≤ integerDigitLimit) :
    (∀ e, Filter.read s = .ok e ↔ FilterPhrase AnyLength (ts.map Token.lexeme) e) ∧
    ∀ e e', FilterPhrase AnyLength (ts.map Token.lexeme) e → FilterPhrase AnyLength (ts.map Token.lexeme) e' → e = e' := by
  have exact_iff (e : Filter) : Filter.read s = .ok e ↔ FilterPhrase AnyLength (ts.map Token.lexeme) e := by
    rw [Filter.read_eq_ok_iff tokens]
    constructor
    · exact fun phrase => phrase.mono fun l _ _ _ _ _ _ => trivial
    · intro phrase
      refine phrase.mono fun l member => ?_
      obtain ⟨t, found, rfl⟩ := List.mem_map.1 member
      exact keeps_of_short (short t found)
  refine ⟨exact_iff, fun e e' first second => ?_⟩
  have read := (exact_iff e).2 first
  rw [(exact_iff e').2 second] at read
  exact (Except.ok.inj read).symm

/-- A text with brackets, a word in capitals and a list without brackets, one item of which is a quoted number. -/
theorem Filter.read_bracketed_text :
    let s := "(done = TRUE) && labels in 4, \"7\""
    let ts : List Token := [⟨.openGroup, 0⟩, ⟨.word "done", 1⟩, ⟨.comparison .equal, 6⟩, ⟨.word "TRUE", 8⟩,
      ⟨.closeGroup, 12⟩, ⟨.joiner .and, 14⟩, ⟨.word "labels", 17⟩, ⟨.word "in", 24⟩, ⟨.word "4", 27⟩, ⟨.comma, 28⟩,
      ⟨.quoted "7", 30⟩]
    let e : Filter := ⟨[⟨[⟨.done, .equal, .one (.bool true)⟩], .and⟩,
      ⟨[⟨.labels, .isIn, .many [.int 4, .str "7"]⟩], .and⟩], .and⟩
    Token.ofText s = .ok ts ∧ (∀ t ∈ ts, t.lexeme.text.length ≤ integerDigitLimit) ∧
      FilterPhrase AnyLength (ts.map Token.lexeme) e ∧ Filter.read s = .ok e := by
  intro s ts e
  have tokens : Token.ofText s = .ok ts := Outcome.eq_ok_of_toOption (by decide +kernel)
  have short : ∀ t ∈ ts, t.lexeme.text.length ≤ integerDigitLimit := by decide
  have digits : Numeral.Digits ['4'] [4] := rfl
  have four : NumberText AnyLength "4" (.int 4) :=
    ⟨⟨false, [4], [], 0, true⟩, .parts .none digits .none .none (.inl (List.cons_ne_nil 4 [])), fun _ => trivial, rfl⟩
  have done : ConditionPhrase AnyLength [.word "done", .comparison .equal, .word "TRUE"]
      ⟨.done, .equal, .one (.bool true)⟩ :=
    .condition rfl (.sign .equal) (.scalar (.isTrue (.word "TRUE") (by decide +kernel)))
  have labels : ConditionPhrase AnyLength [.word "labels", .word "in", .word "4", .comma, .quoted "7"]
      ⟨.labels, .isIn, .many [.int 4, .str "7"]⟩ :=
    .condition rfl (.isIn (by decide +kernel)) (.bareList (.inl rfl) (.number four) (.last (.quoted "7")))
  have phrase : FilterPhrase AnyLength (ts.map Token.lexeme) e :=
    .grouped (.group done .nil ⟨List.forall_mem_nil _, fun _ => rfl⟩) (.cons (.single labels) .nil) List.mem_cons_self
      ⟨by decide, fun single => absurd single (List.cons_ne_nil _ _)⟩
  exact ⟨tokens, short, phrase, ((Filter.read_eq_ok_iff_phrase tokens short).1 e).2 phrase⟩

end TaskQuery
