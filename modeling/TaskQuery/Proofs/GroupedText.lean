import Mathlib.Tactic.Choose
import TaskQuery.Check.Condition
import TaskQuery.Proofs.DraftText
import TaskQuery.Proofs.GroupedRow

namespace TaskQuery

open Grammar Lexeme

/-- A condition that is read back from its text as it is: its operand stands for itself, and no text in it has a null
character, which would not be written. -/
structure Condition.Exact (c : Condition) : Prop where
  writable : c.Writable
  noNull : ∀ s ∈ Check.texts c.operand.toValue, '\x00' ∉ s.toList

/-- The conditions of a group, with its joiner between any two of them. -/
def Group.written (gap : String) (g : Group Condition) : Except Fault String :=
  (g.conditions.mapM Condition.written).map (gap ++ g.joiner.symbol ++ gap).intercalate

/-- The groups of a filter in round brackets, with its joiner between any two of them. -/
def Filter.writtenInBrackets (gap : String) (e : Filter) : Except Fault String :=
  (e.groups.mapM fun g : Group Condition => (g.written gap).map fun text => "(" ++ text ++ ")").map
    (gap ++ e.joiner.symbol ++ gap).intercalate

theorem Operand.Writable.withoutNulls_eq_self {kind : Kind} {operand : Operand} (writable : operand.Writable kind)
    (noNull : ∀ s ∈ Check.texts operand.toValue, '\x00' ∉ s.toList) : operand.withoutNulls = operand := by
  cases writable with
  | truth b => rfl
  | @number n => rw [withoutNulls, n.withoutNulls_value]
  | string s | @date s => rw [withoutNulls, Value.withoutNulls, Text.withoutNulls_eq_self (noNull s List.mem_cons_self)]
  | @items vs writable =>
    have kept : ∀ v ∈ vs, v.withoutNulls = v := by
      intro v member
      cases writable v member with
      | text s => rw [Value.withoutNulls, Text.withoutNulls_eq_self (noNull s (List.mem_filterMap.2 ⟨_, member, rfl⟩))]
      | @number n => exact n.withoutNulls_value
    rw [withoutNulls, List.map_congr_left kept, List.map_id']

theorem Condition.Exact.row {c : Condition} (exact : c.Exact) :
    ∃ text ls, c.written = .ok text ∧ Row text.toList ls ∧ ConditionPhrase Readable ls c := by
  obtain ⟨text, written⟩ := exact.writable.exists_written
  obtain ⟨ls, row, phrase⟩ := exact.writable.row written
  rw [Condition.withoutNulls, exact.writable.withoutNulls_eq_self exact.noNull] at phrase
  exact ⟨text, ls, written, row, phrase⟩

namespace Draft

/-- An operand that is made of a value without null characters has none either. -/
theorem Suits.noNull {kind : Kind} {v : Value} {operand : Operand} (suits : Suits kind v)
    (accepted : Draft.operand kind v = .ok operand) (plain : ∀ s ∈ Check.texts v, '\x00' ∉ s.toList) :
    ∀ s ∈ Check.texts operand.toValue, '\x00' ∉ s.toList := by
  cases kind with
  | boolean =>
    cases suits.writable accepted
    exact List.forall_mem_nil _
  | number =>
    cases suits.writable accepted with
    | @number n => cases n <;> exact List.forall_mem_nil _
  | date =>
    cases suits.writable accepted with
    | date noNull => exact List.forall_mem_singleton.2 noNull
  | string =>
    cases suits
    cases accepted
    exact plain
  | array =>
    cases suits with
    | items =>
      cases accepted
      exact plain
    | item writable =>
      cases writable with
      | text s =>
        cases accepted
        exact plain
      | @number n =>
        cases n <;> (cases accepted; exact List.forall_mem_nil _)

/-- A condition as a draft takes it, for a value that suits the field and has no null characters in its texts. -/
inductive Takes : Condition → Prop
  | intro {field : String} {operator value : Value} {c : Condition} : condition field operator value = .ok c →
      Suits c.field.kind value → (∀ s ∈ Check.texts value, '\x00' ∉ s.toList) → Takes c

theorem Takes.exact {c : Condition} (takes : Takes c) : c.Exact := by
  obtain ⟨accepted, suits, plain⟩ := takes
  exact ⟨writable_of_condition accepted suits, suits.noNull (operand_of_condition accepted) plain⟩

end Draft

section Writing

variable {gap : String}

theorem joined_toList (j : Joiner) (texts : List String) :
    ((gap ++ j.symbol ++ gap).intercalate texts).toList =
      (gap.toList ++ (j.symbol.toList ++ gap.toList)).intercalate (texts.map String.toList) := by
  rw [String.toList_intercalate, String.toList_append, String.toList_append, List.append_assoc]

/-- The text of a group is a row of the grammar, for the group itself. -/
theorem Group.row_written {g : Group Condition} (blank : ∀ c ∈ gap.toList, c ∈ gapCharacters) (some : g.conditions ≠ [])
    (exact : ∀ c ∈ g.conditions, c.Exact) :
    ∃ text ls, g.written gap = .ok text ∧ Row text.toList ls ∧ GroupRun Readable ls g := by
  obtain ⟨conditions, j⟩ := g
  obtain ⟨first, others, rfl⟩ := List.exists_cons_of_ne_nil some
  choose! texts lexemes each rows phrases using fun c (member : c ∈ first :: others) => (exact c member).row
  obtain ⟨firstPhrase, later⟩ := List.forall_mem_cons.1 phrases
  have further : Further (ConditionPhrase Readable) _ (others.map fun c => (j, c)) := .uniform j later
  have uniform : ∀ k ∈ (others.map fun c => (j, c)).map Prod.fst, k = j :=
    List.forall_mem_map.2 (List.forall_mem_map.2 fun _ _ => rfl)
  have run := GroupRun.run firstPhrase further uniform
  have same : (others.map fun c => (j, c)).map Prod.snd = others := by
    rw [List.map_map]
    exact List.map_id others
  rw [same] at run
  refine ⟨_, _, by rw [written, Outcome.mapM_of_forall each]; rfl, ?_, run⟩
  rw [joined_toList, List.map_map]
  exact .joined j blank rows

/-- A filter of exact conditions is read from its text, which has one bracket behind the other, each around the run of a
group. -/
theorem Filter.read_of_exact {e : Filter} (blank : ∀ c ∈ gap.toList, c ∈ gapCharacters) (some : e.groups ≠ [])
    (full : ∀ g ∈ e.groups, g.conditions ≠ []) (exact : ∀ c ∈ e.conditions, c.Exact) :
    ∃ text, e.writtenInBrackets gap = .ok text ∧ Filter.read text =
      .ok ⟨e.groups.map Group.inBrackets, if e.groups.length = 1 then .and else e.joiner⟩ := by
  obtain ⟨groups, j⟩ := e
  obtain ⟨first, others, rfl⟩ := List.exists_cons_of_ne_nil some
  have written (g : Group Condition) (member : g ∈ first :: others) :=
    g.row_written blank (full g member) fun c inside => exact c (List.mem_flatMap_of_mem member inside)
  choose! texts lexemes each rows runs using written
  have inBrackets : ∀ g ∈ first :: others, (g.written gap).map (fun text => "(" ++ text ++ ")") =
      .ok ("(" ++ texts g ++ ")") := fun g member => by rw [each g member]; rfl
  refine ⟨_, by rw [writtenInBrackets, Outcome.mapM_of_forall inBrackets]; rfl, ?_⟩
  have row : Row ((gap ++ j.symbol ++ gap).intercalate ((first :: others).map fun g => "(" ++ texts g ++ ")")).toList
      (bracketRow (lexemes first) ++ furtherRows j (others.map lexemes)) := by
    have bracketed : String.toList ∘ (fun g : Group Condition => "(" ++ texts g ++ ")") =
        fun g => '(' :: ((texts g).toList ++ [')']) := by
      funext g
      simp
    rw [joined_toList, List.map_map, bracketed]
    exact .grouped j blank rows
  obtain ⟨tokens, ofText, same⟩ := row.ofText
  have phrase := grouped_phrase j runs
  rw [← same] at phrase
  have single : (first :: others).length = 1 ↔ others = [] := by
    rw [List.length_cons, Nat.add_eq_right, List.length_eq_zero_iff]
  rw [(Filter.read_eq_ok_iff ofText).2 phrase, if_congr single rfl rfl]

/-- Every filter of groups with conditions can be written down, if its conditions are ones that a draft takes. The text of
its groups in brackets is there, and it is read as the filter with these groups, where the joiner of a group with one
condition, and that of a filter with one group, is *and*. -/
theorem Filter.read_writtenInBrackets {e : Filter} (blank : ∀ c ∈ gap.toList, c ∈ gapCharacters) (some : e.groups ≠ [])
    (full : ∀ g ∈ e.groups, g.conditions ≠ []) (takes : ∀ c ∈ e.conditions, Draft.Takes c) :
    ∃ text, e.writtenInBrackets gap = .ok text ∧ Filter.read text =
      .ok ⟨e.groups.map Group.inBrackets, if e.groups.length = 1 then .and else e.joiner⟩ :=
  read_of_exact blank some full fun c member => (takes c member).exact

end Writing

/-- A text with signs in quotes, a list, a bare date, and a joiner that joins nothing. -/
theorem Filter.read_writtenInBrackets_signs :
    let title : Condition := ⟨.title, .equal, .one (.str "a) || (\"b\"")⟩
    let labels : Condition := ⟨.labels, .isIn, .many [.int 4, .str "c], d"]⟩
    let due : Condition := ⟨.dueDate, .less, .one (.str "now+1d")⟩
    let e : Filter := ⟨[⟨[title], .or⟩, ⟨[labels, due], .or⟩], .and⟩
    let text := "(title = \"a) || (\\\"b\\\"\") && (labels in [4, \"c], d\"] || dueDate < now+1d)"
    e.writtenInBrackets " " = .ok text ∧ Filter.read text = .ok ⟨[⟨[title], .and⟩, ⟨[labels, due], .or⟩], .and⟩ := by
  intro title labels due e text
  have four : (Number.int 4).Writable := by
    show (Nat.toDigits 10 4).length ≤ integerDigitLimit
    decide
  have titleAccepted : Draft.condition "title" (.str "=") (.str "a) || (\"b\"") = .ok title := by decide +kernel
  have labelsAccepted : Draft.condition "labels" (.str "in") (.list [.int 4, .str "c], d"]) = .ok labels := by decide +kernel
  have dueAccepted : Draft.condition "dueDate" (.str "<") (.str "now+1d") = .ok due := by decide +kernel
  have takes : ∀ c ∈ e.conditions, Draft.Takes c := by
    refine List.forall_mem_cons.2 ⟨?_, List.forall_mem_cons.2 ⟨?_, List.forall_mem_singleton.2 ?_⟩⟩
    · exact .intro titleAccepted (.string _) (by decide)
    · refine .intro labelsAccepted (.items ?_) (by decide)
      exact List.forall_mem_cons.2 ⟨.number four, List.forall_mem_singleton.2 (.text _)⟩
    · exact .intro dueAccepted (.dateText (by decide) (by decide)) (by decide)
  have blank : ∀ c ∈ " ".toList, c ∈ gapCharacters := forall_mem_of_all (by decide)
  have written : e.writtenInBrackets " " = .ok text := by decide +kernel
  obtain ⟨own, same, read⟩ := read_writtenInBrackets blank (by decide) (by decide) takes
  cases written.symm.trans same
  exact ⟨written, read⟩

end TaskQuery
