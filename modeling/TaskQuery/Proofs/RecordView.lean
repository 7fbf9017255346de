import TaskQuery.Proofs.TaskAdmission

namespace TaskQuery

namespace Match

/-- The place on the line of values that a number field is compared from; what is no number counts as zero. -/
def heldPlace (v : Value) : Except Fault (Option Position) :=
  v.measure?.map fun x => (x.getD .zero).position?

/-- Whether two values are the same to every comparison of a kind. -/
def Alike (kind : Kind) (v w : Value) : Prop :=
  match kind with
  | .boolean => v.truthy = w.truthy
  | .number => heldPlace v = heldPlace w
  | .date => taskInstant v = taskInstant w
  | .string => heldText v = heldText w
  | .array => identities v = identities w

theorem Alike.refl (kind : Kind) (v : Value) : Alike kind v v := by
  cases kind <;> rfl

/-- Values that are alike compare alike with every operand. -/
theorem compareHeld_congr {kind : Kind} {v w : Value} (alike : Alike kind v w) (now : Timestamp) (op : Operator)
    (operand : Operand) : compareHeld now kind op v operand = compareHeld now kind op w operand := by
  cases kind with
  | boolean =>
    have truth : v.truthy = w.truthy := alike
    simp only [compareHeld, truth]
  | number =>
    have place : heldPlace v = heldPlace w := alike
    unfold heldPlace at place
    cases target : measureOf operand with
    | error fault => simp only [compareHeld, target]; rfl
    | ok target' =>
      cases target' with
      | none => simp only [compareHeld, target]; rfl
      | some y =>
        rw [compareHeld_number target, compareHeld_number target]
        cases left : v.measure? with
        | error fault =>
          rw [left] at place
          rw [Outcome.map_eq_error.1 place.symm]
        | ok x =>
          rw [left] at place
          obtain ⟨x', right, same⟩ := Outcome.map_eq_ok.1 place.symm
          rw [right]
          exact congrArg Except.ok (relates_congr same.symm op y)
  | date =>
    have instant : taskInstant v = taskInstant w := alike
    simp only [compareHeld, instant]
  | string =>
    have text : heldText v = heldText w := alike
    simp only [compareHeld, text]
  | array =>
    have ids : identities v = identities w := alike
    simp only [compareHeld, ids]

end Match

theorem Double.isNumber_of_ofInt? {n : Int} {x : Double} (inRange : ofInt? n = some x) : x.isNumber = true := by
  unfold ofInt? at inRange
  generalize ofRatio (n < 0) n.natAbs 1 = nearest at inRange
  cases nearest with
  | finite negative code =>
    simp only [finite?, Option.some.injEq] at inRange
    rw [← inRange]
    rfl
  | _ => cases inRange

/-- Tasks that hold alike values in every field meet the same expressions. -/
theorem Unchecked.Expression.holds_congr {v w : Value}
    (alike : ∀ f : Field, Match.Alike f.kind (Match.fieldValue v f) (Match.fieldValue w f)) (now : Timestamp)
    (e : Unchecked.Expression) : e.holds now v = e.holds now w := by
  have condition (c : TaskQuery.Condition) : c.holds now v = c.holds now w := by
    simp only [TaskQuery.Condition.holds, Match.compareHeld_congr (alike c.field)]
  have each : (fun c : Unchecked.Condition => c.holds now v) = fun c => c.holds now w := by
    funext c
    simp only [Unchecked.Condition.holds, condition]
  rw [holds, holds, each]

/-- An expression of a single condition holds as the condition does. -/
theorem Expression.pass_single {γ : Type} (test : γ → Except Fault Bool) (c : γ) :
    Expression.pass test ⟨[⟨[c], .and⟩], .and⟩ = test c := by
  simp only [pass, Joiner.pass, allPass]
  cases test c with
  | error => rfl
  | ok met => cases met <;> rfl

/-- Whether a value has the type that is declared for a field of a task. All fields but the truth value may be null. -/
inductive Field.Declares : Field → Value → Prop
  | done (b : Bool) : Declares .done (.bool b)
  | whole {f : Field} (n : Int) : f.kind = .number → Declares f (.int n)
  | percentage (x : Double) : Declares .percentDone (.float x)
  | text {f : Field} (s : String) : f.kind = .date ∨ f.kind = .string → Declares f (.str s)
  | related {f : Field} {items : List Value} : f.kind = .array →
      (∀ item ∈ items, ∃ entries id, item = .dict entries ∧ lookup? "id" entries = some (.int id)) →
      Declares f (.list items)
  | null {f : Field} : f ≠ .done → Declares f .null

namespace Field.Declares

variable {f : Field} {v : Value}

theorem exists_text (typed : f.Declares v) (kind : f.kind = .date ∨ f.kind = .string) (present : v ≠ .null) :
    ∃ s, v = .str s := by
  cases typed with
  | text s => exact ⟨s, rfl⟩
  | null => exact absurd rfl present
  | done | percentage => rcases kind with kind | kind <;> cases kind
  | whole _ other | related other => rcases kind with kind | kind <;> cases other.symm.trans kind

theorem exists_whole (typed : Declares .priority v) (present : v ≠ .null) : ∃ n, v = .int n := by
  cases typed with
  | whole n => exact ⟨n, rfl⟩
  | null => exact absurd rfl present
  | text _ kind => rcases kind with kind | kind <;> cases kind
  | related kind => cases kind

theorem exists_number (typed : Declares .percentDone v) (present : v ≠ .null) :
    (∃ n, v = .int n) ∨ ∃ x, v = .float x := by
  cases typed with
  | whole n => exact .inl ⟨n, rfl⟩
  | percentage x => exact .inr ⟨x, rfl⟩
  | null => exact absurd rfl present
  | text _ kind => rcases kind with kind | kind <;> cases kind
  | related kind => cases kind

theorem exists_truth (typed : Declares .done v) : ∃ b, v = .bool b := by
  cases typed with
  | done b => exact ⟨b, rfl⟩
  | null other => exact absurd rfl other
  | whole _ kind | related kind => cases kind
  | text _ kind => rcases kind with kind | kind <;> cases kind

end Field.Declares

/-- Whether the entries that stand under one of the two names of a field have the declared types. -/
def Declared (entries : List (String × Value)) : Prop :=
  ∀ (f : Field) (key : String) (v : Value), key = f.name ∨ key = f.recordKey → lookup? key entries = some v → f.Declares v

theorem Match.part_of_lookup? {entries : List (String × Value)} {key : String} {v : Value}
    (found : lookup? key entries = some v) : part (.dict entries) key = v := by
  rw [part, parts, found]
  rfl

theorem Declared.part {entries : List (String × Value)} (declared : Declared entries) {f : Field} {key : String}
    (named : key = f.name ∨ key = f.recordKey) (present : Match.part (.dict entries) key ≠ .null) :
    f.Declares (Match.part (.dict entries) key) := by
  cases found : lookup? key entries with
  | none => exact absurd (by rw [Match.part, Match.parts, found]; rfl) present
  | some v =>
    rw [Match.part_of_lookup? found]
    exact declared f key v named found

namespace Match

/-- An integer that is a double is compared as that double. -/
theorem heldPlace_int {n : Int} {x : Double} (inRange : Double.ofInt? n = some x) :
    heldPlace (.int n) = heldPlace (.float x) := by
  rw [heldPlace, heldPlace, Value.measure?_int, inRange, Value.measure?_float,
    if_pos (Double.isNumber_of_ofInt? inRange)]
  rfl

end Match

namespace Admission

variable {entries : List (String × Value)} {key : String} {α : Type} {toValue : α → Value}

/-- An attribute that may be missing is like its entry if it is where the entry is there. -/
theorem optional_alike {accept : Value → Admission α} {kind : Kind} {x : Option α}
    (admitted : withDefault key none (optional accept) entries = .ok x)
    (each : ∀ a, Match.part (.dict entries) key ≠ .null → accept (Match.part (.dict entries) key) = .ok a →
      Match.Alike kind (Match.part (.dict entries) key) (toValue a)) :
    Match.Alike kind (Match.part (.dict entries) key) (.ofOption toValue x) := by
  rcases optionalEntry_eq_ok_iff.1 admitted with ⟨missing, rfl⟩ | ⟨present, a, accepted, rfl⟩
  · rw [missing]
    exact .refl kind _
  · exact each a present accepted

theorem map_identity_eq {accept : Value → Admission α} {vs : List Value} {xs : List α}
    (members : List.Forall₂ (fun v x => accept v = .ok x) vs xs)
    (ids : ∀ v ∈ vs, ∃ own id, v = .dict own ∧ lookup? "id" own = some (.int id))
    (each : ∀ own id a, lookup? "id" own = some (.int id) → accept (.dict own) = .ok a →
      Match.identity (toValue a) = .int id) :
    vs.map Match.identity = xs.map fun a => Match.identity (toValue a) := by
  induction members with
  | nil => rfl
  | @cons v a vs xs first _ ih =>
    obtain ⟨⟨own, id, rfl, found⟩, others⟩ := List.forall_mem_cons.1 ids
    have here : Match.identity (.dict own) = .int id := by
      rw [Match.identity, found]
      rfl
    rw [List.map_cons, List.map_cons, ih others, here, each own id a found first]

/-- A relation is like its entry if its members have the ids of the items there. -/
theorem relation_alike {accept : Value → Admission α} {f : Field} {xs : List α}
    (admitted : withDefault key [] (relation accept) entries = .ok xs)
    (declared : Match.part (.dict entries) key ≠ .null → f.Declares (Match.part (.dict entries) key))
    (each : ∀ own id a, lookup? "id" own = some (.int id) → accept (.dict own) = .ok a →
      Match.identity (toValue a) = .int id) :
    Match.Alike .array (Match.part (.dict entries) key) (.list (xs.map toValue)) := by
  rcases relationEntry_eq_ok_iff.1 admitted with ⟨missing, rfl⟩ | ⟨vs, listed, members⟩
  · rw [missing]
    rfl
  · have present : Match.part (.dict entries) key ≠ .null := by
      rw [listed]
      intro null
      cases null
    have typed := declared present
    rw [listed] at typed ⊢
    have ids : ∀ v ∈ vs, ∃ own id, v = .dict own ∧ lookup? "id" own = some (.int id) := by
      cases typed with
      | related _ ids => exact ids
    show Match.identities (.list vs) = Match.identities (.list (xs.map toValue))
    rw [Match.identities_list, Match.identities_list, List.map_map, map_identity_eq members ids each]
    rfl

theorem taskUser_id {own : List (String × Value)} {id : Int} {u : TaskUser} (found : lookup? "id" own = some (.int id))
    (admitted : taskUser (.dict own) = .ok u) : u.id = id := by
  obtain ⟨_, same, admitted⟩ := entries_bind_eq_ok_iff.1 admitted
  cases same
  simp only [ap_eq_ok_iff, Outcome.map_eq_ok, required_eq_ok_iff, found] at admitted
  obtain ⟨_, _, ⟨_, _, ⟨_, ⟨_, here, accepted⟩, rfl⟩, _, rfl⟩, _, rfl⟩ := admitted
  cases here
  cases accepted
  rfl

theorem taskLabel_id {own : List (String × Value)} {id : Int} {l : TaskLabel} (found : lookup? "id" own = some (.int id))
    (admitted : taskLabel (.dict own) = .ok l) : l.id = id := by
  obtain ⟨_, same, admitted⟩ := entries_bind_eq_ok_iff.1 admitted
  cases same
  simp only [ap_eq_ok_iff, Outcome.map_eq_ok, required_eq_ok_iff, found] at admitted
  obtain ⟨_, _, ⟨_, ⟨_, here, accepted⟩, rfl⟩, _, rfl⟩ := admitted
  cases here
  cases accepted
  rfl

/-- A text is admitted as it is, as a date or as a text. -/
theorem text_alike {accept : Value → Admission α} {f : Field} {x : Option α}
    (admitted : withDefault key none (optional accept) entries = .ok x)
    (declared : Match.part (.dict entries) key ≠ .null → f.Declares (Match.part (.dict entries) key))
    (kind : f.kind = .date ∨ f.kind = .string) (each : ∀ s a, accept (.str s) = .ok a → toValue a = .str s) :
    Match.Alike f.kind (Match.part (.dict entries) key) (.ofOption toValue x) := by
  refine optional_alike admitted fun a present accepted => ?_
  obtain ⟨s, text⟩ := (declared present).exists_text kind present
  rw [text] at accepted ⊢
  rw [each s a accepted]
  exact .refl _ _

/-- An entry of the declared type is like the attribute that it is admitted as. -/
theorem TaskForm.alike {t : TaskRecord} (form : TaskForm entries t) (declared : Declared entries) (f : Field) :
    Match.Alike f.kind (Match.part (.dict entries) f.recordKey) (t.held f) := by
  have typed := declared.part (f := f) (.inr rfl)
  cases f with
  | done =>
    rcases withDefault_eq_ok_iff.1 form.done with ⟨v, found, accepted⟩ | ⟨missing, fallback⟩
    · obtain ⟨b, rfl⟩ := (declared .done _ v (.inl rfl) found).exists_truth
      have entry : Match.part (.dict entries) Field.done.recordKey = .bool b := Match.part_of_lookup? found
      rw [entry, TaskRecord.held, ← Except.ok.inj accepted]
      exact .refl _ _
    · have entry : Match.part (.dict entries) Field.done.recordKey = .null := by
        rw [Match.part, Match.parts]
        exact congrArg (Option.getD · .null) missing
      rw [entry, TaskRecord.held, fallback]
      rfl
  | priority =>
    refine optional_alike form.priority fun n present accepted => ?_
    obtain ⟨m, whole⟩ := (typed present).exists_whole present
    rw [whole] at accepted ⊢
    rw [Except.ok.inj accepted]
    exact .refl _ _
  | percentDone =>
    refine optional_alike form.percentDone fun x present accepted => ?_
    rcases (typed present).exists_number present with ⟨n, whole⟩ | ⟨y, fraction⟩
    · rw [whole] at accepted ⊢
      refine Match.heldPlace_int ?_
      cases nearest : Double.ofInt? n with
      | none =>
        rw [double, nearest] at accepted
        cases accepted
      | some y =>
        rw [double, nearest] at accepted
        exact congrArg some (Except.ok.inj accepted)
    · rw [fraction] at accepted ⊢
      rw [Except.ok.inj accepted]
      exact .refl _ _
  | assignees =>
    exact relation_alike form.assignees typed fun own id u found admitted => congrArg Value.int (taskUser_id found admitted)
  | labels =>
    exact relation_alike form.labels typed fun own id l found admitted => congrArg Value.int (taskLabel_id found admitted)
  | dueDate => exact text_alike form.dueDate typed (.inl rfl) fun s a accepted => by cases accepted; rfl
  | created => exact text_alike form.created typed (.inl rfl) fun s a accepted => by cases accepted; rfl
  | updated => exact text_alike form.updated typed (.inl rfl) fun s a accepted => by cases accepted; rfl
  | title => exact text_alike form.title typed (.inr rfl) fun s a accepted => by cases accepted; rfl
  | description => exact text_alike form.description typed (.inr rfl) fun s a accepted => by cases accepted; rfl

end Admission

namespace Match

/-- Whether a value in a field of some kind is the same to every comparison as an absent one. -/
def CountsAsAbsent (kind : Kind) (v : Value) : Prop :=
  Alike kind v .null

end Match

namespace TaskRecord

variable {entries : List (String × Value)} {t : TaskRecord}

/-- What is not there under the name of an attribute is missing from the record. -/
theorem held_of_missing (form : Admission.TaskForm entries t) {f : Field} (renamed : f.recordKey ≠ f.name)
    (missing : Match.part (.dict entries) f.recordKey = .null) : t.held f = .null := by
  have absent {α : Type} {accept : Value → Admission α} {key : String} {x : Option α} (toValue : α → Value)
      (admitted : Admission.withDefault key none (Admission.optional accept) entries = .ok x)
      (missing : Match.part (.dict entries) key = .null) : Value.ofOption toValue x = .null := by
    rcases Admission.optionalEntry_eq_ok_iff.1 admitted with ⟨_, rfl⟩ | ⟨present, _⟩
    · rfl
    · exact absurd missing present
  cases f with
  | percentDone => exact absent _ form.percentDone missing
  | dueDate => exact absent _ form.dueDate missing
  | _ => exact absurd rfl renamed

theorem alike_iff (form : Admission.TaskForm entries t) (declared : Declared entries) (f : Field) :
    Match.Alike f.kind (Match.fieldValue (.dict entries) f) (Match.fieldValue t.toValue f) ↔
      (f.recordKey ≠ f.name → Match.part (.dict entries) f.recordKey = .null →
        Match.CountsAsAbsent f.kind (Match.part (.dict entries) f.name)) := by
  have own := form.alike declared f
  rw [Match.fieldValue_eq, t.fieldValue_toValue]
  split
  · rename_i missing
    have missing := Value.isNull_iff.1 missing
    by_cases same : f.recordKey = f.name
    · rw [← same]
      exact iff_of_true own fun renamed => absurd rfl renamed
    · rw [held_of_missing form same missing]
      exact ⟨fun alike _ _ => alike, fun absent => absent same missing⟩
  · rename_i present
    exact iff_of_true own fun _ missing => absurd (Value.isNull_iff.2 missing) present

end TaskRecord

namespace Match

/-- A number field that equals zero as a missing one does is as good as missing. -/
theorem countsAsAbsent_of_number {now : Timestamp} {v : Value}
    (zero : compareHeld now .number .equal v (.one (.int 0)) = compareHeld now .number .equal .null (.one (.int 0))) :
    CountsAsAbsent .number v := by
  have nearest : Double.ofInt? 0 = some .zero := by decide +kernel
  have target : measureOf (.one (.int 0)) = .ok (some .zero) := by
    show (Value.int 0).measure? = .ok (some .zero)
    rw [Value.measure?_int, nearest]
    rfl
  rw [compareHeld_number target, compareHeld_number target] at zero
  obtain ⟨x, measured, equal⟩ := Outcome.map_eq_ok.1 zero
  have place : (x.getD .zero).position? = Double.zero.position? := by
    have same : Number.same (.float (x.getD .zero)) (.float .zero) = true := equal
    rw [Number.same, Number.position?, Number.position?] at same
    split at same
    · rename_i p q here there
      rw [here, there, eq_of_beq same]
    · cases same
  show heldPlace v = heldPlace .null
  rw [heldPlace, measured]
  exact congrArg Except.ok place

/-- A date field that differs from what is no date, as a missing one does, is as good as missing. -/
theorem countsAsAbsent_of_date {now : Timestamp} {v : Value}
    (absent : compareHeld now .date .notEqual v (.one (.str "")) = compareHeld now .date .notEqual .null (.one (.str ""))) :
    CountsAsAbsent .date v := by
  have missing : taskInstant .null = .ok none := rfl
  rw [compareHeld_date_of_absent missing] at absent
  show taskInstant v = .ok none
  cases held : taskInstant v with
  | error fault =>
    rw [compareHeld_date_of_error held] at absent
    cases absent
  | ok instant =>
    cases instant with
    | none => rfl
    | some m =>
      have unresolved : targetOf now (.one (.str "")) = .ok none := rfl
      rw [compareHeld_date_of_instant held, compareDates_of_unresolved unresolved] at absent
      cases absent

end Match

/-- Tasks that meet the same expressions meet the same conditions. -/
theorem Condition.holds_of_agree {now : Timestamp} {v w : Value}
    (agree : ∀ e : Unchecked.Expression, e.holds now v = e.holds now w) (c : Condition) : c.holds now v = c.holds now w := by
  have single (task : Value) :
      (⟨[⟨[c.unchecked], "&&"⟩], "&&"⟩ : Unchecked.Expression).holds now task = c.holds now task := by
    rw [← c.holds_unchecked]
    exact Expression.pass_single (fun c : Unchecked.Condition => c.holds now task) c.unchecked
  rw [← single v, ← single w, agree]

/-- A task of the declared types meets the same expressions as the record that it is admitted as, at any time and with the
same faults, exactly if what it has under the other name of a field counts as absent wherever the name of the attribute has
nothing. -/
theorem Admission.task_views_agree_iff {entries : List (String × Value)} {t : TaskRecord}
    (admitted : Admission.task (.dict entries) = .ok t) (declared : Declared entries) :
    (∀ (now : Timestamp) (e : Unchecked.Expression), e.holds now (.dict entries) = e.holds now t.toValue) ↔
      ∀ f : Field, f.recordKey ≠ f.name → Match.part (.dict entries) f.recordKey = .null →
        Match.CountsAsAbsent f.kind (Match.part (.dict entries) f.name) := by
  obtain ⟨_, same, form⟩ := Admission.task_eq_ok_iff.1 admitted
  cases same
  constructor
  · intro agree f renamed missing
    have now : Timestamp := ⟨.midnight ⟨0, by decide⟩, none⟩
    have held : Match.fieldValue (.dict entries) f = Match.part (.dict entries) f.name := by
      rw [Match.fieldValue_eq, missing]
      rfl
    have stored : Match.fieldValue t.toValue f = .null := by
      rw [t.fieldValue_toValue, TaskRecord.held_of_missing form renamed missing]
    cases f with
    | percentDone =>
      have probe := Condition.holds_of_agree (agree now) ⟨.percentDone, .equal, .one (.int 0)⟩
      rw [Condition.holds_of_allows rfl, Condition.holds_of_allows rfl, held, stored] at probe
      exact Match.countsAsAbsent_of_number probe
    | dueDate =>
      have probe := Condition.holds_of_agree (agree now) ⟨.dueDate, .notEqual, .one (.str "")⟩
      rw [Condition.holds_of_allows rfl, Condition.holds_of_allows rfl, held, stored] at probe
      exact Match.countsAsAbsent_of_date probe
    | _ => exact absurd rfl renamed
  · intro absent now e
    exact Unchecked.Expression.holds_congr (fun f => (TaskRecord.alike_iff form declared f).2 (absent f)) now e

theorem lookup?_mem {key : String} {v : Value} {entries : List (String × Value)} (found : lookup? key entries = some v) :
    (key, v) ∈ entries := by
  induction entries with
  | nil => cases found
  | cons entry entries ih =>
    obtain ⟨k, w⟩ := entry
    rw [lookup?] at found
    split at found
    · rename_i same
      cases found
      rw [same]
      exact List.mem_cons_self
    · exact List.mem_cons_of_mem _ (ih found)

/-- Entries have the declared types if each of them has. -/
theorem Declared.of_forall {entries : List (String × Value)}
    (each : ∀ entry ∈ entries, ∀ f : Field, entry.1 = f.name ∨ entry.1 = f.recordKey → f.Declares entry.2) :
    Declared entries := fun f _ _ named found => each _ (lookup?_mem found) f named

/-- A task with a date under the name of its attribute, and a zero under the other name of a field. -/
theorem Admission.task_views_agree_dated :
    let entries : List (String × Value) := [("due_date", .str "2024-05-01"), ("percentDone", .int 0)]
    let t : TaskRecord :=
      ⟨none, none, none, false, none, none, some (.text "2024-05-01"), none, none, none, [], []⟩
    Admission.task (.dict entries) = .ok t ∧ Declared entries ∧
      ∀ (now : Timestamp) (e : Unchecked.Expression), e.holds now (.dict entries) = e.holds now t.toValue := by
  intro entries t
  have admitted : Admission.task (.dict entries) = .ok t := by decide +kernel
  have declared : Declared entries := by
    refine .of_forall (List.forall_mem_cons.2 ⟨fun f named => ?_, List.forall_mem_singleton.2 fun f named => ?_⟩)
    · cases f <;> first | exact .text _ (.inl rfl) | exact absurd named (by decide)
    · cases f <;> first | exact .whole 0 rfl | exact absurd named (by decide)
  refine ⟨admitted, declared, (Admission.task_views_agree_iff admitted declared).2 fun f renamed missing => ?_⟩
  cases f with
  | dueDate => cases missing
  | percentDone =>
    have nearest : Double.ofInt? 0 = some .zero := by decide +kernel
    exact Match.heldPlace_int nearest
  | _ => exact absurd rfl renamed

/-- A date under the name of its field alone: the dictionary is met, and the record is not. -/
theorem Admission.task_views_differ :
    let now : Timestamp := ⟨⟨0, by decide⟩, none⟩
    let entries : List (String × Value) := [("dueDate", .str "2024-05-01")]
    let t : TaskRecord := ⟨none, none, none, false, none, none, none, none, none, none, [], []⟩
    let e : Unchecked.Expression := ⟨[⟨[⟨"dueDate", "=", .one (.str "2024-05-01")⟩], "&&"⟩], "&&"⟩
    Admission.task (.dict entries) = .ok t ∧ Declared entries ∧
      e.holds now (.dict entries) = .ok true ∧ e.holds now t.toValue = .ok false := by
  intro now entries t e
  have declared : Declared entries := by
    refine .of_forall (List.forall_mem_singleton.2 fun f named => ?_)
    cases f <;> first | exact .text _ (.inl rfl) | exact absurd named (by decide)
  have found : Admission.task (.dict entries) = .ok t ∧ e.holds now (.dict entries) = .ok true ∧
      e.holds now t.toValue = .ok false := by decide +kernel
  exact ⟨found.1, declared, found.2⟩

end TaskQuery
