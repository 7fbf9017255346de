import TaskQuery.Proofs.DisallowedContent
import TaskQuery.Proofs.LegalWireForm

namespace TaskQuery

namespace Unchecked.Condition

/-- The check of a condition says that the value for its field has disallowed content. -/
def ReportsContent (limits : Limits) (now : Timestamp) (c : Condition) : Prop :=
  ∃ f problems, Field.ofName? c.field = some f ∧ Check.conditionProblems limits now c.toValue = .ok problems ∧
    ConditionProblem.disallowedContent f ∈ problems

/-- A condition with a text as the value of a text field, or as an item in the list of an array field. -/
inductive Presents (s : String) : Condition → Prop
  | alone {name operator : String} {f : Field} : Field.ofName? name = some f → f.kind = .string →
      Presents s ⟨name, operator, .one (.str s)⟩
  | item {name operator : String} {f : Field} {items : List Value} : Field.ofName? name = some f → f.kind = .array →
      .str s ∈ items → Presents s ⟨name, operator, .many items⟩

end Unchecked.Condition

namespace Check

variable {limits : Limits} {now : Timestamp} {f : Field}

theorem content_notMem_operatorProblems {operator : Value} {problems : List ConditionProblem}
    (found : operatorProblems f operator = .ok problems) : ConditionProblem.disallowedContent f ∉ problems := by
  unfold operatorProblems at found
  dsimp only at found
  split at found
  · obtain ⟨spelling, _, rfl⟩ := Outcome.map_eq_ok.1 found
    simp
  · cases found
    simp [mem_problemUnless]

theorem content_notMem_kindProblems (kind : f.kind = .string ∨ f.kind = .array) {v : Value}
    {problems : List ConditionProblem} (found : kindProblems limits now f v = .ok problems) :
    ConditionProblem.disallowedContent f ∉ problems := by
  rcases kind with kind | kind
  · simp only [kindProblems, kind] at found
    split at found <;> (cases found; simp)
  · simp only [kindProblems, kind] at found
    split at found
    · split at found
      · obtain ⟨bound, _, rfl⟩ := Outcome.map_eq_ok.1 found
        simp
      · cases found
        simp [mem_problemUnless]
    · cases found
      simp [mem_problemUnless]

theorem mem_valueProblems_iff (kind : f.kind = .string ∨ f.kind = .array) {v : Value} {problems : List ConditionProblem}
    (found : valueProblems limits now f v = .ok problems) :
    ConditionProblem.disallowedContent f ∈ problems ↔ ∃ s, v.Carries s ∧ hasDisallowedContent s = true := by
  cases missing : v.isNull with
  | true =>
    rw [valueProblems, missing, if_pos rfl] at found
    cases found
    refine iff_of_false (by simp) ?_
    rintro ⟨s, rfl | ⟨items, rfl, _⟩, _⟩
    · cases missing
    · cases missing
  | false =>
    rw [valueProblems_of_present missing] at found
    obtain ⟨ofKind, ofTexts, checked, collected, rfl⟩ := Outcome.both_eq_ok.1 found
    rw [List.mem_append, or_iff_right (content_notMem_kindProblems kind checked), mem_collect_textProblems collected]
    simp [mem_texts_iff]

/-- A condition on a text or a list that is reported for its content has a text with disallowed content. -/
theorem harmful_of_reportsContent {c : Unchecked.Condition} (named : Field.ofName? c.field = some f)
    (kind : f.kind = .string ∨ f.kind = .array) (reported : c.ReportsContent limits now) :
    ∃ s, c.operand.toValue.Carries s ∧ hasDisallowedContent s = true := by
  obtain ⟨own, problems, known, found, member⟩ := reported
  cases known.symm.trans named
  rw [c.conditionProblems_toValue, partsProblems_of_named named] at found
  obtain ⟨ofOperator, ofValue, spelled, values, rfl⟩ := Outcome.both_eq_ok.1 found
  have inValue := (List.mem_append.1 member).resolve_left (content_notMem_operatorProblems spelled)
  exact (mem_valueProblems_iff kind values).1 inValue

/-- A condition on a text or a list with disallowed content in one of its texts is reported for it. -/
theorem reportsContent_of_harmful {c : Unchecked.Condition} (named : Field.ofName? c.field = some f)
    (kind : f.kind = .string ∨ f.kind = .array) (expressible : limits.Expressible c.operand.toValue) {s : String}
    (carried : c.operand.toValue.Carries s) (harmful : hasDisallowedContent s = true) : c.ReportsContent limits now := by
  have answered : ¬Unanswered limits (DateLiteral.Failing now) f.kind c.operand.toValue := by
    rintro (off | ⟨text, inside, beyond, long⟩)
    · generalize c.operand.toValue = v at off expressible
      rcases kind with kind | kind
      · rw [kind] at off
        cases off
      · rw [kind] at off
        cases off with
        | items beyond long => exact expressible.items _ rfl beyond long
    · exact expressible.texts text inside beyond long
  obtain ⟨ofOperator, spelled⟩ : ∃ problems, operatorProblems f (.str c.operator) = .ok problems :=
    exists_operatorProblems_iff.2 nofun
  obtain ⟨ofValue, values⟩ := exists_valueProblems_iff.2 answered
  refine ⟨f, ofOperator ++ ofValue, named, ?_, List.mem_append_right _ ?_⟩
  · rw [c.conditionProblems_toValue, partsProblems_of_named named]
    exact Outcome.both_eq_ok.2 ⟨_, _, spelled, values, rfl⟩
  · exact (mem_valueProblems_iff kind values).2 ⟨s, carried, harmful⟩

end Check

namespace Unchecked.Condition

variable {limits : Limits} {now : Timestamp}

theorem Presents.reported {s : String} {c : Condition} (presents : c.Presents s)
    (expressible : limits.Expressible c.operand.toValue) (harmful : hasDisallowedContent s = true) :
    c.ReportsContent limits now := by
  cases presents with
  | alone named kind => exact Check.reportsContent_of_harmful named (.inl kind) expressible (.inl rfl) harmful
  | item named kind member =>
    exact Check.reportsContent_of_harmful named (.inr kind) expressible (.inr ⟨_, rfl, member⟩) harmful

/-- A text that is reported as the value of a text field is reported with further text around it, wherever it is looked at,
if no word goes on at either end. With one of the patterns in it that neither begin nor end at the edge of a word, it is
reported with any text around it. A report also says which bounds are exceeded, so these can be written. -/
theorem content_not_hidden {name operator s : String} {f : Field} (named : Field.ofName? name = some f)
    (kind : f.kind = .string) (reported : ReportsContent limits now ⟨name, operator, .one (.str s)⟩) :
    (∀ p q : String, (∀ c ∈ p.toList.getLast?, Text.isWordChar c = false) →
      (∀ c ∈ q.toList.head?, Text.isWordChar c = false) →
        ∀ c, Presents (p ++ s ++ q) c → limits.Expressible c.operand.toValue → c.ReportsContent limits now) ∧
    ∀ pattern ∈ ContentPattern.disallowed, pattern.touchesEdge = false → pattern.occursIn s.toList = true →
      ∀ p q : String, ∀ c, Presents (p ++ s ++ q) c → limits.Expressible c.operand.toValue →
        c.ReportsContent limits now := by
  have harmful {p q : String} {pattern : ContentPattern} (member : pattern ∈ ContentPattern.disallowed)
      (padded : pattern.occursIn (p.toList ++ s.toList ++ q.toList) = true) : hasDisallowedContent (p ++ s ++ q) = true := by
    rw [hasDisallowedContent, String.toList_append, String.toList_append]
    exact List.any_eq_true.2 ⟨pattern, member, padded⟩
  obtain ⟨t, carried, found⟩ := Check.harmful_of_reportsContent named (.inl kind) reported
  rcases carried with same | ⟨_, same, _⟩
  · cases same
    obtain ⟨pattern, member, occurs⟩ := List.any_eq_true.1 found
    refine ⟨fun p q before behind c presents expressible => ?_, fun own isOwn free occurs p q c presents expressible => ?_⟩
    · have noWord : p.toList.getLast?.any Text.isWordChar = false ∧ q.toList.head?.any Text.isWordChar = false := by
        simp only [Option.any_eq_false]
        exact ⟨before, behind⟩
      exact presents.reported expressible (harmful member (ContentPattern.occursIn_padded (.inl noWord) occurs))
    · have free := ContentPattern.begins_of_touchesEdge isOwn free
      exact presents.reported expressible (harmful isOwn (ContentPattern.occursIn_padded (.inr free) occurs))
  · cases same

/-- A word in the middle of an item of a list, and the front of a tag that goes on in a word. -/
theorem content_not_hidden_item :
    let now : Timestamp := .utc ⟨0, by decide⟩
    ReportsContent .standard now ⟨"title", "like", .one (.str "constructor")⟩ ∧
    ReportsContent .standard now ⟨"labels", "in", .many [.int 1, .str "my constructor.name"]⟩ ∧
    ReportsContent .standard now ⟨"title", "=", .one (.str "a<b onClick =x>")⟩ := by
  intro now
  have word : ReportsContent .standard now ⟨"title", "like", .one (.str "constructor")⟩ :=
    ⟨.title, [.disallowedContent .title], by decide, by decide +kernel, List.mem_singleton_self _⟩
  have tag : ReportsContent .standard now ⟨"title", "=", .one (.str "<b onClick =")⟩ :=
    ⟨.title, [.disallowedContent .title], by decide, by decide +kernel, List.mem_singleton_self _⟩
  have expressible : ∀ v, Limits.standard.Expressible v := Limits.expressible_of (by decide +kernel) (by decide +kernel)
  have title : Field.ofName? "title" = some .title := by decide
  have labels : Field.ofName? "labels" = some .labels := by decide
  have item : Presents ("my " ++ "constructor" ++ ".name") ⟨"labels", "in", .many [.int 1, .str "my constructor.name"]⟩ :=
    .item labels rfl (by decide)
  have inside : Presents ("a" ++ "<b onClick =" ++ "x>") ⟨"title", "=", .one (.str "a<b onClick =x>")⟩ := .alone title rfl
  have before : ∀ c ∈ "my ".toList.getLast?, Text.isWordChar c = false := (Option.any_eq_false _ _).1 (by decide)
  have behind : ∀ c ∈ ".name".toList.head?, Text.isWordChar c = false := (Option.any_eq_false _ _).1 (by decide)
  refine ⟨word, (content_not_hidden title rfl word).1 _ _ before behind _ item (expressible _), ?_⟩
  exact (content_not_hidden title rfl tag).2 (ContentPattern.disallowed[2]) (by decide) (by decide) (by decide +kernel)
    _ _ _ inside (expressible _)

end Unchecked.Condition

end TaskQuery
