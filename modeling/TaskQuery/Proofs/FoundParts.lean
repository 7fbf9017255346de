import TaskQuery.Proofs.HeldValue
import TaskQuery.Proofs.SmallLetters

namespace TaskQuery

namespace Text

/-- Whether a capital sigma between `before`, nearest first, and `after` is at the end of a word. -/
def endsWord (before after : List Char) : Bool :=
  meetsCased before && !meetsCased after

theorem lowerAt_sigma (before after : List Char) :
    lowerAt before capitalSigma after = [if endsWord before after then 'ς' else 'σ'] := by
  rw [lowerAt, if_pos rfl, endsWord]
  split <;> rfl

/-- Any other character is the same everywhere. -/
theorem lowerAt_other {c : Char} (other : c ≠ capitalSigma) (before before' after after' : List Char) :
    lowerAt before c after = lowerAt before' c after' := by
  rw [lowerAt, lowerAt, if_neg other, if_neg other]

/-- The small form of the middle one of three texts, the first one from its end. -/
def lowerBetween (before : List Char) : List Char → List Char → List Char
  | [], _ => []
  | c :: cs, after => lowerAt before c (cs ++ after) ++ lowerBetween (c :: before) cs after

theorem lowerAfter_append (before cs after : List Char) :
    lowerAfter before (cs ++ after) = lowerBetween before cs after ++ lowerAfter (cs.reverse ++ before) after := by
  induction cs generalizing before with
  | nil => rfl
  | cons c cs ih =>
    rw [List.cons_append, lowerAfter, ih, lowerBetween, List.append_assoc, List.reverse_cons, List.append_assoc]
    rfl

theorem lowerBetween_nil (before cs : List Char) : lowerBetween before cs [] = lowerAfter before cs := by
  have whole := lowerAfter_append before cs []
  rwa [List.append_nil, lowerAfter, List.append_nil, eq_comm] at whole

theorem lowerBetween_append (before cs ds after : List Char) :
    lowerBetween before (cs ++ ds) after =
      lowerBetween before cs (ds ++ after) ++ lowerBetween (cs.reverse ++ before) ds after := by
  induction cs generalizing before with
  | nil => rfl
  | cons c cs ih =>
    rw [List.cons_append, lowerBetween, ih, lowerBetween, List.append_assoc, List.append_assoc, List.reverse_cons,
      List.append_assoc]
    rfl

theorem lower_parts (p s q : List Char) :
    lower (p ++ s ++ q) = lowerBetween [] p (s ++ q) ++ lowerBetween p.reverse s q ++ lowerAfter (p ++ s).reverse q := by
  rw [lower, lowerAfter_append, lowerBetween_append, List.append_nil, List.append_nil]

/-- The small form of a text depends on its surroundings through its sigmas only. -/
theorem lowerBetween_congr {before before' after after' cs : List Char}
    (same : ∀ left right, cs = left ++ capitalSigma :: right →
      endsWord (left.reverse ++ before) (right ++ after) = endsWord (left.reverse ++ before') (right ++ after')) :
    lowerBetween before cs after = lowerBetween before' cs after' := by
  induction cs generalizing before before' with
  | nil => rfl
  | cons c cs ih =>
    have first : lowerAt before c (cs ++ after) = lowerAt before' c (cs ++ after') := by
      by_cases sigma : c = capitalSigma
      · subst sigma
        rw [lowerAt_sigma, lowerAt_sigma]
        exact congrArg (fun final => [if final then 'ς' else 'σ']) (same [] cs rfl)
      · exact lowerAt_other sigma ..
    rw [lowerBetween, lowerBetween, first, ih fun left right split => ?_]
    have here := same (c :: left) right (congrArg (c :: ·) split)
    rwa [List.reverse_cons, List.append_assoc, List.append_assoc] at here

/-- Whether the texts around a text leave its sigmas as they are in the text alone. -/
def KeepsSigmas (p s q : List Char) : Prop :=
  ∀ left right, s = left ++ capitalSigma :: right →
    endsWord (left.reverse ++ p.reverse) (right ++ q) = endsWord left.reverse right

/-- A part is found where its sigmas are as in the part alone. -/
theorem occursIn_of_keepsSigmas {p s q : List Char} (keeps : KeepsSigmas p s q) :
    occursIn (lower s) (lower (p ++ s ++ q)) = true := by
  have alone : lowerBetween p.reverse s q = lower s := by
    rw [lower, ← lowerBetween_nil]
    refine lowerBetween_congr fun left right split => ?_
    rw [keeps left right split, List.append_nil, List.append_nil]
  rw [lower_parts, alone]
  exact occursIn_iff.2 ⟨_, _, rfl⟩

/-- Whether something in a text is not passed over in the search for a letter. -/
def decides (cs : List Char) : Bool :=
  cs.any fun c => caseClass c ≠ .ignorable

theorem meetsCased_append (cs more : List Char) :
    meetsCased (cs ++ more) = if decides cs then meetsCased cs else meetsCased more := by
  induction cs with
  | nil => rfl
  | cons c cs ih =>
    cases kind : caseClass c with
    | ignorable => simpa [meetsCased, decides, kind] using ih
    | cased => simp [meetsCased, decides, kind]
    | other => simp [meetsCased, decides, kind]

theorem meetsCased_of_not_decides {cs : List Char} (passed : decides cs = false) : meetsCased cs = false := by
  have whole := meetsCased_append cs []
  rw [List.append_nil, passed] at whole
  rw [whole]
  rfl

/-- A capital sigma is a letter, so nothing is seen behind it. -/
theorem meetsCased_sigma (cs more more' : List Char) :
    meetsCased (cs ++ capitalSigma :: more) = meetsCased (cs ++ capitalSigma :: more') := by
  have letter : caseClass capitalSigma = .cased := by decide +kernel
  rw [meetsCased_append, meetsCased_append, meetsCased, meetsCased, letter]

theorem sigma_notMem {cs : List Char} (passed : decides cs = false) (left right : List Char) :
    cs ≠ left ++ capitalSigma :: right := by
  rintro rfl
  have letter : caseClass capitalSigma ≠ .ignorable := by decide +kernel
  have inside := List.any_eq_false.1 passed capitalSigma (by simp)
  exact inside (decide_eq_true letter)

/-- Whether what stands next to a sigma in its text settles its form: a letter behind it, or on both sides something that
is not passed over, or no letter before it. -/
def SettledBetween (before after : List Char) : Prop :=
  meetsCased after = true ∨ decides before = true ∧ (meetsCased before = false ∨ decides after = true)

/-- Whether the form of every sigma is settled inside the text. -/
def Settled (s : List Char) : Prop :=
  ∀ left right, s = left ++ capitalSigma :: right → SettledBetween left.reverse right

theorem Settled.keepsSigmas {s : List Char} (settled : Settled s) (p q : List Char) : KeepsSigmas p s q := by
  intro left right split
  unfold endsWord
  rw [meetsCased_append, meetsCased_append right]
  rcases settled left right split with letter | ⟨before, none | after⟩
  · have decided : decides right = true := by
      refine Bool.of_not_eq_false fun passed => ?_
      rw [meetsCased_of_not_decides passed] at letter
      cases letter
    simp [letter, decided]
  · simp [before, none]
  · simp [before, after]

theorem not_occursIn_of_changed {x y : Char} {left right front back : List Char} (different : x ≠ y) (before : x ∉ front)
    (behind : x ∉ back) : occursIn (left ++ x :: right) (front ++ (left ++ y :: right) ++ back) = false := by
  refine Bool.eq_false_iff.2 fun found => ?_
  obtain ⟨l, r, split⟩ := occursIn_iff.1 found
  have counts := congrArg (List.count x) split
  simp only [List.count_append, List.count_cons_self, List.count_cons_of_ne different.symm,
    List.count_eq_zero_of_not_mem before, List.count_eq_zero_of_not_mem behind] at counts
  omega

theorem lowerBetween_sigma (before left right after : List Char) :
    lowerBetween before (left ++ capitalSigma :: right) after =
      lowerBetween before left (capitalSigma :: (right ++ after)) ++
        (if endsWord (left.reverse ++ before) (right ++ after) then 'ς' else 'σ') ::
          lowerBetween (capitalSigma :: (left.reverse ++ before)) right after := by
  rw [lowerBetween_append, lowerBetween, lowerAt_sigma]
  rfl

/-- Without a sigma that is looked at from outside, the surroundings do not matter. -/
theorem lowerBetween_of_passed {cs : List Char} (passed : decides cs = false) (before before' after after' : List Char) :
    lowerBetween before cs after = lowerBetween before' cs after' :=
  lowerBetween_congr fun left right split => absurd split (sigma_notMem passed left right)

/-- Nothing is seen from before a sigma of what stands behind it, nor from behind it of what stands before it. -/
theorem lowerBetween_before_sigma (before cs after after' : List Char) :
    lowerBetween before cs (capitalSigma :: after) = lowerBetween before cs (capitalSigma :: after') :=
  lowerBetween_congr fun left right _ => by rw [endsWord, endsWord, meetsCased_sigma right after after']

theorem lowerBetween_behind_sigma (before before' cs after : List Char) :
    lowerBetween (capitalSigma :: before) cs after = lowerBetween (capitalSigma :: before') cs after :=
  lowerBetween_congr fun left right _ => by rw [endsWord, endsWord, meetsCased_sigma left.reverse before before']

section Unsettled

variable {left right : List Char}

/-- If nothing before a sigma counts and no letter follows it, a letter in front of the text makes it the end of a word. -/
theorem not_occursIn_behind_letter (before : decides left.reverse = false) (behind : meetsCased right = false) :
    occursIn (lower (left ++ capitalSigma :: right)) (lower (['a'] ++ (left ++ capitalSigma :: right) ++ [])) = false := by
  have passed : decides left = false := by rwa [decides, List.any_reverse] at before
  have alone : endsWord (left.reverse ++ []) (right ++ []) = false := by
    rw [endsWord, List.append_nil, meetsCased_of_not_decides before]
    rfl
  have here : endsWord (left.reverse ++ ['a']) (right ++ []) = true := by
    rw [endsWord, meetsCased_append, before, List.append_nil, behind]
    rfl
  rw [lower_parts, lower, ← lowerBetween_nil, lowerBetween_sigma, lowerBetween_sigma, alone, List.reverse_singleton, here,
    lowerBetween_of_passed passed [] ['a'], lowerBetween_behind_sigma (left.reverse ++ []) (left.reverse ++ ['a'])]
  exact not_occursIn_of_changed (by decide) (show 'σ' ∉ ['a'] by decide) List.not_mem_nil

/-- If nothing behind a sigma counts and there is a letter before it, a letter behind the text goes on with its word. -/
theorem not_occursIn_before_letter (before : meetsCased left.reverse = true) (behind : decides right = false) :
    occursIn (lower (left ++ capitalSigma :: right)) (lower ([] ++ (left ++ capitalSigma :: right) ++ ['a'])) = false := by
  have alone : endsWord (left.reverse ++ []) (right ++ []) = true := by
    rw [endsWord, List.append_nil, List.append_nil, before, meetsCased_of_not_decides behind]
    rfl
  have here : endsWord (left.reverse ++ []) (right ++ ['a']) = false := by
    rw [endsWord, meetsCased_append right, behind, List.append_nil, before]
    rfl
  rw [lower_parts, lower, ← lowerBetween_nil, lowerBetween_sigma, lowerBetween_sigma, alone, List.reverse_nil, here,
    lowerBetween_before_sigma [] left (right ++ []) (right ++ ['a']),
    lowerBetween_of_passed behind (capitalSigma :: (left.reverse ++ [])) (capitalSigma :: (left.reverse ++ [])) [] ['a']]
  exact not_occursIn_of_changed (by decide) List.not_mem_nil (show 'ς' ∉ ['a'] by decide)

end Unsettled

/-- A text that is found wherever it stands settles its sigmas. -/
theorem settled_of_occursIn {s : List Char} (found : ∀ p q, occursIn (lower s) (lower (p ++ s ++ q)) = true) :
    Settled s := by
  rintro left right rfl
  cases behind : meetsCased right with
  | true => exact .inl behind
  | false =>
    cases before : decides left.reverse with
    | false => exact absurd (found ['a'] []) (Bool.eq_false_iff.1 (not_occursIn_behind_letter before behind))
    | true =>
      cases passed : decides right with
      | true => exact .inr ⟨before, .inr passed⟩
      | false =>
        cases word : meetsCased left.reverse with
        | false => exact .inr ⟨before, .inl word⟩
        | true => exact absurd (found [] ['a']) (Bool.eq_false_iff.1 (not_occursIn_before_letter word passed))

/-- A text is found in all texts that it is a part of exactly if it settles its sigmas. -/
theorem occursIn_parts_iff {s : List Char} : (∀ p q, occursIn (lower s) (lower (p ++ s ++ q)) = true) ↔ Settled s :=
  ⟨settled_of_occursIn, fun settled p q => occursIn_of_keepsSigmas (settled.keepsSigmas p q)⟩

end Text

namespace Condition

/-- Likeness of a field to a text. -/
def likeness (f : Field) (s : String) : Condition :=
  ⟨f, .like, .one (.str s)⟩

/-- Likeness is occurrence in small letters. -/
theorem holds_likeness {f : Field} (text : f.kind = .string) {a : String} {task : Value}
    (held : Match.fieldValue task f = .str a) (s : String) (now : Timestamp) :
    (likeness f s).holds now task = .ok (Text.occursIn (Text.lower s.toList) (Text.lower a.toList)) := by
  have suits : f.kind.allows .like = true := by rw [text]; rfl
  rw [holds_of_allows suits]
  simp only [likeness, held, text]
  rfl

/-- A task is like every part of what a text field of it holds, where no sigma of the part is changed by its surroundings.
A part is found wherever it stands exactly if it settles its sigmas itself. On both sides, small letters may be put for
capitals. -/
theorem likeness_of_parts {f : Field} (text : f.kind = .string) (s : String) :
    (∀ p q : String, Text.KeepsSigmas p.toList s.toList q.toList → ∀ now task,
      Match.fieldValue task f = .str (p ++ s ++ q) → (likeness f s).holds now task = .ok true) ∧
    ((∀ (p q : String) now task, Match.fieldValue task f = .str (p ++ s ++ q) →
      (likeness f s).holds now task = .ok true) ↔ Text.Settled s.toList) ∧
    ∀ (a : String) now task small, Match.fieldValue task f = .str a → Match.fieldValue small f = .str (Text.lowerText a) →
      (likeness f s).holds now small = (likeness f s).holds now task ∧
      (likeness f (Text.lowerText s)).holds now task = (likeness f s).holds now task ∧
      (likeness f (Text.lowerText s)).holds now small = (likeness f s).holds now task := by
  refine ⟨fun p q keeps now task held => ?_, ?_, fun a now task small held heldSmall => ?_⟩
  · rw [holds_likeness text held, String.toList_append, String.toList_append, Text.occursIn_of_keepsSigmas keeps]
  · rw [← Text.occursIn_parts_iff]
    constructor
    · intro found p q
      -- A task that holds nothing but this text is like its part.
      have met := found (String.ofList p) (String.ofList q) (.utc ⟨0, by decide⟩) _ (Match.fieldValue_single f _)
      rw [holds_likeness text (Match.fieldValue_single f _), String.toList_append, String.toList_append,
        String.toList_ofList, String.toList_ofList] at met
      exact Except.ok.inj met
    · intro found p q now task held
      rw [holds_likeness text held, String.toList_append, String.toList_append, found]
  · simp only [holds_likeness text held, holds_likeness text heldSmall, Text.lowerText, String.toList_ofList,
      Text.lower_lower, and_self]

/-- A part with a sigma at its end is found at the end of a word, and with a blank behind it wherever it stands. -/
theorem likeness_of_parts_sigma :
    let task : Value := .dict [("title", .str "ΜΕΣΑΣ ΩΡΑΣ")]
    let now : Timestamp := .utc ⟨0, by decide⟩
    (likeness .title "ΑΣ").holds now task = .ok true ∧ Text.Settled "ΑΣ ".toList ∧
      (likeness .title "ΑΣ ").holds now task = .ok true ∧
      (likeness .title (Text.lowerText "ΑΣ ")).holds now task = .ok true := by
  intro task now
  have held : Match.fieldValue task .title = .str "ΜΕΣΑΣ ΩΡΑΣ" := Match.fieldValue_single .title _
  have keeps : Text.KeepsSigmas "ΜΕΣ".toList "ΑΣ".toList " ΩΡΑΣ".toList := by
    intro left right split
    rcases left with _ | ⟨alpha, _ | ⟨sigma, left⟩⟩
    · cases split
    · cases split
      decide +kernel
    · simp at split
  have settled : Text.Settled "ΑΣ ".toList := by
    intro left right split
    rcases left with _ | ⟨alpha, _ | ⟨sigma, _ | ⟨blank, left⟩⟩⟩
    · cases split
    · cases split
      exact .inr (by decide +kernel)
    · cases split
    · simp at split
  obtain ⟨_, everywhere, letters⟩ := likeness_of_parts (f := .title) rfl "ΑΣ "
  have found := everywhere.2 settled "ΜΕΣ" "ΩΡΑΣ" now task held
  refine ⟨(likeness_of_parts rfl "ΑΣ").1 "ΜΕΣ" " ΩΡΑΣ" keeps now task held, settled, found, ?_⟩
  rw [(letters _ now task _ held (Match.fieldValue_single .title _)).2.1]
  exact found

/-- A part that is missed: alone, its sigma ends a word, and in the text it is within one. -/
theorem likeness_missed_part :
    let task : Value := .dict [("title", .str ("" ++ "ΑΣ" ++ "Α"))]
    (likeness .title "ΑΣ").holds (.utc ⟨0, by decide⟩) task = .ok false := by
  decide +kernel

end Condition

end TaskQuery
