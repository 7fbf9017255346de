import TaskQuery.Proofs.LegalWireForm

namespace TaskQuery

/-- Limits whose bounds are within those of others. The number of conditions that calls for a warning is no such bound. -/
structure Limits.Within (limits wide : Limits) : Prop where
  conditions : limits.maxConditions ≤ wide.maxConditions
  depth : limits.maxDepth ≤ wide.maxDepth
  items : limits.maxArraySize ≤ wide.maxArraySize
  texts : limits.maxStringLength ≤ wide.maxStringLength

section Widening

variable {limits wide : Limits} {now : Timestamp} {v : Value}

theorem Limits.AdmitsText.widen {s : String} (admitted : limits.AdmitsText s) (within : limits.Within wide) :
    wide.AdmitsText s :=
  ⟨Int.le_trans admitted.short within.texts, admitted.harmless⟩

theorem Value.Fits.widen {kind : Kind} (fits : v.Fits limits now kind) (within : limits.Within wide) :
    v.Fits wide now kind := by
  cases fits with
  | items few each => exact .items (Int.le_trans few within.items) each
  | truth | truthWord | int | float | numeral | day | timestamp | dateLiteral | string | item =>
    constructor <;> assumption

theorem Value.LegalCondition.widen (legal : v.LegalCondition limits now) (within : limits.Within wide) :
    v.LegalCondition wide now := by
  obtain ⟨noConditions, noGroups, field, permitted, named, operator, spelled, suits, value, fits, admitted⟩ := legal
  exact .intro noConditions noGroups field permitted named operator spelled suits value (fits.widen within)
    fun s carried => (admitted s carried).widen within

namespace Check

theorem AcceptedCondition.widen (accepted : AcceptedCondition limits now v) (within : limits.Within wide) :
    AcceptedCondition wide now v :=
  acceptedCondition_iff.2 ((acceptedCondition_iff.1 accepted).widen within)

theorem AcceptedGroup.widen (accepted : AcceptedGroup limits now v) (within : limits.Within wide) :
    AcceptedGroup wide now v :=
  ⟨accepted.joiner, accepted.nonempty, fun c member => (accepted.conditions c member).widen within⟩

theorem Accepted.widen (accepted : Accepted limits now v) (within : limits.Within wide) : Accepted wide now v := by
  refine ⟨accepted.joiner, accepted.nonempty, ?_, Int.le_trans accepted.count within.conditions, fun g member => ?_⟩
  · have levels := nestingDepth_le_iff.1 accepted.depth
    exact nestingDepth_le_iff.2 (Int.le_trans levels within.depth)
  · exact (accepted.groups g member).widen within

/-- Wider limits accept at least as much, of wire forms and of expressions. -/
theorem valid_of_within (within : limits.Within wide) :
    (∀ v, (∃ verdict, wireVerdict limits now v = .ok verdict ∧ verdict.isValid = true) →
      ∃ verdict, wireVerdict wide now v = .ok verdict ∧ verdict.isValid = true) ∧
    ∀ e, (∃ verdict, treeVerdict limits now e = .ok verdict ∧ verdict.isValid = true) →
      ∃ verdict, treeVerdict wide now e = .ok verdict ∧ verdict.isValid = true := by
  have values (v : Value) (valid : ∃ verdict, wireVerdict limits now v = .ok verdict ∧ verdict.isValid = true) :
      ∃ verdict, wireVerdict wide now v = .ok verdict ∧ verdict.isValid = true :=
    wireVerdict_isValid_iff.2 ((wireVerdict_isValid_iff.1 valid).widen within)
  exact ⟨values, fun e => values e.toValue⟩

/-- A condition on two labels, under limits that leave no room and under others that warn of every filter. -/
theorem valid_of_within_labels :
    let limits : Limits := ⟨1, 2, 2, 4, 50⟩
    let wide : Limits := ⟨50, 10, 100, 1000, 0⟩
    let now : Timestamp := .utc ⟨0, by decide⟩
    let e : Unchecked.Expression := ⟨[⟨[⟨"labels", "in", .many [.str "home", .str "work"]⟩], "&&"⟩], "&&"⟩
    limits.Within wide ∧ treeVerdict limits now e = .ok ⟨[], []⟩ ∧
      ∃ verdict, treeVerdict wide now e = .ok verdict ∧ verdict.isValid = true := by
  intro limits wide now e
  have within : limits.Within wide := ⟨by decide, by decide, by decide, by decide⟩
  have valid : treeVerdict limits now e = .ok ⟨[], []⟩ := by decide +kernel
  exact ⟨within, valid, (valid_of_within within).2 e ⟨_, valid, rfl⟩⟩

end Check

end Widening

end TaskQuery
