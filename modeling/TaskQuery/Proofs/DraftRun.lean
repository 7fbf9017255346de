import TaskQuery.Filter.Draft
import TaskQuery.Outcome

namespace TaskQuery

namespace Draft

/-- A step on a draft. -/
inductive Step where
  | compare (field : String) (operator value : Value)
  | joinByAnd
  | joinByOr

/-- The draft after a step that is not refused. -/
def step (d : Draft) : Step → Except DraftError Draft
  | .compare field operator value => d.compare field operator value
  | .joinByAnd => .ok d.joinByAnd
  | .joinByOr => d.joinByOr

/-- The draft after a step, refused or not. -/
def after (d : Draft) (s : Step) : Draft :=
  match d.step s with
  | .ok next => next
  | .error _ => d

/-- The draft after a run of steps. -/
def run (d : Draft) (steps : List Step) : Draft :=
  steps.foldl after d

/-- The conditions that the steps of a run put into a draft. -/
def Accepts (steps : List Step) (c : Condition) : Prop :=
  ∃ field operator value, .compare field operator value ∈ steps ∧ condition field operator value = .ok c

/-- A draft whose conditions have a property, with a joiner between any two neighbours. -/
structure Holds (property : Condition → Prop) (d : Draft) : Prop where
  conditions : ∀ c ∈ d.conditions, property c
  joiners : d.joiners.length = d.conditions.length - 1

variable {property : Condition → Prop} {d : Draft}

theorem holds_empty : Holds property empty where
  conditions := List.forall_mem_nil _
  joiners := rfl

theorem Holds.add (holds : Holds property d) {c : Condition} (new : property c) : Holds property (d.add c) where
  conditions := by
    simp only [Draft.add]
    exact List.forall_mem_append.2 ⟨holds.conditions, List.forall_mem_singleton.2 new⟩
  joiners := by
    have joiners := holds.joiners
    simp only [Draft.add, List.length_append, List.length_singleton]
    by_cases none : d.conditions = []
    · rw [none] at joiners ⊢
      simpa using joiners
    · have some := List.length_pos_iff.2 none
      simp only [List.isEmpty_iff, if_neg none, List.length_append, List.length_singleton]
      omega

/-- A step keeps what holds of the conditions, if it holds of the condition that the step adds. -/
theorem Holds.after (holds : Holds property d) {s : Step} (new : ∀ c, Accepts [s] c → property c) :
    Holds property (d.after s) := by
  unfold Draft.after
  split
  · rename_i next found
    cases s with
    | compare field operator value =>
      obtain ⟨c, accepted, eq⟩ := Outcome.map_eq_ok.1 found
      cases eq
      exact holds.add (new c ⟨field, operator, value, List.mem_singleton_self _, accepted⟩)
    | joinByAnd =>
      cases found
      exact ⟨holds.conditions, holds.joiners⟩
    | joinByOr =>
      simp only [step, joinByOr] at found
      split at found
      · cases found
      · cases found
        exact ⟨holds.conditions, holds.joiners⟩
  · exact holds

/-- A run keeps what holds of the conditions, if it holds of every condition that its steps add. -/
theorem Holds.run (holds : Holds property d) {steps : List Step} (new : ∀ c, Accepts steps c → property c) :
    Holds property (d.run steps) := by
  induction steps generalizing d with
  | nil => exact holds
  | cons s steps ih =>
    refine ih (holds.after ?_) ?_
    · rintro c ⟨field, operator, value, member, accepted⟩
      cases List.mem_singleton.1 member
      exact new c ⟨field, operator, value, List.mem_cons_self, accepted⟩
    · rintro c ⟨field, operator, value, member, accepted⟩
      exact new c ⟨field, operator, value, List.mem_cons_of_mem s member, accepted⟩

end Draft

end TaskQuery
