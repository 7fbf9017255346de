import TaskQuery.Match.Filter
import TaskQuery.Outcome

namespace TaskQuery

namespace Joiner

theorem eq_other_of_ne {j k : Joiner} (different : j ≠ k) : j = k.other := by
  cases j <;> cases k <;> first | rfl | exact absurd rfl different

theorem other_ne (j : Joiner) : j.other ≠ j := by
  cases j <;> decide

/-- Two truth values joined. -/
def apply : Joiner → Bool → Bool → Bool
  | and => (· && ·)
  | or => (· || ·)

/-- Whether all of `as` pass a test, or some of them. -/
def across {α : Type} (j : Joiner) (test : α → Bool) (as : List α) : Bool :=
  match j with
  | and => as.all test
  | or => as.any test

/-- The joiner of a run that binds tighter: the first one, and *and* where there is none. -/
def tighter (joiners : List Joiner) : Joiner :=
  joiners.head?.getD and

variable {α β : Type}

theorem across_singleton (j : Joiner) (test : α → Bool) (a : α) : j.across test [a] = test a := by
  cases j <;> simp [across]

theorem across_append (j : Joiner) (test : α → Bool) (as bs : List α) :
    j.across test (as ++ bs) = j.apply (j.across test as) (j.across test bs) := by
  cases j <;> simp [across, apply]

theorem across_map (j : Joiner) (test : β → Bool) (f : α → β) (as : List α) :
    j.across test (as.map f) = j.across (fun a => test (f a)) as := by
  cases j <;> simp [across, Function.comp_def]

end Joiner

section Pass

variable {α : Type} {test : α → Except Fault Bool} {result : α → Bool} {as : List α}

theorem allPass_eq_ok (known : ∀ a ∈ as, test a = .ok (result a)) : allPass test as = .ok (as.all result) := by
  induction as with
  | nil => rfl
  | cons a as ih =>
    obtain ⟨first, others⟩ := List.forall_mem_cons.1 known
    cases passes : result a <;> simp [allPass, first, passes, ih others, bind, Except.bind, pure, Except.pure]

theorem somePass_eq_ok (known : ∀ a ∈ as, test a = .ok (result a)) : somePass test as = .ok (as.any result) := by
  induction as with
  | nil => rfl
  | cons a as ih =>
    obtain ⟨first, others⟩ := List.forall_mem_cons.1 known
    cases passes : result a <;> simp [somePass, first, passes, ih others, bind, Except.bind, pure, Except.pure]

theorem Joiner.pass_eq_ok (j : Joiner) (known : ∀ a ∈ as, test a = .ok (result a)) :
    j.pass test as = .ok (j.across result as) := by
  cases j with
  | and => exact allPass_eq_ok known
  | or => exact somePass_eq_ok known

end Pass

namespace Expression

variable {γ : Type}

/-- The truth of an expression, by the truth of its conditions. -/
def value (result : γ → Bool) (e : Expression γ) : Bool :=
  e.joiner.across (fun g => g.joiner.across result g.conditions) e.groups

/-- Without a fault in a condition there is none in the expression. -/
theorem pass_eq_ok {test : γ → Except Fault Bool} {result : γ → Bool} {e : Expression γ}
    (known : ∀ c ∈ e.conditions, test c = .ok (result c)) : e.pass test = .ok (e.value result) := by
  refine e.joiner.pass_eq_ok fun g member => g.joiner.pass_eq_ok fun c inside => known c ?_
  exact List.mem_flatMap.2 ⟨g, member, inside⟩

/-- The joiners between neighbouring conditions: those inside the groups, with the joiner of the expression between
any two groups. -/
def joiners (e : Expression γ) : List Joiner :=
  [e.joiner].intercalate (e.groups.map fun g => List.replicate (g.conditions.length - 1) g.joiner)

section Runs

variable (inner : Joiner) (current : List γ) (steps : List (Joiner × γ))

theorem runs_ne_nil : runs inner current steps ≠ [] := by
  fun_induction runs inner current steps with
  | case1 => exact List.cons_ne_nil _ _
  | case2 _ _ _ ih => exact ih
  | case3 => exact List.cons_ne_nil _ _

theorem flatten_runs : (runs inner current steps).flatten = current.reverse ++ steps.map Prod.snd := by
  fun_induction runs inner current steps with
  | case1 => simp
  | case2 current c rest ih => simp [ih]
  | case3 current j c rest _ ih => simp [ih]

theorem runs_uniform (uniform : ∀ j ∈ steps.map Prod.fst, j = inner) :
    runs inner current steps = [current.reverse ++ steps.map Prod.snd] := by
  induction steps generalizing current with
  | nil => simp [runs]
  | cons step steps ih =>
    obtain ⟨first, others⟩ := List.forall_mem_cons.1 uniform
    simp [runs, first, ih _ others]

theorem runs_append_other (c : γ) (later : List (Joiner × γ)) :
    runs inner current (steps ++ (inner.other, c) :: later) = runs inner current steps ++ runs inner [c] later := by
  induction steps generalizing current with
  | nil => simp [runs, inner.other_ne]
  | cons step steps ih =>
    by_cases same : step.1 = inner <;> simp [runs, same, ih]

variable {current}

theorem ne_nil_of_mem_runs (nonempty : current ≠ []) : ∀ run ∈ runs inner current steps, run ≠ [] := by
  fun_induction runs inner current steps with
  | case1 => exact List.forall_mem_singleton.2 (mt List.reverse_eq_nil_iff.1 nonempty)
  | case2 _ _ _ ih => exact ih (List.cons_ne_nil _ _)
  | case3 _ _ _ _ _ ih =>
    exact List.forall_mem_cons.2 ⟨mt List.reverse_eq_nil_iff.1 nonempty, ih (List.cons_ne_nil _ _)⟩

/-- The joiners inside the groups and between them are those of the steps. -/
theorem intercalate_runs (nonempty : current ≠ []) :
    [inner.other].intercalate ((runs inner current steps).map fun run => List.replicate (run.length - 1) inner) =
      List.replicate (current.length - 1) inner ++ steps.map Prod.fst := by
  fun_induction runs inner current steps with
  | case1 => simp
  | case2 current c rest ih =>
    have length := List.length_pos_iff.2 nonempty
    have grown : List.replicate current.length inner = List.replicate (current.length - 1) inner ++ [inner] := by
      rw [← List.replicate_succ', Nat.sub_add_cancel length]
    simp [ih (List.cons_ne_nil _ _), grown]
  | case3 current j c rest different ih =>
    have joiner := Joiner.eq_other_of_ne different
    have later : (runs inner [c] rest).map (fun run => List.replicate (run.length - 1) inner) ≠ [] :=
      mt List.map_eq_nil_iff.1 (runs_ne_nil inner [c] rest)
    rw [List.map_cons, List.intercalate_cons_of_ne_nil later, ih (List.cons_ne_nil _ _)]
    simp [joiner]

end Runs

section Steps

variable (first : γ) (steps : List (Joiner × γ))

/-- The fold of a run, given as its first condition and the further ones behind their joiners. -/
theorem fold_steps {inner : Joiner} (tighter : inner = Joiner.tighter (steps.map Prod.fst)) :
    fold (first :: steps.map Prod.snd) (steps.map Prod.fst) =
      { groups := (runs inner [first] steps).map fun run => ⟨run, inner⟩
        joiner := if ∀ j ∈ steps.map Prod.fst, j = inner then .and else inner.other } := by
  have zipped : (steps.map Prod.fst).zip (steps.map Prod.snd) = steps := by
    rw [List.zip_map', List.map_id'']
    exact fun _ => rfl
  subst tighter
  simp only [fold, zipped, List.all_eq_true, decide_eq_true_eq, List.forall_mem_map]
  rfl

theorem conditions_fold_steps :
    (fold (first :: steps.map Prod.snd) (steps.map Prod.fst)).conditions = first :: steps.map Prod.snd := by
  have flat := flatten_runs (Joiner.tighter (steps.map Prod.fst)) [first] steps
  rw [← List.flatMap_id] at flat
  rw [fold_steps first steps rfl, conditions, List.flatMap_map]
  exact flat

theorem joiners_fold_steps :
    (fold (first :: steps.map Prod.snd) (steps.map Prod.fst)).joiners = steps.map Prod.fst := by
  generalize tighter : Joiner.tighter (steps.map Prod.fst) = inner
  rw [fold_steps first steps tighter.symm, joiners, List.map_map]
  by_cases uniform : ∀ j ∈ steps.map Prod.fst, j = inner
  · -- One group alone: the joiner of the expression stands nowhere.
    have replicated := List.eq_replicate_of_mem uniform
    rw [List.length_map] at replicated
    simp [runs_uniform inner [first] steps uniform, replicated]
  · have spelled := intercalate_runs inner steps (List.cons_ne_nil first [])
    rw [if_neg uniform]
    exact spelled

theorem value_fold_steps (result : γ → Bool) {inner : Joiner} (tighter : inner = Joiner.tighter (steps.map Prod.fst)) :
    (fold (first :: steps.map Prod.snd) (steps.map Prod.fst)).value result =
      inner.other.across (inner.across result) (runs inner [first] steps) := by
  rw [fold_steps first steps tighter, value, Joiner.across_map]
  by_cases uniform : ∀ j ∈ steps.map Prod.fst, j = inner
  · simp only [runs_uniform inner [first] steps uniform, Joiner.across_singleton]
  · rw [if_neg uniform]

end Steps

theorem exists_steps {cs : List γ} {js : List Joiner} (nonempty : cs ≠ []) (balance : js.length = cs.length - 1) :
    ∃ (first : γ) (steps : List (Joiner × γ)), cs = first :: steps.map Prod.snd ∧ js = steps.map Prod.fst := by
  cases cs with
  | nil => exact absurd rfl nonempty
  | cons first rest =>
    refine ⟨first, js.zip rest, ?_, ?_⟩
    · rw [List.map_snd_zip (Nat.le_of_eq balance.symm)]
    · rw [List.map_fst_zip (Nat.le_of_eq balance)]

end Expression

/-- A bracketing of a run of conditions, with a joiner between any two neighbours. -/
inductive Bracketing (γ : Type) where
  | single (c : γ)
  | join (j : Joiner) (left right : Bracketing γ)

namespace Bracketing

variable {γ : Type}

def conditions : Bracketing γ → List γ
  | single c => [c]
  | join _ left right => left.conditions ++ right.conditions

def joiners : Bracketing γ → List Joiner
  | single _ => []
  | join j left right => left.joiners ++ j :: right.joiners

/-- The truth of a bracketing, by the truth of its conditions. -/
def value (result : γ → Bool) : Bracketing γ → Bool
  | single c => result c
  | join j left right => j.apply (left.value result) (right.value result)

/-- Whether a joiner binds tighter than the other one: what it joins is made with no other joiner. -/
def BindsTighter (inner : Joiner) : Bracketing γ → Prop
  | single _ => True
  | join j left right => left.BindsTighter inner ∧ right.BindsTighter inner ∧
      (j = inner → ∀ k ∈ left.joiners ++ right.joiners, k = inner)

def first : Bracketing γ → γ
  | single c => c
  | join _ left _ => left.first

/-- The conditions behind the first one, each with the joiner before it. -/
def steps : Bracketing γ → List (Joiner × γ)
  | single _ => []
  | join j left right => left.steps ++ (j, right.first) :: right.steps

theorem conditions_eq_steps (t : Bracketing γ) : t.conditions = t.first :: t.steps.map Prod.snd := by
  induction t with
  | single => rfl
  | join j left right ihLeft ihRight => simp [conditions, first, steps, ihLeft, ihRight]

theorem joiners_eq_steps (t : Bracketing γ) : t.joiners = t.steps.map Prod.fst := by
  induction t with
  | single => rfl
  | join j left right ihLeft ihRight => simp [joiners, steps, ihLeft, ihRight]

theorem value_uniform (result : γ → Bool) {inner : Joiner} {t : Bracketing γ}
    (uniform : ∀ j ∈ t.joiners, j = inner) : t.value result = inner.across result t.conditions := by
  induction t with
  | single c => exact (inner.across_singleton result c).symm
  | join j left right ihLeft ihRight =>
    obtain ⟨inLeft, here⟩ := List.forall_mem_append.1 uniform
    obtain ⟨same, inRight⟩ := List.forall_mem_cons.1 here
    rw [value, ihLeft inLeft, ihRight inRight, same, conditions, Joiner.across_append]

/-- A bracketing in which `inner` binds tighter holds where the runs between the other joiners do. -/
theorem BindsTighter.value_eq {inner : Joiner} {t : Bracketing γ} (binds : t.BindsTighter inner) (result : γ → Bool) :
    t.value result = inner.other.across (inner.across result) (Expression.runs inner [t.first] t.steps) := by
  induction t with
  | single c => simp [value, first, steps, Expression.runs, Joiner.across_singleton]
  | join j left right ihLeft ihRight =>
    obtain ⟨bindsLeft, bindsRight, inside⟩ := binds
    by_cases same : j = inner
    · -- What `inner` joins is one run, and the brackets in it do not matter.
      have uniform : ∀ k ∈ (join j left right).joiners, k = inner := by
        obtain ⟨inLeft, inRight⟩ := List.forall_mem_append.1 (inside same)
        exact List.forall_mem_append.2 ⟨inLeft, List.forall_mem_cons.2 ⟨same, inRight⟩⟩
      have oneRun := Expression.runs_uniform inner [(join j left right).first] (join j left right).steps
        (by rwa [← joiners_eq_steps])
      rw [value_uniform result uniform, oneRun, Joiner.across_singleton, conditions_eq_steps]
      rfl
    · -- The other joiner ends the last run on its left.
      rw [value, ihLeft bindsLeft, ihRight bindsRight, Joiner.eq_other_of_ne same, first, steps,
        Expression.runs_append_other, Joiner.across_append]

/-- Brackets a run from the left, where `sofar` is what the joiner `inner` has joined up to here. -/
def ofSteps (inner : Joiner) (sofar : Bracketing γ) : List (Joiner × γ) → Bracketing γ
  | [] => sofar
  | (j, c) :: rest =>
    if j = inner then ofSteps inner (join j sofar (single c)) rest else join j sofar (ofSteps inner (single c) rest)

theorem ofSteps_spec (inner : Joiner) {sofar : Bracketing γ} (uniform : ∀ j ∈ sofar.joiners, j = inner)
    (binds : sofar.BindsTighter inner) (rest : List (Joiner × γ)) :
    (ofSteps inner sofar rest).BindsTighter inner ∧ (ofSteps inner sofar rest).first = sofar.first ∧
      (ofSteps inner sofar rest).steps = sofar.steps ++ rest := by
  fun_induction ofSteps inner sofar rest with
  | case1 => exact ⟨binds, rfl, (List.append_nil _).symm⟩
  | case2 sofar c rest ih =>
    have grown : ∀ k ∈ (join inner sofar (single c)).joiners, k = inner :=
      List.forall_mem_append.2 ⟨uniform, List.forall_mem_singleton.2 rfl⟩
    have bindsGrown : (join inner sofar (single c)).BindsTighter inner :=
      ⟨binds, trivial, fun _ => List.forall_mem_append.2 ⟨uniform, List.forall_mem_nil _⟩⟩
    obtain ⟨tight, front, behind⟩ := ih grown bindsGrown
    exact ⟨tight, front, by simp [behind, steps, first]⟩
  | case3 sofar j c rest different ih =>
    obtain ⟨tight, front, behind⟩ := ih (List.forall_mem_nil _) trivial
    exact ⟨⟨binds, tight, fun same => absurd same different⟩, rfl, by simp [behind, front, steps, first]⟩

theorem exists_bindsTighter (inner : Joiner) (c : γ) (rest : List (Joiner × γ)) :
    ∃ t : Bracketing γ, t.BindsTighter inner ∧ t.first = c ∧ t.steps = rest := by
  have alone : ∀ j ∈ (single c).joiners, j = inner := List.forall_mem_nil _
  obtain ⟨tight, front, behind⟩ := ofSteps_spec inner alone trivial rest
  exact ⟨ofSteps inner (single c) rest, tight, front, behind⟩

end Bracketing

namespace Expression

/-- Folding loses nothing, and means that the first joiner binds tighter. The groups are not empty, hold the conditions in
order and are joined inside by the first joiner; the other one joins several groups, and written out the joiners are those
of the run, so that no two runs have one fold. Where no condition faults, the fold holds as every bracketing of the run
does in which the first joiner binds tighter. -/
theorem fold_keeps_run {γ : Type} {cs : List γ} {js : List Joiner} (nonempty : cs ≠ [])
    (balance : js.length = cs.length - 1) :
    (∀ g ∈ (fold cs js).groups, g.conditions ≠ [] ∧ g.joiner = Joiner.tighter js) ∧
    (fold cs js).conditions = cs ∧
    (1 < (fold cs js).groups.length → (fold cs js).joiner = (Joiner.tighter js).other) ∧
    (fold cs js).joiners = js ∧
    (∀ cs' js', cs' ≠ [] → js'.length = cs'.length - 1 → fold cs' js' = fold cs js → cs' = cs ∧ js' = js) ∧
    ∀ (meets : γ → Except Fault Bool) (result : γ → Bool), (∀ c ∈ cs, meets c = .ok (result c)) →
      (∃ t : Bracketing γ, t.conditions = cs ∧ t.joiners = js ∧ t.BindsTighter (Joiner.tighter js)) ∧
      ∀ t : Bracketing γ, t.conditions = cs → t.joiners = js → t.BindsTighter (Joiner.tighter js) →
        (fold cs js).pass meets = .ok (t.value result) := by
  obtain ⟨first, steps, rfl, rfl⟩ := exists_steps nonempty balance
  have shape := fold_steps first steps rfl
  refine ⟨?_, conditions_fold_steps first steps, ?_, joiners_fold_steps first steps, ?_, ?_⟩
  · rw [shape]
    intro g member
    obtain ⟨run, inRuns, rfl⟩ := List.mem_map.1 member
    exact ⟨ne_nil_of_mem_runs _ _ (List.cons_ne_nil _ _) run inRuns, rfl⟩
  · rw [shape]
    intro several
    refine if_neg fun uniform => ?_
    simp [runs_uniform _ _ _ uniform] at several
  · intro cs' js' nonempty' balance' same
    obtain ⟨first', steps', rfl, rfl⟩ := exists_steps nonempty' balance'
    refine ⟨?_, ?_⟩
    · rw [← conditions_fold_steps first' steps', same, conditions_fold_steps]
    · rw [← joiners_fold_steps first' steps', same, joiners_fold_steps]
  · intro meets result known
    rw [← conditions_fold_steps first steps] at known
    refine ⟨?_, ?_⟩
    · obtain ⟨t, binds, front, behind⟩ := Bracketing.exists_bindsTighter (Joiner.tighter (steps.map Prod.fst)) first steps
      refine ⟨t, ?_, ?_, binds⟩
      · rw [t.conditions_eq_steps, front, behind]
      · rw [t.joiners_eq_steps, behind]
    · intro t sameConditions sameJoiners binds
      rw [t.conditions_eq_steps, List.cons.injEq] at sameConditions
      rw [t.joiners_eq_steps] at sameJoiners
      -- A bracketing enters by its first condition and its steps alone, and these are the ones of the run.
      have sameSteps : t.steps = steps := by
        rw [← List.zip_unzip t.steps, List.unzip_eq_map, sameJoiners, sameConditions.2, ← List.unzip_eq_map,
          List.zip_unzip]
      rw [pass_eq_ok known, value_fold_steps first steps result rfl, binds.value_eq result, sameConditions.1, sameSteps]

/-- A run that the first joiner makes false: the other binding would make it true. -/
theorem fold_keeps_run_or :
    let now : Timestamp := ⟨⟨0, by decide⟩, none⟩
    let task := Value.dict [("done", .bool true), ("priority", .int 1), ("title", .str "rest")]
    let done : Condition := ⟨.done, .equal, .one (.bool true)⟩
    let urgent : Condition := ⟨.priority, .greaterEqual, .one (.int 3)⟩
    let work : Condition := ⟨.title, .like, .one (.str "work")⟩
    let tight := Bracketing.join .and (.join .or (.single done) (.single urgent)) (.single work)
    let loose := Bracketing.join .or (.single done) (.join .and (.single urgent) (.single work))
    let result := fun c => decide (c = done)
    fold [done, urgent, work] [.or, .and] = ⟨[⟨[done, urgent], .or⟩, ⟨[work], .or⟩], .and⟩ ∧
      (∀ c ∈ [done, urgent, work], c.holds now task = .ok (result c)) ∧ tight.BindsTighter .or ∧
      (fold [done, urgent, work] [.or, .and]).holds now task = .ok (tight.value result) ∧
      tight.value result = false ∧ loose.value result = true := by
  intro now task done urgent work tight loose result
  have balance : [Joiner.or, Joiner.and].length = [done, urgent, work].length - 1 := rfl
  have known : ∀ c ∈ [done, urgent, work], c.holds now task = .ok (result c) := by
    refine List.forall_mem_cons.2 ⟨?_, List.forall_mem_cons.2 ⟨?_, List.forall_mem_singleton.2 ?_⟩⟩
    all_goals exact by decide +kernel
  have binds : tight.BindsTighter .or := ⟨⟨trivial, trivial, by decide⟩, trivial, by decide⟩
  have kept := fold_keeps_run (List.cons_ne_nil done [urgent, work]) balance
  have meets := (kept.2.2.2.2.2 (fun c => c.holds now task) result known).2 tight rfl rfl binds
  exact ⟨by decide, known, binds, meets, by decide, by decide⟩

end Expression

end TaskQuery
