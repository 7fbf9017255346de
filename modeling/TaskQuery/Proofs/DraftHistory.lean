import TaskQuery.Check.Expression
import TaskQuery.Proofs.DraftRun

namespace TaskQuery

namespace Draft

/-- What is asked of a draft. -/
inductive Request where
  | change (s : Step)
  | build
  | check (limits : Limits) (now : Timestamp)
  | write

/-- What a request gives. -/
inductive Reply where
  | done
  | filter (e : Filter)
  | verdict (v : Verdict)
  | text (written : String)

/-- A step on the parts of a draft. -/
def performStep : Step → EStateM DraftError Draft Unit
  | .compare field operator value => do
    let c ← MonadExcept.ofExcept (condition field operator value)
    unless (← get).conditions.isEmpty do
      modify fun d => { d with joiners := d.joiners ++ [d.pending] }
    modify fun d => { d with conditions := d.conditions ++ [c] }
    modify fun d => { d with pending := .and }
  | .joinByAnd => modify fun d => { d with pending := .and }
  | .joinByOr => do
    if (← get).conditions.isEmpty then
      throw .nothingToJoin
    modify fun d => { d with pending := .or }

/-- A question to a draft, which may have no answer. -/
def ask {α : Type} (answer : Draft → Except Fault α) : EStateM DraftError Draft α := do
  MonadExcept.ofExcept ((answer (← get)).mapError .fault)

def perform : Request → EStateM DraftError Draft Reply
  | .change s => do
    performStep s
    return .done
  | .build => return .filter (← get).build
  | .check limits now => return .verdict (← ask fun d => Check.filterVerdict limits now d.build)
  | .write => return .text (← ask written)

/-- The draft after some requests. -/
def session (d : Draft) : List Request → Draft
  | [] => d
  | r :: rs =>
    match (perform r).run d with
    | .ok _ next | .error _ next => session next rs

/-- The requests that succeed, of some requests one after the other. -/
def served (d : Draft) : List Request → List Request
  | [] => []
  | r :: rs =>
    match (perform r).run d with
    | .ok _ next => r :: served next rs
    | .error _ next => served next rs

theorem run_ofExcept {ε σ α : Type} (x : Except ε α) (s : σ) :
    (MonadExcept.ofExcept x : EStateM ε σ α).run s =
      match x with
      | .ok a => .ok a s
      | .error e => .error e s := by
  cases x <;> rfl

theorem ask_run {α : Type} (answer : Draft → Except Fault α) (d : Draft) :
    (ask answer).run d =
      match answer d with
      | .ok a => .ok a d
      | .error f => .error (.fault f) d := by
  rw [ask, EStateM.run_bind, EStateM.run_get]
  dsimp only
  rw [run_ofExcept]
  cases answer d <;> rfl

/-- A question leaves the draft as it is, whether or not it has an answer. -/
theorem eq_of_ask {α : Type} {answer : Draft → Except Fault α} {reply : α → Reply} {d next : Draft} :
    (∀ given, (do return reply (← ask answer)).run d = .ok given next → next = d) ∧
      ∀ e, (do return reply (← ask answer)).run d = .error e next → next = d := by
  rw [EStateM.run_bind, ask_run]
  cases answer d with
  | ok a => exact ⟨fun _ same => by cases same; rfl, nofun⟩
  | error f => exact ⟨nofun, fun _ same => by cases same; rfl⟩

/-- Set one after the other, the parts of a draft become those of the draft after the step; a refusal comes before the first
of them is set. -/
theorem performStep_run (s : Step) (d : Draft) :
    (performStep s).run d =
      match d.step s with
      | .ok next => .ok () next
      | .error e => .error e d := by
  cases s with
  | compare field operator value =>
    simp only [performStep, step, compare, EStateM.run_bind, run_ofExcept]
    cases condition field operator value with
    | error e => rfl
    | ok c =>
      by_cases first : d.conditions.isEmpty
      · simp [first, add, Except.map]
      · simp [first, add, Except.map]
  | joinByAnd => rfl
  | joinByOr =>
    obtain ⟨conditions, joiners, pending⟩ := d
    cases conditions <;> rfl

/-- A request that is refused leaves the draft as it was. -/
theorem perform_refused {d d' : Draft} {r : Request} {e : DraftError} (refused : (perform r).run d = .error e d') :
    d' = d := by
  cases r with
  | change s =>
    rw [perform, EStateM.run_bind, performStep_run] at refused
    cases found : d.step s with
    | ok next =>
      rw [found] at refused
      cases refused
    | error e =>
      rw [found] at refused
      cases refused
      rfl
  | build => cases refused
  | check limits now => exact eq_of_ask.2 e refused
  | write => exact eq_of_ask.2 e refused

namespace Request

/-- Whether a condition is to be added. -/
def isCompare : Request → Bool
  | change (.compare _ _ _) => true
  | _ => false

/-- The condition that is to be added, if its parts are accepted. -/
def condition? : Request → Option Condition
  | change (.compare field operator value) => (condition field operator value).toOption
  | _ => none

/-- The joiner that is asked for before the next condition. -/
def joiner? : Request → Option Joiner
  | change .joinByAnd => some .and
  | change .joinByOr => some .or
  | _ => none

end Request

/-- The joiner that the last request for one asks for; *and*, where there is none. -/
def lastJoiner (rs : List Request) : Joiner :=
  (rs.filterMap Request.joiner?).getLast?.getD .and

/-- The effect of a request that succeeds: it adds its condition, sets the joiner before the next one, or leaves the draft as
it is. -/
theorem perform_served {d next : Draft} {r : Request} {reply : Reply} (served : (perform r).run d = .ok reply next) :
    (∃ c, r.isCompare = true ∧ r.condition? = some c ∧ next = d.add c) ∨
      (∃ j, r.isCompare = false ∧ r.condition? = none ∧ r.joiner? = some j ∧ next = { d with pending := j }) ∨
        (r.isCompare = false ∧ r.condition? = none ∧ r.joiner? = none ∧ next = d) := by
  cases r with
  | change s =>
    rw [perform, EStateM.run_bind, performStep_run] at served
    cases s with
    | compare field operator value =>
      cases found : condition field operator value with
      | ok c =>
        simp only [step, compare, found, Except.map] at served
        cases served
        exact .inl ⟨c, rfl, by rw [Request.condition?, found]; rfl, rfl⟩
      | error e =>
        simp only [step, compare, found, Except.map] at served
        cases served
    | joinByAnd =>
      cases served
      exact .inr (.inl ⟨.and, rfl, rfl, rfl, rfl⟩)
    | joinByOr =>
      obtain ⟨conditions, joiners, pending⟩ := d
      cases conditions with
      | nil => cases served
      | cons =>
        cases served
        exact .inr (.inl ⟨.or, rfl, rfl, rfl, rfl⟩)
  | build =>
    cases served
    exact .inr (.inr ⟨rfl, rfl, rfl, rfl⟩)
  | check limits now => exact .inr (.inr ⟨rfl, rfl, rfl, eq_of_ask.1 reply served⟩)
  | write => exact .inr (.inr ⟨rfl, rfl, rfl, eq_of_ask.1 reply served⟩)

/-- What the requests that succeeded tell about a draft. A joiner is told by the requests between two neighbouring
conditions, and the pending one by those behind the last condition. -/
structure Recorded (done : List Request) (d : Draft) : Prop where
  conditions : d.conditions = done.filterMap Request.condition?
  size : d.conditions.length = done.countP Request.isCompare
  joiners : d.joiners.length = d.conditions.length - 1
  pending : ∀ before first behind, done = before ++ first :: behind → first.isCompare = true →
    (∀ r ∈ behind, r.isCompare = false) → d.pending = lastJoiner behind
  joined : ∀ before first between second later, done = before ++ first :: (between ++ second :: later) →
    first.isCompare = true → second.isCompare = true → (∀ r ∈ between, r.isCompare = false) →
    d.joiners[before.countP Request.isCompare]? = some (lastJoiner between)

theorem lastJoiner_concat (rs : List Request) (r : Request) :
    lastJoiner (rs ++ [r]) = r.joiner?.getD (lastJoiner rs) := by
  cases asked : r.joiner? with
  | none => simp [lastJoiner, asked]
  | some j => simp [lastJoiner, asked]

theorem recorded_empty : Recorded [] empty where
  conditions := rfl
  size := rfl
  joiners := rfl
  pending := fun before _ _ none => by cases before <;> cases none
  joined := fun before _ _ _ _ none => by cases before <;> cases none

/-- Where a row with one more member behind it is split at a member, the split is at the new member or the new member stands
last behind it. -/
theorem split_concat {α : Type} {row before behind : List α} {new first : α}
    (split : row ++ [new] = before ++ first :: behind) :
    (behind = [] ∧ row = before ∧ new = first) ∨ ∃ rest, behind = rest ++ [new] ∧ row = before ++ first :: rest := by
  rcases List.eq_nil_or_concat behind with rfl | ⟨rest, last, rfl⟩
  · obtain ⟨rfl, last⟩ := List.append_inj' split rfl
    cases last
    exact .inl ⟨rfl, rfl, rfl⟩
  · rw [List.concat_eq_append, ← List.cons_append, ← List.append_assoc] at split
    obtain ⟨rfl, last⟩ := List.append_inj' split rfl
    cases last
    exact .inr ⟨rest, by rw [List.concat_eq_append], rfl⟩

section Recorded

variable {done : List Request} {d : Draft} {r : Request}

theorem Recorded.add (recorded : Recorded done d) {c : Condition} (compares : r.isCompare = true)
    (accepted : r.condition? = some c) : Recorded (done ++ [r]) (d.add c) where
  conditions := by
    rw [List.filterMap_append, ← recorded.conditions]
    simp [accepted, Draft.add]
  size := by
    rw [List.countP_append, ← recorded.size]
    simp [compares, Draft.add]
  joiners := by
    have holds : Holds (fun _ => True) d := ⟨fun _ _ => trivial, recorded.joiners⟩
    exact (holds.add trivial).joiners
  pending := by
    intro before first behind split _ others
    rcases split_concat split with ⟨rfl, -, -⟩ | ⟨rest, rfl, -⟩
    · rfl
    · have := others r (List.mem_append_right rest (List.mem_singleton_self r))
      rw [compares] at this
      cases this
  joined := by
    intro before first between second later split comparesFirst comparesSecond others
    rw [← List.cons_append, ← List.append_assoc] at split
    rcases split_concat split with ⟨-, rfl, -⟩ | ⟨rest, -, earlier⟩
    · -- The new condition is the second one, and what was pending joins it to the first.
      have pending := recorded.pending before first between rfl comparesFirst others
      have none : between.countP Request.isCompare = 0 := List.countP_eq_zero.2 fun r member => by simp [others r member]
      have size : d.conditions.length = before.countP Request.isCompare + 1 := by
        rw [recorded.size, List.countP_append, List.countP_cons, comparesFirst, none]
        rfl
      have some : d.conditions.isEmpty = false :=
        List.isEmpty_eq_false_iff.2 (List.ne_nil_of_length_eq_add_one size)
      have last : before.countP Request.isCompare = d.joiners.length := by
        rw [recorded.joiners, size, Nat.add_sub_cancel]
      rw [Draft.add, some, last, pending]
      simp
    · rw [List.append_assoc, List.cons_append] at earlier
      have known := recorded.joined before first between second rest earlier comparesFirst comparesSecond others
      have within := (List.getElem?_eq_some_iff.1 known).1
      rw [Draft.add]
      split
      · exact known
      · rw [List.getElem?_append_left within]
        exact known

/-- A request that adds no condition may change what is pending, and nothing else. -/
theorem Recorded.pass (recorded : Recorded done d) (quiet : r.isCompare = false) (none : r.condition? = none) :
    Recorded (done ++ [r]) { d with pending := r.joiner?.getD d.pending } where
  conditions := by
    rw [List.filterMap_append, ← recorded.conditions]
    simp [none]
  size := by
    rw [List.countP_append, ← recorded.size]
    simp [quiet]
  joiners := recorded.joiners
  pending := by
    intro before first behind split compares others
    rcases split_concat split with ⟨rfl, -, rfl⟩ | ⟨rest, rfl, earlier⟩
    · rw [quiet] at compares
      cases compares
    · rw [lastJoiner_concat, recorded.pending before first rest earlier compares]
      exact fun r member => others r (List.mem_append_left _ member)
  joined := by
    intro before first between second later split comparesFirst comparesSecond others
    rw [← List.cons_append, ← List.append_assoc] at split
    rcases split_concat split with ⟨-, -, rfl⟩ | ⟨rest, -, earlier⟩
    · rw [quiet] at comparesSecond
      cases comparesSecond
    · rw [List.append_assoc, List.cons_append] at earlier
      exact recorded.joined before first between second rest earlier comparesFirst comparesSecond others

theorem Recorded.served {next : Draft} {reply : Reply} (recorded : Recorded done d)
    (served : (perform r).run d = .ok reply next) : Recorded (done ++ [r]) next := by
  rcases perform_served served with ⟨c, compares, accepted, rfl⟩ | ⟨j, quiet, none, asked, rfl⟩ | ⟨quiet, none, silent, rfl⟩
  · exact recorded.add compares accepted
  · have passed := recorded.pass quiet none
    rwa [asked] at passed
  · have passed := recorded.pass quiet none
    rwa [silent] at passed

/-- A session keeps what is told about its draft. -/
theorem Recorded.session (recorded : Recorded done d) (rs : List Request) :
    Recorded (done ++ Draft.served d rs) (d.session rs) := by
  induction rs generalizing done d with
  | nil => simpa [Draft.served, Draft.session] using recorded
  | cons r rs ih =>
    cases found : (perform r).run d with
    | ok reply next =>
      have later := ih (recorded.served found)
      simpa [Draft.served, Draft.session, found] using later
    | error e next =>
      have later := ih (perform_refused found ▸ recorded)
      simpa [Draft.served, Draft.session, found] using later

end Recorded

theorem lastJoiner_eq_or_iff {rs : List Request} :
    lastJoiner rs = .or ↔ (rs.filterMap Request.joiner?).getLast? = some .or := by
  unfold lastJoiner
  cases (rs.filterMap Request.joiner?).getLast? with
  | none => simp
  | some j => simp

/-- What a session makes of an empty draft: its conditions are those of the comparisons that succeeded, in order, and there
is one joiner fewer. Two neighbouring conditions are joined by *or* exactly if the last request for a joiner that succeeded
between them asked for it. A request that is refused leaves any draft as it was. -/
theorem session_history (rs : List Request) :
    (empty.session rs).conditions = (empty.served rs).filterMap Request.condition? ∧
    (empty.session rs).size = (empty.served rs).countP Request.isCompare ∧
    (empty.session rs).joiners.length = (empty.session rs).size - 1 ∧
    (∀ before first between second later, empty.served rs = before ++ first :: (between ++ second :: later) →
      first.isCompare = true → second.isCompare = true → (∀ r ∈ between, r.isCompare = false) →
      ∃ j, (empty.session rs).joiners[before.countP Request.isCompare]? = some j ∧
        (j = .or ↔ (between.filterMap Request.joiner?).getLast? = some .or)) ∧
    ∀ (d d' : Draft) (r : Request) (e : DraftError), (perform r).run d = .error e d' → d' = d := by
  have recorded := recorded_empty.session rs
  rw [List.nil_append] at recorded
  refine ⟨recorded.conditions, recorded.size, recorded.joiners, ?_, fun _ _ _ _ => perform_refused⟩
  intro before first between second later split comparesFirst comparesSecond others
  exact ⟨_, recorded.joined before first between second later split comparesFirst comparesSecond others,
    lastJoiner_eq_or_iff⟩

/-- A draft that is asked for *or* before its first condition, and twice for a joiner behind it, with refused comparisons in
between. -/
theorem session_history_refused :
    let title : Request := .change (.compare "title" (.str "LIKE") (.str "a"))
    let noValue : Request := .change (.compare "done" (.str "=") .null)
    let labels : Request := .change (.compare "labels" (.str "in") (.list [.int 4]))
    let rs : List Request :=
      [.change .joinByOr, title, noValue, .change .joinByAnd, .write, .change .joinByOr, noValue, .build, labels]
    empty.served rs = [title, .change .joinByAnd, .write, .change .joinByOr, .build, labels] ∧
      (empty.session rs).joiners[0]? = some .or ∧ (empty.session rs).size = 2 ∧
      ∃ d', (perform noValue).run (empty.session [title]) = .error .noValue d' ∧ d' = empty.session [title] := by
  intro title noValue labels rs
  let between : List Request := [.change .joinByAnd, .write, .change .joinByOr, .build]
  have served : empty.served rs = [] ++ title :: (between ++ labels :: []) := by rfl
  obtain ⟨-, size, -, joined, kept⟩ := session_history rs
  obtain ⟨j, found, asked⟩ := joined [] title between labels [] served rfl rfl (by decide)
  rw [served] at size
  cases asked.2 rfl
  obtain ⟨d', refused⟩ : ∃ d', (perform noValue).run (empty.session [title]) = .error .noValue d' := ⟨_, rfl⟩
  exact ⟨served, found, size, d', refused, kept _ _ _ _ refused⟩

end Draft

end TaskQuery
