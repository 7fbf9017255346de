import TaskQuery.Outcome
import TaskQuery.Query.Run

namespace TaskQuery.Query

/-- What is found out about a text before any task is looked at. -/
inductive Judgement where
  | refused (problem : Problem)
  | malformed (e : SyntaxError)
  | fault (f : Fault)
  | judged (e : Filter) (v : Verdict)

/-- The judgement of a filter that was read. -/
def judgeFilter (limits? : Option Limits) (clock : Timestamp) (e : Filter) : Judgement :=
  match Check.filterVerdict (limitsFor limits? e) clock e with
  | .error f => .fault f
  | .ok v => .judged e v

/-- The judgement of a text that passes the checks of a text. -/
def judgeText (limits? : Option Limits) (clock : Timestamp) (s : String) : Judgement :=
  match Filter.read s with
  | .error (.malformed e) => .malformed e
  | .error (.tooManyDigits count) => .fault (.tooManyDigits count)
  | .ok e => judgeFilter limits? clock e

/-- The judgement of a value as filter text. -/
def judge (limits? : Option Limits) (clock : Timestamp) (text : Value) : Judgement :=
  match Check.textProblem? maxFilterLength text, text with
  | .error f, _ => .fault f
  | .ok (some problem), _ => .refused problem
  | .ok none, .str s => judgeText limits? clock s
  | .ok none, _ => .refused .notText

namespace Judgement

/-- The examination that a judgement amounts to. -/
def examination : Judgement → Except Fault Examination
  | refused problem => .ok (.failed problem)
  | malformed e => .ok (.failed (.syntaxError e))
  | fault f => .error f
  | judged e v => .ok ⟨some e, v⟩

/-- The run that a judgement leads to. -/
def run {α : Type} (view : α → Value) (now : Timestamp) (tasks : List α) : Judgement → Run α
  | refused problem => .refused (.invalid (.ofProblems [problem]))
  | malformed e => .refused (.malformed e)
  | fault f => .refused (.fault f)
  | judged e v => runVerdict view now tasks e v

end Judgement

theorem orRefuse_ne_invalid {α : Type} (result : Except Fault α) (v : Verdict) :
    orRefuse result ≠ .error (.invalid v) := by
  intro eq
  cases result <;> cases eq

theorem orRefuse_ne_malformed {α : Type} (result : Except Fault α) (e : SyntaxError) :
    orRefuse result ≠ .error (.malformed e) := by
  intro eq
  cases result <;> cases eq

section Agreement

variable (limits? : Option Limits) (clock : Timestamp) (text : Value)

theorem examine_eq_judge : examine limits? clock text = (judge limits? clock text).examination := by
  cases text with
  | str s =>
    rcases problem : Check.textProblem? maxFilterLength (.str s) with f | _ | problem'
    · simp only [examine, judge, problem, Judgement.examination]
    · simp only [examine, judge, problem, judgeText]
      cases Filter.read s with
      | error failure => cases failure <;> rfl
      | ok e =>
        simp only [judgeFilter]
        cases Check.filterVerdict (limitsFor limits? e) clock e <;> rfl
    · simp only [examine, judge, problem, Judgement.examination]
  | _ => rfl

theorem run_eq_judge {α : Type} (view : α → Value) (now : Timestamp) (tasks : List α) :
    run limits? view clock now tasks text = (judge limits? clock text).run view now tasks := by
  cases text with
  | str s =>
    rcases problem : Check.textProblem? maxFilterLength (.str s) with f | _ | problem'
    · simp only [run, judge, problem, Judgement.run]
    · simp only [run, judge, problem, judgeText]
      cases Filter.read s with
      | error failure => cases failure <;> rfl
      | ok e =>
        simp only [runFilter, judgeFilter]
        cases Check.filterVerdict (limitsFor limits? e) clock e <;> rfl
    · simp only [run, judge, problem, Judgement.run]
  | _ => rfl

variable {limits? clock text}

theorem judgeText_eq_malformed_iff {s : String} {e : SyntaxError} :
    judgeText limits? clock s = .malformed e ↔ Filter.read s = .error (.malformed e) := by
  unfold judgeText
  cases Filter.read s with
  | error failure => cases failure <;> simp
  | ok e' =>
    simp only [judgeFilter]
    cases Check.filterVerdict (limitsFor limits? e') clock e' <;> simp

/-- A text is judged malformed exactly if it passes the checks of a text and is no filter. -/
theorem judge_eq_malformed_iff {e : SyntaxError} :
    judge limits? clock text = .malformed e ↔
      Check.textProblem? maxFilterLength text = .ok none ∧ ∃ s, text = .str s ∧ Filter.read s = .error (.malformed e) := by
  cases text with
  | str s =>
    rcases problem : Check.textProblem? maxFilterLength (.str s) with f | _ | problem'
    · simp [judge, problem]
    · simp [judge, problem, judgeText_eq_malformed_iff]
    · simp [judge, problem]
  | _ => simp [judge, Check.textProblem?]

variable (limits? clock text)

/-- Examinations and runs agree on every text, whatever the tasks are. A valid text is run as its filter; a text that is no
filter is refused with the syntax error that the examination reports with its position; any other invalid text is refused
with the verdict of the examination, and a fault is the same in both. -/
theorem run_agrees_examine {α : Type} (view : α → Value) (now : Timestamp) (tasks : List α) :
    (∀ x, examine limits? clock text = .ok x → x.verdict.isValid = true →
      (∃ e, x.filter? = some e ∧ run limits? view clock now tasks text =
        ⟨x.verdict.warnings, orRefuse (select (fun task => e.holds now (view task)) tasks)⟩) ∧
      (∀ v, (run limits? view clock now tasks text).matched ≠ .error (.invalid v)) ∧
      ∀ e, (run limits? view clock now tasks text).matched ≠ .error (.malformed e)) ∧
    (∀ s e, text = .str s → Check.textProblem? maxFilterLength text = .ok none → Filter.read s = .error (.malformed e) →
      (run limits? view clock now tasks text).matched = .error (.malformed e) ∧
      ∃ x, examine limits? clock text = .ok x ∧
        x.verdict.errors = [e.message ++ " (position " ++ toString e.position ++ ")"]) ∧
    (∀ x, examine limits? clock text = .ok x → x.verdict.isValid = false →
      (∀ s e, text = .str s → Check.textProblem? maxFilterLength text = .ok none → Filter.read s ≠ .error (.malformed e)) →
      run limits? view clock now tasks text = ⟨x.verdict.warnings, .error (.invalid x.verdict)⟩) ∧
    ∀ f, examine limits? clock text = .error f →
      (run limits? view clock now tasks text).matched = .error (.fault f) := by
  rw [run_eq_judge, examine_eq_judge]
  refine ⟨?_, ?_, ?_, ?_⟩
  · intro x examined valid
    cases judged : judge limits? clock text with
    | judged e v =>
      rw [judged] at examined
      cases examined
      have selected : Judgement.run view now tasks (.judged e v) =
          ⟨v.warnings, orRefuse (select (fun task => e.holds now (view task)) tasks)⟩ := by
        simp only [Judgement.run, runVerdict, valid, if_true]
      rw [selected]
      exact ⟨⟨e, rfl, rfl⟩, orRefuse_ne_invalid _, orRefuse_ne_malformed _⟩
    | refused | malformed =>
      rw [judged] at examined
      cases examined
      cases valid
    | fault =>
      rw [judged] at examined
      cases examined
  · intro s e same passed read
    have malformed : judge limits? clock text = .malformed e := judge_eq_malformed_iff.2 ⟨passed, s, same, read⟩
    rw [malformed]
    exact ⟨rfl, _, rfl, rfl⟩
  · intro x examined invalid wellFormed
    cases judged : judge limits? clock text with
    | judged e v =>
      rw [judged] at examined
      cases examined
      simp only [Judgement.run, runVerdict, invalid, Bool.false_eq_true, if_false]
    | refused problem =>
      rw [judged] at examined
      cases examined
      rfl
    | malformed e =>
      obtain ⟨passed, s, same, read⟩ := judge_eq_malformed_iff.1 judged
      exact absurd read (wellFormed s e same passed)
    | fault =>
      rw [judged] at examined
      cases examined
  · intro f failed
    cases judged : judge limits? clock text with
    | fault f' =>
      rw [judged] at failed
      cases failed
      rfl
    | _ =>
      rw [judged] at failed
      cases failed

end Agreement

/-- A valid text over two tasks, an empty text, and a value that is no text. -/
theorem run_agrees_examine_done :
    let clock : Timestamp := ⟨⟨0, by decide⟩, none⟩
    let tasks := [Value.dict [("done", .bool true)], .dict [("done", .bool false)]]
    let text := Value.str "done = true"
    examine none clock text = .ok ⟨some ⟨[⟨[⟨.done, .equal, .one (.bool true)⟩], .and⟩], .and⟩, ⟨[], []⟩⟩ ∧
      run none id clock clock tasks text = ⟨[], .ok [.dict [("done", .bool true)]]⟩ ∧
      (run none id clock clock tasks (.str "")).matched = .error (.malformed .empty) ∧
      run none id clock clock tasks .null = ⟨[], .error (.invalid ⟨[.notText], []⟩)⟩ := by
  intro clock tasks text
  have examined := Outcome.eq_ok_of_toOption (x := examine none clock text)
    (a := ⟨some ⟨[⟨[⟨.done, .equal, .one (.bool true)⟩], .and⟩], .and⟩, ⟨[], []⟩⟩) (by decide +kernel)
  have agree (text : Value) := run_agrees_examine none clock text id clock tasks
  refine ⟨examined, ?_, ?_, ?_⟩
  · obtain ⟨e, found, outcome⟩ := ((agree text).1 _ examined rfl).1
    have selected := Outcome.eq_ok_of_toOption (x := select (fun task => e.holds clock (id task)) tasks)
      (a := [.dict [("done", .bool true)]]) (by cases found; decide +kernel)
    rw [outcome, selected]
    rfl
  · exact ((agree (.str "")).2.1 "" .empty rfl rfl rfl).1
  · exact (agree .null).2.2.1 _ rfl rfl (fun _ _ isText => by cases isText)

end TaskQuery.Query
