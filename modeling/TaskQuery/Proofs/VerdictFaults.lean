import TaskQuery.Proofs.MatchFaults
import TaskQuery.Proofs.TotalReading

namespace TaskQuery

namespace DateLiteral

variable {now : Timestamp} {s : String}

/-- The timestamp of a date literal that is an ISO date. -/
def literalTimestamp? (s : String) : Option Timestamp :=
  match read? s with
  | some (iso text) => isoTimestamp? text
  | _ => none

theorem isoInstant_eq_error_iff {fault : Fault} :
    isoInstant s = .error fault ↔ (∃ t, isoTimestamp? s = some t ∧ t.BeyondCalendar) ∧ fault = .instantOutOfRange := by
  rw [isoInstant_eq]
  cases read : isoTimestamp? s with
  | none => simp
  | some t =>
    rw [Option.elim_some, Outcome.map_eq_error, instantOf_eq_error_iff]
    simp

/-- A date literal has no answer exactly if it is an ISO date outside the calendar. -/
theorem resolve_eq_error_iff (reached : ¬now.BeyondCalendar) {fault : Fault} :
    resolve now s = .error fault ↔ (∃ t, literalTimestamp? s = some t ∧ t.BeyondCalendar) ∧ fault = .instantOutOfRange := by
  rw [resolve, literalTimestamp?]
  cases read? s with
  | none => simp
  | some literal =>
    cases literal with
    | iso text =>
      show isoInstant text = .error fault ↔ (∃ t, isoTimestamp? text = some t ∧ t.BeyondCalendar) ∧ _
      exact isoInstant_eq_error_iff
    | relative step =>
      refine iff_of_false (fun failed => ?_) ?_
      · exact reached (instantOf_eq_error_iff.1 (Outcome.map_eq_error.1 failed)).1
      · rintro ⟨⟨_, found, _⟩, _⟩
        cases found

theorem isResolvable_eq_error_iff (reached : ¬now.BeyondCalendar) {fault : Fault} :
    isResolvable now s = .error fault ↔
      (∃ t, literalTimestamp? s = some t ∧ t.BeyondCalendar) ∧ fault = .instantOutOfRange := by
  rw [isResolvable, Outcome.map_eq_error, resolve_eq_error_iff reached]

end DateLiteral

namespace Check

section Faults

variable {limits : Limits} {now : Timestamp}

end Faults

end Check

namespace Query

variable {limits? : Option Limits} {now : Timestamp} {s : String}

end Query

end TaskQuery
