import Std.Time.DateTime.Timestamp
import TaskQuery.CommandLine.Session
import TaskQuery.Record.Timestamp

namespace TaskQuery.CommandLine

/-- The current time; a clock outside the years 1 to 9999 shows the beginning of year 1. -/
def currentTime : IO Timestamp := do
  let now ← Std.Time.Timestamp.now
  let micros := now.toNanosecondsSinceUnixEpoch.val / 1000 + (Admission.epochSeconds * secondMicros : Nat)
  return .utc ((Moment.ofMicros? micros).getD (.midnight ⟨0, by decide⟩))

/-- The standard input, if a command line needs it. -/
def inputFor (args : List String) : IO String := do
  match Invocation.read args with
  | some invocation => if invocation.readsInput then (← IO.getStdin).readToEnd else return ""
  | none => return ""

def print (r : Reply) : IO UInt32 := do
  IO.print r.output
  IO.eprint r.errors
  return r.exitCode.toUInt32

/-- Answers a command line; what cannot be answered leaves with code 1. -/
def run (args : List String) : IO UInt32 := do
  match answer (← currentTime) args (← inputFor args) with
  | .ok r => print r
  | .error f =>
    IO.eprintln (f.message?.getD "The input cannot be processed.")
    return 1

end TaskQuery.CommandLine

def main (args : List String) : IO UInt32 :=
  TaskQuery.CommandLine.run args
