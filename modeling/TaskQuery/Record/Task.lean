import TaskQuery.Record.Timestamp

namespace TaskQuery

/-- A person related to a task. -/
structure TaskUser where
  id : Int
  username : Option String
  name : Option String
  deriving DecidableEq

/-- A label of a task. -/
structure TaskLabel where
  id : Int
  title : Option String
  deriving DecidableEq

/-- A date as a task holds it: a timestamp, or a text that is kept as it is. -/
inductive TaskDate where
  | timestamp (t : Timestamp)
  | text (s : String)
  deriving DecidableEq

/-- A task: the attributes that filters look at. What else a task holds is passed over. -/
structure TaskRecord where
  id : Option Int
  title : Option String
  description : Option String
  done : Bool
  priority : Option Int
  percentDone : Option Double
  dueDate : Option TaskDate
  created : Option TaskDate
  updated : Option TaskDate
  projectId : Option Int
  assignees : List TaskUser
  labels : List TaskLabel
  deriving DecidableEq

namespace Value

/-- A value that may be missing; null stands for a missing one. -/
def ofOption {α : Type} (toValue : α → Value) : Option α → Value
  | some a => toValue a
  | none => null

end Value

def TaskDate.toValue : TaskDate → Value
  | timestamp t => .datetime t
  | text s => .str s

def TaskUser.toValue (u : TaskUser) : Value :=
  .record [("id", .int u.id), ("username", .ofOption .str u.username), ("name", .ofOption .str u.name)]

def TaskLabel.toValue (l : TaskLabel) : Value :=
  .record [("id", .int l.id), ("title", .ofOption .str l.title)]

namespace TaskRecord

def entries (t : TaskRecord) : List (String × Value) :=
  [
    ("id", .ofOption .int t.id),
    ("title", .ofOption .str t.title),
    ("description", .ofOption .str t.description),
    ("done", .bool t.done),
    ("priority", .ofOption .int t.priority),
    ("percent_done", .ofOption .float t.percentDone),
    ("due_date", .ofOption TaskDate.toValue t.dueDate),
    ("created", .ofOption TaskDate.toValue t.created),
    ("updated", .ofOption TaskDate.toValue t.updated),
    ("project_id", .ofOption .int t.projectId),
    ("assignees", .list (t.assignees.map TaskUser.toValue)),
    ("labels", .list (t.labels.map TaskLabel.toValue))]

def toValue (t : TaskRecord) : Value :=
  .record t.entries

end TaskRecord

namespace Admission

def taskUser (v : Value) : Admission TaskUser :=
  (entries "TaskUser" v).bind fun e =>
    ap (ap ((required "id" integer e).map TaskUser.mk) (withDefault "username" none (optional text) e))
      (withDefault "name" none (optional text) e)

def taskLabel (v : Value) : Admission TaskLabel :=
  (entries "TaskLabel" v).bind fun e =>
    ap ((required "id" integer e).map TaskLabel.mk) (withDefault "title" none (optional text) e)

/-- Admits a date of a task: any text, and what is a timestamp otherwise. -/
def taskDate : Value → Admission TaskDate
  | .str s => .ok (.text s)
  | v =>
    match timestampValue v with
    | .ok t => .ok (.timestamp t)
    | .error complaints =>
      .error (complaints.map (fun c => { c with path := "datetime" :: c.path }) ++ [⟨["str"], .notText⟩])

/-- Admits a list; null counts as the empty one. -/
def relation {α : Type} (accept : Value → Admission α) (v : Value) : Admission (List α) :=
  if v.isNull then .ok [] else list accept v

def task (v : Value) : Admission TaskRecord :=
  (entries "Task" v).bind fun e =>
    let id := withDefault "id" none (optional integer) e
    let title := withDefault "title" none (optional text) e
    let description := withDefault "description" none (optional text) e
    let done := withDefault "done" false truthValue e
    let priority := withDefault "priority" none (optional integer) e
    let percentDone := withDefault "percent_done" none (optional double) e
    let dueDate := withDefault "due_date" none (optional taskDate) e
    let created := withDefault "created" none (optional taskDate) e
    let updated := withDefault "updated" none (optional taskDate) e
    let projectId := withDefault "project_id" none (optional integer) e
    let assignees := withDefault "assignees" [] (relation taskUser) e
    let labels := withDefault "labels" [] (relation taskLabel) e
    let head := ap (ap (ap (ap (id.map TaskRecord.mk) title) description) done) priority
    let middle := ap (ap (ap (ap head percentDone) dueDate) created) updated
    ap (ap (ap middle projectId) assignees) labels

end Admission

end TaskQuery
