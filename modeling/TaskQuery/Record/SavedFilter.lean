import TaskQuery.Filter.Reading
import TaskQuery.Record.FilterRecord
import TaskQuery.Record.Task

namespace TaskQuery

/-- A saved filter: a text and, optionally, a filter, which then counts instead of the text. -/
structure SavedFilter where
  id : String
  name : String
  description : Option String
  filter : String
  /-- The entries of the wire form. -/
  expression : Option (List (String × Value))
  created : Timestamp
  updated : Timestamp
  projectId : Option Int
  isGlobal : Bool
  deriving DecidableEq

namespace SavedFilter

def entries (s : SavedFilter) : List (String × Value) :=
  [
    ("id", .str s.id),
    ("name", .str s.name),
    ("description", .ofOption .str s.description),
    ("filter", .str s.filter),
    ("expression", .ofOption .dict s.expression),
    ("created", .datetime s.created),
    ("updated", .datetime s.updated),
    ("project_id", .ofOption .int s.projectId),
    ("is_global", .bool s.isGlobal)]

/-- Why a saved filter has no filter. -/
inductive Unresolved where
  | refused (complaints : List Complaint)
  | unread (failure : ReadFailure)
  deriving DecidableEq

def resolve (s : SavedFilter) : Except Unresolved Filter :=
  match s.expression with
  | some entries => (Filter.ofValue (.dict entries)).mapError Unresolved.refused
  | none => (Filter.read s.filter).mapError Unresolved.unread

end SavedFilter

namespace Admission

def dictionary : Value → Admission (List (String × Value))
  | .dict entries => .ok entries
  | _ => refuse .notADictionary

/-- The key that is there of a key and its other spelling; the key itself comes first. -/
def spelling (key other : String) (entries : List (String × Value)) : String :=
  if (lookup? key entries).isNone ∧ (lookup? other entries).isSome then other else key

def savedFilter (v : Value) : Admission SavedFilter :=
  (entries "SavedFilter" v).bind fun e =>
    let id := required "id" text e
    let name := required "name" text e
    let description := withDefault "description" none (optional text) e
    let filter := required "filter" text e
    let expression := withDefault "expression" none (optional dictionary) e
    let created := required "created" timestamp e
    let updated := required "updated" timestamp e
    let projectId := withDefault (spelling "projectId" "project_id" e) none (optional integer) e
    let isGlobal := withDefault (spelling "isGlobal" "is_global" e) false truthValue e
    let head := ap (ap (ap (id.map SavedFilter.mk) name) description) filter
    ap (ap (ap (ap (ap head expression) created) updated) projectId) isGlobal

end Admission

end TaskQuery
