import MigrationPreview.Migration.Operation

/-!
# The status of an operation

How an operation relates to the current schema depends on its kind, its action, and on whether the
object it touches exists. For a renamed column it also depends on whether the new name is taken.

## Main definitions

* `DiffStatus`: the possible relations
* `DiffStatus.of`: the relation of an operation
-/

namespace MigrationPreview

/-- How an operation relates to the current schema. -/
inductive DiffStatus where
  /-- Something is added. -/
  | new
  /-- The operation meets a schema that it did not expect. -/
  | warning
  /-- Something that exists is lost. -/
  | destructive
  /-- What the operation needs is missing. -/
  | error
  /-- A setting gets another value. -/
  | change
  /-- Nothing of note. -/
  | info
  deriving DecidableEq, Inhabited

instance : Enumerated DiffStatus where
  all := [.new, .warning, .destructive, .error, .change, .info]
  name
    | .new => "new"
    | .warning => "warning"
    | .destructive => "destructive"
    | .error => "error"
    | .change => "change"
    | .info => "info"

namespace DiffStatus

/-- The name of a status. -/
abbrev name (s : DiffStatus) : String := Enumerated.name s

/-- All statuses, in the order in which summaries list them. -/
abbrev all : List DiffStatus := Enumerated.all

/-- The status of an operation whose object exists or not. For a renamed column, `targetExists`
tells whether the new name is taken; for settings, `present` tells whether the setting has the
value already. -/
def of (kind : ObjectKind) (action : Action) (present : Bool) (targetExists : Option Bool) :
    DiffStatus :=
  match kind, action with
  | .engine, _ | .charset, _ | .collation, _ => if present then info else change
  | .column, .rename =>
    if present then if targetExists = some true then warning else destructive else error
  -- a table is created, everything else is added
  | .table, .create | _, .add => if present then warning else new
  | _, .modify => if present then info else error
  | _, .drop => if present then destructive else warning
  | _, _ => info

end DiffStatus

end MigrationPreview
