import MigrationPreview.Migration.Script
import MigrationPreview.Rollback.Dependency
import MigrationPreview.Rollback.Impact
import MigrationPreview.Sql.Statement

/-!
# Rollback simulation

What running the `down` method of a migration would do: the statements it runs, what they may break
and what they drop.

## Main definitions

* `RollbackAnalysis`, `Rollback`: the result of a simulation
* `simulateRollback`: the simulation
-/

namespace MigrationPreview

/-- What the steps of a rollback do. -/
structure RollbackAnalysis where
  operations : List Operation
  dependencies : List DependencyWarning
  sqlPreview : List SqlLine
  impact : RollbackImpact
  deriving DecidableEq

/-- The result of a simulation. -/
inductive Rollback where
  /-- The migration has no step that takes it back. -/
  | unavailable (message : String)
  | analyzed (analysis : RollbackAnalysis)
  deriving DecidableEq

namespace Rollback

/-- The analysis of the steps, if there are any. -/
def analysis? : Rollback → Option RollbackAnalysis
  | unavailable _ => none
  | analyzed analysis => some analysis

/-- Whether there is something to run. -/
def isAvailable (r : Rollback) : Bool := r.analysis?.isSome

/-- The members of an analysis. -/
def analysisMembers (a : RollbackAnalysis) : List (String × Json) :=
  [("operations", encode a.operations),
    ("dependencies", encode a.dependencies),
    ("sqlPreview", encode a.sqlPreview),
    ("impact", encode a.impact)]

/-- The analysis whose fields are given. -/
def analysisOfFields? (field : Json.Fields) : Option RollbackAnalysis := do
  return {
    operations := ← (field "operations").required
    dependencies := ← (field "dependencies").required
    sqlPreview := ← (field "sqlPreview").required
    impact := ← (field "impact").required }

mutual

/-- The value in which every object that maps one name to an empty object maps it to `null`. -/
def nullForEmpty : Json → Json
  | .array items => .array (nullForEmptyItems items)
  | .object [(name, .object [])] => .object [(name, .null)]
  | .object members => .object (nullForEmptyMembers members)
  | value => value

/-- `nullForEmpty` on the items of an array. -/
def nullForEmptyItems : List Json → List Json
  | [] => []
  | item :: items => nullForEmpty item :: nullForEmptyItems items

/-- `nullForEmpty` on the members of an object. -/
def nullForEmptyMembers : List (String × Json) → List (String × Json)
  | [] => []
  | (key, value) :: members => (key, nullForEmpty value) :: nullForEmptyMembers members

end

/-- The result that the tag and the other fields of a record give. Behind a tag, an empty object
does for `null` where a name is written as an object. -/
def ofTagged? (tag : String) (rest : Json) : Option Rollback :=
  if tag = "no_rollback" then do
    let field ← rest.fields? ["message"]
    return unavailable (← (field "message").required)
  else if tag = "analyzed" then do
    let field ← (nullForEmpty rest).fields? ["operations", "dependencies", "sqlPreview", "impact"]
    return analyzed (← analysisOfFields? field)
  else none

/-- A tag tells the two cases apart. A flag repeats the tag and is not read. -/
instance : JsonForm Rollback where
  encode r := .object <| ("hasRollback", encode r.isAvailable) ::
    match r with
    | unavailable message => [("outcome", .string "no_rollback"), ("message", encode message)]
    | analyzed a => ("outcome", .string "analyzed") :: analysisMembers a
  decode?
    | .array (.string tag :: rest) => ofTagged? tag (.array rest)
    | .object members =>
      match members.filter (·.1 == "outcome") with
      | [(_, .string tag)] => ofTagged? tag (.object members)
      | _ => none
    | _ => none

end Rollback

/-- What is reported for a migration without steps that take it back. -/
def noRollbackMessage : String := "Migration does not have a down() method"

/-- Simulates the rollback of a migration. -/
def simulateRollback {m : Type → Type} [Monad m] (provider : Provider m) (dialect : Dialect)
    (source : String) : m Rollback := do
  let ops := (Script.parse source).operationsFor .down
  if ops.isEmpty then return .unavailable noRollbackMessage
  else
    let dependencies ← dependencyWarnings provider ops
    return .analyzed {
      operations := ops
      dependencies := dependencies
      sqlPreview := dialect.sqlLines ops
      impact := .of ops }

end MigrationPreview
