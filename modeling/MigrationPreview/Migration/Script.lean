import MigrationPreview.Migration.Body
import MigrationPreview.Migration.Statement

/-!
# Reading a migration

A migration is read line by line, first the body of its `up` method and then that of its `down`
method. Reading never fails: what is not recognised is passed over.

## Main definitions

* `operationsOfLines`: the operations of the lines of a body
* `Script`: the operations of a migration with an index by line
* `Script.parse`: reads a migration
-/

namespace MigrationPreview

open Text

/-! ### Lines of a body -/

/-- Whether a line, without blanks at its ends, is empty or begins as a comment. -/
def isPassedOver : List Char → Bool
  | [] => true
  | '/' :: '/' :: _ => true
  | '/' :: '*' :: _ => true
  | '*' :: _ => true
  | '#' :: _ => true
  | _ => false

/-- The operations of the lines of a body, of which the first has the number `number`. The table is
the one whose block was opened last. -/
def operationsOfLines (direction : Direction) :
    Option String → Nat → List (List Char) → List Operation
  | _, _, [] => []
  | table, number, raw :: rest =>
    let text := trim raw
    if isPassedOver text then operationsOfLines direction table (number + 1) rest
    else
      -- the line that opens a block already belongs to it
      let table := openedTable? text <|> table
      let drafts := Line.drafts ⟨text, table, raw :: rest⟩
      drafts.map (·.toOperation direction number) ++
        operationsOfLines direction table (number + 1) rest

/-- The operations of a body. -/
def MethodBody.operations (body : MethodBody) (direction : Direction) : List Operation :=
  operationsOfLines direction none body.startLine (body.text.splitOn '\n')

/-- The operations of a migration in one direction. -/
def operationsIn (direction : Direction) (source : List Char) : List Operation :=
  match MethodBody.find? direction source with
  | some body => body.operations direction
  | none => []

/-! ### Scripts -/

/-- The operations of a migration, those of `up` first, and the same operations by line. -/
structure Script where
  operations : List Operation
  lineIndex : SortedMap Nat (List Operation.Summary)
  deriving DecidableEq

namespace Script

/-- The short forms of operations, grouped by their line. -/
def indexByLine (ops : List Operation) : SortedMap Nat (List Operation.Summary) :=
  ops.foldl (fun index op => index.alter op.line fun known => known.getD [] ++ [op.summary]) ∅

/-- The script with the given operations. -/
def ofOperations (ops : List Operation) : Script := ⟨ops, indexByLine ops⟩

/-- Reads a migration. -/
def parse (source : String) : Script :=
  ofOperations (operationsIn .up source.toList ++ operationsIn .down source.toList)

/-- The operations in one direction, in their order. -/
def operationsFor (script : Script) (direction : Direction) : List Operation :=
  MigrationPreview.operationsFor direction script.operations

/-- The number of operations in one direction. -/
def count (script : Script) (direction : Direction) : Nat :=
  script.operations.countP fun op => op.direction = direction

end Script

instance : JsonForm Script where
  encode script := .object [
    ("operations", encode script.operations),
    ("lineIndex", encode script.lineIndex)]
  decode? value := do
    let field ← value.fields? ["operations", "lineIndex"]
    return {
      operations := ← (field "operations").required
      lineIndex := ← (field "lineIndex").required }

end MigrationPreview
