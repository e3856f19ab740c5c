import MigrationPreview.Schema.Snapshot

/-!
# Questions about the current schema

An analysis asks about the current schema through a provider. A snapshot answers every question on
its own; a live database may fail to answer.

## Main definitions

* `Question` and `Question.Answer`: what can be asked, and the type of the answer
* `Provider`: something that answers questions in a monad, which accounts for failures
* `Snapshot.answer`, `Snapshot.provider`: the answers of a snapshot
-/

namespace MigrationPreview

/-- A question about the current schema. -/
inductive Question where
  | currentSchema
  | tableExists (table : String)
  | columnExists (table column : String)
  | tableStructure (table : String)
  /-- Which other tables have foreign keys that refer to the table? -/
  | referencingTables (table : String)
  deriving DecidableEq

/-- The type of the answers to a question. -/
abbrev Question.Answer : Question → Type
  | currentSchema => Snapshot
  | tableExists _ => Bool
  | columnExists _ _ => Bool
  | tableStructure _ => Option Table
  | referencingTables _ => List String

/-- Something that answers questions about the current schema. -/
abbrev Provider (m : Type → Type) := (q : Question) → m q.Answer

namespace Snapshot

/-- The answer of a snapshot to a question. -/
def answer (s : Snapshot) : (q : Question) → q.Answer
  | .currentSchema => s
  | .tableExists table => s.hasTable table
  | .columnExists table column => s.hasColumn table column
  | .tableStructure table => s.table? table
  | .referencingTables table => s.referencingTables table

/-- The provider that answers from a snapshot. -/
def provider {m : Type → Type} [Monad m] (s : Snapshot) : Provider m := fun q => pure (s.answer q)

end Snapshot

end MigrationPreview
