import MigrationPreview.Log.Entry
import MigrationPreview.Preview.Report

/-!
# The narration of a preview

The messages that accompany a preview that is brought to its end. They depend on the migration, the
dialect and the report alone.
-/

namespace MigrationPreview

/-- The warning about a body whose closing brace is missing. -/
def truncationWarning? (direction : Direction) (source : String) : Option LogEntry := do
  let body ← MethodBody.find? direction source.toList
  if body.truncated then
    let place := s!"{direction.name}() body starting on line {body.startLine}"
    return ⟨.warn, .migration, place ++ " has unbalanced braces; parsing what was found"⟩
  else none

/-- The messages of reading a migration. -/
def parseNarration (source : String) : List LogEntry :=
  [Direction.up, .down].filterMap (truncationWarning? · source)

/-- A message about the progress of a preview. -/
def progress (text : String) : LogEntry := ⟨.info, .preview, text⟩

/-- The messages of a preview. The migration is read once for its operations and once more for its
rollback. -/
def Report.narration (r : Report) (dialect : Dialect) (source : String) : List LogEntry :=
  [progress s!"Analyzing migration: {r.migration}", progress "Parsing migration file..."] ++
    parseNarration source ++
    [progress "Introspecting current database schema...", progress "Generating schema diff...",
      progress "Detecting destructive changes..."] ++
    (if r.destructiveChanges.isEmpty then []
      else [⟨.warn, .preview,
        s!"{r.destructiveChanges.length} destructive change(s) detected in {r.migration}"⟩]) ++
    [progress s!"Simulating rollback ({dialect.name} SQL)..."] ++
    parseNarration source

/-- The one-line summary of a report. -/
def Report.summary (r : Report) : String :=
  let rollback := if r.rollback.isAvailable then "available" else "missing"
  let count := r.destructiveChanges.length
  s!"{r.migration}: diff {r.diff.summary}; {count} destructive, rollback {rollback}"

end MigrationPreview
