import MigrationPreview.Destructive
import MigrationPreview.Diff.Basic
import MigrationPreview.Rollback.Analysis

/-!
# Preview reports

Everything that is found out about a migration before it runs: its operations are counted, compared
with the current schema and searched for destructive changes, and its rollback is simulated.

## Main definitions

* `ScriptSummary`, `Report`: what is reported
* `preview`: the analysis of a migration
-/

namespace MigrationPreview

/-- How many operations a migration has. -/
structure ScriptSummary where
  upOperations : Nat
  downOperations : Nat
  linesWithOperations : Nat
  deriving DecidableEq

instance : JsonForm ScriptSummary where
  encode s := .object [
    ("upOperations", encode s.upOperations),
    ("downOperations", encode s.downOperations),
    ("linesWithOperations", encode s.linesWithOperations)]
  decode? value := do
    let field ← value.fields? ["upOperations", "downOperations", "linesWithOperations"]
    return {
      upOperations := ← (field "upOperations").required
      downOperations := ← (field "downOperations").required
      linesWithOperations := ← (field "linesWithOperations").required }

/-- The counts of a migration. -/
def Script.counts (script : Script) : ScriptSummary :=
  ⟨(script.operationsFor .up).length, script.count .down, script.lineIndex.size⟩

/-- Everything that is found out about a migration. -/
structure Report where
  /-- The path of the migration. -/
  migration : String
  sourceChecksum : String
  schemaChecksum : String
  generatedAt : Instant
  script : ScriptSummary
  diff : SchemaDiff
  destructiveChanges : List DestructiveChange
  rollback : Rollback
  hasDestructive : Bool
  deriving DecidableEq

instance : JsonForm Report where
  encode r := .object [
    ("migration", encode r.migration),
    ("sourceChecksum", encode r.sourceChecksum),
    ("schemaChecksum", encode r.schemaChecksum),
    ("generatedAt", encode r.generatedAt),
    ("parse", encode r.script),
    ("diff", encode r.diff),
    ("destructiveChanges", encode r.destructiveChanges),
    ("rollback", encode r.rollback),
    ("hasDestructive", encode r.hasDestructive)]
  decode? value := do
    let field ← value.fields? ["migration", "sourceChecksum", "schemaChecksum", "generatedAt",
      "parse", "diff", "destructiveChanges", "rollback", "hasDestructive"]
    return {
      migration := ← (field "migration").required
      sourceChecksum := ← (field "sourceChecksum").required
      schemaChecksum := ← (field "schemaChecksum").required
      generatedAt := ← (field "generatedAt").required
      script := ← (field "parse").required
      diff := ← (field "diff").required
      destructiveChanges := ← (field "destructiveChanges").required
      rollback := ← (field "rollback").required
      hasDestructive := ← (field "hasDestructive").required }

/-- The highest risk of the destructive changes, if there are any. -/
def Report.highestRisk? (r : Report) : Option RiskLevel :=
  RiskLevel.highest? (r.destructiveChanges.map (·.risk))

/-- Analyses the migration `source`, which was read from `path`, at the time `now`. -/
def preview {m : Type → Type} [Monad m] (provider : Provider m) (dialect : Dialect)
    (now : Instant) (path source : String) : m Report := do
  let script := Script.parse source
  let up := script.operationsFor .up
  -- the only question besides those about tables that the rollback drops
  let schema ← provider .currentSchema
  let changes := destructiveChanges up
  let rollback ← simulateRollback provider dialect source
  return {
    migration := path
    sourceChecksum := Sha256.hexDigest source
    schemaChecksum := schema.checksum
    generatedAt := now
    script := script.counts
    diff := .of up schema
    destructiveChanges := changes
    rollback := rollback
    hasDestructive := !changes.isEmpty }

end MigrationPreview
