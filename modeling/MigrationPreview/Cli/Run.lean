import MigrationPreview.Cli.Arguments
import MigrationPreview.Files.Lookup
import MigrationPreview.Log.Filter
import MigrationPreview.Preview.Narration
import MigrationPreview.Schema.Store
import MigrationPreview.Settings.EnvironmentFile

/-!
# Runs of the program

One run from its arguments to its exit code, over any file system. A preview reads the settings,
finds the migration, reads the snapshot and the migration, analyses them, and writes the report last;
a failure on the way ends the run before anything is written. The settings come from the environment
and from the nearest environment file; a value in that file that cannot be set makes the run panic.
Connections to a database are not part of a run: without a snapshot file it fails where it would
connect.

## Main definitions

* `Outcome`: what a run leaves behind
* `RunError`: why a run fails
* `completeEnvironment`: the environment with the variables of the nearest environment file
* `runCommand`, `run`: a run
-/

namespace MigrationPreview

/-- What a run leaves behind besides files. -/
structure Outcome where
  /-- The exit code. A run that panics has none of its own. -/
  exitCode : Option Nat
  output : String := ""
  error : Option String := none
  log : List LogEntry := []
  deriving DecidableEq

/-- Why a run fails. -/
inductive RunError where
  /-- The environment file has a variable that cannot be set, which is a panic. -/
  | environment (cause : UnsettableVariable)
  | settings (cause : SettingsError)
  | analysis (cause : Failure)
  | report (fault : FileFault)
  deriving DecidableEq

namespace RunError

/-- The wording of an error. -/
def message : RunError → String
  | environment cause => s!"failed to set {cause.name}: {FileFault.nullInName.message}"
  | settings cause => cause.message
  | analysis cause => cause.message
  | report fault => fault.message

/-- The exit code of a run that fails, unless it panics. -/
def exitCode? : RunError → Option Nat
  | environment _ => none
  | settings _ => some 1
  | analysis _ => some 1
  | report _ => some 1

end RunError

/-- Steps of a run, which log messages and may fail. -/
abbrev Program (m : Type → Type) := ExceptT RunError (StateT (List LogEntry) m)

section

variable {m : Type → Type} [Monad m] (files : FileSystem m)

/-! ### Steps -/

/-- Logs some messages. -/
def logAll (entries : List LogEntry) : Program m Unit := modify (· ++ entries)

/-- Logs a message of the program itself. -/
def logProgram (level : LogLevel) (text : String) : Program m Unit :=
  logAll [⟨level, .program, text⟩]

/-- Uses a result on the files that may be a failure of the analysis. -/
def analysisStep {α : Type} (step : m (Except Failure α)) : Program m α := do
  match ← (liftM step : Program m (Except Failure α)) with
  | .ok a => return a
  | .error cause => throw (.analysis cause)

/-- Uses a change of the files that may fail while the report is written. -/
def reportStep (step : m (Except FileFault Unit)) : Program m Unit := do
  match ← (liftM step : Program m (Except FileFault Unit)) with
  | .ok () => return ()
  | .error fault => throw (.report fault)

/-- The bytes of the environment file in the first of some directories that has one. The search ends
early where a path cannot be looked up. -/
def findEnvironmentFile : List String → m (Option ByteArray)
  | [] => return none
  | directory :: directories => do
    match ← files.read (Path.join directory ".env") with
    | .ok bytes => return some bytes
    | .error .notFound => findEnvironmentFile directories
    -- a directory of this name is no environment file
    | .error .isADirectory => findEnvironmentFile directories
    | .error _ => return none

/-- The environment completed by the environment file in the current directory or else in the nearest
directory around it. -/
def completeEnvironment (environment : Environment) :
    m (Except UnsettableVariable Environment) := do
  match ← files.currentDirectory with
  | .error _ => return .ok environment
  | .ok directory =>
    match ← findEnvironmentFile files (Path.ancestors directory) with
    | some bytes => return EnvironmentFile.complete environment bytes
    | none => return .ok environment

/-- The environment of a run. -/
def prepareEnvironment (environment : Environment) : Program m Environment := do
  match ← (liftM (completeEnvironment files environment) : Program m _) with
  | .ok environment => return environment
  | .error cause => throw (.environment cause)

/-- The settings in an environment. -/
def readSettings (environment : Environment) : Program m Settings :=
  match Settings.ofVariables environment.get? with
  | .ok settings => return settings
  | .error cause => throw (.settings cause)

/-- The settings of an analysis in which options take the place of variables. -/
def AnalysisSettings.withOptions (s : AnalysisSettings) (o : Options) : AnalysisSettings :=
  { s with
    snapshotFile := o.snapshotFile <|> s.snapshotFile
    schema := o.schema.getD s.schema
    dialect := o.dialect.getD s.dialect
    migrationsPath := o.migrationsPath.getD s.migrationsPath }

/-- The failure where a run would connect to a database. -/
def noConnection : Failure := .poolSetup "connections to a database server are not available"

/-- Reads the snapshot that stands in for the database. -/
def readSnapshot (path : String) : Program m Snapshot := do
  let loaded ← analysisStep (loadSnapshot files path)
  let metadata := loaded.snapshot.metadata
  if loaded.isStale then
    let change := s!"(checksum {loaded.recordedChecksum} != {loaded.snapshot.checksum})"
    logAll [⟨.warn, .snapshot, s!"Snapshot {path} was edited after capture {change}"⟩]
  let tables := s!"{metadata.tableCount} tables"
  let parts := s!"{metadata.foreignKeyCount} FKs, {metadata.indexCount} indexes"
  logAll [⟨.info, .snapshot, s!"Loaded snapshot {path}: {tables}, {parts}"⟩]
  return loaded.snapshot

/-- Reads and analyses a migration. -/
def analyseFile (snapshot : Snapshot) (dialect : Dialect) (now : Instant) (path : String) :
    Program m Report := do
  let source ← analysisStep do
    return match ← files.readText path with
      | .ok source => .ok source
      | .error fault => .error (.file path fault)
  let report := Id.run (preview snapshot.provider dialect now path source)
  logAll (report.narration dialect source)
  logProgram .info report.summary
  return report

/-- Writes a report to a file, or else returns it as output. -/
def writeReport (report : Report) (path : Option String) : Program m String := do
  let text := Json.renderIndented (encode report)
  match path with
  | none => return text ++ "\n"
  | some path =>
    match Path.parent? path with
    | none | some "" => pure ()
    | some directory => reportStep (files.createDirectories directory)
    reportStep (files.write path text)
    logProgram .info s!"JSON report saved to: {path}"
    return ""

/-! ### Runs -/

/-- Previews a migration; the result is the exit code and the output. -/
def runPreview (environment : Environment) (now : Instant) (options : Options)
    (migration : String) (reportPath : Option String) : Program m (Nat × String) := do
  let environment ← prepareEnvironment files environment
  let settings := (← readSettings environment).analysis.withOptions options
  let path ← analysisStep (findMigration files settings.migrationsPath migration)
  match settings.snapshotFile with
  | none => throw (.analysis noConnection)
  | some snapshotFile =>
    let snapshot ← readSnapshot files snapshotFile
    let report ← analyseFile files snapshot settings.dialect now path
    -- nothing was written up to here, and the report is written whatever it says
    let output ← writeReport files report (reportPath <|> settings.reportPath)
    match report.highestRisk? with
    | some risk =>
      let count := report.destructiveChanges.length
      logProgram .warn
        s!"Migration contains {count} destructive change(s), highest risk {risk.name}"
      return (1, output)
    | none =>
      logProgram .info "No destructive changes found"
      return (0, output)

/-- Runs a command. -/
def runCommand (environment : Environment) (now : Instant) (options : Options) :
    Command → Program m (Nat × String)
  | .preview migration reportPath =>
    runPreview files environment now options migration reportPath
  | .snapshot _ => do
    let environment ← prepareEnvironment files environment
    let _ ← readSettings environment
    throw (.analysis noConnection)

/-- The version of the program. -/
def versionLine : String := "schema-lens 0.3.0\n"

/-- Runs the program. The environment also says which messages are kept. -/
def run (environment : Environment) (now : Instant) (arguments : List String) : m Outcome := do
  match Invocation.parse arguments with
  | .showHelp => return { exitCode := some 0 }
  | .showVersion => return { exitCode := some 0, output := versionLine }
  | .usageError => return { exitCode := some 2 }
  | .run options command =>
    let filter := LogFilter.ofVariable (environment.get? "RUST_LOG") options.verbose
    let (result, log) ← ((runCommand files environment now options command).run).run []
    let log := log.filter filter.allows
    match result with
    | .ok (exitCode, output) => return { exitCode := some exitCode, output, log }
    | .error error => return { exitCode := error.exitCode?, error := some error.message, log }

end

end MigrationPreview
