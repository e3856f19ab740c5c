import MigrationPreview.Cli.Run
import MigrationPreview.Proofs.Files.Delivery
import MigrationPreview.Proofs.Files.Lookup
import MigrationPreview.Proofs.Preview.Consistency
import MigrationPreview.Proofs.Schema.Store
import MigrationPreview.Proofs.Settings.EnvironmentFile

/-!
# Previews of trees

A preview of a migration that lies in a tree of files has two parts. The first one only reads: it comes to a
report or to an error, and which one depends on the tree and the settings alone. The second one delivers the
report, and only then does the tree change. The messages that are logged on the way have no influence on
either.

## Main definitions

* `Ends`: how a program ends, whatever is logged
* `OnlyReads`: steps that leave every tree as it is
* `FileTree.environment`: the environment of a run in a tree
* `FileTree.analyse`: the report on a migration in a tree
* `FileTree.deliver`: what happens to a report
* `FileTree.previewed`: how a preview ends

## Main results

* `ends_runPreview`: a preview ends as it is described
* `exists_run_eq`: so does a run that is asked for one
-/

namespace MigrationPreview

/-! ### Ends of programs -/

/-- A program that is started in a tree ends with a result in a tree, whatever was logged before. -/
def Ends {α : Type} (program : Program (StateM FileTree) α) (tree : FileTree) (result : Except RunError α)
    (after : FileTree) : Prop :=
  ∀ log, ∃ log', (program.run.run log).run tree = ((result, log'), after)

/-- How a program ends that goes on from a result with which the tree is left alone. -/
def FileTree.proceed {α β : Type} (tree : FileTree) (result : Except RunError α)
    (rest : α → Except RunError β × FileTree) : Except RunError β × FileTree :=
  match result with
  | .ok a => rest a
  | .error cause => (.error cause, tree)

section

variable {α β : Type} {tree between after : FileTree}

theorem FileTree.proceed_bind {γ : Type} (result : Except RunError α) (f : α → Except RunError β)
    (rest : β → Except RunError γ × FileTree) :
    tree.proceed (result >>= f) rest = tree.proceed result fun a => tree.proceed (f a) rest := by
  cases result <;> rfl

theorem ends_pure (a : α) : Ends (pure a) tree (.ok a) tree := fun log => ⟨log, rfl⟩

theorem ends_throw (error : RunError) : Ends (throw error : Program _ α) tree (.error error) tree :=
  fun log => ⟨log, rfl⟩

theorem ends_logAll (entries : List LogEntry) : Ends (logAll entries) tree (.ok ()) tree :=
  fun log => ⟨log ++ entries, rfl⟩

theorem ends_liftM {step : StateM FileTree α} {a : α} (h : step.run tree = (a, after)) :
    Ends (liftM step) tree (.ok a) after := fun log => by
  have hrun : ((liftM step : Program (StateM FileTree) α).run.run log).run tree =
      ((.ok (step.run tree).1, log), (step.run tree).2) := rfl
  exact ⟨log, by rw [hrun, h]⟩

section

variable {program : Program (StateM FileTree) α} {next : α → Program (StateM FileTree) β}

theorem Ends.bind {a : α} {result : Except RunError β} (h : Ends program tree (.ok a) between)
    (hnext : Ends (next a) between result after) : Ends (program >>= next) tree result after := by
  intro log
  obtain ⟨log₁, hrun⟩ := h log
  obtain ⟨log₂, hrest⟩ := hnext log₁
  refine ⟨log₂, ?_⟩
  rw [ExceptT.run_bind, StateT.run_bind, StateT.run_bind, hrun]
  exact hrest

theorem Ends.bind_error {error : RunError} (h : Ends program tree (.error error) after) :
    Ends (program >>= next) tree (.error error) after := by
  intro log
  obtain ⟨log₁, hrun⟩ := h log
  refine ⟨log₁, ?_⟩
  rw [ExceptT.run_bind, StateT.run_bind, StateT.run_bind, hrun]
  rfl

theorem Ends.map {result : Except RunError α} {f : α → β} (h : Ends program tree result tree)
    (hnext : ∀ a, Ends (next a) tree (.ok (f a)) tree) :
    Ends (program >>= next) tree (result.map f) tree := by
  cases result with
  | ok a => exact h.bind (hnext a)
  | error cause => exact h.bind_error

/-- A step that leaves the tree alone, and what follows it unless it fails. -/
theorem Ends.proceed {result : Except RunError α} {rest : α → Except RunError β × FileTree}
    (h : Ends program tree result tree) (hnext : ∀ a, Ends (next a) tree (rest a).1 (rest a).2) :
    Ends (program >>= next) tree (tree.proceed result rest).1 (tree.proceed result rest).2 := by
  cases result with
  | ok a => exact h.bind (hnext a)
  | error cause => exact h.bind_error

end

theorem ends_analysisStep {step : StateM FileTree (Except Failure α)} {result : Except Failure α}
    (h : step.run tree = (result, after)) :
    Ends (analysisStep step) tree (result.mapError .analysis) after := by
  refine (ends_liftM h).bind ?_
  cases result with
  | ok a => exact ends_pure a
  | error cause => exact ends_throw (.analysis cause)

theorem ends_reportStep {step : StateM FileTree (Except FileFault Unit)} {result : Except FileFault Unit}
    (h : step.run tree = (result, after)) :
    Ends (reportStep step) tree (result.mapError .report) after := by
  refine (ends_liftM h).bind ?_
  cases result with
  | ok => exact ends_pure ()
  | error fault => exact ends_throw (.report fault)

end

/-! ### Steps that only read -/

/-- A step that leaves every tree as it is. -/
def OnlyReads {α : Type} (step : StateM FileTree α) : Prop := ∀ tree, (step.run tree).2 = tree

section

variable {α : Type}

theorem OnlyReads.run_eq {step : StateM FileTree α} (h : OnlyReads step) (tree : FileTree) :
    step.run tree = ((step.run tree).1, tree) := Prod.ext rfl (h tree)

theorem onlyReads_findMigration (directory argument : String) :
    OnlyReads (findMigration FileTree.system directory argument) := by
  intro tree
  obtain ⟨outcome, hrun, -⟩ := tree.exists_run_findMigration FileTree.list directory argument
  rw [FileTree.systemListing_list] at hrun
  exact congrArg Prod.snd hrun

theorem onlyReads_loadSnapshot (path : String) : OnlyReads (loadSnapshot FileTree.system path) :=
  fun tree => congrArg Prod.snd (loadSnapshot_system path tree)

end

/-! ### Reports on a tree -/

namespace FileTree

/-- The bytes of the environment file in the first of some directories that has one. -/
def environmentFile? (tree : FileTree) : List String → Option ByteArray
  | [] => none
  | directory :: directories =>
    match tree.read (Path.join directory ".env") with
    | .ok bytes => some bytes
    | .error .notFound => tree.environmentFile? directories
    | .error .isADirectory => tree.environmentFile? directories
    | .error _ => none

/-- The environment completed by the environment file in the working directory of a tree or else in the
nearest directory around it. -/
def environment (tree : FileTree) (given : Environment) : Except UnsettableVariable Environment :=
  match tree.currentDirectory with
  | .error _ => .ok given
  | .ok directory =>
    match tree.environmentFile? (Path.ancestors directory) with
    | some bytes => EnvironmentFile.complete given bytes
    | none => .ok given

/-- A variable that cannot be set is one that is not set. -/
theorem get?_name_of_environment {tree : FileTree} {given : Environment} {cause : UnsettableVariable}
    (h : tree.environment given = .error cause) : given.get? cause.name = none := by
  rw [environment] at h
  split at h
  · cases h
  split at h
  · exact EnvironmentFile.get?_name_of_complete h
  · cases h

/-- The environment of a run has at least the variables that it was given. -/
theorem extends_of_environment {tree : FileTree} {given environment : Environment}
    (h : tree.environment given = .ok environment) : environment.Extends given := by
  rw [FileTree.environment] at h
  split at h
  · obtain rfl := Except.ok.inj h
    exact .refl given
  split at h
  · exact EnvironmentFile.extends_of_complete h
  · obtain rfl := Except.ok.inj h
    exact .refl given

/-- The report on a migration in a tree, or why there is none. -/
def analyse (tree : FileTree) (s : AnalysisSettings) (now : Instant) (migration : String) :
    Except RunError Report := do
  let path ← ((findMigration system s.migrationsPath migration).run tree).1.mapError .analysis
  match s.snapshotFile with
  | none => .error (.analysis noConnection)
  | some snapshotFile =>
    let loaded := ((loadSnapshot system snapshotFile).run tree).1.mapError .analysis
    let snapshot ← loaded.map (·.snapshot)
    let source := ((tree.readText path).mapError (.file path)).mapError .analysis
    source.map fun source => Id.run (preview snapshot.provider s.dialect now path source)

/-- The output and the tree when a text is written to a path. -/
def writeOut (tree : FileTree) (path text : String) : Except RunError String × FileTree :=
  match tree.write path text with
  | .error fault => (.error (.report fault), tree)
  | .ok after => (.ok "", after)

/-- The output and the tree when a text is delivered. -/
def deliver (tree : FileTree) (text : String) : Option String → Except RunError String × FileTree
  | none => (.ok (text ++ "\n"), tree)
  | some path =>
    match tree.prepare path with
    | (.error fault, prepared) => (.error (.report fault), prepared)
    | (.ok (), prepared) => prepared.writeOut path text

end FileTree

/-- The text of a report. -/
def Report.text (report : Report) : String := Json.renderIndented (encode report)

/-- The exit code of a run that delivers a report. -/
def Report.exitCode (report : Report) : Nat := if report.highestRisk?.isSome then 1 else 0

/-- How a preview ends that has its settings: the exit code and the output or an error, and the tree. -/
def FileTree.previewedWith (tree : FileTree) (s : AnalysisSettings) (now : Instant) (migration : String)
    (reportPath : Option String) : Except RunError (Nat × String) × FileTree :=
  tree.proceed (tree.analyse s now migration) fun report =>
    let delivery := tree.deliver report.text (reportPath <|> s.reportPath)
    (delivery.1.map (report.exitCode, ·), delivery.2)

/-- How a preview ends in an environment. -/
def FileTree.previewedIn (tree : FileTree) (environment : Environment) (now : Instant) (options : Options)
    (migration : String) (reportPath : Option String) : Except RunError (Nat × String) × FileTree :=
  tree.proceed ((Settings.ofVariables environment.get?).mapError .settings) fun settings =>
    tree.previewedWith (settings.analysis.withOptions options) now migration reportPath

/-- How a preview ends. -/
def FileTree.previewed (tree : FileTree) (given : Environment) (now : Instant) (options : Options)
    (migration : String) (reportPath : Option String) : Except RunError (Nat × String) × FileTree :=
  tree.proceed ((tree.environment given).mapError .environment) fun environment =>
    tree.previewedIn environment now options migration reportPath

section

variable {tree after : FileTree} {s : AnalysisSettings} {now : Instant} {migration : String}
  {reportPath : Option String}

theorem FileTree.previewedWith_of_error {cause : RunError} (h : tree.analyse s now migration = .error cause) :
    tree.previewedWith s now migration reportPath = (.error cause, tree) := by
  rw [previewedWith, h]
  rfl

theorem FileTree.previewedWith_of_ok {report : Report} {result : Except RunError String}
    (h : tree.analyse s now migration = .ok report)
    (hdeliver : tree.deliver report.text (reportPath <|> s.reportPath) = (result, after)) :
    tree.previewedWith s now migration reportPath = (result.map (report.exitCode, ·), after) := by
  rw [previewedWith, h]
  change (_, _) = _
  rw [hdeliver]

theorem FileTree.previewedIn_of_ok {environment : Environment} {options : Options} {settings : Settings}
    (h : Settings.ofVariables environment.get? = .ok settings) :
    tree.previewedIn environment now options migration reportPath =
      tree.previewedWith (settings.analysis.withOptions options) now migration reportPath := by
  rw [previewedIn, h]
  rfl

theorem FileTree.previewed_of_error {given : Environment} {options : Options} {cause : UnsettableVariable}
    (h : tree.environment given = .error cause) :
    tree.previewed given now options migration reportPath = (.error (.environment cause), tree) := by
  rw [previewed, h]
  rfl

theorem FileTree.previewed_of_ok {given environment : Environment} {options : Options}
    (h : tree.environment given = .ok environment) :
    tree.previewed given now options migration reportPath =
      tree.previewedIn environment now options migration reportPath := by
  rw [previewed, h]
  rfl

end

/-! ### The steps of a preview -/

section

variable (tree : FileTree) (given : Environment) (now : Instant)

theorem run_findEnvironmentFile (directories : List String) :
    (findEnvironmentFile FileTree.system directories).run tree =
      (tree.environmentFile? directories, tree) := by
  induction directories with
  | nil => rfl
  | cons directory directories ih =>
    have hread : (FileTree.system.read (Path.join directory ".env")).run tree =
        (tree.read (Path.join directory ".env"), tree) := rfl
    rw [findEnvironmentFile, run_bind_of_eq hread, FileTree.environmentFile?]
    -- only the two faults with which the search goes on lead to the directories around
    obtain fault | bytes := tree.read (Path.join directory ".env")
    · cases fault <;> first | exact ih | rfl
    · rfl

theorem run_completeEnvironment :
    (completeEnvironment FileTree.system given).run tree = (tree.environment given, tree) := by
  have hdirectory : FileTree.system.currentDirectory.run tree = (tree.currentDirectory, tree) := rfl
  rw [completeEnvironment, run_bind_of_eq hdirectory, FileTree.environment]
  cases tree.currentDirectory with
  | error fault => rfl
  | ok directory =>
    dsimp only
    rw [run_bind_of_eq (run_findEnvironmentFile tree (Path.ancestors directory))]
    cases tree.environmentFile? (Path.ancestors directory) <;> rfl

theorem ends_prepareEnvironment :
    Ends (prepareEnvironment FileTree.system given) tree
      ((tree.environment given).mapError .environment) tree := by
  refine (ends_liftM (run_completeEnvironment tree given)).bind ?_
  cases tree.environment given with
  | ok environment => exact ends_pure environment
  | error cause => exact ends_throw (.environment cause)

theorem ends_readSettings :
    Ends (readSettings given) tree ((Settings.ofVariables given.get?).mapError .settings) tree := by
  rw [readSettings]
  cases Settings.ofVariables given.get? with
  | ok settings => exact ends_pure settings
  | error cause => exact ends_throw (.settings cause)

theorem ends_readSnapshot (path : String) :
    Ends (readSnapshot FileTree.system path) tree
      ((((loadSnapshot FileTree.system path).run tree).1.mapError .analysis).map (·.snapshot)) tree := by
  refine (ends_analysisStep ((onlyReads_loadSnapshot path).run_eq tree)).map fun loaded => ?_
  dsimp only
  split_ifs
  · exact (ends_logAll _).bind ((ends_logAll _).bind (ends_pure _))
  · exact (ends_logAll _).bind (ends_pure _)

theorem ends_analyseFile (snapshot : Snapshot) (dialect : Dialect) (path : String) :
    Ends (analyseFile FileTree.system snapshot dialect now path) tree
      ((((tree.readText path).mapError (.file path)).mapError .analysis).map fun source =>
        Id.run (preview snapshot.provider dialect now path source)) tree := by
  refine (ends_analysisStep ?_).map fun source => ?_
  · have hread : (FileTree.system.readText path).run tree = pure (tree.readText path, tree) := rfl
    rw [StateT.run_bind, hread, pure_bind]
    cases tree.readText path <;> rfl
  · exact (ends_logAll _).bind ((ends_logAll _).bind (ends_pure _))

theorem run_update (change : FileTree → Except FileFault FileTree) :
    (FileTree.update change).run tree =
      match change tree with
      | .ok after => (.ok (), after)
      | .error fault => (.error fault, tree) := by
  rw [FileTree.update, StateT.run_bind, StateT.run_get, pure_bind]
  cases change tree <;> rfl

theorem ends_writeReport (report : Report) (destination : Option String) :
    Ends (writeReport FileTree.system report destination) tree (tree.deliver report.text destination).1
      (tree.deliver report.text destination).2 := by
  cases destination with
  | none => exact ends_pure _
  | some path =>
    have hwrite (prepared : FileTree) : Ends
        (do
          reportStep (FileTree.system.write path report.text)
          logProgram .info s!"JSON report saved to: {path}"
          return "")
        prepared (prepared.writeOut path report.text).1 (prepared.writeOut path report.text).2 := by
      have hrun := run_update prepared (·.write path report.text)
      rw [FileTree.writeOut]
      cases hwritten : prepared.write path report.text with
      | error fault =>
        rw [hwritten] at hrun
        exact (ends_reportStep hrun).bind_error
      | ok after =>
        rw [hwritten] at hrun
        exact (ends_reportStep hrun).bind ((ends_logAll _).bind (ends_pure _))
    -- only a path below another directory needs directories to be made first
    cases hparent : Path.parent? path with
    | none =>
      simp only [writeReport, FileTree.deliver, FileTree.prepare, hparent]
      exact hwrite tree
    | some around =>
      by_cases haround : around = ""
      · simp only [writeReport, FileTree.deliver, FileTree.prepare, hparent, haround]
        exact hwrite tree
      · simp only [writeReport, FileTree.deliver, FileTree.prepare, hparent]
        have hrun : (FileTree.system.createDirectories around).run tree = tree.createDirectories around :=
          rfl
        generalize tree.createDirectories around = made at hrun ⊢
        obtain ⟨fault | ⟨⟩, prepared⟩ := made
        · exact (ends_reportStep hrun).bind_error
        · exact (ends_reportStep hrun).bind (hwrite prepared)

theorem ends_judgement (report : Report) (output : String) :
    Ends
      (match report.highestRisk? with
        | some risk => do
          let count := report.destructiveChanges.length
          logProgram .warn
            s!"Migration contains {count} destructive change(s), highest risk {risk.name}"
          return (1, output)
        | none => do
          logProgram .info "No destructive changes found"
          return (0, output))
      tree (.ok (report.exitCode, output)) tree := by
  rw [Report.exitCode]
  cases report.highestRisk? with
  | none => exact (ends_logAll _).bind (ends_pure _)
  | some risk => exact (ends_logAll _).bind (ends_pure _)

/-- A preview ends as it is described, whatever is logged. -/
theorem ends_runPreview (options : Options) (migration : String) (reportPath : Option String) :
    Ends (runPreview FileTree.system given now options migration reportPath) tree
      (tree.previewed given now options migration reportPath).1
      (tree.previewed given now options migration reportPath).2 := by
  refine (ends_prepareEnvironment tree given).proceed fun environment => ?_
  refine (ends_readSettings tree environment).proceed fun settings => ?_
  dsimp only
  generalize settings.analysis.withOptions options = analysis
  -- the stages of `analyse`, in its order; each of them leaves the tree to the next one
  simp only [FileTree.previewedWith, FileTree.analyse, FileTree.proceed_bind]
  refine (ends_analysisStep ((onlyReads_findMigration _ _).run_eq tree)).proceed fun path => ?_
  cases analysis.snapshotFile with
  | none => exact ends_throw _
  | some snapshotFile =>
    simp only [FileTree.proceed_bind]
    refine (ends_readSnapshot tree snapshotFile).proceed fun snapshot => ?_
    refine (ends_analyseFile tree now snapshot analysis.dialect path).proceed fun report => ?_
    -- from here on the tree may change
    have hwrite := ends_writeReport tree report (reportPath <|> analysis.reportPath)
    cases hdelivery : (tree.deliver report.text (reportPath <|> analysis.reportPath)).1 with
    | error cause =>
      rw [hdelivery] at hwrite
      exact hwrite.bind_error
    | ok output =>
      rw [hdelivery] at hwrite
      exact hwrite.bind (ends_judgement _ report output)

end

/-- The outcome of a run that ends with a result. -/
def Outcome.of (log : List LogEntry) : Except RunError (Nat × String) → Outcome
  | .ok (exitCode, output) => { exitCode := some exitCode, output, log }
  | .error error => { exitCode := error.exitCode?, error := some error.message, log }

/-- A run that is asked for a preview ends as the preview does. -/
theorem exists_run_eq {arguments : List String} {options : Options} {migration : String}
    {reportPath : Option String} (tree : FileTree) (given : Environment) (now : Instant)
    (h : Invocation.parse arguments = .run options (.preview migration reportPath)) :
    ∃ log, (run FileTree.system given now arguments).run tree =
      (.of log (tree.previewed given now options migration reportPath).1,
        (tree.previewed given now options migration reportPath).2) := by
  obtain ⟨log, hrun⟩ := ends_runPreview tree given now options migration reportPath []
  refine ⟨log.filter (LogFilter.ofVariable (given.get? "RUST_LOG") options.verbose).allows, ?_⟩
  simp only [run, h, runCommand, StateT.run_bind, hrun]
  cases (tree.previewed given now options migration reportPath).1 <;> rfl

end MigrationPreview
