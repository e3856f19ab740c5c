import MigrationPreview.Proofs.Cli.Preview

/-!
# Options take the place of variables

A preview whose options give a snapshot file, a schema, a dialect and a directory of migrations is the same in
every environment in which there are settings at all, but for the place of its report. Variables can do harm
before they are overridden, though: all of them are read first, so a URL of a database that cannot be read
ends a run that needs no database. And variables that are of no use to the preview may stand in the
environment file for parts of a variable that is of use to it.

## Main definitions

* `Options.AreComplete`: options that take the place of all variables of a preview but one
* `Settings.AreReadable`: variables from which there are settings
* `Report.datedAt`: a report that was made at another time

## Main results

* `Settings.exists_ofVariables_iff`: two variables decide whether there are settings
* `previewRun_congr`: the other variables do not matter
* `previewRun_not_congr`: these two do matter, and so do all in an environment file
-/

namespace MigrationPreview

/-! ### Settings -/

/-- Options that take the place of the variables of a preview, but for that of its report. -/
structure Options.AreComplete (o : Options) : Prop where
  snapshotFile : o.snapshotFile.isSome
  schema : o.schema.isSome
  dialect : o.dialect.isSome
  migrationsPath : o.migrationsPath.isSome

/-- Variables from which there are settings. -/
structure Settings.AreReadable (valueOf? : String → Option String) : Prop where
  url : ∀ url ∈ valueOf? "DATABASE_URL", (DatabaseSettings.ofUrl url 10).isOk
  dialect : ∀ name ∈ valueOf? "SCHEMA_LENS_SQL_DIALECT", (Dialect.parse name).isOk

instance (valueOf? : String → Option String) : Decidable (Settings.AreReadable valueOf?) :=
  decidable_of_iff ((∀ url ∈ valueOf? "DATABASE_URL", (DatabaseSettings.ofUrl url 10).isOk) ∧
    ∀ name ∈ valueOf? "SCHEMA_LENS_SQL_DIALECT", (Dialect.parse name).isOk)
    ⟨fun h => ⟨h.1, h.2⟩, fun h => ⟨h.url, h.dialect⟩⟩

/-- Nothing but the URL and the dialect decides whether there are settings. -/
theorem Settings.exists_ofVariables_iff (valueOf? : String → Option String) :
    (∃ settings, Settings.ofVariables valueOf? = .ok settings) ↔ AreReadable valueOf? := by
  have hurl (url : String) :
      (DatabaseSettings.ofUrl url 10).isOk ↔ ∀ e, ¬DatabaseSettings.UrlError url e := by
    simp only [isOk_iff_forall_ne_error, ne_eq, DatabaseSettings.ofUrl_eq_error_iff]
  constructor
  · rintro ⟨settings, h⟩
    have hnone (e : SettingsError) : ¬SettingsError.Arises valueOf? e := by
      intro he
      rw [Settings.ofVariables_eq_error_iff.2 he] at h
      cases h
    have hreadable : ∀ url ∈ valueOf? "DATABASE_URL", ∀ e, ¬DatabaseSettings.UrlError url e :=
      fun url hsome e he => hnone e (.url hsome he)
    refine ⟨fun url hsome => (hurl url).2 (hreadable url hsome), fun name hsome => ?_⟩
    by_contra hunknown
    exact hnone _ (.dialect hreadable hsome fun hknown => hunknown (Dialect.isOk_parse_iff.2 hknown))
  · intro h
    cases hread : Settings.ofVariables valueOf? with
    | ok settings => exact ⟨settings, rfl⟩
    | error e =>
      cases Settings.ofVariables_eq_error_iff.1 hread with
      | url hsome he => exact absurd he ((hurl _).1 (h.url _ hsome) e)
      | dialect _ hsome hunknown => exact absurd (Dialect.isOk_parse_iff.1 (h.dialect _ hsome)) hunknown

/-! ### Reports -/

/-- The report as it is if it is made at some time. -/
def Report.datedAt (report : Report) (now : Instant) : Report := { report with generatedAt := now }

namespace FileTree

variable (tree : FileTree) (s s' : AnalysisSettings) (now now' : Instant) (migration : String)

/-- The time has no influence on what is found out. -/
theorem analyse_datedAt :
    tree.analyse s now' migration = (tree.analyse s now migration).map (·.datedAt now') := by
  unfold analyse
  cases ((findMigration system s.migrationsPath migration).run tree).1 with
  | error cause => rfl
  | ok path =>
    cases hfile : s.snapshotFile with
    | none => rfl
    | some snapshotFile =>
      dsimp only [bind, Except.bind, Except.mapError]
      cases ((loadSnapshot system snapshotFile).run tree).1 with
      | error cause => rfl
      | ok loaded => cases tree.readText path <;> rfl

variable {s s'} in
/-- Complete options leave nothing of the settings but the place of the report. -/
theorem analyse_withOptions_congr {o : Options} (h : o.AreComplete) :
    tree.analyse (s.withOptions o) now migration = tree.analyse (s'.withOptions o) now migration := by
  obtain ⟨snapshotFile, hsnapshotFile⟩ := Option.isSome_iff_exists.mp h.snapshotFile
  obtain ⟨dialect, hdialect⟩ := Option.isSome_iff_exists.mp h.dialect
  obtain ⟨migrationsPath, hmigrationsPath⟩ := Option.isSome_iff_exists.mp h.migrationsPath
  have hsettings (s : AnalysisSettings) : (s.withOptions o).snapshotFile = some snapshotFile ∧
      (s.withOptions o).dialect = dialect ∧ (s.withOptions o).migrationsPath = migrationsPath := by
    simp only [AnalysisSettings.withOptions, hsnapshotFile, hdialect, hmigrationsPath]
    exact ⟨rfl, rfl, rfl⟩
  unfold analyse
  rw [(hsettings s).1, (hsettings s).2.1, (hsettings s).2.2, (hsettings s').1, (hsettings s').2.1,
    (hsettings s').2.2]

end FileTree

/-! ### Runs -/

/-- Two runs in one tree come to the same, but for the times at which they make a report. -/
structure RunsAgree (tree : FileTree) (destination : Option String) (now now' : Instant)
    (first second : Outcome × FileTree) : Prop where
  exitCode : first.1.exitCode = second.1.exitCode
  error : first.1.error = second.1.error
  /-- Either neither delivers anything, or both deliver one report. -/
  report : (first.1.output = "" ∧ second.1.output = "" ∧ first.2 = second.2 ∧ tree.SameFiles first.2) ∨
    ∃ report : Report,
      Delivered tree (report.datedAt now).text destination first.1.output first.2 ∧
      Delivered tree (report.datedAt now').text destination second.1.output second.2
  atOnce : now = now' → first.1.output = second.1.output ∧ first.2 = second.2

section

variable {tree : FileTree} {s s' : AnalysisSettings} {o : Options} {reportPath : Option String}

/-- With complete options the settings matter for nothing but the place of the report. -/
theorem runsAgree_previewedWith (now now' : Instant) (migration : String) (log log' : List LogEntry)
    (ho : o.AreComplete) (hdestination : (reportPath <|> s.reportPath) = (reportPath <|> s'.reportPath)) :
    let ended := tree.previewedWith (s.withOptions o) now migration reportPath
    let ended' := tree.previewedWith (s'.withOptions o) now' migration reportPath
    RunsAgree tree (reportPath <|> s.reportPath) now now' (.of log ended.1, ended.2)
      (.of log' ended'.1, ended'.2) := by
  intro ended ended'
  have hsame :
      tree.analyse (s.withOptions o) now' migration = tree.analyse (s'.withOptions o) now' migration :=
    tree.analyse_withOptions_congr now' migration ho
  cases hanalysis : tree.analyse (s.withOptions o) now migration with
  | error cause =>
    have hanalysis' : tree.analyse (s'.withOptions o) now' migration = .error cause := by
      rw [← hsame, tree.analyse_datedAt _ now, hanalysis]
      rfl
    have hended : ended = (.error cause, tree) := FileTree.previewedWith_of_error hanalysis
    have hended' : ended' = (.error cause, tree) := FileTree.previewedWith_of_error hanalysis'
    rw [hended, hended']
    exact ⟨rfl, rfl, .inl ⟨rfl, rfl, rfl, .refl tree⟩, fun _ => ⟨rfl, rfl⟩⟩
  | ok report =>
    have hnow : tree.analyse (s.withOptions o) now migration = .ok (report.datedAt now) := by
      rw [tree.analyse_datedAt _ now, hanalysis]
      rfl
    have hnow' : tree.analyse (s'.withOptions o) now' migration = .ok (report.datedAt now') := by
      rw [← hsame, tree.analyse_datedAt _ now, hanalysis]
      rfl
    -- the texts differ in their times, but whether they can be delivered does not depend on them
    by_cases hreceive : tree.CanReceive (reportPath <|> s.reportPath)
    · obtain ⟨output, after, hdeliver, hdelivered⟩ := exists_deliver_eq (report.datedAt now).text hreceive
      obtain ⟨output', after', hdeliver', hdelivered'⟩ :=
        exists_deliver_eq (report.datedAt now').text hreceive
      have hended : ended = (.ok (report.exitCode, output), after) :=
        FileTree.previewedWith_of_ok hnow hdeliver
      have hended' : ended' = (.ok (report.exitCode, output'), after') :=
        FileTree.previewedWith_of_ok hnow' (hdestination ▸ hdeliver')
      rw [hended, hended']
      refine ⟨rfl, rfl, .inr ⟨report, hdelivered, hdelivered'⟩, ?_⟩
      rintro rfl
      obtain ⟨houtput, hafter⟩ := Prod.mk.inj (hdeliver.symm.trans hdeliver')
      exact ⟨Except.ok.inj houtput, hafter⟩
    · obtain ⟨fault, after, hfiles, hdeliver⟩ := exists_deliver_eq_error hreceive
      have hended : ended = (.error (.report fault), after) :=
        FileTree.previewedWith_of_ok hnow (hdeliver _)
      have hended' : ended' = (.error (.report fault), after) :=
        FileTree.previewedWith_of_ok hnow' (hdestination ▸ hdeliver _)
      rw [hended, hended']
      exact ⟨rfl, rfl, .inl ⟨rfl, rfl, rfl, hfiles⟩, fun _ => ⟨rfl, rfl⟩⟩

end

/-- Options take the place of variables: in any two environments in which there are settings, a preview with
complete options comes to the same, if its report has the same place. The environments are those that the
environment file completes, and it has to complete them: a variable that it cannot set makes a run panic. -/
theorem previewRun_congr {tree : FileTree} {given given' environment environment' : Environment}
    {arguments : List String} {options : Options} {migration : String} {reportPath : Option String}
    (now now' : Instant)
    (harguments : Invocation.parse arguments = .run options (.preview migration reportPath))
    (hoptions : options.AreComplete) (henvironment : tree.environment given = .ok environment)
    (henvironment' : tree.environment given' = .ok environment')
    (hreadable : Settings.AreReadable environment.get?) (hreadable' : Settings.AreReadable environment'.get?)
    (hdestination : (reportPath <|> environment.get? "SCHEMA_LENS_REPORT_PATH") =
      (reportPath <|> environment'.get? "SCHEMA_LENS_REPORT_PATH")) :
    RunsAgree tree (reportPath <|> environment.get? "SCHEMA_LENS_REPORT_PATH") now now'
      ((run FileTree.system given now arguments).run tree)
      ((run FileTree.system given' now' arguments).run tree) := by
  obtain ⟨settings, hsettings⟩ := (Settings.exists_ofVariables_iff _).mpr hreadable
  obtain ⟨settings', hsettings'⟩ := (Settings.exists_ofVariables_iff _).mpr hreadable'
  obtain ⟨log, hrun⟩ := exists_run_eq tree given now harguments
  obtain ⟨log', hrun'⟩ := exists_run_eq tree given' now' harguments
  rw [FileTree.previewed_of_ok henvironment, FileTree.previewedIn_of_ok hsettings] at hrun
  rw [FileTree.previewed_of_ok henvironment', FileTree.previewedIn_of_ok hsettings'] at hrun'
  rw [← (Settings.files_of_ofVariables hsettings).2, ← (Settings.files_of_ofVariables hsettings').2]
    at hdestination
  rw [hrun, hrun', ← (Settings.files_of_ofVariables hsettings).2]
  exact runsAgree_previewedWith now now' migration log log' hoptions hdestination

theorem areComplete_previewOptions : previewOptions.AreComplete := ⟨rfl, rfl, rfl, rfl⟩

/-- Variables of another place are overridden, and those of a database are not used. -/
theorem previewRun_congr_of_elsewhere :
    let tree := FileTree.ofMigration dropOfPosts staleSnapshot []
    let given : Environment := .ofList [("DATABASE_URL", "postgres://app@db.example/shop"),
      ("SCHEMA_LENS_SNAPSHOT_FILE", "elsewhere.json"), ("SCHEMA_LENS_SQL_DIALECT", "postgres")]
    Invocation.parse previewArguments = .run previewOptions (.preview "m.php" none) ∧
      previewOptions.AreComplete ∧ tree.environment ∅ = .ok ∅ ∧ tree.environment given = .ok given ∧
      Settings.AreReadable (∅ : Environment).get? ∧ Settings.AreReadable given.get? ∧
      RunsAgree tree none staleSnapshot.capturedAt Snapshot.ofUsers.capturedAt
        ((run FileTree.system ∅ staleSnapshot.capturedAt previewArguments).run tree)
        ((run FileTree.system given Snapshot.ofUsers.capturedAt previewArguments).run tree) := by
  intro tree given
  have henvironment : tree.environment ∅ = .ok ∅ := by decide +kernel
  have henvironment' : tree.environment given = .ok given := by decide +kernel
  have hreadable : Settings.AreReadable (∅ : Environment).get? := by decide +kernel
  have hreadable' : Settings.AreReadable given.get? := by decide +kernel
  refine ⟨parse_previewArguments, areComplete_previewOptions, henvironment, henvironment', hreadable,
    hreadable', ?_⟩
  exact previewRun_congr _ _ parse_previewArguments areComplete_previewOptions henvironment henvironment'
    hreadable hreadable' (by decide +kernel)

/-- How a run ends in a tree with a migration and a snapshot, where there are settings. -/
theorem exists_report_ofMigration (source : String) (others : List (String × FileNode)) (now : Instant)
    {given environment : Environment} {destination : Option String} :
    let tree := FileTree.ofMigration source staleSnapshot others
    let ended := (run FileTree.system given now previewArguments).run tree
    tree.environment given = .ok environment → Settings.AreReadable environment.get? →
    environment.get? "SCHEMA_LENS_REPORT_PATH" = destination → tree.CanReceive destination →
      ∃ report : Report, report.IsConsistent source staleSnapshot.withComputedChecksum ∧
        ended.1.exitCode = some (if report.destructiveChanges = [] then 0 else 1) ∧
        Delivered tree report.text destination ended.1.output ended.2 := by
  rintro tree ended henvironment hreadable rfl hreceive
  obtain ⟨settings, hsettings⟩ := (Settings.exists_ofVariables_iff _).mpr hreadable
  obtain ⟨log, hrun⟩ := exists_run_eq tree given now parse_previewArguments
  rw [FileTree.previewed_of_ok henvironment] at hrun
  let stages := stagesOfMigration source staleSnapshot others hsettings
  obtain ⟨hcode, hdelivered⟩ := stages.delivered now none log rfl hreceive
  have hended : ended = _ := hrun
  rw [hended]
  exact ⟨stages.report now, stages.isConsistent_report now,
    hcode.trans (congrArg some (stages.exitCode_report now)), hdelivered⟩

/-- Variables that cannot be read end a run. -/
theorem exitCode_run_of_not_areReadable {tree : FileTree} {given environment : Environment} (now : Instant)
    (henvironment : tree.environment given = .ok environment)
    (h : ¬ Settings.AreReadable environment.get?) :
    ((run FileTree.system given now previewArguments).run tree).1.exitCode = some 1 := by
  obtain ⟨log, hrun⟩ := exists_run_eq tree given now parse_previewArguments
  have hended : ∃ cause : SettingsError,
      tree.previewed given now previewOptions "m.php" none = (.error (.settings cause), tree) := by
    rw [FileTree.previewed_of_ok henvironment]
    cases hsettings : Settings.ofVariables environment.get? with
    | error cause =>
      rw [FileTree.previewedIn, hsettings]
      exact ⟨_, rfl⟩
    | ok settings => exact absurd ((Settings.exists_ofVariables_iff _).mp ⟨settings, hsettings⟩) h
  obtain ⟨cause, hcause⟩ := hended
  rw [hrun, hcause]
  rfl

/-- A run over an empty migration has nothing to complain about. -/
theorem exitCode_run_of_empty {others : List (String × FileNode)} {given environment : Environment}
    (now : Instant)
    (henvironment : (FileTree.ofMigration "" staleSnapshot others).environment given = .ok environment)
    (hreadable : Settings.AreReadable environment.get?)
    (hdestination : environment.get? "SCHEMA_LENS_REPORT_PATH" = none) :
    ((run FileTree.system given now previewArguments).run
      (FileTree.ofMigration "" staleSnapshot others)).1.exitCode = some 0 := by
  obtain ⟨report, hconsistent, hzero, -⟩ := exists_report_ofMigration "" others now henvironment hreadable
    hdestination (fun path hpath => nomatch hpath)
  have hchanges : report.destructiveChanges.map (·.operation) = [] := by
    rw [hconsistent.destructiveChanges, operationsFor_parse]
    decide +kernel
  exact hzero.trans (congrArg some (if_pos (List.map_eq_nil_iff.mp hchanges)))

/-- A tree whose environment file gives a report the name of the database. -/
def treeWithEnvironmentFile : FileTree :=
  .ofMigration "" staleSnapshot [(".env", .file "SCHEMA_LENS_REPORT_PATH=$\x7bDB_NAME\x7d".toUTF8)]

/-- In such a tree the name of the database is the place of the report. -/
theorem files_run_of_databaseName {name : String} (hname : name = "first.json" ∨ name = "second.json")
    (now : Instant) :
    let after :=
      ((run FileTree.system (.ofList [("DB_NAME", name)]) now previewArguments).run treeWithEnvironmentFile).2
    (∃ bytes, FileNode.fileAt? ["app", name] after.root = some bytes) ∧
      ∀ place, place ≠ ["app", name] → FileNode.fileAt? place after.root =
        FileNode.fileAt? place treeWithEnvironmentFile.root := by
  have hplace : treeWithEnvironmentFile.namesOf name = ["app", name] := by
    rcases hname with rfl | rfl <;> decide +kernel
  let environment : Environment := .ofList [("DB_NAME", name), ("SCHEMA_LENS_REPORT_PATH", name)]
  have henvironment : treeWithEnvironmentFile.environment (.ofList [("DB_NAME", name)]) = .ok environment := by
    rcases hname with rfl | rfl <;> decide +kernel
  have hdestination : environment.get? "SCHEMA_LENS_REPORT_PATH" = some name := by
    rcases hname with rfl | rfl <;> decide +kernel
  have hreadable : Settings.AreReadable environment.get? := by
    rcases hname with rfl | rfl <;> decide +kernel
  have hreceive : treeWithEnvironmentFile.CanReceive (some name) := by
    rintro path hpath
    obtain rfl := Option.some.inj hpath
    rcases hname with rfl | rfl <;> exact ⟨_, rfl, "", _, rfl⟩
  obtain ⟨report, -, -, -, hdelivered⟩ :=
    exists_report_ofMigration "" _ now henvironment hreadable hdestination hreceive
  rw [← hplace]
  exact ⟨⟨_, hdelivered.file⟩, hdelivered.others⟩

/-- Before variables are overridden they are read. A run with complete options depends on whether a URL can be
read for which it has no use, and on the name of a dialect that it overrides; and where an environment file
stands between the variables and the run, it depends on variables that have nothing to do with previews: they
may be parts of the place of its report, or such that the file cannot set them. -/
theorem previewRun_not_congr :
    let runIn (tree : FileTree) (given : List (String × String)) :=
      (run FileTree.system (.ofList given) staleSnapshot.capturedAt previewArguments).run tree
    let harmless := FileTree.ofMigration "" staleSnapshot []
    Invocation.parse previewArguments = .run previewOptions (.preview "m.php" none) ∧
      previewOptions.AreComplete ∧
      (runIn harmless []).1.exitCode = some 0 ∧
      (runIn harmless [("DATABASE_URL", "nonsense")]).1.exitCode = some 1 ∧
      (runIn harmless [("SCHEMA_LENS_SQL_DIALECT", "oracle")]).1.exitCode = some 1 ∧
      (runIn treeWithNull []).1.exitCode = none ∧
      (runIn treeWithNull [("TOKEN", "")]).1.exitCode = some 0 ∧
      (runIn treeWithEnvironmentFile [("DB_NAME", "first.json")]).2 ≠
        (runIn treeWithEnvironmentFile [("DB_NAME", "second.json")]).2 := by
  intro runIn harmless
  have hrun (tree : FileTree) (given : List (String × String)) : runIn tree given =
      (run FileTree.system (.ofList given) staleSnapshot.capturedAt previewArguments).run tree := rfl
  simp only [hrun]
  have hdirectory : harmless.currentDirectory = .ok "/app" := by decide +kernel
  have hfile : harmless.environmentFile? (Path.ancestors "/app") = none := by decide +kernel
  have henvironment (given : Environment) : harmless.environment given = .ok given := by
    simp only [FileTree.environment, hdirectory, hfile]
  have htoken : treeWithNull.environment (.ofList [("TOKEN", "")]) = .ok (.ofList [("TOKEN", "")]) := by
    decide +kernel
  refine ⟨parse_previewArguments, areComplete_previewOptions, ?_, ?_, ?_, exitCode_run_treeWithNull _, ?_,
    fun hafter => ?_⟩
  · exact exitCode_run_of_empty _ (henvironment ∅) (by decide +kernel) rfl
  · exact exitCode_run_of_not_areReadable _ (henvironment _) (by decide +kernel)
  · exact exitCode_run_of_not_areReadable _ (henvironment _) (by decide +kernel)
  · exact exitCode_run_of_empty _ htoken (by decide +kernel) rfl
  · -- the first run makes a file that the second one does not touch
    obtain ⟨⟨bytes, hwritten⟩, -⟩ := files_run_of_databaseName (.inl rfl) staleSnapshot.capturedAt
    obtain ⟨-, hothers⟩ := files_run_of_databaseName (.inr rfl) staleSnapshot.capturedAt
    have hmissing : FileNode.fileAt? ["app", "first.json"] treeWithEnvironmentFile.root = none := rfl
    rw [← hothers ["app", "first.json"] (by decide), ← hafter, hwritten] at hmissing
    cases hmissing

end MigrationPreview
