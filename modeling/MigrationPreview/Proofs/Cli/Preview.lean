import MigrationPreview.Proofs.Cli.Run
import MigrationPreview.Proofs.Settings.Variables

/-!
# Previews tell the truth

What a run is asked to preview it previews in stages: settings, migration, snapshot and source. If one of them
fails, nothing has happened but a failure. If all succeed there is a report, and wherever it is to go it goes
as a whole and to this place alone, whatever it says. Only afterwards does the exit code tell whether the
migration destroys something, so an exit code of zero says that all is well and that the report is there.

There are two limits to this. An environment file can ask for a variable that cannot be set; such a run panics
before its first stage. And a report whose place cannot be written is nowhere.

## Main definitions

* `PreviewStages`: what the stages of a preview come by
* `FileTree.CanReceive`: whether a report can be delivered
* `Delivered`: a report is at its destination

## Main results

* `previewRun_truthful`: what the exit code, the output and the files tell
* `previewRun_not_truthful`: some runs have no exit code, and some reports are nowhere
-/

namespace MigrationPreview

/-! ### Settings -/

/-- The files among the settings are those in the variables. -/
theorem Settings.files_of_ofVariables {valueOf? : String → Option String} {settings : Settings}
    (h : Settings.ofVariables valueOf? = .ok settings) :
    settings.analysis.snapshotFile = valueOf? "SCHEMA_LENS_SNAPSHOT_FILE" ∧
      settings.analysis.reportPath = valueOf? "SCHEMA_LENS_REPORT_PATH" := by
  have hloads := Settings.ofVariables_eq_ok_iff.1 h
  exact ⟨hloads.snapshotFile, hloads.reportPath⟩

/-! ### Stages -/

/-- What a preview over a snapshot file comes by in a tree and an environment, stage by stage, until it can make
its report. -/
structure PreviewStages (tree : FileTree) (environment : Environment) (options : Options)
    (migration snapshotFile : String) where
  settings : Settings
  path : String
  loaded : LoadedSnapshot
  source : String
  settings_load : Settings.ofVariables environment.get? = .ok settings
  migration_resolves : ((findMigration FileTree.system
    (settings.analysis.withOptions options).migrationsPath migration).run tree).1 = .ok path
  snapshot_loads : ((loadSnapshot FileTree.system snapshotFile).run tree).1 = .ok loaded
  source_reads : tree.readText path = .ok source

namespace PreviewStages

variable {tree : FileTree} {environment : Environment} {options : Options} {migration snapshotFile : String}

/-- The report that is made when the stages are behind. -/
def report (stages : PreviewStages tree environment options migration snapshotFile) (now : Instant) : Report :=
  Id.run (preview stages.loaded.snapshot.provider (stages.settings.analysis.withOptions options).dialect now
    stages.path stages.source)

theorem exitCode_report (stages : PreviewStages tree environment options migration snapshotFile) (now : Instant) :
    (stages.report now).exitCode = if (stages.report now).destructiveChanges = [] then 0 else 1 := by
  have hrisk : (stages.report now).highestRisk?.isSome ↔ (stages.report now).destructiveChanges ≠ [] := by
    rw [Report.highestRisk?, RiskLevel.isSome_highest?_iff, ne_eq, List.map_eq_nil_iff]
  rw [Report.exitCode]
  by_cases hchanges : (stages.report now).destructiveChanges = []
  · rw [if_neg (fun h => hrisk.mp h hchanges), if_pos hchanges]
  · rw [if_pos (hrisk.mpr hchanges), if_neg hchanges]

/-- The report is consistent with the migration and the snapshot that it is made of. -/
theorem isConsistent_report (stages : PreviewStages tree environment options migration snapshotFile)
    (now : Instant) : (stages.report now).IsConsistent stages.source stages.loaded.snapshot := by
  obtain ⟨report, hreport, hconsistent⟩ : ∃ report,
      (preview stages.loaded.snapshot.provider (stages.settings.analysis.withOptions options).dialect now
        stages.path stages.source : Id Report) = pure report ∧
      report.IsConsistent stages.source stages.loaded.snapshot := exists_preview_provider ..
  have heq : stages.report now = report := congrArg Id.run hreport
  rwa [heq]

/-- The stages come by nothing but what the tree and the environment determine. -/
instance : Subsingleton (PreviewStages tree environment options migration snapshotFile) where
  allEq stages stages' := by
    obtain ⟨settings, path, loaded, source, hsettings, hpath, hloaded, hsource⟩ := stages
    obtain ⟨settings', path', loaded', source', hsettings', hpath', hloaded', hsource'⟩ := stages'
    obtain rfl := Except.ok.inj (hsettings.symm.trans hsettings')
    obtain rfl := Except.ok.inj (hpath.symm.trans hpath')
    obtain rfl := Except.ok.inj (hloaded.symm.trans hloaded')
    obtain rfl := Except.ok.inj (hsource.symm.trans hsource')
    rfl

end PreviewStages

section

variable {tree : FileTree} {environment : Environment} {options : Options} {migration snapshotFile : String}

theorem Settings.snapshotFile_withOptions {settings : Settings}
    (hsettings : Settings.ofVariables environment.get? = .ok settings)
    (hfile : (options.snapshotFile <|> environment.get? "SCHEMA_LENS_SNAPSHOT_FILE") =
      some snapshotFile) : (settings.analysis.withOptions options).snapshotFile = some snapshotFile := by
  rw [← hfile, ← (Settings.files_of_ofVariables hsettings).1]
  rfl

/-- With all stages behind it, a preview delivers its report. -/
theorem PreviewStages.previewedIn_eq (stages : PreviewStages tree environment options migration snapshotFile)
    (now : Instant) (reportPath : Option String)
    (hfile : (options.snapshotFile <|> environment.get? "SCHEMA_LENS_SNAPSHOT_FILE") =
      some snapshotFile) :
    let delivery := tree.deliver (stages.report now).text
      (reportPath <|> environment.get? "SCHEMA_LENS_REPORT_PATH")
    tree.previewedIn environment now options migration reportPath =
      (delivery.1.map ((stages.report now).exitCode, ·), delivery.2) := by
  have hanalysis : tree.analyse (stages.settings.analysis.withOptions options) now migration =
      .ok (stages.report now) := by
    simp only [FileTree.analyse, stages.migration_resolves, stages.snapshot_loads, stages.source_reads,
      Settings.snapshotFile_withOptions stages.settings_load hfile, bind, Except.bind, Except.mapError,
      Except.map]
    rfl
  rw [FileTree.previewedIn_of_ok stages.settings_load, ← (Settings.files_of_ofVariables stages.settings_load).2]
  exact FileTree.previewedWith_of_ok hanalysis rfl

/-- If a stage fails, so does the preview, and the tree is as it was. -/
theorem exists_previewedIn_eq_error (now : Instant) (reportPath : Option String)
    (hfile : (options.snapshotFile <|> environment.get? "SCHEMA_LENS_SNAPSHOT_FILE") =
      some snapshotFile) (h : IsEmpty (PreviewStages tree environment options migration snapshotFile)) :
    ∃ cause, cause.exitCode? = some 1 ∧
      tree.previewedIn environment now options migration reportPath = (.error cause, tree) := by
  cases hsettings : Settings.ofVariables environment.get? with
  | error cause =>
    rw [FileTree.previewedIn, hsettings]
    exact ⟨_, rfl, rfl⟩
  | ok settings =>
    have hanalysis : ∃ cause, cause.exitCode? = some 1 ∧
        tree.analyse (settings.analysis.withOptions options) now migration = .error cause := by
      simp only [FileTree.analyse, Settings.snapshotFile_withOptions hsettings hfile]
      cases hpath : ((findMigration FileTree.system
        (settings.analysis.withOptions options).migrationsPath migration).run tree).1 with
      | error cause => exact ⟨_, rfl, rfl⟩
      | ok path =>
        cases hloaded : ((loadSnapshot FileTree.system snapshotFile).run tree).1 with
        | error cause => exact ⟨_, rfl, rfl⟩
        | ok loaded =>
          cases hsource : tree.readText path with
          | error fault =>
            simp only [bind, Except.bind, Except.mapError, Except.map, hsource]
            exact ⟨_, rfl, rfl⟩
          | ok source => exact h.elim ⟨settings, path, loaded, source, hsettings, hpath, hloaded, hsource⟩
    obtain ⟨cause, hcode, hcause⟩ := hanalysis
    exact ⟨cause, hcode, (FileTree.previewedIn_of_ok hsettings).trans (FileTree.previewedWith_of_error hcause)⟩

end

/-! ### Deliveries -/

/-- Whether a report can be delivered: to a path only as the tree allows, but always as output. -/
def FileTree.CanReceive (tree : FileTree) (destination : Option String) : Prop :=
  ∀ path ∈ destination, tree.Receives path

/-- A text is at its destination, and nowhere else: either it is the output, or the only file that has changed
holds it. -/
def Delivered (tree : FileTree) (text : String) (destination : Option String) (output : String)
    (after : FileTree) : Prop :=
  match destination with
  | none => output = text ++ "\n" ∧ after = tree
  | some path => output = "" ∧ tree.DeliveredTo path text after

section

variable {tree : FileTree} {destination : Option String}

theorem exists_deliver_eq (text : String) (h : tree.CanReceive destination) :
    ∃ output after, tree.deliver text destination = (.ok output, after) ∧
      Delivered tree text destination output after := by
  cases destination with
  | none => exact ⟨_, _, rfl, rfl, rfl⟩
  | some path =>
    obtain ⟨prepared, hprepare, hwritable⟩ := h path rfl
    obtain ⟨after, hwrite⟩ := hwritable.exists_write text
    refine ⟨"", after, ?_, rfl, FileTree.deliveredTo_write hprepare hwrite⟩
    simp only [FileTree.deliver, hprepare, FileTree.writeOut, hwrite]

/-- A report that cannot be delivered changes no file, and it is the same to all texts. -/
theorem exists_deliver_eq_error (h : ¬ tree.CanReceive destination) :
    ∃ fault after, tree.SameFiles after ∧
      ∀ text, tree.deliver text destination = (.error (.report fault), after) := by
  cases destination with
  | none => exact absurd (fun _ => nofun) h
  | some path =>
    simp only [FileTree.deliver]
    obtain ⟨⟨fault | ⟨⟩, prepared⟩, hprepare⟩ : ∃ result, tree.prepare path = result := ⟨_, rfl⟩
    · exact ⟨fault, prepared, FileTree.sameFiles_prepare hprepare, fun _ => by rw [hprepare]⟩
    · rw [hprepare]
      -- the place of a file is found without its text, so what fails for one text fails for all
      obtain ⟨place, hplace, -⟩ := FileTree.exists_place_of_write prepared path
      cases place with
      | error fault =>
        have hwrite (text : String) : prepared.write path text = .error fault := hplace text
        refine ⟨fault, prepared, FileTree.sameFiles_prepare hprepare, fun text => ?_⟩
        simp only [FileTree.writeOut, hwrite text]
      | ok =>
        refine absurd (fun other hother => ?_) h
        obtain rfl := Option.some.inj hother
        exact ⟨prepared, hprepare, "", _, hplace ""⟩

end

/-! ### Runs -/

section

variable {tree : FileTree} {environment : Environment} {options : Options} {migration snapshotFile : String}
  (stages : PreviewStages tree environment options migration snapshotFile) (now : Instant)
  (reportPath : Option String) (log : List LogEntry)
  (hfile : (options.snapshotFile <|> environment.get? "SCHEMA_LENS_SNAPSHOT_FILE") =
    some snapshotFile)

include stages hfile

/-- With all stages behind it, a preview tells by its exit code what its report says. -/
theorem PreviewStages.delivered
    (h : tree.CanReceive (reportPath <|> environment.get? "SCHEMA_LENS_REPORT_PATH")) :
    let ended := tree.previewedIn environment now options migration reportPath
    (Outcome.of log ended.1).exitCode = some (stages.report now).exitCode ∧
      Delivered tree (stages.report now).text
        (reportPath <|> environment.get? "SCHEMA_LENS_REPORT_PATH")
        (Outcome.of log ended.1).output ended.2 := by
  obtain ⟨output, after, hdeliver, hdelivered⟩ := exists_deliver_eq (stages.report now).text h
  rw [stages.previewedIn_eq now reportPath hfile, hdeliver]
  exact ⟨rfl, hdelivered⟩

theorem PreviewStages.undelivered
    (h : ¬ tree.CanReceive (reportPath <|> environment.get? "SCHEMA_LENS_REPORT_PATH")) :
    let ended := tree.previewedIn environment now options migration reportPath
    (Outcome.of log ended.1).exitCode = some 1 ∧ (Outcome.of log ended.1).output = "" ∧
      tree.SameFiles ended.2 := by
  obtain ⟨fault, after, hsame, hdeliver⟩ := exists_deliver_eq_error h
  rw [stages.previewedIn_eq now reportPath hfile, hdeliver]
  exact ⟨rfl, rfl, hsame⟩

end

section

variable {tree : FileTree} {environment : Environment} {options : Options} {migration snapshotFile : String}

/-- In an environment a preview over a snapshot file tells by its exit code and by its output what has
happened. -/
theorem previewedIn_truthful (now : Instant) (reportPath : Option String) (log : List LogEntry)
    (hfile : (options.snapshotFile <|> environment.get? "SCHEMA_LENS_SNAPSHOT_FILE") = some snapshotFile) :
    let ended := tree.previewedIn environment now options migration reportPath
    let outcome := Outcome.of log ended.1
    let destination := reportPath <|> environment.get? "SCHEMA_LENS_REPORT_PATH"
    (outcome.exitCode = some 0 ∨ outcome.exitCode = some 1) ∧
      (outcome.exitCode = some 0 ↔
        ∃ stages : PreviewStages tree environment options migration snapshotFile,
          tree.CanReceive destination ∧ (stages.report now).destructiveChanges = []) ∧
      (∀ stages : PreviewStages tree environment options migration snapshotFile,
        (tree.CanReceive destination →
          Delivered tree (stages.report now).text destination outcome.output ended.2) ∧
        (¬ tree.CanReceive destination → outcome.output = "" ∧ tree.SameFiles ended.2)) ∧
      (IsEmpty (PreviewStages tree environment options migration snapshotFile) →
        outcome.output = "" ∧ ended.2 = tree) := by
  intro ended outcome destination
  rcases isEmpty_or_nonempty (PreviewStages tree environment options migration snapshotFile) with
    hnone | ⟨⟨stages⟩⟩
  · -- a stage fails
    obtain ⟨cause, hcode, hcause⟩ := exists_previewedIn_eq_error now reportPath hfile hnone
    have hended : ended = (.error cause, tree) := hcause
    have houtcome : outcome = .of log (.error cause) := congrArg (Outcome.of log ·.1) hended
    have hexit : outcome.exitCode = some 1 := by rw [houtcome, ← hcode]; rfl
    refine ⟨.inr hexit, ⟨fun hzero => ?_, fun ⟨stages, _⟩ => hnone.elim stages⟩,
      fun stages => hnone.elim stages, fun _ => ⟨by rw [houtcome]; rfl, by rw [hended]⟩⟩
    rw [hexit] at hzero
    cases hzero
  · by_cases hreceive : tree.CanReceive destination
    · -- the report is delivered, so its changes alone decide about the exit code
      have hdelivered (stages : PreviewStages tree environment options migration snapshotFile) :=
        stages.delivered now reportPath log hfile hreceive
      have hexit (stages : PreviewStages tree environment options migration snapshotFile) :
          outcome.exitCode = some (if (stages.report now).destructiveChanges = [] then 0 else 1) :=
        (hdelivered stages).1.trans (congrArg some (stages.exitCode_report now))
      refine ⟨?_, ⟨fun hzero => ⟨stages, hreceive, ?_⟩, fun ⟨stages', _, hchanges⟩ => ?_⟩,
        fun stages' => ⟨fun _ => (hdelivered stages').2, absurd hreceive⟩, fun hnone => hnone.elim stages⟩
      · rw [hexit stages]
        split_ifs
        · exact .inl rfl
        · exact .inr rfl
      · by_contra hchanges
        rw [hexit stages, if_neg hchanges] at hzero
        cases hzero
      · rw [hexit stages', if_pos hchanges]
    · -- there is a report, but no place for it
      obtain ⟨hone, hempty, hsame⟩ := stages.undelivered now reportPath log hfile hreceive
      refine ⟨.inr hone, ⟨fun hzero => ?_, fun ⟨_, hcan, _⟩ => absurd hcan hreceive⟩, fun _ => ?_,
        fun hnone => hnone.elim stages⟩
      · rw [hone] at hzero
        cases hzero
      · exact ⟨fun hcan => absurd hcan hreceive, fun _ => ⟨hempty, hsame⟩⟩

end

/-- Every run that is asked for a preview over a snapshot file tells by its exit code and by its output what
has happened, unless the environment file asks for a variable that cannot be set: such a run panics, without
an exit code of its own, with no output and no change. It exits with zero exactly if all stages succeed, the
report can be delivered and there is nothing destructive in it; otherwise it exits with one. If the stages
succeed and the report can be delivered, it is delivered, even if there is something destructive in it. And a
run of which a stage fails has no output and changes nothing. -/
theorem previewRun_truthful {tree : FileTree} {given : Environment} {arguments : List String}
    {options : Options} {migration : String} {reportPath : Option String} (now : Instant)
    (harguments : Invocation.parse arguments = .run options (.preview migration reportPath)) :
    ∃ outcome after, (run FileTree.system given now arguments).run tree = (outcome, after) ∧
      (∀ cause, tree.environment given = .error cause →
        given.get? cause.name = none ∧ outcome.exitCode = none ∧ outcome.output = "" ∧ after = tree) ∧
      ∀ environment snapshotFile, tree.environment given = .ok environment →
        (options.snapshotFile <|> environment.get? "SCHEMA_LENS_SNAPSHOT_FILE") = some snapshotFile →
        let destination := reportPath <|> environment.get? "SCHEMA_LENS_REPORT_PATH"
        environment.Extends given ∧
        (outcome.exitCode = some 0 ∨ outcome.exitCode = some 1) ∧
        (outcome.exitCode = some 0 ↔
          ∃ stages : PreviewStages tree environment options migration snapshotFile,
            tree.CanReceive destination ∧ (stages.report now).destructiveChanges = []) ∧
        (∀ stages : PreviewStages tree environment options migration snapshotFile,
          (tree.CanReceive destination →
            Delivered tree (stages.report now).text destination outcome.output after) ∧
          (¬ tree.CanReceive destination → outcome.output = "" ∧ tree.SameFiles after)) ∧
        (IsEmpty (PreviewStages tree environment options migration snapshotFile) →
          outcome.output = "" ∧ after = tree) := by
  obtain ⟨log, hrun⟩ := exists_run_eq tree given now harguments
  refine ⟨_, _, hrun, fun cause hcause => ?_, fun environment snapshotFile henvironment hfile => ?_⟩
  · rw [FileTree.previewed_of_error hcause]
    exact ⟨FileTree.get?_name_of_environment hcause, rfl, rfl, rfl⟩
  rw [FileTree.previewed_of_ok henvironment]
  exact ⟨FileTree.extends_of_environment henvironment, previewedIn_truthful now reportPath log hfile⟩

/-- A tree with a migration and a snapshot among other nodes in its working directory. -/
def FileTree.ofMigration (source : String) (s : Snapshot) (others : List (String × FileNode)) : FileTree where
  root := .directory [("app", .directory
    (("m.php", .file source.toUTF8) :: ("schema.json", .file s.fileText.toUTF8) :: others))]
  workingDirectory := ["app"]

/-- The options for a preview of the migration in such a tree. -/
def previewOptions : Options where
  snapshotFile := some "schema.json"
  schema := some "shop"
  dialect := some .mySql
  migrationsPath := some "migrations"

/-- The arguments with these options. -/
def previewArguments : List String :=
  ["preview", "m.php", "--snapshot-file", "schema.json", "--schema", "shop", "--dialect", "mysql",
    "--migrations-path", "migrations"]

/-- The node of a name in such a tree. -/
theorem FileTree.find_ofMigration {source : String} {s : Snapshot} {others : List (String × FileNode)}
    {name : String} {node : FileNode} (hfault : pathFault? name = none)
    (hrelative : Path.isAbsolute name = false) (hsteps : Path.steps name = [name])
    (hname : name ∉ ["", ".", ".."])
    (h : (("m.php", .file source.toUTF8) :: ("schema.json", .file s.fileText.toUTF8) :: others).lookup name =
      some node) : (ofMigration source s others).find name = .ok node := by
  have hstart : (ofMigration source s others).steps name = ["app", name] := by
    rw [FileTree.steps, start, hrelative, hsteps]
    rfl
  rw [find, hfault, hstart]
  dsimp only [ofMigration]
  rw [FileNode.walk_name (by decide) rfl, FileNode.walk_name hname h, FileNode.walk]

theorem FileTree.find_migration (source : String) (s : Snapshot) (others : List (String × FileNode)) :
    (ofMigration source s others).find "m.php" = .ok (.file source.toUTF8) :=
  find_ofMigration rfl rfl (by decide +kernel) (by decide) rfl

theorem FileTree.find_snapshot (source : String) (s : Snapshot) (others : List (String × FileNode)) :
    (ofMigration source s others).find "schema.json" = .ok (.file s.fileText.toUTF8) :=
  find_ofMigration rfl rfl (by decide +kernel) (by decide) rfl

/-- In such a tree all stages succeed behind the settings. -/
def stagesOfMigration (source : String) (s : Snapshot) (others : List (String × FileNode))
    {environment : Environment} {settings : Settings}
    (h : Settings.ofVariables environment.get? = .ok settings) :
    PreviewStages (FileTree.ofMigration source s others) environment previewOptions "m.php"
      "schema.json" where
  settings := settings
  path := "m.php"
  loaded := ⟨s.withComputedChecksum, s.checksum⟩
  source := source
  settings_load := h
  migration_resolves := by
    have hfile : (FileTree.ofMigration source s others).isFile "m.php" = true := by
      rw [FileTree.isFile, FileTree.find_migration]
    have hrun (tree : FileTree) : (FileTree.system.isFile "m.php").run tree =
        pure (tree.isFile "m.php", tree) := rfl
    rw [findMigration, StateT.run_bind, hrun, hfile, pure_bind]
    rfl
  snapshot_loads := by
    rw [loadSnapshot_system, FileTree.readText, FileTree.read, FileTree.find_snapshot]
    simp only [Except.bind, FileTree.textOfBytes_toUTF8, LoadedSnapshot.ofText?_fileText, Option.elim_some]
  source_reads := by
    rw [FileTree.readText, FileTree.read, FileTree.find_migration]
    exact FileTree.textOfBytes_toUTF8 source

/-- A migration that drops a table. -/
def dropOfPosts : String :=
  "class M \x7b public function up() \x7b Schema::drop('posts'); \x7d \x7d"

/-- A migration with a destructive change makes the run exit with one, but the report is there, below a
directory that had to be made. -/
theorem previewRun_truthful_of_drop :
    let tree := FileTree.ofMigration dropOfPosts staleSnapshot []
    let arguments := previewArguments ++ ["--report", "/app/out/report.json"]
    Invocation.parse arguments = .run previewOptions (.preview "m.php" (some "/app/out/report.json")) ∧
      tree.environment ∅ = .ok ∅ ∧
      ∃ outcome after, ∃ report : Report, (run FileTree.system ∅ staleSnapshot.capturedAt arguments).run tree =
          (outcome, after) ∧
        outcome.exitCode = some 1 ∧ outcome.output = "" ∧ report.destructiveChanges.length = 1 ∧
        after.readText "/app/out/report.json" = .ok report.text := by
  intro tree arguments
  have harguments : Invocation.parse arguments =
      .run previewOptions (.preview "m.php" (some "/app/out/report.json")) := by decide +kernel
  have henvironment : tree.environment ∅ = .ok ∅ := by decide +kernel
  have hsettings : Settings.ofVariables (∅ : Environment).get? = .ok {} := rfl
  have hreceive : tree.CanReceive (some "/app/out/report.json") := by
    rintro path hpath
    obtain rfl := Option.some.inj hpath
    exact ⟨_, rfl, "", _, rfl⟩
  let stages := stagesOfMigration dropOfPosts staleSnapshot [] hsettings
  have hchanges : (stages.report staleSnapshot.capturedAt).destructiveChanges.length = 1 := by
    have hoperations := (stages.isConsistent_report staleSnapshot.capturedAt).destructiveChanges
    rw [← List.length_map, hoperations, operationsFor_parse]
    change ((operationsIn .up dropOfPosts.toList).filter (·.isDestructive)).length = 1
    decide +kernel
  obtain ⟨outcome, after, (hrun : (run FileTree.system ∅ _ arguments).run tree = _), -, hpreview⟩ :=
    previewRun_truthful staleSnapshot.capturedAt harguments
  obtain ⟨-, hcode, hzero, hdelivered, -⟩ := hpreview ∅ "schema.json" henvironment rfl
  obtain ⟨hempty, hdelivered⟩ := (hdelivered stages).1 hreceive
  refine ⟨harguments, henvironment, outcome, after, stages.report staleSnapshot.capturedAt, hrun, ?_, hempty,
    hchanges, ?_⟩
  · -- an exit code of zero would mean a report without changes, and there is only one report
    refine hcode.resolve_left fun hnone => ?_
    obtain ⟨stages', -, hnone⟩ := hzero.mp hnone
    rw [Subsingleton.elim stages' stages] at hnone
    simp [hnone] at hchanges
  · exact hdelivered.readText

theorem parse_previewArguments :
    Invocation.parse previewArguments = .run previewOptions (.preview "m.php" none) := by decide +kernel

/-- A directory takes no report. -/
theorem FileTree.not_canReceive_of_directory {tree : FileTree} {name : String}
    (hparent : Path.parent? name = some "") (hwrite : tree.write name "" = .error .isADirectory) :
    ¬ tree.CanReceive (some name) := by
  intro h
  obtain ⟨prepared, hprepare, hwritable⟩ := h name rfl
  rw [prepare, hparent] at hprepare
  obtain rfl := (Prod.mk.inj hprepare).2
  obtain ⟨after, hafter⟩ := hwritable.exists_write ""
  rw [hwrite] at hafter
  cases hafter

/-- A tree whose environment file gives a variable a null character. -/
def treeWithNull : FileTree := .ofMigration "" staleSnapshot [(".env", .file "TOKEN=\x00".toUTF8)]

/-- In such a tree a run panics in which the variable is not set. -/
theorem exitCode_run_treeWithNull (now : Instant) :
    ((run FileTree.system ∅ now previewArguments).run treeWithNull).1.exitCode = none := by
  have hnull : treeWithNull.environment ∅ = .error ⟨"TOKEN", "\x00", by decide⟩ := by decide +kernel
  obtain ⟨log, hpanics⟩ := exists_run_eq treeWithNull ∅ now parse_previewArguments
  rw [hpanics, FileTree.previewed_of_error hnull]
  rfl

/-- Not every run has an exit code: the value of a variable in the environment file may hold a null character.
And not every report is somewhere: with all stages behind it, a run may find a directory at its path. -/
theorem previewRun_not_truthful :
    let runIn (tree : FileTree) (arguments : List String) :=
      (run FileTree.system ∅ staleSnapshot.capturedAt arguments).run tree
    let blocked := FileTree.ofMigration "" staleSnapshot [("out", .directory [])]
    let arguments := previewArguments ++ ["--report", "out"]
    Invocation.parse previewArguments = .run previewOptions (.preview "m.php" none) ∧
      (runIn treeWithNull previewArguments).1.exitCode = none ∧
      Invocation.parse arguments = .run previewOptions (.preview "m.php" (some "out")) ∧
      blocked.environment ∅ = .ok ∅ ∧
      Nonempty (PreviewStages blocked ∅ previewOptions "m.php" "schema.json") ∧
      (runIn blocked arguments).1.output = "" ∧ blocked.SameFiles (runIn blocked arguments).2 := by
  intro runIn blocked arguments
  have harguments : Invocation.parse arguments = .run previewOptions (.preview "m.php" (some "out")) := by
    decide +kernel
  have henvironment : blocked.environment ∅ = .ok ∅ := by decide +kernel
  have hsettings : Settings.ofVariables (∅ : Environment).get? = .ok {} := rfl
  have stages : PreviewStages blocked ∅ previewOptions "m.php" "schema.json" :=
    stagesOfMigration "" staleSnapshot [("out", .directory [])] hsettings
  have hblocked : ¬ blocked.CanReceive (some "out") := FileTree.not_canReceive_of_directory rfl rfl
  obtain ⟨log, hends⟩ := exists_run_eq blocked ∅ staleSnapshot.capturedAt harguments
  rw [FileTree.previewed_of_ok henvironment] at hends
  obtain ⟨-, hempty, hsame⟩ := stages.undelivered staleSnapshot.capturedAt (some "out") log rfl hblocked
  have hrun (tree : FileTree) (arguments : List String) : runIn tree arguments =
      (run FileTree.system ∅ staleSnapshot.capturedAt arguments).run tree := rfl
  refine ⟨parse_previewArguments, exitCode_run_treeWithNull _, harguments, henvironment, ⟨stages⟩, ?_⟩
  rw [hrun, hends]
  dsimp only
  exact ⟨hempty, hsame⟩

end MigrationPreview
