import MigrationPreview.Preview.Report
import MigrationPreview.Proofs.Details
import MigrationPreview.Proofs.Diff.Destructive
import MigrationPreview.Proofs.Preview.Exchange

/-!
# The dialogue of a preview

A preview asks for the current schema first. Then it goes through the steps of `down` and asks only about
tables that are dropped: whether the table exists and, if it does, which tables refer to it. Nothing that
was answered before is reused, and the first failure ends the preview.

The dialogue is described by relations, one for a step, one for all steps and one for the preview, which
say what is asked, what the replies are and what they lead to. None of them mentions the code that asks.

## Main definitions

* `DependencyWarning.IsAbout`: a warning is about a step
* `Operation.Dialogue`, `RollbackDialogue`, `PreviewDialogue`: the questions, the replies and the outcome
* `Report.of`: the report, once the schema and the warnings are known

## Main results

* `Operation.exists_conducts_dependencyWarning?`, `exists_conducts_dependencyWarnings`: a step and a run
  of steps lead their dialogue
* `preview_eq`: a preview asks for the schema, then for the warnings, and then nothing more
* `preview_dialogue`: every preview leads its dialogue
-/

namespace MigrationPreview

variable {ε : Type}

/-! ### Dialogues -/

theorem Operation.is_iff {op : Operation} {kind : ObjectKind} {action : Action} :
    op.is kind action ↔ op.kind = kind ∧ op.action = action := by
  simp [is]

/-- The kind of warning that a step may call for. -/
def Operation.dependencyKind? (op : Operation) : Option DependencyKind :=
  match op.kind, op.action with
  | .foreignKey, .drop => some .foreignKeyDrop
  | .index, .drop => some .indexDrop
  | .column, .drop => some .columnDrop
  | .table, .drop => some .tableDrop
  | _, _ => none

/-- A warning is about a step and the tables `names` that refer to what the step drops. -/
structure DependencyWarning.IsAbout (w : DependencyWarning) (op : Operation) (names : List String) :
    Prop where
  kind : op.dependencyKind? = some w.kind
  table : w.table = op.table
  column : w.column = op.details.column
  name : w.name = op.details.name
  referencingTables : w.referencingTables = names
  risk : w.risk = op.risk

/-- What is asked about one step of a rollback, and the warning that follows from the replies. Only a
table that is dropped is asked about. -/
inductive Operation.Dialogue (op : Operation) :
    List (Exchange ε) → Except ε (Option DependencyWarning) → Prop where
  | silent (h : op.dependencyKind? = none) : op.Dialogue [] (.ok none)
  | certain {w : DependencyWarning} (h : w.IsAbout op []) (hkind : w.kind ≠ .tableDrop) :
      op.Dialogue [] (.ok (some w))
  | existenceFails {e : ε} (h : op.is .table .drop) :
      op.Dialogue [⟨.tableExists op.table, .error e⟩] (.error e)
  | missing (h : op.is .table .drop) :
      op.Dialogue [⟨.tableExists op.table, .ok false⟩] (.ok none)
  | referencesFail {e : ε} (h : op.is .table .drop) :
      op.Dialogue [⟨.tableExists op.table, .ok true⟩, ⟨.referencingTables op.table, .error e⟩]
        (.error e)
  | unreferenced (h : op.is .table .drop) :
      op.Dialogue [⟨.tableExists op.table, .ok true⟩, ⟨.referencingTables op.table, .ok []⟩]
        (.ok none)
  | referenced {w : DependencyWarning} {names : List String} (h : op.is .table .drop)
      (hnames : names ≠ []) (hw : w.IsAbout op names) :
      op.Dialogue [⟨.tableExists op.table, .ok true⟩, ⟨.referencingTables op.table, .ok names⟩]
        (.ok (some w))

/-- What is asked about the steps of a rollback, in their order and up to the first failure, and the
warnings in the same order. -/
inductive RollbackDialogue :
    List Operation → List (Exchange ε) → Except ε (List DependencyWarning) → Prop where
  | done : RollbackDialogue [] [] (.ok [])
  | failed {op : Operation} {ops : List Operation} {calls : List (Exchange ε)} {e : ε}
      (h : op.Dialogue calls (.error e)) : RollbackDialogue (op :: ops) calls (.error e)
  | next {op : Operation} {ops : List Operation} {calls calls' : List (Exchange ε)}
      {warning : Option DependencyWarning} {outcome : Except ε (List DependencyWarning)}
      (h : op.Dialogue calls (.ok warning)) (h' : RollbackDialogue ops calls' outcome) :
      RollbackDialogue (op :: ops) (calls ++ calls') (outcome.map (warning.toList ++ ·))

/-- What a preview asks, and the warnings that it reports: the schema comes first, and the steps of the
rollback follow if it is known. -/
inductive PreviewDialogue (down : List Operation) :
    List (Exchange ε) → Except ε (List DependencyWarning) → Prop where
  | schemaFails {e : ε} : PreviewDialogue down [⟨.currentSchema, .error e⟩] (.error e)
  | schemaKnown {calls : List (Exchange ε)} {outcome : Except ε (List DependencyWarning)}
      (schema : Snapshot) (h : RollbackDialogue down calls outcome) :
      PreviewDialogue down (⟨.currentSchema, .ok schema⟩ :: calls) outcome

variable {op : Operation} {ops : List Operation} {calls : List (Exchange ε)}

/-! ### Failures -/

theorem Operation.Dialogue.stopsAtFailure {outcome : Except ε (Option DependencyWarning)}
    (h : op.Dialogue calls outcome) : StopsAtFailure calls outcome := by
  cases h with
  | silent | certain => exact .succeeded (List.forall_mem_nil _)
  | existenceFails => exact .failed (List.forall_mem_nil _)
  | referencesFail => exact .failed (Exchange.forall_answered _ _)
  | missing | unreferenced | referenced => exact .succeeded (by simp [Exchange.Answered])

theorem RollbackDialogue.stopsAtFailure {outcome : Except ε (List DependencyWarning)}
    (h : RollbackDialogue ops calls outcome) : StopsAtFailure calls outcome := by
  induction h with
  | done => exact .succeeded (List.forall_mem_nil _)
  | failed h =>
    cases h.stopsAtFailure with
    | failed hanswered => exact .failed hanswered
  | next h _ ih =>
    cases h.stopsAtFailure with
    | succeeded hanswered => exact .append hanswered ((StopsAtFailure.map_iff _).mpr ih)

theorem PreviewDialogue.stopsAtFailure {outcome : Except ε (List DependencyWarning)}
    (h : PreviewDialogue ops calls outcome) : StopsAtFailure calls outcome := by
  cases h with
  | schemaFails => exact .failed (List.forall_mem_nil _)
  | schemaKnown schema h =>
    exact .append (Exchange.forall_answered .currentSchema schema) h.stopsAtFailure

/-- A step that drops no table is not asked about. -/
theorem Operation.Dialogue.eq_nil {outcome : Except ε (Option DependencyWarning)}
    (h : op.Dialogue calls outcome) (hop : ¬ op.is .table .drop) : calls = [] := by
  cases h <;> first | rfl | contradiction

theorem RollbackDialogue.eq_nil_of_forall {outcome : Except ε (List DependencyWarning)}
    (h : RollbackDialogue ops calls outcome) (hops : ∀ op ∈ ops, ¬ op.is .table .drop) :
    calls = [] := by
  induction h with
  | done => rfl
  | failed h => exact h.eq_nil (hops _ List.mem_cons_self)
  | next h _ ih =>
    rw [h.eq_nil (hops _ List.mem_cons_self), ih fun op hop => hops op (List.mem_cons_of_mem _ hop)]
    rfl

theorem PreviewDialogue.eq_singleton_of_forall {outcome : Except ε (List DependencyWarning)}
    (h : PreviewDialogue ops calls outcome) (hops : ∀ op ∈ ops, ¬ op.is .table .drop) :
    ∃ reply, calls = [⟨.currentSchema, reply⟩] := by
  cases h with
  | schemaFails => exact ⟨_, rfl⟩
  | schemaKnown schema h =>
    rw [h.eq_nil_of_forall hops]
    exact ⟨_, rfl⟩

/-! ### Steps of a rollback -/

section Conducts

open Responder

variable (responder : Responder ε) (earlier : List (Exchange ε))

/-- A table that is dropped is asked about once or twice. -/
theorem exists_conducts_tableDropWarning? (hdrop : op.is .table .drop)
    (hdetails : op.details = { table := op.table }) :
    ∃ calls outcome, op.Dialogue calls outcome ∧
      responder.Conducts (tableDropWarning? responder.provider op.table) earlier calls outcome := by
  unfold tableDropWarning?
  cases hexists : responder earlier (.tableExists op.table) with
  | error e => exact ⟨_, .error e, .existenceFails hdrop, (Conducts.ask hexists).bind_error⟩
  | ok there =>
    have hfirst := Conducts.ask hexists
    cases there with
    | false => exact ⟨_, _, .missing hdrop, hfirst.bind (.pure none)⟩
    | true =>
      -- the second reply may depend on the first call
      cases hreferencing : responder (earlier ++ [⟨.tableExists op.table, .ok true⟩])
        (.referencingTables op.table) with
      | error e =>
        have hsecond := Conducts.ask hreferencing
        exact ⟨_, .error e, .referencesFail hdrop, hfirst.bind hsecond.bind_error⟩
      | ok names =>
        have hsecond := Conducts.ask hreferencing
        cases names with
        | nil => exact ⟨_, _, .unreferenced hdrop, hfirst.bind (hsecond.bind (.pure none))⟩
        | cons name names =>
          refine ⟨_, _, .referenced hdrop (List.cons_ne_nil name names) ?_,
            hfirst.bind (hsecond.bind (.pure _))⟩
          obtain ⟨hkind, haction⟩ := Operation.is_iff.mp hdrop
          exact
            { kind := by simp [Operation.dependencyKind?, hkind, haction]
              table := rfl
              column := (congrArg Details.column hdetails).symm
              name := (congrArg Details.name hdetails).symm
              referencingTables := rfl
              risk := by simp [Operation.risk, hkind, haction] }

/-- The step: every step of `down` leads its dialogue. -/
theorem Operation.exists_conducts_dependencyWarning? (hwell : op.WellFormed) :
    ∃ calls outcome, op.Dialogue calls outcome ∧
      responder.Conducts (op.dependencyWarning? responder.provider) earlier calls outcome := by
  obtain ⟨kind, action, direction, details, line⟩ := op
  -- the details that belong to the kind and the action are those that the warning repeats
  cases hwell with
  | table known =>
    obtain rfl | rfl | rfl := eq_or_eq_or_eq_of_mem known
    · exact ⟨[], _, .silent rfl, .pure none⟩
    · exact ⟨[], _, .silent rfl, .pure none⟩
    · exact exists_conducts_tableDropWarning? responder earlier rfl rfl
  | columnAdd | columnModify | columnRename | indexAdd | foreignKeyAdd =>
    exact ⟨[], _, .silent rfl, .pure none⟩
  | columnDrop | indexDrop | foreignKeyDrop =>
    exact ⟨[], _, .certain ⟨rfl, rfl, rfl, rfl, rfl, rfl⟩ (by simp), .pure _⟩
  | setting hsetting =>
    obtain rfl | rfl | rfl := eq_or_eq_or_eq_of_mem hsetting <;>
      exact ⟨[], _, .silent rfl, .pure none⟩

/-- The run: by induction on the steps, all of them lead their dialogue. -/
theorem exists_conducts_dependencyWarnings (hwell : ∀ op ∈ ops, op.WellFormed) :
    ∃ calls outcome, RollbackDialogue ops calls outcome ∧
      responder.Conducts (dependencyWarnings responder.provider ops) earlier calls outcome := by
  induction ops generalizing earlier with
  | nil => exact ⟨[], _, .done, .pure []⟩
  | cons op ops ih =>
    obtain ⟨calls, outcome, hdialogue, hstep⟩ :=
      op.exists_conducts_dependencyWarning? responder earlier (hwell op List.mem_cons_self)
    cases outcome with
    | error e => exact ⟨calls, .error e, .failed hdialogue, hstep.bind_error⟩
    | ok warning =>
      -- the other steps come behind all calls that were made so far
      obtain ⟨calls', outcome', hdialogue', hrun⟩ :=
        ih (earlier ++ calls) fun op hop => hwell op (List.mem_cons_of_mem _ hop)
      exact ⟨_, _, .next hdialogue hdialogue', hstep.bind hrun.map⟩

end Conducts

/-! ### The shape of a preview -/

/-- The rollback with given warnings. -/
def Rollback.of (dialect : Dialect) (down : List Operation)
    (dependencies : List DependencyWarning) : Rollback :=
  if down.isEmpty then .unavailable noRollbackMessage
  else .analyzed {
    operations := down
    dependencies := dependencies
    sqlPreview := dialect.sqlLines down
    impact := .of down }

/-- The report on a migration, against a given schema and with given warnings about its rollback. -/
def Report.of (dialect : Dialect) (now : Instant) (path source : String) (schema : Snapshot)
    (dependencies : List DependencyWarning) : Report :=
  let script := Script.parse source
  let up := script.operationsFor .up
  let changes := MigrationPreview.destructiveChanges up
  { migration := path
    sourceChecksum := Sha256.hexDigest source
    schemaChecksum := schema.checksum
    generatedAt := now
    script := script.counts
    diff := .of up schema
    destructiveChanges := changes
    rollback := .of dialect (script.operationsFor .down) dependencies
    hasDestructive := !changes.isEmpty }

/-- The warnings that a report lists. -/
def Report.dependencies (r : Report) : List DependencyWarning :=
  (r.rollback.analysis?.map (·.dependencies)).getD []

section Shape

variable {m : Type → Type} [Monad m] [LawfulMonad m] (provider : Provider m) (dialect : Dialect)
  (now : Instant) (path source : String)

theorem simulateRollback_eq : simulateRollback provider dialect source = do
    let down := (Script.parse source).operationsFor .down
    return Rollback.of dialect down (← dependencyWarnings provider down) := by
  unfold simulateRollback Rollback.of
  cases (Script.parse source).operationsFor .down with
  | nil => simp [dependencyWarnings]
  | cons op ops => simp

/-- A preview asks for the schema, then for the warnings, and then it is done. -/
theorem preview_eq : preview provider dialect now path source = do
    let schema ← provider .currentSchema
    let dependencies ← dependencyWarnings provider ((Script.parse source).operationsFor .down)
    return Report.of dialect now path source schema dependencies := by
  unfold preview
  simp only [simulateRollback_eq, Report.of, bind_assoc, pure_bind]

end Shape

/-! ### Previews -/

section Preview

variable {dialect : Dialect} {now : Instant} {path source : String} {schema : Snapshot}

/-- Where there is no rollback there are no warnings that could be left out. -/
theorem Report.dependencies_of {dependencies : List DependencyWarning}
    (h : (Script.parse source).operationsFor .down = [] → dependencies = []) :
    (Report.of dialect now path source schema dependencies).dependencies = dependencies := by
  unfold Report.dependencies Report.of Rollback.of
  by_cases hdown : (Script.parse source).operationsFor .down = []
  · simp [hdown, h hdown, Rollback.analysis?]
  · simp [hdown, Rollback.analysis?]

theorem RollbackDialogue.map_dependencies_of {outcome : Except ε (List DependencyWarning)}
    (h : RollbackDialogue ((Script.parse source).operationsFor .down) calls outcome) :
    (outcome.map (Report.of dialect now path source schema)).map Report.dependencies = outcome := by
  cases outcome with
  | error e => rfl
  | ok dependencies =>
    refine congrArg Except.ok (Report.dependencies_of fun hdown => ?_)
    rw [hdown] at h
    cases h
    rfl

/-- Every preview leads its dialogue, and its outcome is that of the rollback. -/
theorem exists_conducts_preview (responder : Responder ε) (dialect : Dialect) (now : Instant)
    (path source : String) :
    ∃ calls outcome, responder.Conducts (preview responder.provider dialect now path source) []
        calls outcome ∧
      PreviewDialogue ((Script.parse source).operationsFor .down) calls
        (outcome.map Report.dependencies) ∧
      ∀ report, outcome = .ok report → ∃ schema dependencies,
        calls.head? = some ⟨.currentSchema, .ok schema⟩ ∧
          report = .of dialect now path source schema dependencies := by
  rw [preview_eq]
  cases hschema : responder [] .currentSchema with
  | error e =>
    exact ⟨_, .error e, (Responder.Conducts.ask hschema).bind_error, .schemaFails, by simp⟩
  | ok schema =>
    obtain ⟨calls, outcome, hdialogue, hrun⟩ := exists_conducts_dependencyWarnings responder
      [⟨.currentSchema, .ok schema⟩] fun op => wellFormed_of_mem_operationsFor
    refine ⟨_, outcome.map (.of dialect now path source schema),
      (Responder.Conducts.ask hschema).bind hrun.map, ?_, ?_⟩
    · rw [hdialogue.map_dependencies_of]
      exact .schemaKnown schema hdialogue
    · intro report hreport
      cases outcome with
      | error e => cases hreport
      | ok dependencies =>
        obtain rfl := Except.ok.inj hreport
        exact ⟨schema, dependencies, rfl, rfl⟩

/-- For every provider, whatever it replies and wherever it fails: a preview leads its dialogue with the
provider, and the warnings of the report are those of the dialogue. The first call that fails is the last
one, and the preview fails as it did. If no call fails there is a report. Without a step of `down` that
drops a table, the schema is all that is asked for, and only this call can make the preview fail. -/
theorem preview_dialogue (responder : Responder ε) (dialect : Dialect) (now : Instant)
    (path source : String) :
    let down := (Script.parse source).operationsFor .down
    let run := (preview responder.provider dialect now path source).record
    let result := run.1
    let calls := run.2
    responder.Faithful [] calls ∧
    PreviewDialogue down calls (result.map Report.dependencies) ∧
    StopsAtFailure calls result ∧
    ((∀ call ∈ calls, call.Answered) → ∃ report, result = .ok report) ∧
    ((∀ op ∈ down, ¬ op.is .table .drop) → ∃ reply, calls = [⟨.currentSchema, reply⟩] ∧
      ∀ e, result = .error e → reply = .error e) := by
  obtain ⟨calls, result, hconducts, hdialogue, -⟩ :=
    exists_conducts_preview responder dialect now path source
  have hstops : StopsAtFailure calls result := (StopsAtFailure.map_iff _).mp hdialogue.stopsAtFailure
  rw [hconducts.record_eq]
  refine ⟨hconducts.faithful, hdialogue, hstops, hstops.exists_ok, ?_⟩
  intro hdown
  obtain ⟨reply, rfl⟩ := hdialogue.eq_singleton_of_forall hdown
  refine ⟨reply, rfl, ?_⟩
  intro e he
  obtain rfl : result = .error e := he
  exact hstops.reply_eq

end Preview

/-- A migration that drops one table twice and then another one when it is taken back. -/
def droppedTwice : List Char :=
  ['\n'].intercalate <| List.map String.toList
    ["class M \x7b public function down() \x7b",
      "  Schema::drop('users');",
      "  Schema::drop('users');",
      "  Schema::drop('posts');",
      "\x7d \x7d"]

theorem operationsFor_droppedTwice :
    (Script.parse (String.ofList droppedTwice)).operationsFor .down =
      [⟨.table, .drop, .down, { table := "users" }, 2⟩,
        ⟨.table, .drop, .down, { table := "users" }, 3⟩,
        ⟨.table, .drop, .down, { table := "posts" }, 4⟩] := by
  rw [operationsFor_parse, String.toList_ofList]
  decide +kernel

/-- A provider that fails from its fifth call on. -/
def interrupted : Responder String := fun calls question =>
  if calls.length < 4 then
    .ok <| match question with
      | .currentSchema => Snapshot.ofUsers
      | .tableExists _ | .columnExists _ _ => true
      | .tableStructure _ => none
      | .referencingTables _ => ["orders"]
  else .error "connection lost"

/-- The table that is dropped again is asked about again, and nothing is asked behind a failure. -/
theorem preview_dialogue_of_interrupted :
    let run := (preview interrupted.provider .postgres Snapshot.ofUsers.capturedAt "drop.php"
      (String.ofList droppedTwice)).record
    run.2.map (·.question) = [.currentSchema, .tableExists "users", .referencingTables "users",
      .tableExists "users", .referencingTables "users"] ∧
    StopsAtFailure run.2 run.1 ∧ run.1.map Report.dependencies = .error "connection lost" := by
  obtain ⟨-, -, hstops, -⟩ := preview_dialogue interrupted .postgres Snapshot.ofUsers.capturedAt
    "drop.php" (String.ofList droppedTwice)
  rw [preview_eq, operationsFor_droppedTwice] at hstops ⊢
  exact ⟨by decide +kernel, hstops, by decide +kernel⟩

end MigrationPreview
