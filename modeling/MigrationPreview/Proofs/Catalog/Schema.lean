import MigrationPreview.Proofs.Catalog.Table

/-!
# The conversation about a schema

A live schema is read with a query for the settings of the database, a query for the list of the tables,
and three queries for each table in the list. The first reply that is not read ends the conversation, and
then there is no snapshot. Otherwise the snapshot consists of exactly the rows of the replies.

The conversation is described by relations, one for a table, one for the list of the tables and one for
the schema. None of them mentions the code that asks.

## Main definitions

* `TablesDialogue`, `SchemaDialogue`: what is asked, what the replies are and what they come to
* `SchemaReading`: all result sets and what is read from them
* `Query.ofTables`, `listedNames`: all queries about a schema, and the tables that they are about

## Main results

* `TablesDialogue.leads`, `SchemaDialogue.leads`: a run over the list, and the whole call, lead their
  dialogues
* `SchemaDialogue.exists_heldUp`: there is a dialogue for all replies
* `currentSchema_dialogue`: a schema is read as a whole or not at all, by the replies alone
-/

namespace MigrationPreview

open Introspection Session

variable {schema : String} {now : Instant} {defaults : DatabaseDefaults}

/-! ### Queries -/

/-- All queries about a schema with tables of given names. -/
def Query.ofTables (schema : String) (names : List String) : List Query :=
  .settings :: .tableList schema :: names.flatMap (ofTable schema)

/-- The names in the rows of a list of tables, up to the first that cannot be decoded. -/
def Row.tableNames : List Row → List String
  | [] => []
  | row :: rows =>
    match row.text? "table_name" with
    | some name => name :: tableNames rows
    | none => []

/-- The names of the tables in the second reply of a conversation. -/
def listedNames : List Turn → List String
  | _ :: ⟨_, .result list⟩ :: _ => Row.tableNames list.toRows
  | _ => []

/-! ### Dialogues -/

/-- What is asked about the tables of a list, in the order of its rows. The name of a table is decoded when
the tables before it are read. -/
inductive TablesDialogue (schema : String) (defaults : DatabaseDefaults) :
    List Row → List Turn → Except Stop (List Table) → Prop where
  | done : TablesDialogue schema defaults [] [] (.ok [])
  | unnamed {row : Row} {rows : List Row} (hname : row.text? "table_name" = none) :
      TablesDialogue schema defaults (row :: rows) [] (.error (.undecodable "table_name"))
  | stopped {row : Row} {rows : List Row} {name : String} {turns : List Turn} {stop : Stop}
      (hname : row.text? "table_name" = some name)
      (h : TableDialogue schema defaults name turns (.error stop)) :
      TablesDialogue schema defaults (row :: rows) turns (.error stop)
  | next {row : Row} {rows : List Row} {r : TableReading} {turns : List Turn}
      {outcome : Except Stop (List Table)}
      (hname : row.text? "table_name" = some r.table.name) (h : r.Faithful defaults)
      (h' : TablesDialogue schema defaults rows turns outcome) :
      TablesDialogue schema defaults (row :: rows) (r.turns schema ++ turns)
        (outcome.map (r.table :: ·))

/-- What is asked about a schema: the settings, then the list of its tables, then the tables. -/
inductive SchemaDialogue (schema : String) (now : Instant) :
    List Turn → Except Stop Snapshot → Prop where
  | settingsStop {reply : Reply} {stop : Stop} (h : DatabaseDefaults.Read reply (.error stop)) :
      SchemaDialogue schema now [⟨.settings, reply⟩] (.error stop)
  | listFails {settings : ResultSet} {defaults : DatabaseDefaults} {reply : Reply} {message : String}
      (hdefaults : defaults.AreOf settings.toRows) (h : reply.complaint? = some message) :
      SchemaDialogue schema now [⟨.settings, .result settings⟩, ⟨.tableList schema, reply⟩]
        (.error (.failure (.schemaRead (schema ++ ".*") none message)))
  | listed {settings list : ResultSet} {defaults : DatabaseDefaults} {turns : List Turn}
      {outcome : Except Stop (List Table)} (hdefaults : defaults.AreOf settings.toRows)
      (h : TablesDialogue schema defaults list.toRows turns outcome) :
      SchemaDialogue schema now
        (⟨.settings, .result settings⟩ :: ⟨.tableList schema, .result list⟩ :: turns)
        (outcome.map (.ofTables now schema))

/-- All result sets about a schema, and what is read from them. -/
structure SchemaReading where
  settings : ResultSet
  list : ResultSet
  defaults : DatabaseDefaults
  tables : List TableReading

namespace SchemaReading

/-- The queries about the schema with the result sets. -/
def turns (r : SchemaReading) (schema : String) : List Turn :=
  ⟨.settings, .result r.settings⟩ :: ⟨.tableList schema, .result r.list⟩ ::
    r.tables.flatMap (·.turns schema)

/-- The settings are those of the first row, and each row of the list has its table, which consists of
the rows of its own three result sets. -/
structure Faithful (r : SchemaReading) : Prop where
  defaults : r.defaults.AreOf r.settings.toRows
  names : List.Forall₂ (fun row (t : TableReading) => row.text? "table_name" = some t.table.name)
    r.list.toRows r.tables
  tables : ∀ t ∈ r.tables, t.Faithful r.defaults

/-- The snapshot that consists of the tables. -/
def snapshot (r : SchemaReading) (now : Instant) (schema : String) : Snapshot :=
  .ofTables now schema (r.tables.map (·.table))

theorem Faithful.length_turns {r : SchemaReading} (h : r.Faithful) :
    (r.turns schema).length = 2 + 3 * r.list.rows.length := by
  have htables : r.tables.length = r.list.rows.length := by
    rw [← h.names.length_eq, ResultSet.toRows, List.length_map]
  have hturns : (r.tables.flatMap (·.turns schema)).length = 3 * r.tables.length := by
    rw [List.length_flatMap]
    simp [TableReading.turns, Nat.mul_comm]
  simp only [turns, List.length_cons, hturns, htables]
  omega

end SchemaReading

/-! ### Tables -/

/-- Reads the tables in the rows of a list. -/
def readTables (schema : String) (defaults : DatabaseDefaults) (rows : List Row) :
    Session (List Table) :=
  rows.mapM fun row => do
    readTable schema defaults (← tableNameOfRow row)

theorem readTables_cons_of_eq_some {row : Row} {rows : List Row} {name : String}
    (hname : row.text? "table_name" = some name) :
    readTables schema defaults (row :: rows) = do
      let table ← readTable schema defaults name
      return table :: (← readTables schema defaults rows) := by
  simp [readTables, List.mapM_cons, tableNameOfRow, decoded, hname]

namespace TablesDialogue

variable {rows : List Row} {turns : List Turn} {outcome : Except Stop (List Table)}

/-- The run: by induction on the list, reading the tables leads every dialogue about them. -/
theorem leads (h : TablesDialogue schema defaults rows turns outcome) :
    (readTables schema defaults rows).Leads turns outcome := by
  induction h with
  | done => exact .pure []
  | unnamed hname =>
    simp only [readTables, List.mapM_cons, tableNameOfRow, decoded, hname, bind_assoc]
    exact Leads.bind_error (.throw _)
  | stopped hname h =>
    rw [readTables_cons_of_eq_some hname]
    exact h.leads.bind_error
  | next hname h _ ih =>
    rw [readTables_cons_of_eq_some hname]
    exact (TableDialogue.whole rfl h).leads.bind ih.map

theorem exists_heldUp (schema : String) (defaults : DatabaseDefaults) (rows : List Row)
    (replies : List Reply) :
    ∃ turns outcome, HeldUp replies turns ∧
      TablesDialogue schema defaults rows turns outcome := by
  induction rows generalizing replies with
  | nil => exact ⟨[], _, trivial, .done⟩
  | cons row rows ih =>
    cases hname : row.text? "table_name" with
    | none => exact ⟨[], _, trivial, .unnamed hname⟩
    | some name =>
      obtain ⟨turns, outcome, hheld, h⟩ :=
        TableDialogue.exists_heldUp schema defaults name replies
      cases outcome with
      | error stop => exact ⟨turns, _, hheld, .stopped hname h⟩
      | ok table =>
        cases h with
        | @whole r hr h =>
          subst hr
          -- the other tables are read from the replies that are left
          obtain ⟨turns', outcome', hheld', h'⟩ := ih (replies.drop (r.turns schema).length)
          exact ⟨_, _, heldUp_append.mpr ⟨hheld, hheld'⟩, .next hname h h'⟩

theorem stopsAtComplaint (h : TablesDialogue schema defaults rows turns outcome) :
    StopsAtComplaint schema turns outcome := by
  induction h with
  | done => exact .succeeded (List.forall_mem_nil _)
  | unnamed => exact .undecodable (List.forall_mem_nil _)
  | stopped _ h => exact h.stopsAtComplaint.of_error
  | @next row rows r _ _ _ _ _ ih => exact .append r.complaint?_of_mem_turns (ih.map _)

theorem map_query_prefix (h : TablesDialogue schema defaults rows turns outcome) :
    turns.map (·.query) <+: (Row.tableNames rows).flatMap (Query.ofTable schema) := by
  induction h with
  | done => exact List.prefix_rfl
  | unnamed => exact List.nil_prefix
  | stopped hname h =>
    simp only [Row.tableNames, hname, List.flatMap_cons]
    exact h.map_query_prefix.trans (List.prefix_append _ _)
  | @next row rows r _ _ hname _ _ ih =>
    simp only [Row.tableNames, hname, List.flatMap_cons, List.map_append, r.map_query_turns]
    exact (List.prefix_append_right_inj _).mpr ih

/-- All tables are read only if each has been read as a whole. -/
theorem exists_readings (h : TablesDialogue schema defaults rows turns outcome) {tables : List Table}
    (hok : outcome = .ok tables) :
    ∃ readings : List TableReading,
      List.Forall₂ (fun row (t : TableReading) => row.text? "table_name" = some t.table.name)
        rows readings ∧
      (∀ t ∈ readings, t.Faithful defaults) ∧
      turns = readings.flatMap (·.turns schema) ∧ tables = readings.map (·.table) := by
  induction h generalizing tables with
  | done =>
    obtain rfl := Except.ok.inj hok
    exact ⟨[], .nil, List.forall_mem_nil _, rfl, rfl⟩
  | unnamed | stopped => cases hok
  | @next row rows r turns outcome hname h _ ih =>
    cases outcome with
    | error stop => cases hok
    | ok tables' =>
      obtain rfl := Except.ok.inj hok
      obtain ⟨readings, hnames, hfaithful, rfl, rfl⟩ := ih rfl
      exact ⟨r :: readings, .cons hname hnames, List.forall_mem_cons.mpr ⟨h, hfaithful⟩, rfl, rfl⟩

theorem of_readings {readings : List TableReading}
    (hnames : List.Forall₂ (fun row (t : TableReading) => row.text? "table_name" = some t.table.name)
      rows readings)
    (hfaithful : ∀ t ∈ readings, t.Faithful defaults) :
    TablesDialogue schema defaults rows (readings.flatMap (·.turns schema))
      (.ok (readings.map (·.table))) := by
  induction hnames with
  | nil => exact .done
  | cons hname _ ih =>
    rw [List.forall_mem_cons] at hfaithful
    exact .next hname hfaithful.1 (ih hfaithful.2)

end TablesDialogue

/-! ### Schemas -/

/-- Reads a schema over the connection that is open. -/
def readSchema (schema : String) (now : Instant) : Session Snapshot := do
  let defaults ← readDefaults
  let list ← send (.tableList schema) (tableFailure (schema ++ ".*"))
  return .ofTables now schema (← readTables schema defaults list.toRows)

theorem currentSchema_eq (schema : String) (now : Instant) :
    currentSchema schema now = (connect >>= fun _ => readSchema schema now) :=
  rfl

namespace SchemaDialogue

variable {turns : List Turn} {outcome : Except Stop Snapshot}

/-- Reading a schema leads every dialogue about it. -/
theorem leads (h : SchemaDialogue schema now turns outcome) :
    (readSchema schema now).Leads turns outcome := by
  unfold readSchema
  cases h with
  | settingsStop h => exact h.leads.bind_error
  | listFails hdefaults h =>
    refine (DatabaseDefaults.Read.settings hdefaults).leads.bind ?_
    exact (leads_send_complaint _ _ h).bind_error
  | listed hdefaults h =>
    refine (DatabaseDefaults.Read.settings hdefaults).leads.bind ?_
    exact (leads_send_result _ _ _).bind h.leads.map

theorem exists_heldUp (schema : String) (now : Instant) (replies : List Reply) :
    ∃ turns outcome, HeldUp replies turns ∧ SchemaDialogue schema now turns outcome := by
  obtain ⟨reply, stop, hheld, h⟩ | ⟨settings, defaults, hheld, hdefaults⟩ :=
    DatabaseDefaults.stops_or_reads replies
  · exact ⟨_, _, hheld, .settingsStop h⟩
  generalize hreply : (replies.drop 1).headD .failed = reply
  have hheld' : HeldUp (replies.drop 1) [⟨.tableList schema, reply⟩] := ⟨hreply.symm, trivial⟩
  cases reply with
  | failed | closed =>
    exact ⟨_, _, heldUp_append.mpr ⟨hheld, hheld'⟩, .listFails hdefaults rfl⟩
  | result list =>
    obtain ⟨turns, outcome, hheld'', h⟩ :=
      TablesDialogue.exists_heldUp schema defaults list.toRows (replies.drop 2)
    exact ⟨_, _, heldUp_append.mpr ⟨heldUp_append.mpr ⟨hheld, hheld'⟩, hheld''⟩,
      .listed hdefaults h⟩

theorem stopsAtComplaint (h : SchemaDialogue schema now turns outcome) :
    StopsAtComplaint schema turns outcome := by
  cases h with
  | settingsStop h => exact h.stopsAtComplaint
  | listFails _ h => exact .cons rfl (.refused (List.forall_mem_nil _) .tableList h)
  | listed _ h => exact .cons rfl (.cons rfl (h.stopsAtComplaint.map _))

/-- The queries are those about the tables in the list, as far as they were sent. -/
theorem map_query_prefix (h : SchemaDialogue schema now turns outcome) :
    turns.map (·.query) <+: Query.ofTables schema (listedNames turns) := by
  cases h with
  | settingsStop h => exact ⟨_, rfl⟩
  | listFails => exact List.prefix_append [Query.settings, Query.tableList schema] _
  | listed _ h =>
    exact (List.prefix_append_right_inj [Query.settings, Query.tableList schema]).mpr
      h.map_query_prefix

/-- There is a snapshot only if everything has been read. -/
theorem exists_reading {snapshot : Snapshot} (h : SchemaDialogue schema now turns (.ok snapshot)) :
    ∃ r : SchemaReading, r.Faithful ∧ turns = r.turns schema ∧ snapshot = r.snapshot now schema := by
  generalize houtcome : Except.ok snapshot = outcome at h
  cases h with
  | settingsStop | listFails => cases houtcome
  | @listed settings list defaults turns outcome hdefaults h =>
    cases outcome with
    | error stop => cases houtcome
    | ok tables =>
      obtain rfl := Except.ok.inj houtcome
      obtain ⟨readings, hnames, hfaithful, rfl, rfl⟩ := h.exists_readings rfl
      exact ⟨⟨settings, list, defaults, readings⟩, ⟨hdefaults, hnames, hfaithful⟩, rfl, rfl⟩

theorem of_reading {r : SchemaReading} (h : r.Faithful) :
    SchemaDialogue schema now (r.turns schema) (.ok (r.snapshot now schema)) :=
  .listed h.defaults (.of_readings h.names h.tables)

end SchemaDialogue

/-! ### Calls -/

theorem converses_readDefaults : readDefaults.Converses := by
  intro replies
  obtain ⟨reply, stop, hheld, h⟩ | ⟨set, d, hheld, h⟩ := DatabaseDefaults.stops_or_reads replies
  · exact ⟨_, _, hheld, h.leads⟩
  · exact ⟨_, _, hheld, (DatabaseDefaults.Read.settings h).leads⟩

theorem converses_readTable (schema : String) (defaults : DatabaseDefaults) (name : String) :
    (readTable schema defaults name).Converses := by
  intro replies
  obtain ⟨turns, outcome, hheld, h⟩ := TableDialogue.exists_heldUp schema defaults name replies
  exact ⟨turns, outcome, hheld, h.leads⟩

theorem converses_readSchema (schema : String) (now : Instant) :
    (readSchema schema now).Converses := by
  intro replies
  obtain ⟨turns, outcome, hheld, h⟩ := SchemaDialogue.exists_heldUp schema now replies
  exact ⟨turns, outcome, hheld, h.leads⟩

theorem converses_sendForRow (query : Query) (failure : String → Failure) :
    (sendForRow query failure).Converses := by
  refine (Converses.send query failure).bind fun set => ?_
  split
  · exact .pure _
  · exact .fail _

theorem converses_readFound (schema table : String) : (readFound schema table).Converses :=
  (converses_sendForRow _ _).bind fun _ => .decoded _ _

/-- Every answer is a conversation over a connection. -/
theorem exists_converses_provider (schema : String) (now : Instant) (question : Question) :
    ∃ call : Session question.Answer, call.Converses ∧
      provider schema now question = (connect >>= fun _ => call) := by
  cases question with
  | currentSchema => exact ⟨_, converses_readSchema schema now, currentSchema_eq schema now⟩
  | tableExists table => exact ⟨_, converses_readFound schema table, rfl⟩
  | columnExists table column =>
    exact ⟨_, (converses_sendForRow _ _).bind fun _ => .decoded _ _, rfl⟩
  | tableStructure table =>
    refine ⟨_, (converses_readFound schema table).bind fun found => ?_, rfl⟩
    split
    · exact converses_readDefaults.bind fun defaults =>
        (converses_readTable schema defaults table).bind fun _ => .pure _
    · exact .pure _
  | referencingTables table =>
    exact ⟨_, (Converses.send _ _).bind fun set => .mapM (fun row => .decoded _ _) _, rfl⟩

/-- An answer depends on the replies only. -/
theorem fst_run_provider_eq {server server' : Server} (haccepts : server.Accepts)
    (haccepts' : server'.Accepts) (hreplies : server.replies = server'.replies)
    (question : Question) :
    ((provider schema now question).run.run server).1 =
      ((provider schema now question).run.run server').1 := by
  obtain ⟨call, hcall, heq⟩ := exists_converses_provider schema now question
  rw [heq]
  exact hcall.fst_run_connect_bind_eq haccepts haccepts' hreplies

/-- For every server that lets the call have a connection, whatever it replies and wherever it fails: a
schema is read with its dialogue, in which the queries are those about the listed tables, in their order
and as far as they were sent. A reply that is not a result set is the last one, and the call fails as its
query does. There is a snapshot if and only if the replies are a result set for every query and every
value that is read from them can be decoded, and then it consists of exactly their rows.

The call comes to the same on every other server that gives the replies of the dialogue. Any call behind
it comes to what it would have come to without it, on a server with the replies that are left. -/
theorem currentSchema_dialogue (schema : String) (now : Instant) (server : Server)
    (h : server.Accepts) :
    let run := (currentSchema schema now).run.run server
    let outcome := run.1
    let left := run.2
    ∃ turns, HeldUp server.replies turns ∧ SchemaDialogue schema now turns outcome ∧
      left = server.opened.after turns ∧
      left.sent = (turns.map (·.query)).reverse ++ server.sent ∧
      turns.map (·.query) <+: Query.ofTables schema (listedNames turns) ∧
      StopsAtComplaint schema turns outcome ∧
      (∀ snapshot, outcome = .ok snapshot → ∃ r : SchemaReading, r.Faithful ∧
        turns = r.turns schema ∧ turns.length = 2 + 3 * r.list.rows.length ∧
        snapshot = r.snapshot now schema) ∧
      (∀ r : SchemaReading, r.Faithful → HeldUp server.replies (r.turns schema) →
        outcome = .ok (r.snapshot now schema)) ∧
      (∀ server' : Server, server'.Accepts → HeldUp server'.replies turns →
        (currentSchema schema now).run.run server' = (outcome, server'.opened.after turns)) ∧
      ∀ (question : Question) (later : Instant) (fresh : Server), left.Accepts → fresh.Accepts →
        fresh.replies = server.replies.drop turns.length →
        ((provider schema later question).run.run left).1 =
          ((provider schema later question).run.run fresh).1 := by
  obtain ⟨turns, outcome, hheld, hdialogue⟩ :=
    SchemaDialogue.exists_heldUp schema now server.replies
  -- the dialogue is led on every server that holds it up, not only on the given one
  have hrun (server' : Server) (h' : server'.Accepts) (hheld' : HeldUp server'.replies turns) :
      (currentSchema schema now).run.run server' = (outcome, server'.opened.after turns) :=
    hdialogue.leads.run_connect_bind h' hheld'
  intro run outcome' left
  have hleft : run = (outcome, server.opened.after turns) := hrun server h hheld
  obtain rfl : outcome' = outcome := congrArg Prod.fst hleft
  obtain hleft : left = server.opened.after turns := congrArg Prod.snd hleft
  refine ⟨turns, hheld, hdialogue, hleft, ?_, hdialogue.map_query_prefix,
    hdialogue.stopsAtComplaint, ?_, ?_, hrun, ?_⟩
  · rw [hleft, Server.sent_after, Server.sent_opened]
  · intro snapshot hok
    obtain ⟨r, hr, rfl, rfl⟩ := (hok ▸ hdialogue).exists_reading
    exact ⟨r, hr, rfl, hr.length_turns, rfl⟩
  · intro r hr hheld'
    have hwhole : run = (.ok (r.snapshot now schema), server.opened.after (r.turns schema)) :=
      (SchemaDialogue.of_reading hr).leads.run_connect_bind h hheld'
    exact congrArg Prod.fst hwhole
  · intro question later fresh haccepts hfresh hreplies
    refine fst_run_provider_eq haccepts hfresh ?_ question
    rw [hleft, Server.replies_after, Server.replies_opened, hreplies]

/-! ### A connection that is lost -/

/-- A table with a column and an index. -/
def usersReading : TableReading where
  table :=
    { name := "users"
      columns := [{ name := "id", dataType := "integer", ordinalPosition := 1 }]
      indexes := [{ name := "users_pkey", columns := ["id"], isUnique := true, isPrimary := true }]
      charset := some "UTF8" }
  columns :=
    ⟨[("column_name", .text), ("data_type", .text), ("is_nullable", .text),
        ("column_default", .text), ("ordinal_position", .int4)],
      [[.text "id", .text "integer", .text "NO", .null, .int4 1]]⟩
  indexes :=
    ⟨[("index_name", .text), ("columns", .textArray), ("is_unique", .bool), ("is_primary", .bool)],
      [[.text "users_pkey", .textArray [some "id"], .bool true, .bool true]]⟩
  foreignKeys := ⟨[], []⟩

/-- A schema with this table. -/
def usersSchemaReading : SchemaReading where
  settings := ⟨[("charset", .text), ("collation", .text)], [[.text "UTF8", .null]]⟩
  list := ⟨[("table_name", .text)], [[.text "users"]]⟩
  defaults := { charset := some "UTF8" }
  tables := [usersReading]

theorem faithful_usersReading : usersReading.Faithful usersSchemaReading.defaults where
  columns := .cons ⟨by decide, by decide, ⟨"NO", by decide, by decide⟩, by decide, by decide⟩ .nil
  indexes := .cons ⟨by decide, by decide, by decide, by decide⟩ .nil
  foreignKeys := .nil
  engine := rfl
  charset := rfl
  collation := rfl

theorem faithful_usersSchemaReading : usersSchemaReading.Faithful where
  defaults := ⟨by decide, by decide⟩
  names := .cons (by decide) .nil
  tables := List.forall_mem_singleton.mpr faithful_usersReading

/-- A server that closes the connection when it is asked for the indexes of the table, and then answers
everything. -/
def closingServer : Server where
  replies :=
    [.result usersSchemaReading.settings, .result usersSchemaReading.list,
      .result usersReading.columns, .closed] ++ (usersSchemaReading.turns "public").map (·.reply)

/-- The first call fails, and the next one reads everything again. -/
theorem currentSchema_dialogue_of_closingServer :
    let now : Instant := ⟨⟨2024, 1, 31, by decide⟩, 0, 0, by decide, by decide⟩
    let first := (currentSchema "public" now).run.run closingServer
    let second := (currentSchema "public" now).run.run first.2
    first.1 = .error (.failure (.schemaRead "users" none "connection closed")) ∧
      second.1 = .ok (usersSchemaReading.snapshot now "public") := by
  intro now first second
  have hreplies : first.2.replies = (usersSchemaReading.turns "public").map (·.reply) ++ [] := by
    decide +kernel
  obtain ⟨-, -, -, -, -, -, -, -, hcomplete, -⟩ :=
    currentSchema_dialogue "public" now first.2 (by decide +kernel)
  refine ⟨by decide +kernel, hcomplete usersSchemaReading faithful_usersSchemaReading ?_⟩
  rw [hreplies]
  exact heldUp_map_append _ _

end MigrationPreview
