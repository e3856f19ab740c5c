import MigrationPreview.Proofs.Catalog.Schema
import MigrationPreview.Proofs.Schema.Coherence

/-!
# Two ways to a table

A table of a live database is read alone, once it is known to exist, or with the whole schema. The queries
come in another order then, but those about the table are the same. So where the schema has just this table
and the replies say the same, both ways lead to the same table, or end at the same reply with the same
failure. A table that does not exist is known not to with one query.

## Main definitions

* `Server.reply`: the replies to the next queries
* `Reply.Finds`, `Reply.ListsOnly`: what a reply says about the existence of a table
* `StructureDialogue`: what is asked about a table that exists
* `withList`: the same questions where the tables have to be listed

## Main results

* `StructureDialogue.leads`, `StructureDialogue.schemaDialogue`: a dialogue about a table is led alone, and
  with the list it is one about a schema
* `tableStructure_agrees`: both ways come to the same
-/

namespace MigrationPreview

open Introspection Session

variable {schema name : String} {turns : List Turn}

/-! ### Replies -/

/-- The reply to a query when so many have been sent before it. -/
def Server.reply (server : Server) (sent : Nat) : Reply := server.replies.getD sent .failed

theorem heldUp_iff {replies : List Reply} :
    HeldUp replies turns ↔ ∀ i (h : i < turns.length), turns[i].reply = replies.getD i .failed := by
  induction turns generalizing replies with
  | nil => simp [HeldUp]
  | cons turn turns ih =>
    have htail (i : Nat) : replies.tail.getD i .failed = replies.getD (i + 1) .failed := by
      simp [List.getD_eq_getElem?_getD]
    have hhead : replies.headD .failed = replies.getD 0 .failed := by
      cases replies <;> rfl
    rw [HeldUp, ih, hhead]
    constructor
    · rintro ⟨hfirst, hrest⟩ i hi
      cases i with
      | zero => exact hfirst
      | succ i => exact (hrest i (Nat.lt_of_succ_lt_succ hi)).trans (htail i)
    · intro h
      exact ⟨h 0 (Nat.succ_pos _), fun i hi => (h (i + 1) (Nat.succ_lt_succ hi)).trans (htail i).symm⟩

/-- A reply says whether a table exists. -/
def Reply.Finds (reply : Reply) (found : Bool) : Prop :=
  ∃ set row, reply = .result set ∧ set.toRows = [row] ∧ row.flag? "found" = some found

/-- A reply lists the tables of a schema that has only one. -/
def Reply.ListsOnly (reply : Reply) (name : String) : Prop :=
  ∃ list row, reply = .result list ∧ list.toRows = [row] ∧ row.text? "table_name" = some name

theorem leads_readFound {reply : Reply} {found : Bool} (h : reply.Finds found) :
    (readFound schema name).Leads [⟨.tableFound schema name, reply⟩] (.ok found) := by
  obtain ⟨set, row, rfl, hrow, hflag⟩ := h
  have hsend : (sendForRow (.tableFound schema name) (tableFailure name)).Leads
      [⟨.tableFound schema name, .result set⟩] (.ok row) := by
    refine .of_result ?_
    rw [hrow]
    exact .pure row
  have hdecoded : (decoded "found" (row.flag? "found")).Leads [] (.ok found) := by
    rw [hflag]
    exact .pure found
  exact hsend.bind hdecoded

/-! ### Dialogues -/

/-- What is asked about a table that exists: the settings, and then the table. -/
inductive StructureDialogue (schema name : String) : List Turn → Except Stop Table → Prop where
  | settingsStop {reply : Reply} {stop : Stop} (h : DatabaseDefaults.Read reply (.error stop)) :
      StructureDialogue schema name [⟨.settings, reply⟩] (.error stop)
  | settled {settings : ResultSet} {defaults : DatabaseDefaults} {turns : List Turn}
      {outcome : Except Stop Table} (hdefaults : defaults.AreOf settings.toRows)
      (h : TableDialogue schema defaults name turns outcome) :
      StructureDialogue schema name (⟨.settings, .result settings⟩ :: turns) outcome

/-- A dialogue in which the list of the tables is asked for behind the settings. There is no need for it
where nothing follows the settings. -/
def withList (schema : String) (reply : Reply) : List Turn → List Turn
  | first :: second :: turns => first :: ⟨.tableList schema, reply⟩ :: second :: turns
  | turns => turns

/-- Reads a table that exists over the connection that is open. -/
def readStructure (schema name : String) : Session Table := do
  let defaults ← readDefaults
  readTable schema defaults name

/-- Reads a table that may not exist over the connection that is open. -/
def readIfFound (schema name : String) : Session (Option Table) := do
  if ← readFound schema name then
    let table ← readStructure schema name
    return some table
  else return none

theorem tableStructure_eq (schema name : String) :
    tableStructure schema name = (connect >>= fun _ => readIfFound schema name) := by
  simp only [tableStructure, readIfFound, readStructure, bind_assoc]

theorem leads_readIfFound_of_not {reply : Reply} (h : reply.Finds false) :
    (readIfFound schema name).Leads [⟨.tableFound schema name, reply⟩] (.ok none) :=
  (leads_readFound h).bind (.pure none)

namespace StructureDialogue

variable {outcome : Except Stop Table}

/-- Reading a table that exists leads every dialogue about it. -/
theorem leads (h : StructureDialogue schema name turns outcome) :
    (readStructure schema name).Leads turns outcome := by
  cases h with
  | settingsStop h => exact h.leads.bind_error
  | settled hdefaults h => exact (DatabaseDefaults.Read.settings hdefaults).leads.bind h.leads

theorem exists_heldUp (schema name : String) (replies : List Reply) :
    ∃ turns outcome, HeldUp replies turns ∧ StructureDialogue schema name turns outcome := by
  obtain ⟨reply, stop, hheld, h⟩ | ⟨settings, defaults, hheld, hdefaults⟩ :=
    DatabaseDefaults.stops_or_reads replies
  · exact ⟨_, _, hheld, .settingsStop h⟩
  · obtain ⟨turns, outcome, hheld', h⟩ := TableDialogue.exists_heldUp schema defaults name (replies.drop 1)
    exact ⟨_, _, heldUp_append.mpr ⟨hheld, hheld'⟩, .settled hdefaults h⟩

theorem leads_readIfFound {reply : Reply} (h : StructureDialogue schema name turns outcome)
    (hfound : reply.Finds true) :
    (readIfFound schema name).Leads (⟨.tableFound schema name, reply⟩ :: turns) (outcome.map some) :=
  (leads_readFound hfound).bind h.leads.map

/-- If the tables are listed behind the settings, a dialogue about the only table is one about the schema. -/
theorem schemaDialogue {reply : Reply} (h : StructureDialogue schema name turns outcome)
    (hlist : reply.ListsOnly name) (now : Instant) :
    SchemaDialogue schema now (withList schema reply turns)
      (outcome.map fun table => .ofTables now schema [table]) := by
  obtain ⟨list, row, rfl, hrow, hname⟩ := hlist
  cases h with
  | settingsStop h => exact .settingsStop h
  | @settled settings defaults turns outcome hdefaults h =>
    have htables : TablesDialogue schema defaults list.toRows turns (outcome.map ([·])) := by
      rw [hrow]
      cases h with
      | columnsStop h => exact .stopped hname (.columnsStop h)
      | indexesStop hcolumns h => exact .stopped hname (.indexesStop hcolumns h)
      | foreignKeysStop hcolumns hindexes h => exact .stopped hname (.foreignKeysStop hcolumns hindexes h)
      | @whole r hr h =>
        have hdone : TablesDialogue schema defaults [] [] (.ok []) := .done
        have hnext := TablesDialogue.next (r := r) (hr ▸ hname) h hdone
        rwa [List.append_nil] at hnext
    have hmap : (outcome.map ([·])).map (Snapshot.ofTables now schema) =
        outcome.map fun table => Snapshot.ofTables now schema [table] := by
      cases outcome <;> rfl
    obtain ⟨second, rest, rfl⟩ : ∃ second rest, turns = second :: rest := by
      cases h <;> exact ⟨_, _, rfl⟩
    rw [← hmap]
    exact .listed hdefaults htables

theorem stopsAtComplaint (h : StructureDialogue schema name turns outcome) :
    StopsAtComplaint schema turns outcome := by
  cases h with
  | settingsStop h => exact h.stopsAtComplaint
  | settled _ h => exact .cons rfl h.stopsAtComplaint

theorem map_query_prefix (h : StructureDialogue schema name turns outcome) :
    turns.map (·.query) <+: .settings :: Query.ofTable schema name := by
  cases h with
  | settingsStop => exact ⟨_, rfl⟩
  | settled _ h => exact List.cons_prefix_cons.mpr ⟨rfl, h.map_query_prefix⟩

theorem name_eq {table : Table} (h : StructureDialogue schema name turns (.ok table)) :
    table.name = name := by
  cases h with
  | settled _ h =>
    cases h with
    | whole hname => exact hname

/-- The replies of a dialogue with the list are those of the dialogue without it, and the list. -/
theorem heldUp_withList {server server' : Server} (h : StructureDialogue schema name turns outcome)
    (hheld : HeldUp server.replies.tail turns) (hsettings : server'.reply 0 = server.reply 1)
    (htable : ∀ i, 2 ≤ i → i < 5 → server'.reply i = server.reply i) :
    HeldUp server'.replies (withList schema (server'.reply 1) turns) := by
  have hlength : turns.length ≤ 4 := by
    have hprefix := h.map_query_prefix.length_le
    rwa [List.length_map] at hprefix
  have hreply (i : Nat) (hi : i < turns.length) : turns[i].reply = server.reply (i + 1) := by
    rw [heldUp_iff.mp hheld i hi, Server.reply]
    simp [List.getD_eq_getElem?_getD]
  rw [heldUp_iff]
  match turns with
  | [] => exact nofun
  | [first] =>
    intro i hi
    obtain rfl : i = 0 := by simpa [withList] using hi
    exact (hreply 0 hi).trans hsettings.symm
  | first :: second :: rest =>
    intro i hi
    match i with
    | 0 => exact (hreply 0 (Nat.succ_pos _)).trans hsettings.symm
    | 1 => rfl
    | i + 2 =>
      -- behind the list, both dialogues have come to the same place
      have hi' : i + 1 < (first :: second :: rest).length := by simpa [withList] using hi
      exact (hreply (i + 1) hi').trans (htable (i + 2) (by omega) (by omega)).symm

end StructureDialogue

/-! ### Both ways -/

/-- A table that is asked for alone and the same table in a schema of its own come to the same. If it is
known to exist, and the replies about the settings and about the table are the same, both calls lead one
dialogue, but for the list of the tables: they end at the same reply, and either fail alike or give the same
table. If it is known not to exist, this is the answer, after a single query. -/
theorem tableStructure_agrees {schema name : String} (now : Instant) {server : Server} {found : Bool}
    (haccepts : server.Accepts) (hfound : (server.reply 0).Finds found) :
    let alone := (provider schema now (.tableStructure name)).run.run server
    let asked : Turn := ⟨.tableFound schema name, server.reply 0⟩
    (found = false → alone = (.ok none, server.opened.after [asked]) ∧
      alone.2.sent = .tableFound schema name :: server.sent) ∧
    (found = true → ∀ server' : Server, server'.Accepts → server'.reply 0 = server.reply 1 →
      (server'.reply 1).ListsOnly name → (∀ i, 2 ≤ i → i < 5 → server'.reply i = server.reply i) →
      let whole := (provider schema now .currentSchema).run.run server'
      ∃ turns outcome, StructureDialogue schema name turns outcome ∧ StopsAtComplaint schema turns outcome ∧
        alone = (outcome.map some, server.opened.after (asked :: turns)) ∧
        whole = (outcome.map fun table => .ofTables now schema [table],
          server'.opened.after (withList schema (server'.reply 1) turns)) ∧
        (∀ snapshot, whole.1 = .ok snapshot → alone.1 = .ok (snapshot.table? name)) ∧
        ∀ stop, whole.1 = .error stop ↔ alone.1 = .error stop) := by
  intro alone asked
  -- the question whether the table is there gets the first reply, however the dialogue goes on
  have hasked : HeldUp server.replies [asked] := by
    rw [heldUp_iff]
    intro i hi
    obtain rfl : i = 0 := by simpa using hi
    rfl
  have hrun {turns : List Turn} {outcome : Except Stop (Option Table)}
      (hleads : (readIfFound schema name).Leads (asked :: turns) outcome)
      (hheld : HeldUp server.replies.tail turns) :
      alone = (outcome, server.opened.after (asked :: turns)) := by
    have hcall : alone = (tableStructure schema name).run.run server := rfl
    rw [hcall, tableStructure_eq]
    exact hleads.run_connect_bind haccepts ⟨hasked.1, hheld⟩
  constructor
  · rintro rfl
    have hmissing := hrun (leads_readIfFound_of_not hfound) trivial
    refine ⟨hmissing, ?_⟩
    rw [hmissing, Server.sent_after, Server.sent_opened]
    rfl
  · rintro rfl server' haccepts' hsettings hlist htable whole
    obtain ⟨turns, outcome, hheld, hdialogue⟩ :=
      StructureDialogue.exists_heldUp schema name server.replies.tail
    have hexisting := hrun (hdialogue.leads_readIfFound hfound) hheld
    have hwhole : whole = _ := (hdialogue.schemaDialogue hlist now).leads.run_connect_bind haccepts'
      (hdialogue.heldUp_withList hheld hsettings htable)
    -- both calls have come to the same outcome, so only its two forms are left to be compared
    refine ⟨turns, outcome, hdialogue, hdialogue.stopsAtComplaint, hexisting, hwhole, ?_, ?_⟩
    · intro snapshot hsnapshot
      rw [hwhole] at hsnapshot
      rw [hexisting]
      cases outcome with
      | error stop => cases hsnapshot
      | ok table =>
        obtain rfl := Except.ok.inj hsnapshot
        have hfound : (Snapshot.ofTables now schema [table]).table? name = some table := by
          simp [Snapshot.table?_ofTables, hdialogue.name_eq]
        rw [hfound]
        rfl
    · intro stop
      rw [hwhole, hexisting]
      cases outcome with
      | error => simp [Except.map]
      | ok => exact ⟨nofun, nofun⟩

/-- A server that knows a table. Otherwise it gives the replies of the server that closes the connection
when it is asked for the indexes of this table. -/
def closingServerOfTable : Server where
  replies := .result ⟨[("found", .bool)], [[.bool true]]⟩ :: .result usersSchemaReading.settings ::
    closingServer.replies.drop 2

/-- Whether the table is read alone or with the schema, the connection is lost at the same reply. -/
theorem tableStructure_agrees_of_closingServer :
    let now : Instant := ⟨⟨2024, 1, 31, by decide⟩, 0, 0, by decide, by decide⟩
    let alone := (provider "public" now (.tableStructure "users")).run.run closingServerOfTable
    let whole := (provider "public" now .currentSchema).run.run closingServer
    closingServerOfTable.Accepts ∧ (closingServerOfTable.reply 0).Finds true ∧
      whole.1 = .error (.failure (.schemaRead "users" none "connection closed")) ∧
      alone.1 = .error (.failure (.schemaRead "users" none "connection closed")) := by
  intro now alone whole
  have haccepts : closingServerOfTable.Accepts := by decide
  have hfound : (closingServerOfTable.reply 0).Finds true := ⟨_, _, rfl, rfl, by decide⟩
  have hlist : (closingServer.reply 1).ListsOnly "users" := ⟨_, _, rfl, rfl, by decide⟩
  have htable (i : Nat) (hi : 2 ≤ i) (_ : i < 5) :
      closingServer.reply i = closingServerOfTable.reply i := by
    obtain ⟨j, rfl⟩ := Nat.exists_eq_add_of_le' hi
    rfl
  have hwhole : whole.1 = .error (.failure (.schemaRead "users" none "connection closed")) := by
    decide +kernel
  obtain ⟨turns, outcome, -, -, -, -, -, hsame⟩ :=
    (tableStructure_agrees now haccepts hfound).2 rfl closingServer (by decide) rfl hlist htable
  exact ⟨haccepts, hfound, hwhole, (hsame _).mp hwhole⟩

end MigrationPreview
