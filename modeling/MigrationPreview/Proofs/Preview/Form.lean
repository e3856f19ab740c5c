import MigrationPreview.Preview.Report
import MigrationPreview.Proofs.Time.Timestamp

/-!
# Report data survives its JSON form

Whatever is reported about a migration is read back from its JSON form as it was.

The result of a rollback is the one kind of data whose form is not the list of its fields: a tag tells
the cases apart, a flag repeats the tag, and behind the tag every object that maps a name to an empty
object is read as if the name were mapped to `null`. No part of an analysis is written as an empty object,
so this makes no difference to what was written.

## Main definitions

* `Json.Filled`, `FilledForm`: no part of a value is an empty object
* `Rollback.LinesFit`, `Report.NumbersFit`: the numbers in a value fit into 64 bits
* `SurvivesJson`: a value is read back from its JSON form and from both of its texts

## Main results

* `Rollback.nullForEmpty_eq`: what is read as if it were `null` does not occur in an analysis
* `reportData_survives`: report data survives its JSON form
-/

namespace MigrationPreview

/-! ### Operations -/

instance : FaithfulForm Details where
  Fits _ := True
  decode?_encode {d} _ := by
    refine (Json.bind_fields? (by decide)).trans ?_
    simp
  isWritable_encode {d} _ := Json.isWritable_object (by simp)
  encode_ne_null _ := nofun

@[simp] theorem fits_details (d : Details) : Fits d := trivial

instance : FaithfulForm Operation where
  Fits op := Fits op.line
  decode?_encode {op} h := by
    refine (Json.bind_fields? (by decide)).trans ?_
    simp [h]
  isWritable_encode {op} h := Json.isWritable_object (by simp [h])
  encode_ne_null _ := nofun

instance : FaithfulForm Operation.Summary where
  Fits _ := True
  decode?_encode {s} _ := by
    refine (Json.bind_fields? (by decide)).trans ?_
    simp
  isWritable_encode {s} _ := Json.isWritable_object (by simp)
  encode_ne_null _ := nofun

@[simp] theorem fits_summary (s : Operation.Summary) : Fits s := trivial

instance : FaithfulForm Script where
  Fits script := Fits script.operations ∧ Fits script.lineIndex
  decode?_encode {script} h := by
    refine (Json.bind_fields? (by decide)).trans ?_
    simp [h.1, h.2]
  isWritable_encode {script} h := Json.isWritable_object (by simp [h.1, h.2])
  encode_ne_null _ := nofun

/-! ### Diffs -/

instance : FaithfulForm DiffEntry where
  Fits e := Fits e.line
  decode?_encode {e} h := by
    refine (Json.bind_objectFields? (by decide)).trans ?_
    simp [h]
  isWritable_encode {e} h := Json.isWritable_object (by simp [h])
  encode_ne_null _ := nofun

instance : FaithfulForm SchemaDiff where
  Fits d := Fits d.categories
  decode?_encode {d} h := by
    change (decode? (encode d.categories)).map SchemaDiff.mk = some d
    rw [FaithfulForm.decode?_encode h, Option.map_some]
  isWritable_encode {d} h := isWritable_encode (a := d.categories) h
  encode_ne_null _ := nofun

instance : FaithfulForm ColumnRef where
  Fits _ := True
  decode?_encode {c} _ := by
    refine (Json.bind_fields? (by decide)).trans ?_
    simp
  isWritable_encode {c} _ := Json.isWritable_object (by simp)
  encode_ne_null _ := nofun

@[simp] theorem fits_columnRef (c : ColumnRef) : Fits c := trivial

instance : FaithfulForm DestructiveChange where
  Fits c := Fits c.operation
  decode?_encode {c} h := by
    refine (Json.bind_fields? (by decide)).trans ?_
    simp [h]
  isWritable_encode {c} h := Json.isWritable_object (by simp [h])
  encode_ne_null _ := nofun

/-! ### Parts of an analysis -/

instance : FaithfulForm DependencyWarning where
  Fits _ := True
  decode?_encode {w} _ := by
    refine (Json.bind_fields? (by decide)).trans ?_
    simp
  isWritable_encode {w} _ := Json.isWritable_object (by simp)
  encode_ne_null _ := nofun

@[simp] theorem fits_dependencyWarning (w : DependencyWarning) : Fits w := trivial

instance : FaithfulForm SqlLine where
  Fits l := Fits l.line
  decode?_encode {l} h := by
    refine (Json.bind_fields? (by decide)).trans ?_
    simp [h]
  isWritable_encode {l} h := Json.isWritable_object (by simp [h])
  encode_ne_null _ := nofun

instance : FaithfulForm ObjectRef where
  Fits _ := True
  decode?_encode {o} _ := by
    refine (Json.bind_fields? (by decide)).trans ?_
    simp
  isWritable_encode {o} _ := Json.isWritable_object (by simp)
  encode_ne_null _ := nofun

@[simp] theorem fits_objectRef (o : ObjectRef) : Fits o := trivial

instance : FaithfulForm RollbackImpact where
  Fits _ := True
  decode?_encode {i} _ := by
    refine (Json.bind_fields? (by decide)).trans ?_
    simp
  isWritable_encode {i} _ := Json.isWritable_object (by simp)
  encode_ne_null _ := nofun

@[simp] theorem fits_rollbackImpact (i : RollbackImpact) : Fits i := trivial

/-! ### Values without empty objects -/

namespace Json

/-- No part of a value is an empty object. -/
def Filled (v : Json) : Prop := Everywhere (· ≠ object []) v

theorem filled_string (s : String) : (string s).Filled := by
  refine .intro nofun fun w hw => ?_
  cases hw

theorem filled_array {items : List Json} (h : ∀ item ∈ items, item.Filled) : (array items).Filled :=
  .intro nofun h

theorem filled_object {members : List (String × Json)} (hne : members ≠ [])
    (h : EachValue Filled members) : (object members).Filled := by
  refine .intro (fun hempty => hne (object.inj hempty)) fun w hw => ?_
  obtain ⟨m, hm, rfl⟩ := List.mem_map.mp hw
  exact h m hm

end Json

namespace Rollback

theorem nullForEmptyItems_eq {items : List Json} (h : ∀ item ∈ items, nullForEmpty item = item) :
    nullForEmptyItems items = items := by
  induction items with
  | nil => rfl
  | cons item items ih =>
    rw [nullForEmptyItems, h item List.mem_cons_self, ih fun v hv => h v (List.mem_cons_of_mem _ hv)]

theorem nullForEmptyMembers_eq {members : List (String × Json)}
    (h : ∀ m ∈ members, nullForEmpty m.2 = m.2) : nullForEmptyMembers members = members := by
  induction members with
  | nil => rfl
  | cons m members ih =>
    rw [nullForEmptyMembers, h m List.mem_cons_self,
      ih fun m' hm' => h m' (List.mem_cons_of_mem _ hm')]

/-- Where no object is empty, nothing is read as if it were `null`. -/
theorem nullForEmpty_eq {v : Json} (h : v.Filled) : nullForEmpty v = v := by
  induction h with
  | @intro v _ hparts ih =>
    cases v with
    | null | bool | integer | decimal | string | unreadable => rfl
    | array items =>
      have hitems : nullForEmptyItems items = items := nullForEmptyItems_eq ih
      rw [nullForEmpty, hitems]
    | object members =>
      have hmembers : nullForEmptyMembers members = members :=
        nullForEmptyMembers_eq fun m hm => ih m.2 (List.mem_map_of_mem hm)
      have hother (name : String) : members ≠ [(name, .object [])] := by
        rintro rfl
        -- the value of the only member would be an empty object
        obtain ⟨hempty, -⟩ := hparts (.object []) List.mem_cons_self
        exact hempty rfl
      rw [nullForEmpty, hmembers]
      exact hother

end Rollback

/-- Types that are written without empty objects. -/
class FilledForm (α : Type) [JsonForm α] : Prop where
  filled_encode (a : α) : (encode a).Filled

@[simp] theorem filled_encode {α : Type} [JsonForm α] [FilledForm α] (a : α) : (encode a).Filled :=
  FilledForm.filled_encode a

instance : FilledForm String := ⟨Json.filled_string⟩

instance {α : Type} [Enumerated α] : FilledForm α := ⟨fun a => Json.filled_string (Enumerated.name a)⟩

instance : FilledForm Nat := ⟨fun _ => .intro nofun nofun⟩

instance : FilledForm Bool := ⟨fun _ => .intro nofun nofun⟩

instance {α : Type} [JsonForm α] [FilledForm α] : FilledForm (List α) := by
  refine ⟨fun xs => Json.filled_array fun item hitem => ?_⟩
  obtain ⟨x, -, rfl⟩ := List.mem_map.mp hitem
  exact filled_encode x

instance {α : Type} [Ord α] [Std.TransOrd α] [JsonForm α] [FilledForm α] : FilledForm (SortedSet α) :=
  ⟨fun s => filled_encode s.toList⟩

instance : FilledForm Details := ⟨fun _ => Json.filled_object (List.cons_ne_nil _ _) (by simp)⟩

instance : FilledForm Operation := ⟨fun _ => Json.filled_object (List.cons_ne_nil _ _) (by simp)⟩

instance : FilledForm DependencyWarning := ⟨fun _ => Json.filled_object (by simp) (by simp)⟩

instance : FilledForm SqlLine := ⟨fun _ => Json.filled_object (List.cons_ne_nil _ _) (by simp)⟩

instance : FilledForm ColumnRef := ⟨fun _ => Json.filled_object (List.cons_ne_nil _ _) (by simp)⟩

instance : FilledForm ObjectRef := ⟨fun _ => Json.filled_object (List.cons_ne_nil _ _) (by simp)⟩

instance : FilledForm RollbackImpact := ⟨fun _ => Json.filled_object (List.cons_ne_nil _ _) (by simp)⟩

instance : FilledForm Rollback := by
  refine ⟨fun r => Json.filled_object (List.cons_ne_nil _ _) ?_⟩
  cases r with
  | unavailable message => simp [Json.filled_string]
  | analyzed a => simp [Rollback.analysisMembers, Json.filled_string]

/-! ### Rollbacks and reports -/

instance : FaithfulForm Rollback where
  Fits r := ∀ a ∈ r.analysis?, Fits a.operations ∧ Fits a.sqlPreview
  decode?_encode {r} h := by
    cases r with
    | unavailable message =>
      have htag : decode? (encode (Rollback.unavailable message)) =
          Rollback.ofTagged? "no_rollback" (encode (Rollback.unavailable message)) := rfl
      rw [htag, Rollback.ofTagged?, if_pos rfl]
      refine (Json.bind_fields? (by decide)).trans ?_
      simp
    | analyzed a =>
      obtain ⟨hops, hlines⟩ := h a rfl
      have htag : decode? (encode (Rollback.analyzed a)) =
          Rollback.ofTagged? "analyzed" (encode (Rollback.analyzed a)) := rfl
      have hmembers : encode (Rollback.analyzed a) = .object (("hasRollback", encode true) ::
          ("outcome", .string "analyzed") :: Rollback.analysisMembers a) := rfl
      -- the flag in front of the tag is a member that no field asks for
      rw [htag, Rollback.ofTagged?, if_neg (by decide), if_pos rfl,
        Rollback.nullForEmpty_eq (filled_encode _), hmembers, Rollback.analysisMembers]
      refine (Json.bind_fields? (by decide)).trans ?_
      simp [Rollback.analysisOfFields?, hops, hlines]
  isWritable_encode {r} h := by
    refine Json.isWritable_object ?_
    cases r with
    | unavailable message => simp [Json.isWritable_string]
    | analyzed a =>
      obtain ⟨hops, hlines⟩ := h a rfl
      simp [Rollback.analysisMembers, Json.isWritable_string, hops, hlines]
  encode_ne_null _ := nofun

instance : FaithfulForm ScriptSummary where
  Fits s := Fits s.upOperations ∧ Fits s.downOperations ∧ Fits s.linesWithOperations
  decode?_encode {s} h := by
    refine (Json.bind_fields? (by decide)).trans ?_
    simp [h.1, h.2.1, h.2.2]
  isWritable_encode {s} h := Json.isWritable_object (by simp [h.1, h.2.1, h.2.2])
  encode_ne_null _ := nofun

instance : FaithfulForm Report where
  Fits r := Fits r.script ∧ Fits r.diff ∧ Fits r.destructiveChanges ∧ Fits r.rollback
  decode?_encode {r} h := by
    obtain ⟨hscript, hdiff, hchanges, hrollback⟩ := h
    refine (Json.bind_fields? (by decide)).trans ?_
    simp [hscript, hdiff, hchanges, hrollback]
  isWritable_encode {r} h := by
    obtain ⟨hscript, hdiff, hchanges, hrollback⟩ := h
    exact Json.isWritable_object (by simp [hscript, hdiff, hchanges, hrollback])
  encode_ne_null _ := nofun

/-! ### Numbers -/

theorem Script.fits {script : Script} (hops : ∀ op ∈ script.operations, op.line < UInt64.size)
    (hkeys : ∀ line ∈ script.lineIndex.keys, line < UInt64.size) : Fits script := by
  refine ⟨hops, fun entry hentry => ⟨hkeys entry.1 (List.mem_map_of_mem hentry), ?_⟩⟩
  simp

theorem SchemaDiff.fits {d : SchemaDiff} (h : ∀ e ∈ d.entries, e.line < UInt64.size) : Fits d := by
  intro entry hentry
  refine ⟨fitsKey_enumerated entry.1, fun e he => h e ?_⟩
  exact List.mem_flatten.mpr ⟨entry.2, List.mem_map_of_mem hentry, he⟩

/-- The line numbers in a rollback fit into 64 bits. -/
structure Rollback.LinesFit (r : Rollback) : Prop where
  operations : ∀ a ∈ r.analysis?, ∀ op ∈ a.operations, op.line < UInt64.size
  sqlPreview : ∀ a ∈ r.analysis?, ∀ l ∈ a.sqlPreview, l.line < UInt64.size

theorem Rollback.LinesFit.fits {r : Rollback} (h : r.LinesFit) : Fits r :=
  fun a ha => ⟨h.operations a ha, h.sqlPreview a ha⟩

/-- The counts and the line numbers in a report fit into 64 bits. -/
structure Report.NumbersFit (r : Report) : Prop where
  upOperations : r.script.upOperations < UInt64.size
  downOperations : r.script.downOperations < UInt64.size
  linesWithOperations : r.script.linesWithOperations < UInt64.size
  diff : ∀ e ∈ r.diff.entries, e.line < UInt64.size
  destructiveChanges : ∀ c ∈ r.destructiveChanges, c.operation.line < UInt64.size
  rollback : r.rollback.LinesFit

theorem Report.NumbersFit.fits {r : Report} (h : r.NumbersFit) : Fits r :=
  ⟨⟨h.upOperations, h.downOperations, h.linesWithOperations⟩, SchemaDiff.fits h.diff,
    h.destructiveChanges, h.rollback.fits⟩

/-! ### Reading back -/

/-- A value is read back from its JSON form, and from the compact and the indented text of this form. -/
structure SurvivesJson {α : Type} [JsonForm α] (a : α) : Prop where
  decode?_encode : decode? (encode a) = some a
  decode?_compactText : (Json.parse (encode a).render).bind decode? = some a
  decode?_indentedText : (Json.parse (encode a).renderIndented).bind decode? = some a

theorem survivesJson {α : Type} [JsonForm α] [FaithfulForm α] {a : α} (h : Fits a) : SurvivesJson a where
  decode?_encode := FaithfulForm.decode?_encode h
  decode?_compactText := decode?_compactText h
  decode?_indentedText := decode?_indentedText h

/-- Report data survives its JSON form, as far as line numbers and counts fit into 64 bits. Operations that
are kept by line and entries that are kept by kind are found under the same keys, the detail of an entry is
told apart from the entry it is written into, and the two cases of a rollback from each other. -/
theorem reportData_survives :
    (∀ op : Operation, op.line < UInt64.size → SurvivesJson op) ∧
    (∀ script : Script, (∀ op ∈ script.operations, op.line < UInt64.size) →
      (∀ line ∈ script.lineIndex.keys, line < UInt64.size) → SurvivesJson script) ∧
    (∀ e : DiffEntry, e.line < UInt64.size → SurvivesJson e) ∧
    (∀ d : SchemaDiff, (∀ e ∈ d.entries, e.line < UInt64.size) → SurvivesJson d) ∧
    (∀ c : DestructiveChange, c.operation.line < UInt64.size → SurvivesJson c) ∧
    (∀ w : DependencyWarning, SurvivesJson w) ∧
    (∀ i : RollbackImpact, SurvivesJson i) ∧
    (∀ r : Rollback, r.LinesFit → SurvivesJson r) ∧
    ∀ r : Report, r.NumbersFit → SurvivesJson r := by
  refine ⟨?_, ?_, ?_, ?_, ?_, ?_, ?_, ?_, ?_⟩
  · exact fun op h => survivesJson (fits_nat h)
  · exact fun script hops hkeys => survivesJson (Script.fits hops hkeys)
  · exact fun e h => survivesJson (fits_nat h)
  · exact fun d h => survivesJson (SchemaDiff.fits h)
  · exact fun c h => survivesJson (fits_nat h)
  · exact fun w => survivesJson (fits_dependencyWarning w)
  · exact fun i => survivesJson (fits_rollbackImpact i)
  · exact fun r h => survivesJson h.fits
  · exact fun r h => survivesJson h.fits

/-- A step that drops a column. -/
def columnDrop : Operation where
  kind := .column
  action := .drop
  direction := .down
  details := { table := "posts", column := some "title" }
  line := 12

/-- The report on a migration whose rollback drops a column. -/
def columnDropReport : Report where
  migration := "migrations/add_title.php"
  sourceChecksum := "a1"
  schemaChecksum := "b2"
  generatedAt := ⟨⟨2024, 2, 29, by decide⟩, 43200, 250000000, by decide, by decide⟩
  script := ⟨0, 1, 1⟩
  diff := .push ⟨∅⟩ (.of columnDrop none)
  destructiveChanges := [.of columnDrop]
  rollback := .analyzed ⟨[columnDrop], [], Dialect.postgres.sqlLines [columnDrop], .of [columnDrop]⟩
  hasDestructive := true

/-- The step, a migration that consists of it, and the report on that migration are read back. -/
theorem reportData_survives_of_columnDrop :
    SurvivesJson columnDrop ∧ SurvivesJson (Script.ofOperations [columnDrop]) ∧
      columnDropReport.NumbersFit ∧ SurvivesJson columnDropReport := by
  have hline : columnDrop.line < UInt64.size := by decide
  have hlines : ∀ op ∈ [columnDrop], op.line < UInt64.size :=
    fun op hop => (List.mem_singleton.mp hop).symm ▸ hline
  have hkeys : (Script.ofOperations [columnDrop]).lineIndex.keys = [columnDrop.line] := by decide
  have hfit : columnDropReport.NumbersFit := by
    refine ⟨by decide, by decide, by decide, fun e he => ?_, fun c hc => ?_,
      fun a ha op hop => ?_, fun a ha l hl => ?_⟩
    · obtain rfl := List.mem_singleton.mp he
      exact hline
    · obtain rfl := List.mem_singleton.mp hc
      exact hline
    · obtain rfl := Option.some.inj ha
      obtain rfl := List.mem_singleton.mp hop
      exact hline
    · obtain rfl := Option.some.inj ha
      obtain rfl := List.mem_singleton.mp hl
      exact hline
  obtain ⟨hoperation, hscript, -, -, -, -, -, -, hreport⟩ := reportData_survives
  refine ⟨hoperation columnDrop hline, hscript _ hlines fun line hmem => ?_, hfit,
    hreport columnDropReport hfit⟩
  rw [hkeys] at hmem
  exact List.mem_singleton.mp hmem ▸ hline

end MigrationPreview
