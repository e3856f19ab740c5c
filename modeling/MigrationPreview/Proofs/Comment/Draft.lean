import MigrationPreview.Migration.Statement
import MigrationPreview.Proofs.Comment.Line

/-!
# Drafts of a line with and without its comments

Every draft is made of what searches for calls find in a line, apart from the line itself, which is kept
as the definition of a column. Two lines in which all searches find the same therefore ask for the same,
definitions apart. A foreign key also depends on the lines behind it.

## Main definitions

* `SameCalls`: all searches for calls find the same in two texts
* `Draft.withoutDefinition`: a draft without the line that declares or changes a column

## Main results

* `drafts_congr`: lines in which all searches find the same ask for the same
* `sameCalls_trim`: a line has the same calls with and without comments that are set apart
-/

namespace MigrationPreview

open Text Call

/-! ### What is kept of a line -/

/-- The details without the line that declares or changes a column. -/
def Details.withoutDefinition (details : Details) : Details := { details with definition := none }

/-- A draft without the line that declares or changes a column. -/
def Draft.withoutDefinition (draft : Draft) : Draft :=
  { draft with details := draft.details.withoutDefinition }

/-- An operation without the line that declares or changes a column. -/
def Operation.withoutDefinition (op : Operation) : Operation :=
  { op with details := op.details.withoutDefinition }

/-! ### Texts with the same calls -/

/-- All searches for calls find the same in two texts. -/
def SameCalls (x y : List Char) : Prop :=
  ∀ ⦃α : Type⦄ ⦃read : List Char → Option α⦄, IsCallReader read →
    firstMatch read x = firstMatch read y

/-- A text has the same calls with comments that are set apart and with blanks in their place. -/
theorem sameCalls_of_setApart {marked : Marked} (hchain : marked.IsChain Marked.Begun)
    (hapart : marked.SetApart [] = true) : SameCalls marked.text marked.code :=
  fun _ _ hread => firstMatch_text_eq_code hread [] hchain hapart

/-- A line has the same calls with and without comments that are set apart. -/
theorem sameCalls_trim {line : Marked} (hchain : line.IsChain Marked.Begun)
    (hapart : line.SetApart [] = true) : SameCalls (trim line.text) (trim line.code) := by
  intro α read hread
  rw [firstMatch_trim hread, firstMatch_trim hread]
  exact sameCalls_of_setApart hchain hapart hread

variable {x y : List Char}

theorem SameCalls.find? {α : Type} (h : SameCalls x y) {methods : List String}
    (hmethods : ∀ m ∈ methods, m ∈ recognised) {readArguments : List Char → Option α}
    (hlocal : Local readArguments) :
    Call.find? methods readArguments x = Call.find? methods readArguments y :=
  h (isCallReader_readCall hmethods hlocal)

theorem SameCalls.firstName? (h : SameCalls x y) : Call.firstName? x = Call.firstName? y :=
  h isCallReader_readNamingCall

theorem SameCalls.schemaCall? (h : SameCalls x y) :
    MigrationPreview.schemaCall? x = MigrationPreview.schemaCall? y :=
  h isCallReader_readSchemaCall

/-! ### Drafts of lines with the same calls -/

variable (table : String)

theorem openedTable?_congr (h : SameCalls x y) : openedTable? x = openedTable? y := by
  rw [openedTable?, openedTable?, h.schemaCall?]

theorem tableDraft?_congr (h : SameCalls x y) : tableDraft? x = tableDraft? y := by
  rw [tableDraft?, tableDraft?, h.schemaCall?]

theorem columnModify?_congr (h : SameCalls x y) :
    (columnModify? table x).map Draft.withoutDefinition =
      (columnModify? table y).map Draft.withoutDefinition := by
  rw [columnModify?, columnModify?, h.find? (by decide) (local_const _), h.firstName?]
  cases Call.find? ["change", "modify"] (fun _ => some ()) y with
  | none => rfl
  | some call => cases Call.firstName? y <;> rfl

theorem columnAdd?_congr (h : SameCalls x y) :
    (columnAdd? table x).map Draft.withoutDefinition =
      (columnAdd? table y).map Draft.withoutDefinition := by
  rw [columnAdd?, columnAdd?, h.find? (by decide) (local_const _), h.firstName?]
  cases Call.find? columnTypes (fun _ => some ()) y with
  | none => rfl
  | some call => cases Call.firstName? y <;> rfl

theorem columnDrops_congr (h : SameCalls x y) : columnDrops table x = columnDrops table y := by
  rw [columnDrops, columnDrops, h.find? (by decide) local_argument?]

theorem columnRename?_congr (h : SameCalls x y) :
    columnRename? table x = columnRename? table y := by
  rw [columnRename?, columnRename?, h.find? (by decide) local_twoQuoted?]

theorem indexAdd?_congr (h : SameCalls x y) : indexAdd? table x = indexAdd? table y := by
  rw [indexAdd?, indexAdd?, h.find? (by decide) local_argumentAndName, h.firstName?]

theorem indexDrop?_congr (h : SameCalls x y) : indexDrop? table x = indexDrop? table y := by
  rw [indexDrop?, indexDrop?, h.find? (by decide) local_argument?]

theorem foreignKeyDrop?_congr (h : SameCalls x y) :
    foreignKeyDrop? table x = foreignKeyDrop? table y := by
  rw [foreignKeyDrop?, foreignKeyDrop?, h.find? (by decide) local_argument?]

theorem settingChange?_congr (h : SameCalls x y) (kind : ObjectKind)
    (hkind : kind.name ∈ recognised) :
    settingChange? kind table x = settingChange? kind table y := by
  rw [settingChange?, settingChange?, h.find? (by simpa using hkind) local_quoted?]

theorem foreignKeyDetails?_congr (h : SameCalls x y) (columns : List String) :
    foreignKeyDetails? table columns x = foreignKeyDetails? table columns y := by
  have hquoted : ∀ method ∈ ["on", "onUpdate", "onDelete"],
      Call.find? [method] Call.quoted? x = Call.find? [method] Call.quoted? y := by
    intro method hmethod
    have hrecognised : ∀ m ∈ ["on", "onUpdate", "onDelete"], m ∈ recognised := by decide
    exact h.find? (by simpa using hrecognised method hmethod) local_quoted?
  rw [foreignKeyDetails?, foreignKeyDetails?, h.find? (by decide) local_oneOrTwoQuoted?]
  simp only [hquoted "on" (by decide), hquoted "onUpdate" (by decide),
    hquoted "onDelete" (by decide)]

/-- Whether a foreign key begins on a line. -/
def beginsForeignKey (line : List Char) : Bool :=
  (Call.find? ["foreign", "foreignId"] (fun cs => some (Call.argument? cs)) line).isSome

theorem foreignKeyAdd?_congr (h : SameCalls x y) {window window' : List (List Char)}
    (hchain : beginsForeignKey x = true →
      Option.Rel SameCalls (referencesChain? window) (referencesChain? window')) :
    foreignKeyAdd? table x window = foreignKeyAdd? table y window' := by
  rw [foreignKeyAdd?, foreignKeyAdd?, ← h.find? (by decide) local_some_argument?]
  cases hcall : Call.find? ["foreign", "foreignId"] (fun cs => some (Call.argument? cs)) x with
  | none => rfl
  | some call =>
    have hrel := hchain (by rw [beginsForeignKey, hcall]; rfl)
    generalize referencesChain? window = chain at hrel ⊢
    generalize referencesChain? window' = chain' at hrel ⊢
    cases hrel with
    | none => rfl
    | some hsame =>
      simp only [Option.bind_eq_bind, Option.bind_some, foreignKeyDetails?_congr table hsame]

theorem isEmpty_congr {drafts drafts' : List Draft}
    (h : drafts.map Draft.withoutDefinition = drafts'.map Draft.withoutDefinition) :
    drafts.isEmpty = drafts'.isEmpty := by
  rw [← List.isEmpty_map (f := Draft.withoutDefinition), h, List.isEmpty_map]

theorem toList_congr {draft draft' : Option Draft}
    (h : draft.map Draft.withoutDefinition = draft'.map Draft.withoutDefinition) :
    draft.toList.map Draft.withoutDefinition = draft'.toList.map Draft.withoutDefinition := by
  rw [← Option.toList_map, h, Option.toList_map]

theorem draftsIn_congr {line line' : Line} (h : SameCalls line.text line'.text)
    (hchain : beginsForeignKey line.text = true →
      Option.Rel SameCalls (referencesChain? line.window) (referencesChain? line'.window)) :
    (line.draftsIn table).map Draft.withoutDefinition =
      (line'.draftsIn table).map Draft.withoutDefinition := by
  have hmodified := toList_congr (columnModify?_congr table h)
  have hadded : (if (columnModify? table line.text).toList.isEmpty then
        (columnAdd? table line.text).toList else []).map Draft.withoutDefinition =
      (if (columnModify? table line'.text).toList.isEmpty then
        (columnAdd? table line'.text).toList else []).map Draft.withoutDefinition := by
    rw [isEmpty_congr hmodified]
    split
    · exact toList_congr (columnAdd?_congr table h)
    · rfl
  simp only [Line.draftsIn, List.map_append, hmodified, hadded, isEmpty_congr hadded,
    columnDrops_congr table h, columnRename?_congr table h, indexAdd?_congr table h,
    indexDrop?_congr table h, foreignKeyAdd?_congr table h hchain, foreignKeyDrop?_congr table h,
    settingChange?_congr table h .engine (by decide),
    settingChange?_congr table h .charset (by decide),
    settingChange?_congr table h .collation (by decide)]

/-- Lines in which all searches find the same ask for the same, definitions apart. -/
theorem drafts_congr {line line' : Line} (h : SameCalls line.text line'.text)
    (htable : line.table = line'.table)
    (hchain : beginsForeignKey line.text = true →
      Option.Rel SameCalls (referencesChain? line.window) (referencesChain? line'.window)) :
    line.drafts.map Draft.withoutDefinition = line'.drafts.map Draft.withoutDefinition := by
  rw [Line.drafts, Line.drafts, List.map_append, List.map_append, tableDraft?_congr h, htable]
  cases line'.table with
  | none => rfl
  | some table => rw [draftsIn_congr table h hchain]

end MigrationPreview
