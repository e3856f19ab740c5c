import MigrationPreview.Proofs.Details
import MigrationPreview.Proofs.FirstCall

/-!
# Shapes that give way

A line is searched for one shape of call after the other, and two shapes give way: a column is not added
where one is changed, and an index is not added where a column is. A shape gives way to the drafts of the
other shape and not to its calls, so that it matters which shapes have fired by the time its turn comes.
A call that changes a column may stand on a line and give no draft, because no column is named there. It
keeps a column from being added all the same, since both shapes take the column from the same place. A
column without a name, on the other hand, does not keep an index from being added.

## Main definitions

* `Shape`: the shapes of calls, with what each of them asks for and gives way to
* `Shape.run`: one search after the other, with the shapes that have fired so far
* `Line.KeepsPrecedence`: a line whose drafts come in the order of their shapes, without those that have
  to give way

## Main results

* `Call.isSome_find?_iff_stands`: a search that takes any arguments finds a call wherever one stands
* `Shape.pairwise_run`: what holds between the drafts of a run, from what holds between their shapes
* `Line.map_found`: searching for all shapes in turn finds what the line asks for
* `Line.keepsPrecedence`: every line keeps the precedence of its shapes
-/

namespace MigrationPreview

open Text

/-! ### Calls that stand in a line -/

namespace Call

/-- A call of one of some methods stands in a line, whatever its arguments are. -/
def Stands (methods : List String) (line : List Char) : Prop :=
  ∃ method ∈ methods, ∃ blanks : List Char, blanks.all isBlank ∧
    "->".toList ++ method.toList ++ blanks ++ ['('] <:+: line

/-- A search that takes any arguments finds a call wherever one stands. -/
theorem isSome_find?_iff_stands {α : Type} {methods : List String}
    {readArguments : List Char → Option α} {line : List Char}
    (hmethods : ∀ method ∈ methods, ∀ c ∈ method.toList, (!isBlank c && c != '(') = true)
    (hread : ∀ arguments, (readArguments arguments).isSome) :
    (find? methods readArguments line).isSome ↔ Stands methods line := by
  constructor
  · intro h
    obtain ⟨⟨method, found⟩, hfound⟩ := Option.isSome_iff_exists.mp h
    exact ⟨method, method_mem_of_find? hfound, (exists_arguments_of_find? hfound).1⟩
  · rintro ⟨method, hmethod, blanks, hblanks, before, behind, rfl⟩
    obtain ⟨found, hfound⟩ := Option.isSome_iff_exists.mp (hread (skipBlanks behind))
    rw [find?, isSome_firstMatch_iff]
    refine ⟨"->".toList ++ (method.toList ++ blanks ++ '(' :: behind), ⟨before, by simp⟩, ?_⟩
    simp only [readCall, readMethod, expect_append, Option.bind_eq_bind, Option.bind_some]
    rw [readOpening_append_paren (hmethods method hmethod) hblanks]
    simp [hmethod, hfound]

end Call

/-! ### Searches for one shape

What a search needs of its line, when nothing else on the line is looked at. -/

section Search

variable {table : String} {text : List Char}

/-- A change of a column is found if a call for it stands in a line that names a column. -/
theorem isSome_columnModify?_iff :
    (columnModify? table text).isSome ↔
      Call.Stands ["change", "modify"] text ∧ (Call.firstName? text).isSome := by
  rw [← Call.isSome_find?_iff_stands (by decide) fun _ => show (some ()).isSome from rfl]
  cases hcall : Call.find? ["change", "modify"] (fun _ => some ()) text with
  | none => simp [columnModify?, hcall]
  | some call => cases hname : Call.firstName? text <;> simp [columnModify?, hcall, hname]

/-- A new column is found if a call of a type stands in a line that names a column. -/
theorem isSome_columnAdd?_iff :
    (columnAdd? table text).isSome ↔
      Call.Stands columnTypes text ∧ (Call.firstName? text).isSome := by
  rw [← Call.isSome_find?_iff_stands (by decide +kernel) fun _ => show (some ()).isSome from rfl]
  cases hcall : Call.find? columnTypes (fun _ => some ()) text with
  | none => simp [columnAdd?, hcall]
  | some call => cases hname : Call.firstName? text <;> simp [columnAdd?, hcall, hname]

/-- A new index is found if a call for it stands in a line, whether it covers columns or not. -/
theorem isSome_indexAdd?_iff :
    (indexAdd? table text).isSome ↔ Call.Stands ["index", "unique", "primary"] text := by
  rw [← Call.isSome_find?_iff_stands (by decide) fun arguments =>
    show (some (Call.argumentAndName arguments)).isSome from rfl]
  cases hcall : Call.find? ["index", "unique", "primary"]
    (fun arguments => some (Call.argumentAndName arguments)) text <;> simp [indexAdd?, hcall]

end Search

/-! ### Shapes -/

/-- The kind and the action of a draft. -/
def Draft.pair (d : Draft) : ObjectKind × Action := (d.kind, d.action)

/-- The shapes of calls that a line is searched for. -/
inductive Shape where
  | table
  | columnModify
  | columnAdd
  | columnDrop
  | columnRename
  | indexAdd
  | indexDrop
  | foreignKeyAdd
  | foreignKeyDrop
  | engine
  | charset
  | collation
  deriving DecidableEq

namespace Shape

/-- All shapes, in the order in which a line is searched for them. -/
def all : List Shape :=
  [.table, .columnModify, .columnAdd, .columnDrop, .columnRename, .indexAdd, .indexDrop,
    .foreignKeyAdd, .foreignKeyDrop, .engine, .charset, .collation]

/-- What drafts of a shape may ask for. -/
def pairs : Shape → List (ObjectKind × Action)
  | .table => [(.table, .create), (.table, .modify), (.table, .drop)]
  | .columnModify => [(.column, .modify)]
  | .columnAdd => [(.column, .add)]
  | .columnDrop => [(.column, .drop)]
  | .columnRename => [(.column, .rename)]
  | .indexAdd => [(.index, .add)]
  | .indexDrop => [(.index, .drop)]
  | .foreignKeyAdd => [(.foreignKey, .add)]
  | .foreignKeyDrop => [(.foreignKey, .drop)]
  | .engine => [(.engine, .change)]
  | .charset => [(.charset, .change)]
  | .collation => [(.collation, .change)]

/-- Whether a shape counts only in the block of a table. -/
def needsTable : Shape → Bool
  | .table => false
  | _ => true

/-- The shapes to whose drafts a shape gives way. -/
def givesWayTo : Shape → List Shape
  | .columnAdd => [.columnModify]
  | .indexAdd => [.columnAdd]
  | _ => []

/-- The drafts of a shape on a line, whatever else stands there. -/
def drafts (line : Line) (s : Shape) : List Draft :=
  let table := line.table.getD ""
  match s with
  | .table => (tableDraft? line.text).toList
  | .columnModify => (columnModify? table line.text).toList
  | .columnAdd => (columnAdd? table line.text).toList
  | .columnDrop => columnDrops table line.text
  | .columnRename => (columnRename? table line.text).toList
  | .indexAdd => (indexAdd? table line.text).toList
  | .indexDrop => (indexDrop? table line.text).toList
  | .foreignKeyAdd => (foreignKeyAdd? table line.text line.window).toList
  | .foreignKeyDrop => (foreignKeyDrop? table line.text).toList
  | .engine => (settingChange? .engine table line.text).toList
  | .charset => (settingChange? .charset table line.text).toList
  | .collation => (settingChange? .collation table line.text).toList

/-- The drafts that a shape gives when those in `fired` gave some before. -/
def apply (line : Line) (fired : List Shape) (s : Shape) : List Draft :=
  if s.needsTable ∧ line.table = none then []
  else if s.givesWayTo.any (· ∈ fired) then []
  else s.drafts line

/-- The shapes that have fired after `s` gave some drafts, or none. -/
def fire (fired : List Shape) (s : Shape) (given : List Draft) : List Shape :=
  if given.isEmpty then fired else fired ++ [s]

/-- Searches a line for some shapes in turn. A shape is told which of the shapes before it have fired,
and every draft is kept with its shape. -/
def run (line : Line) : List Shape → List Shape → List (Shape × Draft)
  | _, [] => []
  | fired, s :: rest =>
    let given := s.apply line fired
    given.map (s, ·) ++ run line (fire fired s given) rest

variable {line : Line} {fired shapes : List Shape} {s t : Shape} {draft : Draft}
  {pair : ObjectKind × Action}

/-! #### The table of shapes -/

theorem mem_all (s : Shape) : s ∈ all := by
  cases s <;> decide

/-- What a draft asks for tells its shape. -/
theorem eq_of_mem_pairs (hs : pair ∈ s.pairs) (ht : pair ∈ t.pairs) : s = t := by
  have hfirst : ∀ s ∈ all, ∀ pair ∈ s.pairs, all.find? (pair ∈ ·.pairs) = some s := by decide
  have heq := (hfirst s (mem_all s) pair hs).symm.trans (hfirst t (mem_all t) pair ht)
  exact Option.some_inj.mp heq

theorem nodup_all : all.Nodup := by
  decide

/-- Shapes are searched for in their order. -/
theorem pairwise_all_idxOf : all.Pairwise fun s t => all.idxOf s ≤ all.idxOf t := by
  decide

/-- A shape gives way to shapes in front of it only. -/
theorem pairwise_all_givesWayTo : all.Pairwise fun s t => t ∉ s.givesWayTo := by
  decide

theorem notMem_givesWayTo_self (s : Shape) : s ∉ s.givesWayTo := by
  cases s <;> decide

/-! #### Single shapes -/

/-- A draft asks for what belongs to its shape. -/
theorem pair_mem_pairs (h : draft ∈ s.drafts line) : draft.pair ∈ s.pairs := by
  cases s with
  | table =>
    obtain ⟨⟨method, table⟩, -, h⟩ := Option.bind_eq_some_iff.mp (Option.mem_toList.mp h)
    obtain rfl := Option.some_inj.mp h
    exact List.mem_map_of_mem (schemaAction_mem method)
  | columnDrop =>
    simp only [drafts, columnDrops] at h
    split at h
    · obtain ⟨column, -, rfl⟩ := List.mem_map.mp h
      exact List.mem_singleton_self _
    · simp at h
  | columnRename | indexAdd | engine | charset | collation =>
    obtain ⟨call, -, h⟩ := Option.bind_eq_some_iff.mp (Option.mem_toList.mp h)
    obtain rfl := Option.some_inj.mp h
    exact List.mem_singleton_self _
  | columnModify | columnAdd | indexDrop | foreignKeyDrop =>
    obtain ⟨call, -, h⟩ := Option.bind_eq_some_iff.mp (Option.mem_toList.mp h)
    obtain ⟨found, -, h⟩ := Option.bind_eq_some_iff.mp h
    obtain rfl := Option.some_inj.mp h
    exact List.mem_singleton_self _
  | foreignKeyAdd =>
    obtain ⟨call, -, h⟩ := Option.bind_eq_some_iff.mp (Option.mem_toList.mp h)
    obtain ⟨chain, -, h⟩ := Option.bind_eq_some_iff.mp h
    obtain ⟨details, -, h⟩ := Option.bind_eq_some_iff.mp h
    obtain rfl := Option.some_inj.mp h
    exact List.mem_singleton_self _

/-- Only columns that are dropped come several at a time. -/
theorem length_drafts_le (h : s ≠ .columnDrop) : (s.drafts line).length ≤ 1 := by
  cases s with
  | columnDrop => exact absurd rfl h
  | _ => exact Option.length_toList_le

theorem pairwise_drafts {R : Draft → Draft → Prop} (h : s ≠ .columnDrop) :
    (s.drafts line).Pairwise R := by
  refine List.pairwise_of_forall_sublist ?_
  intro d d' htwo
  have hle : 2 ≤ 1 := htwo.length_le.trans (length_drafts_le h)
  omega

theorem mem_fire {given : List Draft} :
    t ∈ fire fired s given ↔ t ∈ fired ∨ t = s ∧ given ≠ [] := by
  unfold fire
  split <;> simp_all

theorem apply_sublist : (s.apply line fired).Sublist (s.drafts line) := by
  unfold apply
  split
  · exact List.nil_sublist _
  · split
    · exact List.nil_sublist _
    · exact List.Sublist.refl _

/-- A shape gives its drafts unless it needs a table or gives way to one that has fired. -/
theorem mem_apply_iff :
    draft ∈ s.apply line fired ↔
      draft ∈ s.drafts line ∧ (s.needsTable → line.table.isSome) ∧ ∀ t ∈ s.givesWayTo, t ∉ fired := by
  unfold apply
  rw [List.mem_ite_nil_left, List.mem_ite_nil_left, ← Option.not_isSome_iff_eq_none]
  simp only [not_and, not_not, List.any_eq_true, decide_eq_true_eq, not_exists]
  tauto

/-! #### Runs -/

/-- The drafts of a run are given by its shapes, in no shape that gives way to one that has fired. -/
theorem mem_run (h : (t, draft) ∈ run line fired shapes) :
    t ∈ shapes ∧ draft ∈ t.drafts line ∧ (t.needsTable → line.table.isSome) ∧
      ∀ s ∈ t.givesWayTo, s ∉ fired := by
  induction shapes generalizing fired with
  | nil => simp [run] at h
  | cons s rest ih =>
    rcases List.mem_append.mp h with h | h
    · obtain ⟨given, hgiven, hpair⟩ := List.mem_map.mp h
      obtain ⟨rfl, rfl⟩ := Prod.mk.inj hpair
      exact ⟨List.mem_cons_self, mem_apply_iff.mp hgiven⟩
    · obtain ⟨hmem, hdraft, hneeds, hfired⟩ := ih h
      refine ⟨List.mem_cons_of_mem s hmem, hdraft, hneeds, ?_⟩
      intro r hr hold
      exact hfired r hr (mem_fire.mpr (.inl hold))

/-- A draft is left out of a run only if its shape gives way to one that has fired, before the run or in
it. -/
theorem exists_fired_of_notMem_run (hmem : t ∈ shapes) (hdraft : draft ∈ t.drafts line)
    (hneeds : t.needsTable → line.table.isSome) (h : (t, draft) ∉ run line fired shapes) :
    ∃ s ∈ t.givesWayTo, s ∈ fired ∨ ∃ other, (s, other) ∈ run line fired shapes := by
  induction shapes generalizing fired with
  | nil => simp at hmem
  | cons r rest ih =>
    simp only [run, List.mem_append, not_or] at h ⊢
    rcases List.mem_cons.mp hmem with rfl | hmem
    · have hleft : draft ∉ t.apply line fired := by
        intro hgiven
        exact h.1 (List.mem_map.mpr ⟨draft, hgiven, rfl⟩)
      rw [mem_apply_iff] at hleft
      push Not at hleft
      obtain ⟨s, hs, hfired⟩ := hleft hdraft hneeds
      exact ⟨s, hs, .inl hfired⟩
    · obtain ⟨s, hs, hfired | ⟨other, hother⟩⟩ := ih hmem h.2
      · -- a shape that has fired by now had fired before, or is the one in front
        rcases mem_fire.mp hfired with hold | ⟨rfl, hne⟩
        · exact ⟨s, hs, .inl hold⟩
        · obtain ⟨other, hother⟩ := List.exists_mem_of_ne_nil _ hne
          exact ⟨s, hs, .inr ⟨other, .inl (List.mem_map.mpr ⟨other, hother, rfl⟩)⟩⟩
      · exact ⟨s, hs, .inr ⟨other, .inr hother⟩⟩

/-- What holds between the drafts of one shape, and between those of two shapes in their order unless the
second gives way to the first, holds between any two drafts of a run in their order. -/
theorem pairwise_run {R : Shape × Draft → Shape × Draft → Prop}
    (hwithin : ∀ s ∈ shapes, (s.drafts line).Pairwise fun d d' => R (s, d) (s, d'))
    (hacross : shapes.Pairwise fun s t => s ∉ t.givesWayTo →
      ∀ d ∈ s.drafts line, ∀ d' ∈ t.drafts line, R (s, d) (t, d')) :
    (run line fired shapes).Pairwise R := by
  -- induction on the shapes still to come, for all that may have fired in front of them
  induction shapes generalizing fired with
  | nil => exact List.Pairwise.nil
  | cons s rest ih =>
    obtain ⟨hs, hrest⟩ := List.pairwise_cons.mp hacross
    obtain ⟨hin, hwithin⟩ := List.forall_mem_cons.mp hwithin
    refine List.pairwise_append.mpr ⟨?_, ih hwithin hrest, ?_⟩
    · exact List.pairwise_map.mpr (hin.sublist apply_sublist)
    · intro p hp q hq
      obtain ⟨d, hd, rfl⟩ := List.mem_map.mp hp
      obtain ⟨hmem, hdraft, -, hfired⟩ := mem_run hq
      refine hs q.1 hmem ?_ d (apply_sublist.mem hd) q.2 hdraft
      -- the first shape has fired, as it gave `d`
      intro hgives
      exact hfired s hgives (mem_fire.mpr (.inr ⟨rfl, List.ne_nil_of_mem hd⟩))

theorem map_snd_run_cons :
    (run line fired (s :: shapes)).map Prod.snd =
      s.apply line fired ++ (run line (fire fired s (s.apply line fired)) shapes).map Prod.snd := by
  rw [run, List.map_append, List.map_map]
  congr 1
  exact List.map_id _

end Shape

/-! ### Lines -/

namespace Line

open Shape

variable {line : Line} {draft : Draft} {kind : ObjectKind} {action : Action}

/-- What is found on a line, with the shapes for which it is found. -/
def found (line : Line) : List (Shape × Draft) := Shape.run line [] Shape.all

/-- Searching for all shapes in turn finds what the line asks for. -/
theorem map_found (line : Line) : line.found.map Prod.snd = line.drafts := by
  simp only [found, Shape.all, map_snd_run_cons, Line.drafts]
  cases htable : line.table with
  | none => simp [run, apply, needsTable, htable, givesWayTo, Shape.drafts]
  | some table =>
    -- only the drafts for columns that are changed or added matter to a later shape
    cases hmodify : columnModify? table line.text <;> cases hadd : columnAdd? table line.text <;>
    simp [run, apply, needsTable, htable, givesWayTo, Shape.drafts, mem_fire, draftsIn, hmodify, hadd]

/-- The drafts of a line come in the order of their shapes. -/
theorem pairwise_found (line : Line) :
    line.found.Pairwise fun p q => Shape.all.idxOf p.1 ≤ Shape.all.idxOf q.1 := by
  refine pairwise_run ?_ (pairwise_all_idxOf.imp fun hle _ _ _ _ _ => hle)
  intro s _
  exact List.pairwise_of_forall fun _ _ => le_rfl

/-- No draft of a line belongs to a shape that gives way to the shape of another one. -/
theorem notMem_givesWayTo {p q : Shape × Draft} (hp : p ∈ line.found) (hq : q ∈ line.found) :
    p.1 ∉ q.1.givesWayTo := by
  have hwithin : ∀ s ∈ Shape.all, (s.drafts line).Pairwise fun _ _ => s ∉ s.givesWayTo := by
    intro s _
    exact List.pairwise_of_forall fun _ _ => notMem_givesWayTo_self s
  -- the run sees to the drafts in front, and the order of the shapes to those behind
  have hearlier : line.found.Pairwise fun p q => p.1 ∉ q.1.givesWayTo :=
    pairwise_run hwithin (List.pairwise_of_forall fun _ _ hfree _ _ _ _ => hfree)
  have hlater : line.found.Pairwise fun p q => q.1 ∉ p.1.givesWayTo :=
    pairwise_run hwithin (pairwise_all_givesWayTo.imp fun hfree _ _ _ _ _ => hfree)
  exact hearlier.forall_of_forall_of_flip (fun p _ => notMem_givesWayTo_self p.1) hlater hp hq

/-- What is found for a shape is all that it gives, unless it gives way to what else is found. -/
theorem mem_found_iff {s : Shape} :
    (s, draft) ∈ line.found ↔ draft ∈ s.drafts line ∧ (s.needsTable → line.table.isSome) ∧
      ∀ t ∈ s.givesWayTo, ∀ other, (t, other) ∉ line.found := by
  constructor
  · intro h
    obtain ⟨-, hdraft, hneeds, -⟩ := mem_run h
    exact ⟨hdraft, hneeds, fun t ht other hother => notMem_givesWayTo hother h ht⟩
  · rintro ⟨hdraft, hneeds, hfree⟩
    by_contra h
    obtain ⟨t, ht, hfired | ⟨other, hother⟩⟩ :=
      exists_fired_of_notMem_run (mem_all s) hdraft hneeds h
    · simp at hfired
    · exact hfree t ht other hother

/-- Apart from columns that are dropped, the drafts of a line differ in what they ask for. -/
theorem nodup_pairs (line : Line) :
    ((line.drafts.map Draft.pair).filter (· ≠ (.column, .drop))).Nodup := by
  have hfound : line.found.Pairwise fun p q => p.2.pair ≠ (.column, .drop) → p.2.pair ≠ q.2.pair := by
    refine pairwise_run ?_ ?_
    · intro s _
      by_cases hs : s = .columnDrop
      · subst hs
        refine List.pairwise_of_forall_mem_list ?_
        intro d hd _ _ hpair
        exact absurd (List.mem_singleton.mp (pair_mem_pairs hd)) hpair
      · exact pairwise_drafts hs
    · refine nodup_all.imp ?_
      intro s t hne _ d hd d' hd' _ hpair
      have ht := pair_mem_pairs hd'
      rw [← hpair] at ht
      exact hne (eq_of_mem_pairs (pair_mem_pairs hd) ht)
  rw [← map_found, List.map_map, List.Nodup, List.pairwise_filter, List.pairwise_map]
  refine hfound.imp ?_
  intro p q h hp _
  exact h (of_decide_eq_true hp)

/-- A line asks for an action on objects of a kind. -/
def Yields (line : Line) (kind : ObjectKind) (action : Action) : Prop :=
  ∃ draft ∈ line.drafts, draft.pair = (kind, action)

/-- What a line asks for is found for the shape that it belongs to. -/
theorem yields_iff {s : Shape} (hs : s.pairs = [(kind, action)]) :
    line.Yields kind action ↔ ∃ draft, (s, draft) ∈ line.found := by
  unfold Yields
  rw [← map_found]
  constructor
  · rintro ⟨draft, hdraft, hpair⟩
    obtain ⟨⟨t, _⟩, hfound, rfl⟩ := List.mem_map.mp hdraft
    have ht := pair_mem_pairs (mem_run hfound).2.1
    have hmem : (kind, action) ∈ s.pairs := hs ▸ List.mem_singleton_self _
    rw [hpair] at ht
    obtain rfl := eq_of_mem_pairs hmem ht
    exact ⟨_, hfound⟩
  · rintro ⟨draft, hfound⟩
    have hpair := pair_mem_pairs (mem_run hfound).2.1
    rw [hs] at hpair
    exact ⟨draft, List.mem_map.mpr ⟨_, hfound, rfl⟩, List.mem_singleton.mp hpair⟩

/-- In the block of a table, a line asks for what a search finds unless its shape gives way. -/
theorem yields_iff_isSome {s : Shape} {search : Option Draft} (hs : s.pairs = [(kind, action)])
    (hneeds : s.needsTable) (hdrafts : s.drafts line = search.toList) :
    line.Yields kind action ↔ line.table.isSome ∧ search.isSome ∧
      ∀ t ∈ s.givesWayTo, ∀ other, (t, other) ∉ line.found := by
  rw [yields_iff hs]
  constructor
  · rintro ⟨draft, hfound⟩
    obtain ⟨hdraft, htable, hfree⟩ := mem_found_iff.mp hfound
    rw [hdrafts, Option.mem_toList] at hdraft
    exact ⟨htable hneeds, Option.isSome_of_mem hdraft, hfree⟩
  · rintro ⟨htable, hsome, hfree⟩
    obtain ⟨draft, hdraft⟩ := Option.isSome_iff_exists.mp hsome
    refine ⟨draft, mem_found_iff.mpr ⟨?_, fun _ => htable, hfree⟩⟩
    rw [hdrafts, Option.mem_toList]
    exact hdraft

/-- A column is changed exactly if a call for it stands in a line that names a column. -/
theorem yields_columnModify_iff :
    line.Yields .column .modify ↔ line.table.isSome ∧
      Call.Stands ["change", "modify"] line.text ∧ (Call.firstName? line.text).isSome := by
  rw [yields_iff_isSome (s := .columnModify) rfl rfl rfl, isSome_columnModify?_iff]
  simp [givesWayTo]

/-- A column is added exactly if a call of a type stands in a line that names a column and holds no call
for a change, whether or not that call would give a draft. -/
theorem yields_columnAdd_iff :
    line.Yields .column .add ↔ line.table.isSome ∧ Call.Stands columnTypes line.text ∧
      (Call.firstName? line.text).isSome ∧ ¬ Call.Stands ["change", "modify"] line.text := by
  rw [yields_iff_isSome (s := .columnAdd) rfl rfl rfl, isSome_columnAdd?_iff]
  have hgives : (∀ t ∈ Shape.columnAdd.givesWayTo, ∀ other, (t, other) ∉ line.found) ↔
      ¬ line.Yields .column .modify := by
    rw [yields_iff (s := .columnModify) rfl]
    simp [givesWayTo]
  rw [hgives, yields_columnModify_iff]
  tauto

/-- The call for a change keeps the column from being added and gives nothing itself. -/
example : Line.drafts ⟨"$table->string($name)->change();".toList, some "users", []⟩ = [] := by
  decide +kernel

/-- An index is added exactly if a call for it stands in a line that adds no column. -/
theorem yields_indexAdd_iff :
    line.Yields .index .add ↔ line.table.isSome ∧
      Call.Stands ["index", "unique", "primary"] line.text ∧ ¬ line.Yields .column .add := by
  rw [yields_iff_isSome (s := .indexAdd) rfl rfl rfl, isSome_indexAdd?_iff,
    yields_iff (s := .columnAdd) rfl]
  simp [givesWayTo]

/-- A column without a name is not added, and the index is. -/
example :
    (Line.drafts ⟨"$table->string($name)->unique();".toList, some "users", []⟩).map Draft.pair =
      [(.index, .add)] := by
  decide +kernel

/-- What a line asks for comes in the order of its shapes, and what has to give way is left out. -/
structure KeepsPrecedence (line : Line) : Prop where
  /-- The line asks for what is found by searching for all shapes in turn. -/
  map_found : line.found.map Prod.snd = line.drafts
  /-- Every draft asks for something that belongs to its shape. -/
  pair_mem_pairs : ∀ p ∈ line.found, p.2.pair ∈ p.1.pairs
  /-- For a shape all its drafts are found, unless it gives way to what else is found. -/
  mem_found_iff : ∀ s draft, (s, draft) ∈ line.found ↔
    draft ∈ s.drafts line ∧ (s.needsTable → line.table.isSome) ∧
      ∀ t ∈ s.givesWayTo, ∀ other, (t, other) ∉ line.found
  /-- Drafts come in the order of their shapes. -/
  pairwise_found : line.found.Pairwise fun p q => Shape.all.idxOf p.1 ≤ Shape.all.idxOf q.1
  /-- Only columns that are dropped are asked for several times. -/
  nodup_pairs : ((line.drafts.map Draft.pair).filter (· ≠ (.column, .drop))).Nodup
  /-- No column is added where one is changed. -/
  not_yields_modify : line.Yields .column .add → ¬ line.Yields .column .modify
  /-- No index is added where a column is. -/
  not_yields_index : line.Yields .column .add → ¬ line.Yields .index .add
  /-- A call for a change keeps columns from being added even if it gives no draft. -/
  not_yields_add : Call.Stands ["change", "modify"] line.text → ¬ line.Yields .column .add

/-- Every line keeps the precedence of its shapes, in every table and before all following lines. -/
theorem keepsPrecedence (line : Line) : line.KeepsPrecedence where
  map_found := map_found line
  pair_mem_pairs _ hp := Shape.pair_mem_pairs (mem_run hp).2.1
  mem_found_iff _ _ := mem_found_iff
  pairwise_found := pairwise_found line
  nodup_pairs := nodup_pairs line
  not_yields_modify hadd hmodify := by
    obtain ⟨-, -, -, hunchanged⟩ := yields_columnAdd_iff.mp hadd
    obtain ⟨-, hchanged, -⟩ := yields_columnModify_iff.mp hmodify
    exact hunchanged hchanged
  not_yields_index hadd hindex := by
    obtain ⟨-, -, hfree⟩ := yields_indexAdd_iff.mp hindex
    exact hfree hadd
  not_yields_add hchanged hadd := by
    obtain ⟨-, -, -, hunchanged⟩ := yields_columnAdd_iff.mp hadd
    exact hunchanged hchanged

end Line

end MigrationPreview
