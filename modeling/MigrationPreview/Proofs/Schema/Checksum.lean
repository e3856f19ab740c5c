import Mathlib.Data.List.Infix
import MigrationPreview.Proofs.Diff.Compared
import MigrationPreview.Proofs.Text

/-!
# What a checksum tells

The text under a checksum is a concatenation without lengths, so it is read back by its separators. The first
dot, colon or hyphen behind a key tells what comes next: a column repeats the key in front of the dot, an
index and a foreign key have two letters in front of the colon, and a hyphen stands for a missing engine. The
settings at the end of a table have no separator of their own; they are found by being known. Where names hold
no separators that matter to them, two schemas with the same text have the same tables as far as the text
covers them. The columns of foreign keys are not covered, so diffs of equal checksums may differ there.

## Main definitions

* `Table.pieces`: what the text says of a table between its key and its settings
* `Table.IsPlain`: tables whose texts can be read back

## Main results

* `Snapshot.checksumText_congr`: the text covers nothing but the covered parts of the tables
* `Snapshot.forall₂_of_text_eq`: the text of plain tables can be read back
* `diff_eq_of_checksumText_eq`: snapshots with equal texts have equal diffs
* `checksum_misses_foreignKeyColumns`: the condition on foreign keys is needed
-/

namespace MigrationPreview

/-! ### Texts up to a separator -/

/-- The characters that tell what comes next behind the key of a table. -/
def separators : List Char := ['.', ':', '-']

/-- Two equal texts agree up to the first characters of a kind that stands in front of them in neither. -/
theorem eq_of_append_mark {marks front front' behind behind' : List Char} {c c' : Char}
    (h : front ++ c :: behind = front' ++ c' :: behind') (hfront : ∀ d ∈ front, d ∉ marks)
    (hfront' : ∀ d ∈ front', d ∉ marks) (hc : c ∈ marks) (hc' : c' ∈ marks) :
    front = front' ∧ c = c' ∧ behind = behind' := by
  induction front generalizing front' with
  | nil =>
    cases front' with
    | nil =>
      obtain ⟨rfl, rfl⟩ := List.cons.inj h
      exact ⟨rfl, rfl, rfl⟩
    | cons d front' =>
      obtain ⟨rfl, -⟩ := List.cons.inj h
      exact absurd hc (hfront' _ List.mem_cons_self)
  | cons d front ih =>
    cases front' with
    | nil =>
      obtain ⟨rfl, -⟩ := List.cons.inj h
      exact absurd hc' (hfront _ List.mem_cons_self)
    | cons d' front' =>
      obtain ⟨rfl, hrest⟩ := List.cons.inj h
      obtain ⟨rfl, rest⟩ := ih hrest (fun e he => hfront e (List.mem_cons_of_mem _ he))
        fun e he => hfront' e (List.mem_cons_of_mem _ he)
      exact ⟨rfl, rest⟩

theorem eq_of_append_cons {front front' behind behind' : List Char} {c : Char}
    (h : front ++ c :: behind = front' ++ c :: behind') (hfront : c ∉ front) (hfront' : c ∉ front') :
    front = front' ∧ behind = behind' := by
  have hne {text : List Char} (htext : c ∉ text) : ∀ d ∈ text, d ∉ [c] := by
    rintro d hd heq
    exact htext (List.mem_singleton.mp heq ▸ hd)
  obtain ⟨hfront, -, hbehind⟩ := eq_of_append_mark h (hne hfront) (hne hfront') List.mem_cons_self
    List.mem_cons_self
  exact ⟨hfront, hbehind⟩

/-- A text without the character that begins the rest ends in front of it. -/
theorem exists_append_of_append_eq {text rest front behind : List Char} {c : Char}
    (h : text ++ rest = front ++ c :: behind) (hc : c ∉ text) :
    ∃ more, front = text ++ more ∧ rest = more ++ c :: behind := by
  rcases List.append_eq_append_iff.mp h with ⟨more, hfront, hrest⟩ | ⟨more, htext, hbehind⟩
  · exact ⟨more, hfront, hrest⟩
  · cases more with
    | nil => exact ⟨[], by simpa using htext.symm, hbehind.symm⟩
    | cons d more =>
      obtain ⟨rfl, -⟩ := List.cons.inj hbehind
      exact absurd (htext ▸ by simp) hc

/-! ### Settings -/

/-- The settings of a table. -/
structure Table.Settings where
  engine : Option String
  charset : Option String
  collation : Option String
  deriving DecidableEq

/-- The settings of a table. -/
def Table.settings (t : Table) : Table.Settings := ⟨t.engine, t.charset, t.collation⟩

/-- What the text of a table says of its settings. -/
def Table.Settings.text (a : Table.Settings) : List Char :=
  (a.engine.getD "-").toList ++ (a.charset.getD "-").toList ++ (a.collation.getD "-").toList

/-- Settings of which none begins with others. -/
def Table.Settings.AreDistinct (known : List Table.Settings) : Prop :=
  ∀ a ∈ known, ∀ b ∈ known, a.text <+: b.text → a = b

instance (known : List Table.Settings) : Decidable (Table.Settings.AreDistinct known) :=
  inferInstanceAs (Decidable (∀ a ∈ known, ∀ b ∈ known, a.text <+: b.text → a = b))

/-- A text of which no end looks like one of the settings, and begins none of them. -/
def Apart (known : List Table.Settings) (text : List Char) : Prop :=
  ∀ a ∈ known, ∀ ending ∈ text.tails, ending ≠ [] → ¬ ending <+: a.text ∧ ¬ a.text <+: ending

instance (known : List Table.Settings) (text : List Char) : Decidable (Apart known text) :=
  inferInstanceAs (Decidable (∀ a ∈ known, ∀ ending ∈ text.tails, ending ≠ [] →
    ¬ ending <+: a.text ∧ ¬ a.text <+: ending))

/-- No end of such a text and settings begin the same text. -/
theorem Apart.ne_append {known : List Table.Settings} {text front ending more more' : List Char}
    {a : Table.Settings} (h : Apart known text) (ha : a ∈ known) (htext : front ++ ending = text)
    (hne : ending ≠ []) : ending ++ more ≠ a.text ++ more' := by
  intro heq
  obtain ⟨hbegins, hlooks⟩ := h a ha ending ((List.mem_tails _ _).mpr ⟨front, htext⟩) hne
  rcases List.prefix_or_prefix_of_prefix ⟨more, heq⟩ (List.prefix_append a.text more') with h | h
  · exact hbegins h
  · exact hlooks h

/-! ### Ends of texts -/

/-- What stands in front of the first separator of a piece, and the separator. -/
inductive Opens (key : List Char) : List Char → Char → Prop where
  | column : Opens key key '.'
  | index : Opens key "IX".toList ':'
  | foreignKey : Opens key "FK".toList ':'

/-- A key that holds no separators, and behind which no end of an opening looks like settings. -/
structure IsPlainKey (known : List Table.Settings) (key : List Char) : Prop where
  separators : ∀ c ∈ key, c ∉ separators
  apart : ∀ opening ∈ [key ++ ['.'], "IX:".toList, "FK:".toList], Apart known opening

instance (known : List Table.Settings) (key : List Char) : Decidable (IsPlainKey known key) :=
  decidable_of_iff ((∀ c ∈ key, c ∉ separators) ∧
    ∀ opening ∈ [key ++ ['.'], "IX:".toList, "FK:".toList], Apart known opening)
    ⟨fun h => ⟨h.1, h.2⟩, fun h => ⟨h.separators, h.apart⟩⟩

/-- A text with which the text of a table can go on: the next piece, or the settings. -/
inductive Continues (key : List Char) (known : List Table.Settings) : List Char → Prop where
  | piece {front : List Char} {mark : Char} (h : Opens key front mark) (behind : List Char) :
      Continues key known (front ++ mark :: behind)
  | settings {a : Table.Settings} (h : a ∈ known) (behind : List Char) :
      Continues key known (a.text ++ behind)

/-- A text that can follow the key: a piece, or settings without an engine. -/
inductive Begins (key : List Char) : List Char → Prop where
  | piece {front : List Char} {mark : Char} (h : Opens key front mark) (behind : List Char) :
      Begins key (front ++ mark :: behind)
  | settings (behind : List Char) : Begins key ('-' :: behind)

/-- A text whose end is told by what follows it. -/
structure EndsApart (known : List Table.Settings) (text : List Char) : Prop where
  dot : '.' ∉ text
  colon : ':' ∉ text
  settings : Apart known text

instance (known : List Table.Settings) (text : List Char) : Decidable (EndsApart known text) :=
  decidable_of_iff ('.' ∉ text ∧ ':' ∉ text ∧ Apart known text)
    ⟨fun h => ⟨h.1, h.2.1, h.2.2⟩, fun h => ⟨h.dot, h.colon, h.settings⟩⟩

section

variable {key key' front front' : List Char} {mark mark' : Char} {known : List Table.Settings}

theorem Opens.mark_ne (h : Opens key front mark) : mark ≠ '-' := by
  cases h <;> decide

theorem Opens.mark_separator (h : Opens key front mark) : mark ∈ separators := by
  cases h <;> decide

theorem Opens.front_separator (h : Opens key front mark) (hkey : ∀ c ∈ key, c ∉ separators) :
    ∀ c ∈ front, c ∉ separators := by
  cases h with
  | column => exact hkey
  | index => decide
  | foreignKey => decide

theorem Opens.apart (h : Opens key front mark) (hkey : IsPlainKey known key) :
    Apart known (front ++ [mark]) := by
  cases h with
  | column => exact hkey.apart _ (by simp)
  | index => exact hkey.apart _ (by simp)
  | foreignKey => exact hkey.apart _ (by simp)

/-- The separator tells what stands in front of it, or how long it is. -/
theorem Opens.dot_or_colon (h : Opens key front mark) :
    (mark = '.' ∧ front = key) ∨ (mark = ':' ∧ front.length = 2) := by
  cases h with
  | column => exact .inl ⟨rfl, rfl⟩
  | index => exact .inr ⟨rfl, rfl⟩
  | foreignKey => exact .inr ⟨rfl, rfl⟩

theorem Opens.length_eq (h : Opens key front mark) (h' : Opens key front' mark) :
    front.length = front'.length := by
  rcases h.dot_or_colon with ⟨rfl, rfl⟩ | ⟨rfl, hfront⟩ <;>
    rcases h'.dot_or_colon with ⟨hdot, rfl⟩ | ⟨hcolon, hfront'⟩
  · rfl
  · exact absurd hcolon (by decide)
  · exact absurd hdot (by decide)
  · rw [hfront, hfront']

/-- No end of an opening and settings begin the same text. -/
theorem Opens.ne_settings {more behind behind' : List Char} {a : Table.Settings}
    (h : Opens key (front ++ more) mark) (hkey : IsPlainKey known key) (ha : a ∈ known) :
    more ++ mark :: behind ≠ a.text ++ behind' := by
  rw [List.append_cons]
  exact (h.apart hkey).ne_append ha (List.append_assoc front more [mark]).symm (by simp)

/-- Behind the end of a text nothing is left that could still belong to it. -/
theorem EndsApart.eq_nil {text ending rest : List Char} (htext : EndsApart known (text ++ ending))
    (hkey : IsPlainKey known key) (h : Continues key known (ending ++ rest))
    (hrest : Continues key known rest) : ending = [] := by
  have hsub {c : Char} (hc : c ∉ text ++ ending) : c ∉ ending := fun hmem =>
    hc (List.mem_append_right text hmem)
  generalize hwhole : ending ++ rest = whole at h
  cases h with
  | @piece front mark hopens behind =>
    have hmark : mark ∉ ending := by
      rcases hopens.dot_or_colon with ⟨rfl, -⟩ | ⟨rfl, -⟩
      · exact hsub htext.dot
      · exact hsub htext.colon
    obtain ⟨more, rfl, rfl⟩ := exists_append_of_append_eq hwhole hmark
    -- the rest would begin with an end of the same opening
    generalize hother : more ++ mark :: behind = other at hrest
    cases hrest with
    | @piece front' mark' hopens' behind' =>
      obtain ⟨rfl, rfl, -⟩ := eq_of_append_mark hother
        (fun c hc => hopens.front_separator hkey.separators c (List.mem_append_right _ hc))
        (hopens'.front_separator hkey.separators) hopens.mark_separator hopens'.mark_separator
      have hlength := hopens.length_eq hopens'
      rw [List.length_append] at hlength
      exact List.eq_nil_of_length_eq_zero (by omega)
    | settings ha behind' => exact absurd hother (hopens.ne_settings hkey ha)
  | settings ha behind =>
    by_contra hne
    exact htext.settings.ne_append ha rfl hne hwhole

/-- Texts whose ends are told by what follows them are told apart from what follows them. -/
theorem EndsApart.eq_of_append_eq {text text' rest rest' : List Char} (htext : EndsApart known text)
    (htext' : EndsApart known text') (hkey : IsPlainKey known key) (hrest : Continues key known rest)
    (hrest' : Continues key known rest') (h : text ++ rest = text' ++ rest') :
    text = text' ∧ rest = rest' := by
  rcases List.append_eq_append_iff.mp h with ⟨ending, rfl, rfl⟩ | ⟨ending, rfl, rfl⟩
  · obtain rfl := htext'.eq_nil hkey hrest hrest'
    simp
  · obtain rfl := htext.eq_nil hkey hrest' hrest
    simp

/-- What follows a key tells where the key ends. -/
theorem Begins.key_eq {rest rest' : List Char} (hrest : Begins key rest) (hrest' : Begins key' rest')
    (hkey : ∀ c ∈ key, c ∉ separators) (hkey' : ∀ c ∈ key', c ∉ separators)
    (h : key ++ rest = key' ++ rest') : key = key' := by
  have hfront {key front : List Char} {mark : Char} (hkey : ∀ c ∈ key, c ∉ separators)
      (hopens : Opens key front mark) : ∀ c ∈ key ++ front, c ∉ separators := fun c hc =>
    (List.mem_append.mp hc).elim (hkey c) (hopens.front_separator hkey c)
  cases hrest with
  | piece hopens behind =>
    rw [← List.append_assoc] at h
    cases hrest' with
    | piece hopens' behind' =>
      rw [← List.append_assoc] at h
      obtain ⟨hkeys, hmark, -⟩ := eq_of_append_mark h (hfront hkey hopens) (hfront hkey' hopens')
        hopens.mark_separator hopens'.mark_separator
      -- in front of a dot the key stands twice, in front of a colon it is followed by two letters
      have hlength : key.length = key'.length := by
        have hlength := congrArg List.length hkeys
        rw [List.length_append, List.length_append] at hlength
        rcases hopens.dot_or_colon with ⟨rfl, rfl⟩ | ⟨rfl, hfront⟩ <;>
          rcases hopens'.dot_or_colon with ⟨hdot, rfl⟩ | ⟨hcolon, hfront'⟩
        · omega
        · exact absurd (hmark.trans hcolon) (by decide)
        · exact absurd (hmark.trans hdot) (by decide)
        · omega
      exact List.append_inj_left hkeys hlength
    | settings behind' =>
      obtain ⟨-, hmark, -⟩ := eq_of_append_mark h (hfront hkey hopens) hkey' hopens.mark_separator
        (by decide)
      exact absurd hmark hopens.mark_ne
  | settings behind =>
    cases hrest' with
    | piece hopens' behind' =>
      rw [← List.append_assoc key'] at h
      obtain ⟨-, hmark, -⟩ := eq_of_append_mark h hkey (hfront hkey' hopens') (by decide)
        hopens'.mark_separator
      exact absurd hmark.symm hopens'.mark_ne
    | settings behind' => exact (eq_of_append_mark h hkey hkey' (by decide) (by decide)).1

end

/-! ### Pieces -/

/-- What the text of a table says between its key and its settings. -/
inductive Piece where
  | column (name dataType : String)
  | index (name : String) (columns : List String)
  | foreignKey (name referencedTable : String)

namespace Piece

/-- What stands in front of the first separator. -/
def front (key : List Char) : Piece → List Char
  | column .. => key
  | index .. => "IX".toList
  | foreignKey .. => "FK".toList

/-- The first separator. -/
def mark : Piece → Char
  | column .. => '.'
  | index .. => ':'
  | foreignKey .. => ':'

/-- What stands behind the first separator. -/
def behind : Piece → List Char
  | column name dataType => name.toList ++ ':' :: dataType.toList
  | index name columns => name.toList ++ '(' :: ((",".intercalate columns).toList ++ [')'])
  | foreignKey name referencedTable => name.toList ++ '-' :: '>' :: referencedTable.toList

/-- The text of a piece of the table under `key`. -/
def text (key : List Char) (p : Piece) : List Char := p.front key ++ p.mark :: p.behind

/-- A piece whose parts are told apart by the separators between them, in front of known settings. -/
inductive IsPlain (known : List Table.Settings) : Piece → Prop where
  | column {name dataType : String} (hname : ':' ∉ name.toList)
      (hend : EndsApart known dataType.toList) : IsPlain known (column name dataType)
  | index {name : String} {columns : List String} (hname : '(' ∉ name.toList)
      (hcolumns : ∀ c ∈ columns, c ≠ "" ∧ ',' ∉ c.toList ∧ ')' ∉ c.toList) :
      IsPlain known (index name columns)
  | foreignKey {name referencedTable : String} (hname : '>' ∉ name.toList)
      (hend : EndsApart known referencedTable.toList) : IsPlain known (foreignKey name referencedTable)

instance (known : List Table.Settings) : (p : Piece) → Decidable (p.IsPlain known)
  | column name dataType =>
    decidable_of_iff (':' ∉ name.toList ∧ EndsApart known dataType.toList)
      ⟨fun h => .column h.1 h.2, fun | .column hname hend => ⟨hname, hend⟩⟩
  | index name columns =>
    decidable_of_iff ('(' ∉ name.toList ∧ ∀ c ∈ columns, c ≠ "" ∧ ',' ∉ c.toList ∧ ')' ∉ c.toList)
      ⟨fun h => .index h.1 h.2, fun | .index hname hcolumns => ⟨hname, hcolumns⟩⟩
  | foreignKey name referencedTable =>
    decidable_of_iff ('>' ∉ name.toList ∧ EndsApart known referencedTable.toList)
      ⟨fun h => .foreignKey h.1 h.2, fun | .foreignKey hname hend => ⟨hname, hend⟩⟩

theorem opens (key : List Char) (p : Piece) : Opens key (p.front key) p.mark := by
  cases p with
  | column => exact .column
  | index => exact .index
  | foreignKey => exact .foreignKey

/-- The list of the columns of an index is read back from its text. -/
theorem intercalate_inj {columns columns' : List String} (hcolumns : ∀ c ∈ columns, c ≠ "" ∧ ',' ∉ c.toList)
    (hcolumns' : ∀ c ∈ columns', c ≠ "" ∧ ',' ∉ c.toList)
    (h : ",".intercalate columns = ",".intercalate columns') : columns = columns' := by
  have hsplit {columns : List String} (hcolumns : ∀ c ∈ columns, c ≠ "" ∧ ',' ∉ c.toList) :
      ((",".intercalate columns).toList.splitOn ',').filter (· ≠ []) = columns.map String.toList := by
    rw [String.toList_intercalate]
    cases columns with
    | nil => rfl
    | cons c columns =>
      rw [show ",".toList = [','] from rfl, List.splitOn_intercalate ',' (by simpa using fun c hc =>
        (hcolumns c hc).2) (by simp), List.filter_eq_self]
      simpa using fun c hc => (hcolumns c hc).1
  refine List.map_injective_iff.mpr (fun _ _ => String.toList_injective) ?_
  rw [← hsplit hcolumns, h, hsplit hcolumns']

theorem paren_notMem_intercalate {columns : List String} (hcolumns : ∀ c ∈ columns, ')' ∉ c.toList) :
    ')' ∉ (",".intercalate columns).toList := by
  rw [String.toList_intercalate]
  refine Text.intercalate_of_append (P := (')' ∉ ·)) List.not_mem_nil
    (fun hcs hds h => (List.mem_append.mp h).elim hcs hds) (by decide) ?_
  simpa using hcolumns

section

variable {key rest rest' : List Char} {known : List Table.Settings} {p p' : Piece}
  {pieces pieces' : List Piece}

/-- The step of reading back: the first piece is told by its separators. -/
theorem eq_of_append_eq (hkey : IsPlainKey known key) (hp : p.IsPlain known) (hp' : p'.IsPlain known)
    (hrest : Continues key known rest) (hrest' : Continues key known rest')
    (h : p.text key ++ rest = p'.text key ++ rest') : p = p' ∧ rest = rest' := by
  rw [text, text, List.append_assoc, List.append_assoc, List.cons_append, List.cons_append] at h
  obtain ⟨hfront, hmark, hbehind⟩ := eq_of_append_mark h
    ((p.opens key).front_separator hkey.separators) ((p'.opens key).front_separator hkey.separators)
    (p.opens key).mark_separator (p'.opens key).mark_separator
  -- the mark and what stands in front of it tell the kind of the piece
  cases hp with
  | column hname hend =>
    cases hp' with
    | column hname' hend' =>
      simp only [behind, List.append_assoc, List.cons_append] at hbehind
      obtain ⟨hname, htypes⟩ := eq_of_append_cons hbehind hname hname'
      obtain ⟨htype, hrest⟩ := hend.eq_of_append_eq hend' hkey hrest hrest' htypes
      rw [String.toList_injective hname, String.toList_injective htype]
      exact ⟨rfl, hrest⟩
    | index | foreignKey => exact absurd (show '.' = ':' from hmark) (by decide)
  | index hname hcolumns =>
    cases hp' with
    | index hname' hcolumns' =>
      simp only [behind, List.append_assoc, List.cons_append, List.nil_append] at hbehind
      obtain ⟨hname, hlists⟩ := eq_of_append_cons hbehind hname hname'
      obtain ⟨hlist, hrest⟩ := eq_of_append_cons hlists
        (paren_notMem_intercalate fun c hc => (hcolumns c hc).2.2)
        (paren_notMem_intercalate fun c hc => (hcolumns' c hc).2.2)
      have hcolumns := intercalate_inj (fun c hc => ⟨(hcolumns c hc).1, (hcolumns c hc).2.1⟩)
        (fun c hc => ⟨(hcolumns' c hc).1, (hcolumns' c hc).2.1⟩) (String.toList_injective hlist)
      rw [String.toList_injective hname, hcolumns]
      exact ⟨rfl, hrest⟩
    | column => exact absurd (show ':' = '.' from hmark) (by decide)
    | foreignKey => exact absurd (show "IX".toList = "FK".toList from hfront) (by decide)
  | foreignKey hname hend =>
    cases hp' with
    | foreignKey hname' hend' =>
      simp only [behind, List.append_assoc, List.cons_append] at hbehind
      rw [List.append_cons _ '-' ('>' :: _), List.append_cons _ '-' ('>' :: _)] at hbehind
      obtain ⟨hname, hreferenced⟩ := eq_of_append_cons hbehind (by simpa using hname)
        (by simpa using hname')
      obtain ⟨htable, hrest⟩ := hend.eq_of_append_eq hend' hkey hrest hrest' hreferenced
      rw [String.toList_injective (List.append_cancel_right hname), String.toList_injective htable]
      exact ⟨rfl, hrest⟩
    | column => exact absurd (show ':' = '.' from hmark) (by decide)
    | index => exact absurd (show "FK".toList = "IX".toList from hfront) (by decide)

theorem continues_flatMap (pieces : List Piece) {a : Table.Settings} (ha : a ∈ known) (rest : List Char) :
    Continues key known (pieces.flatMap (text key) ++ (a.text ++ rest)) := by
  cases pieces with
  | nil => exact .settings ha rest
  | cons p pieces =>
    rw [List.flatMap_cons, text, List.append_assoc, List.append_assoc, List.cons_append]
    exact .piece (p.opens key) _

/-- All pieces of a table are read back, with the settings behind them. -/
theorem eq_of_flatMap_text_eq {a a' : Table.Settings} (hknown : Table.Settings.AreDistinct known)
    (ha : a ∈ known) (ha' : a' ∈ known) (hkey : IsPlainKey known key)
    (hpieces : ∀ p ∈ pieces, p.IsPlain known) (hpieces' : ∀ p ∈ pieces', p.IsPlain known)
    (h : pieces.flatMap (text key) ++ (a.text ++ rest) = pieces'.flatMap (text key) ++ (a'.text ++ rest')) :
    pieces = pieces' ∧ a = a' ∧ rest = rest' := by
  -- a piece is never taken for settings, so both lists of pieces end at the same place
  have hne (p : Piece) (more : List Char) {a : Table.Settings} (ha : a ∈ known) (more' : List Char) :
      p.text key ++ more ≠ a.text ++ more' := by
    have hopens : Opens key ([] ++ p.front key) p.mark := p.opens key
    rw [text, List.append_assoc, List.cons_append]
    exact hopens.ne_settings hkey ha
  induction pieces generalizing pieces' with
  | nil =>
    cases pieces' with
    | nil =>
      simp only [List.flatMap_nil, List.nil_append] at h
      have hsame : a = a' := by
        rcases List.prefix_or_prefix_of_prefix ⟨rest, h⟩ (List.prefix_append a'.text rest') with hle | hle
        · exact hknown a ha a' ha' hle
        · exact (hknown a' ha' a ha hle).symm
      subst hsame
      exact ⟨rfl, rfl, List.append_cancel_left h⟩
    | cons p' pieces' =>
      rw [List.flatMap_cons, List.append_assoc] at h
      exact absurd h.symm (hne p' _ ha _)
  | cons p pieces ih =>
    cases pieces' with
    | nil =>
      rw [List.flatMap_cons, List.append_assoc] at h
      exact absurd h (hne p _ ha' _)
    | cons p' pieces' =>
      rw [List.flatMap_cons, List.flatMap_cons, List.append_assoc, List.append_assoc] at h
      obtain ⟨rfl, hmore⟩ := eq_of_append_eq hkey (hpieces p List.mem_cons_self)
        (hpieces' p' List.mem_cons_self) (continues_flatMap pieces ha rest)
        (continues_flatMap pieces' ha' rest') h
      obtain ⟨rfl, hrest⟩ := ih (fun q hq => hpieces q (List.mem_cons_of_mem _ hq))
        (fun q hq => hpieces' q (List.mem_cons_of_mem _ hq)) hmore
      exact ⟨rfl, hrest⟩

end

end Piece

/-! ### Tables -/

namespace Table

/-- What the text of a table says between its key and its settings. -/
def pieces (t : Table) : List Piece :=
  t.columns.map (fun c => .column c.name c.dataType) ++
    t.indexes.map (fun i => .index i.name i.columns) ++
    t.foreignKeys.map (fun k => .foreignKey k.name k.referencedTable)

/-- A table with known settings whose text can be read back. -/
structure IsPlain (known : List Table.Settings) (key : String) (t : Table) : Prop where
  key : IsPlainKey known key.toList
  pieces : ∀ p ∈ t.pieces, p.IsPlain known
  settings : t.settings ∈ known
  /-- The key is followed by a separator. -/
  begins : t.engine = none ∨ t.pieces ≠ []

instance (known : List Table.Settings) (key : String) (t : Table) : Decidable (t.IsPlain known key) :=
  decidable_of_iff (IsPlainKey known key.toList ∧ (∀ p ∈ t.pieces, p.IsPlain known) ∧
    t.settings ∈ known ∧ (t.engine = none ∨ t.pieces.isEmpty = false))
    ⟨fun ⟨key, pieces, settings, begins⟩ => ⟨key, pieces, settings, begins.imp_right (by simp)⟩,
      fun h => ⟨h.key, h.pieces, h.settings, h.begins.imp_right (by simp)⟩⟩

theorem toList_tableText (key : String) (t : Table) :
    (Snapshot.tableText key t).toList =
      key.toList ++ (t.pieces.flatMap (Piece.text key.toList) ++ t.settings.text) := by
  simp [Snapshot.tableText, pieces, settings, Settings.text, List.flatMap_map, Piece.text, Piece.front,
    Piece.mark, Piece.behind]

/-- What follows the key in the text of a plain table. -/
theorem IsPlain.begins_append {known : List Table.Settings} {key : String} {t : Table}
    (h : t.IsPlain known key) (rest : List Char) :
    Begins key.toList (t.pieces.flatMap (Piece.text key.toList) ++ (t.settings.text ++ rest)) := by
  cases hpieces : t.pieces with
  | nil =>
    have hengine : t.engine = none := h.begins.resolve_right (not_not_intro hpieces)
    have htext : t.settings.text =
        '-' :: ((t.charset.getD "-").toList ++ (t.collation.getD "-").toList) := by
      simp [Table.settings, Settings.text, hengine]
    rw [htext, List.flatMap_nil, List.nil_append, List.cons_append]
    exact .settings _
  | cons p pieces =>
    rw [List.flatMap_cons, Piece.text, List.append_assoc, List.append_assoc, List.cons_append]
    exact .piece (p.opens key.toList) _

end Table

namespace Piece

/-- The column that a piece tells of. -/
def column? : Piece → Option Column
  | column name dataType => some { name := name, dataType := dataType }
  | _ => none

/-- The index that a piece tells of. -/
def index? : Piece → Option Index
  | index name columns => some { name := name, columns := columns }
  | _ => none

/-- The foreign key that a piece tells of, without its columns. -/
def foreignKey? : Piece → Option ForeignKey
  | foreignKey name referencedTable =>
    some { name := name, columns := [], referencedTable := referencedTable }
  | _ => none

end Piece

namespace Table

theorem filterMap_pieces (t : Table) :
    t.pieces.filterMap Piece.column? = t.columns.map Column.compared ∧
      t.pieces.filterMap Piece.index? = t.indexes.map Index.compared ∧
      t.pieces.filterMap Piece.foreignKey? = t.foreignKeys.map ForeignKey.covered := by
  simp only [pieces, List.filterMap_append, List.filterMap_map]
  refine ⟨?_, ?_, ?_⟩ <;> simp [Function.comp_def, Piece.column?, Piece.index?, Piece.foreignKey?,
    Column.compared, Index.compared, ForeignKey.covered, ForeignKey.compared]

/-- The pieces and the settings tell all that the text covers. -/
theorem covered_eq_of_pieces_eq {t t' : Table} (hpieces : t.pieces = t'.pieces)
    (hsettings : t.settings = t'.settings) : t.covered = t'.covered := by
  obtain ⟨hcolumns, hindexes, hkeys⟩ := t.filterMap_pieces
  obtain ⟨hcolumns', hindexes', hkeys'⟩ := t'.filterMap_pieces
  obtain ⟨hengine, hcharset, hcollation⟩ := Settings.mk.inj hsettings
  simp only [covered, compared, ← hcolumns, ← hindexes, ← hkeys, ← hcolumns', ← hindexes', ← hkeys',
    hpieces, hengine, hcharset, hcollation]

end Table

/-! ### Snapshots -/

namespace Snapshot

theorem toList_checksumText (tables : SortedMap String Table) :
    (checksumText tables).toList = tables.entries.flatMap fun e => (tableText e.1 e.2).toList := by
  rw [checksumText, String.toList_join, List.flatMap_map]

/-- The checksum covers nothing but the covered parts of the tables. In particular it does not tell the
columns of foreign keys. -/
theorem checksumText_congr {tables tables' : SortedMap String Table}
    (h : tables.entries.map (fun e => (e.1, e.2.covered)) =
      tables'.entries.map (fun e => (e.1, e.2.covered))) : checksumText tables = checksumText tables' := by
  have hcovered (key : String) (t : Table) : tableText key t = tableText key t.covered := by
    simp [tableText, Table.covered, Table.compared, Column.compared, Index.compared, ForeignKey.covered,
      ForeignKey.compared, Function.comp_def]
  have htext (tables : SortedMap String Table) : checksumText tables =
      String.join ((tables.entries.map fun e => (e.1, e.2.covered)).map fun e => tableText e.1 e.2) := by
    rw [checksumText, List.map_map]
    exact congrArg String.join (List.map_congr_left fun e _ => hcovered e.1 e.2)
  rw [htext, h, ← htext]

/-- The text of plain tables is read back table by table, as far as it covers them. -/
theorem forall₂_of_text_eq {known : List Table.Settings} {entries entries' : List (String × Table)}
    (hknown : Table.Settings.AreDistinct known) (hplain : ∀ e ∈ entries, e.2.IsPlain known e.1)
    (hplain' : ∀ e ∈ entries', e.2.IsPlain known e.1)
    (h : entries.flatMap (fun e => (tableText e.1 e.2).toList) =
      entries'.flatMap fun e => (tableText e.1 e.2).toList) :
    List.Forall₂ (fun e e' => e.1 = e'.1 ∧ e.2.covered = e'.2.covered) entries entries' := by
  -- the text of a table is not empty, so no table of one list is left over
  have hne {e : String × Table} (he : e.2.IsPlain known e.1) (more : List Char) :
      (tableText e.1 e.2).toList ++ more ≠ [] := by
    rw [Table.toList_tableText, List.append_assoc, List.append_assoc]
    intro hnil
    have hbegins := he.begins_append more
    rw [(List.append_eq_nil_iff.mp hnil).2] at hbegins
    generalize hrest : [] = rest at hbegins
    cases hbegins <;> simp at hrest
  induction entries generalizing entries' with
  | nil =>
    cases entries' with
    | nil => exact .nil
    | cons e' entries' => exact absurd h.symm (hne (hplain' e' List.mem_cons_self) _)
  | cons e entries ih =>
    cases entries' with
    | nil => exact absurd h (hne (hplain e List.mem_cons_self) _)
    | cons e' entries' =>
      obtain ⟨key, t⟩ := e
      obtain ⟨key', t'⟩ := e'
      have ht : t.IsPlain known key := hplain (key, t) List.mem_cons_self
      have ht' : t'.IsPlain known key' := hplain' (key', t') List.mem_cons_self
      simp only [List.flatMap_cons, Table.toList_tableText, List.append_assoc] at h
      obtain rfl : key = key' := String.toList_injective <| (ht.begins_append _).key_eq
        (ht'.begins_append _) ht.key.separators ht'.key.separators h
      obtain ⟨hpieces, hsettings, hrest⟩ := Piece.eq_of_flatMap_text_eq hknown ht.settings ht'.settings
        ht.key ht.pieces ht'.pieces (List.append_cancel_left h)
      refine .cons ⟨rfl, Table.covered_eq_of_pieces_eq hpieces hsettings⟩ ?_
      refine ih (fun e he => hplain e (List.mem_cons_of_mem _ he))
        (fun e he => hplain' e (List.mem_cons_of_mem _ he)) ?_
      simpa only [Table.toList_tableText] using hrest

/-- Under every key there is the same, as far as the checksum covers it. -/
theorem covered_table?_eq {s s' : Snapshot}
    (h : List.Forall₂ (fun e e' => e.1 = e'.1 ∧ e.2.covered = e'.2.covered) s.tables.entries
      s'.tables.entries) (key : String) :
    (s.table? key).map Table.covered = (s'.table? key).map Table.covered := by
  unfold table? SortedMap.get?
  generalize s.tables.entries = entries, s'.tables.entries = entries' at h
  induction h with
  | nil => rfl
  | @cons e e' _ _ hsame _ ih =>
    obtain ⟨hkey, hcovered⟩ := hsame
    rw [SortedMap.lookupEntries, SortedMap.lookupEntries, hkey]
    split
    · exact congrArg some hcovered
    · exact ih

end Snapshot

/-! ### Diffs -/

/-- Where checksums cover the same text, diffs are equal, if the text can be read back and the diffs read
nothing that it leaves out. It can be read back if the settings of the tables are known and names and types
hold no separators that matter to them; and it leaves out the columns of foreign keys. -/
theorem diff_eq_of_checksumText_eq {known : List Table.Settings} {s s' : Snapshot} {ops : List Operation}
    (htext : Snapshot.checksumText s.tables = Snapshot.checksumText s'.tables)
    (hknown : Table.Settings.AreDistinct known)
    (hplain : ∀ e ∈ s.tables.entries, e.2.IsPlain known e.1)
    (hplain' : ∀ e ∈ s'.tables.entries, e.2.IsPlain known e.1)
    (hkeys : ∀ op ∈ ops, op.kind = .foreignKey → ∀ t t', s.table? op.table = some t →
      s'.table? op.table = some t' →
      t.foreignKeys.map (·.columns) = t'.foreignKeys.map (·.columns)) :
    SchemaDiff.of ops s = SchemaDiff.of ops s' := by
  have hread := Snapshot.forall₂_of_text_eq hknown hplain hplain'
    (by rw [← Snapshot.toList_checksumText, htext, Snapshot.toList_checksumText])
  exact SchemaDiff.of_congr (fun op _ => Snapshot.covered_table?_eq hread op.table) hkeys

/-- A table of posts with a foreign key to their authors, and a column of a type of its own. -/
def postsOf (authors : ForeignKey) (columns : List Column) : Table where
  name := "posts"
  columns := columns
  indexes := [{ name := "posts_slug_unique", columns := ["blog_id", "slug"] }]
  foreignKeys := [authors]
  charset := some "UTF8"
  collation := some "en_US.UTF-8"

theorem isDate_leapDay : IsDate 2024 2 29 := by decide

theorem midnight_lt : 0 < 86400 := by decide

theorem isFraction_midnight : IsFraction 0 0 := by decide

/-- A snapshot of one table. -/
def Snapshot.single (t : Table) : Snapshot :=
  .ofTables ⟨⟨2024, 2, 29, isDate_leapDay⟩, 0, 0, midnight_lt, isFraction_midnight⟩ "public" [t]

/-- The operation that drops the foreign key of a column of the posts. -/
def dropOfKeyOn (column : String) : Operation where
  kind := .foreignKey
  action := .drop
  direction := .up
  details := { table := "posts", columns := [column] }
  line := 7

/-- Whether a column may be null and what happens to posts without an author changes neither the checksum nor
the diff. -/
theorem diff_eq_of_checksumText_eq_of_posts :
    let known : List Table.Settings := [⟨none, some "UTF8", some "en_US.UTF-8"⟩,
      ⟨some "InnoDB", some "utf8mb4", some "utf8mb4_unicode_ci"⟩]
    let s := Snapshot.single <| postsOf
      { name := "posts_author_foreign", columns := ["author_id"], referencedTable := "users" }
      [{ name := "author_id", dataType := "bigint" }, { name := "mood", dataType := "USER-DEFINED" }]
    let s' := Snapshot.single <| postsOf
      { name := "posts_author_foreign", columns := ["author_id"], referencedTable := "users",
        onDelete := some "CASCADE" }
      [{ name := "author_id", dataType := "bigint", nullable := true },
        { name := "mood", dataType := "USER-DEFINED" }]
    Snapshot.checksumText s.tables = Snapshot.checksumText s'.tables ∧
      Table.Settings.AreDistinct known ∧ (∀ e ∈ s.tables.entries, e.2.IsPlain known e.1) ∧
      (∀ e ∈ s'.tables.entries, e.2.IsPlain known e.1) ∧
      SchemaDiff.of [dropOfKeyOn "author_id"] s = SchemaDiff.of [dropOfKeyOn "author_id"] s' := by
  intro known s s'
  have htext : Snapshot.checksumText s.tables = Snapshot.checksumText s'.tables :=
    Snapshot.checksumText_congr rfl
  have hknown : Table.Settings.AreDistinct known := by decide +kernel
  have hplain : ∀ e ∈ s.tables.entries, e.2.IsPlain known e.1 := by decide +kernel
  have hplain' : ∀ e ∈ s'.tables.entries, e.2.IsPlain known e.1 := by decide +kernel
  refine ⟨htext, hknown, hplain, hplain', diff_eq_of_checksumText_eq htext hknown hplain hplain' ?_⟩
  rintro op hop - t t' ht ht'
  obtain rfl := List.mem_singleton.mp hop
  obtain rfl := Option.some.inj (ht.symm.trans (show s.table? "posts" = some _ from rfl))
  obtain rfl := Option.some.inj (ht'.symm.trans (show s'.table? "posts" = some _ from rfl))
  rfl

/-- Checksums do not tell on which columns a foreign key stands, though diffs depend on it: the key that a
migration drops is there in one schema and not in the other. -/
theorem checksum_misses_foreignKeyColumns : ¬ ∀ s s' : Snapshot,
    Snapshot.checksumText s.tables = Snapshot.checksumText s'.tables →
      ∀ ops, SchemaDiff.of ops s = SchemaDiff.of ops s' := by
  intro h
  let keyOn (column : String) : ForeignKey :=
    { name := "posts_author_foreign", columns := [column], referencedTable := "users" }
  have hdiff := h (.single (postsOf (keyOn "author_id") [])) (.single (postsOf (keyOn "editor_id") []))
    (Snapshot.checksumText_congr rfl) [dropOfKeyOn "author_id"]
  have hstatus := congrArg (fun d => d.entries.map (·.status)) hdiff
  revert hstatus
  decide +kernel

end MigrationPreview
