import MigrationPreview.Proofs.Comment.Lines
import MigrationPreview.Proofs.Return.Text

/-!
# Carriage returns in the chain of a foreign key

The lines that complete a foreign key are joined before they are searched, so carriage returns at their
ends come to stand within one text, in front of the spaces that join the lines. A search for calls finds
the same calls there. Only a name that is broken across lines may hold a carriage return, and then the two
names are equal up to it.

## Main definitions

* `Text.Joined`: chains of lines that end alike
* `Details.withoutReturns`, `Draft.withoutReturns`: what completes a foreign key, without carriage returns

## Main results

* `rel_referencesChain?`: the chains of lines that end alike
* `Text.Returned.find?`: a call in both chains
* `map_withoutReturns_foreignKeyDetails?`: both chains complete a foreign key in the same way
-/

namespace MigrationPreview

open Text

variable {α β : Type} {separator : Char} {cs ds : List Char} {window window' : List (List Char)}

/-! ### Chains -/

namespace Text

theorem forall₂_takeWhile {R : α → β → Prop} {p : α → Bool} {q : β → Bool} {xs : List α} {ys : List β}
    (hp : ∀ x y, R x y → q y = p x) (h : List.Forall₂ R xs ys) :
    List.Forall₂ R (xs.takeWhile p) (ys.takeWhile q) := by
  induction h with
  | nil => exact .nil
  | cons hxy _ ih =>
    rw [List.takeWhile_cons, List.takeWhile_cons, hp _ _ hxy]
    split
    · exact .cons hxy ih
    · exact .nil

theorem forall₂_dropWhile {R : α → β → Prop} {p : α → Bool} {q : β → Bool} {xs : List α} {ys : List β}
    (hp : ∀ x y, R x y → q y = p x) (h : List.Forall₂ R xs ys) :
    List.Forall₂ R (xs.dropWhile p) (ys.dropWhile q) := by
  induction h with
  | nil => exact .nil
  | cons hxy h ih =>
    rw [List.dropWhile_cons, List.dropWhile_cons, hp _ _ hxy]
    split
    · exact ih
    · exact .cons hxy h

/-- The second text is the first one with carriage returns in front of some of its spaces, and perhaps one
at its end. -/
def Joined (cs ds : List Char) : Prop := ∃ es, Returned ' ' cs es ∧ EndsAlike es ds

/-- Lines that end alike are joined alike. -/
theorem joined_intercalate {lines lines' : List (List Char)} (h : List.Forall₂ EndsAlike lines lines') :
    Joined ([' '].intercalate lines) ([' '].intercalate lines') := by
  induction h with
  | nil => exact ⟨[], .nil, .inl rfl⟩
  | @cons line line' rest rest' hline hrest ih =>
    cases hrest with
    | nil =>
      rw [List.intercalate_singleton, List.intercalate_singleton]
      exact ⟨line, .refl line, hline⟩
    | cons hnext hlines =>
      rw [List.intercalate_cons_cons, List.intercalate_cons_cons, List.append_assoc, List.append_assoc]
      obtain ⟨es, hes, hends⟩ := ih
      rcases hline with rfl | rfl
      · refine ⟨line' ++ ' ' :: es, (Returned.refl line').append (.cons ' ' hes), ?_⟩
        exact hends.imp (fun h => by rw [h]; rfl) fun h => by rw [h]; simp
      · refine ⟨line ++ '\r' :: ' ' :: es,
          (Returned.refl line).append (.insert (by decide) hes), ?_⟩
        exact hends.imp (fun h => by rw [h]; simp) fun h => by rw [h]; simp

end Text

theorem forall₂_statementLines (h : List.Forall₂ EndsAlike window window') :
    List.Forall₂ EndsAlike (statementLines window) (statementLines window') := by
  have htake := List.forall₂_take statementLimit h
  have hunfinished := forall₂_takeWhile (p := (!·.contains ';')) (q := (!·.contains ';'))
    (fun _ _ hline => by rw [hline.contains_semicolon]) htake
  rw [statementLines, statementLines, hunfinished.length_eq]
  exact List.forall₂_take _ htake

/-- The chains of lines that end alike. -/
theorem rel_referencesChain? (h : List.Forall₂ EndsAlike window window') :
    Option.Rel Joined (referencesChain? window) (referencesChain? window') := by
  have hlines := forall₂_dropWhile (p := fun line => !Text.contains "references(".toList line)
    (q := fun line => !Text.contains "references(".toList line)
    (fun _ _ hline => by rw [hline.contains_eq (by decide)]) (forall₂_statementLines h)
  rw [referencesChain?, referencesChain?]
  generalize List.dropWhile _ (statementLines window) = lines at hlines ⊢
  generalize List.dropWhile _ (statementLines window') = lines' at hlines ⊢
  cases hlines with
  | nil => exact .none
  | cons hline hlines => exact .some (joined_intercalate (.cons hline hlines))

/-! ### Calls -/

namespace Text.Returned

open Call

theorem readOpening (h : Returned separator cs ds) :
    Option.Rel (fun call call' => call'.1 = call.1 ∧ Returned separator call.2 call'.2)
      (readOpening cs) (Call.readOpening ds) := by
  have hname : ∀ c, isBlank c = true → (!isBlank c && c != '(') = false := by
    intro c hc
    rw [hc]
    rfl
  rw [Call.readOpening, Call.readOpening]
  rw [h.takeWhile_eq hname]
  rcases (h.dropWhile hname).skipBlanks_cases with ⟨hcs, hds⟩ | ⟨c, cs', ds', -, hcs, hds, h'⟩
  · rw [hcs, hds]
    exact .none
  · rw [hcs, hds]
    by_cases hc : c = '('
    · subst hc
      exact .some ⟨rfl, h'.skipBlanks⟩
    · split
      · next heq => exact absurd (List.cons.inj heq).1 hc
      · split
        · next heq => exact absurd (List.cons.inj heq).1 hc
        · exact .none

theorem readMethod (h : Returned separator cs ds) :
    Option.Rel (fun call call' => call'.1 = call.1 ∧ Returned separator call.2 call'.2)
      (readMethod cs) (Call.readMethod ds) :=
  rel_bind (h.expect (by decide)) fun _ _ h => h.readOpening

variable {P : α → α → Prop} {readArguments : List Char → Option α}

/-- A search for calls whose reader of arguments finds related results finds the same calls. -/
theorem find? (methods : List String)
    (hread : ∀ {cs ds}, Returned separator cs ds →
      Option.Rel P (readArguments cs) (readArguments ds)) (h : Returned separator cs ds) :
    Option.Rel (fun call call' => call'.1 = call.1 ∧ P call.2 call'.2)
      (find? methods readArguments cs) (Call.find? methods readArguments ds) := by
  refine h.firstMatch (fun h => rel_bind h.readMethod ?_) fun _ => rfl
  rintro ⟨method, arguments⟩ ⟨_, arguments'⟩ ⟨rfl, harguments⟩
  dsimp only
  split
  · exact rel_bind (hread harguments) fun _ _ hresult => .some ⟨rfl, hresult⟩
  · exact .none

/-! ### Names -/

/-- A name in quotes is the same in both texts, up to carriage returns. -/
theorem readQuoted (h : Returned separator cs ds) :
    Option.Rel (fun read read' => withoutReturns read'.1 = withoutReturns read.1 ∧
        Returned separator read.2 read'.2)
      (readQuoted cs) (Call.readQuoted ds) := by
  have hname : ∀ c, isBlank c = true → (!isQuote c) = true := by
    intro c hc
    cases hquote : isQuote c with
    | false => rfl
    | true =>
      rw [isBlank_of_isQuote hquote] at hc
      exact absurd hc (by decide)
  cases h with
  | nil => exact .none
  | cons c h =>
    rw [Call.readQuoted, Call.readQuoted]
    split
    · have hrun := h.takeWhile hname
      generalize List.takeWhile (!isQuote ·) _ = name at hrun ⊢
      generalize List.takeWhile (!isQuote ·) _ = name' at hrun ⊢
      -- blanks are no quotes, so both names end at the same quote or at none
      rcases h.dropWhile_cases hname with ⟨hcs, hds⟩ | ⟨c, cs', ds', -, hcs, hds, h'⟩
      · rw [hcs, hds]
        cases name <;> cases name' <;> exact .none
      · rw [hcs, hds]
        cases name with
        | nil =>
          rw [hrun.eq_nil_iff.mpr rfl]
          exact .none
        | cons d name =>
          cases name' with
          | nil => exact absurd (hrun.eq_nil_iff.mp rfl) (by simp)
          | cons d' name' => exact .some ⟨hrun.withoutReturns_eq, h'⟩
    · exact .none
  | insert hblank h =>
    have hseparator : isQuote separator = false := by simpa using hname _ hblank
    rw [Call.readQuoted, Call.readQuoted, hseparator]
    exact .none

theorem quoted? (h : Returned separator cs ds) :
    Option.Rel (fun name name' => withoutReturns name' = withoutReturns name)
      (quoted? cs) (Call.quoted? ds) :=
  rel_map h.readQuoted fun _ _ h => h.1

theorem readNext (h : Returned separator cs ds) :
    Option.Rel (fun read read' => withoutReturns read'.1 = withoutReturns read.1 ∧
        Returned separator read.2 read'.2)
      (readNext cs) (Call.readNext ds) :=
  rel_bind (h.skipBlanks.expect (by decide)) fun _ _ h => h.skipBlanks.readQuoted

theorem oneOrTwoQuoted? (h : Returned separator cs ds) :
    Option.Rel (fun names names' => withoutReturns names'.1 = withoutReturns names.1 ∧
        names'.2.map withoutReturns = names.2.map withoutReturns)
      (oneOrTwoQuoted? cs) (Call.oneOrTwoQuoted? ds) := by
  refine rel_bind h.readQuoted ?_
  rintro ⟨first, rest⟩ ⟨first', rest'⟩ ⟨hfirst, hrest⟩
  refine .some ⟨hfirst, ?_⟩
  rw [Option.map_map, Option.map_map]
  exact map_eq_of_rel hrest.readNext fun _ _ h => h.1

end Text.Returned

/-! ### Foreign keys -/

/-- The details with no carriage returns in what completes a foreign key. -/
def Details.withoutReturns (details : Details) : Details :=
  { details with
    referencedTable := details.referencedTable.map Text.withoutReturns
    referencedColumn := details.referencedColumn.map Text.withoutReturns
    onUpdate := details.onUpdate.map Text.withoutReturns
    onDelete := details.onDelete.map Text.withoutReturns }

/-- A draft with no carriage returns in what completes a foreign key. -/
def Draft.withoutReturns (draft : Draft) : Draft :=
  { draft with details := draft.details.withoutReturns }

/-- An operation with no carriage returns in what completes a foreign key. -/
def Operation.withoutReturns (op : Operation) : Operation :=
  { op with details := op.details.withoutReturns }

/-- A carriage return at the end of a text is blank, so the calls in it stay the same. -/
theorem Text.EndsAlike.sameCalls (h : EndsAlike cs ds) : SameCalls cs ds := by
  intro α read hread
  rw [← firstMatch_trim hread cs, ← firstMatch_trim hread ds, h.trim_eq]

theorem Text.Returned.map_withoutReturns_foreignKeyDetails? (h : Returned separator cs ds)
    (table : String) (columns : List String) :
    (foreignKeyDetails? table columns ds).map Details.withoutReturns =
      (foreignKeyDetails? table columns cs).map Details.withoutReturns := by
  have hargument : ∀ method,
      ((Call.find? [method] Call.quoted? ds).map Prod.snd).map Text.withoutReturns =
        ((Call.find? [method] Call.quoted? cs).map Prod.snd).map Text.withoutReturns := by
    intro method
    rw [Option.map_map, Option.map_map]
    exact map_eq_of_rel (h.find? [method] quoted?) fun _ _ h => h.2
  rw [foreignKeyDetails?, foreignKeyDetails?]
  rcases rel_cases (h.find? ["references"] oneOrTwoQuoted?) with
    ⟨hcs, hds⟩ | ⟨⟨method, first, second⟩, ⟨_, first', second'⟩, hcs, hds, rfl, hfirst, hsecond⟩
  · rw [hcs, hds]
    rfl
  · have hon : Option.Rel (fun name name' => Text.withoutReturns name' = Text.withoutReturns name)
        ((Call.find? ["on"] Call.quoted? cs).map Prod.snd)
        ((Call.find? ["on"] Call.quoted? ds).map Prod.snd) :=
      rel_map (h.find? ["on"] quoted?) fun _ _ h => h.2
    rw [hcs, hds]
    simp only [Option.bind_eq_bind, Option.bind_some, Option.pure_def, Option.map_some,
      Details.withoutReturns, hargument]
    rcases rel_cases hon with ⟨hnone, hnone'⟩ | ⟨onTable, onTable', hsome, hsome', htable⟩
    · rw [hnone, hnone', hfirst, hsecond]
    · rw [hsome, hsome', Option.map_some, Option.map_some, hfirst, htable]

/-- Chains of lines that end alike complete a foreign key in the same way, up to carriage returns in its
names. -/
theorem Text.Joined.map_withoutReturns_foreignKeyDetails? (h : Joined cs ds) (table : String)
    (columns : List String) :
    (foreignKeyDetails? table columns ds).map Details.withoutReturns =
      (foreignKeyDetails? table columns cs).map Details.withoutReturns := by
  obtain ⟨es, hreturned, hends⟩ := h
  rw [← foreignKeyDetails?_congr table hends.sameCalls columns,
    hreturned.map_withoutReturns_foreignKeyDetails?]

theorem map_withoutReturns_foreignKeyAdd? (table : String) (line : List Char)
    (h : List.Forall₂ EndsAlike window window') :
    (foreignKeyAdd? table line window').map Draft.withoutReturns =
      (foreignKeyAdd? table line window).map Draft.withoutReturns := by
  rw [foreignKeyAdd?, foreignKeyAdd?]
  cases Call.find? ["foreign", "foreignId"] (fun cs => some (Call.argument? cs)) line with
  | none => rfl
  | some call =>
    rcases rel_cases (rel_referencesChain? h) with
      ⟨hchain, hchain'⟩ | ⟨chain, chain', hchain, hchain', hjoined⟩
    · rw [hchain, hchain']
    · have hdraft : ∀ details : Option Details,
          (details.bind fun d => some (⟨.foreignKey, .add, d⟩ : Draft)).map Draft.withoutReturns =
            (details.map Details.withoutReturns).map fun d => ⟨.foreignKey, .add, d⟩ := by
        intro details
        cases details <;> rfl
      rw [hchain, hchain']
      simp only [Option.bind_eq_bind, Option.bind_some, Option.pure_def, hdraft,
        hjoined.map_withoutReturns_foreignKeyDetails?]

end MigrationPreview
