import MigrationPreview.Proofs.Canonical.Chain

/-!
# The lines of canonical statements

A search in a canonical statement is a search along its chain. The names that are put together for
objects dropped by their columns are the conventional ones.

## Main results

* `Canonical.find?_render`, `Canonical.firstName?_render`: searches in a statement
* `Canonical.conventionalName_eq`: the conventional name of an object on plain columns
-/

namespace MigrationPreview.Canonical

open Text

/-! ### Searches in a statement -/

variable {α : Type}

/-- A search in a statement that stands behind something else, such as its indentation. -/
theorem find?_append_render (methods : List String) (readArguments : List Char → Option α)
    {front : List Char} (hfront : '-' ∉ front) (statement : BlockStatement) :
    Call.find? methods readArguments (front ++ statement.render) =
      searchChain methods readArguments statement.chain := by
  have hreceiver : '-' ∉ front ++ BlockStatement.receiver := by
    rw [List.mem_append, not_or]
    exact ⟨hfront, by decide⟩
  rw [BlockStatement.render, ← List.append_assoc]
  exact find?_chain methods readArguments hreceiver statement.chain

theorem find?_render (methods : List String) (readArguments : List Char → Option α)
    (statement : BlockStatement) :
    Call.find? methods readArguments statement.render =
      searchChain methods readArguments statement.chain :=
  find?_append_render methods readArguments List.not_mem_nil statement

theorem firstName?_render (statement : BlockStatement) :
    Call.firstName? statement.render = searchName statement.chain :=
  firstName?_chain (by decide) statement.chain

/-! ### Derived names -/

theorem toNat_lt_of_isNameChar {c : Char} (h : isNameChar c = true) : c.toNat < 128 := by
  have hletter : c.isAlpha = (c.isUpper || c.isLower) := rfl
  have hupper : c.isUpper = decide (c.val ≥ 'A'.val ∧ c.val ≤ 'Z'.val) := rfl
  have hlower : c.isLower = (decide (c.val ≥ 'a'.val) && decide (c.val ≤ 'z'.val)) := rfl
  simp only [isNameChar, Char.isAlphanum, hletter, hupper, hlower, Char.isDigit, Bool.or_eq_true,
    Bool.and_eq_true, decide_eq_true_eq, beq_iff_eq] at h
  rcases h with ((h | h) | h) | rfl
  · exact lt_of_le_of_lt h.2 (by decide)
  · exact lt_of_le_of_lt h.2 (by decide)
  · exact lt_of_le_of_lt h.2 (by decide)
  · decide

/-- A plain name keeps neither a hyphen nor a dot when it is put in lower case. -/
theorem isNameChar_toLower {c : Char} (h : isNameChar c = true) :
    isNameChar c.toLower = true := by
  have hascii : ∀ n < 128, isNameChar (Char.ofNat n) = true →
      isNameChar (Char.ofNat n).toLower = true := by
    decide +kernel
  simpa using hascii c.toNat (toNat_lt_of_isNameChar h) (by simpa using h)

theorem lowercaseAfter_of_forall {cs : List Char} (h : ∀ c ∈ cs, isNameChar c = true)
    (before : List Char) : lowercaseAfter before cs = cs.map Char.toLower := by
  induction cs generalizing before with
  | nil => rfl
  | cons c cs ih =>
    have hascii := toNat_lt_of_isNameChar (h c List.mem_cons_self)
    have hsigma : c ≠ 'Σ' := by
      rintro rfl
      exact absurd hascii (by decide)
    have hdotted : c ≠ 'İ' := by
      rintro rfl
      exact absurd hascii (by decide)
    rw [lowercaseAfter, if_neg hsigma, if_neg hdotted, lowerChar, if_pos hascii,
      ih fun d hd => h d (List.mem_cons_of_mem _ hd)]
    rfl

/-- The conventional name of an object on a plain table and plain columns. -/
theorem conventionalName_eq (table : Name) (columns : List Name) {ending : String}
    (hending : ending.toList.all isNameChar) :
    conventionalName table.text (columns.map Name.text) ending =
      derivedName table.text (columns.map Name.text) ending := by
  have htext : ∀ name : Name, ∀ c ∈ name.text.toList, isNameChar c = true := by
    intro name c hc
    rw [Name.text, String.toList_ofList] at hc
    exact name.isNameChar_of_mem hc
  have hjoined : ∀ c ∈ ("_".intercalate (table.text :: columns.map Name.text ++ [ending])).toList,
      isNameChar c = true := by
    rw [String.toList_intercalate]
    refine intercalate_of_append (P := fun cs => ∀ c ∈ cs, isNameChar c = true) (by simp)
      (fun hcs hds c hc => (List.mem_append.mp hc).elim (hcs c) (hds c)) (by decide) ?_
    simp only [List.map_append, List.map_cons, List.map_map, List.map_nil, List.mem_append,
      List.mem_cons, List.mem_map, List.not_mem_nil, or_false]
    rintro _ ((rfl | ⟨name, -, rfl⟩) | rfl)
    · exact htext table
    · exact htext name
    · exact List.all_eq_true.mp hending
  rw [conventionalName, derivedName, lowercase, lowercaseAfter_of_forall hjoined, List.map_map]
  congr 1
  refine List.map_congr_left fun c hc => if_neg ?_
  have hlower := isNameChar_toLower (hjoined c hc)
  rintro (h | h) <;> rw [h] at hlower <;> exact absurd hlower (by decide)

end MigrationPreview.Canonical
