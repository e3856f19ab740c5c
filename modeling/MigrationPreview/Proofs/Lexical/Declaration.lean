import MigrationPreview.Proofs.Overlap

/-!
# Declarations of methods

A body that no brace closes ends before the next declaration of a method that begins a line. The
declaration is described here by its shape: modifiers, the word `function`, a name and an opening
parenthesis, with blanks between them. The reader of declarations accepts exactly the texts that begin
with this shape, and the text before the first declaration is the part in front of the first line that
does.

## Main definitions

* `Modifiers`, `IsDeclaration`: the shape of a declaration

## Main results

* `isSome_readDeclaration_iff`: what the reader of declarations accepts
* `length_beforeDeclaration_le_of_isDeclaration`, `beforeDeclaration_eq_or_exists`: the text before the
  first declaration
-/

namespace MigrationPreview

open Text

variable {cs rest modifiers blanks : List Char} {word : String}

/-- Modifiers, each with blanks behind it. -/
inductive Modifiers : List Char → Prop
  | nil : Modifiers []
  | cons {modifier : String} {blanks modifiers : List Char}
      (isModifier : modifier ∈ ["public", "protected", "private", "static"]) (spaced : blanks ≠ [])
      (isBlank : blanks.all isBlank) (behind : Modifiers modifiers) :
      Modifiers (modifier.toList ++ (blanks ++ modifiers))

/-- The declaration of a method, from the blanks in front of it to the parenthesis of its parameter
list. -/
def IsDeclaration (cs : List Char) : Prop :=
  ∃ indent modifiers blanks name blanks' : List Char, indent.all isBlank ∧ Modifiers modifiers ∧
    blanks ≠ [] ∧ blanks.all isBlank ∧ name ≠ [] ∧ name.all isWord ∧ blanks'.all isBlank ∧
    cs = indent ++ (modifiers ++ ("function".toList ++ (blanks ++ (name ++ (blanks' ++ ['('])))))

theorem IsDeclaration.ne_nil (h : IsDeclaration cs) : cs ≠ [] := by
  obtain ⟨_, _, _, _, _, -, -, -, -, -, -, -, rfl⟩ := h
  simp

/-! ### What the reader accepts -/

theorem exists_modifiers_skipModifiers (count : Nat) (cs : List Char) :
    ∃ modifiers, Modifiers modifiers ∧ cs = modifiers ++ skipModifiers count cs := by
  induction count generalizing cs with
  | zero => exact ⟨[], .nil, rfl⟩
  | succ count ih =>
    rw [skipModifiers]
    split
    · next rest hrest =>
      obtain ⟨modifier, hmodifier, hread⟩ := List.exists_of_findSome?_eq_some hrest
      obtain ⟨blanks, hne, hblanks, heq⟩ := eq_append_of_readSpaced hread
      obtain ⟨modifiers, hmodifiers, hbehind⟩ := ih rest
      refine ⟨_, .cons hmodifier hne hblanks hmodifiers, ?_⟩
      rw [List.append_assoc, List.append_assoc, ← hbehind, ← List.append_assoc]
      exact heq
    · exact ⟨[], .nil, rfl⟩

/-- What the reader of declarations has read is a declaration. -/
theorem exists_isDeclaration_of_readDeclaration (h : readDeclaration cs = some rest) :
    ∃ declaration, IsDeclaration declaration ∧ cs = declaration ++ rest := by
  obtain ⟨indent, hindent, hcs⟩ := exists_blanks_append_skipBlanks cs
  obtain ⟨modifiers, hmodifiers, hskip⟩ :=
    exists_modifiers_skipModifiers (skipBlanks cs).length (skipBlanks cs)
  obtain ⟨named, hnamed, h⟩ := Option.bind_eq_some_iff.mp h
  obtain ⟨blanks, hne, hblanks, hfunction⟩ := eq_append_of_readSpaced hnamed
  split at h
  · simp at h
  · next hname =>
    obtain ⟨blanks', hblanks', hdrop⟩ := exists_blanks_append_skipBlanks (named.dropWhile isWord)
    refine ⟨_, ⟨indent, modifiers, blanks, named.takeWhile isWord, blanks', hindent, hmodifiers, hne,
      hblanks, hname, List.all_takeWhile, hblanks', rfl⟩, ?_⟩
    conv_lhs => rw [hcs, hskip, hfunction, ← List.takeWhile_append_dropWhile (p := isWord) (l := named),
      hdrop, eq_append_of_expect h]
    simp only [List.append_assoc]

/-! ### The reader accepts every declaration -/

theorem isBlank_eq_false_of_isWord {c : Char} (h : isWord c = true) : isBlank c = false := by
  by_contra hblank
  rw [isWord_of_isBlank (by simpa using hblank)] at h
  exact absurd h (by decide)

/-- A word with blanks behind it is read, if what follows does not begin with a blank. -/
theorem readSpaced_append (hne : blanks ≠ []) (hblanks : blanks.all isBlank)
    (hrest : skipBlanks rest = rest) (word : List Char) :
    readSpaced word (word ++ (blanks ++ rest)) = some rest := by
  cases blanks with
  | nil => exact absurd rfl hne
  | cons c blanks =>
    obtain ⟨hc, hblanks⟩ : isBlank c = true ∧ blanks.all isBlank := by simpa using hblanks
    rw [readSpaced, expect_append, List.cons_append]
    dsimp only
    rw [if_pos hc, skipBlanks_append hblanks, hrest]

/-- Behind its modifiers a declaration goes on with a letter. -/
theorem Modifiers.skipBlanks_append (h : Modifiers modifiers) (cs : List Char) :
    skipBlanks (modifiers ++ ("function".toList ++ cs)) = modifiers ++ ("function".toList ++ cs) := by
  cases h with
  | nil => exact skipBlanks_cons_of_not_isBlank (by decide) _
  | cons hmodifier _ _ _ =>
    simp only [List.mem_cons, List.not_mem_nil, or_false] at hmodifier
    rcases hmodifier with rfl | rfl | rfl | rfl <;> exact skipBlanks_cons_of_not_isBlank (by decide) _

/-- The modifiers of a declaration are skipped up to the word `function`. -/
theorem Modifiers.skipModifiers_append (h : Modifiers modifiers) {count : Nat}
    (hcount : modifiers.length ≤ count) (cs : List Char) :
    skipModifiers count (modifiers ++ ("function".toList ++ cs)) = "function".toList ++ cs := by
  induction h generalizing count with
  | nil => exact skipModifiers_function count cs
  | @cons modifier blanks modifiers hmodifier hne hblanks hmodifiers ih =>
    rw [List.length_append, List.length_append] at hcount
    have hpos := List.length_pos_iff.mpr hne
    obtain ⟨count, rfl⟩ : ∃ n, count = n + 1 := ⟨count - 1, by omega⟩
    have hread : readSpaced modifier.toList
        (modifier.toList ++ (blanks ++ (modifiers ++ ("function".toList ++ cs)))) =
          some (modifiers ++ ("function".toList ++ cs)) :=
      readSpaced_append hne hblanks (hmodifiers.skipBlanks_append cs) _
    -- no modifier is the beginning of another one
    have hfind : (["public", "protected", "private", "static"].findSome? fun m => readSpaced m.toList
        (modifier.toList ++ (blanks ++ (modifiers ++ ("function".toList ++ cs))))) =
          some (modifiers ++ ("function".toList ++ cs)) := by
      simp only [List.mem_cons, List.not_mem_nil, or_false] at hmodifier
      rcases hmodifier with rfl | rfl | rfl | rfl <;>
        simp only [List.findSome?_cons, hread] <;> simp [readSpaced, expect]
    rw [List.append_assoc, List.append_assoc, skipModifiers, hfind]
    exact ih (by omega)

/-- A declaration is read in every text that begins with it. -/
theorem IsDeclaration.readDeclaration_eq (h : IsDeclaration cs) (rest : List Char) :
    readDeclaration (cs ++ rest) = some rest := by
  obtain ⟨indent, modifiers, blanks, name, blanks', hindent, hmodifiers, hne, hblanks, hname, hword,
    hblanks', rfl⟩ := h
  have hskip := hmodifiers.skipBlanks_append (blanks ++ (name ++ (blanks' ++ '(' :: rest)))
  have hparenthesis : skipBlanks (blanks' ++ '(' :: rest) = '(' :: rest := by
    rw [skipBlanks_append hblanks']
    exact skipBlanks_cons_of_not_isBlank (by decide) _
  have hnil := takeWhile_isWord_eq_nil hparenthesis
  have htake : (name ++ (blanks' ++ '(' :: rest)).takeWhile isWord = name := by
    rw [List.takeWhile_append_of_pos (List.all_eq_true.mp hword), hnil, List.append_nil]
  have hdrop : (name ++ (blanks' ++ '(' :: rest)).dropWhile isWord = blanks' ++ '(' :: rest := by
    have hsplit := List.takeWhile_append_dropWhile (p := isWord) (l := blanks' ++ '(' :: rest)
    rw [List.dropWhile_append_of_pos (List.all_eq_true.mp hword)]
    rwa [hnil, List.nil_append] at hsplit
  have hnamed : skipBlanks (name ++ (blanks' ++ '(' :: rest)) = name ++ (blanks' ++ '(' :: rest) := by
    cases name with
    | nil => exact absurd rfl hname
    | cons c name =>
      exact skipBlanks_cons_of_not_isBlank
        (isBlank_eq_false_of_isWord (List.all_eq_true.mp hword c List.mem_cons_self)) _
  have hfunction := readSpaced_append hne hblanks hnamed "function".toList
  simp only [List.append_assoc, List.cons_append, List.nil_append]
  rw [readDeclaration, skipBlanks_append hindent, hskip, hmodifiers.skipModifiers_append (by simp),
    hfunction, Option.bind_eq_bind, Option.bind_some, htake, hdrop, hparenthesis]
  cases name with
  | nil => exact absurd rfl hname
  | cons c name => rfl

/-- The reader of declarations accepts exactly the texts that begin with a declaration. -/
theorem isSome_readDeclaration_iff :
    (readDeclaration cs).isSome ↔ ∃ declaration rest, IsDeclaration declaration ∧
      cs = declaration ++ rest := by
  constructor
  · intro h
    obtain ⟨rest, hrest⟩ := Option.isSome_iff_exists.mp h
    obtain ⟨declaration, hdeclaration, hcs⟩ := exists_isDeclaration_of_readDeclaration hrest
    exact ⟨declaration, rest, hdeclaration, hcs⟩
  · rintro ⟨declaration, rest, hdeclaration, rfl⟩
    exact Option.isSome_of_eq_some (hdeclaration.readDeclaration_eq rest)

/-! ### The text before the first declaration -/

/-- No declaration begins a line within the text before the first declaration. -/
theorem length_beforeDeclaration_le_of_isDeclaration {front declaration back : List Char}
    (hfront : EndsLine front) (h : IsDeclaration declaration)
    (heq : cs = front ++ declaration ++ back) : (beforeDeclaration true cs).length ≤ front.length := by
  rw [heq, List.append_assoc]
  exact length_beforeDeclaration_le hfront (fun _ => rfl)
    (Option.isSome_of_eq_some (h.readDeclaration_eq back))

/-- The text before the first declaration is all of the text, or a declaration begins a line behind it.
The induction is on the text, of which a part has been read already. -/
theorem beforeDeclaration_eq_or_exists (cs : List Char) :
    beforeDeclaration true cs = cs ∨ EndsLine (beforeDeclaration true cs) ∧
      ∃ declaration back, IsDeclaration declaration ∧
        cs = beforeDeclaration true cs ++ (declaration ++ back) := by
  have hrun (read : List Char) (lineStart : Bool) (hread : lineStart = true ↔ EndsLine read) :
      beforeDeclaration lineStart cs = cs ∨ EndsLine (read ++ beforeDeclaration lineStart cs) ∧
        ∃ rest, (readDeclaration rest).isSome ∧ cs = beforeDeclaration lineStart cs ++ rest := by
    induction cs generalizing read lineStart with
    | nil => exact .inl rfl
    | cons c cs ih =>
      rw [beforeDeclaration]
      split
      · next hdeclaration =>
        rw [Bool.and_eq_true] at hdeclaration
        refine .inr ⟨?_, c :: cs, hdeclaration.2, rfl⟩
        rw [List.append_nil]
        exact hread.mp hdeclaration.1
      · have hnext : (c == '\n') = true ↔ EndsLine (read ++ [c]) := by
          simp [EndsLine]
        rcases ih (read ++ [c]) (c == '\n') hnext with hall | ⟨hends, rest, hrest, hcs⟩
        · exact .inl (by rw [hall])
        · refine .inr ⟨?_, rest, hrest, by rw [List.cons_append, ← hcs]⟩
          rwa [List.append_assoc, List.singleton_append] at hends
  rcases hrun [] true (by simp [EndsLine]) with hall | ⟨hends, rest, hrest, hcs⟩
  · exact .inl hall
  · obtain ⟨declaration, back, hdeclaration, rfl⟩ := isSome_readDeclaration_iff.mp hrest
    exact .inr ⟨hends, declaration, back, hdeclaration, hcs⟩

end MigrationPreview
