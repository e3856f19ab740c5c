import MigrationPreview.Proofs.Comment.Mark
import MigrationPreview.Proofs.Return.Text

/-!
# Carriage returns around method bodies
-/

namespace MigrationPreview

open Text

variable {separator : Char} {cs ds word method : List Char}

/-! ### Signatures -/

theorem readParameters_cons_of_ne {c : Char} (hc : c ≠ '(') (cs : List Char) :
    readParameters (c :: cs) = none := by
  unfold readParameters
  split <;> simp_all

theorem readBrace_eq_none {c : Char} {rest : List Char} (h : skipBlanks cs = c :: rest)
    (hopen : c ≠ '{') (hcolon : c ≠ ':') : readBrace cs = none := by
  rw [readBrace, h]
  split
  · next heq => exact absurd (List.cons.inj heq).1 hopen
  · next heq => exact absurd (List.cons.inj heq).1 hcolon
  · rfl

namespace Text.Returned

theorem readSpaced (hword : ∀ c ∈ word, isBlank c = false) (h : Returned separator cs ds) :
    Option.Rel (Returned separator) (readSpaced word cs) (MigrationPreview.readSpaced word ds) := by
  unfold MigrationPreview.readSpaced
  rcases rel_cases (h.expect hword) with ⟨hcs, hds⟩ | ⟨cs', ds', hcs, hds, h⟩
  · rw [hcs, hds]
    exact .none
  · rw [hcs, hds]
    cases h with
    | nil => exact .none
    | cons c h =>
      dsimp only
      split
      · exact .some h.skipBlanks
      · exact .none
    | insert hblank h =>
      have hreturn : isBlank '\r' = true := by decide
      simp only [hblank, hreturn, ↓reduceIte]
      refine .some ?_
      rw [Text.skipBlanks, Text.skipBlanks, List.dropWhile_cons_of_pos hblank]
      exact h.skipBlanks

/-- A return type is a run without blanks, so only the blanks in front of the brace may differ. -/
theorem readReturnType (h : Returned separator cs ds) :
    Option.Rel (Returned separator) (readReturnType cs) (MigrationPreview.readReturnType ds) := by
  have hrun := h.takeWhile_eq (p := (!isBlank ·)) (by simp)
  have hbehind := h.dropWhile (p := (!isBlank ·)) (by simp)
  unfold MigrationPreview.readReturnType
  dsimp only
  rw [hrun]
  have hwithin : ∀ run : List Char, Option.Rel (Returned separator)
      ((behindLastBrace? run).map (· ++ cs.dropWhile (!isBlank ·)))
      ((behindLastBrace? run).map (· ++ ds.dropWhile (!isBlank ·))) := by
    intro run
    cases behindLastBrace? run with
    | none => exact .none
    | some inRun => exact .some ((refl inRun).append hbehind)
  cases cs.takeWhile (!isBlank ·) with
  | nil => exact hwithin []
  | cons c run =>
    rcases hbehind.skipBlanks_cases with ⟨hcs, hds⟩ | ⟨d, cs', ds', -, hcs, hds, h'⟩
    · rw [hcs, hds]
      exact hwithin (c :: run)
    · rw [hcs, hds]
      by_cases hd : d = '{'
      · subst hd
        exact .some h'
      · split
        · next heq => exact absurd (List.cons.inj heq).1 hd
        · split
          · next heq => exact absurd (List.cons.inj heq).1 hd
          · exact hwithin (c :: run)

theorem readBrace (h : Returned separator cs ds) :
    Option.Rel (Returned separator) (readBrace cs) (MigrationPreview.readBrace ds) := by
  rcases h.skipBlanks_cases with ⟨hcs, hds⟩ | ⟨c, cs', ds', -, hcs, hds, h'⟩
  · rw [MigrationPreview.readBrace, MigrationPreview.readBrace, hcs, hds]
    exact .none
  · by_cases hopen : c = '{'
    · subst hopen
      rw [MigrationPreview.readBrace, MigrationPreview.readBrace, hcs, hds]
      exact .some h'
    by_cases hcolon : c = ':'
    · subst hcolon
      rw [MigrationPreview.readBrace, MigrationPreview.readBrace, hcs, hds]
      exact h'.skipBlanks.readReturnType
    · rw [readBrace_eq_none hcs hopen hcolon, readBrace_eq_none hds hopen hcolon]
      exact .none

theorem readParameters (h : Returned separator cs ds) :
    Option.Rel (Returned separator) (readParameters cs) (MigrationPreview.readParameters ds) := by
  have hlist : ∀ c, isBlank c = true → (c != ')') = true :=
    fun c hc => bne_iff_ne.mpr (ne_of_isBlank hc (by decide))
  cases h with
  | nil => exact .none
  | cons c h =>
    by_cases hc : c = '('
    · subst hc
      rw [MigrationPreview.readParameters, MigrationPreview.readParameters]
      rcases h.dropWhile_cases hlist with ⟨hcs, hds⟩ | ⟨c, cs', ds', -, hcs, hds, h'⟩
      · rw [hcs, hds]
        exact .none
      · rw [hcs, hds]
        exact .some h'
    · rw [readParameters_cons_of_ne hc, readParameters_cons_of_ne hc]
      exact .none
  | insert hblank h =>
    have hseparator : separator ≠ '(' := ne_of_isBlank hblank (by decide)
    rw [readParameters_cons_of_ne hseparator, readParameters_cons_of_ne (by decide)]
    exact .none

theorem readSignature (hmethod : ∀ c ∈ method, isBlank c = false) (h : Returned separator cs ds) :
    Option.Rel (Returned separator) (readSignature method cs)
      (MigrationPreview.readSignature method ds) :=
  rel_bind (h.readSpaced (by decide)) fun _ _ h =>
    rel_bind (h.readSpaced (by decide)) fun _ _ h =>
      rel_bind (h.expect hmethod) fun _ _ h =>
        rel_bind h.skipBlanks.readParameters fun _ _ h => h.readBrace

end Text.Returned

/-! ### Closing braces -/

namespace Lexical

/-- The quote of a literal is not blank. -/
def QuoteNotBlank : Lexical → Prop
  | .literal quote _ => isBlank quote = false
  | _ => True

variable {state : Lexical}

theorem QuoteNotBlank.next (h : state.QuoteNotBlank) (c : Char) : (state.next c).QuoteNotBlank := by
  cases state with
  | code =>
    rw [Lexical.next]
    split
    · next hc =>
      have hquotes : ∀ d, d = '"' ∨ d = '\x27' → isBlank d = false := by
        rintro d (rfl | rfl) <;> decide
      exact hquotes c hc
    · trivial
  | literal quote escaped =>
    cases escaped
    · rw [Lexical.next]
      split
      · exact h
      · split
        · trivial
        · exact h
    · exact h
  | lineComment =>
    rw [Lexical.next]
    split <;> trivial
  | blockComment star =>
    rw [Lexical.next]
    split <;> trivial

/-- A carriage return in front of another blank changes nothing: it ends neither a literal nor a comment,
and what is escaped or may end a comment in front of a blank is no longer so behind it. -/
theorem next_next_return (h : state.QuoteNotBlank) {c : Char} (hc : isBlank c = true) :
    (state.next '\r').next c = state.next c := by
  cases state with
  | code => rfl
  | literal quote escaped =>
    have hreturn : '\r' ≠ quote := ne_of_isBlank (by decide) h
    have hescape : c ≠ '\\' := ne_of_isBlank hc (by decide)
    have hquote : c ≠ quote := ne_of_isBlank hc h
    cases escaped <;> simp [Lexical.next, hreturn, hescape, hquote]
  | lineComment => rfl
  | blockComment star =>
    have hslash : c ≠ '/' := ne_of_isBlank hc (by decide)
    simp [Lexical.next, hslash]

end Lexical

namespace Text.Returned

/-- Where a text begins with a character that is not blank, so does the other one. -/
theorem exists_cons {c : Char} (hc : isBlank c = false) (h : Returned separator (c :: cs) ds) :
    ∃ ds', ds = c :: ds' ∧ Returned separator cs ds' := by
  cases h with
  | cons _ h => exact ⟨_, rfl, h⟩
  | insert hblank _ =>
    rw [hblank] at hc
    exact absurd hc (by decide)

/-- The first characters of both texts are the same, or the second one is a carriage return. -/
theorem mem_head?_or (h : Returned separator cs ds) {d : Char} (hd : d ∈ ds.head?) :
    d ∈ cs.head? ∨ d = '\r' := by
  cases h with
  | nil => exact .inl hd
  | cons c _ => exact .inl hd
  | insert _ _ => exact .inr (Option.some_inj.mp hd).symm

/-- The same brace closes both texts. -/
theorem beforeClosing {state : Lexical} (hstate : state.QuoteNotBlank) {depth : Nat}
    (h : Returned separator cs ds) :
    Option.Rel (Returned separator) (beforeClosing state depth cs)
      (MigrationPreview.beforeClosing state depth ds) := by
  fun_induction MigrationPreview.beforeClosing state depth cs generalizing ds with
  | case1 =>
    rw [h.eq_nil_iff.mpr rfl]
    exact .none
  | case2 _ _ ih | case5 _ _ ih | case7 _ _ ih =>
    obtain ⟨ds', rfl, h'⟩ := h.exists_cons (by decide)
    exact rel_map (ih trivial h') fun _ _ h => .cons _ h
  | case3 _ _ ih | case4 _ _ ih =>
    obtain ⟨ds', rfl, h'⟩ := h.exists_cons (by decide)
    obtain ⟨ds'', rfl, h''⟩ := h'.exists_cons (by decide)
    exact rel_map (ih trivial h'') fun _ _ h => .cons _ (.cons _ h)
  | case6 =>
    obtain ⟨ds', rfl, -⟩ := h.exists_cons (by decide)
    exact .some .nil
  | case8 state depth c cs hhash hline hblock hopen hclose hclose' ih =>
    have hplain := Lexical.plain_of_cases depth hhash hline hblock hopen hclose hclose'
    cases h with
    | @cons _ _ ds h =>
      -- behind `c` stands the same character, or a carriage return, which begins no comment
      have hplain' : state.Plain c ds := hplain.of_head? fun d hd => by
        rcases h.mem_head?_or hd with hd | rfl
        · exact .inl hd
        · exact .inr (by decide)
      rw [beforeClosing_cons depth hplain']
      exact rel_map (ih (hstate.next c) h) fun _ _ h => .cons _ h
    | insert hblank h =>
      -- both blanks are passed over, and the separator forgets the carriage return in front of it
      rw [beforeClosing_cons depth (Lexical.plain_of_isBlank (by decide)),
        beforeClosing_cons depth (Lexical.plain_of_isBlank hblank),
        Lexical.next_next_return hstate hblank, Option.map_map]
      exact rel_map (ih (hstate.next _) h) fun _ _ h => .insert hblank h

end Text.Returned

/-! ### Declarations -/

theorem length_lt_of_readSpaced {rest : List Char} (h : readSpaced word cs = some rest) :
    rest.length < cs.length := by
  obtain ⟨blanks, hblanks, -, rfl⟩ := eq_append_of_readSpaced h
  have hlength := List.length_pos_iff.mpr hblanks
  simp only [List.length_append]
  omega

theorem skipModifiers_nil (count : Nat) : skipModifiers count [] = [] := by
  cases count <;> rfl

namespace Text.Returned

/-- The same modifiers are skipped, if their number is bounded by the lengths of the texts. -/
theorem skipModifiers {count count' : Nat} (h : Returned separator cs ds) (hcs : cs.length ≤ count)
    (hds : ds.length ≤ count') :
    Returned separator (skipModifiers count cs) (MigrationPreview.skipModifiers count' ds) := by
  induction count generalizing count' cs ds with
  | zero =>
    obtain rfl := List.length_eq_zero_iff.mp (Nat.le_zero.mp hcs)
    rw [h.eq_nil_iff.mpr rfl, skipModifiers_nil, skipModifiers_nil]
    exact .nil
  | succ count ih =>
    cases count' with
    | zero =>
      obtain rfl := List.length_eq_zero_iff.mp (Nat.le_zero.mp hds)
      rw [h.eq_nil_iff.mp rfl, skipModifiers_nil, skipModifiers_nil]
      exact .nil
    | succ count' =>
      have hwords : ∀ m ∈ ["public", "protected", "private", "static"], ∀ c ∈ m.toList,
          isBlank c = false := by decide
      have hmodifier := rel_findSome? fun m hm => rel_and (h.readSpaced (hwords m hm))
        (fun _ => length_lt_of_readSpaced) (fun _ => length_lt_of_readSpaced)
      rw [MigrationPreview.skipModifiers, MigrationPreview.skipModifiers]
      rcases rel_cases hmodifier with ⟨hcs, hds⟩ | ⟨rest, rest', hcs, hds, hrest, hlt, hlt'⟩
      · rw [hcs, hds]
        exact h
      · rw [hcs, hds]
        exact ih hrest (by omega) (by omega)

theorem readDeclaration (h : Returned separator cs ds) :
    Option.Rel (Returned separator) (readDeclaration cs) (MigrationPreview.readDeclaration ds) := by
  refine rel_bind ((h.skipBlanks.skipModifiers le_rfl le_rfl).readSpaced (by decide))
    fun _ _ h => ?_
  have hword : ∀ c, isBlank c = true → isWord c = false := fun _ => isWord_of_isBlank
  rw [h.takeWhile_eq hword]
  split
  · exact .none
  · exact (h.dropWhile hword).skipBlanks.expect (by decide)

/-- The text before the next declaration ends at the same place. -/
theorem beforeDeclaration (h : Returned separator cs ds) (lineStart : Bool) :
    Returned separator (beforeDeclaration lineStart cs)
      (MigrationPreview.beforeDeclaration lineStart ds) := by
  induction h generalizing lineStart with
  | nil => exact .nil
  | cons c h ih =>
    rw [MigrationPreview.beforeDeclaration, MigrationPreview.beforeDeclaration,
      isSome_eq_of_rel (Returned.cons c h).readDeclaration]
    split
    · exact .nil
    · exact .cons c (ih _)
  | @insert cs ds hblank h ih =>
    -- behind the carriage return no line begins, so the separator itself is not looked at again
    have hinner : MigrationPreview.beforeDeclaration false (separator :: ds) =
        separator :: MigrationPreview.beforeDeclaration (separator == '\n') ds := by
      rw [MigrationPreview.beforeDeclaration]
      rfl
    rw [MigrationPreview.beforeDeclaration, MigrationPreview.beforeDeclaration,
      isSome_eq_of_rel (Returned.insert hblank h).readDeclaration]
    split
    · exact .nil
    · rw [show ('\r' == '\n') = false from rfl, hinner]
      exact .insert hblank (ih _)

end Text.Returned

/-! ### Bodies -/

namespace MethodBody

variable {direction : Direction} {source source' : List Char}

/-- Both sources have the same bodies, up to carriage returns, on the same lines. -/
theorem find?_returned (direction : Direction) (h : Returned '\n' source source') :
    Option.Rel (fun body body' => Returned '\n' body.text body'.text ∧
        body'.startLine = body.startLine)
      (find? direction source) (find? direction source') := by
  have hname : ∀ c ∈ direction.name.toList, isBlank c = false := by cases direction <;> decide
  rcases rel_cases (h.firstMatch (fun h => h.readSignature hname) fun _ => rfl) with
    ⟨hsource, hsource'⟩ | ⟨behind, behind', hsource, hsource', hbehind⟩
  · rw [find?, find?, hsource, hsource']
    exact .none
  obtain ⟨before, rfl⟩ := exists_append_of_firstMatch hsource
  obtain ⟨before', rfl⟩ := exists_append_of_firstMatch hsource'
  have hline : 1 + before'.count '\n' = 1 + before.count '\n' := by
    have hcount := h.count_eq
    rw [List.count_append, List.count_append, hbehind.count_eq] at hcount
    omega
  have hstate : Lexical.code.QuoteNotBlank := trivial
  have hend : Option.Rel (Returned '\n') (beforeClosing .code 0 behind) (beforeClosing .code 0 behind') :=
    hbehind.beforeClosing hstate
  rcases rel_cases hend with
    ⟨hopen, hopen'⟩ | ⟨text, text', hclose, hclose', htext⟩
  · have hbody : find? direction (before ++ behind) =
        some ⟨MigrationPreview.beforeDeclaration true behind, before.length, 1 + before.count '\n',
          true⟩ :=
      find?_eq_some_iff.mpr ⟨before, behind, rfl, hsource, rfl, rfl, .inr ⟨rfl, hopen, rfl⟩⟩
    have hbody' : find? direction (before' ++ behind') =
        some ⟨MigrationPreview.beforeDeclaration true behind', before'.length, 1 + before'.count '\n',
          true⟩ :=
      find?_eq_some_iff.mpr ⟨before', behind', rfl, hsource', rfl, rfl, .inr ⟨rfl, hopen', rfl⟩⟩
    rw [hbody, hbody']
    exact .some ⟨hbehind.beforeDeclaration true, hline⟩
  · have hbody : find? direction (before ++ behind) =
        some ⟨text, before.length, 1 + before.count '\n', false⟩ :=
      find?_eq_some_iff.mpr ⟨before, behind, rfl, hsource, rfl, rfl, .inl ⟨rfl, hclose⟩⟩
    have hbody' : find? direction (before' ++ behind') =
        some ⟨text', before'.length, 1 + before'.count '\n', false⟩ :=
      find?_eq_some_iff.mpr ⟨before', behind', rfl, hsource', rfl, rfl, .inl ⟨rfl, hclose'⟩⟩
    rw [hbody, hbody']
    exact .some ⟨htext, hline⟩

end MethodBody

end MigrationPreview
