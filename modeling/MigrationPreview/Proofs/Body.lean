import MigrationPreview.Migration.Body
import MigrationPreview.Proofs.Text

/-!
# Where a body stands in its source

A body is a segment of the source: it begins behind the opening brace of its signature and ends before
the closing brace that matches, or, if no brace matches, before the next declaration of a method. Both
ends depend only on the text in front of them, so a brace or a declaration that ends a body still ends it
when more text follows.

## Main definitions

* `Lexical.Plain`: a character that is neither a brace nor the beginning of a comment

## Main results

* `exists_brace_of_readSignature`: a signature ends with a brace
* `MethodBody.find?_eq_some_iff`: what a body is, in terms of the text behind its opening brace
* `beforeClosing_cons`: braces and the beginnings of comments apart, the scanner takes one character at a
  time
* `beforeClosing_append`, `beforeClosing_of_append`: the closing brace is found by its own prefix
* `length_beforeDeclaration_le`: a declaration ends a body that no brace closes
-/

namespace MigrationPreview

open Text

variable {word method cs ds rest text : List Char}

/-! ### Signatures -/

theorem eq_append_of_readSpaced (h : readSpaced word cs = some rest) :
    ∃ blanks : List Char, blanks ≠ [] ∧ blanks.all isBlank ∧ cs = word ++ blanks ++ rest := by
  unfold readSpaced at h
  split at h
  · next c behind hword =>
    split at h
    · next hblank =>
      obtain rfl := Option.some_inj.mp h
      obtain ⟨blanks, hblanks, hbehind⟩ := exists_blanks_append_skipBlanks behind
      refine ⟨c :: blanks, by simp, by simp [hblank, hblanks], ?_⟩
      rw [eq_append_of_expect hword, List.append_assoc, List.cons_append, ← hbehind]
    · simp at h
  · simp at h

/-- What is found behind a brace is what stands behind the last one, which is not the first character. -/
theorem exists_front_of_behindLastBrace? (h : behindLastBrace? cs = some rest) :
    ∃ front : List Char, front ≠ [] ∧ cs = front ++ '{' :: rest ∧ '{' ∉ rest := by
  unfold behindLastBrace? at h
  dsimp only at h
  split at h
  · next hlength =>
    obtain rfl := Option.some_inj.mp h
    have hsplit := List.takeWhile_append_dropWhile (p := (· != '{')) (l := cs.reverse)
    cases hbrace : cs.reverse.dropWhile (· != '{') with
    | nil =>
      rw [hbrace, List.append_nil] at hsplit
      rw [hsplit, List.length_reverse] at hlength
      omega
    | cons c front =>
      have hc : c = '{' := by
        have hnot := List.head?_dropWhile_not (· != '{') cs.reverse
        rw [hbrace] at hnot
        simpa using hnot
      rw [hbrace, hc] at hsplit
      have hlast : '{' ∉ (cs.reverse.takeWhile (· != '{')).reverse := by
        intro hmem
        simpa using List.mem_takeWhile_imp (List.mem_reverse.mp hmem)
      refine ⟨front.reverse, ?_, by simpa using congrArg List.reverse hsplit.symm, hlast⟩
      -- the brace is not the first character, so something stands in front of it
      intro hfront
      have hcount := congrArg List.length hsplit
      simp only [List.reverse_eq_nil_iff.mp hfront, List.length_append, List.length_cons,
        List.length_nil, List.length_reverse] at hcount hlength
      omega
  · simp at h

theorem exists_brace_of_readReturnType (h : readReturnType cs = some rest) :
    ∃ front, cs = front ++ '{' :: rest := by
  have hsplit : cs = cs.takeWhile (!isBlank ·) ++ cs.dropWhile (!isBlank ·) :=
    List.takeWhile_append_dropWhile.symm
  unfold readReturnType at h
  dsimp only at h
  split at h
  · next behind hbehind =>
    obtain rfl := Option.some_inj.mp h
    obtain ⟨blanks, -, hblanks⟩ := exists_blanks_append_skipBlanks (cs.dropWhile (!isBlank ·))
    refine ⟨cs.takeWhile (!isBlank ·) ++ blanks, ?_⟩
    rw [List.append_assoc, ← hbehind, ← hblanks, ← hsplit]
  · obtain ⟨inRun, hrun, rfl⟩ := Option.map_eq_some_iff.mp h
    obtain ⟨front, -, hfront, -⟩ := exists_front_of_behindLastBrace? hrun
    refine ⟨front, ?_⟩
    rw [← List.cons_append, ← List.append_assoc, ← hfront, ← hsplit]

theorem exists_brace_of_readBrace (h : readBrace cs = some rest) :
    ∃ front, cs = front ++ '{' :: rest := by
  obtain ⟨blanks, -, hblanks⟩ := exists_blanks_append_skipBlanks cs
  unfold readBrace at h
  split at h
  · next behind hbehind =>
    obtain rfl := Option.some_inj.mp h
    exact ⟨blanks, by rw [← hbehind, ← hblanks]⟩
  · next behind hbehind =>
    obtain ⟨front, hfront⟩ := exists_brace_of_readReturnType h
    obtain ⟨more, -, hmore⟩ := exists_blanks_append_skipBlanks behind
    refine ⟨blanks ++ ':' :: more ++ front, ?_⟩
    rw [List.append_assoc, ← hfront, List.append_assoc, List.cons_append, ← hmore, ← hbehind,
      ← hblanks]
  · simp at h

/-- A parameter list ends with the first closing parenthesis. -/
theorem exists_parameters_of_readParameters (h : readParameters cs = some rest) :
    ∃ parameters : List Char, ')' ∉ parameters ∧ cs = '(' :: (parameters ++ ')' :: rest) := by
  unfold readParameters at h
  split at h
  · next inner =>
    split at h
    · next c close hclose =>
      obtain rfl := Option.some_inj.mp h
      have hc : c = ')' := by
        have hnot := List.head?_dropWhile_not (· != ')') inner
        rw [hclose] at hnot
        simpa using hnot
      refine ⟨inner.takeWhile (· != ')'), fun hmem => ?_, ?_⟩
      · simpa using List.mem_takeWhile_imp hmem
      · rw [hc] at hclose
        rw [← hclose, List.takeWhile_append_dropWhile]
    · simp at h
  · simp at h

theorem suffix_of_readParameters (h : readParameters cs = some rest) : rest <:+ cs := by
  obtain ⟨parameters, -, rfl⟩ := exists_parameters_of_readParameters h
  exact ⟨'(' :: (parameters ++ [')']), by simp⟩

/-- What a signature reads ends with the opening brace. -/
theorem exists_brace_of_readSignature (h : readSignature method cs = some rest) :
    ∃ front, cs = front ++ '{' :: rest := by
  unfold readSignature at h
  obtain ⟨spaced, hspaced, h⟩ := Option.bind_eq_some_iff.mp h
  obtain ⟨named, hnamed, h⟩ := Option.bind_eq_some_iff.mp h
  obtain ⟨listed, hlisted, h⟩ := Option.bind_eq_some_iff.mp h
  obtain ⟨closed, hclosed, h⟩ := Option.bind_eq_some_iff.mp h
  obtain ⟨front, rfl⟩ := exists_brace_of_readBrace h
  obtain ⟨blanks, -, -, rfl⟩ := eq_append_of_readSpaced hspaced
  obtain ⟨blanks', -, -, rfl⟩ := eq_append_of_readSpaced hnamed
  obtain ⟨more, hmore⟩ := (suffix_of_readParameters hclosed).trans (skipBlanks_suffix listed)
  refine ⟨"public".toList ++ blanks ++ ("function".toList ++ blanks' ++ (method ++ more)) ++ front,
    ?_⟩
  rw [eq_append_of_expect hlisted, ← hmore]
  simp only [List.append_assoc]

/-! ### Steps of the scanner -/

/-- Whether a character is one like all others to the scanner: in code it is no brace, and with the text
behind it it begins no comment. -/
def Lexical.Plain (state : Lexical) (c : Char) (behind : List Char) : Prop :=
  state = .code → c ≠ '#' ∧ c ≠ '\x7b' ∧ c ≠ '\x7d' ∧
    (c = '/' → ∀ d ∈ behind.head?, d ≠ '/' ∧ d ≠ '*')

namespace Lexical

variable {state : Lexical} {c : Char} {behind behind' : List Char}

theorem plain_of_ne_code (h : state ≠ .code) : state.Plain c behind := fun hcode => absurd hcode h

theorem plain_of_isBlank (h : isBlank c = true) : state.Plain c behind := fun _ =>
  ⟨ne_of_isBlank h (by decide), ne_of_isBlank h (by decide), ne_of_isBlank h (by decide),
    fun hslash => absurd hslash (ne_of_isBlank h (by decide))⟩

/-- What is left when every other case of the scanner is ruled out is a plain character. -/
theorem plain_of_cases (depth : Nat) (hhash : state = .code → c ≠ '#')
    (hline : ∀ cs, state = .code → c = '/' → behind ≠ '/' :: cs)
    (hblock : ∀ cs, state = .code → c = '/' → behind ≠ '*' :: cs) (hopen : state = .code → c ≠ '\x7b')
    (hclose : state = .code → depth = 0 → c ≠ '\x7d')
    (hclose' : ∀ d, state = .code → depth = d + 1 → c ≠ '\x7d') : state.Plain c behind := by
  refine fun hcode => ⟨hhash hcode, hopen hcode, ?_, fun hslash d hd => ?_⟩
  · cases depth with
    | zero => exact hclose hcode rfl
    | succ depth => exact hclose' depth hcode rfl
  · obtain ⟨cs, rfl⟩ := List.head?_eq_some_iff.mp hd
    refine ⟨?_, ?_⟩
    · rintro rfl
      exact hline cs hcode hslash rfl
    · rintro rfl
      exact hblock cs hcode hslash rfl

/-- Only the first character of the text behind is looked at, and only for the second character with which
a comment begins. -/
theorem Plain.of_head? (h : state.Plain c behind)
    (hhead : ∀ d ∈ behind'.head?, d ∈ behind.head? ∨ d ≠ '/' ∧ d ≠ '*') : state.Plain c behind' := by
  intro hcode
  obtain ⟨hhash, hopen, hclose, hslash⟩ := h hcode
  exact ⟨hhash, hopen, hclose, fun hc d hd => (hhead d hd).elim (hslash hc d) id⟩

/-- A text that is not empty decides what its first character is, whatever follows. -/
theorem plain_append_iff (hbehind : behind ≠ []) (more : List Char) :
    state.Plain c (behind ++ more) ↔ state.Plain c behind := by
  rw [Plain, Plain, List.head?_append_of_ne_nil _ hbehind]

end Lexical

/-- A plain character takes the scanner to its next state. -/
theorem beforeClosing_cons {state : Lexical} {c : Char} (depth : Nat) (h : state.Plain c cs) :
    beforeClosing state depth (c :: cs) = (beforeClosing (state.next c) depth cs).map (c :: ·) := by
  rw [beforeClosing.eq_def]
  unfold Lexical.Plain at h
  split <;> simp_all

/-! ### Matching braces -/

/-- Behind the text of a body that is closed stands its closing brace. -/
theorem exists_brace_of_beforeClosing {state : Lexical} {depth : Nat}
    (h : beforeClosing state depth cs = some text) : ∃ behind, cs = text ++ '}' :: behind := by
  fun_induction beforeClosing state depth cs generalizing text with
  | case1 => simp at h
  | case6 behind =>
    obtain rfl := Option.some_inj.mp h
    exact ⟨behind, rfl⟩
  | case2 _ _ ih | case3 _ _ ih | case4 _ _ ih | case5 _ _ ih | case7 _ _ ih
  | case8 _ _ _ _ _ _ _ _ _ _ ih =>
    obtain ⟨inner, hinner, rfl⟩ := Option.map_eq_some_iff.mp h
    obtain ⟨behind, rfl⟩ := ih hinner
    exact ⟨behind, rfl⟩

/-- The closing brace is found by the text up to it: what follows is not looked at. -/
theorem beforeClosing_append {state : Lexical} {depth : Nat} (more : List Char)
    (h : beforeClosing state depth cs = some text) :
    beforeClosing state depth (cs ++ more) = some text := by
  fun_induction beforeClosing state depth cs generalizing text with
  | case1 => simp at h
  | case6 => simpa [beforeClosing] using h
  | case2 _ _ ih | case3 _ _ ih | case4 _ _ ih | case5 _ _ ih | case7 _ _ ih =>
    obtain ⟨inner, hinner, rfl⟩ := Option.map_eq_some_iff.mp h
    simp [beforeClosing, ih hinner]
  | case8 state depth c cs hhash hline hblock hopen hclose hclose' ih =>
    have hplain := Lexical.plain_of_cases depth hhash hline hblock hopen hclose hclose'
    obtain ⟨inner, hinner, rfl⟩ := Option.map_eq_some_iff.mp h
    -- the brace stands behind `c`, so the character behind `c` stays the same
    have hcs : cs ≠ [] := by
      rintro rfl
      simp [beforeClosing] at hinner
    rw [List.cons_append, beforeClosing_cons depth ((Lexical.plain_append_iff hcs more).mpr hplain),
      ih hinner, Option.map_some]

/-- A text that reaches beyond the closing brace has it, whatever followed. -/
theorem beforeClosing_of_append {state : Lexical} {depth : Nat} {more : List Char}
    (h : beforeClosing state depth (cs ++ more) = some text) (hlength : text.length < cs.length) :
    beforeClosing state depth cs = some text := by
  fun_induction beforeClosing state depth cs generalizing text with
  | case1 => simp at hlength
  | case6 => simpa [beforeClosing] using h
  | case2 _ _ ih | case3 _ _ ih | case4 _ _ ih | case5 _ _ ih | case7 _ _ ih =>
    simp only [List.cons_append, beforeClosing] at h
    obtain ⟨inner, hinner, rfl⟩ := Option.map_eq_some_iff.mp h
    simp [ih hinner (by simpa using hlength)]
  | case8 state depth c cs hhash hline hblock hopen hclose hclose' ih =>
    have hplain := Lexical.plain_of_cases depth hhash hline hblock hopen hclose hclose'
    by_cases hcs : cs = []
    · -- the text is empty, so its brace would have to be `c`
      subst hcs
      obtain rfl : text = [] := List.eq_nil_of_length_eq_zero (by simpa using hlength)
      obtain ⟨behind, hbehind⟩ := exists_brace_of_beforeClosing h
      obtain rfl : c = '}' := (List.cons.inj hbehind).1
      have hstate : state ≠ .code := fun hcode => (hplain hcode).2.2.1 rfl
      rw [List.cons_append, beforeClosing_cons depth (Lexical.plain_of_ne_code hstate)] at h
      simp at h
    · rw [List.cons_append,
        beforeClosing_cons depth ((Lexical.plain_append_iff hcs more).mpr hplain)] at h
      obtain ⟨inner, hinner, rfl⟩ := Option.map_eq_some_iff.mp h
      rw [ih hinner (by simpa using hlength), Option.map_some]

/-! ### Bodies without a closing brace -/

theorem isPrefix_beforeDeclaration (lineStart : Bool) (cs : List Char) :
    beforeDeclaration lineStart cs <+: cs := by
  induction cs generalizing lineStart with
  | nil => exact List.nil_prefix
  | cons c cs ih =>
    rw [beforeDeclaration]
    split
    · exact List.nil_prefix
    · exact List.cons_prefix_cons.mpr ⟨rfl, ih _⟩

/-- Whether a text is empty or ends with a line break, so that a line begins behind it. -/
def EndsLine (cs : List Char) : Prop := cs = [] ∨ ∃ front, cs = front ++ ['\n']

theorem EndsLine.of_cons {c : Char} (h : EndsLine (c :: cs)) (hcs : cs ≠ []) : EndsLine cs := by
  rcases h with h | ⟨front, hfront⟩
  · simp at h
  · cases front with
    | nil => exact absurd (List.cons.inj hfront).2 hcs
    | cons d front => exact .inr ⟨front, (List.cons.inj hfront).2⟩

/-- A declaration that begins a line ends the text before the next declaration at the latest. -/
theorem length_beforeDeclaration_le {lineStart : Bool} (hcs : EndsLine cs)
    (hstart : cs = [] → lineStart = true) (h : (readDeclaration rest).isSome) :
    (beforeDeclaration lineStart (cs ++ rest)).length ≤ cs.length := by
  induction cs generalizing lineStart with
  | nil =>
    rw [List.nil_append]
    cases rest with
    | nil => simp [beforeDeclaration]
    | cons c rest => simp [beforeDeclaration, hstart rfl, h]
  | cons c cs ih =>
    rw [List.cons_append, beforeDeclaration]
    split
    · simp
    · rw [List.length_cons, List.length_cons, Nat.add_le_add_iff_right]
      cases cs with
      | nil =>
        -- the line break is the last character, so the declaration stands at the start of a line
        obtain rfl : c = '\n' := by
          obtain hnil | ⟨front, hfront⟩ := hcs
          · simp at hnil
          · simpa using congrArg List.getLast? hfront
        exact ih (.inl rfl) fun _ => rfl
      | cons d cs => exact ih (hcs.of_cons (by simp)) (by simp)

/-! ### Bodies -/

namespace MethodBody

/-- What is behind the first signature stands at the end of the source. -/
theorem exists_append_of_firstMatch {source behind : List Char}
    (h : firstMatch (readSignature method) source = some behind) :
    ∃ before, source = before ++ behind := by
  obtain ⟨skipped, start, rfl, hread⟩ := exists_of_firstMatch h
  obtain ⟨front, rfl⟩ := exists_brace_of_readSignature hread
  exact ⟨skipped ++ (front ++ ['{']), by simp⟩

/-- A body is what stands behind its opening brace, up to its end. -/
theorem find?_eq_some_iff {direction : Direction} {source : List Char} {body : MethodBody} :
    find? direction source = some body ↔
      ∃ before behind, source = before ++ behind ∧
        firstMatch (readSignature direction.name.toList) source = some behind ∧
        body.offset = before.length ∧ body.startLine = 1 + before.count '\n' ∧
        ((body.truncated = false ∧ beforeClosing .code 0 behind = some body.text) ∨
          (body.truncated = true ∧ beforeClosing .code 0 behind = none ∧
            body.text = beforeDeclaration true behind)) := by
  constructor
  · intro h
    obtain ⟨behind, hbehind, h⟩ := Option.bind_eq_some_iff.mp h
    obtain ⟨before, rfl⟩ := exists_append_of_firstMatch hbehind
    have hoffset : (before ++ behind).length - behind.length = before.length := by simp
    refine ⟨before, behind, rfl, hbehind, ?_⟩
    dsimp only at h
    rw [hoffset, List.take_left' rfl] at h
    cases hclose : beforeClosing .code 0 behind with
    | some text =>
      rw [hclose] at h
      obtain rfl := Option.some_inj.mp h
      exact ⟨rfl, rfl, .inl ⟨rfl, rfl⟩⟩
    | none =>
      rw [hclose] at h
      obtain rfl := Option.some_inj.mp h
      exact ⟨rfl, rfl, .inr ⟨rfl, rfl, rfl⟩⟩
  · rintro ⟨before, behind, rfl, hbehind, hoffset, hline, hend⟩
    have hlength : (before ++ behind).length - behind.length = before.length := by simp
    obtain ⟨text, offset, startLine, truncated⟩ := body
    simp only at hoffset hline hend
    rw [find?, hbehind, Option.bind_eq_bind, Option.bind_some, hlength, hoffset, hline]
    dsimp only
    rw [List.take_left' rfl]
    rcases hend with ⟨rfl, hclose⟩ | ⟨rfl, hclose, rfl⟩
    · rw [hclose]
      rfl
    · rw [hclose]
      rfl

/-- There is no body only where there is no signature. -/
theorem firstMatch_eq_none_of_find? {direction : Direction} {source : List Char}
    (h : find? direction source = none) : firstMatch (readSignature direction.name.toList) source = none := by
  cases hbehind : firstMatch (readSignature direction.name.toList) source with
  | none => rfl
  | some behind =>
    rw [find?, hbehind] at h
    cases hclose : beforeClosing .code 0 behind <;> simp [hclose] at h

/-- A body that is closed is what the scanner finds behind the opening brace. -/
theorem beforeClosing_of_closed {direction : Direction} {source : List Char} {body : MethodBody}
    (h : find? direction source = some body) (hclosed : body.truncated = false) :
    beforeClosing .code 0 (source.drop body.offset) = some body.text := by
  obtain ⟨before, behind, hsource, -, hoffset, -, hend⟩ := find?_eq_some_iff.mp h
  rw [hsource, hoffset, List.drop_left]
  rcases hend with ⟨-, hclose⟩ | ⟨htruncated, -⟩
  · exact hclose
  · rw [hclosed] at htruncated
    cases htruncated

/-- A body that nothing closes is the text behind the opening brace up to the next declaration. -/
theorem beforeClosing_of_truncated {direction : Direction} {source : List Char} {body : MethodBody}
    (h : find? direction source = some body) (htruncated : body.truncated = true) :
    beforeClosing .code 0 (source.drop body.offset) = none ∧
      body.text = beforeDeclaration true (source.drop body.offset) := by
  obtain ⟨before, behind, hsource, -, hoffset, -, hend⟩ := find?_eq_some_iff.mp h
  rw [hsource, hoffset, List.drop_left]
  rcases hend with ⟨hclosed, -⟩ | ⟨-, hopen⟩
  · rw [htruncated] at hclosed
    cases hclosed
  · exact hopen

/-- A body stands behind its opening brace. -/
theorem isPrefix_text {direction : Direction} {source : List Char} {body : MethodBody}
    (h : find? direction source = some body) : body.text <+: source.drop body.offset := by
  cases hend : body.truncated with
  | false =>
    obtain ⟨behind, hbehind⟩ := exists_brace_of_beforeClosing (beforeClosing_of_closed h hend)
    exact ⟨'}' :: behind, hbehind.symm⟩
  | true =>
    rw [(beforeClosing_of_truncated h hend).2]
    exact isPrefix_beforeDeclaration _ _

end MethodBody

end MigrationPreview
