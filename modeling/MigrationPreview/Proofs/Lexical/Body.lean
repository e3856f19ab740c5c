import MigrationPreview.Proofs.Lexical.Declaration
import MigrationPreview.Proofs.Lexical.Scan

/-!
# Bodies in terms of tokens

The end of a body is described without the scanner. From the opening brace on, the source is divided into
tokens. If some closing brace of code makes the braces of code equal in number, the body ends before the
first one that does. If there is none, the body ends before the first declaration of a method that begins
a line, or at the end of the source.

The scanner that finds this end never has a count of zero between the opening brace and its end.

## Main definitions

* `MethodBody.IsDelimited`: a body ends as the tokens of its source say

## Main results

* `MethodBody.isDelimited_of_find?`: every body that is found ends so
-/

namespace MigrationPreview

open Text

variable {direction : Direction} {source cs : List Char} {tokens front back : List Token}

/-! ### The opening brace -/

namespace Token

theorem balanced_open_iff : Balanced 0 (.code '{' :: tokens) ↔ Balanced 1 tokens :=
  balanced_cons_iff (by simp)

theorem unclosed_open_iff : Unclosed 0 (.code '{' :: tokens) ↔ Unclosed 1 tokens := by
  refine ⟨fun h => h.of_cons (by simp), fun h inside outside heq hbalanced => ?_⟩
  cases inside with
  | nil => simp at heq
  | cons token inside =>
    obtain ⟨rfl, htokens⟩ := List.cons.inj heq
    exact h inside outside htokens (balanced_open_iff.mp hbalanced)

end Token

/-- A scan that has read the opening brace never has a count of zero. -/
theorem Scan.eq_or_one_le_depth {scan : Scan} (h : Scan.Reaches ⟨.code, 0, '{' :: cs⟩ scan) :
    scan = ⟨.code, 0, '{' :: cs⟩ ∨ 1 ≤ scan.depth := by
  rcases Relation.ReflTransGen.cases_head h with heq | ⟨next, hstep, hrun⟩
  · exact .inl heq.symm
  · obtain rfl : ⟨.code, 1, cs⟩ = next := Option.some_inj.mp hstep
    exact .inr (Scan.Reaches.one_le_depth hrun (Nat.le_refl 1))

/-- Between two tokens in front of its end a scan counts the braces of code that are open. -/
theorem Tokenized.passes_of_open (h : Tokenized ('{' :: cs) tokens) (heq : tokens = front ++ back)
    (hfront : front ≠ []) (hunclosed : Token.Unclosed 0 front) :
    Scan.Passes 0 ('{' :: cs) front back ∧ front.count (.code '}') < front.count (.code '{') := by
  obtain ⟨tokens, rfl, hbehind⟩ := h.exists_of_cons (by decide)
  cases front with
  | nil => exact absurd rfl hfront
  | cons token front =>
    obtain ⟨rfl, htokens⟩ := List.cons.inj heq
    have hpasses := hbehind.passes htokens (Nat.le_refl 1) (Token.unclosed_open_iff.mp hunclosed)
    have hopen : Scan.Passes 0 ('{' :: cs) (.code '{' :: front) back :=
      hpasses.cons (Scan.reaches_open cs) (by simp)
    refine ⟨hopen, ?_⟩
    obtain ⟨state, depth, hrun, hcount, -⟩ := hpasses
    have hdepth := hrun.one_le_depth (Nat.le_refl 1)
    have hone : [Token.code '{'].count (.code '{') = 1 := List.count_singleton_self
    have hzero : [Token.code '{'].count (.code '}') = 0 := by simp
    rw [Token.count_cons _ _ front, Token.count_cons _ _ front, hone, hzero]
    dsimp only at hdepth
    omega

/-! ### Bodies -/

namespace MethodBody

/-- A body ends before the first closing brace of code that makes the braces of code equal in number;
`rest` is the text behind the body, and the tokens are those from its opening brace on. -/
structure EndsAtBrace (body : MethodBody) (rest : List Char) (tokens : List Token) : Prop where
  exists_first : ∃ inside outside, tokens = inside ++ .code '}' :: outside ∧
    Token.Balanced 0 (inside ++ [.code '}']) ∧ Token.Unclosed 0 inside ∧
    '{' :: body.text = inside.flatMap Token.text ∧ rest = '}' :: outside.flatMap Token.text
  /-- The scan ends at this brace, with a count of one. -/
  reaches : Scan.Reaches ⟨.code, 0, '{' :: (body.text ++ rest)⟩ ⟨.code, 1, rest⟩

/-- A body ends before the first declaration that begins a line, or at the end of the source. -/
structure EndsAtDeclaration (body : MethodBody) (rest : List Char) : Prop where
  eq_nil_or_exists : rest = [] ∨ EndsLine body.text ∧
    ∃ declaration back, IsDeclaration declaration ∧ rest = declaration ++ back
  /-- No declaration begins a line further in front. -/
  length_le : ∀ front declaration back, EndsLine front → IsDeclaration declaration →
    body.text ++ rest = front ++ declaration ++ back → body.text.length ≤ front.length
  /-- The body itself holds no declaration that begins a line. -/
  text_ne : ∀ front declaration back, EndsLine front → IsDeclaration declaration →
    body.text ≠ front ++ declaration ++ back
  /-- The scan goes on to the end of the source. -/
  exists_reaches : ∃ state depth,
    Scan.Reaches ⟨.code, 0, '{' :: (body.text ++ rest)⟩ ⟨state, depth, []⟩

/-- A body ends as the tokens of the source from its opening brace on say. -/
structure IsDelimited (body : MethodBody) (rest : List Char) (tokens : List Token) : Prop where
  /-- It is closed exactly if some closing brace of code makes the braces of code equal in number. -/
  truncated_eq_false_iff : body.truncated = false ↔ ∃ inside outside,
    tokens = inside ++ .code '}' :: outside ∧ Token.Balanced 0 (inside ++ [.code '}'])
  endsAtBrace : body.truncated = false → body.EndsAtBrace rest tokens
  endsAtDeclaration : body.truncated = true → body.EndsAtDeclaration rest
  /-- Between two tokens in front of its end the scan counts the braces of code that are open. -/
  passes : ∀ front back, tokens = front ++ back → front ≠ [] → Token.Unclosed 0 front →
    Scan.Passes 0 ('{' :: (body.text ++ rest)) front back ∧
      front.count (.code '}') < front.count (.code '{')
  /-- The count of the scan is zero at the opening brace and nowhere else. -/
  one_le_depth : ∀ scan, Scan.Reaches ⟨.code, 0, '{' :: (body.text ++ rest)⟩ scan →
    scan = ⟨.code, 0, '{' :: (body.text ++ rest)⟩ ∨ 1 ≤ scan.depth

variable {body : MethodBody} {behind : List Char}

/-- What the scanner finds is the text before the first closing brace that makes the braces equal in
number. -/
theorem exists_endsAtBrace (h : Tokenized ('{' :: behind) tokens)
    (hclose : beforeClosing .code 0 behind = some body.text) :
    ∃ rest, behind = body.text ++ rest ∧ body.EndsAtBrace rest tokens := by
  obtain ⟨tokens, rfl, hbehind⟩ := h.exists_of_cons (by decide)
  have hclosed : ¬ Token.Unclosed 1 tokens := fun hunclosed => by
    rw [hbehind.beforeClosing_of_unclosed hunclosed] at hclose
    simp at hclose
  unfold Token.Unclosed at hclosed
  push Not at hclosed
  obtain ⟨inner, outer, hinner, hbalancedInner⟩ := hclosed
  obtain ⟨inside, outside, rfl, hbalanced, hunclosed⟩ :=
    Token.exists_first_of_balanced hinner hbalancedInner
  obtain ⟨hfound, hrun⟩ := hbehind.beforeClosing_of_balanced rfl hbalanced hunclosed
  have htext : body.text = inside.flatMap Token.text := Option.some_inj.mp (hclose.symm.trans hfound)
  have hrest : behind = body.text ++ '}' :: outside.flatMap Token.text := by
    rw [← hbehind.flatMap_text, htext, List.flatMap_append, List.flatMap_cons]
    rfl
  refine ⟨'}' :: outside.flatMap Token.text, hrest, ⟨.code '{' :: inside, outside, rfl,
    Token.balanced_open_iff.mpr hbalanced, Token.unclosed_open_iff.mpr hunclosed, ?_, rfl⟩, ?_⟩
  · rw [htext]
    rfl
  · rw [← hrest]
    exact (Scan.reaches_open behind).trans hrun

/-- Where the scanner finds nothing, no closing brace makes the braces equal in number. -/
theorem unclosed_of_beforeClosing (h : Tokenized ('{' :: behind) tokens)
    (hopen : beforeClosing .code 0 behind = none) : Token.Unclosed 0 tokens := by
  obtain ⟨tokens, rfl, hbehind⟩ := h.exists_of_cons (by decide)
  refine Token.unclosed_open_iff.mpr fun inner outer hinner hbalancedInner => ?_
  obtain ⟨inside, outside, heq, hbalanced, hunclosed⟩ :=
    Token.exists_first_of_balanced hinner hbalancedInner
  rw [(hbehind.beforeClosing_of_balanced heq hbalanced hunclosed).1] at hopen
  simp at hopen

theorem exists_endsAtDeclaration (h : Tokenized ('{' :: behind) tokens)
    (hunclosed : Token.Unclosed 0 tokens) (htext : body.text = beforeDeclaration true behind) :
    ∃ rest, behind = body.text ++ rest ∧ body.EndsAtDeclaration rest := by
  obtain ⟨rest, hrest⟩ : body.text <+: behind := htext ▸ isPrefix_beforeDeclaration true behind
  have hle (front declaration back : List Char) (hfront : EndsLine front)
      (hdeclaration : IsDeclaration declaration)
      (heq : body.text ++ rest = front ++ declaration ++ back) : body.text.length ≤ front.length := by
    rw [htext]
    exact length_beforeDeclaration_le_of_isDeclaration hfront hdeclaration (hrest.symm.trans heq)
  refine ⟨rest, hrest.symm, ?_, hle, ?_, ?_⟩
  · rcases beforeDeclaration_eq_or_exists behind with hall | ⟨hends, declaration, back, hdeclaration, heq⟩
    · rw [← htext, ← hrest] at hall
      exact .inl (List.append_right_eq_self.mp hall.symm)
    · rw [← htext] at heq hends
      exact .inr ⟨hends, declaration, back, hdeclaration,
        List.append_cancel_left (hrest.trans heq)⟩
  · -- a declaration in the body would begin in front of its end
    intro front declaration back hfront hdeclaration heq
    have hlength := hle front declaration (back ++ rest) hfront hdeclaration (by simp [heq])
    have hpos := List.length_pos_iff.mpr hdeclaration.ne_nil
    rw [heq, List.length_append, List.length_append] at hlength
    omega
  · obtain ⟨tokens, rfl, -⟩ := h.exists_of_cons (by decide)
    obtain ⟨⟨state, depth, hrun, -, -⟩, -⟩ :=
      h.passes_of_open (List.append_nil _).symm (List.cons_ne_nil _ _) hunclosed
    rw [hrest]
    exact ⟨state, depth, hrun⟩

/-- Every body that is found begins behind an opening brace, whose line is its line, and ends as the tokens
of the source from this brace on say. -/
theorem isDelimited_of_find? (h : find? direction source = some body) :
    ∃ before rest, source = before ++ '{' :: (body.text ++ rest) ∧
      body.offset = before.length + 1 ∧ body.offset + body.text.length ≤ source.length ∧
      body.startLine = 1 + before.count '\n' ∧
      (∃ tokens, Tokenized ('{' :: (body.text ++ rest)) tokens) ∧
      ∀ tokens, Tokenized ('{' :: (body.text ++ rest)) tokens → body.IsDelimited rest tokens := by
  obtain ⟨opened, behind, hsource, hsignature, hoffset, hline, hend⟩ := find?_eq_some_iff.mp h
  obtain ⟨skipped, start, hstart, hread⟩ := exists_of_firstMatch hsignature
  obtain ⟨front, rfl⟩ := exists_brace_of_readSignature hread
  -- what is in front of the body ends with the brace of the signature
  obtain rfl : opened = skipped ++ front ++ ['{'] := by
    refine (List.append_left_inj behind).mp ?_
    rw [← hsource, hstart]
    simp
  obtain ⟨tokens₀, htokens₀⟩ := exists_tokenized ('{' :: behind)
  obtain ⟨rest, rfl⟩ : body.text <+: behind := by
    have htext := isPrefix_text h
    rwa [hsource, hoffset, List.drop_left] at htext
  refine ⟨skipped ++ front, rest, ?_, ?_, ?_, ?_, ⟨tokens₀, htokens₀⟩, fun tokens htokens => ?_⟩
  · rw [hstart, List.append_assoc]
  · rw [hoffset, List.length_append]
    rfl
  · simp only [hsource, hoffset, List.length_append]
    omega
  · rw [hline]
    simp
  · rcases hend with ⟨hclosed, hclose⟩ | ⟨htruncated, hopen, htext⟩
    · obtain ⟨rest', hrest', hends⟩ := exists_endsAtBrace htokens hclose
      obtain rfl := List.append_cancel_left hrest'
      obtain ⟨inside, outside, heq, hbalanced, -⟩ := hends.exists_first
      exact {
        truncated_eq_false_iff := iff_of_true hclosed ⟨inside, outside, heq, hbalanced⟩
        endsAtBrace := fun _ => hends
        endsAtDeclaration := fun htruncated => absurd htruncated (by simp [hclosed])
        passes := fun _ _ => htokens.passes_of_open
        one_le_depth := fun _ => Scan.eq_or_one_le_depth }
    · have hunclosed := unclosed_of_beforeClosing htokens hopen
      obtain ⟨rest', hrest', hends⟩ := exists_endsAtDeclaration htokens hunclosed htext
      obtain rfl := List.append_cancel_left hrest'
      exact {
        truncated_eq_false_iff := iff_of_false (by simp [htruncated])
          fun ⟨inside, outside, heq, hbalanced⟩ => hunclosed inside outside heq hbalanced
        endsAtBrace := fun hclosed => absurd hclosed (by simp [htruncated])
        endsAtDeclaration := fun _ => hends
        passes := fun _ _ => htokens.passes_of_open
        one_le_depth := fun _ => Scan.eq_or_one_le_depth }

/-- A method in which braces stand in literals and comments, a literal holds the mark of a comment, and
the star of `/*/` does not end the comment. -/
def trickyClass : List Char :=
  ['\n'].intercalate <| List.map String.toList
    ["class M \x7b",
      " public function up(): void",
      " \x7b",
      "  $a = '\x7d\\'\x7d /*'; // it's \x7d",
      "  # \x7d \"",
      "  /*/ \x7d */ $b = \"\\\\\";",
      " \x7d",
      "\x7d"]

/-- The tricky method ends at its own closing brace. -/
theorem isDelimited_of_trickyClass : ∃ (body : MethodBody) (before rest : List Char)
    (tokens : List Token), find? .up trickyClass = some body ∧ body.truncated = false ∧
      body.startLine = 3 ∧ trickyClass = before ++ '{' :: (body.text ++ rest) ∧
      rest = "\x7d\n\x7d".toList ∧ Tokenized ('{' :: (body.text ++ rest)) tokens ∧
      body.IsDelimited rest tokens := by
  have hfound : (find? .up trickyClass).map (fun body =>
      (body.offset, body.text.length, body.startLine, body.truncated)) = some (40, 60, 3, false) := by
    decide +kernel
  obtain ⟨body, hbody, heq⟩ := Option.map_eq_some_iff.mp hfound
  simp only [Prod.mk.injEq] at heq
  obtain ⟨hoffset, hlength, hline, htruncated⟩ := heq
  obtain ⟨before, rest, hsource, hbefore, -, -, ⟨tokens, htokens⟩, hdelimited⟩ :=
    isDelimited_of_find? hbody
  refine ⟨body, before, rest, tokens, hbody, htruncated, hline, hsource, ?_, htokens,
    hdelimited tokens htokens⟩
  have hdrop : rest = trickyClass.drop 100 := by
    have hsplit : trickyClass = (before ++ '{' :: body.text) ++ rest := by
      rw [hsource]
      simp
    rw [hsplit, List.drop_left' (by rw [List.length_append, List.length_cons]; omega)]
  rw [hdrop]
  decide +kernel

end MethodBody

end MigrationPreview
