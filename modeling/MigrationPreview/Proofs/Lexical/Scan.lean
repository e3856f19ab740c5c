import Mathlib.Logic.Relation
import MigrationPreview.Proofs.Body
import MigrationPreview.Proofs.Lexical.Token

/-!
# Scanning for a closing brace

The search for the closing brace of a body is taken apart into its steps. A scan counts the braces that
are open and takes its count down at a closing brace, never below zero, and it ends at the brace that
takes the count to zero. Once the opening brace has been read the count is never zero, so at every closing
brace there is something to take away.

A scan passes over literals and comments as a whole, and between two tokens its count is the difference
of the braces that are code. It therefore ends at the first brace of code at which these are equal in
number.

## Main definitions

* `Scan`, `Scan.next?`, `Scan.Reaches`: scans, their steps and their runs
* `Token.Balanced`, `Token.Unclosed`: tokens with as many closing as opening braces, and tokens among
  which no closing brace makes them so

## Main results

* `Scan.Reaches.one_le_depth`: the count of a scan is never zero
* `Scan.Reaches.exists_beforeClosing_eq`: a run passes over a part of the text before the closing brace
* `Tokenized.exists_reaches`: the count of a scan between two tokens
* `Tokenized.beforeClosing_of_unclosed`, `Tokenized.beforeClosing_of_balanced`: what the scanner finds
-/

namespace MigrationPreview

open Text

/-- Where a scan stands. -/
structure Scan where
  state : Lexical
  /-- The count of open braces. -/
  depth : Nat
  /-- The text that is not read yet. -/
  rest : List Char

namespace Scan

/-- The step of a scan. There is none at the end of the text, nor at the closing brace that takes the
count to zero, where the scan has found what it looks for. -/
def next? (scan : Scan) : Option Scan :=
  match scan.state, scan.rest with
  | _, [] => none
  | .code, '#' :: cs => some ⟨.lineComment, scan.depth, cs⟩
  | .code, '/' :: '/' :: cs => some ⟨.lineComment, scan.depth, cs⟩
  | .code, '/' :: '*' :: cs => some ⟨.blockComment false, scan.depth, cs⟩
  | .code, '{' :: cs => some ⟨.code, scan.depth + 1, cs⟩
  | .code, '}' :: cs =>
    -- the subtraction stops at zero
    if scan.depth - 1 = 0 then none else some ⟨.code, scan.depth - 1, cs⟩
  | state, c :: cs => some ⟨state.next c, scan.depth, cs⟩

/-- One step leads from the first scan to the second. -/
def Step (scan scan' : Scan) : Prop := scan.next? = some scan'

/-- Some steps, perhaps none, lead from the first scan to the second. -/
def Reaches : Scan → Scan → Prop := Relation.ReflTransGen Step

variable {scan scan' : Scan} {depth : Nat} {c quote : Char} {inner rest : List Char}

/-! ### The count -/

/-- The step of the count: what is above zero stays above zero. -/
theorem Step.one_le_depth (h : Step scan scan') (hscan : 1 ≤ scan.depth) : 1 ≤ scan'.depth := by
  unfold Step next? at h
  split at h
  · simp at h
  case h_6 =>
    split at h
    · simp at h
    · next hdepth =>
      obtain rfl := Option.some_inj.mp h
      exact Nat.pos_of_ne_zero hdepth
  case h_5 =>
    obtain rfl := Option.some_inj.mp h
    exact Nat.le_add_left 1 _
  all_goals
    obtain rfl := Option.some_inj.mp h
    exact hscan

theorem Reaches.one_le_depth (h : Reaches scan scan') (hscan : 1 ≤ scan.depth) :
    1 ≤ scan'.depth := by
  induction h with
  | refl => exact hscan
  | tail _ hstep ih => exact hstep.one_le_depth ih

/-! ### The text before the closing brace -/

/-- A step passes over a part of the text before the closing brace. The count of the scan includes the
brace that is to be matched. -/
theorem Step.exists_beforeClosing_eq (h : Step scan scan') (hscan : 1 ≤ scan.depth) :
    ∃ read, scan.rest = read ++ scan'.rest ∧ beforeClosing scan.state (scan.depth - 1) scan.rest =
      (beforeClosing scan'.state (scan'.depth - 1) scan'.rest).map (read ++ ·) := by
  obtain ⟨state, depth, rest⟩ := scan
  obtain ⟨depth, rfl⟩ : ∃ d, depth = d + 1 := ⟨depth - 1, (Nat.sub_add_cancel hscan).symm⟩
  unfold Step next? at h
  dsimp only at h ⊢
  split at h
  · simp at h
  · obtain rfl := Option.some_inj.mp h
    exact ⟨['#'], rfl, rfl⟩
  · obtain rfl := Option.some_inj.mp h
    exact ⟨['/', '/'], rfl, rfl⟩
  · obtain rfl := Option.some_inj.mp h
    exact ⟨['/', '*'], rfl, rfl⟩
  · obtain rfl := Option.some_inj.mp h
    exact ⟨['\x7b'], rfl, rfl⟩
  · split at h
    · simp at h
    · next cs hdepth =>
      obtain rfl := Option.some_inj.mp h
      obtain ⟨depth, rfl⟩ := Nat.exists_eq_succ_of_ne_zero hdepth
      exact ⟨['\x7d'], rfl, rfl⟩
  · next c cs hhash hline hblock hopen hclose =>
    obtain rfl := Option.some_inj.mp h
    have hplain := Lexical.plain_of_cases depth hhash hline hblock hopen
      (fun hcode _ hc => hclose hcode hc) (fun _ hcode _ hc => hclose hcode hc)
    exact ⟨[c], rfl, beforeClosing_cons depth hplain⟩

/-- By induction on its steps, so does a run. -/
theorem Reaches.exists_beforeClosing_eq (h : Reaches scan scan') (hscan : 1 ≤ scan.depth) :
    ∃ read, scan.rest = read ++ scan'.rest ∧ beforeClosing scan.state (scan.depth - 1) scan.rest =
      (beforeClosing scan'.state (scan'.depth - 1) scan'.rest).map (read ++ ·) := by
  induction h with
  | refl => exact ⟨[], rfl, by simp⟩
  | tail hrun hstep ih =>
    obtain ⟨read, hrest, hread⟩ := ih
    obtain ⟨last, hlastRest, hlast⟩ := hstep.exists_beforeClosing_eq (Reaches.one_le_depth hrun hscan)
    refine ⟨read ++ last, ?_, ?_⟩
    · rw [hrest, hlastRest, List.append_assoc]
    · rw [hread, hlast, Option.map_map]
      congr 1
      funext text
      exact (List.append_assoc ..).symm

/-! ### Literals and comments -/

theorem reaches_of_next? (h : scan.next? = some scan') : Reaches scan scan' := .single h

/-- Outside of code every character is a step of its own. -/
theorem reaches_next (depth : Nat) (state : Lexical) (hstate : state ≠ .code) (c : Char)
    (rest : List Char) :
    Reaches ⟨state, depth, c :: rest⟩ ⟨state.next c, depth, rest⟩ := by
  cases state with
  | code => exact absurd rfl hstate
  | literal | lineComment | blockComment => exact reaches_of_next? (by simp [next?])

theorem reaches_within (depth : Nat) (h : Token.Within quote inner) (rest : List Char) :
    Reaches ⟨.literal quote false, depth, inner ++ rest⟩ ⟨.literal quote false, depth, rest⟩ := by
  induction h with
  | nil => exact .refl
  | @plain c cs hquote hescape _ ih =>
    have hnext : Lexical.next (.literal quote false) c = .literal quote false := by
      simp [Lexical.next, hquote, hescape]
    have hstep := reaches_next depth (.literal quote false) (by simp) c (cs ++ rest)
    rw [hnext] at hstep
    exact hstep.trans ih
  | @escaped c cs _ ih =>
    have hescape := reaches_next depth (.literal quote false) (by simp) '\\'
      (c :: (cs ++ rest))
    have hescaped := reaches_next depth (.literal quote true) (by simp) c (cs ++ rest)
    exact (hescape.trans hescaped).trans ih

theorem reaches_line (depth : Nat) (h : '\n' ∉ inner) (rest : List Char) :
    Reaches ⟨.lineComment, depth, inner ++ rest⟩ ⟨.lineComment, depth, rest⟩ := by
  induction inner with
  | nil => exact .refl
  | cons c inner ih =>
    obtain ⟨hc, hinner⟩ : '\n' ≠ c ∧ '\n' ∉ inner := by simpa using h
    have hnext : Lexical.next .lineComment c = .lineComment := if_neg hc.symm
    have hstep := reaches_next depth .lineComment (by simp) c (inner ++ rest)
    rw [hnext] at hstep
    exact hstep.trans (ih hinner)

/-- In a text without `*/` a comment goes on. Behind a star the text must not begin with a slash. -/
theorem exists_reaches_block (depth : Nat) (star : Bool) (h : ¬ ['*', '/'] <:+: inner)
    (hstar : star = true → inner.head? ≠ some '/') (rest : List Char) :
    ∃ star', Reaches ⟨.blockComment star, depth, inner ++ rest⟩ ⟨.blockComment star', depth, rest⟩ := by
  induction inner generalizing star with
  | nil => exact ⟨star, .refl⟩
  | cons c inner ih =>
    obtain ⟨hbegins, hinner⟩ := not_or.mp (mt List.infix_cons_iff.mpr h)
    have hnext : Lexical.next (.blockComment star) c = .blockComment (c = '*') :=
      if_neg fun ⟨hs, hc⟩ => hstar hs (by rw [hc]; rfl)
    have hstep := reaches_next depth (.blockComment star) (by simp) c (inner ++ rest)
    rw [hnext] at hstep
    obtain ⟨star', hrun⟩ := ih (decide (c = '*')) hinner fun hc hhead => by
      obtain ⟨inner', rfl⟩ := List.head?_eq_some_iff.mp hhead
      exact hbegins ⟨inner', by rw [of_decide_eq_true hc]; rfl⟩
    exact ⟨star', hstep.trans hrun⟩

theorem reaches_quote (h : Call.isQuote quote) (rest : List Char) :
    Reaches ⟨.code, depth, quote :: rest⟩ ⟨.literal quote false, depth, rest⟩ := by
  have hquote : quote = '\x27' ∨ quote = '"' := by simpa [Call.isQuote] using h
  rcases hquote with rfl | rfl <;> exact reaches_of_next? rfl

theorem reaches_lineMark {mark : List Char} (h : mark ∈ Token.lineMarks) (rest : List Char) :
    Reaches ⟨.code, depth, mark ++ rest⟩ ⟨.lineComment, depth, rest⟩ := by
  have hmark : mark = ['#'] ∨ mark = ['/', '/'] := by simpa [Token.lineMarks] using h
  rcases hmark with rfl | rfl <;> exact reaches_of_next? rfl

theorem reaches_blockMark (rest : List Char) :
    Reaches ⟨.code, depth, '/' :: '*' :: rest⟩ ⟨.blockComment false, depth, rest⟩ :=
  reaches_of_next? rfl

/-- A scan passes over a literal or a comment that is ended. -/
theorem reaches_complete {token : Token} (h : token.Complete) (rest : List Char) :
    Reaches ⟨.code, depth, token.text ++ rest⟩ ⟨.code, depth, rest⟩ := by
  cases h with
  | @literal quote inner hquote hinner =>
    have hescape : quote ≠ '\\' := by
      rintro rfl
      simp [Call.isQuote] at hquote
    have hnext : Lexical.next (.literal quote false) quote = .code := by
      simp [Lexical.next, hescape]
    have hend := reaches_next depth (.literal quote false) (by simp) quote rest
    rw [hnext] at hend
    rw [Token.text_literal, List.cons_append, List.append_assoc]
    exact ((reaches_quote hquote _).trans (reaches_within _ hinner _)).trans hend
  | @lineComment mark inner hmark hinner =>
    have hend := reaches_next depth .lineComment (by simp) '\n' rest
    rw [Token.text_comment, List.append_assoc, List.append_assoc]
    exact ((reaches_lineMark hmark _).trans (reaches_line _ hinner _)).trans hend
  | @blockComment inner hinner =>
    obtain ⟨star, hrun⟩ := exists_reaches_block depth false hinner (by simp)
      ('*' :: '/' :: rest)
    have hstar := reaches_next depth (.blockComment star) (by simp) '*' ('/' :: rest)
    have hnext : Lexical.next (.blockComment star) '*' = .blockComment true := by
      simp [Lexical.next]
    rw [hnext] at hstar
    have hend := reaches_next depth (.blockComment true) (by simp) '/' rest
    rw [Token.text_comment, List.cons_append, List.cons_append, List.append_assoc]
    exact (((reaches_blockMark _).trans hrun).trans hstar).trans hend

/-- A literal or a comment that nothing ends takes a scan to the end of the text. -/
theorem exists_reaches_unended (depth : Nat) {token : Token} (h : token.Unended) :
    ∃ state, Reaches ⟨.code, depth, token.text⟩ ⟨state, depth, []⟩ := by
  cases h with
  | @literal quote inner hquote hinner =>
    have hrun := reaches_within depth hinner []
    rw [List.append_nil] at hrun
    exact ⟨_, (reaches_quote hquote _).trans hrun⟩
  | @escape quote inner hquote hinner =>
    have hend := reaches_next depth (.literal quote false) (by simp) '\\' []
    exact ⟨_, ((reaches_quote hquote _).trans (reaches_within _ hinner _)).trans hend⟩
  | @lineComment mark inner hmark hinner =>
    have hrun := reaches_line depth hinner []
    rw [List.append_nil] at hrun
    exact ⟨_, (reaches_lineMark hmark _).trans hrun⟩
  | @blockComment inner hinner =>
    obtain ⟨star, hrun⟩ := exists_reaches_block depth false hinner (by simp) []
    rw [List.append_nil] at hrun
    exact ⟨_, (reaches_blockMark _).trans hrun⟩

/-! ### Characters of code -/

theorem reaches_open (rest : List Char) :
    Reaches ⟨.code, depth, '{' :: rest⟩ ⟨.code, depth + 1, rest⟩ := reaches_of_next? rfl

theorem reaches_close (rest : List Char) :
    Reaches ⟨.code, depth + 2, '}' :: rest⟩ ⟨.code, depth + 1, rest⟩ := reaches_of_next? rfl

theorem reaches_code (h : Token.IsCode c rest) (hopen : c ≠ '{') (hclose : c ≠ '}') :
    Reaches ⟨.code, depth, c :: rest⟩ ⟨.code, depth, rest⟩ := by
  have hquote : ¬ (c = '"' ∨ c = '\x27') := by
    have hc := h.notQuote
    simp only [Call.isQuote, Bool.or_eq_false_iff, beq_eq_false_iff_ne] at hc
    exact not_or.mpr ⟨hc.2, hc.1⟩
  have hnext : Lexical.next .code c = .code := if_neg hquote
  apply reaches_of_next?
  unfold next?
  dsimp only
  split
  · next hnil => simp at hnil
  · next hcons => exact absurd (List.cons.inj hcons).1 h.notHash
  · next hcons =>
    obtain ⟨rfl, rfl⟩ := List.cons.inj hcons
    exact absurd rfl (h.notComment rfl '/' rfl).1
  · next hcons =>
    obtain ⟨rfl, rfl⟩ := List.cons.inj hcons
    exact absurd rfl (h.notComment rfl '*' rfl).2
  · next hcons => exact absurd (List.cons.inj hcons).1 hopen
  · next hcons => exact absurd (List.cons.inj hcons).1 hclose
  · next hcons _ _ _ _ _ =>
    obtain ⟨rfl, rfl⟩ := List.cons.inj hcons
    rw [hnext]

/-- A scan reads a character of code, unless this is the brace at which it ends. -/
theorem exists_reaches_code (h : Token.IsCode c rest) (hdepth : 1 ≤ depth)
    (hend : c = '}' → depth ≠ 1) : ∃ depth', 1 ≤ depth' ∧
      Reaches ⟨.code, depth, c :: rest⟩ ⟨.code, depth', rest⟩ ∧
      depth + [Token.code c].count (.code '{') = depth' + [Token.code c].count (.code '}') := by
  by_cases hopen : c = '{'
  · subst hopen
    exact ⟨depth + 1, Nat.le_add_left 1 depth, reaches_open rest, by simp⟩
  by_cases hclose : c = '}'
  · subst hclose
    obtain ⟨depth, rfl⟩ : ∃ d, depth = d + 2 := ⟨depth - 2, by have := hend rfl; omega⟩
    exact ⟨depth + 1, Nat.le_add_left 1 depth, reaches_close rest, by simp⟩
  · exact ⟨depth, hdepth, reaches_code h hopen hclose, by simp [hopen, hclose]⟩

end Scan

/-! ### Braces among tokens -/

namespace Token

/-- The braces of code are equal in number, `depth` opening braces in front being counted. -/
def Balanced (depth : Nat) (tokens : List Token) : Prop :=
  tokens.count (.code '{') + depth = tokens.count (.code '}')

/-- No closing brace of code takes the number of open braces to zero. -/
def Unclosed (depth : Nat) (tokens : List Token) : Prop :=
  ∀ inside outside, tokens = inside ++ .code '}' :: outside →
    ¬ Balanced depth (inside ++ [.code '}'])

variable {depth depth' : Nat} {token : Token} {tokens : List Token}

theorem count_cons (token brace : Token) (tokens : List Token) :
    (token :: tokens).count brace = [token].count brace + tokens.count brace :=
  @List.count_append _ _ _ [token] _

/-- A token that changes the number of open braces from `depth` to `depth'` may be counted with the
braces in front. -/
theorem balanced_cons_iff (h : depth + [token].count (.code '{') = depth' + [token].count (.code '}')) :
    Balanced depth (token :: tokens) ↔ Balanced depth' tokens := by
  unfold Balanced
  rw [count_cons _ _ tokens, count_cons _ _ tokens]
  omega

theorem Unclosed.of_cons (h : Unclosed depth (token :: tokens))
    (hdepth : depth + [token].count (.code '{') = depth' + [token].count (.code '}')) :
    Unclosed depth' tokens := by
  intro inside outside heq hbalanced
  refine h (token :: inside) outside (by rw [heq]; rfl) ?_
  rw [List.cons_append]
  exact (balanced_cons_iff hdepth).mpr hbalanced

/-- Of the closing braces that take the number of open braces to zero one is the first. The induction is on
the number of tokens in front of the brace. -/
theorem exists_first_of_balanced {inside outside : List Token}
    (heq : tokens = inside ++ .code '}' :: outside) (hbalanced : Balanced depth (inside ++ [.code '}'])) :
    ∃ inside outside, tokens = inside ++ .code '}' :: outside ∧
      Balanced depth (inside ++ [.code '}']) ∧ Unclosed depth inside := by
  induction hlength : inside.length using Nat.strong_induction_on generalizing inside outside with
  | h n ih =>
    subst hlength
    by_cases hunclosed : Unclosed depth inside
    · exact ⟨inside, outside, heq, hbalanced, hunclosed⟩
    · unfold Unclosed at hunclosed
      push Not at hunclosed
      obtain ⟨inner, between, rfl, hinner⟩ := hunclosed
      have hshorter : inner.length < (inner ++ .code '}' :: between).length := by
        rw [List.length_append, List.length_cons]
        omega
      have hsplit : tokens = inner ++ .code '}' :: (between ++ .code '}' :: outside) := by
        rw [heq, List.append_assoc, List.cons_append]
      exact ih inner.length hshorter hsplit hinner rfl

theorem Complete.count_code (h : token.Complete) (c : Char) : [token].count (.code c) = 0 := by
  cases h <;> simp

theorem Unended.count_code (h : token.Unended) (c : Char) : [token].count (.code c) = 0 := by
  cases h <;> simp

end Token

/-! ### Scans and tokens -/

/-- A scan that begins in code, in front of `cs` and with `depth` open braces, passes over the tokens
`front` and stands before the tokens `back`: it counts the braces of code in `front`. -/
def Scan.Passes (depth : Nat) (cs : List Char) (front back : List Token) : Prop :=
  ∃ state depth', Reaches ⟨.code, depth, cs⟩ ⟨state, depth', back.flatMap Token.text⟩ ∧
    depth + front.count (.code '{') = depth' + front.count (.code '}') ∧ (back ≠ [] → state = .code)

theorem Scan.Passes.cons {depth depth' : Nat} {cs rest : List Char} {token : Token}
    {front back : List Token} (hstep : Reaches ⟨.code, depth, cs⟩ ⟨.code, depth', rest⟩)
    (hcount : depth + [token].count (.code '{') = depth' + [token].count (.code '}'))
    (h : Passes depth' rest front back) : Passes depth cs (token :: front) back := by
  obtain ⟨state, depth'', hrun, hfront, hstate⟩ := h
  refine ⟨state, depth'', hstep.trans hrun, ?_, hstate⟩
  rw [Token.count_cons _ _ front, Token.count_cons _ _ front]
  omega

namespace Tokenized

variable {cs : List Char} {tokens front back inside outside : List Token} {depth : Nat}

theorem passes_nil (h : Tokenized cs tokens) (heq : tokens = [] ++ back) :
    Scan.Passes depth cs [] back := by
  obtain rfl : tokens = back := heq
  refine ⟨.code, depth, ?_, rfl, fun _ => rfl⟩
  rw [h.flatMap_text]
  exact .refl

/-- A scan passes over tokens among which no closing brace takes its count to zero. The induction is on
the tokens of the text: the count behind a token is the one with which the scan goes on. -/
theorem passes (h : Tokenized cs tokens) (heq : tokens = front ++ back) (hdepth : 1 ≤ depth)
    (hfront : Token.Unclosed depth front) : Scan.Passes depth cs front back := by
  induction h generalizing front depth with
  | nil =>
    obtain ⟨rfl, rfl⟩ := List.append_eq_nil_iff.mp heq.symm
    exact passes_nil .nil rfl
  | @code c rest tokens hcode hrest ih =>
    cases front with
    | nil => exact passes_nil (.code hcode hrest) heq
    | cons token front =>
      obtain ⟨rfl, htokens⟩ := List.cons.inj heq
      have hend : c = '}' → depth ≠ 1 := by
        rintro rfl rfl
        exact hfront [] front rfl (by simp [Token.Balanced])
      obtain ⟨depth', hdepth', hstep, hcount⟩ := Scan.exists_reaches_code hcode hdepth hend
      exact .cons hstep hcount (ih htokens hdepth' (hfront.of_cons hcount))
  | @complete token rest tokens hcomplete hrest ih =>
    cases front with
    | nil => exact passes_nil (.complete hcomplete hrest) heq
    | cons token' front =>
      obtain ⟨rfl, htokens⟩ := List.cons.inj heq
      have hcount : depth + [token].count (.code '{') = depth + [token].count (.code '}') := by
        rw [hcomplete.count_code, hcomplete.count_code]
      exact .cons (Scan.reaches_complete hcomplete rest) hcount
        (ih htokens hdepth (hfront.of_cons hcount))
  | @unended token hunended =>
    cases front with
    | nil => exact passes_nil (.unended hunended) heq
    | cons token' front =>
      obtain ⟨rfl, htokens⟩ := List.cons.inj heq
      obtain ⟨rfl, rfl⟩ := List.append_eq_nil_iff.mp htokens.symm
      obtain ⟨state, hrun⟩ := Scan.exists_reaches_unended depth hunended
      refine ⟨state, depth, hrun, ?_, fun hne => absurd rfl hne⟩
      rw [hunended.count_code, hunended.count_code]

/-- Where no closing brace takes the count to zero, the scanner finds none. -/
theorem beforeClosing_of_unclosed (h : Tokenized cs tokens)
    (hunclosed : Token.Unclosed (depth + 1) tokens) : beforeClosing .code depth cs = none := by
  obtain ⟨state, depth', hrun, -, -⟩ :=
    h.passes (List.append_nil tokens).symm (Nat.le_add_left 1 depth) hunclosed
  obtain ⟨read, -, hread⟩ := hrun.exists_beforeClosing_eq (Nat.le_add_left 1 depth)
  simpa [beforeClosing] using hread

/-- The scanner finds the first closing brace that takes the count to zero, and the run of the scan ends
in front of it. -/
theorem beforeClosing_of_balanced (h : Tokenized cs tokens)
    (heq : tokens = inside ++ .code '}' :: outside)
    (hbalanced : Token.Balanced (depth + 1) (inside ++ [.code '}']))
    (hunclosed : Token.Unclosed (depth + 1) inside) :
    beforeClosing .code depth cs = some (inside.flatMap Token.text) ∧
      Scan.Reaches ⟨.code, depth + 1, cs⟩ ⟨.code, 1, '}' :: outside.flatMap Token.text⟩ := by
  obtain ⟨state, depth', hrun, hcount, hstate⟩ := h.passes heq (Nat.le_add_left 1 depth) hunclosed
  obtain rfl := hstate (List.cons_ne_nil _ _)
  obtain rfl : depth' = 1 := by
    unfold Token.Balanced at hbalanced
    rw [List.count_append, List.count_append] at hbalanced
    simp at hbalanced
    omega
  refine ⟨?_, hrun⟩
  obtain ⟨read, hrest, hread⟩ := hrun.exists_beforeClosing_eq (Nat.le_add_left 1 depth)
  have htext : read ++ '}' :: outside.flatMap Token.text =
      inside.flatMap Token.text ++ '}' :: outside.flatMap Token.text := by
    have hcs := h.flatMap_text
    rw [heq, List.flatMap_append, List.flatMap_cons] at hcs
    exact hrest.symm.trans hcs.symm
  rw [← List.append_cancel_right htext]
  simpa [beforeClosing] using hread

end Tokenized

end MigrationPreview
