import MigrationPreview.Migration.Call
import MigrationPreview.Proofs.Text

/-!
# Tokens

A text is divided into tokens: string literals, comments, and single characters of code. A literal stands
between two quotes of one kind, where a backslash takes the next character into the literal. A comment
runs from `#` or `//` to the end of its line, or from `/*` to the next `*/`. A literal or a comment that
is never ended reaches to the end of the text. All other characters are code.

The division is described here by the shape of its tokens, without any scanner.

## Main definitions

* `Token`: literals, comments and characters of code
* `Token.Complete`, `Token.Unended`: the literals and comments that are ended, and those that are not
* `Tokenized`: a text and the tokens into which it is divided

## Main results

* `Tokenized.flatMap_text`: the tokens of a text hold all of it
* `exists_tokenized`: every text is divided into tokens
-/

namespace MigrationPreview

open Text

/-- A piece of a text. -/
inductive Token where
  | code (c : Char)
  /-- A string literal with its quotes. -/
  | literal (text : List Char)
  /-- A comment with its marks, the line break included that ends it. -/
  | comment (text : List Char)
  deriving DecidableEq

namespace Token

/-- The text of a token. -/
def text : Token → List Char
  | code c => [c]
  | literal text => text
  | comment text => text

@[simp] theorem text_code (c : Char) : (code c).text = [c] := rfl

@[simp] theorem text_literal (cs : List Char) : (literal cs).text = cs := rfl

@[simp] theorem text_comment (cs : List Char) : (comment cs).text = cs := rfl

/-- What may stand behind an opening quote without ending the literal: characters other than the quote
and the backslash, and pairs of a backslash and any character. -/
inductive Within (quote : Char) : List Char → Prop
  | nil : Within quote []
  | plain {c : Char} {cs : List Char} (notQuote : c ≠ quote) (notEscape : c ≠ '\\')
      (within : Within quote cs) : Within quote (c :: cs)
  | escaped {c : Char} {cs : List Char} (within : Within quote cs) : Within quote ('\\' :: c :: cs)

/-- The marks with which a comment begins that ends with its line. -/
def lineMarks : List (List Char) := [['#'], ['/', '/']]

/-- The literals and comments that are ended. -/
inductive Complete : Token → Prop
  | literal {quote : Char} {inner : List Char} (isQuote : Call.isQuote quote)
      (within : Within quote inner) : Complete (.literal (quote :: (inner ++ [quote])))
  | lineComment {mark inner : List Char} (isMark : mark ∈ lineMarks) (oneLine : '\n' ∉ inner) :
      Complete (.comment (mark ++ (inner ++ ['\n'])))
  | blockComment {inner : List Char} (unended : ¬ ['*', '/'] <:+: inner) :
      Complete (.comment ('/' :: '*' :: (inner ++ ['*', '/'])))

/-- The literals and comments that reach to the end of the text because nothing ends them. -/
inductive Unended : Token → Prop
  | literal {quote : Char} {inner : List Char} (isQuote : Call.isQuote quote)
      (within : Within quote inner) : Unended (.literal (quote :: inner))
  /-- The text ends behind a backslash in a literal. -/
  | escape {quote : Char} {inner : List Char} (isQuote : Call.isQuote quote)
      (within : Within quote inner) : Unended (.literal (quote :: (inner ++ ['\\'])))
  | lineComment {mark inner : List Char} (isMark : mark ∈ lineMarks) (oneLine : '\n' ∉ inner) :
      Unended (.comment (mark ++ inner))
  | blockComment {inner : List Char} (unended : ¬ ['*', '/'] <:+: inner) :
      Unended (.comment ('/' :: '*' :: inner))

/-- Neither a literal nor a comment begins with `c` in front of `rest`. -/
structure IsCode (c : Char) (rest : List Char) : Prop where
  notQuote : Call.isQuote c = false
  notHash : c ≠ '#'
  notComment : c = '/' → ∀ d ∈ rest.head?, d ≠ '/' ∧ d ≠ '*'

end Token

/-- A text and the tokens into which it is divided. -/
inductive Tokenized : List Char → List Token → Prop
  | nil : Tokenized [] []
  | code {c : Char} {rest : List Char} {tokens : List Token} (isCode : Token.IsCode c rest)
      (behind : Tokenized rest tokens) : Tokenized (c :: rest) (.code c :: tokens)
  | complete {token : Token} {rest : List Char} {tokens : List Token} (complete : token.Complete)
      (behind : Tokenized rest tokens) : Tokenized (token.text ++ rest) (token :: tokens)
  | unended {token : Token} (unended : token.Unended) : Tokenized token.text [token]

/-- The tokens of a text hold all of it. -/
theorem Tokenized.flatMap_text {cs : List Char} {tokens : List Token} (h : Tokenized cs tokens) :
    tokens.flatMap Token.text = cs := by
  induction h with
  | nil => rfl
  | code _ _ ih | complete _ _ ih => simp [ih]
  | unended => exact List.flatMap_singleton ..

/-! ### Every text is divided into tokens -/

namespace Token

/-- Behind an opening quote the literal is ended, or it reaches to the end of the text. -/
theorem exists_within (quote : Char) : ∀ cs : List Char,
    (∃ inner rest, Within quote inner ∧ cs = inner ++ quote :: rest) ∨
      Within quote cs ∨ ∃ inner, Within quote inner ∧ cs = inner ++ ['\\']
  | [] => .inr (.inl .nil)
  | c :: cs => by
    by_cases hquote : c = quote
    · exact .inl ⟨[], cs, .nil, by rw [hquote]; rfl⟩
    by_cases hescape : c = '\\'
    · subst hescape
      cases cs with
      | nil => exact .inr (.inr ⟨[], .nil, rfl⟩)
      | cons d cs =>
        rcases exists_within quote cs with ⟨inner, rest, hinner, rfl⟩ | hcs | ⟨inner, hinner, rfl⟩
        · exact .inl ⟨'\\' :: d :: inner, rest, hinner.escaped, rfl⟩
        · exact .inr (.inl hcs.escaped)
        · exact .inr (.inr ⟨'\\' :: d :: inner, hinner.escaped, rfl⟩)
    · rcases exists_within quote cs with ⟨inner, rest, hinner, rfl⟩ | hcs | ⟨inner, hinner, rfl⟩
      · exact .inl ⟨c :: inner, rest, hinner.plain hquote hescape, rfl⟩
      · exact .inr (.inl (hcs.plain hquote hescape))
      · exact .inr (.inr ⟨c :: inner, hinner.plain hquote hescape, rfl⟩)

/-- A text that holds `*/` is divided by the first one. -/
theorem exists_first_of_isInfix {cs : List Char} (h : ['*', '/'] <:+: cs) :
    ∃ inner rest, ¬ ['*', '/'] <:+: inner ∧ cs = inner ++ ['*', '/'] ++ rest := by
  induction cs with
  | nil => simp at h
  | cons c cs ih =>
    by_cases hfirst : ['*', '/'] <+: c :: cs
    · obtain ⟨rest, hrest⟩ := hfirst
      exact ⟨[], rest, by simp, hrest.symm⟩
    · obtain ⟨inner, rest, hinner, rfl⟩ := ih ((List.infix_cons_iff.mp h).resolve_left hfirst)
      refine ⟨c :: inner, rest, fun hcons => ?_, by simp⟩
      rcases List.infix_cons_iff.mp hcons with hbegins | hinfix
      · exact hfirst (hbegins.trans ⟨['*', '/'] ++ rest, by simp⟩)
      · exact hinner hinfix

/-- A literal or a comment that begins a text is ended in it or reaches to its end. -/
def Opens (cs : List Char) : Prop :=
  (∃ token rest, Complete token ∧ cs = token.text ++ rest) ∨ ∃ token, Unended token ∧ cs = token.text

theorem opens_quote {quote : Char} (hquote : Call.isQuote quote) (cs : List Char) :
    Opens (quote :: cs) := by
  rcases exists_within quote cs with ⟨inner, rest, hinner, rfl⟩ | hcs | ⟨inner, hinner, rfl⟩
  · exact .inl ⟨_, rest, .literal hquote hinner, by simp⟩
  · exact .inr ⟨_, .literal hquote hcs, rfl⟩
  · exact .inr ⟨_, .escape hquote hinner, rfl⟩

theorem opens_lineMark {mark : List Char} (hmark : mark ∈ lineMarks) (cs : List Char) :
    Opens (mark ++ cs) := by
  by_cases hbreak : '\n' ∈ cs
  · obtain ⟨inner, rest, rfl, hinner⟩ := List.eq_append_cons_of_mem hbreak
    exact .inl ⟨_, rest, .lineComment hmark hinner, by simp⟩
  · exact .inr ⟨_, .lineComment hmark hbreak, rfl⟩

theorem opens_blockMark (cs : List Char) : Opens ('/' :: '*' :: cs) := by
  by_cases hend : ['*', '/'] <:+: cs
  · obtain ⟨inner, rest, hinner, rfl⟩ := exists_first_of_isInfix hend
    exact .inl ⟨_, rest, .blockComment hinner, by simp⟩
  · exact .inr ⟨_, .blockComment hend, rfl⟩

theorem isCode_or_opens (c : Char) (cs : List Char) : IsCode c cs ∨ Opens (c :: cs) := by
  by_cases hquote : Call.isQuote c
  · exact .inr (opens_quote hquote cs)
  by_cases hhash : c = '#'
  · subst hhash
    exact .inr (show Opens (['#'] ++ cs) from opens_lineMark (by decide) cs)
  by_cases hslash : c = '/'
  · subst hslash
    cases cs with
    | nil => exact .inl ⟨rfl, by decide, by simp⟩
    | cons d cs =>
      by_cases hline : d = '/'
      · subst hline
        exact .inr (show Opens (['/', '/'] ++ cs) from opens_lineMark (by decide) cs)
      by_cases hblock : d = '*'
      · subst hblock
        exact .inr (opens_blockMark cs)
      · exact .inl ⟨rfl, by decide, by simp [hline, hblock]⟩
  · exact .inl ⟨by simpa using hquote, hhash, fun h => absurd h hslash⟩

theorem Complete.text_ne_nil {token : Token} (h : token.Complete) : token.text ≠ [] := by
  cases h <;> simp

/-- The characters with which literals and comments begin. -/
def openers : List Char := ['\x27', '"', '#', '/']

theorem mem_openers_of_isQuote {quote : Char} (h : Call.isQuote quote) : quote ∈ openers := by
  simp only [Call.isQuote, Bool.or_eq_true, beq_iff_eq] at h
  simp only [openers, List.mem_cons]
  tauto

theorem head?_lineMark_append {mark : List Char} (h : mark ∈ lineMarks) (cs : List Char) :
    ∃ c ∈ openers, (mark ++ cs).head? = some c := by
  have hmark : mark = ['#'] ∨ mark = ['/', '/'] := by simpa [lineMarks] using h
  rcases hmark with rfl | rfl
  · exact ⟨'#', by decide, rfl⟩
  · exact ⟨'/', by decide, rfl⟩

theorem Complete.exists_opener {token : Token} (h : token.Complete) :
    ∃ c ∈ openers, token.text.head? = some c := by
  cases h with
  | literal hquote => exact ⟨_, mem_openers_of_isQuote hquote, rfl⟩
  | lineComment hmark => exact head?_lineMark_append hmark _
  | blockComment => exact ⟨'/', by decide, rfl⟩

theorem Unended.exists_opener {token : Token} (h : token.Unended) :
    ∃ c ∈ openers, token.text.head? = some c := by
  cases h with
  | literal hquote | escape hquote => exact ⟨_, mem_openers_of_isQuote hquote, rfl⟩
  | lineComment hmark => exact head?_lineMark_append hmark _
  | blockComment => exact ⟨'/', by decide, rfl⟩

end Token

/-- With any other character no literal and no comment begins, so that it is a token of its own. -/
theorem Tokenized.exists_of_cons {c : Char} {cs : List Char} {tokens : List Token}
    (h : Tokenized (c :: cs) tokens) (hc : c ∉ Token.openers) :
    ∃ behind, tokens = .code c :: behind ∧ Tokenized cs behind := by
  generalize heq : c :: cs = text at h
  cases h with
  | nil => simp at heq
  | code _ hbehind =>
    obtain ⟨rfl, rfl⟩ := List.cons.inj heq
    exact ⟨_, rfl, hbehind⟩
  | @complete token rest tokens hcomplete hbehind =>
    obtain ⟨d, hd, hhead⟩ := hcomplete.exists_opener
    have hfirst : some c = some d := by
      rw [← hhead, ← List.head?_append_of_ne_nil _ hcomplete.text_ne_nil, ← heq]
      rfl
    exact absurd (Option.some_inj.mp hfirst ▸ hd) hc
  | unended hunended =>
    obtain ⟨d, hd, hhead⟩ := hunended.exists_opener
    rw [← heq] at hhead
    exact absurd (Option.some_inj.mp hhead ▸ hd) hc

/-- Every text is divided into tokens. By induction on its length, what stands behind its first token is
divided. -/
theorem exists_tokenized (cs : List Char) : ∃ tokens, Tokenized cs tokens := by
  induction hlength : cs.length using Nat.strong_induction_on generalizing cs with
  | h n ih =>
    subst hlength
    cases cs with
    | nil => exact ⟨[], .nil⟩
    | cons c cs =>
      rcases Token.isCode_or_opens c cs with hcode | ⟨token, rest, htoken, heq⟩ | ⟨token, htoken, heq⟩
      · obtain ⟨tokens, htokens⟩ := ih cs.length (Nat.lt_succ_self _) cs rfl
        exact ⟨.code c :: tokens, .code hcode htokens⟩
      · have hpos := List.length_pos_iff.mpr htoken.text_ne_nil
        obtain ⟨tokens, htokens⟩ := ih rest.length (by rw [heq, List.length_append]; omega) rest rfl
        exact ⟨token :: tokens, heq ▸ .complete htoken htokens⟩
      · exact ⟨[token], heq ▸ .unended htoken⟩

end MigrationPreview
