import Mathlib.Data.List.Chain
import MigrationPreview.Proofs.Body

/-!
# Comments in a method body

The scanner that looks for the closing brace of a body also tells which of its characters stand in
comments. Here these characters are marked and then replaced by blanks, line breaks apart. The scanner
passes over the text that is left just as it did over the comments, so a body stays closed.

## Main results

* `Lexical.mark`: a text with the characters of its comments marked
* `Marked.code`: a marked text with blanks in place of its comments
* `beforeClosing_code`: without its comments a body ends at the same brace
* `isChain_mark`: a comment begins behind a blank or with one of its own characters
-/

namespace MigrationPreview

open Text

/-- A text in which the characters of comments are marked. -/
abbrev Marked := List (Char × Bool)

namespace Marked

/-- The text without its marks. -/
def text (marked : Marked) : List Char := marked.map Prod.fst

/-- The text with a blank in place of every marked character. -/
def code (marked : Marked) : List Char := marked.map fun x => if x.2 then ' ' else x.1

@[simp] theorem text_nil : text [] = [] := rfl

@[simp] theorem text_cons (x : Char × Bool) (marked : Marked) :
    text (x :: marked) = x.1 :: text marked := rfl

@[simp] theorem text_append (marked marked' : Marked) :
    text (marked ++ marked') = text marked ++ text marked' := List.map_append

@[simp] theorem code_nil : code [] = [] := rfl

@[simp] theorem code_cons (x : Char × Bool) (marked : Marked) :
    code (x :: marked) = (if x.2 then ' ' else x.1) :: code marked := rfl

@[simp] theorem code_append (marked marked' : Marked) :
    code (marked ++ marked') = code marked ++ code marked' := List.map_append

theorem text_take (marked : Marked) (count : Nat) :
    text (marked.take count) = marked.text.take count := List.map_take

theorem code_take (marked : Marked) (count : Nat) :
    code (marked.take count) = marked.code.take count := List.map_take

theorem code_drop (marked : Marked) (count : Nat) :
    code (marked.drop count) = marked.code.drop count := List.map_drop

@[simp] theorem length_code (marked : Marked) : marked.code.length = marked.text.length := by
  simp [code, text]

end Marked

/-! ### Marking -/

namespace Lexical

/-- Whether the scanner stands in a comment. -/
def isComment : Lexical → Bool
  | .lineComment => true
  | .blockComment _ => true
  | _ => false

/-- What the scanner stands in once comments are blank. -/
def withoutComment : Lexical → Lexical
  | .lineComment => .code
  | .blockComment _ => .code
  | state => state

/-- Marks the characters of comments, line breaks apart. -/
def mark : Lexical → List Char → Marked
  | _, [] => []
  | .code, '#' :: cs => ('#', true) :: mark .lineComment cs
  | .code, '/' :: '/' :: cs => ('/', true) :: ('/', true) :: mark .lineComment cs
  | .code, '/' :: '*' :: cs => ('/', true) :: ('*', true) :: mark (.blockComment false) cs
  | state, c :: cs => (c, state.isComment && c != '\n') :: mark (state.next c) cs

@[simp] theorem text_mark (state : Lexical) (cs : List Char) : (mark state cs).text = cs := by
  fun_induction mark state cs <;> simp_all

/-- Line breaks are never marked. -/
theorem newline_notMem_mark (state : Lexical) (cs : List Char) : ('\n', true) ∉ mark state cs := by
  fun_induction mark state cs with
  | case1 => exact List.not_mem_nil
  | case2 cs ih => simpa using ih
  | case3 cs ih => simpa using ih
  | case4 cs ih => simpa using ih
  | case5 state c cs _ _ _ ih =>
    simp only [List.mem_cons, not_or]
    refine ⟨fun heq => ?_, ih⟩
    obtain ⟨rfl, hmark⟩ := Prod.mk.inj heq
    simp at hmark

end Lexical

/-- Next to each other stand two characters of which the second begins no comment, or the first is
blank, or the second is one with which comments begin. -/
def Marked.Begun (x y : Char × Bool) : Prop :=
  x.2 = false → y.2 = true → isBlank x.1 = true ∨ y.1 = '#' ∨ y.1 = '/'

/-- Outside of comments, what is marked first is the beginning of a comment. -/
theorem eq_of_head?_mark {state : Lexical} (hstate : state.isComment = false) {cs : List Char}
    {c : Char} (h : (state.mark cs).head? = some (c, true)) : c = '#' ∨ c = '/' := by
  unfold Lexical.mark at h
  split at h
  · simp at h
  · exact .inl (Prod.mk.inj (Option.some_inj.mp h)).1.symm
  · exact .inr (Prod.mk.inj (Option.some_inj.mp h)).1.symm
  · exact .inr (Prod.mk.inj (Option.some_inj.mp h)).1.symm
  · simp [hstate] at h

theorem isComment_next {state : Lexical} (hstate : state.isComment = false) (c : Char) :
    (state.next c).isComment = false := by
  cases state with
  | code => by_cases hc : c = '"' ∨ c = '\x27' <;> simp [Lexical.next, hc, Lexical.isComment]
  | literal quote escaped =>
    cases escaped
    · by_cases hescape : c = '\\'
      · simp [Lexical.next, hescape, Lexical.isComment]
      · by_cases hc : c = quote <;> simp_all [Lexical.next, Lexical.isComment]
    · rfl
  | lineComment => simp [Lexical.isComment] at hstate
  | blockComment star => simp [Lexical.isComment] at hstate

namespace Lexical

theorem ne_code_of_isComment {state : Lexical} (h : state.isComment = true) : state ≠ .code := by
  rintro rfl
  cases h

/-- What is left of a character of a comment is a blank or a line break. -/
theorem isBlank_of_isComment {state : Lexical} (h : state.isComment = true) (c : Char) :
    isBlank (if (state.isComment && c != '\n') = true then ' ' else c) = true := by
  rw [h, Bool.true_and]
  split
  · decide
  · next hbreak =>
    obtain rfl : c = '\n' := by simpa using hbreak
    decide

theorem withoutComment_eq {state : Lexical} (h : state.isComment = false) :
    state.withoutComment = state := by
  cases state <;> simp_all [withoutComment, isComment]

theorem withoutComment_eq_code {state : Lexical} (h : state.isComment = true) :
    state.withoutComment = .code := by
  cases state <;> simp_all [withoutComment, isComment]

theorem withoutComment_next {state : Lexical} (h : state.isComment = true) (c : Char) :
    (state.next c).withoutComment = .code := by
  cases state with
  | code => simp [isComment] at h
  | literal quote escaped => simp [isComment] at h
  | lineComment => by_cases hc : c = '\n' <;> simp [next, hc, withoutComment]
  | blockComment star =>
    by_cases hc : star = true ∧ c = '/' <;> simp [next, hc, withoutComment]

end Lexical

/-- A comment begins behind a blank or with one of its own characters. -/
theorem isChain_mark (state : Lexical) (cs : List Char) :
    (state.mark cs).IsChain Marked.Begun := by
  have hmarked : ∀ (c : Char) (y : Char × Bool), Marked.Begun (c, true) y :=
    fun _ _ h => absurd h (by simp)
  fun_induction Lexical.mark state cs with
  | case1 => exact List.isChain_nil
  | case2 cs ih => exact ih.cons fun y _ => hmarked _ y
  | case3 cs ih =>
    refine (ih.cons fun y _ => hmarked _ y).cons fun y _ => hmarked _ y
  | case4 cs ih =>
    refine (ih.cons fun y _ => hmarked _ y).cons fun y _ => hmarked _ y
  | case5 state c cs _ _ _ ih =>
    refine ih.cons fun y hy hfirst hsecond => ?_
    cases hstate : state.isComment with
    | true =>
      -- in a comment only a line break is not marked
      rw [hstate, Bool.true_and] at hfirst
      obtain rfl : c = '\n' := by simpa using hfirst
      exact .inl (by decide)
    | false =>
      obtain ⟨d, marked⟩ := y
      obtain rfl : marked = true := hsecond
      exact .inr (eq_of_head?_mark (isComment_next hstate c) hy)

/-! ### The closing brace -/

theorem eq_some_of_map_cons {c : Char} {x : Option (List Char)} {cs : List Char}
    (h : x.map (c :: ·) = some (c :: cs)) : x = some cs := by
  obtain ⟨ds, hx, heq⟩ := Option.map_eq_some_iff.mp h
  rw [hx, (List.cons.inj heq).2]

theorem beforeClosing_eq_some {state state' : Lexical} {depth depth' : Nat} {c : Char}
    {cs ds : List Char}
    (hstep : beforeClosing state depth (c :: cs) = (beforeClosing state' depth' cs).map (c :: ·))
    (h : beforeClosing state' depth' cs = some ds) :
    beforeClosing state depth (c :: cs) = some (c :: ds) := by
  rw [hstep, h, Option.map_some]

/-- A blank is passed over in code. -/
theorem beforeClosing_blank {c : Char} (hc : isBlank c = true) (depth : Nat) (cs : List Char) :
    beforeClosing .code depth (c :: cs) = (beforeClosing .code depth cs).map (c :: ·) := by
  have hnext : Lexical.next .code c = .code :=
    if_neg (not_or.mpr ⟨ne_of_isBlank hc (by decide), ne_of_isBlank hc (by decide)⟩)
  rw [beforeClosing_cons depth (Lexical.plain_of_isBlank hc), hnext]

/-- Once comments are blank a plain character begins no comment either. -/
theorem Lexical.Plain.code {state : Lexical} {c : Char} {marked : Marked}
    (h : state.Plain c marked.text) : state.Plain c marked.code := by
  refine h.of_head? fun d hd => ?_
  cases marked with
  | nil => cases hd
  | cons x marked =>
    rw [Marked.code_cons, List.head?_cons, Option.mem_some_iff] at hd
    rw [← hd]
    split
    · exact .inr (by decide)
    · exact .inl rfl

/-- A plain character at the end of a body is plain in front of the closing brace. -/
theorem Lexical.Plain.append_brace {state : Lexical} {c : Char} {cs : List Char} (h : state.Plain c cs)
    (after : List Char) : state.Plain c (cs ++ '\x7d' :: after) := by
  refine h.of_head? fun d hd => ?_
  cases cs with
  | nil =>
    obtain rfl : '\x7d' = d := Option.some_inj.mp hd
    exact .inr (by decide)
  | cons e cs => exact .inl hd

/-- Without its comments, a text is closed by the same brace. -/
theorem beforeClosing_code {state : Lexical} {depth : Nat} {cs after : List Char}
    (h : beforeClosing state depth (cs ++ '\x7d' :: after) = some cs) (after' : List Char) :
    beforeClosing state.withoutComment depth ((state.mark cs).code ++ '\x7d' :: after') =
      some (state.mark cs).code := by
  fun_induction Lexical.mark state cs generalizing depth with
  | case1 state =>
    cases state with
    | code =>
      cases depth with
      | zero => rfl
      | succ depth => simp [beforeClosing] at h
    | literal | lineComment | blockComment => simp [beforeClosing] at h
  | case2 cs ih =>
    exact beforeClosing_eq_some (beforeClosing_blank (by decide) _ _) (ih (eq_some_of_map_cons h))
  | case3 cs ih | case4 cs ih =>
    obtain ⟨ds, hds, heq⟩ := Option.map_eq_some_iff.mp h
    rw [(List.cons.inj (List.cons.inj heq).2).2] at hds
    exact beforeClosing_eq_some (beforeClosing_blank (by decide) _ _)
      (beforeClosing_eq_some (beforeClosing_blank (by decide) _ _) (ih hds))
  | case5 state c cs hhash hline hblock ih =>
    rw [List.cons_append] at h
    by_cases hcomment : state.isComment = true
    · -- what is left of a character of a comment is passed over as code
      have hblank := Lexical.isBlank_of_isComment hcomment c
      rw [beforeClosing_cons depth (Lexical.plain_of_ne_code (Lexical.ne_code_of_isComment hcomment))] at h
      have hrest := ih (eq_some_of_map_cons h)
      rw [Lexical.withoutComment_next hcomment c] at hrest
      rw [Lexical.withoutComment_eq_code hcomment]
      exact beforeClosing_eq_some (beforeClosing_blank hblank depth _) hrest
    have hstate : state.isComment = false := by simpa using hcomment
    rw [Lexical.withoutComment_eq hstate]
    by_cases hopen : state = .code ∧ c = '\x7b'
    · obtain ⟨rfl, rfl⟩ := hopen
      exact beforeClosing_eq_some rfl (ih (eq_some_of_map_cons h))
    by_cases hclose : state = .code ∧ c = '\x7d'
    · obtain ⟨rfl, rfl⟩ := hclose
      cases depth with
      | zero => simp [beforeClosing] at h
      | succ depth => exact beforeClosing_eq_some rfl (ih (eq_some_of_map_cons h))
    have hplain : state.Plain c cs := Lexical.plain_of_cases depth hhash hline hblock
      (fun hcode hc => hopen ⟨hcode, hc⟩) (fun hcode _ hc => hclose ⟨hcode, hc⟩)
      (fun _ hcode _ hc => hclose ⟨hcode, hc⟩)
    have hplain' : state.Plain c ((state.next c).mark cs).code := Lexical.Plain.code (by rwa [Lexical.text_mark])
    rw [beforeClosing_cons depth (hplain.append_brace after)] at h
    have hrest := ih (eq_some_of_map_cons h)
    rw [Lexical.withoutComment_eq (isComment_next hstate c)] at hrest
    simp only [hstate, Bool.false_and]
    exact beforeClosing_eq_some
      (beforeClosing_cons depth (hplain'.append_brace after')) hrest

/-! ### Texts without a closing brace -/

/-- Whether what is marked are comments to the scanner, each as a whole. The flag tells whether the comment in
which it stands is marked. -/
def Marked.WholeComments : Lexical → Bool → Marked → Bool
  | _, _, [] => true
  | .code, _, ('#', flag) :: marked => WholeComments .lineComment flag marked
  | .code, _, ('/', flag) :: ('/', flag') :: marked =>
    flag == flag' && WholeComments .lineComment flag marked
  | .code, _, ('/', flag) :: ('*', flag') :: marked =>
    flag == flag' && WholeComments (.blockComment false) flag marked
  | state, within, (c, flag) :: marked =>
    flag == (state.isComment && within && c != '\n') && WholeComments (state.next c) within marked

/-- What the scanner stands in once the marked comments are blank. -/
def Lexical.behind (state : Lexical) (within : Bool) : Lexical :=
  if within then state.withoutComment else state

theorem Lexical.behind_code (within : Bool) : Lexical.behind .code within = .code := by
  cases within <;> rfl

/-- Outside of marked comments the scanner stands in what it stood in. -/
theorem Lexical.behind_eq {state : Lexical} {within : Bool} (h : (state.isComment && within) = false) :
    state.behind within = state ∧ ∀ c, (state.next c).behind within = state.next c := by
  cases within with
  | false => exact ⟨rfl, fun _ => rfl⟩
  | true =>
    rw [Bool.and_true] at h
    exact ⟨withoutComment_eq h, fun c => withoutComment_eq (isComment_next h c)⟩

theorem isSome_beforeClosing_cons {state : Lexical} {c : Char} {cs : List Char} (depth : Nat)
    (h : state.Plain c cs) :
    (beforeClosing state depth (c :: cs)).isSome = (beforeClosing (state.next c) depth cs).isSome := by
  rw [beforeClosing_cons depth h, Option.isSome_map]

theorem isSome_beforeClosing_blank {c : Char} (hc : isBlank c = true) (depth : Nat) (cs : List Char) :
    (beforeClosing .code depth (c :: cs)).isSome = (beforeClosing .code depth cs).isSome := by
  rw [beforeClosing_blank hc, Option.isSome_map]

/-- A character that is not marked is one to the scanner with and without the comments behind it. -/
theorem isSome_beforeClosing_unmarked {state : Lexical} {c : Char} {marked : Marked}
    (hrest : ∀ depth, (beforeClosing (state.next c) depth marked.code).isSome =
      (beforeClosing (state.next c) depth marked.text).isSome)
    (hplain : (state = .code → c ≠ '\x7b') → (state = .code → c ≠ '\x7d') → state.Plain c marked.text)
    (depth : Nat) : (beforeClosing state depth (c :: marked.code)).isSome =
      (beforeClosing state depth (c :: marked.text)).isSome := by
  by_cases hopen : state = .code ∧ c = '\x7b'
  · obtain ⟨rfl, rfl⟩ := hopen
    have hrest := hrest (depth + 1)
    rw [show Lexical.next .code '\x7b' = .code from rfl] at hrest
    simpa [beforeClosing] using hrest
  by_cases hclose : state = .code ∧ c = '\x7d'
  · obtain ⟨rfl, rfl⟩ := hclose
    cases depth with
    | zero => rfl
    | succ depth =>
      have hrest := hrest depth
      rw [show Lexical.next .code '\x7d' = .code from rfl] at hrest
      simpa [beforeClosing] using hrest
  have hplain := hplain (fun hcode hc => hopen ⟨hcode, hc⟩) (fun hcode hc => hclose ⟨hcode, hc⟩)
  rw [isSome_beforeClosing_cons depth hplain, isSome_beforeClosing_cons depth hplain.code, hrest depth]

/-- With blanks in place of whole comments a text is closed if and only if it is closed with them. -/
theorem isSome_beforeClosing_code {state : Lexical} {within : Bool} {marked : Marked}
    (h : marked.WholeComments state within = true) (depth : Nat) :
    (beforeClosing (state.behind within) depth marked.code).isSome =
      (beforeClosing state depth marked.text).isSome := by
  fun_induction Marked.WholeComments state within marked generalizing depth with
  | case1 => rw [Marked.code_nil, Marked.text_nil, beforeClosing, beforeClosing]
  | case2 within flag marked ih =>
    have ih := ih h depth
    rw [Marked.code_cons, Marked.text_cons, Lexical.behind_code]
    cases flag with
    | false => simpa [beforeClosing, Lexical.behind] using ih
    | true =>
      rw [if_pos rfl, isSome_beforeClosing_blank (by decide)]
      simpa [beforeClosing, Lexical.behind, Lexical.withoutComment] using ih
  | case3 within flag flag' marked ih | case4 within flag flag' marked ih =>
    rw [Bool.and_eq_true, beq_iff_eq] at h
    obtain ⟨rfl, h⟩ := h
    have ih := ih h depth
    rw [Marked.code_cons, Marked.code_cons, Marked.text_cons, Marked.text_cons, Lexical.behind_code]
    cases flag with
    | false => simpa [beforeClosing, Lexical.behind] using ih
    | true =>
      dsimp only
      rw [if_pos rfl, isSome_beforeClosing_blank (by decide), isSome_beforeClosing_blank (by decide)]
      simpa [beforeClosing, Lexical.behind, Lexical.withoutComment] using ih
  | case5 state within c flag marked hhash hline hblock ih =>
    rw [Bool.and_eq_true, beq_iff_eq] at h
    obtain ⟨rfl, h⟩ := h
    have ih := ih h
    rw [Marked.code_cons, Marked.text_cons]
    by_cases hwithin : (state.isComment && within) = true
    · -- what is left of a character of a marked comment is passed over as code
      obtain ⟨hcomment, rfl⟩ := Bool.and_eq_true_iff.mp hwithin
      have hblank := Lexical.isBlank_of_isComment hcomment c
      have hbehind : state.behind true = .code := Lexical.withoutComment_eq_code hcomment
      have hnext : (state.next c).behind true = .code := Lexical.withoutComment_next hcomment c
      have hplain : state.Plain c (Marked.text marked) :=
        Lexical.plain_of_ne_code (Lexical.ne_code_of_isComment hcomment)
      rw [hnext] at ih
      rw [hbehind, Bool.and_true, isSome_beforeClosing_blank hblank, ih depth,
        isSome_beforeClosing_cons depth hplain]
    -- all other characters stay as they are
    rw [Bool.not_eq_true] at hwithin
    obtain ⟨hbehind, hnext⟩ := Lexical.behind_eq hwithin
    rw [hnext] at ih
    rw [hbehind, hwithin, Bool.false_and, if_neg Bool.false_ne_true]
    refine isSome_beforeClosing_unmarked ih (fun hopen hclose => ?_) depth
    have hbegins : ∀ d, (∀ flag rest, state = .code → marked = (d, flag) :: rest → c = '/' → False) →
        ∀ cs, state = .code → c = '/' → Marked.text marked ≠ d :: cs := by
      intro d hno cs hcode hc heq
      obtain ⟨⟨d, flag⟩, rest, rfl, rfl, -⟩ := List.map_eq_cons_iff.mp heq
      exact hno flag rest hcode rfl hc
    exact Lexical.plain_of_cases 0 hhash (hbegins '/' hline) (hbegins '*' hblock) hopen
      (fun hcode _ => hclose hcode) (fun _ hcode _ => hclose hcode)

end MigrationPreview
