import Mathlib.Data.List.Infix
import Mathlib.Data.List.TakeWhile
import MigrationPreview.Text.Blank
import MigrationPreview.Text.Search
import MigrationPreview.Text.Word

/-!
# Laws of blanks, searches and lines

Texts are lists of characters. Trimming and searching only ever give parts of a text, and a part of a
text that lies within one line of it lies within one line of every text around it, whose number is
found by counting line breaks.

## Main results

* `Text.isInfix_trim`: a trimmed text is a part of the text
* `Text.firstMatch_eq_some_iff`: a search finds what its reader finds at the leftmost place
* `Text.exists_line_of_getElem?_splitOn`: the number of a line in a larger text
* `Text.exists_segment_of_getElem?_splitOn`: a line as a segment of its text
-/

namespace MigrationPreview.Text

variable {α : Type} {read : List Char → Option α} {cs ds pre rest : List Char}

/-- What is said of the characters of a text is decided by going through the text, and not through all
characters that there are. -/
instance decidableForallMem (cs : List Char) (p : Char → Prop) [DecidablePred p] :
    Decidable (∀ c ∈ cs, p c) :=
  List.decidableBAll p cs

/-! ### Blanks -/

theorem skipBlanks_suffix (cs : List Char) : skipBlanks cs <:+ cs := List.dropWhile_suffix _

/-- What is skipped in front of a text is blank. -/
theorem exists_blanks_append_skipBlanks (cs : List Char) :
    ∃ blanks : List Char, blanks.all isBlank ∧ cs = blanks ++ skipBlanks cs :=
  ⟨cs.takeWhile isBlank, List.all_takeWhile, List.takeWhile_append_dropWhile.symm⟩

theorem skipBlanks_append {blanks : List Char} (h : blanks.all isBlank) (cs : List Char) :
    skipBlanks (blanks ++ cs) = skipBlanks cs :=
  List.dropWhile_append_of_pos (List.all_eq_true.mp h)

theorem skipBlanks_cons_of_not_isBlank {c : Char} (h : isBlank c = false) (cs : List Char) :
    skipBlanks (c :: cs) = c :: cs :=
  List.dropWhile_cons_of_neg (by simp [h])

/-- A text that neither begins nor ends with a blank is what is left of it between blanks. -/
theorem trim_append {blanks : List Char} (hblanks : blanks.all isBlank)
    (hfirst : ∀ c ∈ cs.head?, isBlank c = false) (hlast : ∀ c ∈ cs.getLast?, isBlank c = false) :
    trim (blanks ++ cs) = cs := by
  have hskip : skipBlanks cs = cs := by
    cases cs with
    | nil => rfl
    | cons c cs => exact skipBlanks_cons_of_not_isBlank (hfirst c rfl) cs
  rw [trim, skipBlanks_append hblanks, hskip, trimEnd]
  cases hreverse : cs.reverse with
  | nil =>
    rw [List.reverse_eq_nil_iff.mp hreverse]
    rfl
  | cons c ds =>
    have hc : isBlank c = false := hlast c (by rw [← List.head?_reverse, hreverse]; rfl)
    rw [List.dropWhile_cons_of_neg (by simp [hc]), ← hreverse, List.reverse_reverse]

theorem trim_append_blanks {blanks : List Char} (h : blanks.all isBlank) (cs : List Char) :
    trim (cs ++ blanks) = trim cs := by
  have hblanks := List.all_eq_true.mp h
  rw [trim, trim, skipBlanks, skipBlanks, List.dropWhile_append]
  split
  · next hcs =>
    rw [List.isEmpty_iff.mp hcs, List.dropWhile_eq_nil_iff.mpr hblanks]
  · rw [trimEnd, trimEnd, List.reverse_append,
      List.dropWhile_append_of_pos fun c hc => hblanks c (List.mem_reverse.mp hc)]

theorem ne_of_isBlank {c d : Char} (h : isBlank c = true) (hd : isBlank d = false) : c ≠ d := by
  rintro rfl
  rw [h] at hd
  exact absurd hd (by decide)

/-- No blank character may stand in a word. -/
theorem isWord_of_isBlank {c : Char} (h : isBlank c = true) : isWord c = false := by
  have hcodes : ∀ n ∈ [0x09, 0x0A, 0x0B, 0x0C, 0x0D, 0x20, 0x85, 0xA0, 0x1680, 0x2000, 0x2001, 0x2002,
      0x2003, 0x2004, 0x2005, 0x2006, 0x2007, 0x2008, 0x2009, 0x200A, 0x2028, 0x2029, 0x202F, 0x205F,
      0x3000], isWord (Char.ofNat n) = false := by decide +kernel
  rw [← Char.ofNat_toNat c]
  apply hcodes
  simp only [isBlank, Bool.or_eq_true, Bool.and_eq_true, decide_eq_true_eq, beq_iff_eq] at h
  simp only [List.mem_cons, List.not_mem_nil, or_false]
  omega

theorem isPrefix_trimEnd (cs : List Char) : trimEnd cs <+: cs := by
  have h := List.reverse_prefix.mpr (List.dropWhile_suffix isBlank (l := cs.reverse))
  rwa [List.reverse_reverse] at h

theorem isInfix_trim (cs : List Char) : trim cs <:+: cs :=
  (isPrefix_trimEnd _).isInfix.trans (skipBlanks_suffix cs).isInfix

/-! ### Searches -/

theorem firstMatch_cons (c : Char) (cs : List Char) :
    firstMatch read (c :: cs) = (read (c :: cs)).or (firstMatch read cs) := by
  rw [firstMatch]
  cases read (c :: cs) <;> rfl

theorem firstMatch_of_eq_some {found : α} (h : read cs = some found) :
    firstMatch read cs = some found := by
  cases cs with
  | nil => exact h
  | cons c cs => rw [firstMatch_cons, h, Option.some_or]

/-- A search finds what its reader finds at the leftmost place where it succeeds. -/
theorem firstMatch_eq_some_iff {found : α} :
    firstMatch read cs = some found ↔
      ∃ pre rest, cs = pre ++ rest ∧ read rest = some found ∧
        ∀ skipped, skipped ≠ [] → skipped <:+ pre → read (skipped ++ rest) = none := by
  induction cs with
  | nil =>
    constructor
    · intro h
      exact ⟨[], [], rfl, h, fun _ hne hsuffix => absurd (List.suffix_nil.mp hsuffix) hne⟩
    · rintro ⟨pre, rest, hcs, hread, -⟩
      obtain ⟨rfl, rfl⟩ := List.append_eq_nil_iff.mp hcs.symm
      exact hread
  | cons c cs ih =>
    rw [firstMatch_cons]
    constructor
    · intro h
      cases hc : read (c :: cs) with
      | some a =>
        rw [hc] at h
        exact ⟨[], c :: cs, rfl, by rw [hc]; exact h,
          fun _ hne hsuffix => absurd (List.suffix_nil.mp hsuffix) hne⟩
      | none =>
        rw [hc] at h
        obtain ⟨pre, rest, rfl, hread, hleft⟩ := ih.mp h
        refine ⟨c :: pre, rest, rfl, hread, fun skipped hne hsuffix => ?_⟩
        rcases List.suffix_cons_iff.mp hsuffix with rfl | hsuffix
        · exact hc
        · exact hleft skipped hne hsuffix
    · rintro ⟨pre, rest, hcs, hread, hleft⟩
      cases pre with
      | nil =>
        rw [show c :: cs = rest from hcs, hread]
        rfl
      | cons d pre =>
        obtain ⟨rfl, rfl⟩ : c = d ∧ cs = pre ++ rest := by simpa using hcs
        have hc : read (c :: (pre ++ rest)) = none := hleft (c :: pre) (by simp) List.suffix_rfl
        rw [hc, Option.none_or]
        exact ih.mpr ⟨pre, rest, rfl, hread, fun skipped hne hsuffix =>
          hleft skipped hne (hsuffix.trans (List.suffix_cons c pre))⟩

theorem exists_of_firstMatch {found : α} (h : firstMatch read cs = some found) :
    ∃ pre rest, cs = pre ++ rest ∧ read rest = some found := by
  obtain ⟨pre, rest, hcs, hread, -⟩ := firstMatch_eq_some_iff.mp h
  exact ⟨pre, rest, hcs, hread⟩

/-- A search fails exactly if its reader fails everywhere. -/
theorem firstMatch_eq_none_iff :
    firstMatch read cs = none ↔ ∀ rest, rest <:+ cs → read rest = none := by
  induction cs with
  | nil => simp [firstMatch]
  | cons c cs ih =>
    rw [firstMatch_cons, Option.or_eq_none_iff, ih]
    constructor
    · rintro ⟨hc, hcs⟩ rest hsuffix
      rcases List.suffix_cons_iff.mp hsuffix with rfl | hsuffix
      · exact hc
      · exact hcs rest hsuffix
    · intro h
      exact ⟨h _ List.suffix_rfl, fun rest hsuffix => h rest (hsuffix.trans (List.suffix_cons c cs))⟩

/-- A word occurs in every text of which it is a part. -/
theorem contains_of_isInfix {word : List Char} (h : word <:+: cs) : contains word cs = true := by
  obtain ⟨pre, post, rfl⟩ := h
  by_contra hnone
  rw [contains, Bool.not_eq_true, Option.isSome_eq_false_iff, Option.isNone_iff_eq_none,
    firstMatch_eq_none_iff] at hnone
  have hread := hnone (word ++ post) ⟨pre, by rw [List.append_assoc]⟩
  rw [expect_append] at hread
  exact absurd hread (by simp)

/-- A word occurs in a text exactly if it is a part of the text. -/
theorem contains_iff_isInfix {word : List Char} : contains word cs = true ↔ word <:+: cs := by
  refine ⟨fun h => ?_, contains_of_isInfix⟩
  obtain ⟨rest, hfound⟩ := Option.isSome_iff_exists.mp h
  obtain ⟨pre, start, rfl, hread⟩ := exists_of_firstMatch hfound
  exact ⟨pre, rest, by rw [eq_append_of_expect hread, List.append_assoc]⟩

/-! ### Joined texts -/

/-- A property that holds of a separator and of some texts holds of the texts joined. -/
theorem intercalate_of_append {P : List Char → Prop} (hnil : P [])
    (happend : ∀ {cs ds}, P cs → P ds → P (cs ++ ds)) {sep : List Char} (hsep : P sep)
    {texts : List (List Char)} (htexts : ∀ cs ∈ texts, P cs) : P (sep.intercalate texts) := by
  induction texts with
  | nil => exact hnil
  | cons cs texts ih =>
    have ih := ih fun ds hds => htexts ds (List.mem_cons_of_mem _ hds)
    have hcs := htexts cs List.mem_cons_self
    cases texts with
    | nil =>
      rw [List.intercalate_singleton]
      exact hcs
    | cons next texts =>
      rw [List.intercalate_cons_cons]
      exact happend (happend hcs hsep) ih

/-! ### Lines -/

/-- The line in which a text ends is continued by what follows it. -/
theorem exists_line_append {number : Nat} {line : List Char} (post : List Char)
    (h : (cs.splitOn '\n')[number]? = some line) :
    ∃ whole, ((cs ++ post).splitOn '\n')[number]? = some whole ∧ line <+: whole := by
  induction cs generalizing number line with
  | nil =>
    obtain ⟨rfl, rfl⟩ : number = 0 ∧ line = [] := by
      cases number <;> simp_all
    cases hpost : post.splitOn '\n' with
    | nil => exact absurd hpost (List.splitOn_ne_nil _ _)
    | cons whole lines => exact ⟨whole, by simp [hpost], List.nil_prefix⟩
  | cons c cs ih =>
    rw [List.cons_append, List.splitOn_cons_eq_if_modifyHead]
    rw [List.splitOn_cons_eq_if_modifyHead] at h
    split at h
    · cases number with
      | zero =>
        obtain rfl : [] = line := by simpa using h
        exact ⟨[], by simp [*], List.nil_prefix⟩
      | succ number =>
        obtain ⟨whole, hwhole, hline⟩ := ih (by simpa using h)
        exact ⟨whole, by simp [*], hline⟩
    · -- no line break: the character is put in front of the first line
      rw [List.getElem?_modifyHead] at h
      cases number with
      | zero =>
        obtain ⟨first, hfirst, rfl⟩ : ∃ first, (cs.splitOn '\n')[0]? = some first ∧
            c :: first = line := by simpa using h
        obtain ⟨whole, hwhole, hline⟩ := ih hfirst
        exact ⟨c :: whole, by simp [*], List.cons_prefix_cons.mpr ⟨rfl, hline⟩⟩
      | succ number =>
        obtain ⟨whole, hwhole, hline⟩ := ih (by simpa using h)
        exact ⟨whole, by simp [*], hline⟩

/-- A line of a text is part of a line of every larger text; its number there is greater by the
line breaks in front. -/
theorem exists_line_of_getElem?_splitOn {number : Nat} {line : List Char} (pre post : List Char)
    (h : (cs.splitOn '\n')[number]? = some line) :
    ∃ whole, ((pre ++ cs ++ post).splitOn '\n')[pre.count '\n' + number]? = some whole ∧
      line <:+: whole := by
  induction pre with
  | nil =>
    obtain ⟨whole, hwhole, hline⟩ := exists_line_append post h
    exact ⟨whole, by simpa using hwhole, hline.isInfix⟩
  | cons c pre ih =>
    obtain ⟨whole, hwhole, hline⟩ := ih
    rw [List.cons_append, List.cons_append, List.splitOn_cons_eq_if_modifyHead]
    by_cases hc : c = '\n'
    · refine ⟨whole, ?_, hline⟩
      rw [if_pos (by simpa using hc), hc, List.count_cons_self, Nat.add_right_comm,
        List.getElem?_cons_succ]
      exact hwhole
    · rw [if_neg (by simpa using hc), List.count_cons_of_ne hc, List.getElem?_modifyHead]
      by_cases hzero : pre.count '\n' + number = 0
      · exact ⟨c :: whole, by rw [if_pos hzero, hwhole]; rfl,
          hline.trans (List.suffix_cons c whole).isInfix⟩
      · exact ⟨whole, by rw [if_neg hzero]; simpa using hwhole, hline⟩

/-- A line of a text as a segment of this text; the lines up to it are those of the text that ends with
it, and the lines from it on those of the text that begins with it. -/
theorem exists_segment_of_getElem?_splitOn {number : Nat} {line : List Char}
    (h : (cs.splitOn '\n')[number]? = some line) :
    ∃ pre post, cs = pre ++ line ++ post ∧ pre.count '\n' = number ∧ '\n' ∉ line ∧
      (pre ++ line).splitOn '\n' = (cs.splitOn '\n').take (number + 1) ∧
      (line ++ post).splitOn '\n' = (cs.splitOn '\n').drop number := by
  induction number generalizing cs with
  | zero =>
    by_cases hbreak : '\n' ∈ cs
    · obtain ⟨first, rest, rfl, hfirst⟩ := List.eq_append_cons_of_mem hbreak
      have hsplit := List.splitOn_eq_singleton hfirst
      rw [List.splitOn_append_cons_self, hsplit] at h ⊢
      obtain rfl : first = line := by simpa using h
      refine ⟨[], '\n' :: rest, rfl, rfl, hfirst, by simpa using hsplit, ?_⟩
      rw [List.splitOn_append_cons_self, hsplit, List.drop_zero]
    · have hsplit := List.splitOn_eq_singleton hbreak
      rw [hsplit] at h ⊢
      obtain rfl : cs = line := by simpa using h
      exact ⟨[], [], by simp, rfl, hbreak, by simpa using hsplit, by simpa using hsplit⟩
  | succ number ih =>
    -- a text with a second line has a first one in front of a line break
    have hbreak : '\n' ∈ cs := by
      by_contra hnone
      rw [List.splitOn_eq_singleton hnone] at h
      simp at h
    obtain ⟨first, rest, rfl, hfirst⟩ := List.eq_append_cons_of_mem hbreak
    have hsplit := List.splitOn_eq_singleton hfirst
    rw [List.splitOn_append_cons_self, hsplit] at h ⊢
    obtain ⟨pre, post, rfl, hcount, hline, htake, hdrop⟩ := ih (by simpa using h)
    refine ⟨first ++ '\n' :: pre, post, by simp, ?_, hline, ?_, by simpa using hdrop⟩
    · rw [List.count_append, List.count_eq_zero.mpr hfirst, List.count_cons_self, hcount, Nat.zero_add]
    · rw [List.append_assoc, List.cons_append, List.splitOn_append_cons_self, hsplit, htake]
      rfl

theorem length_splitOn (cs : List Char) : (cs.splitOn '\n').length = cs.count '\n' + 1 := by
  induction cs with
  | nil => rfl
  | cons c cs ih =>
    rw [List.splitOn_cons_eq_if_modifyHead]
    by_cases hc : c = '\n' <;> simp [hc, ih]

end MigrationPreview.Text
