import MigrationPreview.Proofs.Comment.Mark
import MigrationPreview.Proofs.Lexical.Declaration

/-!
# Signatures with and without comments

A comment in a signature matters, of course. But a comment behind a signature may matter as well: a return
type is a run of characters up to the next blank, in which an opening brace may stand, and the reader looks
how the run goes on before it decides for this brace. So with blanks in place of a comment it may find another
brace further behind. It never finds one further in front, though, and this suffices: where neither what is
read with the comments nor what is read with blanks in their place has a comment in it, both are the same.

## Main definitions

* `ReadsThrough`, `IsPrefixReader`: what is read in one text is read in others, or more than it
* `Marked.ReadsApart`: what is read with and without comments has no comment in it

## Main results

* `isPrefixReader_readSignature`: a signature is read in every text that begins with it, or more than it
* `map_length_firstMatch_code`: a search finds the same place where no comment is in what is read
-/

namespace MigrationPreview

open Text

variable {cs rest front : List Char}

/-! ### Readers that look ahead -/

/-- In every text with a beginning a reader reads this beginning or more than it. -/
def ReadsThrough (read : List Char → Option (List Char)) (front : List Char) : Prop :=
  ∀ behind, ∃ rest, rest <:+ behind ∧ read (front ++ behind) = some rest

/-- What is read in some text is not empty, and in every text with this beginning it is read, or more than
it. -/
def IsPrefixReader (read : List Char → Option (List Char)) : Prop :=
  ∀ cs rest, read cs = some rest → ∃ front, front ≠ [] ∧ cs = front ++ rest ∧ ReadsThrough read front

theorem behindLastBrace?_append (hfront : front ≠ []) (run : List Char) :
    ∃ rest, rest <:+ run ∧ behindLastBrace? (front ++ '\x7b' :: run) = some rest := by
  have hprefix : (front ++ '\x7b' :: run).reverse.takeWhile (· != '\x7b') <+: run.reverse := by
    rw [List.reverse_append, List.reverse_cons, List.append_assoc, List.takeWhile_append]
    split
    · simp
    · exact List.takeWhile_prefix _
  refine ⟨_, List.reverse_prefix.mp (by rwa [List.reverse_reverse]), if_pos ?_⟩
  have hlength := hprefix.length_le
  have hpos := List.length_pos_iff.mpr hfront
  rw [List.length_reverse] at hlength
  rw [List.length_append, List.length_cons]
  omega

/-- A run of characters and the text behind it, whose first character ends the run. -/
theorem takeWhile_append_of_head? {p : Char → Bool} {run behind : List Char} (hrun : run.all p)
    (hbehind : ∀ c ∈ behind.head?, p c = false) :
    (run ++ behind).takeWhile p = run ∧ (run ++ behind).dropWhile p = behind := by
  rw [List.takeWhile_append_of_pos (List.all_eq_true.mp hrun),
    List.dropWhile_append_of_pos (List.all_eq_true.mp hrun)]
  cases behind with
  | nil => simp
  | cons c behind => simp [hbehind c rfl]

/-- Blanks in front of a brace end the return type in every text. -/
theorem readsThrough_type {run blanks : List Char} (hne : run ≠ []) (hrun : run.all (!isBlank ·))
    (hne' : blanks ≠ []) (hblanks : blanks.all isBlank) :
    ReadsThrough readReturnType (run ++ (blanks ++ ['\x7b'])) := by
  intro behind
  have hhead : ∀ c ∈ (blanks ++ '\x7b' :: behind).head?, (!isBlank c) = false := by
    rintro c hc
    obtain ⟨d, blanks, rfl⟩ := List.exists_cons_of_ne_nil hne'
    obtain rfl := Option.some_inj.mp hc
    simpa using List.all_eq_true.mp hblanks d List.mem_cons_self
  obtain ⟨htake, hdrop⟩ := takeWhile_append_of_head? hrun hhead
  refine ⟨behind, List.suffix_rfl, ?_⟩
  rw [List.append_assoc, List.append_assoc, List.singleton_append, readReturnType, htake, hdrop,
    skipBlanks_append hblanks, skipBlanks_cons_of_not_isBlank (by decide)]
  cases run with
  | nil => exact absurd rfl hne
  | cons c run => rfl

/-- A brace in a run stays one in every text, though it need not be the last one. -/
theorem readsThrough_run (hne : front ≠ []) (hfront : front.all (!isBlank ·)) :
    ReadsThrough readReturnType (front ++ ['\x7b']) := by
  intro behind
  have hrun : (front ++ ['\x7b']).all (!isBlank ·) := by
    rw [List.all_append, hfront]
    rfl
  have htake : (front ++ ['\x7b'] ++ behind).takeWhile (!isBlank ·) =
      front ++ '\x7b' :: behind.takeWhile (!isBlank ·) := by
    rw [List.takeWhile_append_of_pos (List.all_eq_true.mp hrun), List.append_assoc,
      List.singleton_append]
  have hdrop : (front ++ ['\x7b'] ++ behind).dropWhile (!isBlank ·) = behind.dropWhile (!isBlank ·) :=
    List.dropWhile_append_of_pos (List.all_eq_true.mp hrun)
  have hbehind := List.takeWhile_append_dropWhile (p := (!isBlank ·)) (l := behind)
  unfold readReturnType
  dsimp only
  rw [htake, hdrop]
  generalize behind.takeWhile (!isBlank ·) = more at hbehind ⊢
  generalize behind.dropWhile (!isBlank ·) = others at hbehind ⊢
  split
  · next rest _ hbrace =>
    obtain ⟨blanks, -, hskip⟩ := exists_blanks_append_skipBlanks others
    rw [hbrace] at hskip
    exact ⟨rest, ⟨more ++ (blanks ++ ['\x7b']), by rw [← hbehind, hskip]; simp⟩, rfl⟩
  · obtain ⟨rest, ⟨skipped, hlast⟩, hread⟩ := behindLastBrace?_append hne more
    rw [hread]
    exact ⟨rest ++ others, ⟨skipped, by rw [← List.append_assoc, hlast, hbehind]⟩, rfl⟩

/-- A return type is read up to its brace, or to one further behind. -/
theorem exists_readsThrough_of_readReturnType (h : readReturnType cs = some rest) :
    ∃ front, front ≠ [] ∧ cs = front ++ rest ∧ ReadsThrough readReturnType front := by
  have hcs := List.takeWhile_append_dropWhile (p := (!isBlank ·)) (l := cs)
  have hrun : (cs.takeWhile (!isBlank ·)).all (!isBlank ·) := List.all_takeWhile
  have hblank := List.head?_dropWhile_not (!isBlank ·) cs
  unfold readReturnType at h
  dsimp only at h
  generalize cs.takeWhile (!isBlank ·) = run at h hcs hrun
  generalize cs.dropWhile (!isBlank ·) = behind at h hcs hblank
  obtain ⟨blanks, hblanks, hskip⟩ := exists_blanks_append_skipBlanks behind
  split at h
  · next c run rest' hbrace =>
    obtain rfl := Option.some_inj.mp h
    rw [hbrace] at hskip
    have hne : blanks ≠ [] := by
      rintro rfl
      have hopen : isBlank '\x7b' = false := by decide
      simp [hskip, hopen] at hblank
    refine ⟨c :: run ++ (blanks ++ ['\x7b']), by simp, ?_,
      readsThrough_type (List.cons_ne_nil c run) hrun hne hblanks⟩
    rw [← hcs, hskip]
    simp
  · obtain ⟨inRun, hlast, rfl⟩ := Option.map_eq_some_iff.mp h
    obtain ⟨front, hfront, rfl, -⟩ := exists_front_of_behindLastBrace? hlast
    rw [List.all_append, Bool.and_eq_true] at hrun
    refine ⟨front ++ ['\x7b'], by simp, ?_, readsThrough_run hfront hrun.1⟩
    rw [← hcs]
    simp

theorem exists_readsThrough_of_readBrace (h : readBrace cs = some rest) :
    ∃ front, cs = front ++ rest ∧ ReadsThrough readBrace front := by
  obtain ⟨blanks, hblanks, hskip⟩ := exists_blanks_append_skipBlanks cs
  unfold readBrace at h
  split at h
  · next behind hbehind =>
    obtain rfl := Option.some_inj.mp h
    rw [hbehind] at hskip
    refine ⟨blanks ++ ['\x7b'], by rw [hskip]; simp, fun more => ⟨more, List.suffix_rfl, ?_⟩⟩
    rw [readBrace, List.append_assoc, skipBlanks_append hblanks, List.singleton_append,
      skipBlanks_cons_of_not_isBlank (by decide)]
    rfl
  · next behind hbehind =>
    rw [hbehind] at hskip
    obtain ⟨blanks', hblanks', hskip'⟩ := exists_blanks_append_skipBlanks behind
    obtain ⟨front, hne, hfront, hreads⟩ := exists_readsThrough_of_readReturnType h
    rw [hfront] at hskip'
    refine ⟨blanks ++ ':' :: (blanks' ++ front), by rw [hskip, hskip']; simp, fun more => ?_⟩
    have htype : skipBlanks (front ++ more) = front ++ more := by
      have hnot := List.head?_dropWhile_not isBlank behind
      rw [show behind.dropWhile isBlank = front ++ rest from hfront] at hnot
      cases front with
      | nil => exact absurd rfl hne
      | cons c front =>
        rw [List.cons_append]
        exact skipBlanks_cons_of_not_isBlank (by simpa using hnot) _
    obtain ⟨rest', hsuffix, hread⟩ := hreads more
    refine ⟨rest', hsuffix, ?_⟩
    rw [readBrace, List.append_assoc, skipBlanks_append hblanks, List.cons_append,
      skipBlanks_cons_of_not_isBlank (by decide), List.append_assoc]
    change readReturnType (skipBlanks (blanks' ++ (front ++ more))) = some rest'
    rw [skipBlanks_append hblanks', htype, hread]
  · simp at h

theorem readParameters_append {parameters : List Char} (h : ')' ∉ parameters) (rest : List Char) :
    readParameters ('(' :: (parameters ++ ')' :: rest)) = some rest := by
  have hinner : parameters.all (· != ')') := by
    simp only [List.all_eq_true, bne_iff_ne]
    rintro c hc rfl
    exact h hc
  have hend : ∀ c ∈ (')' :: rest).head?, (c != ')') = false := by simp
  rw [readParameters, (takeWhile_append_of_head? hinner hend).2]

/-- A signature is read in every text that begins with it, or more than it. -/
theorem isPrefixReader_readSignature (direction : Direction) :
    IsPrefixReader (readSignature direction.name.toList) := by
  intro cs rest h
  obtain ⟨spaced, hspaced, hbehind⟩ := Option.bind_eq_some_iff.mp h
  obtain ⟨named, hnamed, hbehind⟩ := Option.bind_eq_some_iff.mp hbehind
  obtain ⟨listed, hlisted, hbehind⟩ := Option.bind_eq_some_iff.mp hbehind
  obtain ⟨closed, hclosed, hbrace⟩ := Option.bind_eq_some_iff.mp hbehind
  obtain ⟨blanks, hne, hblanks, rfl⟩ := eq_append_of_readSpaced hspaced
  obtain ⟨blanks', hne', hblanks', rfl⟩ := eq_append_of_readSpaced hnamed
  obtain rfl := eq_append_of_expect hlisted
  obtain ⟨blanks'', hblanks'', hskip⟩ := exists_blanks_append_skipBlanks listed
  obtain ⟨parameters, hparameters, hlist⟩ := exists_parameters_of_readParameters hclosed
  obtain ⟨front, rfl, hreads⟩ := exists_readsThrough_of_readBrace hbrace
  rw [hlist] at hskip
  refine ⟨"public".toList ++ (blanks ++ ("function".toList ++ (blanks' ++ (direction.name.toList ++
    (blanks'' ++ '(' :: (parameters ++ ')' :: front)))))), by simp, by rw [hskip]; simp, fun more => ?_⟩
  obtain ⟨rest', hsuffix, hread⟩ := hreads more
  have hfunction (cs : List Char) : skipBlanks ("function".toList ++ cs) = "function".toList ++ cs :=
    skipBlanks_cons_of_not_isBlank (by decide) _
  have hname (cs : List Char) :
      skipBlanks (direction.name.toList ++ cs) = direction.name.toList ++ cs := by
    cases direction <;> exact skipBlanks_cons_of_not_isBlank (by decide) _
  have hopen (cs : List Char) : skipBlanks ('(' :: cs) = '(' :: cs :=
    skipBlanks_cons_of_not_isBlank (by decide) _
  refine ⟨rest', hsuffix, ?_⟩
  simp only [List.append_assoc, List.cons_append]
  rw [readSignature, readSpaced_append hne hblanks (hfunction _)]
  simp only [Option.bind_eq_bind, Option.bind_some, readSpaced_append hne' hblanks' (hname _),
    expect_append, skipBlanks_append hblanks'', hopen, readParameters_append hparameters, hread]

/-! ### Readers and comments -/

namespace Marked

/-- Whether no character is marked. -/
def IsCode (marked : Marked) : Bool := marked.all (!·.2)

/-- Whether what is read, be it with the comments or with blanks in their place, has no comment in it. -/
def ReadsApart (read : List Char → Option (List Char)) (marked : Marked) : Bool :=
  ((read marked.text).all fun rest => IsCode (marked.take (marked.length - rest.length))) &&
    (read marked.code).all fun rest => IsCode (marked.take (marked.length - rest.length))

theorem code_eq_text {marked : Marked} (h : marked.IsCode = true) : marked.code = marked.text := by
  refine List.map_congr_left fun x hx => ?_
  have hflag : x.2 = false := by simpa using List.all_eq_true.mp h x hx
  rw [hflag]
  rfl

theorem length_text (marked : Marked) : marked.text.length = marked.length := List.length_map ..

/-- The text and the code begin alike as far as something is read in one of them. -/
theorem take_code_of_readsApart {read : List Char → Option (List Char)} {marked : Marked} {rest : List Char}
    (h : marked.ReadsApart read = true) (hread : read marked.text = some rest ∨ read marked.code = some rest) :
    marked.code.take (marked.length - rest.length) = marked.text.take (marked.length - rest.length) := by
  rw [ReadsApart, Bool.and_eq_true] at h
  have hcode : IsCode (marked.take (marked.length - rest.length)) = true := by
    rcases hread with hread | hread
    · rw [hread] at h
      exact h.1
    · rw [hread] at h
      exact h.2
  rw [← code_take, ← text_take, code_eq_text hcode]

end Marked

section

variable {read : List Char → Option (List Char)} (hread : IsPrefixReader read)

include hread

/-- In a text of the same length that begins with what is read, as much is read or more. -/
theorem exists_length_le {ds : List Char} (h : read cs = some rest) (hsame : cs.length = ds.length)
    (htake : cs.take (cs.length - rest.length) = ds.take (cs.length - rest.length)) :
    ∃ rest', read ds = some rest' ∧ rest'.length ≤ rest.length := by
  obtain ⟨front, -, rfl, hreads⟩ := hread cs rest h
  rw [List.length_append, Nat.add_sub_cancel, List.take_left] at htake
  have hds : ds = front ++ ds.drop front.length := by
    conv_lhs => rw [← List.take_append_drop front.length ds, ← htake]
  obtain ⟨rest', hsuffix, hread'⟩ := hreads (ds.drop front.length)
  rw [← hds] at hread'
  refine ⟨rest', hread', hsuffix.length_le.trans ?_⟩
  rw [List.length_drop, ← hsame, List.length_append, Nat.add_sub_cancel_left]

/-- What is read apart from comments is as long with them as without them. -/
theorem map_length_code {marked : Marked} (h : marked.ReadsApart read = true) :
    (read marked.code).map List.length = (read marked.text).map List.length := by
  have hsame : marked.text.length = marked.code.length := marked.length_code.symm
  -- what is read in one of the texts is read in the other one, or more than it
  have hcode : ∀ rest, read marked.text = some rest →
      ∃ rest', read marked.code = some rest' ∧ rest'.length ≤ rest.length := fun rest hrest =>
    exists_length_le hread hrest hsame
      (by rw [marked.length_text, Marked.take_code_of_readsApart h (.inl hrest)])
  have htext : ∀ rest, read marked.code = some rest →
      ∃ rest', read marked.text = some rest' ∧ rest'.length ≤ rest.length := fun rest hrest =>
    exists_length_le hread hrest hsame.symm
      (by rw [← hsame, marked.length_text, Marked.take_code_of_readsApart h (.inr hrest)])
  cases htext' : read marked.text with
  | none =>
    cases hcode' : read marked.code with
    | none => rfl
    | some rest =>
      obtain ⟨rest', hrest', -⟩ := htext rest hcode'
      rw [htext'] at hrest'
      cases hrest'
  | some rest =>
    obtain ⟨rest', hrest', hle⟩ := hcode rest htext'
    obtain ⟨rest'', hrest'', hle'⟩ := htext rest' hrest'
    obtain rfl := Option.some_inj.mp (htext'.symm.trans hrest'')
    rw [hrest', Option.map_some, Option.map_some, le_antisymm hle hle']

theorem length_lt_of_firstMatch (h : firstMatch read cs = some rest) : rest.length < cs.length := by
  obtain ⟨skipped, start, rfl, hstart⟩ := exists_of_firstMatch h
  obtain ⟨front, hne, rfl, -⟩ := hread start rest hstart
  have hpos := List.length_pos_iff.mpr hne
  rw [List.length_append, List.length_append]
  omega

/-- A search finds as much with comments as without them, if there is no comment in what is read at any place
up to the end of what it finds. -/
theorem map_length_firstMatch_code {marked : Marked}
    (h : ∀ start : Marked, start <:+ marked →
      (∀ rest ∈ firstMatch read marked.text, rest.length < start.length) → start.ReadsApart read = true) :
    (firstMatch read marked.code).map List.length = (firstMatch read marked.text).map List.length := by
  induction marked with
  | nil => rfl
  | cons x marked ih =>
    have hstart := map_length_code hread <| h (x :: marked) List.suffix_rfl fun rest hrest => by
      have hlt := length_lt_of_firstMatch hread hrest
      rwa [Marked.length_text] at hlt
    rw [Marked.text_cons, Marked.code_cons] at hstart ⊢
    rw [Marked.text_cons] at h
    rw [firstMatch_cons, firstMatch_cons]
    rw [firstMatch_cons] at h
    cases htext : read (x.1 :: Marked.text marked) with
    | some rest =>
      rw [htext, Option.map_some, Option.map_eq_some_iff] at hstart
      obtain ⟨rest', hrest', hlength⟩ := hstart
      rw [hrest', Option.some_or, Option.some_or, Option.map_some, Option.map_some, hlength]
    | none =>
      rw [htext, Option.map_none, Option.map_eq_none_iff] at hstart
      rw [hstart, Option.none_or, Option.none_or]
      rw [htext, Option.none_or] at h
      exact ih fun start hsuffix => h start (hsuffix.trans (List.suffix_cons x marked))

end

end MigrationPreview
