import MigrationPreview.Proofs.Comment.Mark
import MigrationPreview.Proofs.Comment.Reader

/-!
# Comments that are set apart

A comment is set apart from the code on its line when no call stands in it and no call that begins in
front of it goes on behind it. A search for calls then finds the same whether the comment is there or
blank.

## Main definitions

* `Marked.SetApart`: the comments of a line are set apart from its code

## Main results

* `firstMatch_text_eq_code`: a reader of calls finds the same with and without the comments
* `firstMatch_trim`: blanks at the ends of a line do not matter to it
-/

namespace MigrationPreview

open Text Call

variable {α : Type} {read : List Char → Option α}

/-! ### Readers of calls -/

/-- The methods whose calls are looked for. -/
def recognised : List String :=
  columnTypes ++ ["change", "modify", "dropColumn", "renameColumn", "index", "unique", "primary",
    "dropIndex", "foreign", "foreignId", "references", "on", "onUpdate", "onDelete", "dropForeign",
    "engine", "charset", "collation"]

/-- Whether a text begins with a call that counts: one on the schema, one of a recognised method, or one
of any method with a name as its first argument. -/
def beginsCall (cs : List Char) : Bool :=
  (readSchemaCall cs).isSome || (readNamingCall cs).isSome ||
    (readMethod cs).any fun (method, _) => recognised.contains method

/-- A reader that finds something only where a call begins, and only in the text in which the call
ends. -/
structure IsCallReader (read : List Char → Option α) : Prop where
  eq_none {cs : List Char} : beginsCall cs = false → read cs = none
  append {cs rest : List Char} :
    Settled cs rest = true → Boundary cs rest → read (cs ++ rest) = read cs

theorem isWord_of_mem_recognised : ∀ m ∈ recognised, m.toList.all isWord = true := by
  decide +kernel

theorem isCallReader_readCall {methods : List String} (hmethods : ∀ m ∈ methods, m ∈ recognised)
    {readArguments : List Char → Option α} (hlocal : Local readArguments) :
    IsCallReader (readCall methods readArguments) where
  eq_none {cs} h := by
    rw [beginsCall, Bool.or_eq_false_iff] at h
    rw [readCall]
    cases hread : readMethod cs with
    | none => rfl
    | some call =>
      obtain ⟨method, arguments⟩ := call
      have hmethod : method ∉ recognised := by simpa [hread] using h.2
      have hnot : method ∉ methods := fun hmem => hmethod (hmethods method hmem)
      simp only [Option.bind_eq_bind, Option.bind_some, hnot, ↓reduceIte]
  append := readCall_append (fun m hm => isWord_of_mem_recognised m (hmethods m hm)) hlocal

theorem isCallReader_readNamingCall : IsCallReader readNamingCall where
  eq_none h := by
    simp only [beginsCall, Bool.or_eq_false_iff] at h
    simpa using h.1.2
  append := readNamingCall_append

theorem isCallReader_readSchemaCall : IsCallReader readSchemaCall where
  eq_none h := by
    simp only [beginsCall, Bool.or_eq_false_iff] at h
    simpa using h.1.1
  append := readSchemaCall_append

theorem beginsCall_cons_of_isBlank {c : Char} (hc : isBlank c = true) (cs : List Char) :
    beginsCall (c :: cs) = false := by
  have hne : c ≠ '-' ∧ c ≠ 'S' := ⟨ne_of_isBlank hc (by decide), ne_of_isBlank hc (by decide)⟩
  have harrow : readMethod (c :: cs) = none := by
    rw [readMethod, show expect "->".toList (c :: cs) = none from if_neg fun heq => hne.1 heq.symm]
    rfl
  have hschema : readSchemaCall (c :: cs) = none := by
    rw [readSchemaCall,
      show expect "Schema::".toList (c :: cs) = none from if_neg fun heq => hne.2 heq.symm]
    rfl
  rw [beginsCall, hschema, readNamingCall, harrow]
  rfl

/-! ### Texts that agree behind a common beginning -/

/-- A search finds the same in two texts with a common beginning if its reader does so at every place of
the beginning and the search finds the same behind it. -/
theorem firstMatch_append_congr {front x y : List Char}
    (h : ∀ start, start ≠ [] → start <:+ front → read (start ++ x) = read (start ++ y))
    (hrest : firstMatch read x = firstMatch read y) :
    firstMatch read (front ++ x) = firstMatch read (front ++ y) := by
  induction front with
  | nil => exact hrest
  | cons c front ih =>
    have hc := h (c :: front) (by simp) List.suffix_rfl
    rw [List.cons_append, List.cons_append] at hc ⊢
    rw [firstMatch_cons, firstMatch_cons, hc,
      ih fun start hne hsuffix => h start hne (hsuffix.trans (List.suffix_cons c front))]

theorem firstMatch_append_of_blank (hread : IsCallReader read) {blanks : List Char}
    (hblanks : blanks.all isBlank) (cs : List Char) :
    firstMatch read (blanks ++ cs) = firstMatch read cs := by
  induction blanks with
  | nil => rfl
  | cons c blanks ih =>
    rw [List.all_cons, Bool.and_eq_true] at hblanks
    rw [List.cons_append, firstMatch_cons, hread.eq_none (beginsCall_cons_of_isBlank hblanks.1 _),
      Option.none_or, ih hblanks.2]

/-! ### Comments that are set apart -/

namespace Marked

/-- Whether the comments of a text are set apart from the code, of which `front` stands in front of the
text: no call begins in a comment, and no call that begins in the code in front of a comment goes on
there, neither with the comment nor without it. -/
def SetApart : List Char → Marked → Bool
  | _, [] => true
  | front, (c, false) :: marked => SetApart (front ++ [c]) marked
  | front, (c, true) :: marked =>
    !beginsCall (c :: text marked) &&
      ((skipBlanks front).isEmpty ||
        Settled front (c :: text marked) && Settled front (' ' :: code marked)) &&
      SetApart [] marked

/-- Characters that stand outside of comments. -/
def plain (cs : List Char) : Marked := cs.map (·, false)

end Marked

/-- Whatever stands in front of a settled text, blanks apart, the text is settled. -/
theorem settled_of_suffix {start front rest : List Char} (h : Settled front rest = true)
    (hstart : start <:+ front) (hblank : skipBlanks start ≠ []) : Settled start rest = true := by
  obtain ⟨before, rfl⟩ := hstart
  rw [settled_iff] at h ⊢
  refine ⟨argumentsEnd_of_append before h.1, h.2.imp_left fun ⟨c, hlast, hc⟩ => ⟨c, ?_, hc⟩⟩
  have hmarks : start.filter (!isBlank ·) ≠ [] := by
    intro hnil
    exact hblank (by simpa [skipBlanks] using hnil)
  rwa [lastMark?, List.filter_append, List.getLast?_append_of_ne_nil _ hmarks] at hlast

theorem read_eq_none_of_blank (hread : IsCallReader read) {start : List Char} (hne : start ≠ [])
    (hblank : skipBlanks start = []) (rest : List Char) : read (start ++ rest) = none := by
  cases start with
  | nil => exact absurd rfl hne
  | cons c start =>
    have hc : isBlank c = true := (by simpa [skipBlanks] using hblank : _ ∧ _).1
    exact hread.eq_none (beginsCall_cons_of_isBlank hc _)

/-- In front of a comment stands a boundary. -/
theorem boundary_of_isChain {start front : List Char} {c : Char} {marked : Marked}
    (hchain : (Marked.plain front ++ (c, true) :: marked).IsChain Marked.Begun)
    (hstart : start <:+ front) (hne : start ≠ []) : Boundary start (c :: marked.text) := by
  obtain ⟨before, rfl⟩ := hstart
  obtain ⟨init, last, rfl⟩ := List.eq_nil_or_concat start |>.resolve_left hne
  have hlast : Marked.Begun (last, false) (c, true) := by
    have hsplit : Marked.plain (before ++ init.concat last) ++ (c, true) :: marked =
        Marked.plain (before ++ init) ++ (last, false) :: (c, true) :: marked := by
      simp [Marked.plain]
    rw [hsplit] at hchain
    exact (List.isChain_cons_cons.mp hchain.right_of_append).1
  rcases hlast rfl rfl with hblank | hc
  · exact .inl ⟨last, by simp, hblank⟩
  · refine .inr fun d hd => .inr ?_
    obtain rfl : c = d := Option.some_inj.mp hd
    exact hc

/-- A reader of calls finds the same with comments that are set apart and with blanks in their
place. -/
theorem firstMatch_text_eq_code (hread : IsCallReader read) (front : List Char) {marked : Marked}
    (hchain : (Marked.plain front ++ marked).IsChain Marked.Begun)
    (hapart : marked.SetApart front = true) :
    firstMatch read (front ++ marked.text) = firstMatch read (front ++ marked.code) := by
  fun_induction Marked.SetApart front marked with
  | case1 front => rfl
  | case2 front c marked ih =>
    have hfront : Marked.plain (front ++ [c]) ++ marked =
        Marked.plain front ++ (c, false) :: marked := by
      simp [Marked.plain]
    have h := ih (hfront ▸ hchain) hapart
    rw [List.append_assoc, List.append_assoc] at h
    exact h
  | case3 front c marked ih =>
    simp only [Bool.and_eq_true, Bool.or_eq_true, Bool.not_eq_true', List.isEmpty_iff] at hapart
    obtain ⟨⟨hcall, hfront⟩, hmarked⟩ := hapart
    have hrest : firstMatch read (c :: Marked.text marked) =
        firstMatch read (' ' :: Marked.code marked) := by
      have hmatch := ih hchain.right_of_append.tail hmarked
      rw [firstMatch_cons, firstMatch_cons, hread.eq_none hcall,
        hread.eq_none (beginsCall_cons_of_isBlank (by decide) _)]
      simpa using hmatch
    rw [Marked.text_cons, Marked.code_cons, if_pos rfl]
    rcases hfront with hblank | ⟨htext, hcode⟩
    · have hblanks : front.all isBlank := by simpa [skipBlanks] using hblank
      rwa [firstMatch_append_of_blank hread hblanks, firstMatch_append_of_blank hread hblanks]
    · -- a call that begins in the code in front of the comment ends there
      refine firstMatch_append_congr (fun start hne hsuffix => ?_) hrest
      by_cases hblank : skipBlanks start = []
      · rw [read_eq_none_of_blank hread hne hblank, read_eq_none_of_blank hread hne hblank]
      · have hboundary := boundary_of_isChain hchain hsuffix hne
        rw [hread.append (settled_of_suffix htext hsuffix hblank) hboundary,
          hread.append (settled_of_suffix hcode hsuffix hblank) (.inr fun d hd => .inl ?_)]
        rw [← Option.some_inj.mp hd]
        decide

/-! ### Blanks at the ends of a line -/

theorem isBlank_of_mem_closing {c : Char} (hc : c = ']' ∨ isQuote c = true) : isBlank c = false := by
  rcases hc with rfl | hquote
  · decide
  · exact isBlank_of_isQuote hquote

/-- No call goes on in blanks. -/
theorem settled_blanks (cs : List Char) {blanks : List Char} (hblanks : blanks.all isBlank) :
    Settled cs blanks = true := by
  have hclosing : ∀ c ∈ blanks, ¬ (c = ']' ∨ isQuote c = true) := fun c hmem hc => by
    have hblank := List.all_eq_true.mp hblanks c hmem
    rw [isBlank_of_mem_closing hc] at hblank
    exact absurd hblank (by decide)
  have hlist : ']' ∉ blanks := fun hmem => hclosing _ hmem (.inl rfl)
  have hquote : blanks.any isQuote = false := by
    simpa using fun c hmem hc => hclosing c hmem (.inr hc)
  have hskip : skipBlanks blanks = [] := by simpa [skipBlanks] using hblanks
  have hends : ∀ ds, nameEnds blanks ds = true := by
    intro ds
    unfold nameEnds
    split <;> simp [hquote]
  have harguments : argumentsEnd blanks cs = true := by
    induction cs with
    | nil => rfl
    | cons c cs ih => simp [argumentsEnd, hlist, hends, ih]
  simp [Settled, harguments, hskip]

theorem exists_trim_append_blanks (cs : List Char) :
    ∃ front behind : List Char, front.all isBlank ∧ behind.all isBlank ∧
      cs = front ++ (trim cs ++ behind) := by
  obtain ⟨front, hfront, hskip⟩ := exists_blanks_append_skipBlanks cs
  refine ⟨front, ((skipBlanks cs).reverse.takeWhile isBlank).reverse, hfront, by simp, ?_⟩
  have hreverse := List.takeWhile_append_dropWhile (p := isBlank) (l := (skipBlanks cs).reverse)
  rw [trim, trimEnd, ← List.reverse_append, hreverse, List.reverse_reverse]
  exact hskip

/-- Blanks behind a text do not matter to a search for calls. -/
theorem firstMatch_append_blanks (hread : IsCallReader read) (cs : List Char) {blanks : List Char}
    (hblanks : blanks.all isBlank) : firstMatch read (cs ++ blanks) = firstMatch read cs := by
  have hnil : firstMatch read blanks = firstMatch read [] := by
    rw [← firstMatch_append_of_blank hread hblanks [], List.append_nil]
  conv_rhs => rw [← List.append_nil cs]
  refine firstMatch_append_congr (fun start _ _ => ?_) hnil
  rw [List.append_nil]
  refine hread.append (settled_blanks start hblanks) (.inr fun c hc => .inl ?_)
  exact List.all_eq_true.mp hblanks c (List.mem_of_head? hc)

/-- Blanks at the ends of a line do not matter to a search for calls. -/
theorem firstMatch_trim (hread : IsCallReader read) (cs : List Char) :
    firstMatch read (trim cs) = firstMatch read cs := by
  obtain ⟨front, behind, hfront, hbehind, hcs⟩ := exists_trim_append_blanks cs
  rw [hcs, firstMatch_append_of_blank hread hfront, ← hcs, firstMatch_append_blanks hread _ hbehind]

end MigrationPreview
