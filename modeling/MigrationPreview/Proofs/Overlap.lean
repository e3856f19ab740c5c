import MigrationPreview.Proofs.LineNumber

/-!
# Bodies of the two methods

The body of each method is searched for on its own. They are separate segments of the source if the
method that begins first also ends first: if its brace is closed before the other brace opens, or, where
nothing closes it, if a declaration begins a line in between. A brace that is missing in the first method
may however be made up for by the last brace of the class. Then the first body is closed, holds all of the
other method, and its operations are read in both directions.

## Main results

* `MethodBody.lt_offset_iff`: a closed body ends before the next method begins exactly if the text in
  between closes it
* `MethodBody.separate_of_endsBefore`: bodies are separate if the first ends before the second begins
* `bodies_overlap`: bodies may overlap
-/

namespace MigrationPreview

open Text

variable {direction direction' : Direction} {source : List Char} {first second : MethodBody}

/-! ### Signatures are declarations -/

theorem skipModifiers_function (count : Nat) (cs : List Char) :
    skipModifiers count ("function".toList ++ cs) = "function".toList ++ cs := by
  cases count with
  | zero => rfl
  | succ count => simp [skipModifiers, readSpaced, expect]

theorem isWord_name (direction : Direction) : ∀ c ∈ direction.name.toList, isWord c = true := by
  cases direction <;> decide

/-- A parenthesis, with blanks in front of it or not, ends a word. -/
theorem takeWhile_isWord_eq_nil {cs rest : List Char} (h : skipBlanks cs = '(' :: rest) :
    cs.takeWhile isWord = [] := by
  cases cs with
  | nil => rfl
  | cons c cs =>
    refine List.takeWhile_cons_of_neg ?_
    by_cases hblank : isBlank c
    · simp [isWord_of_isBlank hblank]
    · rw [skipBlanks_cons_of_not_isBlank (by simpa using hblank)] at h
      rw [(List.cons.inj h).1]
      decide +kernel

/-- A signature that stands first on a line is a declaration. -/
theorem isSome_readDeclaration_of_readSignature {blanks signature rest : List Char}
    (hblanks : blanks.all isBlank)
    (h : readSignature direction.name.toList signature = some rest) :
    (readDeclaration (blanks ++ signature)).isSome := by
  obtain ⟨spaced, hspaced, h⟩ := Option.bind_eq_some_iff.mp h
  obtain ⟨named, hnamed, h⟩ := Option.bind_eq_some_iff.mp h
  obtain ⟨listed, hlisted, h⟩ := Option.bind_eq_some_iff.mp h
  obtain ⟨closed, hclosed, -⟩ := Option.bind_eq_some_iff.mp h
  obtain ⟨between, -, -, hsignature⟩ := eq_append_of_readSpaced hspaced
  obtain ⟨between', -, -, hbehind⟩ := eq_append_of_readSpaced hnamed
  have hskip : skipBlanks (blanks ++ signature) = signature := by
    rw [skipBlanks_append hblanks, hsignature]
    exact skipBlanks_cons_of_not_isBlank (by decide) _
  have hmodifiers : skipModifiers signature.length signature = spaced := by
    have hlength : signature.length = (signature.length - 1) + 1 := by
      rw [hsignature]
      simp
    rw [hlength, skipModifiers, List.findSome?_cons, hspaced]
    dsimp only
    rw [hbehind, List.append_assoc, skipModifiers_function]
  obtain ⟨more, hmore⟩ : ∃ more, skipBlanks listed = '(' :: more := by
    unfold readParameters at hclosed
    split at hclosed
    · next more heq => exact ⟨more, heq⟩
    · simp at hclosed
  have hnil := takeWhile_isWord_eq_nil hmore
  have htake : named.takeWhile isWord = direction.name.toList := by
    rw [eq_append_of_expect hlisted, List.takeWhile_append_of_pos (isWord_name direction), hnil,
      List.append_nil]
  have hdrop : named.dropWhile isWord = listed := by
    have hsplit := List.takeWhile_append_dropWhile (p := isWord) (l := listed)
    rw [eq_append_of_expect hlisted, List.dropWhile_append_of_pos (isWord_name direction)]
    rwa [hnil, List.nil_append] at hsplit
  rw [readDeclaration, hskip, hmodifiers, hnamed, Option.bind_eq_bind, Option.bind_some, htake, hdrop, hmore]
  cases direction <;> rfl

namespace MethodBody

/-! ### The text between two opening braces -/

/-- The text behind the opening brace of one body, up to and including that of another. -/
def upTo (first second : MethodBody) (source : List Char) : List Char :=
  (source.drop first.offset).take (second.offset - first.offset)

theorem drop_offset_eq (horder : first.offset ≤ second.offset) :
    source.drop first.offset = first.upTo second source ++ source.drop second.offset := by
  have hdrop : source.drop second.offset =
      (source.drop first.offset).drop (second.offset - first.offset) := by
    rw [List.drop_drop, Nat.add_sub_cancel' horder]
  rw [upTo, hdrop, List.take_append_drop]

theorem length_upTo (first : MethodBody) (hsecond : find? direction' source = some second) :
    (first.upTo second source).length = second.offset - first.offset := by
  obtain ⟨before, behind, hsource, -, hoffset, -⟩ := find?_eq_some_iff.mp hsecond
  have hlength := congrArg List.length hsource
  rw [List.length_append] at hlength
  rw [upTo, List.length_take, List.length_drop]
  omega

/-- A closed body ends before another one begins exactly if the text between the opening braces
closes it. -/
theorem lt_offset_iff (hfirst : find? direction source = some first)
    (hsecond : find? direction' source = some second) (horder : first.offset ≤ second.offset)
    (hclosed : first.truncated = false) :
    first.offset + first.text.length < second.offset ↔
      (beforeClosing .code 0 (first.upTo second source)).isSome := by
  have hclose := beforeClosing_of_closed hfirst hclosed
  rw [drop_offset_eq horder] at hclose
  have hlength := length_upTo first hsecond
  constructor
  · intro hlt
    rw [beforeClosing_of_append hclose (by omega)]
    rfl
  · intro hsome
    obtain ⟨text, htext⟩ := Option.isSome_iff_exists.mp hsome
    obtain rfl : text = first.text :=
      Option.some_inj.mp ((beforeClosing_append _ htext).symm.trans hclose)
    obtain ⟨after, hafter⟩ := exists_brace_of_beforeClosing htext
    rw [hafter, List.length_append, List.length_cons] at hlength
    omega

/-- A body that no brace closes ends where a declaration begins a line. -/
theorem length_text_le_of_declaration (hfirst : find? direction source = some first)
    (htruncated : first.truncated = true) {front rest : List Char}
    (hdrop : source.drop first.offset = front ++ rest) (hfront : EndsLine front)
    (hrest : (readDeclaration rest).isSome) : first.text.length ≤ front.length := by
  rw [(beforeClosing_of_truncated hfirst htruncated).2, hdrop]
  exact length_beforeDeclaration_le hfront (fun _ => rfl) hrest

/-! ### Separate bodies -/

/-- A body covers the positions of the source from its first character to its last. -/
def Covers (body : MethodBody) (position : Nat) : Prop :=
  body.offset ≤ position ∧ position < body.offset + body.text.length

/-- The method of the first body ends before the opening brace of the second: the text in between
closes it, or no brace does and a declaration begins a line in between. -/
def EndsBefore (first second : MethodBody) (source : List Char) : Prop :=
  (beforeClosing .code 0 (first.upTo second source)).isSome ∨
    first.truncated = true ∧ ∃ front rest, first.upTo second source = front ++ rest ∧ rest ≠ [] ∧
      EndsLine front ∧ (readDeclaration (rest ++ source.drop second.offset)).isSome

theorem lt_offset_of_endsBefore (hfirst : find? direction source = some first)
    (hsecond : find? direction' source = some second) (horder : first.offset ≤ second.offset)
    (h : first.EndsBefore second source) : first.offset + first.text.length < second.offset := by
  rcases h with h | ⟨htruncated, front, rest, hupTo, hrest, hfront, hdeclaration⟩
  · refine (lt_offset_iff hfirst hsecond horder ?_).mpr h
    -- what closes the body in between closes it in the whole source
    obtain ⟨text, htext⟩ := Option.isSome_iff_exists.mp h
    have hclose := beforeClosing_append (source.drop second.offset) htext
    rw [← drop_offset_eq horder] at hclose
    refine Bool.eq_false_iff.mpr fun htruncated => ?_
    rw [(beforeClosing_of_truncated hfirst htruncated).1] at hclose
    cases hclose
  · have hdrop : source.drop first.offset = front ++ (rest ++ source.drop second.offset) := by
      rw [drop_offset_eq horder, hupTo, List.append_assoc]
    have hle := length_text_le_of_declaration hfirst htruncated hdrop hfront hdeclaration
    have hlength := length_upTo first hsecond
    rw [hupTo, List.length_append] at hlength
    have hpos : 0 < rest.length := List.length_pos_iff.mpr hrest
    omega

/-- A signature that stands first on a line ends the method in front of it. -/
theorem endsBefore_of_signature (htruncated : first.truncated = true)
    {front blanks signature : List Char}
    (hupTo : first.upTo second source = front ++ (blanks ++ signature)) (hfront : EndsLine front)
    (hblanks : blanks.all isBlank)
    (hsignature : readSignature direction'.name.toList (signature ++ source.drop second.offset) =
      some (source.drop second.offset)) : first.EndsBefore second source := by
  refine .inr ⟨htruncated, front, blanks ++ signature, hupTo, fun hnil => ?_, hfront, ?_⟩
  · obtain ⟨-, rfl⟩ := List.append_eq_nil_iff.mp hnil
    obtain ⟨brace, hbrace⟩ := exists_brace_of_readSignature hsignature
    have hlength := congrArg List.length hbrace
    rw [List.nil_append, List.length_append, List.length_cons] at hlength
    omega
  · rw [List.append_assoc]
    exact isSome_readDeclaration_of_readSignature hblanks hsignature

/-- Two bodies of which one ends before the other begins are separate segments of the source. -/
theorem exists_source_eq_of_lt_offset (hfirst : find? direction source = some first)
    (hsecond : find? direction' source = some second)
    (hlt : first.offset + first.text.length < second.offset) :
    ∃ before between after, source = before ++ first.text ++ between ++ second.text ++ after ∧
      before.length = first.offset ∧ (before ++ first.text ++ between).length = second.offset := by
  obtain ⟨before, after, hsource, hbefore, -⟩ := exists_source_eq hfirst
  obtain ⟨before', after', hsource', hbefore', -⟩ := exists_source_eq hsecond
  have hprefix : before ++ first.text <+: before' := by
    have hlong : before' <+: source := ⟨second.text ++ after', by rw [hsource', List.append_assoc]⟩
    refine List.prefix_of_prefix_length_le ⟨after, hsource.symm⟩ hlong ?_
    rw [List.length_append]
    omega
  obtain ⟨between, hbetween⟩ := hprefix
  refine ⟨before, between, after', ?_, hbefore.symm, ?_⟩
  · rw [hbetween, ← hsource']
  · rw [hbetween, hbefore']

/-- A body gives an operation: the operation is read from a line of the segment that the body covers,
within the block that is open there, and no line that is looked at for it reaches out of this segment. -/
def Gives (body : MethodBody) (source : List Char) (op : Operation) : Prop :=
  ∃ before line behind draft,
    source.take (body.offset + body.text.length) = before ++ line ++ behind ∧
    body.offset ≤ before.length ∧ op.line = 1 + before.count '\n' ∧
    draft ∈ Line.drafts ⟨trim line,
      tableBehind none ((before.drop body.offset ++ line).splitOn '\n'),
      (line ++ behind).splitOn '\n'⟩ ∧
    op = draft.toOperation op.direction op.line

/-- All operations of a direction are given by the body of its method. -/
theorem gives_of_mem_operationsIn (hfirst : find? direction source = some first) {op : Operation}
    (h : op ∈ operationsIn direction source) : first.Gives source op := by
  obtain ⟨before, after, hsource, hoffset, hstart⟩ := exists_source_eq hfirst
  rw [operationsIn, hfirst] at h
  obtain ⟨index, line, draft, hline, -, hdraft, rfl⟩ := exists_line_of_mem_operationsOfLines h
  obtain ⟨pre, behind, htext, hcount, -, htake, hdrop⟩ := exists_segment_of_getElem?_splitOn hline
  refine ⟨before ++ pre, line, behind, draft, ?_, ?_, ?_, ?_, rfl⟩
  · rw [hsource, hoffset, ← List.length_append, List.take_left, htext]
    simp only [List.append_assoc]
  · rw [hoffset, List.length_append]
    exact Nat.le_add_right _ _
  · rw [Draft.toOperation, hstart, List.count_append, hcount, Nat.add_assoc]
  · rwa [hoffset, List.drop_left, htake, hdrop]

/-- Of two methods let the first be the one whose brace opens first. If it ends before the other
brace opens, the bodies are separate segments of the source and each method has only operations that
its own segment gives. For a first body that is closed this is all: it ends before the other brace opens exactly
if the text in between closes it. A first body that no brace closes ends before the other one if the
other signature stands first on its line. -/
theorem separate_of_endsBefore (hfirst : find? direction source = some first)
    (hsecond : find? direction' source = some second) (horder : first.offset ≤ second.offset) :
    (first.EndsBefore second source →
      (∀ position, ¬ (first.Covers position ∧ second.Covers position)) ∧
      (∃ before between after, source = before ++ first.text ++ between ++ second.text ++ after ∧
        before.length = first.offset ∧ (before ++ first.text ++ between).length = second.offset) ∧
      (∀ op ∈ operationsIn direction source, first.Gives source op) ∧
      ∀ op ∈ operationsIn direction' source, second.Gives source op) ∧
    (first.truncated = false → (first.offset + first.text.length < second.offset ↔
      (beforeClosing .code 0 (first.upTo second source)).isSome)) ∧
    (first.truncated = true → ∀ front blanks signature,
      first.upTo second source = front ++ (blanks ++ signature) → EndsLine front →
      blanks.all isBlank →
      readSignature direction'.name.toList (signature ++ source.drop second.offset) =
        some (source.drop second.offset) →
      first.EndsBefore second source) := by
  refine ⟨fun hends => ?_, lt_offset_iff hfirst hsecond horder, fun htruncated _ _ _ hupTo hfront
    hblanks hsignature => endsBefore_of_signature htruncated hupTo hfront hblanks hsignature⟩
  have hlt := lt_offset_of_endsBefore hfirst hsecond horder hends
  refine ⟨?_, exists_source_eq_of_lt_offset hfirst hsecond hlt,
    fun op => gives_of_mem_operationsIn hfirst, fun op => gives_of_mem_operationsIn hsecond⟩
  rintro position ⟨⟨-, hbelow⟩, habove, -⟩
  omega

/-- A class without any closing brace. -/
def unclosedClass : List Char :=
  ['\n'].intercalate <| List.map String.toList
    ["class M \x7b", " public function up() \x7b", "  $table->dropColumn('email');", "",
      " public function down() \x7b Schema::drop('users');"]

/-- In a class that is never closed, the body of `up` ends where the signature of `down` begins its
line. -/
theorem separate_of_unclosedClass : ∃ up down : MethodBody,
    find? .up unclosedClass = some up ∧ find? .down unclosedClass = some down ∧
      up.truncated = true ∧ up.EndsBefore down unclosedClass ∧
      (∀ position, ¬ (up.Covers position ∧ down.Covers position)) ∧
      (operationsIn .down unclosedClass).map (·.line) = [5] ∧
      ∀ op ∈ operationsIn .down unclosedClass, down.Gives unclosedClass op := by
  have hup : find? .up unclosedClass =
      some ⟨"\n  $table->dropColumn('email');\n".toList, 33, 2, true⟩ := by decide +kernel
  have hdown : find? .down unclosedClass =
      some ⟨" Schema::drop('users');".toList, 91, 5, true⟩ := by decide +kernel
  have hbodies := separate_of_endsBefore hup hdown (by decide)
  have hends := hbodies.2.2 rfl "\n  $table->dropColumn('email');\n\n".toList [' ']
    "public function down() \x7b".toList (by decide +kernel)
    (.inr ⟨"\n  $table->dropColumn('email');\n".toList, by decide +kernel⟩) (by decide +kernel)
    (by decide +kernel)
  obtain ⟨hdisjoint, -, -, hgives⟩ := hbodies.1 hends
  exact ⟨_, _, hup, hdown, rfl, hends, hdisjoint, by decide +kernel, hgives⟩

/-- A class in which a brace is missing in `up`. -/
def swallowingClass : List Char :=
  ['\n'].intercalate <| List.map String.toList
    ["class M", "\x7b", "    public function up()", "    \x7b",
      "        Schema::create('posts', function (Blueprint $table) \x7b",
      "            $table->string('title');", "    \x7d", "", "    public function down()", "    \x7b",
      "        Schema::drop('posts');", "    \x7d", "\x7d", ""]

/-- The two bodies may overlap: a brace that is missing in `up` is made up for by the last brace of the
class, so that the body of `up` holds all of `down`. -/
theorem bodies_overlap : ¬ ∀ (source : List Char) (up down : MethodBody),
    find? .up source = some up → find? .down source = some down →
      ∀ position, ¬ (up.Covers position ∧ down.Covers position) := by
  intro h
  have hupRange : (find? .up swallowingClass).map (fun body => (body.offset, body.text.length)) =
      some (40, 177) := by decide +kernel
  have hdownRange : (find? .down swallowingClass).map (fun body => (body.offset, body.text.length)) =
      some (179, 36) := by decide +kernel
  obtain ⟨up, hup, hupRange⟩ := Option.map_eq_some_iff.mp hupRange
  obtain ⟨down, hdown, hdownRange⟩ := Option.map_eq_some_iff.mp hdownRange
  obtain ⟨hupOffset, hupLength⟩ := Prod.mk.inj hupRange
  obtain ⟨hdownOffset, hdownLength⟩ := Prod.mk.inj hdownRange
  exact h swallowingClass up down hup hdown 190 ⟨⟨by omega, by omega⟩, by omega, by omega⟩

end MethodBody

end MigrationPreview
