import MigrationPreview.Proofs.Comment.Blank
import MigrationPreview.Proofs.Comment.Declaration
import MigrationPreview.Proofs.LineNumber

/-!
# Migrations with and without their comments

The scanner and the reading of lines see comments differently: a line that begins as a comment is passed
over even if code follows on it, and the calls of a line count even if they stand in a comment. Where the
comments of both bodies are set apart from their code, the two views agree, and blanks in place of the
comments change no operation.

They have to be set apart from the ends of the bodies as well. A signature that stands in a comment of the
other body may be the first one, and it is one no more when the comment is blank; then the body is another one.
If no comment is in the signatures, the body begins where it did, and a closed body is closed by the same
brace. A body that nothing closes ends where it did but for blank lines, if no comment is in the declarations.

## Main definitions

* `withoutComments`: a source with blanks in place of the comments in its bodies
* `CommentsApart`: the comments of a source are set apart from its code

## Main results

* `exists_find?_withoutComments`: the bodies of the source without comments
* `Script.parse_withoutComments`: comments that are set apart do not matter
* `Script.parse_withoutComments_ne`: other comments may matter
-/

namespace MigrationPreview

open Text

variable {direction direction' : Direction} {source : List Char} {body : MethodBody}

/-! ### Blanks in place of comments -/

namespace MethodBody

/-- The text of a body with its comments marked. -/
def marked (body : MethodBody) : Marked := Lexical.mark .code body.text

/-- Whether a position of the source stands in a comment of a body. -/
def commentAt (body : MethodBody) (position : Nat) : Bool :=
  decide (body.offset ≤ position) && body.marked[position - body.offset]?.any (·.2)

/-- One of two bodies ends, with its closing brace, before the other one begins. -/
def Apart (first second : MethodBody) : Prop :=
  first.offset + first.text.length < second.offset ∨
    second.offset + second.text.length < first.offset

instance (first second : MethodBody) : Decidable (first.Apart second) :=
  inferInstanceAs (Decidable (_ ∨ _))

theorem Apart.symm {first second : MethodBody} (h : first.Apart second) : second.Apart first :=
  Or.symm h

@[simp] theorem text_marked (body : MethodBody) : body.marked.text = body.text :=
  Lexical.text_mark _ _

theorem length_marked (body : MethodBody) : body.marked.length = body.text.length := by
  rw [← text_marked, Marked.text, List.length_map]

theorem commentAt_offset_add (body : MethodBody) (index : Nat) :
    body.commentAt (body.offset + index) = body.marked[index]?.any (·.2) := by
  simp [commentAt]

/-- The characters of a body stand in its source from its offset on. -/
theorem getElem?_offset_add (hbody : find? direction source = some body) {index : Nat}
    (hindex : index < body.text.length) : source[body.offset + index]? = body.text[index]? := by
  obtain ⟨before, after, hsource, hoffset, -⟩ := exists_source_eq hbody
  rw [hsource, hoffset, List.append_assoc, List.getElem?_append_right (by omega),
    Nat.add_sub_cancel_left, List.getElem?_append_left hindex]

theorem getElem?_text {index : Nat} {c : Char} {flag : Bool}
    (h : body.marked[index]? = some (c, flag)) : body.text[index]? = some c := by
  rw [← body.text_marked, Marked.text, List.getElem?_map, h]
  rfl

/-- The comments of a body lie within it. -/
theorem commentAt_eq_false (body : MethodBody) {position : Nat}
    (h : position < body.offset ∨ body.offset + body.text.length ≤ position) :
    body.commentAt position = false := by
  rcases h with hfront | hbehind
  · simp [commentAt, hfront]
  · obtain ⟨index, rfl⟩ := Nat.exists_eq_add_of_le (Nat.le_of_add_right_le hbehind)
    have hlength : body.marked.length ≤ index := by
      rw [length_marked]
      omega
    rw [commentAt_offset_add, List.getElem?_eq_none hlength]
    rfl

end MethodBody

/-- Whether a position of a source stands in a comment of one of its bodies. -/
def commentAt (source : List Char) (position : Nat) : Bool :=
  (MethodBody.find? .up source).any (·.commentAt position) ||
    (MethodBody.find? .down source).any (·.commentAt position)

/-- The source with the comments in its bodies marked. -/
def markComments (source : List Char) : Marked :=
  source.mapIdx fun position c => (c, commentAt source position)

/-- The source with blanks in place of the comments in its bodies, line breaks apart. -/
def withoutComments (source : String) : String := String.ofList (markComments source.toList).code

@[simp] theorem text_markComments (source : List Char) : (markComments source).text = source := by
  refine List.ext_getElem (by simp [markComments, Marked.text]) fun position _ _ => ?_
  simp [markComments, Marked.text]

theorem commentAt_iff {position : Nat} : commentAt source position = true ↔
    ∃ direction body, MethodBody.find? direction source = some body ∧
      body.commentAt position = true := by
  simp only [commentAt, Bool.or_eq_true, Option.any_eq_true]
  constructor
  · rintro (h | h)
    · exact ⟨.up, h⟩
    · exact ⟨.down, h⟩
  · rintro ⟨direction, h⟩
    cases direction with
    | up => exact .inl h
    | down => exact .inr h

/-- The marks of a body from the beginning of its source. -/
def MethodBody.flags (body : MethodBody) : List Bool :=
  List.replicate body.offset false ++ body.marked.map Prod.snd

theorem MethodBody.commentAt_eq_getD (body : MethodBody) (position : Nat) :
    body.commentAt position = body.flags.getD position false := by
  rw [flags, List.getD_eq_getElem?_getD]
  by_cases hfront : position < body.offset
  · rw [body.commentAt_eq_false (.inl hfront), List.getElem?_append_left (by simpa using hfront)]
    simp [hfront]
  · obtain ⟨index, rfl⟩ := Nat.exists_eq_add_of_le (Nat.le_of_not_lt hfront)
    rw [commentAt_offset_add, List.getElem?_append_right (by simp), List.length_replicate,
      Nat.add_sub_cancel_left, List.getElem?_map]
    cases body.marked[index]? <;> rfl

/-- A text with the marks of two lists. -/
def Marked.ofFlags : List Char → List Bool → List Bool → Marked
  | [], _, _ => []
  | c :: cs, flags, flags' =>
    (c, flags.headD false || flags'.headD false) :: ofFlags cs flags.tail flags'.tail

theorem Marked.ofFlags_eq (cs : List Char) (flags flags' : List Bool) : ofFlags cs flags flags' =
    cs.mapIdx fun position c => (c, flags.getD position false || flags'.getD position false) := by
  induction cs generalizing flags flags' with
  | nil => rfl
  | cons c cs ih =>
    rw [ofFlags, ih, List.mapIdx_cons]
    cases flags <;> cases flags' <;> simp

/-- The source with the comments in its bodies marked, in one walk. -/
def overlay (source : List Char) : Marked :=
  let flags direction := ((MethodBody.find? direction source).map MethodBody.flags).getD []
  Marked.ofFlags source (flags .up) (flags .down)

theorem markComments_eq_overlay (source : List Char) : markComments source = overlay source := by
  have hflags (direction : Direction) (position : Nat) :
      (MethodBody.find? direction source).any (·.commentAt position) =
        (((MethodBody.find? direction source).map MethodBody.flags).getD []).getD position false := by
    cases MethodBody.find? direction source with
    | none => rfl
    | some body => exact body.commentAt_eq_getD position
  simp only [overlay, Marked.ofFlags_eq, markComments, commentAt, hflags]

/-- Line breaks are not marked. -/
theorem newline_notMem_markComments (source : List Char) : ('\n', true) ∉ markComments source := by
  intro hmem
  obtain ⟨position, hposition, heq⟩ := List.mem_mapIdx.mp hmem
  obtain ⟨hbreak, hcomment⟩ := Prod.mk.inj heq
  obtain ⟨direction, body, hbody, hcomment⟩ := commentAt_iff.mp hcomment
  rw [MethodBody.commentAt, Bool.and_eq_true, decide_eq_true_eq] at hcomment
  obtain ⟨hle, hmark⟩ := hcomment
  obtain ⟨index, rfl⟩ := Nat.exists_eq_add_of_le hle
  rw [Nat.add_sub_cancel_left, Option.any_eq_true] at hmark
  obtain ⟨⟨c, flag⟩, hindex, rfl⟩ := hmark
  have htext := MethodBody.getElem?_text hindex
  have hc := MethodBody.getElem?_offset_add hbody (List.getElem?_eq_some_iff.mp htext).1
  rw [List.getElem?_eq_getElem hposition, hbreak, htext] at hc
  rw [← Option.some_inj.mp hc] at hindex
  exact Lexical.newline_notMem_mark _ _ (List.mem_of_getElem? hindex)

theorem count_code {marked : Marked} (h : ('\n', true) ∉ marked) :
    marked.code.count '\n' = marked.text.count '\n' := by
  induction marked with
  | nil => rfl
  | cons x marked ih =>
    obtain ⟨c, flag⟩ := x
    rw [List.mem_cons, not_or] at h
    rw [Marked.code_cons, Marked.text_cons, List.count_cons, List.count_cons, ih h.2]
    cases flag with
    | false => rfl
    | true =>
      have hc : c ≠ '\n' := fun heq => h.1 (by rw [heq])
      simp [hc]

/-! ### Comments that are set apart -/

/-- The comments in the bodies of a source are set apart from its code. -/
structure CommentsApart (source : List Char) : Prop where
  /-- No signature that begins in front of the body of its method has a comment in it. -/
  signatures (direction : Direction) : ∀ position < source.length,
    (∀ body ∈ MethodBody.find? direction source, position < body.offset) →
      Marked.ReadsApart (readSignature direction.name.toList) ((markComments source).drop position) = true
  /-- From its opening brace up to its closing brace a body has no comments but its own. -/
  own (direction : Direction) : ∀ body ∈ MethodBody.find? direction source, ∀ index ≤ body.text.length,
    commentAt source (body.offset + index) = body.commentAt (body.offset + index)
  /-- To the scanner that finds no closing brace of a body, all that is marked are whole comments. -/
  whole (direction : Direction) : ∀ body ∈ MethodBody.find? direction source, body.truncated = true →
    Marked.WholeComments .code false ((markComments source).drop body.offset) = true
  /-- No declaration that begins a line behind the opening brace of such a body has a comment in it. -/
  declarations (direction : Direction) : ∀ body ∈ MethodBody.find? direction source,
    body.truncated = true → Marked.DeclarationsApart true ((markComments source).drop body.offset) = true
  /-- On all lines of a body comments and calls do not mix. -/
  lines (direction : Direction) : ∀ body ∈ MethodBody.find? direction source,
    Marked.LinesApart body.marked.lines = true

/-- Where no body reaches into the other one, each has no comments but its own. -/
theorem commentAt_of_apart
    (hapart : ∀ up ∈ MethodBody.find? .up source, ∀ down ∈ MethodBody.find? .down source, up.Apart down)
    (hbody : MethodBody.find? direction source = some body) {index : Nat}
    (hindex : index ≤ body.text.length) :
    commentAt source (body.offset + index) = body.commentAt (body.offset + index) := by
  rw [Bool.eq_iff_iff, commentAt_iff]
  refine ⟨?_, fun hown => ⟨direction, body, hbody, hown⟩⟩
  rintro ⟨direction', other, hother, hcomment⟩
  by_cases hne : direction = direction'
  · subst hne
    rwa [← Option.some_inj.mp (hbody.symm.trans hother)] at hcomment
  · have hbodies : body.Apart other := by
      cases direction <;> cases direction'
      · exact absurd rfl hne
      · exact hapart body hbody other hother
      · exact (hapart other hother body hbody).symm
      · exact absurd rfl hne
    have houtside : body.offset + index < other.offset ∨
        other.offset + other.text.length ≤ body.offset + index := by
      rcases hbodies with hlt | hlt
      · exact .inl (by omega)
      · exact .inr (by omega)
    rw [other.commentAt_eq_false houtside] at hcomment
    exact absurd hcomment (by decide)

/-! ### Bodies without comments -/

theorem length_markComments (source : List Char) : (markComments source).length = source.length :=
  List.length_mapIdx

/-- Behind its opening brace stands a body with its own comments marked. -/
theorem drop_markComments (h : CommentsApart source)
    (hbody : MethodBody.find? direction source = some body) :
    (markComments source).drop body.offset =
      body.marked ++ (markComments source).drop (body.offset + body.text.length) := by
  obtain ⟨before, after, hsource, hoffset, -⟩ := MethodBody.exists_source_eq hbody
  have hlength : source.length = body.offset + body.text.length + after.length := by
    rw [hsource, hoffset, List.length_append, List.length_append]
  have htake : ((markComments source).drop body.offset).take body.text.length = body.marked := by
    refine List.ext_getElem ?_ fun index hleft hright => ?_
    · rw [MethodBody.length_marked]
      simp [markComments, hlength]
      omega
    · have hindex : index < body.text.length := by rwa [MethodBody.length_marked] at hright
      have hflag := h.own direction body hbody index hindex.le
      have hchar := MethodBody.getElem?_offset_add hbody hindex
      have hmarked := List.getElem?_eq_getElem hright
      rw [MethodBody.getElem?_text hmarked, List.getElem?_eq_getElem (by omega)] at hchar
      rw [MethodBody.commentAt_offset_add, hmarked] at hflag
      simp only [markComments, List.getElem_take, List.getElem_drop, List.getElem_mapIdx, hflag,
        Option.some_inj.mp hchar]
      rfl
  rw [← htake, ← List.drop_drop, List.take_append_drop]

/-- Line breaks in front of a body are counted alike with and without comments. -/
theorem count_take_code (source : List Char) (count : Nat) :
    ((markComments source).code.take count).count '\n' = (source.take count).count '\n' := by
  have hmem : ('\n', true) ∉ (markComments source).take count := fun hmem =>
    newline_notMem_markComments source (List.mem_of_mem_take hmem)
  rw [← Marked.code_take, count_code hmem, Marked.text_take, text_markComments]

/-- The closing brace of a body stays where it is. -/
theorem getElem?_closing (h : CommentsApart source)
    (hbody : MethodBody.find? direction source = some body) {behind : List Char}
    (hbehind : source.drop body.offset = body.text ++ '\x7d' :: behind) :
    (markComments source)[body.offset + body.text.length]? = some ('\x7d', false) := by
  have hbrace : source[body.offset + body.text.length]? = some '\x7d' := by
    rw [← List.getElem?_drop, hbehind, List.getElem?_append_right le_rfl, Nat.sub_self]
    rfl
  have hflag : commentAt source (body.offset + body.text.length) = false := by
    rw [h.own direction body hbody _ le_rfl, body.commentAt_eq_false (.inr le_rfl)]
  rw [markComments, List.getElem?_mapIdx, hbrace, Option.map_some, hflag]

/-- Without comments a closed body is closed by the same brace. -/
theorem beforeClosing_drop_code (h : CommentsApart source)
    (hbody : MethodBody.find? direction source = some body) (hclosed : body.truncated = false) :
    beforeClosing .code 0 ((markComments source).code.drop body.offset) = some body.marked.code := by
  have hclose := MethodBody.beforeClosing_of_closed hbody hclosed
  obtain ⟨behind, hbehind⟩ := exists_brace_of_beforeClosing hclose
  have hbrace := getElem?_closing h hbody hbehind
  obtain ⟨hlt, hbrace⟩ := List.getElem?_eq_some_iff.mp hbrace
  rw [hbehind] at hclose
  rw [← Marked.code_drop, drop_markComments h hbody, List.drop_eq_getElem_cons hlt, hbrace,
    Marked.code_append, Marked.code_cons]
  exact beforeClosing_code hclose _

/-- Without comments a body that nothing closes is still closed by nothing, and it lacks blank lines only. -/
theorem exists_beforeDeclaration_drop_code (h : CommentsApart source)
    (hbody : MethodBody.find? direction source = some body) (htruncated : body.truncated = true) :
    beforeClosing .code 0 ((markComments source).code.drop body.offset) = none ∧
      ∃ blanks : List Char, blanks.all isBlank ∧
        body.marked.code =
          beforeDeclaration true ((markComments source).code.drop body.offset) ++ blanks ∧
        (blanks = [] ∨ EndsLine (beforeDeclaration true ((markComments source).code.drop body.offset))) := by
  obtain ⟨hclose, htext⟩ := MethodBody.beforeClosing_of_truncated hbody htruncated
  have hdrop : Marked.text ((markComments source).drop body.offset) = source.drop body.offset := by
    rw [Marked.text, List.map_drop]
    exact congrArg _ (text_markComments source)
  rw [← Marked.code_drop]
  constructor
  · have hopen := isSome_beforeClosing_code (h.whole direction body hbody htruncated) 0
    rw [hdrop, hclose, Lexical.behind_code] at hopen
    simpa using hopen
  · have hbreak : ('\n', true) ∉ (markComments source).drop body.offset := fun hmem =>
      newline_notMem_markComments source (List.mem_of_mem_drop hmem)
    obtain ⟨blanks, hblanks, hcode, hends⟩ :=
      exists_beforeDeclaration_code hbreak (h.declarations direction body hbody htruncated)
    rw [hdrop, ← htext, drop_markComments h hbody, List.take_left' body.length_marked,
      ← drop_markComments h hbody] at hcode
    exact ⟨blanks, hblanks, hcode, hends.imp_right And.left⟩

/-- Without its comments a source has its signatures where they were. -/
theorem map_length_firstMatch_markComments (h : CommentsApart source) (direction : Direction) :
    (firstMatch (readSignature direction.name.toList) (markComments source).code).map List.length =
      (firstMatch (readSignature direction.name.toList) source).map List.length := by
  have hsignatures : ∀ start : Marked, start <:+ markComments source →
      (∀ rest ∈ firstMatch (readSignature direction.name.toList) (markComments source).text,
        rest.length < start.length) →
      start.ReadsApart (readSignature direction.name.toList) = true := by
    rintro start ⟨front, hfront⟩ hstart
    have hlength : front.length + start.length = source.length := by
      rw [← length_markComments, ← hfront, List.length_append]
    have hdrop : (markComments source).drop front.length = start := by
      rw [← hfront, List.drop_left]
    cases start with
    | nil => cases direction <;> rfl
    | cons x start =>
      rw [← hdrop]
      refine h.signatures direction _ (by rw [← hlength]; simp) fun body hbody => ?_
      obtain ⟨before, behind, rfl, hbehind, hoffset, -⟩ := MethodBody.find?_eq_some_iff.mp hbody
      rw [text_markComments] at hstart
      have hlt := hstart behind hbehind
      rw [List.length_append] at hlength
      omega
  have hfirst := map_length_firstMatch_code (isPrefixReader_readSignature direction) hsignatures
  rwa [text_markComments] at hfirst

/-- Without its comments a source has the same bodies without their comments, and without some blank lines at
their ends. -/
theorem exists_find?_withoutComments (h : CommentsApart source)
    (hbody : MethodBody.find? direction source = some body) :
    ∃ body' blanks, MethodBody.find? direction (markComments source).code = some body' ∧
      body'.startLine = body.startLine ∧ blanks.all isBlank ∧
      body.marked.code = body'.text ++ blanks ∧ (blanks = [] ∨ EndsLine body'.text) := by
  obtain ⟨before, behind, rfl, hbehind, hoffset, hline, -⟩ := MethodBody.find?_eq_some_iff.mp hbody
  have hfirst := map_length_firstMatch_markComments h direction
  rw [hbehind, Option.map_some, Option.map_eq_some_iff] at hfirst
  obtain ⟨behind', hbehind', hlength⟩ := hfirst
  obtain ⟨before', hsource⟩ := MethodBody.exists_append_of_firstMatch hbehind'
  have hbefore : before'.length = body.offset := by
    have hboth := congrArg List.length hsource
    rw [Marked.length_code, text_markComments, List.length_append, List.length_append] at hboth
    omega
  have hdrop : (markComments (before ++ behind)).code.drop body.offset = behind' := by
    rw [hsource, ← hbefore, List.drop_left]
  have hcount : before'.count '\n' = before.count '\n' := by
    have hboth := count_take_code (before ++ behind) body.offset
    rwa [hsource, List.take_left' hbefore, List.take_left' hoffset.symm] at hboth
  cases hend : body.truncated with
  | false =>
    have hclose := beforeClosing_drop_code h hbody hend
    rw [hdrop] at hclose
    exact ⟨⟨body.marked.code, body.offset, body.startLine, false⟩, [],
      MethodBody.find?_eq_some_iff.mpr ⟨before', behind', hsource, hbehind', hbefore.symm, by
        rw [hline, hcount], .inl ⟨rfl, hclose⟩⟩, rfl, rfl, (List.append_nil _).symm, .inl rfl⟩
  | true =>
    obtain ⟨hclose, blanks, hblanks, hcode, hends⟩ := exists_beforeDeclaration_drop_code h hbody hend
    rw [hdrop] at hclose hcode hends
    exact ⟨⟨beforeDeclaration true behind', body.offset, body.startLine, true⟩, blanks,
      MethodBody.find?_eq_some_iff.mpr ⟨before', behind', hsource, hbehind', hbefore.symm, by
        rw [hline, hcount], .inr ⟨rfl, hclose, rfl⟩⟩, rfl, hblanks, hcode, hends⟩

theorem find?_withoutComments_eq_none (h : CommentsApart source)
    (hnone : MethodBody.find? direction source = none) :
    MethodBody.find? direction (markComments source).code = none := by
  have hfirst := map_length_firstMatch_markComments h direction
  rw [MethodBody.firstMatch_eq_none_of_find? hnone, Option.map_none, Option.map_eq_none_iff] at hfirst
  rw [MethodBody.find?, hfirst]
  rfl

/-! ### Operations without comments -/

/-- The operations of a direction are the same without comments that are set apart, definitions
apart. -/
theorem operationsIn_markComments (h : CommentsApart source) (direction : Direction) :
    (operationsIn direction (markComments source).code).map Operation.withoutDefinition =
      (operationsIn direction source).map Operation.withoutDefinition := by
  cases hbody : MethodBody.find? direction source with
  | none => rw [operationsIn, operationsIn, hbody, find?_withoutComments_eq_none h hbody]
  | some body =>
    obtain ⟨body', blanks, hbody', hline, hblanks, htext, hends⟩ := exists_find?_withoutComments h hbody
    have hbreak : ('\n', true) ∉ body.marked := Lexical.newline_notMem_mark _ _
    have hlines : body.text.splitOn '\n' = body.marked.lines.map Marked.text := by
      rw [Marked.text_lines, MethodBody.text_marked]
    have hcode : (operationsOfLines direction none body.startLine (body'.text.splitOn '\n')).map
          Operation.withoutDefinition =
        (operationsOfLines direction none body.startLine (body.marked.code.splitOn '\n')).map
          Operation.withoutDefinition := by
      rw [htext]
      rcases hends with rfl | hends
      · rw [List.append_nil]
      · exact (operationsOfLines_splitOn_append direction hends hblanks none body.startLine).symm
    rw [operationsIn, operationsIn, hbody, hbody']
    dsimp only
    rw [MethodBody.operations, MethodBody.operations, hline, hlines, hcode, ← Marked.code_lines hbreak]
    exact (operationsOfLines_congr direction
      (fun line hmem => Marked.isChain_of_mem_lines (isChain_mark .code body.text) hmem)
      (h.lines direction body hbody) none body.startLine).symm

namespace Script

theorem indexByLine_map_withoutDefinition (ops : List Operation) :
    indexByLine (ops.map Operation.withoutDefinition) = indexByLine ops :=
  indexByLine_map (f := Operation.withoutDefinition) (fun _ => rfl) (fun _ => rfl) ops

theorem operations_parse_withoutComments (source : String) :
    (parse (withoutComments source)).operations =
      operationsIn .up (markComments source.toList).code ++
        operationsIn .down (markComments source.toList).code := by
  rw [parse, withoutComments, String.toList_ofList]
  rfl

/-- Blanks in place of the comments change no operation, definitions apart, if the comments are set apart from
the code. -/
theorem parse_withoutComments {source : String} (hapart : CommentsApart source.toList) :
    (parse (withoutComments source)).operations.map Operation.withoutDefinition =
        (parse source).operations.map Operation.withoutDefinition ∧
      (parse (withoutComments source)).lineIndex = (parse source).lineIndex := by
  have hoperations : (parse (withoutComments source)).operations.map Operation.withoutDefinition =
      (parse source).operations.map Operation.withoutDefinition := by
    rw [operations_parse_withoutComments, List.map_append, operationsIn_markComments hapart,
      operationsIn_markComments hapart, ← List.map_append]
    rfl
  refine ⟨hoperations, ?_⟩
  have hindex : ∀ source, (parse source).lineIndex = indexByLine (parse source).operations :=
    fun _ => rfl
  rw [hindex, hindex, ← indexByLine_map_withoutDefinition, hoperations,
    indexByLine_map_withoutDefinition]

theorem operations_parse_ofList (source : List Char) :
    (parse (String.ofList source)).operations =
      operationsIn .up source ++ operationsIn .down source := by
  rw [parse, String.toList_ofList]
  rfl

/-- A migration with comments of all kinds, in which nothing closes the second body. -/
def annotated : List Char :=
  ['\n'].intercalate <| List.map String.toList
    ["public function up() \x7b",
      "// Schema::drop('users');",
      "Schema::table('posts', function ($t) \x7b /* posts */",
      "$t->foreign('by') # owner's",
      "->references('id')->on('users');",
      "\x7d); \x7d",
      "public function down() \x7b",
      "Schema::drop('tags'); // \x7b",
      "/* next */",
      "private function helper()"]

theorem forall_direction {P : Direction → Prop} (h : ∀ direction ∈ [Direction.up, .down], P direction)
    (direction : Direction) : P direction := by
  cases direction <;> exact h _ (by decide)

theorem commentsApart_annotated : CommentsApart annotated := by
  have hbodies : (∀ up ∈ MethodBody.find? .up annotated, ∀ down ∈ MethodBody.find? .down annotated,
        up.Apart down) ∧
      ∀ direction ∈ [Direction.up, .down],
        (∀ position < annotated.length,
          (∀ body ∈ MethodBody.find? direction annotated, position < body.offset) →
            Marked.ReadsApart (readSignature direction.name.toList) ((overlay annotated).drop position) =
              true) ∧
        ∀ body ∈ MethodBody.find? direction annotated,
          Marked.WholeComments .code false ((overlay annotated).drop body.offset) = true ∧
            Marked.DeclarationsApart true ((overlay annotated).drop body.offset) = true ∧
            Marked.LinesApart body.marked.lines = true := by
    decide +kernel
  rw [← markComments_eq_overlay] at hbodies
  obtain ⟨hapart, hbodies⟩ := hbodies
  have hbodies := forall_direction hbodies
  exact {
    signatures := fun direction => (hbodies direction).1
    own := fun _ _ hbody _ hindex => commentAt_of_apart hapart hbody hindex
    whole := fun direction body hbody _ => ((hbodies direction).2 body hbody).1
    declarations := fun direction body hbody _ => ((hbodies direction).2 body hbody).2.1
    lines := fun direction body hbody => ((hbodies direction).2 body hbody).2.2 }

/-- The comments of the migration are apart from its code, and all three operations are there without them. -/
theorem parse_annotated_withoutComments :
    CommentsApart annotated ∧ (parse (String.ofList annotated)).operations.length = 3 ∧
      (parse (withoutComments (String.ofList annotated))).operations.map Operation.withoutDefinition =
        (parse (String.ofList annotated)).operations.map Operation.withoutDefinition := by
  have hapart := commentsApart_annotated
  refine ⟨hapart, ?_, ?_⟩
  · rw [operations_parse_ofList]
    decide +kernel
  · rw [← String.toList_ofList (l := annotated)] at hapart
    exact (parse_withoutComments hapart).1

/-- A migration with code behind a comment. -/
def hiddenDrop : List Char :=
  ['\n'].intercalate <| List.map String.toList
    ["class M \x7b public function up() \x7b",
      "  /* gone */ Schema::drop('posts');",
      "\x7d \x7d"]

/-- Comments may matter: code behind a comment at the beginning of a line is passed over with it. -/
theorem parse_withoutComments_ne : ¬ ∀ source : String,
    (parse (withoutComments source)).operations.map Operation.withoutDefinition =
      (parse source).operations.map Operation.withoutDefinition := by
  intro h
  have hlength := congrArg List.length (h (String.ofList hiddenDrop))
  rw [List.length_map, List.length_map, operations_parse_withoutComments, operations_parse_ofList,
    String.toList_ofList] at hlength
  have hwithout : (operationsIn .up (markComments hiddenDrop).code ++
      operationsIn .down (markComments hiddenDrop).code).length = 1 := by decide +kernel
  have hwith : (operationsIn .up hiddenDrop ++ operationsIn .down hiddenDrop).length = 0 := by
    decide +kernel
  rw [hwithout, hwith] at hlength
  exact absurd hlength (by decide)

end Script

end MigrationPreview
