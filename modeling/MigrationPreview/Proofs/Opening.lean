import MigrationPreview.Proofs.Canonical.Source
import MigrationPreview.Proofs.Lexical.Declaration

/-!
# Where a body begins

The signature of a method is found in the source as a head, which ends with the parenthesis that closes the
parameter list, a clause, which may name a return type, and a brace. A return type is any run of
characters without blanks and taken as long as possible, so code that is written close behind the type is
read as a part of it. A body begins at the first brace behind the head unless that run holds a brace and
another one comes within the run or right behind it; then it begins at the last one.

## Main definitions

* `IsHead`, `IsReturnClause`: the parts of a signature in front of its brace
* `isCrowded`: whether the code behind a head is written so close that a later brace is taken
* `MethodBody.Opens`: where a body begins in its source

## Main results

* `exists_clause_of_readBrace`: the brace that is read, and when it is the first one
* `isSome_readSignature_iff`: a signature is read exactly where one begins
* `MethodBody.exists_opens`: every body that is found begins behind a signature
* `MethodBody.notMem_clause_iff`: when a body begins at the first brace behind its head
-/

namespace MigrationPreview

open Text

variable {direction : Direction} {cs rest head clause after behind source : List Char}

/-! ### Heads -/

/-- The head of the public method of a direction. Its parameter list ends with the first closing
parenthesis. -/
def IsHead (direction : Direction) (head : List Char) : Prop :=
  ∃ blanks blanks' blanks'' parameters : List Char, blanks ≠ [] ∧ blanks.all isBlank ∧
    blanks' ≠ [] ∧ blanks'.all isBlank ∧ blanks''.all isBlank ∧ ')' ∉ parameters ∧
    head = "public".toList ++ (blanks ++ ("function".toList ++ (blanks' ++ (direction.name.toList ++
      (blanks'' ++ '(' :: (parameters ++ [')']))))))

/-- Reads the head of a method. -/
def readHead (method cs : List Char) : Option (List Char) := do
  let cs ← readSpaced "public".toList cs
  let cs ← readSpaced "function".toList cs
  readParameters (skipBlanks (← expect method cs))

theorem readSignature_eq_bind (method cs : List Char) :
    readSignature method cs = (readHead method cs).bind readBrace := by
  simp only [readSignature, readHead, Option.bind_eq_bind, Option.bind_assoc]

/-- What the reader of heads has read is a head. -/
theorem exists_isHead_of_readHead (h : readHead direction.name.toList cs = some rest) :
    ∃ head, IsHead direction head ∧ cs = head ++ rest := by
  obtain ⟨spaced, hspaced, h⟩ := Option.bind_eq_some_iff.mp h
  obtain ⟨named, hnamed, h⟩ := Option.bind_eq_some_iff.mp h
  obtain ⟨listed, hlisted, h⟩ := Option.bind_eq_some_iff.mp h
  obtain ⟨parameters, hparameters, hlist⟩ := exists_parameters_of_readParameters h
  obtain ⟨blanks'', hblanks'', hskip⟩ := exists_blanks_append_skipBlanks listed
  obtain ⟨blanks, hne, hblanks, rfl⟩ := eq_append_of_readSpaced hspaced
  obtain ⟨blanks', hne', hblanks', rfl⟩ := eq_append_of_readSpaced hnamed
  refine ⟨_, ⟨blanks, blanks', blanks'', parameters, hne, hblanks, hne', hblanks', hblanks'',
    hparameters, rfl⟩, ?_⟩
  rw [eq_append_of_expect hlisted, hskip, hlist]
  simp only [List.append_assoc, List.cons_append, List.nil_append]

/-- A head is read up to its end. -/
theorem readHead_append (h : IsHead direction head) (rest : List Char) :
    readHead direction.name.toList (head ++ rest) = some rest := by
  obtain ⟨blanks, blanks', blanks'', parameters, hne, hblanks, hne', hblanks', hblanks'', hparameters,
    rfl⟩ := h
  have hname (cs : List Char) :
      skipBlanks (direction.name.toList ++ cs) = direction.name.toList ++ cs := by
    cases direction <;> exact skipBlanks_cons_of_not_isBlank (by decide) _
  have hlist : readParameters ('(' :: (parameters ++ ')' :: rest)) = some rest := by
    have hbefore : ∀ c ∈ parameters, (c != ')') = true := fun c hc =>
      bne_iff_ne.mpr fun heq => hparameters (heq ▸ hc)
    rw [readParameters, List.dropWhile_append_of_pos hbefore,
      List.dropWhile_cons_of_neg (by simp)]
  have hparenthesis : skipBlanks ('(' :: (parameters ++ ')' :: rest)) =
      '(' :: (parameters ++ ')' :: rest) := skipBlanks_cons_of_not_isBlank (by decide) _
  have hfunction (cs : List Char) : skipBlanks ("function".toList ++ cs) = "function".toList ++ cs :=
    skipBlanks_cons_of_not_isBlank (by decide) _
  simp only [List.append_assoc, List.cons_append, List.nil_append]
  rw [readHead, readSpaced_append hne hblanks (hfunction _), Option.bind_eq_bind, Option.bind_some,
    readSpaced_append hne' hblanks' (hname _), Option.bind_some, expect_append, Option.bind_some,
    skipBlanks_append hblanks'', hparenthesis, hlist]

/-! ### Return clauses -/

/-- What may stand between a head and the brace: blanks, or a colon and a return type with blanks around
them. -/
inductive IsReturnClause : List Char → Prop
  | blank {blanks : List Char} (isBlank : blanks.all isBlank) : IsReturnClause blanks
  | type {front blanks type behind : List Char} (isBlank_front : front.all isBlank)
      (isBlank : blanks.all isBlank) (ne_nil : type ≠ []) (isSolid : type.all (!Text.isBlank ·))
      (isBlank_behind : behind.all Text.isBlank) :
      IsReturnClause (front ++ ':' :: (blanks ++ (type ++ behind)))

/-- Whether the code behind a head is crowded: the run of characters without blanks behind the colon holds a
brace, and another one comes within the run or as the first character behind it that is not blank. -/
def isCrowded (after : List Char) : Bool :=
  match skipBlanks after with
  | ':' :: cs =>
    let run := (skipBlanks cs).takeWhile (!isBlank ·)
    let behind := (skipBlanks cs).dropWhile (!isBlank ·)
    run.contains '{' && (1 < run.count '{' || (skipBlanks behind).head? == some '{')
  | _ => false

theorem brace_notMem_of_all_isBlank (h : cs.all isBlank) : '{' ∉ cs := fun hmem =>
  absurd (List.all_eq_true.mp h _ hmem) (by decide)

theorem isSome_behindLastBrace?_append {type : List Char} (h : type ≠ []) (rest : List Char) :
    (behindLastBrace? (type ++ '{' :: rest)).isSome := by
  have hbehind : ((type ++ '{' :: rest).reverse.takeWhile (· != '{')).length ≤ rest.length := by
    rw [List.reverse_append, List.reverse_cons, List.append_assoc, List.takeWhile_append]
    split
    · simp
    · exact (List.takeWhile_prefix _).length_le.trans (by simp)
  -- the last brace may be a later one, but it too has the type in front of it
  have hpos := List.length_pos_iff.mpr h
  rw [behindLastBrace?, if_pos]
  · rfl
  · simp only [List.length_append, List.length_cons]
    omega

/-- The brace that is taken behind a colon and its blanks ends a type, and it is the first one unless the
code is crowded. -/
theorem exists_type_of_readReturnType (h : readReturnType cs = some rest) :
    ∃ type gap : List Char, type ≠ [] ∧ type.all (!isBlank ·) ∧ gap.all isBlank ∧
      cs = type ++ (gap ++ '{' :: rest) ∧
      ('{' ∈ type ↔ ((cs.takeWhile (!isBlank ·)).contains '{' &&
        (1 < (cs.takeWhile (!isBlank ·)).count '{' ||
          (skipBlanks (cs.dropWhile (!isBlank ·))).head? == some '{')) = true) := by
  have hcs : cs = cs.takeWhile (!isBlank ·) ++ cs.dropWhile (!isBlank ·) :=
    List.takeWhile_append_dropWhile.symm
  have hsolid : (cs.takeWhile (!isBlank ·)).all (!isBlank ·) := List.all_takeWhile
  rw [readReturnType] at h
  generalize cs.takeWhile (!isBlank ·) = run at *
  generalize cs.dropWhile (!isBlank ·) = behind at *
  split at h
  · next c more rest' hskip =>
    -- the brace stands behind the run, so every brace within the run comes earlier
    obtain rfl := Option.some_inj.mp h
    obtain ⟨gap, hgap, hbehind⟩ := exists_blanks_append_skipBlanks behind
    refine ⟨c :: more, gap, by simp, hsolid, hgap, by rw [hcs, ← hskip, ← hbehind], ?_⟩
    simp [hskip]
  · next hnot =>
    obtain ⟨inRun, hrun, rfl⟩ := Option.map_eq_some_iff.mp h
    obtain ⟨type, hne, rfl, hlast⟩ := exists_front_of_behindLastBrace? hrun
    rw [List.all_append, Bool.and_eq_true] at hsolid
    -- the brace is the last one of the run, and none comes behind the run
    have hhead : ((skipBlanks behind).head? == some '{') = false := by
      by_contra hhead
      obtain ⟨more, hmore⟩ := List.head?_eq_some_iff.mp (by simpa using hhead)
      obtain ⟨c, type', rfl⟩ := List.exists_cons_of_ne_nil hne
      exact hnot c (type' ++ '{' :: inRun) more rfl hmore
    refine ⟨type, [], hne, hsolid.1, rfl, by simp [hcs], ?_⟩
    simp [hhead, List.count_append, List.count_eq_zero.mpr hlast]

/-- What is read behind a head is a clause and a brace. Another brace stands in the clause exactly
if the code is crowded. -/
theorem exists_clause_of_readBrace (h : readBrace after = some behind) :
    ∃ clause, IsReturnClause clause ∧ after = clause ++ '{' :: behind ∧
      ('{' ∈ clause ↔ isCrowded after = true) := by
  obtain ⟨front, hfront, hafter⟩ := exists_blanks_append_skipBlanks after
  unfold readBrace at h
  split at h
  · next rest hskip =>
    obtain rfl := Option.some_inj.mp h
    refine ⟨front, .blank hfront, by rw [← hskip, ← hafter], ?_⟩
    simp [isCrowded, hskip, brace_notMem_of_all_isBlank hfront]
  · next rest hskip =>
    obtain ⟨blanks, hblanks, hrest⟩ := exists_blanks_append_skipBlanks rest
    obtain ⟨type, gap, hne, hsolid, hgap, htype, hbrace⟩ := exists_type_of_readReturnType h
    refine ⟨front ++ ':' :: (blanks ++ (type ++ gap)), .type hfront hblanks hne hsolid hgap, ?_, ?_⟩
    · simp only [List.append_assoc, List.cons_append]
      rw [← htype, ← hrest, ← hskip, ← hafter]
    · rw [isCrowded, hskip]
      simpa [brace_notMem_of_all_isBlank hfront, brace_notMem_of_all_isBlank hblanks,
        brace_notMem_of_all_isBlank hgap] using hbrace
  · simp at h

/-- Behind a clause a brace is read, though not always the one behind the clause. -/
theorem isSome_readBrace_append (h : IsReturnClause clause) (behind : List Char) :
    (readBrace (clause ++ '{' :: behind)).isSome := by
  have hbrace : skipBlanks ('{' :: behind) = '{' :: behind :=
    skipBlanks_cons_of_not_isBlank (by decide) behind
  cases h with
  | blank hblank => simp [readBrace, skipBlanks_append hblank, hbrace]
  | @type front blanks type gap hfront hblanks hne hsolid hgap =>
    obtain ⟨c, type, rfl⟩ := List.exists_cons_of_ne_nil hne
    have hc : isBlank c = false := by simpa using List.all_eq_true.mp hsolid c List.mem_cons_self
    have hcolon (cs : List Char) : skipBlanks (':' :: cs) = ':' :: cs :=
      skipBlanks_cons_of_not_isBlank (by decide) cs
    simp only [readBrace, List.append_assoc, List.cons_append, skipBlanks_append hfront, hcolon,
      skipBlanks_append hblanks, skipBlanks_cons_of_not_isBlank hc]
    rw [← List.cons_append, readReturnType,
      List.takeWhile_append_of_pos (List.all_eq_true.mp hsolid),
      List.dropWhile_append_of_pos (List.all_eq_true.mp hsolid)]
    cases gap with
    | nil =>
      -- the run goes on behind the type, so a brace that is not its first character lies within it
      split
      · rfl
      · rw [List.nil_append, List.takeWhile_cons_of_pos (by decide), Option.isSome_map]
        exact isSome_behindLastBrace?_append hne _
    | cons d gap =>
      have hd : (!isBlank d) = false := by simpa using List.all_eq_true.mp hgap d List.mem_cons_self
      have hdrop : (d :: gap ++ '{' :: behind).dropWhile (!isBlank ·) = d :: gap ++ '{' :: behind :=
        List.dropWhile_cons_of_neg (by simp [hd])
      rw [hdrop, skipBlanks_append hgap, hbrace]
      rfl

/-! ### Signatures -/

/-- Whether a text begins with a signature of the method of a direction: a head, a clause and a
brace. -/
def BeginsSignature (direction : Direction) (cs : List Char) : Prop :=
  ∃ head clause behind, IsHead direction head ∧ IsReturnClause clause ∧
    cs = head ++ (clause ++ '{' :: behind)

/-- What is read of a signature are its parts. -/
theorem exists_parts_of_readSignature (h : readSignature direction.name.toList cs = some behind) :
    ∃ head clause, IsHead direction head ∧ IsReturnClause clause ∧
      cs = head ++ (clause ++ '{' :: behind) := by
  rw [readSignature_eq_bind] at h
  obtain ⟨after, hafter, hbrace⟩ := Option.bind_eq_some_iff.mp h
  obtain ⟨head, hhead, hcs⟩ := exists_isHead_of_readHead hafter
  obtain ⟨clause, hclause, hsplit, -⟩ := exists_clause_of_readBrace hbrace
  exact ⟨head, clause, hhead, hclause, by rw [hcs, hsplit]⟩

/-- Behind its head, a signature is read as a clause and a brace. -/
theorem readSignature_append (h : IsHead direction head) (after : List Char) :
    readSignature direction.name.toList (head ++ after) = readBrace after := by
  rw [readSignature_eq_bind, readHead_append h, Option.bind_some]

/-- A signature is read exactly where one begins. -/
theorem isSome_readSignature_iff :
    (readSignature direction.name.toList cs).isSome ↔ BeginsSignature direction cs := by
  constructor
  · intro h
    obtain ⟨behind, h⟩ := Option.isSome_iff_exists.mp h
    obtain ⟨head, clause, hhead, hclause, hcs⟩ := exists_parts_of_readSignature h
    exact ⟨head, clause, behind, hhead, hclause, hcs⟩
  · rintro ⟨head, clause, behind, hhead, hclause, rfl⟩
    rw [readSignature_append hhead]
    exact isSome_readBrace_append hclause behind

instance : Decidable (BeginsSignature direction cs) :=
  decidable_of_iff _ isSome_readSignature_iff

/-! ### Bodies -/

namespace MethodBody

/-- A body begins in its source behind a signature, whose parts are given together with the text in front
of it and behind it. -/
structure Opens (body : MethodBody) (direction : Direction)
    (source before head clause behind : List Char) : Prop where
  source_eq : source = before ++ (head ++ (clause ++ '{' :: behind))
  isHead : IsHead direction head
  isReturnClause : IsReturnClause clause
  /-- No signature begins further to the left. -/
  isFirst : ∀ skipped, skipped ≠ [] → skipped <:+ before →
    ¬ BeginsSignature direction (skipped ++ (head ++ (clause ++ '{' :: behind)))
  /-- The body begins right behind the brace. -/
  offset_eq : body.offset = (before ++ (head ++ (clause ++ ['{']))).length
  isPrefix_text : body.text <+: behind

variable {body : MethodBody} {before : List Char}

/-- Every body that is found begins behind a signature. -/
theorem exists_opens (h : find? direction source = some body) :
    ∃ before head clause behind, body.Opens direction source before head clause behind := by
  obtain ⟨front, behind, hsource, hmatch, hoffset, -, htext⟩ := find?_eq_some_iff.mp h
  obtain ⟨before, cs, rfl, hread, hleft⟩ := firstMatch_eq_some_iff.mp hmatch
  obtain ⟨head, clause, hhead, hclause, rfl⟩ := exists_parts_of_readSignature hread
  have hfront : front = before ++ (head ++ (clause ++ ['{'])) :=
    List.append_cancel_right (by simpa using hsource.symm)
  refine ⟨before, head, clause, behind, rfl, hhead, hclause, ?_, by rw [hoffset, hfront], ?_⟩
  · intro skipped hne hsuffix hbegins
    have hsome := isSome_readSignature_iff.mpr hbegins
    rw [hleft skipped hne hsuffix] at hsome
    simp at hsome
  · rcases htext with ⟨-, hclosed⟩ | ⟨-, -, hopen⟩
    · obtain ⟨rest, rfl⟩ := exists_brace_of_beforeClosing hclosed
      exact List.prefix_append _ _
    · exact hopen ▸ isPrefix_beforeDeclaration true behind

/-- Behind the head of the signature, the brace of a body is the one that is read. -/
theorem Opens.readBrace_eq (hopens : body.Opens direction source before head clause behind)
    (h : find? direction source = some body) :
    readBrace (clause ++ '{' :: behind) = some behind := by
  obtain ⟨front, behind', hsource, hmatch, hoffset, -, -⟩ := find?_eq_some_iff.mp h
  obtain ⟨found, hfound⟩ :=
    Option.isSome_iff_exists.mp (isSome_readBrace_append hopens.isReturnClause behind)
  have hfirst : firstMatch (readSignature direction.name.toList) source = some found := by
    refine firstMatch_eq_some_iff.mpr ⟨before, _, hopens.source_eq,
      (readSignature_append hopens.isHead _).trans hfound, ?_⟩
    intro skipped hne hsuffix
    have hnone := mt isSome_readSignature_iff.mp (hopens.isFirst skipped hne hsuffix)
    simpa using hnone
  -- what was found has the length of the text behind the brace, and both end the source
  obtain rfl : behind' = found := Option.some_inj.mp (hmatch.symm.trans hfirst)
  have hsplit : front ++ behind' = before ++ (head ++ (clause ++ ['{'])) ++ behind := by
    rw [← hsource, hopens.source_eq]
    simp only [List.append_assoc, List.cons_append, List.nil_append]
  obtain ⟨-, rfl⟩ := List.append_inj hsplit (hoffset.symm.trans hopens.offset_eq)
  exact hfound

/-- Every body that is found begins behind a signature, and no earlier brace stands behind the head of that
signature exactly if the code there is not crowded. -/
theorem notMem_clause_iff (direction : Direction) (source : List Char) (body : MethodBody)
    (h : find? direction source = some body) :
    (∃ before head clause behind,
      body.Opens direction source before head clause behind) ∧
    ∀ before head clause behind, body.Opens direction source before head clause behind →
      ('{' ∉ clause ↔ isCrowded (clause ++ '{' :: behind) = false) := by
  refine ⟨exists_opens h, fun before head clause behind hopens => ?_⟩
  obtain ⟨clause', -, hclause, hbrace⟩ :=
    exists_clause_of_readBrace (hopens.readBrace_eq h)
  rw [← List.append_cancel_right hclause] at hbrace
  rw [hbrace, Bool.not_eq_true]

/-- What stands in front of the signature in `compactSource`. -/
def classHead : List Char := "<?php\nclass M \x7b\n    ".toList

/-- The head in `compactSource`. -/
def upHead : List Char := "public function up()".toList

/-- The code of `compactSource` up to its second brace. -/
def compactCode : List Char := "Schema::drop('users');if(true)".toList

/-- The source behind the second brace of the method in `compactSource`. -/
def behindCode : List Char := " Schema::drop('posts'); \x7d\x7d\n\x7d\n".toList

/-- A source whose method has a return type and its code on the line of the brace, with the given blanks
behind that brace. -/
def compactSource (blanks : List Char) : List Char :=
  classHead ++ (upHead ++ (": void".toList ++ '{' :: (blanks ++ (compactCode ++ '{' :: behindCode))))

/-- The body that begins at the first brace of `compactSource`. -/
def wholeBody : MethodBody where
  text := " Schema::drop('users');if(true)\x7b Schema::drop('posts'); \x7d".toList
  offset := 47
  startLine := 3
  truncated := false

/-- The body that begins at the second brace of `compactSource`. -/
def innerBody : MethodBody where
  text := " Schema::drop('posts'); ".toList
  offset := 78
  startLine := 3
  truncated := false

theorem isHead_upHead : IsHead .up upHead :=
  ⟨[' '], [' '], [], [], by simp, by decide, by simp, by decide, rfl, by simp, rfl⟩

/-- With a blank behind its brace the code is not crowded, and the body begins at the first brace. -/
theorem notMem_clause_of_blank :
    ∃ before head clause behind, find? .up (compactSource [' ']) = some wholeBody ∧
      wholeBody.Opens .up (compactSource [' ']) before head clause behind ∧
      isCrowded (clause ++ '{' :: behind) = false ∧ '{' ∉ clause := by
  have hfind : find? .up (compactSource [' ']) = some wholeBody := by decide +kernel
  have hfirst : ∀ skipped ∈ classHead.tails, skipped ≠ [] → ¬ BeginsSignature .up (skipped ++
      (upHead ++ (": void".toList ++ '{' :: ([' '] ++ (compactCode ++ '{' :: behindCode))))) := by
    decide +kernel
  have hopens : wholeBody.Opens .up (compactSource [' ']) classHead upHead ": void".toList
      ([' '] ++ (compactCode ++ '{' :: behindCode)) :=
    { source_eq := rfl
      isHead := isHead_upHead
      isReturnClause :=
        @IsReturnClause.type [] [' '] "void".toList [] rfl (by decide) (by simp) (by decide) rfl
      isFirst := fun skipped hne hsuffix => hfirst skipped ((List.mem_tails _ _).mpr hsuffix) hne
      offset_eq := by decide +kernel
      isPrefix_text := by decide +kernel }
  have hcrowded : isCrowded (": void".toList ++ '{' :: ([' '] ++ (compactCode ++ '{' :: behindCode))) =
      false := by decide +kernel
  exact ⟨_, _, _, _, hfind, hopens, hcrowded,
    ((notMem_clause_iff .up _ _ hfind).2 _ _ _ _ hopens).mpr hcrowded⟩

/-- With the code right behind its brace the return type runs through that brace, and the body begins at
the next one: the statements up to there are not a part of the body. -/
theorem mem_clause_of_crowded :
    ∃ before head clause behind, find? .up (compactSource []) = some innerBody ∧
      innerBody.Opens .up (compactSource []) before head clause behind ∧
      clause = ": void\x7bSchema::drop('users');if(true)".toList ∧ '{' ∈ clause := by
  have hfind : find? .up (compactSource []) = some innerBody := by decide +kernel
  have hfirst : ∀ skipped ∈ classHead.tails, skipped ≠ [] → ¬ BeginsSignature .up (skipped ++
      (upHead ++ ((": void".toList ++ '{' :: compactCode) ++ '{' :: behindCode))) := by
    decide +kernel
  have hopens : innerBody.Opens .up (compactSource []) classHead upHead
      (": void".toList ++ '{' :: compactCode) behindCode :=
    { source_eq := rfl
      isHead := isHead_upHead
      isReturnClause := @IsReturnClause.type [] [' '] ("void".toList ++ '{' :: compactCode) [] rfl (by decide)
        (by simp) (by decide) rfl
      isFirst := fun skipped hne hsuffix => hfirst skipped ((List.mem_tails _ _).mpr hsuffix) hne
      offset_eq := by decide +kernel
      isPrefix_text := by decide +kernel }
  exact ⟨_, _, _, _, hfind, hopens, by decide +kernel, by decide +kernel⟩

end MethodBody

end MigrationPreview
