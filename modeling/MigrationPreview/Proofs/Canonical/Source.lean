import MigrationPreview.Proofs.Canonical.Block
import MigrationPreview.Proofs.Canonical.Scan

/-!
# Reading a canonical migration

The signatures of the two methods are the only ones in the source of a canonical migration, since no
statement holds the word that begins them with a blank behind it. Their bodies are what was rendered
between their braces, so reading the source gives back what the statements denote.

## Main results

* `Canonical.Quiet`: texts in which no signature begins
* `Canonical.find?_up`, `Canonical.find?_down`: the bodies of a canonical migration
* `Canonical.parse_render`: reading a canonical migration gives what its statements denote
-/

namespace MigrationPreview.Canonical

open Text

variable {cs ds : List Char}

/-! ### Quiet texts -/

/-- The word that begins a signature. -/
def firstWord : List Char := "public".toList

/-- A text in which no signature begins, whatever stands behind the text. -/
def Quiet : List Char → Prop
  | [] => True
  | c :: cs => (∀ rest, readSpaced firstWord (c :: (cs ++ rest)) = none) ∧ Quiet cs

theorem Quiet.append (hcs : Quiet cs) (hds : Quiet ds) : Quiet (cs ++ ds) := by
  induction cs with
  | nil => exact hds
  | cons c cs ih =>
    refine ⟨fun rest => ?_, ih hcs.2⟩
    have hquiet := hcs.1 (ds ++ rest)
    rwa [← List.append_assoc] at hquiet

theorem readSignature_eq_none (h : readSpaced firstWord cs = none) (method : List Char) :
    readSignature method cs = none := by
  rw [readSignature, show readSpaced "public".toList cs = none from h]
  rfl

/-- A search for a signature passes over a quiet text. -/
theorem firstMatch_append_of_quiet (h : Quiet cs) (method rest : List Char) :
    firstMatch (readSignature method) (cs ++ rest) = firstMatch (readSignature method) rest := by
  induction cs with
  | nil => rfl
  | cons c cs ih =>
    rw [List.cons_append, firstMatch_cons, readSignature_eq_none (h.1 rest), Option.none_or]
    exact ih h.2

/-- The first word of a signature needs a blank behind it. -/
theorem readSpaced_eq_none (hblank : ∀ c ∈ cs, isBlank c = false)
    (hlast : ∃ c ∉ firstWord, cs.getLast? = some c) (rest : List Char) :
    readSpaced firstWord (cs ++ rest) = none := by
  cases hread : readSpaced firstWord (cs ++ rest) with
  | none => rfl
  | some behind =>
    obtain ⟨blanks, hne, hblanks, htext⟩ := eq_append_of_readSpaced hread
    obtain ⟨last, hlast, hgetLast⟩ := hlast
    rw [List.append_assoc] at htext
    rcases List.append_eq_append_iff.mp htext with ⟨more, hword, -⟩ | ⟨more, hcs, hblanks'⟩
    · -- the text ends inside the word, so its last character is one of the word
      have hmem : last ∈ firstWord := by
        rw [hword]
        exact List.mem_append_left _ (List.mem_of_getLast? hgetLast)
      exact absurd hmem hlast
    · cases more with
      | nil =>
        rw [List.append_nil] at hcs
        exact absurd (hcs ▸ List.mem_of_getLast? hgetLast) hlast
      | cons c more =>
        cases blanks with
        | nil => exact absurd rfl hne
        | cons blank blanks =>
          obtain ⟨rfl, -⟩ := List.cons_eq_cons.mp hblanks'
          have hc : isBlank blank = true := List.all_eq_true.mp hblanks _ List.mem_cons_self
          rw [hblank blank (by rw [hcs]; simp)] at hc
          simp at hc

/-- A text without blanks that does not end in a letter of the first word is quiet. -/
theorem quiet_of_getLast? {c : Char} (hcs : ∀ d ∈ cs, isBlank d = false) (hc : isBlank c = false)
    (hword : c ∉ firstWord) : Quiet (cs ++ [c]) := by
  induction cs with
  | nil =>
    have hblank : ∀ d ∈ [c], isBlank d = false := by simpa using hc
    exact ⟨readSpaced_eq_none hblank ⟨c, hword, rfl⟩, trivial⟩
  | cons d cs ih =>
    have hblank : ∀ e ∈ d :: cs ++ [c], isBlank e = false := by
      intro e he
      rw [List.mem_append, List.mem_singleton] at he
      rcases he with he | rfl
      · exact hcs e he
      · exact hc
    exact ⟨readSpaced_eq_none hblank ⟨c, hword, List.getLast?_concat⟩,
      ih fun e he => hcs e (List.mem_cons_of_mem _ he)⟩

/-- Whether a text ends in the first letter of the first word or holds its first two letters. -/
def mayBeginWord : List Char → Bool
  | [] => false
  | ['p'] => true
  | 'p' :: 'u' :: _ => true
  | _ :: cs => mayBeginWord cs

theorem quiet_of_not_mayBeginWord (h : mayBeginWord cs = false) : Quiet cs := by
  fun_induction mayBeginWord cs with
  | case1 => trivial
  | case2 => simp at h
  | case3 => simp at h
  | case4 c cs hlast hpair ih =>
    refine ⟨fun rest => ?_, ih h⟩
    have hexpect : expect firstWord (c :: (cs ++ rest)) = none := by
      by_cases hc : c = 'p'
      · cases cs with
        | nil => exact absurd rfl (hlast hc)
        | cons d cs =>
          have hd : 'u' ≠ d := fun hd => hpair cs hc (by rw [hd])
          rw [hc]
          exact if_neg hd
      · exact if_neg fun heq => hc heq.symm
    rw [readSpaced, hexpect]

/-! ### The text of a method -/

theorem quiet_quoted (name : Name) : Quiet name.quoted := by
  have hblank : ∀ c ∈ '\x27' :: name.chars, isBlank c = false := by
    intro c hc
    rcases List.mem_cons.mp hc with rfl | hc
    · decide
    · exact not_isBlank_of_isNameChar (name.isNameChar_of_mem hc)
  exact quiet_of_getLast? hblank (by decide) (by decide)

theorem quiet_method (h : ∀ c ∈ cs, isNameChar c = true) : Quiet (cs ++ ['(']) :=
  quiet_of_getLast? (fun c hc => not_isBlank_of_isNameChar (h c hc)) (by decide) (by decide)

theorem compositional_quiet : Compositional Quiet where
  nil := trivial
  append := Quiet.append
  quoted := quiet_quoted

/-- No signature begins in the body of a method. -/
theorem quiet_bodyText (statements : List Statement) : Quiet (bodyText statements) := by
  have hmarks : ∀ c ∈ statementMarks, mayBeginWord [c] = false := by decide
  have hfixed : ∀ cs ∈ fixedParts, mayBeginWord cs = false := by decide
  have hopen : Quiet ['\x7b'] := quiet_of_not_mayBeginWord (by decide)
  have hclose : Quiet ['\x7d'] := quiet_of_not_mayBeginWord (by decide)
  exact compositional_quiet.bodyText (fun _ => quiet_method)
    (fun c hc => quiet_of_not_mayBeginWord (hmarks c hc))
    (fun cs hcs => quiet_of_not_mayBeginWord (hfixed cs hcs))
    (fun _ hcs => (hopen.append hcs).append hclose) statements

/-! ### The lines of a body -/

/-- No line of a statement holds a line break. -/
theorem newline_notMem_lines (statement : Statement) : ∀ line ∈ statement.lines, '\n' ∉ line := by
  have hcompositional : Compositional fun cs => ∀ c ∈ cs, c ≠ '\n' :=
    compositional_forall (fun c hc => ne_of_isNameChar hc (by decide)) (by decide)
  have hcall : ∀ {method : String} (table : Name) {ending : List Char}, '\n' ∉ method.toList →
      '\n' ∉ ending → '\n' ∉ Statement.margin ++ Statement.call method table ending := by
    intro method table ending hmethod hending hmem
    have htext := hcompositional.append (show ∀ c ∈ Statement.margin, c ≠ '\n' by decide)
      (hcompositional.call (hcompositional.append (fun c hc heq => hmethod (heq ▸ hc)) (by decide))
        (by decide) table fun c hc heq => hending (heq ▸ hc))
    exact htext '\n' hmem rfl
  rcases statement with ⟨create, table, statements⟩ | ⟨ifExists, table⟩
  · intro line hline
    simp only [Statement.lines, List.mem_cons, List.mem_append, List.mem_map, List.not_mem_nil,
      or_false] at hline
    rcases hline with rfl | ⟨statement, -, rfl⟩ | rfl
    · exact hcall table (by cases create <;> decide) (by decide)
    · rw [List.mem_append, not_or]
      exact ⟨by decide, notMem_render (by decide) (by decide) statement⟩
    · decide
  · intro line hline
    obtain rfl := List.mem_singleton.mp hline
    exact hcall table (by cases ifExists <;> decide) (by decide)

/-- The lines of a body are an empty line, those of its statements and what stands in front of its
closing brace. -/
theorem splitOn_bodyText (statements : List Statement) :
    (bodyText statements).splitOn '\n' =
      [] :: (statements.flatMap Statement.lines ++ [lastLine]) := by
  refine List.splitOn_intercalate '\n' ?_ (by simp)
  intro line hline
  rcases List.mem_cons.mp hline with rfl | hline
  · exact List.not_mem_nil
  · rcases List.mem_append.mp hline with hline | hline
    · obtain ⟨statement, -, hline⟩ := List.mem_flatMap.mp hline
      exact newline_notMem_lines statement line hline
    · obtain rfl := List.mem_singleton.mp hline
      decide

theorem count_bodyText (statements : List Statement) :
    (bodyText statements).count '\n' = (statements.flatMap Statement.lines).length + 1 := by
  have hlength := length_splitOn (bodyText statements)
  rw [splitOn_bodyText] at hlength
  simpa using hlength.symm

/-! ### The source -/

/-- Where the search for a signature ends behind the brace of a canonical body, the operations of the
method are what the statements denote. -/
theorem operationsIn_eq {direction : Direction} {before rest : List Char}
    (statements : List Statement)
    (hfirst : firstMatch (readSignature direction.name.toList)
      (before ++ (bodyText statements ++ '\x7d' :: rest)) =
        some (bodyText statements ++ '\x7d' :: rest)) :
    operationsIn direction (before ++ (bodyText statements ++ '\x7d' :: rest)) =
      denote direction (before.count '\n' + 2) statements := by
  have hclose : beforeClosing .code 0 (bodyText statements ++ '\x7d' :: rest) =
      some (bodyText statements) := by
    rw [balanced_bodyText, show beforeClosing .code 0 ('\x7d' :: rest) = some [] from rfl,
      Option.map_some, List.append_nil]
  have hbody : MethodBody.find? direction (before ++ (bodyText statements ++ '\x7d' :: rest)) =
      some ⟨bodyText statements, before.length, 1 + before.count '\n', false⟩ :=
    MethodBody.find?_eq_some_iff.mpr
      ⟨before, _, rfl, hfirst, rfl, rfl, .inl ⟨rfl, hclose⟩⟩
  have hempty : isPassedOver (trim []) = true := rfl
  rw [operationsIn, hbody]
  simp only [MethodBody.operations]
  rw [splitOn_bodyText, operationsOfLines_of_isPassedOver hempty, operationsOfLines_lines _ (by decide)]
  congr 1
  omega

theorem readSignature_up (rest : List Char) :
    readSignature (Direction.name .up).toList (upSignature ++ rest) = some rest := rfl

theorem readSignature_down (rest : List Char) :
    readSignature (Direction.name .down).toList (downSignature ++ rest) = some rest := rfl

/-- The signature of `up` is passed over in the search for that of `down`. -/
theorem firstMatch_down_append_upSignature (rest : List Char) :
    firstMatch (readSignature (Direction.name .down).toList) (upSignature ++ rest) =
      firstMatch (readSignature (Direction.name .down).toList) rest := by
  have htail : Quiet upSignature.tail := quiet_of_not_mayBeginWord (by decide)
  have hread : readSignature (Direction.name .down).toList (upSignature ++ rest) = none := rfl
  rw [show upSignature ++ rest = 'p' :: (upSignature.tail ++ rest) from rfl] at hread ⊢
  rw [firstMatch_cons, hread, Option.none_or, firstMatch_append_of_quiet htail]

theorem operationsIn_up (up : List Statement) (rest : List Char) :
    operationsIn .up (header ++ upSignature ++ (bodyText up ++ '\x7d' :: rest)) =
      denote .up 7 up := by
  have hheader : Quiet header := quiet_of_not_mayBeginWord (by decide)
  refine operationsIn_eq up ?_
  rw [List.append_assoc, firstMatch_append_of_quiet hheader]
  exact firstMatch_of_eq_some (readSignature_up _)

/-- What stands in front of the body of `down`. -/
def beforeDown (up : List Statement) : List Char :=
  header ++ upSignature ++ (bodyText up ++ (middle ++ downSignature))

theorem count_beforeDown (up : List Statement) :
    (beforeDown up).count '\n' = (up.flatMap Statement.lines).length + 9 := by
  have hfixed : header.count '\n' + upSignature.count '\n' + middle.count '\n' +
      downSignature.count '\n' = 8 := by decide
  simp only [beforeDown, List.count_append, count_bodyText]
  omega

theorem operationsIn_down (up down : List Statement) (rest : List Char) :
    operationsIn .down (beforeDown up ++ (bodyText down ++ '\x7d' :: rest)) =
      denote .down ((up.flatMap Statement.lines).length + 11) down := by
  have hheader : Quiet header := quiet_of_not_mayBeginWord (by decide)
  have hmiddle : Quiet middle := quiet_of_not_mayBeginWord (by decide)
  rw [operationsIn_eq down, count_beforeDown]
  simp only [beforeDown, List.append_assoc]
  rw [firstMatch_append_of_quiet hheader, firstMatch_down_append_upSignature,
    firstMatch_append_of_quiet (quiet_bodyText up), firstMatch_append_of_quiet hmiddle]
  exact firstMatch_of_eq_some (readSignature_down _)

/-- Reading a canonical migration gives exactly the operations that its statements denote: those of
`up` first, in the order of the statements, each with its details and its line. -/
theorem parse_render (up down : List Statement) :
    Script.parse (render up down) =
      Script.ofOperations
        (denote .up 7 up ++ denote .down ((up.flatMap Statement.lines).length + 11) down) := by
  obtain ⟨behindUp, hbehindUp⟩ : ∃ behind, middle = '\x7d' :: behind := ⟨_, rfl⟩
  obtain ⟨behindDown, hbehindDown⟩ : ∃ behind, footer = '\x7d' :: behind := ⟨_, rfl⟩
  have hsource : (render up down).toList = header ++ (upSignature ++ (bodyText up ++
      (middle ++ (downSignature ++ (bodyText down ++ footer))))) := String.toList_ofList
  have hup : operationsIn .up (render up down).toList = denote .up 7 up := by
    rw [hsource, hbehindUp, ← List.append_assoc]
    exact operationsIn_up up _
  have hdown : operationsIn .down (render up down).toList =
      denote .down ((up.flatMap Statement.lines).length + 11) down := by
    rw [← operationsIn_down up down behindDown, hsource, hbehindDown]
    simp only [beforeDown, List.append_assoc]
  rw [Script.parse, hup, hdown]

end MigrationPreview.Canonical
