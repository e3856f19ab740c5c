import MigrationPreview.Proofs.Canonical.Chain
import MigrationPreview.Proofs.Pair.Reader

/-!
# Calls that complete a foreign key

A chain on a foreign key names what the key refers to and its rules by calls of four methods, whose arguments
are plain words in quotes. What a search finds in a text that holds such calls depends on the calls only, and
not on the blanks between them; of two texts, one behind the other, the calls of the first come first.

## Main definitions

* `PlainWords`: the arguments of a call
* `KeyCall`: a call of one of the four methods
* `Carries`: a text that holds some calls, as far as a search can tell

## Main results

* `Carries.append`: texts behind each other
* `KeyCall.carries_render`, `carries_foreign`: the text of a call, and the call that begins the chain
-/

namespace MigrationPreview

open Text Canonical

variable {cs ds : List Char}

/-! ### Words -/

/-- Whether a character may stand in the arguments of a call: each one may except those by which calls,
lists and statements are found. -/
def isPlainChar (c : Char) : Bool := !(['-', '(', ';', '[', ']'].contains c)

/-- A plain word in quotes of either kind, with blanks around it. -/
structure PlainWord where
  before : Blanks
  quote : { c : Char // Call.isQuote c = true }
  name : String
  isName : IsName name
  isPlain : name.toList.all isPlainChar
  behind : Blanks

/-- Plain words with commas between them. -/
structure PlainWords where
  first : PlainWord
  others : List PlainWord

/-- The word in its quotes. -/
def PlainWord.quoted (word : PlainWord) : List Char :=
  word.quote.val :: (word.name.toList ++ [word.quote.val])

/-- The text of a word. -/
def PlainWord.render (word : PlainWord) : List Char :=
  word.before.val ++ (word.quoted ++ word.behind.val)

/-- Further words, each behind a comma. -/
def PlainWord.renderMore (words : List PlainWord) : List Char :=
  words.flatMap fun word => ',' :: word.render

/-- The text of some words. -/
def PlainWords.render (words : PlainWords) : List Char :=
  words.first.render ++ PlainWord.renderMore words.others

/-- Some words without their quotes. -/
def PlainWords.texts (words : PlainWords) : List String :=
  (words.first :: words.others).map (·.name)

/-- The second word, if there is one. -/
def PlainWords.second? (words : PlainWords) : Option String :=
  words.others.head?.map (·.name)

theorem isPlainChar_of_isBlank {c : Char} (h : isBlank c = true) : isPlainChar c = true := by
  have hmarks : ∀ d ∈ ['-', '(', ';', '[', ']'], isBlank d = false := by decide
  rw [isPlainChar, Bool.not_eq_true', List.contains_eq_mem, decide_eq_false_iff_not]
  intro hmem
  rw [hmarks c hmem] at h
  exact absurd h (by decide)

theorem isPlainChar_of_isQuote {c : Char} (h : Call.isQuote c = true) : isPlainChar c = true := by
  simp only [Call.isQuote, Bool.or_eq_true, beq_iff_eq] at h
  rcases h with rfl | rfl <;> decide

namespace PlainWord

variable (word : PlainWord)

theorem isPlainChar_of_mem_render {c : Char} (h : c ∈ word.render) : isPlainChar c = true := by
  have hblank (blanks : Blanks) (hc : c ∈ blanks.val) : isPlainChar c = true :=
    isPlainChar_of_isBlank (List.all_eq_true.mp blanks.2 c hc)
  have hquote := isPlainChar_of_isQuote word.quote.2
  simp only [render, quoted, List.mem_append, List.mem_cons, List.not_mem_nil, or_false] at h
  rcases h with hc | (rfl | hc | rfl) | hc
  · exact hblank _ hc
  · exact hquote
  · exact List.all_eq_true.mp word.isPlain c hc
  · exact hquote
  · exact hblank _ hc

theorem isPlainChar_of_mem_renderMore {words : List PlainWord} {c : Char}
    (h : c ∈ renderMore words) : isPlainChar c = true := by
  obtain ⟨word, -, hc⟩ := List.mem_flatMap.mp h
  rcases List.mem_cons.mp hc with rfl | hc
  · decide
  · exact word.isPlainChar_of_mem_render hc

theorem skipBlanks_render_append (rest : List Char) :
    skipBlanks (word.render ++ rest) = word.quoted ++ (word.behind.val ++ rest) := by
  rw [render, List.append_assoc, List.append_assoc, skipBlanks_append word.before.2]
  exact skipBlanks_cons_of_not_isBlank (Call.isBlank_of_isQuote word.quote.2) _

theorem readQuoted_quoted (rest : List Char) :
    Call.readQuoted (word.quoted ++ rest) = some (word.name, rest) := by
  have hne : word.name.toList ≠ [] := by simpa using word.isName.ne_empty
  have hname : word.name.toList.all (!Call.isQuote ·) := by simpa using word.isName.isQuote_eq_false
  rw [quoted, List.cons_append, List.append_assoc, List.singleton_append]
  exact Call.readQuoted_append_quote word.quote.2 word.quote.2 hne hname rest

/-- Behind a word, what is read is the word behind the next comma. -/
theorem readNext_renderMore (blanks : Blanks) (words : List PlainWord) (rest : List Char) :
    (Call.readNext (blanks.val ++ (renderMore words ++ ')' :: rest))).map Prod.fst =
      words.head?.map (·.name) := by
  rw [Call.readNext, skipBlanks_append blanks.2]
  cases words with
  | nil =>
    -- the parenthesis stands where a comma would have to
    have hparenthesis : skipBlanks (')' :: rest) = ')' :: rest :=
      skipBlanks_cons_of_not_isBlank (by decide) rest
    rw [renderMore, List.flatMap_nil, List.nil_append, hparenthesis]
    rfl
  | cons word words =>
    have hcomma (cs : List Char) : skipBlanks (',' :: cs) = ',' :: cs :=
      skipBlanks_cons_of_not_isBlank (by decide) cs
    have hexpect (cs : List Char) : expect [','] (',' :: cs) = some cs := rfl
    rw [renderMore, List.flatMap_cons, List.cons_append, List.cons_append, hcomma, hexpect,
      Option.bind_eq_bind, Option.bind_some, List.append_assoc, skipBlanks_render_append,
      readQuoted_quoted]
    rfl

end PlainWord

namespace PlainWords

variable (words : PlainWords)

theorem isPlainChar_of_mem_render {c : Char} (h : c ∈ words.render) : isPlainChar c = true :=
  (List.mem_append.mp h).elim words.first.isPlainChar_of_mem_render
    PlainWord.isPlainChar_of_mem_renderMore

theorem notMem_render {c : Char} (hc : isPlainChar c = false) : c ∉ words.render := fun hmem => by
  rw [words.isPlainChar_of_mem_render hmem] at hc
  simp at hc

/-- A reader of arguments finds a value in the words of a call, whatever follows their parenthesis. -/
def Gives {α : Type} (read : List Char → Option α) (value : PlainWords → α) : Prop :=
  ∀ words rest, read (skipBlanks (render words ++ ')' :: rest)) = some (value words)

theorem gives_quoted? : Gives Call.quoted? (·.first.name) := by
  intro words rest
  rw [render, List.append_assoc, PlainWord.skipBlanks_render_append, Call.quoted?,
    PlainWord.readQuoted_quoted, Option.map_some]

theorem gives_oneOrTwoQuoted? :
    Gives Call.oneOrTwoQuoted? fun words => (words.first.name, words.second?) := by
  intro words rest
  rw [render, List.append_assoc, PlainWord.skipBlanks_render_append, Call.oneOrTwoQuoted?,
    PlainWord.readQuoted_quoted, Option.bind_eq_bind, Option.bind_some]
  dsimp only
  rw [PlainWord.readNext_renderMore]
  rfl

end PlainWords

/-! ### Calls -/

/-- The methods that complete a foreign key. -/
inductive KeyMethod where
  | references
  | on
  | onUpdate
  | onDelete
  deriving DecidableEq

/-- The name of a method. -/
def KeyMethod.name : KeyMethod → String
  | references => "references"
  | on => "on"
  | onUpdate => "onUpdate"
  | onDelete => "onDelete"

theorem KeyMethod.name_inj {method method' : KeyMethod} :
    method.name = method'.name ↔ method = method' := by
  cases method <;> cases method' <;> decide

/-- A call that completes a foreign key. -/
structure KeyCall where
  method : KeyMethod
  arguments : PlainWords

/-- The text of a call. -/
def KeyCall.render (call : KeyCall) : List Char :=
  arrowCall call.method.name call.arguments.render

/-! ### Texts that hold calls -/

/-- The word by which the line of a call of `references` is found. -/
def referencesWord : List Char := "references(".toList

/-- A text holds some calls, as far as a search can tell: in front of any other text, a search for a method
finds the first of these calls with the method, or else what it finds in the other text, and the word of
`references` occurs in it if one of the calls is of that method. -/
structure Carries (cs : List Char) (calls : List KeyCall) : Prop where
  find?_append {α : Type} {read : List Char → Option α} {value : PlainWords → α}
      (hread : PlainWords.Gives read value) (method : KeyMethod) (rest : List Char) :
    Call.find? [method.name] read (cs ++ rest) =
      ((calls.find? (·.method = method)).map fun call => (method.name, value call.arguments)).or
        (Call.find? [method.name] read rest)
  contains_append (rest : List Char) :
    Text.contains referencesWord (cs ++ rest) =
      (calls.any (·.method = .references) || Text.contains referencesWord rest)

variable {calls calls' : List KeyCall}

theorem carries_nil : Carries [] [] where
  find?_append _ _ _ := by rw [List.nil_append, List.find?_nil, Option.map_none, Option.none_or]
  contains_append _ := by rw [List.nil_append, List.any_nil, Bool.false_or]

/-- The calls of two texts behind each other are those of the first and then those of the second. -/
theorem Carries.append (h : Carries cs calls) (h' : Carries ds calls') :
    Carries (cs ++ ds) (calls ++ calls') where
  find?_append hread method rest := by
    rw [List.append_assoc, h.find?_append hread, h'.find?_append hread, List.find?_append,
      Option.map_or, Option.or_assoc]
  contains_append rest := by
    rw [List.append_assoc, h.contains_append, h'.contains_append, List.any_append, Bool.or_assoc]

theorem carries_flatMap {α : Type} {text : α → List Char} {calls : α → List KeyCall} {items : List α}
    (h : ∀ item ∈ items, Carries (text item) (calls item)) :
    Carries (items.flatMap text) (items.flatMap calls) := by
  induction items with
  | nil => exact carries_nil
  | cons item items ih =>
    exact (h item List.mem_cons_self).append (ih fun other hother => h other (List.mem_cons_of_mem _ hother))

/-- Texts that are joined by another one, which holds no calls. -/
theorem carries_intercalate {sep : List Char} (hsep : Carries sep []) {lines : List (List Char)}
    {callss : List (List KeyCall)} (h : List.Forall₂ Carries lines callss) :
    Carries (sep.intercalate lines) callss.flatten := by
  induction h with
  | nil => exact carries_nil
  | @cons line calls lines callss hline hlines ih =>
    cases hlines with
    | nil =>
      rw [List.intercalate_singleton, List.flatten_cons, List.flatten_nil, List.append_nil]
      exact hline
    | cons hnext hmore =>
      rw [List.intercalate_cons_cons, List.flatten_cons]
      have hjoined := (hline.append hsep).append ih
      rwa [List.append_nil] at hjoined

/-- Behind the end of a text, nothing is found. -/
theorem Carries.find?_eq (h : Carries cs calls) {α : Type} {read : List Char → Option α}
    {value : PlainWords → α} (hread : PlainWords.Gives read value) (method : KeyMethod) :
    Call.find? [method.name] read cs =
      (calls.find? (·.method = method)).map fun call => (method.name, value call.arguments) := by
  have hend := h.find?_append hread method []
  rwa [List.append_nil, show Call.find? [method.name] read [] = none from rfl, Option.or_none] at hend

theorem Carries.contains_eq (h : Carries cs calls) :
    Text.contains referencesWord cs = calls.any (·.method = .references) := by
  have hend := h.contains_append []
  rwa [List.append_nil, show Text.contains referencesWord [] = false from rfl, Bool.or_false] at hend

/-! ### The texts of calls -/

theorem expect_referencesWord_cons {c : Char} (hc : c ≠ 'r') (cs : List Char) :
    expect referencesWord (c :: cs) = none :=
  if_neg hc.symm

theorem contains_append_of_forall (h : 'r' ∉ cs) (rest : List Char) :
    Text.contains referencesWord (cs ++ rest) = Text.contains referencesWord rest := by
  rw [Text.contains, Text.contains, firstMatch_append_of_forall fun c hc ds =>
    expect_referencesWord_cons (fun heq => h (heq ▸ hc)) ds]

/-- A text without arrows and without the first letter of the word holds no call. -/
theorem carries_of_notMem (hdash : '-' ∉ cs) (hletter : 'r' ∉ cs) : Carries cs [] where
  find?_append hread method rest := by
    rw [List.find?_nil, Option.map_none, Option.none_or, find?_append_of_notMem hdash]
  contains_append rest := by rw [contains_append_of_forall hletter, List.any_nil, Bool.false_or]

theorem carries_blanks (blanks : Blanks) : Carries blanks.val [] := by
  have hnot {c : Char} (hc : isBlank c = false) : c ∉ blanks.val := fun hmem =>
    absurd (List.all_eq_true.mp blanks.2 c hmem) (by simp [hc])
  exact carries_of_notMem (hnot (by decide)) (hnot (by decide))

/-- The word does not occur in arguments without a parenthesis, nor does it begin there. -/
theorem contains_append_paren (h : '(' ∉ cs) (rest : List Char) :
    Text.contains referencesWord (cs ++ ')' :: rest) = Text.contains referencesWord rest := by
  induction cs with
  | nil => exact @contains_append_of_forall [')'] (by decide) rest
  | cons c cs ih =>
    -- the word would hold the closing parenthesis, or else the text would hold the opening one
    have hnone : expect referencesWord (c :: cs ++ ')' :: rest) = none := by
      refine Option.eq_none_iff_forall_ne_some.mpr fun behind hread => ?_
      have hword : referencesWord <+: c :: cs ++ [')'] ++ rest :=
        ⟨behind, by rw [← eq_append_of_expect hread, List.append_assoc, List.singleton_append]⟩
      rcases List.prefix_or_prefix_of_prefix hword (List.prefix_append _ rest) with hwithin | hbeyond
      · have hmem : '(' ∈ c :: cs ++ [')'] := hwithin.subset (by decide)
        exact h (by simpa using hmem)
      · have hmem : ')' ∈ referencesWord := hbeyond.subset (by simp)
        exact absurd hmem (by decide)
    rw [Text.contains, List.cons_append, firstMatch_cons, ← List.cons_append, hnone, Option.none_or]
    exact ih fun hmem => h (List.mem_cons_of_mem _ hmem)

/-- The call that begins the chain of a foreign key is none of those that complete it. -/
theorem carries_foreign {arguments : List Char} (hdash : '-' ∉ arguments) (hparen : '(' ∉ arguments) :
    Carries (arrowCall "foreign" arguments) [] where
  find?_append hread method rest := by
    -- the call itself is passed over, since it is none of the four methods
    have hmethod : "foreign" ∉ [method.name] := by cases method <;> decide
    rw [find?_arrowCall_append (by decide) hdash, if_neg hmethod, Option.none_or, List.find?_nil,
      Option.map_none, Option.none_or]
  contains_append rest := by
    have hfront (cs : List Char) : Text.contains referencesWord ("->foreign(".toList ++ cs) =
        Text.contains referencesWord cs := rfl
    have htext : arrowCall "foreign" arguments ++ rest =
        "->foreign(".toList ++ (arguments ++ ')' :: rest) := by
      simp [arrowCall]
    rw [htext, hfront, contains_append_paren hparen, List.any_nil, Bool.false_or]

/-- The text of a call holds the call. -/
theorem KeyCall.carries_render (call : KeyCall) : Carries call.render [call] where
  find?_append {α read value} hread method rest := by
    have hmethod : ∀ c ∈ call.method.name.toList, isNameChar c = true := by
      cases call.method <;> decide
    rw [render, find?_arrowCall_append hmethod (call.arguments.notMem_render (by decide)),
      hread call.arguments rest]
    by_cases heq : call.method = method
    · simp [heq]
    · simp [heq, KeyMethod.name_inj]
  contains_append rest := by
    obtain ⟨method, arguments⟩ := call
    have hparen : '(' ∉ arguments.render := arguments.notMem_render (by decide)
    by_cases heq : method = .references
    · subst heq
      have hsplit : referencesWord = "references".toList ++ ['('] := rfl
      have hword : referencesWord <:+: render ⟨.references, arguments⟩ ++ rest := by
        refine ⟨"->".toList, arguments.render ++ ')' :: rest, ?_⟩
        simp only [render, arrowCall, KeyMethod.name, hsplit, List.append_assoc, List.cons_append,
          List.nil_append]
      simp [contains_of_isInfix hword]
    · -- the other methods are written without the first letter of the word
      have hletter : 'r' ∉ "->".toList ++ method.name.toList ++ ['('] := by
        cases method <;> first | exact absurd rfl heq | decide
      have htext : render ⟨method, arguments⟩ ++ rest =
          "->".toList ++ method.name.toList ++ ['('] ++ (arguments.render ++ ')' :: rest) := by
        simp [render, arrowCall]
      rw [htext, contains_append_of_forall hletter, contains_append_paren hparen]
      simp [heq]

end MigrationPreview
