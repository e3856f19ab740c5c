import Mathlib.Data.List.DropRight
import MigrationPreview.Proofs.Call

/-!
# Calls that do not go on

A call that begins in one text may go on in the text behind it: its parenthesis, its arguments or the
rest of a list may stand there. Where nothing of this happens, every reader of calls finds in both texts
together what it finds in the first one alone.

## Main definitions

* `Call.Settled`: no call that begins in a text goes on behind it
* `Call.Local`: readers of arguments to which only an argument that is not complete matters
* `Call.SameMethod`: what a reader of methods finds with and without the text behind

## Main results

* `Call.readCall_append`, `Call.readNamingCall_append`, `readSchemaCall_append`: behind a settled text
  a reader finds nothing more
-/

namespace MigrationPreview

open Text

namespace Call

variable {α : Type} {cs rest : List Char}

/-! ### Settled texts -/

/-- The characters that end a call, a statement or the beginning of a block. -/
def closers : List Char := [')', ';', '\x7b', '\x7d']

/-- The characters with which a call goes on. -/
def openers : List Char := ['(', ',', '[', '\x27', '"']

/-- Whether a name at the beginning of a text, blanks apart, has its closing quote there; otherwise
`rest` must hold no quote. -/
def nameEnds (rest cs : List Char) : Bool :=
  match skipBlanks cs with
  | c :: behind => !isQuote c || behind.any isQuote || !rest.any isQuote
  | [] => true

/-- Whether the arguments that begin in a text end there, or cannot end in `rest` either. -/
def argumentsEnd (rest : List Char) : List Char → Bool
  | [] => true
  | c :: cs =>
    (c != '[' || cs.contains ']' || !rest.contains ']') &&
      (!(c == '(' || c == ',') || nameEnds rest cs) && argumentsEnd rest cs

/-- The last character of a text, blanks apart. -/
def lastMark? (cs : List Char) : Option Char := (cs.filter (!isBlank ·)).getLast?

/-- Whether no call that begins in a text goes on in `rest`. -/
def Settled (cs rest : List Char) : Bool :=
  argumentsEnd rest cs &&
    ((lastMark? cs).any closers.contains || !(skipBlanks rest).head?.any openers.contains)

theorem argumentsEnd_of_append (front : List Char) (h : argumentsEnd rest (front ++ cs) = true) :
    argumentsEnd rest cs = true := by
  induction front with
  | nil => exact h
  | cons c front ih =>
    rw [List.cons_append, argumentsEnd, Bool.and_eq_true] at h
    exact ih h.2

theorem settled_iff : Settled cs rest = true ↔ argumentsEnd rest cs = true ∧
    ((∃ c, lastMark? cs = some c ∧ c ∈ closers) ∨ ∀ c, (skipBlanks rest).head? = some c → c ∉ openers) := by
  simp only [Settled, Bool.and_eq_true, Bool.or_eq_true, Bool.not_eq_true', Option.any_eq_true,
    Option.any_eq_false, List.contains_eq_mem, decide_eq_true_eq, decide_eq_false_iff_not]

/-- A text is settled behind a character that does not end a call if it was settled with it. -/
theorem settled_of_append (front : List Char) {c : Char}
    (h : Settled (front ++ c :: cs) rest = true) (hblank : isBlank c = false) (hc : c ∉ closers) :
    Settled cs rest = true := by
  rw [settled_iff] at h ⊢
  refine ⟨argumentsEnd_of_append (front ++ [c]) (by simpa using h.1), ?_⟩
  rcases h.2 with ⟨d, hlast, hd⟩ | hopen
  · refine .inl ⟨d, ?_, hd⟩
    have hfilter : (front ++ c :: cs).filter (!isBlank ·) =
        front.filter (!isBlank ·) ++ [c] ++ cs.filter (!isBlank ·) := by
      simp [hblank]
    rw [lastMark?, hfilter, List.getLast?_append] at hlast
    cases hcs : (cs.filter (!isBlank ·)).getLast? with
    | none =>
      rw [hcs, Option.none_or, List.getLast?_concat] at hlast
      exact absurd (Option.some_inj.mp hlast ▸ hd) hc
    | some e =>
      rw [hcs, Option.some_or] at hlast
      rw [lastMark?, hcs, hlast]
  · exact .inr hopen

/-- Behind blanks the text that follows a settled one does not begin with a character with which a call
goes on. -/
theorem notMem_openers_of_settled (h : Settled cs rest = true) (hblank : skipBlanks cs = [])
    {c : Char} (hc : (skipBlanks rest).head? = some c) : c ∉ openers := by
  rcases (settled_iff.mp h).2 with ⟨d, hlast, -⟩ | hopen
  · have hfilter : cs.filter (!isBlank ·) = [] := by
      simpa [skipBlanks] using hblank
    rw [lastMark?, hfilter] at hlast
    simp at hlast
  · exact hopen c hc

/-! ### Names and lists -/

theorem skipBlanks_append_of_ne_nil (h : skipBlanks cs ≠ []) (rest : List Char) :
    skipBlanks (cs ++ rest) = skipBlanks cs ++ rest := by
  rw [skipBlanks, List.dropWhile_append, if_neg (by rwa [List.isEmpty_iff])]
  rfl

theorem skipBlanks_append_of_eq_nil (h : skipBlanks cs = []) (rest : List Char) :
    skipBlanks (cs ++ rest) = skipBlanks rest := by
  rw [skipBlanks, List.dropWhile_append, if_pos (by rwa [List.isEmpty_iff])]
  rfl

theorem dropWhile_append_of_ne_nil {p : Char → Bool} (h : cs.dropWhile p ≠ []) (rest : List Char) :
    (cs ++ rest).dropWhile p = cs.dropWhile p ++ rest := by
  rw [List.dropWhile_append, if_neg (by rwa [List.isEmpty_iff])]

theorem takeWhile_append_of_ne_nil {p : Char → Bool} (h : cs.dropWhile p ≠ []) (rest : List Char) :
    (cs ++ rest).takeWhile p = cs.takeWhile p := by
  have hwhole := List.takeWhile_append_dropWhile (p := p) (l := cs ++ rest)
  have hfirst := List.takeWhile_append_dropWhile (p := p) (l := cs)
  rw [dropWhile_append_of_ne_nil h] at hwhole
  have happend : (cs ++ rest).takeWhile p ++ (cs.dropWhile p ++ rest) =
      cs.takeWhile p ++ (cs.dropWhile p ++ rest) := by
    rw [hwhole, ← List.append_assoc, hfirst]
  exact List.append_cancel_right happend

/-- A run that ends in a text, or that nothing behind the text ends, is the same with the text behind. -/
theorem run_append_cases {p : Char → Bool} (h : (∃ c ∈ cs, p c = false) ∨ ∀ c ∈ rest, p c = true) :
    (cs.dropWhile p = [] ∧ (cs ++ rest).dropWhile p = []) ∨
      ∃ c behind, cs.dropWhile p = c :: behind ∧ (cs ++ rest).dropWhile p = c :: (behind ++ rest) ∧
        (cs ++ rest).takeWhile p = cs.takeWhile p := by
  cases hdrop : cs.dropWhile p with
  | nil =>
    have hcs : ∀ c ∈ cs, p c = true := by simpa using hdrop
    have hrest : ∀ c ∈ rest, p c = true := h.resolve_left fun ⟨c, hc, hend⟩ => by
      rw [hcs c hc] at hend
      simp at hend
    refine .inl ⟨rfl, ?_⟩
    rw [List.dropWhile_append_of_pos hcs]
    simpa using hrest
  | cons c behind =>
    have hne : cs.dropWhile p ≠ [] := by simp [hdrop]
    refine .inr ⟨c, behind, rfl, ?_, takeWhile_append_of_ne_nil hne rest⟩
    rw [dropWhile_append_of_ne_nil hne, hdrop, List.cons_append]

/-- To see what a reader of openers finds behind the blanks of a settled text, only a character of the
text itself has to be looked at: behind blanks alone no opener follows. -/
theorem read_append_of_settled {read : List Char → Option α} {f : α → α} (hnil : read [] = none)
    (hother : ∀ c ds, c ∉ openers → read (c :: ds) = none) (h : Settled cs rest = true)
    (hcons : ∀ c behind, skipBlanks cs = c :: behind →
      read (c :: (behind ++ rest)) = (read (c :: behind)).map f) :
    read (skipBlanks (cs ++ rest)) = (read (skipBlanks cs)).map f := by
  cases hcs : skipBlanks cs with
  | nil =>
    rw [skipBlanks_append_of_eq_nil hcs, hnil, Option.map_none]
    cases hrest : skipBlanks rest with
    | nil => exact hnil
    | cons c behind => exact hother c behind (notMem_openers_of_settled h hcs (by rw [hrest]; rfl))
  | cons c behind =>
    rw [skipBlanks_append_of_ne_nil (by simp [hcs]), hcs, List.cons_append, hcons c behind hcs]

theorem readQuoted_cons_of_notMem {c : Char} (hc : c ∉ openers) (ds : List Char) :
    readQuoted (c :: ds) = none := by
  have hquote : isQuote c = false := by
    simp only [openers, List.mem_cons, not_or] at hc
    simp [isQuote, hc]
  simp [readQuoted, hquote]

/-- A name in quotes is read from the text in which it ends. -/
theorem readQuoted_append (hends : nameEnds rest cs = true) (h : Settled cs rest = true) :
    readQuoted (skipBlanks (cs ++ rest)) =
      (readQuoted (skipBlanks cs)).map fun (name, behind) => (name, behind ++ rest) := by
  refine read_append_of_settled rfl (fun c ds hc => readQuoted_cons_of_notMem hc ds) h
    fun c behind hcs => ?_
  rw [readQuoted, readQuoted]
  split
  · next hquote =>
    have hclosing : (∃ d ∈ behind, (!isQuote d) = false) ∨ ∀ d ∈ rest, (!isQuote d) = true := by
      rw [nameEnds, hcs] at hends
      simpa [hquote] using hends
    rcases run_append_cases hclosing with ⟨hdrop, hwhole⟩ | ⟨d, more, hdrop, hwhole, hname⟩
    · rw [hdrop, hwhole]
      split
      · simp_all
      · split <;> simp_all
    · rw [hdrop, hwhole, hname]
      cases behind.takeWhile (!isQuote ·) with
      | nil => rfl
      | cons e name => rfl
  · rfl

theorem settled_of_readQuoted {name : String} {behind : List Char} (h : Settled cs rest = true)
    (hread : readQuoted (skipBlanks cs) = some (name, behind)) : Settled behind rest = true := by
  obtain ⟨blanks, -, hcs⟩ := exists_blanks_append_skipBlanks cs
  obtain ⟨opening, closing, -, hclosing, -, -, hskip⟩ := eq_append_of_readQuoted hread
  have hnot : closing ∉ closers := by
    simp only [isQuote, Bool.or_eq_true, beq_iff_eq] at hclosing
    rcases hclosing with rfl | rfl <;> decide
  refine settled_of_append (blanks ++ opening :: name.toList) ?_ (isBlank_of_isQuote hclosing) hnot
  rw [List.append_assoc, ← hskip, ← hcs]
  exact h

theorem readList_cons_of_ne {c : Char} (hc : c ≠ '[') (ds : List Char) : readList (c :: ds) = none := by
  unfold readList
  split <;> simp_all

/-- A list in brackets is read from the text in which it ends. -/
theorem readList_append (h : Settled cs rest = true) :
    readList (skipBlanks (cs ++ rest)) =
      (readList (skipBlanks cs)).map fun (items, behind) => (items, behind ++ rest) := by
  refine read_append_of_settled rfl
    (fun c ds hc => readList_cons_of_ne (fun heq => hc (by rw [heq]; decide)) ds) h fun c behind hcs => ?_
  by_cases hc : c = '['
  · subst hc
    have hclosing : (∃ d ∈ behind, (d != ']') = false) ∨ ∀ d ∈ rest, (d != ']') = true := by
      obtain ⟨blanks, -, hblanks⟩ := exists_blanks_append_skipBlanks cs
      have hlist := (settled_iff.mp h).1
      rw [hblanks, hcs] at hlist
      have hlist := argumentsEnd_of_append _ hlist
      simp only [argumentsEnd, bne_self_eq_false, Bool.false_or, Bool.and_eq_true, Bool.or_eq_true,
        Bool.not_eq_true', List.contains_eq_mem, decide_eq_true_eq, decide_eq_false_iff_not] at hlist
      refine hlist.1.1.imp (fun hmem => ⟨']', hmem, by decide⟩) fun hnot d hd => ?_
      exact bne_iff_ne.mpr (ne_of_mem_of_not_mem hd hnot)
    rw [readList, readList]
    rcases run_append_cases hclosing with ⟨hdrop, hwhole⟩ | ⟨d, more, hdrop, hwhole, hitems⟩
    · rw [hdrop, hwhole]
      rfl
    · rw [hdrop, hwhole, hitems]
      rfl
  · rw [readList_cons_of_ne hc, readList_cons_of_ne hc]
    rfl

theorem settled_of_readList {items : List String} {behind : List Char}
    (h : Settled cs rest = true) (hread : readList (skipBlanks cs) = some (items, behind)) :
    Settled behind rest = true := by
  obtain ⟨blanks, -, hcs⟩ := exists_blanks_append_skipBlanks cs
  unfold readList at hread
  split at hread
  · next inner hskip =>
    split at hread
    · next closing more hclosing =>
      obtain ⟨-, rfl⟩ := Prod.mk.inj (Option.some_inj.mp hread)
      have hbracket : closing = ']' := by
        have hnot := List.head?_dropWhile_not (· != ']') inner
        rw [hclosing] at hnot
        simpa using hnot
      refine settled_of_append (blanks ++ '[' :: inner.takeWhile (· != ']')) (c := closing) ?_
        (by rw [hbracket]; decide) (by rw [hbracket]; decide)
      rw [List.append_assoc, List.cons_append, ← hclosing, List.takeWhile_append_dropWhile, ← hskip,
        ← hcs]
      exact h
    · simp at hread
  · simp at hread

/-! ### Arguments -/

/-- An argument is read from the text in which it ends. -/
theorem readArgument_append (hends : nameEnds rest cs = true) (h : Settled cs rest = true) :
    readArgument (skipBlanks (cs ++ rest)) =
      (readArgument (skipBlanks cs)).map fun (argument, behind) => (argument, behind ++ rest) := by
  rw [readArgument, readArgument, readList_append h, readQuoted_append hends h]
  cases readList (skipBlanks cs) with
  | some found => rfl
  | none => cases readQuoted (skipBlanks cs) <;> rfl

theorem settled_of_readArgument {argument : Argument} {behind : List Char}
    (h : Settled cs rest = true) (hread : readArgument (skipBlanks cs) = some (argument, behind)) :
    Settled behind rest = true := by
  unfold readArgument at hread
  split at hread
  · next items more hlist =>
    obtain ⟨-, rfl⟩ := Prod.mk.inj (Option.some_inj.mp hread)
    exact settled_of_readList h hlist
  · obtain ⟨⟨name, more⟩, hquoted, heq⟩ := Option.map_eq_some_iff.mp hread
    obtain ⟨-, rfl⟩ := Prod.mk.inj heq
    exact settled_of_readQuoted h hquoted

theorem nameEnds_of_settled {front : List Char} {c : Char} (hc : c = '(' ∨ c = ',')
    (h : Settled (front ++ c :: cs) rest = true) : nameEnds rest cs = true := by
  have hends := argumentsEnd_of_append _ (settled_iff.mp h).1
  rw [argumentsEnd, Bool.and_eq_true, Bool.and_eq_true] at hends
  rcases hc with rfl | rfl <;> simpa using hends.1.2

/-- The comma in front of the next name stands in the text itself. -/
theorem expect_comma_append (h : Settled cs rest = true) :
    expect [','] (skipBlanks (cs ++ rest)) = (expect [','] (skipBlanks cs)).map (· ++ rest) := by
  refine read_append_of_settled rfl (fun c ds hc => if_neg fun heq => hc (by rw [← heq]; decide)) h
    fun c behind _ => ?_
  simp only [expect]
  split <;> rfl

/-- The next name of a call is read from the text in which it ends. -/
theorem readNext_append (h : Settled cs rest = true) :
    (readNext (cs ++ rest)).map Prod.fst = (readNext cs).map Prod.fst := by
  rw [readNext, readNext, expect_comma_append h]
  cases hcomma : expect [','] (skipBlanks cs) with
  | none => rfl
  | some behind =>
    obtain ⟨blanks, -, hblanks⟩ := exists_blanks_append_skipBlanks cs
    rw [hblanks, eq_append_of_expect hcomma, List.singleton_append] at h
    have hread := readQuoted_append (nameEnds_of_settled (.inr rfl) h)
      (settled_of_append blanks h (by decide) (by decide))
    rw [Option.map_some, Option.bind_eq_bind, Option.bind_some, Option.bind_some, hread,
      Option.map_map]
    rfl

/-- A reader of arguments that finds the same in a text, blanks apart, and in this text with another
one behind it, if no argument goes on there. -/
def Local (readArguments : List Char → Option α) : Prop :=
  ∀ cs rest : List Char, nameEnds rest cs = true → Settled cs rest = true →
    readArguments (skipBlanks (cs ++ rest)) = readArguments (skipBlanks cs)

theorem local_const (found : Option α) : Local fun _ => found := fun _ _ _ _ => rfl

theorem local_quoted? : Local quoted? := by
  intro cs rest hends h
  rw [quoted?, quoted?, readQuoted_append hends h, Option.map_map]
  rfl

theorem local_argument? : Local argument? := by
  intro cs rest hends h
  rw [argument?, argument?, readArgument_append hends h, Option.map_map]
  rfl

theorem local_some_argument? : Local fun cs => some (argument? cs) := by
  intro cs rest hends h
  dsimp only
  rw [local_argument? cs rest hends h]

theorem local_twoQuoted? : Local twoQuoted? := by
  intro cs rest hends h
  rw [twoQuoted?, twoQuoted?, readQuoted_append hends h]
  cases hread : readQuoted (skipBlanks cs) with
  | none => rfl
  | some found =>
    obtain ⟨first, behind⟩ := found
    have hnext := readNext_append (settled_of_readQuoted h hread)
    simp only [Option.map_some, Option.bind_eq_bind, Option.bind_some]
    cases hbehind : readNext behind <;> cases hwhole : readNext (behind ++ rest) <;>
      simp_all

theorem local_oneOrTwoQuoted? : Local oneOrTwoQuoted? := by
  intro cs rest hends h
  rw [oneOrTwoQuoted?, oneOrTwoQuoted?, readQuoted_append hends h]
  cases hread : readQuoted (skipBlanks cs) with
  | none => rfl
  | some found =>
    obtain ⟨first, behind⟩ := found
    have hnext := readNext_append (settled_of_readQuoted h hread)
    simp only [Option.map_some, Option.bind_eq_bind, Option.bind_some, hnext]

theorem local_argumentAndName : Local fun cs => some (argumentAndName cs) := by
  intro cs rest hends h
  dsimp only
  rw [argumentAndName, argumentAndName, readArgument_append hends h]
  cases hread : readArgument (skipBlanks cs) with
  | none =>
    -- `readNext` skips blanks itself
    have hskip : ∀ ds, readNext (skipBlanks ds) = readNext ds := by
      intro ds
      rw [readNext, readNext, skipBlanks, skipBlanks, List.dropWhile_idempotent]
    simp only [Option.map_none, hskip, readNext_append h]
  | some found =>
    obtain ⟨argument, behind⟩ := found
    simp only [Option.map_some, readNext_append (settled_of_readArgument h hread)]

/-! ### Methods -/

/-- A text ends in a blank, or the one behind it begins with a blank or as a comment. -/
def Boundary (cs rest : List Char) : Prop :=
  (∃ c, cs.getLast? = some c ∧ isBlank c = true) ∨
    ∀ c, rest.head? = some c → isBlank c = true ∨ c = '#' ∨ c = '/'

theorem boundary_of_append (front : List Char) {c : Char} (h : Boundary (front ++ c :: cs) rest)
    (hc : isBlank c = false) : Boundary cs rest := by
  rcases h with ⟨d, hlast, hd⟩ | hrest
  · cases hcs : cs.getLast? with
    | none =>
      obtain rfl := List.getLast?_eq_none_iff.mp hcs
      rw [List.getLast?_concat] at hlast
      rw [Option.some_inj.mp hlast, hd] at hc
      simp at hc
    | some e =>
      rw [List.getLast?_append, List.getLast?_cons, hcs] at hlast
      obtain rfl : e = d := by simpa using hlast
      exact .inl ⟨e, hcs, hd⟩
  · exact .inr hrest

theorem expect_append_of_notMem {word : List Char}
    (h : ∀ c, rest.head? = some c → c ∉ word) :
    expect word (cs ++ rest) = (expect word cs).map (· ++ rest) := by
  induction word generalizing cs with
  | nil => rfl
  | cons w ws ih =>
    cases cs with
    | nil =>
      cases rest with
      | nil => rfl
      | cons c rest =>
        exact if_neg fun heq => h c rfl (by rw [heq]; exact List.mem_cons_self)
    | cons c cs =>
      rw [List.cons_append, expect, expect]
      split
      · exact ih fun c hc hmem => h c hc (List.mem_cons_of_mem _ hmem)
      · rfl

/-- A word without blanks and without the beginning of a comment does not stand across a boundary. -/
theorem expect_append_of_boundary {word : List Char}
    (hword : ∀ c, isBlank c = true ∨ c = '#' ∨ c = '/' → c ∉ word) (h : Boundary cs rest) :
    expect word (cs ++ rest) = (expect word cs).map (· ++ rest) := by
  rcases h with ⟨c, hlast, hc⟩ | hrest
  · obtain ⟨front, rfl⟩ := List.getLast?_eq_some_iff.mp hlast
    have hnot : ∀ d (ds : List Char), (c :: ds).head? = some d → d ∉ word := by
      intro d ds hd
      obtain rfl := Option.some_inj.mp hd
      exact hword c (.inl hc)
    rw [List.append_assoc, List.singleton_append, expect_append_of_notMem (hnot · _),
      expect_append_of_notMem (hnot · _), Option.map_map]
    congr 1
    funext ds
    simp
  · exact expect_append_of_notMem fun c hc => hword c (hrest c hc)

theorem isWord_of_mem_closers : ∀ c ∈ closers, isWord c = false := by
  decide +kernel

/-- Whether a character may stand in the name of a method. -/
def inName (c : Char) : Bool := !isBlank c && c != '('

theorem readOpening_of_paren {behind : List Char}
    (h : skipBlanks (cs.dropWhile inName) = '(' :: behind) :
    readOpening cs = some (String.ofList (cs.takeWhile inName), skipBlanks behind) := by
  unfold readOpening
  dsimp only
  split
  · next rest hrest =>
    obtain rfl : behind = rest := List.tail_eq_of_cons_eq (h.symm.trans hrest)
    rfl
  · next hnone => exact absurd h (hnone behind)

theorem paren_of_readOpening {name : String} {arguments : List Char}
    (h : readOpening cs = some (name, arguments)) :
    (skipBlanks (cs.dropWhile inName)).head? = some '(' ∧ name.toList = cs.takeWhile inName := by
  unfold readOpening at h
  dsimp only at h
  split at h
  · next behind hbehind =>
    obtain ⟨rfl, -⟩ := Prod.mk.inj (Option.some_inj.mp h)
    exact ⟨by rw [show cs.dropWhile inName = cs.dropWhile fun c => !isBlank c && c != '(' from rfl,
      hbehind]; rfl, String.toList_ofList⟩
  · simp at h

theorem readOpening_eq_none (h : (skipBlanks (cs.dropWhile inName)).head? ≠ some '(') :
    readOpening cs = none := by
  cases hread : readOpening cs with
  | none => rfl
  | some found => exact absurd (paren_of_readOpening hread).1 h

/-- What a reader of methods finds in a text and in the text with `rest` behind it: the same method, whose
arguments end as they do in the text, or a method in the second one only, whose name is not a word. -/
inductive SameMethod (rest : List Char) :
    Option (String × List Char) → Option (String × List Char) → Prop where
  | same {name : String} {behind : List Char} (ends : nameEnds rest behind = true)
      (settled : Settled behind rest = true) :
      SameMethod rest (some (name, skipBlanks behind)) (some (name, skipBlanks (behind ++ rest)))
  | noWord {whole : Option (String × List Char)}
      (noWord : ∀ name arguments, whole = some (name, arguments) → name.toList.all isWord = false) :
      SameMethod rest none whole

/-- A name that holds all marks of a text is not a word if the last of them ends a call. -/
theorem all_isWord_eq_false_of_closed {name : String}
    (hlast : ∃ c, lastMark? cs = some c ∧ c ∈ closers)
    (hname : ∀ c ∈ cs, isBlank c = false → c ∈ name.toList) : name.toList.all isWord = false := by
  obtain ⟨c, hlast, hc⟩ := hlast
  have hmem := List.mem_filter.mp (List.mem_of_getLast? hlast)
  rw [List.all_eq_false]
  exact ⟨c, hname c hmem.1 (by simpa using hmem.2), by simp [isWord_of_mem_closers c hc]⟩

/-- A name that goes on behind the text is not a word: it holds a mark that ends a call, or one with which a
comment begins. -/
theorem all_isWord_eq_false_of_readOpening {name : String} {arguments : List Char}
    (hcs : ∀ c ∈ cs, inName c = true) (h : Settled cs rest = true) (hboundary : Boundary cs rest)
    (hread : readOpening (cs ++ rest) = some (name, arguments)) : name.toList.all isWord = false := by
  obtain ⟨hparen, hname⟩ := paren_of_readOpening hread
  rw [List.dropWhile_append_of_pos hcs] at hparen
  rw [List.takeWhile_append_of_pos hcs] at hname
  rcases (settled_iff.mp h).2 with hlast | hopen
  · exact all_isWord_eq_false_of_closed hlast fun c hc _ => by rw [hname]; exact List.mem_append_left _ hc
  rcases hboundary with ⟨c, hlast, hc⟩ | hrest
  · have hcname := hcs c (List.mem_of_getLast? hlast)
    rw [inName, hc] at hcname
    simp at hcname
  cases rest with
  | nil => simp [skipBlanks] at hparen
  | cons c rest =>
    by_cases hblank : isBlank c = true
    · have hnot : ¬ inName c = true := by simp [inName, hblank]
      rw [List.dropWhile_cons_of_neg hnot] at hparen
      exact absurd (show '(' ∈ openers by decide) (hopen '(' hparen)
    · have hc := (hrest c rfl).resolve_left hblank
      have hin : inName c = true := by rcases hc with rfl | rfl <;> decide
      rw [hname, List.all_eq_false]
      refine ⟨c, by simp [List.takeWhile_cons_of_pos hin], ?_⟩
      rcases hc with rfl | rfl <;> decide +kernel

/-- A name behind which only blanks follow is not a word if its parenthesis stands behind the text. -/
theorem all_isWord_eq_false_of_blanks {name : String} {arguments : List Char}
    (hdrop : cs.dropWhile inName ≠ []) (hskip : skipBlanks (cs.dropWhile inName) = [])
    (h : Settled cs rest = true) (hread : readOpening (cs ++ rest) = some (name, arguments)) :
    name.toList.all isWord = false := by
  obtain ⟨hparen, hname⟩ := paren_of_readOpening hread
  rw [dropWhile_append_of_ne_nil hdrop, skipBlanks_append_of_eq_nil hskip] at hparen
  rw [takeWhile_append_of_ne_nil hdrop] at hname
  rcases (settled_iff.mp h).2 with hlast | hopen
  · refine all_isWord_eq_false_of_closed hlast fun c hc hblank => ?_
    rw [← List.takeWhile_append_dropWhile (p := inName) (l := cs), ← hname, List.mem_append] at hc
    refine hc.resolve_right fun hc => ?_
    have hblanks : ∀ e ∈ cs.dropWhile inName, isBlank e = true := by
      simpa [skipBlanks] using hskip
    rw [hblanks c hc] at hblank
    simp at hblank
  · exact absurd (show '(' ∈ openers by decide) (hopen '(' hparen)

/-- A method is read from the text in which its parenthesis stands. The cases are what the text holds behind
the name: nothing, only blanks, or the character that is or is not a parenthesis. -/
theorem readOpening_append (h : Settled cs rest = true) (hboundary : Boundary cs rest) :
    SameMethod rest (readOpening cs) (readOpening (cs ++ rest)) := by
  by_cases hdrop : cs.dropWhile inName = []
  · rw [readOpening_eq_none (by simp [hdrop, skipBlanks])]
    exact .noWord fun name arguments =>
      all_isWord_eq_false_of_readOpening (by simpa using hdrop) h hboundary
  cases hskip : skipBlanks (cs.dropWhile inName) with
  | nil =>
    rw [readOpening_eq_none (by simp [hskip])]
    exact .noWord fun name arguments => all_isWord_eq_false_of_blanks hdrop hskip h
  | cons c behind =>
    have hskipWhole : skipBlanks ((cs ++ rest).dropWhile inName) = c :: (behind ++ rest) := by
      rw [dropWhile_append_of_ne_nil hdrop, skipBlanks_append_of_ne_nil (by simp [hskip]), hskip,
        List.cons_append]
    by_cases hc : c = '('
    · subst hc
      have hsplit : cs.takeWhile inName ++ cs.dropWhile inName = cs := List.takeWhile_append_dropWhile
      obtain ⟨blanks, -, hblanks⟩ := exists_blanks_append_skipBlanks (cs.dropWhile inName)
      rw [hblanks, hskip, ← List.append_assoc] at hsplit
      rw [← hsplit] at h
      rw [readOpening_of_paren hskip, readOpening_of_paren hskipWhole,
        takeWhile_append_of_ne_nil hdrop]
      exact .same (nameEnds_of_settled (.inl rfl) h) (settled_of_append _ h (by decide) (by decide))
    · rw [readOpening_eq_none (by simp [hskip, hc]), readOpening_eq_none (by simp [hskipWhole, hc])]
      exact .noWord fun name arguments hread => by simp at hread

/-! ### Calls -/

/-- Behind the word that begins a call the same method is read, too. -/
theorem expect_readOpening_append (front : List Char) (c : Char)
    (hword : ∀ d ∈ front ++ [c], isBlank d = false ∧ d ≠ '#' ∧ d ≠ '/') (hc : c ∉ closers)
    (h : Settled cs rest = true) (hboundary : Boundary cs rest) :
    SameMethod rest ((expect (front ++ [c]) cs).bind readOpening)
      ((expect (front ++ [c]) (cs ++ rest)).bind readOpening) := by
  have hnot : ∀ d, isBlank d = true ∨ d = '#' ∨ d = '/' → d ∉ front ++ [c] := by
    rintro d hd hmem
    obtain ⟨hblank, hhash, hslash⟩ := hword d hmem
    simp [hblank, hhash, hslash] at hd
  rw [expect_append_of_boundary hnot hboundary]
  cases hexpect : expect (front ++ [c]) cs with
  | none => exact .noWord fun name arguments hread => by simp at hread
  | some ds =>
    have hcs : cs = front ++ c :: ds := by
      rw [eq_append_of_expect hexpect, List.append_assoc, List.singleton_append]
    rw [hcs] at h hboundary
    have hblank := (hword c (by simp)).1
    exact readOpening_append (settled_of_append _ h hblank hc) (boundary_of_append _ hboundary hblank)

theorem readMethod_append (h : Settled cs rest = true) (hboundary : Boundary cs rest) :
    SameMethod rest (readMethod cs) (readMethod (cs ++ rest)) :=
  expect_readOpening_append ['-'] '>' (by decide) (by decide) h hboundary

/-- A reader of methods that accepts words only and reads their arguments where they end finds the same. -/
theorem SameMethod.bind_eq {found whole : Option (String × List Char)}
    (h : SameMethod rest found whole) {read : String × List Char → Option α}
    (hlocal : ∀ name, Local fun cs => read (name, cs))
    (hword : ∀ name arguments, name.toList.all isWord = false → read (name, arguments) = none) :
    whole.bind read = found.bind read := by
  cases h with
  | same ends settled => exact hlocal _ _ _ ends settled
  | noWord hnoWord =>
    cases whole with
    | none => rfl
    | some found => exact hword _ _ (hnoWord _ _ rfl)

/-- A condition on the method may stand in front of its arguments. -/
theorem local_ite (p : Prop) [Decidable p] {read : List Char → Option α} (h : Local read) :
    Local fun cs => if p then read cs else none := by
  intro cs rest hends hsettled
  dsimp only
  rw [h cs rest hends hsettled]

theorem Local.bind {β : Type} {read : List Char → Option α} (h : Local read) (f : α → Option β) :
    Local fun cs => (read cs).bind f := by
  intro cs rest hends hsettled
  dsimp only
  rw [h cs rest hends hsettled]

theorem notMem_of_all_isWord_eq_false {methods : List String}
    (hmethods : ∀ m ∈ methods, m.toList.all isWord = true) {name : String}
    (hname : name.toList.all isWord = false) : name ∉ methods := by
  intro hmem
  rw [hmethods name hmem] at hname
  simp at hname

/-- A call is read from the text in which it ends. -/
theorem readCall_append {methods : List String} (hmethods : ∀ m ∈ methods, m.toList.all isWord = true)
    {readArguments : List Char → Option α} (hlocal : Local readArguments)
    (h : Settled cs rest = true) (hboundary : Boundary cs rest) :
    readCall methods readArguments (cs ++ rest) = readCall methods readArguments cs :=
  (readMethod_append h hboundary).bind_eq
    (fun name => local_ite (name ∈ methods) (hlocal.bind fun found => some (name, found)))
    fun _ _ hname => if_neg (notMem_of_all_isWord_eq_false hmethods hname)

theorem readNamingCall_append (h : Settled cs rest = true) (hboundary : Boundary cs rest) :
    readNamingCall (cs ++ rest) = readNamingCall cs :=
  (readMethod_append h hboundary).bind_eq
    (fun name => local_ite (name ≠ "" ∧ name.toList.all isWord) local_quoted?)
    fun _ _ hname => if_neg fun hword => by simp [hname] at hword

end Call

open Call in
/-- A call on the schema is read from the text in which it ends. -/
theorem readSchemaCall_append {cs rest : List Char} (h : Settled cs rest = true)
    (hboundary : Boundary cs rest) : readSchemaCall (cs ++ rest) = readSchemaCall cs := by
  let methods := ["create", "table", "drop", "dropIfExists"]
  have hmethods : ∀ m ∈ methods, m.toList.all isWord = true := by decide +kernel
  have hread : ∀ ds, readSchemaCall ds = ((expect ("Schema:".toList ++ [':']) ds).bind
      readOpening).bind fun (method, arguments) =>
        if method ∈ methods then (quoted? arguments).bind fun table => some (method, table)
        else none := by
    intro ds
    rw [readSchemaCall, Option.bind_assoc]
    rfl
  rw [hread, hread]
  exact (expect_readOpening_append "Schema:".toList ':' (by decide) (by decide) h hboundary).bind_eq
    (fun name => local_ite (name ∈ methods) (local_quoted?.bind fun table => some (name, table)))
    fun _ _ hname => if_neg (notMem_of_all_isWord_eq_false hmethods hname)

end MigrationPreview
