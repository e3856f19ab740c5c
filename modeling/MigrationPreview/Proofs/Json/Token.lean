import Mathlib.Data.List.Basic
import MigrationPreview.Json.Printer
import MigrationPreview.Json.Reader

/-!
# Tokens of JSON text

Strings and numbers are read back from the text that is printed for them. A string literal ends at the
first quote that is not escaped; of the characters inside only quotes, backslashes and control characters
are escaped. A number has no end of its own: it is read back only where something follows that cannot
belong to a number, which is true of all that stands behind a value in a text.

## Main definitions

* `Json.EndsNumber`: a text with which no number goes on

## Main results

* `Json.natOfDigits_toDigits`: the digits of a number denote it
* `Json.readString_escape`: a string is read back from its literal
* `Json.readNumber_toString`: an integer of 64 bits is read back from its digits
-/

namespace MigrationPreview.Json

/-! ### Digits -/

theorem natOfDigits_toDigits (n : Nat) : natOfDigits (Nat.toDigits 10 n) = n :=
  Nat.ofDigitChars_eq_foldl.symm.trans Nat.ofDigitChars_ten_toDigits

theorem isDigit_of_mem_toDigits {n : Nat} {c : Char} (h : c ∈ Nat.toDigits 10 n) : c.isDigit :=
  Nat.isDigit_of_mem_toDigits (by decide) (by decide) h

theorem exists_cons_toDigits (n : Nat) : ∃ c ds, Nat.toDigits 10 n = c :: ds ∧ c.isDigit := by
  cases hdigits : Nat.toDigits 10 n with
  | nil => exact absurd hdigits Nat.toDigits_ne_nil
  | cons c ds => exact ⟨c, ds, rfl, isDigit_of_mem_toDigits (hdigits ▸ List.mem_cons_self)⟩

/-- Only zero is written with a zero in front. -/
theorem eq_nil_of_toDigits_eq_zero_cons {n : Nat} {cs : List Char}
    (h : Nat.toDigits 10 n = '0' :: cs) : cs = [] := by
  induction n using Nat.strongRecOn generalizing cs with
  | ind n ih =>
    by_cases hn : n < 10
    · rw [Nat.toDigits_of_lt_base hn] at h
      exact (List.cons.inj h).2.symm
    · -- the digits in front of the last one are those of a smaller number, which is not zero
      rw [Nat.toDigits_of_base_le (by decide) (by omega)] at h
      obtain ⟨c, front, hfront, -⟩ := exists_cons_toDigits (n / 10)
      rw [hfront, List.cons_append] at h
      obtain ⟨rfl, -⟩ := List.cons.inj h
      obtain rfl := ih (n / 10) (by omega) hfront
      have hzero := natOfDigits_toDigits (n / 10)
      rw [hfront] at hzero
      simp [natOfDigits] at hzero
      omega

/-- A run of digits is read up to its end. -/
theorem readDigits_append {ds rest : List Char} (hds : ∀ c ∈ ds, c.isDigit) (hne : ds ≠ [])
    (hrest : ∀ c ∈ rest.head?, c.isDigit = false) : readDigits (ds ++ rest) = some (ds, rest) := by
  have htake : rest.takeWhile Char.isDigit = [] := by
    cases rest with
    | nil => rfl
    | cons c rest => exact List.takeWhile_cons_of_neg (by simp [hrest c rfl])
  have hdrop : rest.dropWhile Char.isDigit = rest := by
    cases rest with
    | nil => rfl
    | cons c rest => exact List.dropWhile_cons_of_neg (by simp [hrest c rfl])
  rw [readDigits, List.takeWhile_append_of_pos hds, List.dropWhile_append_of_pos hds, htake, hdrop,
    List.append_nil]
  cases ds with
  | nil => exact absurd rfl hne
  | cons c ds => rfl

theorem readWhole_toDigits (n : Nat) {rest : List Char}
    (hrest : ∀ c ∈ rest.head?, c.isDigit = false) :
    readWhole (Nat.toDigits 10 n ++ rest) = some (Nat.toDigits 10 n, rest) := by
  have hread : readDigits (Nat.toDigits 10 n ++ rest) = some (Nat.toDigits 10 n, rest) :=
    readDigits_append (fun _ => isDigit_of_mem_toDigits) Nat.toDigits_ne_nil hrest
  unfold readWhole
  rw [hread]
  split
  · next first second _ _ heq =>
    have hdigits := (Prod.mk.inj (Option.some.inj heq)).1
    cases eq_nil_of_toDigits_eq_zero_cons hdigits
  · rfl

/-! ### Numbers -/

/-- No number goes on with a text. -/
def EndsNumber (rest : List Char) : Prop :=
  ∀ c ∈ rest.head?, c.isDigit = false ∧ c ≠ '.' ∧ c ≠ 'e' ∧ c ≠ 'E'

theorem endsNumber_nil : EndsNumber [] := by
  intro c hc
  cases hc

theorem endsNumber_cons {c : Char} (rest : List Char)
    (hc : c.isDigit = false ∧ c ≠ '.' ∧ c ≠ 'e' ∧ c ≠ 'E') : EndsNumber (c :: rest) := by
  intro c' hc'
  obtain rfl := Option.some.inj hc'
  exact hc

theorem EndsNumber.readFraction {rest : List Char} (h : EndsNumber rest) :
    readFraction rest = some ([], rest) := by
  unfold Json.readFraction
  split
  · exact absurd rfl (h _ rfl).2.1
  · rfl

theorem EndsNumber.readExponent {rest : List Char} (h : EndsNumber rest) :
    readExponent rest = some ([], rest) := by
  cases rest with
  | nil => rfl
  | cons c rest =>
    obtain ⟨-, -, he, hE⟩ := h c rfl
    simp [Json.readExponent, he, hE]

theorem readUnsigned_toDigits (negative : Bool) (n : Nat) {rest : List Char} (h : EndsNumber rest) :
    readUnsigned negative (Nat.toDigits 10 n ++ rest) =
      some (integerOfDigits negative (Nat.toDigits 10 n), rest) := by
  have hwhole := readWhole_toDigits n fun c hc => (h c hc).1
  simp [readUnsigned, hwhole, h.readFraction, h.readExponent]

/-- The integers of 64 bits, signed or unsigned. -/
def IsInteger64 (n : Int) : Prop := -(UInt64.size / 2 : Nat) ≤ n ∧ n < UInt64.size

theorem toList_toString_ofNat (n : Nat) : (toString (Int.ofNat n)).toList = Nat.toDigits 10 n := by
  change (toString n).toList = _
  rw [Nat.toString_eq_ofList_toDigits, String.toList_ofList]

theorem toList_toString_negSucc (n : Nat) :
    (toString (Int.negSucc n)).toList = '-' :: Nat.toDigits 10 (n + 1) := by
  change ("-" ++ toString (n + 1)).toList = _
  rw [String.toList_append]
  exact congrArg ('-' :: ·) (toList_toString_ofNat (n + 1))

/-- The text of an integer begins with a digit or a sign. -/
theorem exists_cons_toString (n : Int) :
    ∃ c cs, (toString n).toList = c :: cs ∧ (c = '-' ∨ c.isDigit) := by
  cases n with
  | ofNat n =>
    obtain ⟨c, ds, hdigits, hc⟩ := exists_cons_toDigits n
    exact ⟨c, ds, (toList_toString_ofNat n).trans hdigits, .inr hc⟩
  | negSucc n => exact ⟨_, _, toList_toString_negSucc n, .inl rfl⟩

theorem readNumber_toString {n : Int} (hn : IsInteger64 n) {rest : List Char} (h : EndsNumber rest) :
    readNumber ((toString n).toList ++ rest) = some (integer n, rest) := by
  obtain ⟨hlow, hhigh⟩ := hn
  cases n with
  | ofNat n =>
    have hread := readUnsigned_toDigits false n h
    have hsize : n < UInt64.size := Int.ofNat_lt.mp hhigh
    rw [toList_toString_ofNat]
    unfold readNumber
    split
    · next cs heq =>
      -- a natural number has no sign
      obtain ⟨c, ds, hdigits, hc⟩ := exists_cons_toDigits n
      rw [hdigits, List.cons_append] at heq
      obtain ⟨rfl, -⟩ := List.cons.inj heq
      cases hc
    · rw [hread, integerOfDigits]
      simp [natOfDigits_toDigits, hsize]
  | negSucc n =>
    have hread := readUnsigned_toDigits true (n + 1) h
    have hsize : n + 1 ≤ UInt64.size / 2 := by omega
    rw [toList_toString_negSucc, List.cons_append, readNumber, hread, integerOfDigits]
    simp [natOfDigits_toDigits, hsize, Int.negSucc_eq]

/-! ### Strings -/

theorem hexUnit_hexDigit {n : Nat} (h : n < 0x20) :
    hexUnit '0' '0' (hexDigit (n / 16)) (hexDigit (n % 16)) = some n := by
  have hall : ∀ n < 0x20, hexUnit '0' '0' (hexDigit (n / 16)) (hexDigit (n % 16)) = some n := by
    decide
  exact hall n h

/-- The characters with an escape of one letter. -/
def lettered : List Char := ['"', '\\', '\x08', '\x0c', '\n', '\r', '\t']

theorem readPieces_escape_of_mem {c : Char} (h : c ∈ lettered) (cs : List Char) :
    readPieces (escape c ++ cs) =
      (readPieces cs).map fun (pieces, rest) => (.char c :: pieces, rest) := by
  simp only [lettered, List.mem_cons, List.not_mem_nil, or_false] at h
  obtain rfl | rfl | rfl | rfl | rfl | rfl | rfl := h
  all_goals
    cases hread : readPieces cs <;> simp [escape, readPieces, escapedChar, hread]

theorem escape_of_notMem {c : Char} (h : c ∉ lettered) :
    escape c = if c.toNat < 0x20 then
      ['\\', 'u', '0', '0', hexDigit (c.toNat / 16), hexDigit (c.toNat % 16)] else [c] := by
  simp only [lettered, List.mem_cons, List.not_mem_nil, or_false, not_or] at h
  simp [escape, h]

/-- How a character is read from a literal: control characters without an escape of one letter are
written as code units. -/
def pieceOf (c : Char) : Piece :=
  if c ∉ lettered ∧ c.toNat < 0x20 then .unit c.toNat else .char c

theorem readPieces_escape (c : Char) (cs : List Char) :
    readPieces (escape c ++ cs) =
      (readPieces cs).map fun (pieces, rest) => (pieceOf c :: pieces, rest) := by
  by_cases hletter : c ∈ lettered
  · rw [readPieces_escape_of_mem hletter, pieceOf, if_neg (fun h => h.1 hletter)]
  · rw [escape_of_notMem hletter]
    by_cases hcontrol : c.toNat < 0x20
    · rw [if_pos hcontrol, pieceOf, if_pos ⟨hletter, hcontrol⟩]
      cases hread : readPieces cs <;> simp [readPieces, hexUnit_hexDigit hcontrol, hread]
    · -- all other characters stand for themselves
      rw [if_neg hcontrol, pieceOf, if_neg (fun h => hcontrol h.2)]
      simp only [lettered, List.mem_cons, not_or] at hletter
      cases hread : readPieces cs <;>
        simp [readPieces, hletter.1, hletter.2.1, hcontrol, hread]

/-- A control character is no half of a surrogate pair. -/
theorem assemble_unit {n : Nat} (h : n < 0x20) (pieces : List Piece) :
    assemble (.unit n :: pieces) = (assemble pieces).map (Char.ofNat n :: ·) := by
  have hhigh : isHighSurrogate n = false := by simp [isHighSurrogate]; omega
  have hlow : isLowSurrogate n = false := by simp [isLowSurrogate]; omega
  rcases pieces with _ | ⟨_ | _, pieces⟩
  · simp [assemble, hhigh, hlow]
  · simp [assemble, hhigh, hlow]
  · simp [assemble, hhigh, hlow]

theorem assemble_pieceOf (cs : List Char) : assemble (cs.map pieceOf) = some cs := by
  induction cs with
  | nil => rfl
  | cons c cs ih =>
    rw [List.map_cons, pieceOf]
    split
    · next h => rw [assemble_unit h.2, ih, Char.ofNat_toNat, Option.map_some]
    · rw [assemble, ih, Option.map_some]

/-- A string is read back from its literal. -/
theorem readString_escape (s : String) (rest : List Char) :
    readString (s.toList.flatMap escape ++ '"' :: rest) = some (some s, rest) := by
  have hpieces (cs : List Char) :
      readPieces (cs.flatMap escape ++ '"' :: rest) = some (cs.map pieceOf, rest) := by
    induction cs with
    | nil => rw [List.flatMap_nil, List.nil_append, readPieces, List.map_nil]
    | cons c cs ih =>
      rw [List.flatMap_cons, List.append_assoc, readPieces_escape, ih]
      rfl
  rw [readString, hpieces]
  simp [assemble_pieceOf]

end MigrationPreview.Json
