import Mathlib.Algebra.Group.Nat.Defs
import MigrationPreview.Proofs.Json.Form
import MigrationPreview.Time.Timestamp

/-!
# Reading printed time stamps

The time stamp that is printed for an instant is read back as this instant. The reader is more lenient
than the printer, so the work is to see that no leniency gets in the way: the fields of a printed time
stamp have all their digits, a year with a sign ends at the separator behind it, and a fraction has
exactly as many digits as it needs.

## Main results

* `Instant.natOfDigits_padded`, `Instant.length_padded`: digits with zeros in front
* `Instant.readYear_yearText`, `Instant.readFraction_fractionText`: the parts without a fixed width
* `Instant.ofTimestamp?_toTimestamp`: an instant is read back from its time stamp
-/

namespace MigrationPreview.Instant

open Text

/-! ### Padded numbers -/

theorem isDigit_of_mem_padded {width n : Nat} {c : Char} (h : c ∈ padded width n) : c.isDigit := by
  rcases List.mem_append.mp h with h | h
  · rw [(List.mem_replicate.mp h).2]
    rfl
  · rw [Nat.toString_eq_ofList_toDigits, String.toList_ofList] at h
    exact Json.isDigit_of_mem_toDigits h

theorem natOfDigits_padded (width n : Nat) : Json.natOfDigits (padded width n) = n := by
  have hzeros (k : Nat) (ds : List Char) :
      Json.natOfDigits (List.replicate k '0' ++ ds) = Json.natOfDigits ds := by
    induction k with
    | zero => rfl
    | succ k ih => exact ih
  rw [padded, hzeros, Nat.toString_eq_ofList_toDigits, String.toList_ofList, Json.natOfDigits_toDigits]

theorem exists_cons_padded (width n : Nat) : ∃ c ds, padded width n = c :: ds ∧ c.isDigit := by
  cases hdigits : padded width n with
  | nil =>
    have hnil := (List.append_eq_nil_iff.mp hdigits).2
    rw [Nat.toString_eq_ofList_toDigits, String.toList_ofList] at hnil
    exact absurd hnil Nat.toDigits_ne_nil
  | cons c ds => exact ⟨c, ds, rfl, isDigit_of_mem_padded (hdigits ▸ List.mem_cons_self)⟩

/-- A number with no more than `width` digits is padded to exactly that many. -/
theorem length_padded {width n : Nat} (hwidth : 0 < width) (h : n < 10 ^ width) :
    (padded width n).length = width := by
  have hlength := (Nat.length_toDigits_le_iff (b := 10) (by decide) hwidth).mpr h
  rw [padded, Nat.toString_eq_ofList_toDigits, String.toList_ofList, List.length_append,
    List.length_replicate]
  omega

/-! ### Reading numbers -/

/-- A number ends at its width or in front of a character that is no digit. -/
theorem readNumber_append {width : Nat} {ds rest : List Char} (hds : ∀ c ∈ ds, c.isDigit)
    (hne : ds ≠ []) (hwidth : ds.length ≤ width)
    (hrest : ds.length = width ∨ ∀ c ∈ rest.head?, c.isDigit = false) :
    readNumber width (ds ++ rest) = some (Json.natOfDigits ds, rest) := by
  have hbehind : (rest.take (width - ds.length)).takeWhile Char.isDigit = [] := by
    rcases hrest with hfull | hrest
    · rw [hfull, Nat.sub_self, List.take_zero, List.takeWhile_nil]
    · cases rest with
      | nil => simp
      | cons c rest =>
        cases hroom : width - ds.length with
        | zero => rfl
        | succ room => exact List.takeWhile_cons_of_neg (by simp [hrest c rfl])
  -- what is left of the width behind the digits holds no digit at its beginning
  have hdigits : ((ds ++ rest).take width).takeWhile Char.isDigit = ds := by
    rw [List.take_append, List.take_of_length_le hwidth, List.takeWhile_append_of_pos hds, hbehind,
      List.append_nil]
  unfold readNumber
  rw [hdigits]
  cases ds with
  | nil => exact absurd rfl hne
  | cons d ds => simp

theorem readNumber_padded {width limit n : Nat} {rest : List Char}
    (hwidth : (padded width n).length ≤ limit)
    (hrest : (padded width n).length = limit ∨ ∀ c ∈ rest.head?, c.isDigit = false) :
    readNumber limit (padded width n ++ rest) = some (n, rest) := by
  have hne : padded width n ≠ [] := by
    obtain ⟨c, ds, hdigits, -⟩ := exists_cons_padded width n
    rw [hdigits]
    exact List.cons_ne_nil c ds
  have hread := readNumber_append (fun _ => isDigit_of_mem_padded) hne hwidth hrest
  rwa [natOfDigits_padded] at hread

theorem isBlank_eq_false_of_isDigit {c : Char} (h : c.isDigit) : isBlank c = false := by
  have hrange : 48 ≤ c.toNat ∧ c.toNat ≤ 57 := by
    simpa [Char.isDigit, UInt32.le_iff_toNat_le] using h
  simp only [isBlank, Bool.or_eq_false_iff, Bool.and_eq_false_iff, decide_eq_false_iff_not,
    beq_eq_false_iff_ne]
  omega

theorem skipBlanks_padded (width n : Nat) (rest : List Char) :
    skipBlanks (padded width n ++ rest) = padded width n ++ rest := by
  obtain ⟨c, ds, hdigits, hc⟩ := exists_cons_padded width n
  rw [hdigits]
  exact List.dropWhile_cons_of_neg (by simp [isBlank_eq_false_of_isDigit hc])

theorem readField_padded {n : Nat} (h : n < 100) (rest : List Char) :
    readField (padded 2 n ++ rest) = some (n, rest) := by
  have hlength : (padded 2 n).length = 2 := length_padded (by decide) h
  rw [readField, skipBlanks_padded]
  exact readNumber_padded hlength.le (.inl hlength)

theorem readSeparator_cons {c : Char} (h : isBlank c = false) (rest : List Char) :
    readSeparator c (c :: rest) = some rest := by
  have hskip : skipBlanks (c :: rest) = c :: rest := List.dropWhile_cons_of_neg (by simp [h])
  rw [readSeparator, hskip, expect, if_pos rfl, expect]

/-! ### Years and fractions -/

/-- A year is read up to the separator behind it. -/
theorem readYear_yearText (year : Int) {rest : List Char}
    (hrest : ∀ c ∈ rest.head?, c.isDigit = false) :
    readYear (yearText year ++ rest) = some (year, rest) := by
  have hsigned (n : Nat) :
      readNumber (padded 4 n ++ rest).length (padded 4 n ++ rest) = some (n, rest) :=
    readNumber_padded (by simp) (.inr hrest)
  unfold yearText
  by_cases hplain : 0 ≤ year ∧ year ≤ 9999
  · have hlength : (padded 4 year.toNat).length = 4 := length_padded (by decide) (by omega)
    have hread : readNumber 4 (padded 4 year.toNat ++ rest) = some (year.toNat, rest) :=
      readNumber_padded hlength.le (.inl hlength)
    have hyear : (year.toNat : Int) = year := Int.toNat_of_nonneg hplain.1
    rw [if_pos hplain, readYear, skipBlanks_padded]
    obtain ⟨c, ds, hdigits, hc⟩ := exists_cons_padded 4 year.toNat
    rw [hdigits, List.cons_append] at hread ⊢
    -- the first character is no sign
    split
    · next heq =>
      obtain ⟨rfl, -⟩ := List.cons.inj heq
      cases hc
    · next heq =>
      obtain ⟨rfl, -⟩ := List.cons.inj heq
      cases hc
    · simp only [hread, Option.map_some, hyear]
  · rw [if_neg hplain, List.cons_append]
    by_cases hnegative : year < 0
    · have hyear : -(year.natAbs : Int) = year := by omega
      have hskip (cs : List Char) : skipBlanks ('-' :: cs) = '-' :: cs :=
        List.dropWhile_cons_of_neg (by decide)
      rw [if_pos hnegative, readYear, hskip]
      simp only [hsigned, Option.map_some, hyear]
    · have hyear : (year.natAbs : Int) = year := by omega
      have hskip (cs : List Char) : skipBlanks ('+' :: cs) = '+' :: cs :=
        List.dropWhile_cons_of_neg (by decide)
      rw [if_neg hnegative, readYear, hskip]
      simp only [hsigned, Option.map_some, hyear]

/-- Digits behind the point are as many places of a nanosecond count. -/
theorem readFraction_padded {width n : Nat} (hwidth : 0 < width) (hwidth' : width ≤ 9)
    (h : n < 10 ^ width) (rest : List Char) :
    readFraction ('.' :: (padded width n ++ 'Z' :: rest)) =
      some (n * 10 ^ (9 - width), 'Z' :: rest) := by
  have hlength := length_padded hwidth h
  have hread : readNumber 9 (padded width n ++ 'Z' :: rest) = some (n, 'Z' :: rest) := by
    refine readNumber_padded (hlength.le.trans hwidth') (.inr fun c hc => ?_)
    obtain rfl := Option.some.inj hc
    rfl
  have htake : (padded width n ++ 'Z' :: rest).takeWhile Char.isDigit = padded width n := by
    rw [List.takeWhile_append_of_pos fun _ => isDigit_of_mem_padded,
      List.takeWhile_cons_of_neg (by decide), List.append_nil]
  have hdrop : (padded width n ++ 'Z' :: rest).dropWhile Char.isDigit = 'Z' :: rest := by
    rw [List.dropWhile_append_of_pos fun _ => isDigit_of_mem_padded,
      List.dropWhile_cons_of_neg (by decide)]
  simp [readFraction, hread, htake, hdrop, hlength]

/-- A fraction is read up to the letter behind it. -/
theorem readFraction_fractionText {nanos : Nat} (h : nanos < 1000000000) (rest : List Char) :
    readFraction (fractionText nanos ++ 'Z' :: rest) = some (nanos, 'Z' :: rest) := by
  unfold fractionText
  by_cases hzero : nanos = 0
  · rw [if_pos hzero, hzero]
    rfl
  rw [if_neg hzero]
  by_cases hmilli : nanos % 1000000 = 0
  · rw [if_pos hmilli, List.cons_append, readFraction_padded (by decide) (by decide) (by omega)]
    congr 2
    omega
  rw [if_neg hmilli]
  by_cases hmicro : nanos % 1000 = 0
  · rw [if_pos hmicro, List.cons_append, readFraction_padded (by decide) (by decide) (by omega)]
    congr 2
    omega
  · rw [if_neg hmicro, List.cons_append, readFraction_padded (by decide) (by decide) (by omega)]
    congr 2
    omega

/-! ### Time stamps -/

/-- The fields of a printed time stamp are read one by one, and a sixtieth second is a leap second. -/
theorem readTimestamp_fields (date : Date) (hour minute second nanos : Nat) (hhour : hour < 24)
    (hminute : minute < 60) (hsecond : second ≤ 60) (hnanos : nanos < 1000000000) :
    readTimestamp (yearText date.year ++ '-' :: padded 2 date.month ++ '-' :: padded 2 date.day ++
        'T' :: padded 2 hour ++ ':' :: padded 2 minute ++ ':' :: padded 2 second ++
        fractionText nanos ++ ['Z']) =
      (if second = 60 then ofLocal? date (3600 * hour + 60 * minute + 59) (1000000000 + nanos) 0
        else ofLocal? date (3600 * hour + 60 * minute + second) nanos 0).map fun t => (t, []) := by
  obtain ⟨-, -, -, hmonth, -, hday⟩ := date.isDate
  have hdays : daysInMonth date.year date.month ≤ 31 := by
    unfold daysInMonth
    split_ifs <;> decide
  have hyear (rest : List Char) :
      readYear (yearText date.year ++ '-' :: rest) = some (date.year, '-' :: rest) := by
    refine readYear_yearText date.year fun c hc => ?_
    obtain rfl := Option.some.inj hc
    rfl
  have hdash := readSeparator_cons (c := '-') (by decide)
  have hcolon := readSeparator_cons (c := ':') (by decide)
  have hutc : readOffset (skipBlanks ['Z']) = some (0, []) := by decide
  simp only [List.append_assoc, List.cons_append]
  rw [readTimestamp, hyear, Option.bind_eq_bind, Option.bind_some]
  dsimp only
  rw [hdash, Option.bind_eq_bind, Option.bind_some, readField_padded (show date.month < 100 by omega),
    Option.bind_eq_bind, Option.bind_some]
  dsimp only
  rw [hdash, Option.bind_eq_bind, Option.bind_some, readField_padded (show date.day < 100 by omega),
    Option.bind_eq_bind, Option.bind_some]
  dsimp only
  -- behind the letter `T` stands the time
  rw [if_pos (.inl rfl), Option.bind_some]
  simp only [hcolon, readField_padded (show hour < 100 by omega),
    readField_padded (show minute < 100 by omega), readField_padded (show second < 100 by omega),
    readFraction_fractionText hnanos, hutc, Option.bind_some, Date.of?_fields]
  rw [if_pos ⟨hhour, hminute, hsecond⟩]
  by_cases hleap : second = 60
  · rw [if_pos hleap, if_pos hleap, Option.map_eq_bind]
    rfl
  · rw [if_neg hleap, if_neg hleap, Option.map_eq_bind]
    rfl

/-- An instant is read back from its time stamp. -/
theorem ofTimestamp?_toTimestamp (t : Instant) : ofTimestamp? t.toTimestamp = some t := by
  have hsecond := t.second_lt
  have hlocal := ofLocal?_fields t
  have hread : readTimestamp t.toTimestamp.toList = some (t, []) := by
    rw [toTimestamp, String.toList_ofList]
    by_cases hleap : 1000000000 ≤ t.nanos
    · -- a leap second is printed as the sixtieth second of its minute
      obtain hfraction | ⟨hend, hnanos⟩ := t.isFraction
      · omega
      · have hclock : 3600 * (t.second / 3600) + 60 * (t.second / 60 % 60) + 59 = t.second := by omega
        have hwhole : 1000000000 + (t.nanos - 1000000000) = t.nanos := by omega
        have hfields := readTimestamp_fields t.date (t.second / 3600) (t.second / 60 % 60) 60
          (t.nanos - 1000000000) (by omega) (by omega) (by omega) (by omega)
        rw [if_pos rfl, hclock, hwhole, hlocal, Option.map_some] at hfields
        simpa only [if_pos hleap, hend] using hfields
    · have hclock :
          3600 * (t.second / 3600) + 60 * (t.second / 60 % 60) + t.second % 60 = t.second := by omega
      have hfields := readTimestamp_fields t.date (t.second / 3600) (t.second / 60 % 60)
        (t.second % 60) t.nanos (by omega) (by omega) (by omega) (by omega)
      rw [if_neg (by omega), hclock, hlocal, Option.map_some] at hfields
      simpa only [if_neg hleap, Nat.add_zero] using hfields
  rw [ofTimestamp?, hread]

instance : FaithfulForm Instant where
  Fits _ := True
  decode?_encode {t} _ := ofTimestamp?_toTimestamp t
  isWritable_encode _ := Json.isWritable_string _
  encode_ne_null _ := by
    intro h
    cases h

@[simp] theorem fits_instant (t : Instant) : Fits t := trivial

end MigrationPreview.Instant
