import MigrationPreview.Url.Percent
import Mathlib.Data.List.Basic
import Mathlib.Data.UInt

/-!
# Encoded texts

What percent encoding does to a text: the bytes that an encoded text stands for are those of the
text itself, what is left in it is written as it is in a URL, and only a text without any character
of the set is its own encoding.

## Main definitions

* `Url.utf8Bytes`: the bytes of a text

## Main results

* `Url.percentDecode_percentEncode`: decoding undoes encoding
* `Url.percentEncode_eq_self_iff`: what encoding leaves as it is
-/

namespace MigrationPreview.Url

/-- The bytes of a text in UTF-8. -/
def utf8Bytes (cs : List Char) : List UInt8 := cs.flatMap String.utf8EncodeChar

theorem utf8Bytes_injective : Function.Injective utf8Bytes := by
  intro cs ds h
  have hencode : cs.utf8Encode = ds.utf8Encode := congrArg List.toByteArray h
  rw [← String.toByteArray_ofList, ← String.toByteArray_ofList, String.toByteArray_inj] at hencode
  simpa using congrArg String.toList hencode

/-! ### Digits -/

theorem digitValue?_upperDigit {n : Nat} (h : n < 16) : digitValue? (upperDigit n) = some n := by
  have all : ∀ m < 16, digitValue? (upperDigit m) = some m := by decide
  exact all n h

theorem isUserinfoEncoded_upperDigit {n : Nat} (h : n < 16) :
    isUserinfoEncoded (upperDigit n) = false := by
  have all : ∀ m < 16, isUserinfoEncoded (upperDigit m) = false := by decide
  exact all n h

theorem isUserinfoEncoded_of_isDigit {c : Char} (h : c.isDigit) : isUserinfoEncoded c = false := by
  have hc : 48 ≤ c.toNat ∧ c.toNat ≤ 57 := by
    simpa [Char.isDigit, UInt32.le_iff_toNat_le] using h
  have hdigit : upperDigit (c.toNat - 48) = c := by
    rw [upperDigit, if_pos (by omega), show '0'.toNat + (c.toNat - 48) = c.toNat from
      Nat.add_sub_cancel' hc.1, Char.ofNat_toNat]
  rw [← hdigit]
  apply isUserinfoEncoded_upperDigit
  omega

/-- A byte is written with characters that are encoded nowhere. -/
theorem isUserinfoEncoded_of_mem_percentByte {b : UInt8} {c : Char} (h : c ∈ percentByte b) :
    isUserinfoEncoded c = false := by
  have hb := b.toNat_lt
  simp only [percentByte, List.mem_cons, List.not_mem_nil, or_false] at h
  obtain rfl | rfl | rfl := h
  · decide
  · apply isUserinfoEncoded_upperDigit
    omega
  · apply isUserinfoEncoded_upperDigit
    omega

/-! ### Decoding -/

theorem percentDecode_percentByte_append (b : UInt8) (cs : List Char) :
    percentDecode (percentByte b ++ cs) = b :: percentDecode cs := by
  have hb := b.toNat_lt
  have hhigh : digitValue? (upperDigit (b.toNat / 16)) = some (b.toNat / 16) :=
    digitValue?_upperDigit (by omega)
  have hlow : digitValue? (upperDigit (b.toNat % 16)) = some (b.toNat % 16) :=
    digitValue?_upperDigit (by omega)
  have hbyte : UInt8.ofNat (16 * (b.toNat / 16) + b.toNat % 16) = b := by
    rw [Nat.div_add_mod, UInt8.ofNat_toNat]
  simp only [percentByte, List.cons_append, List.nil_append, percentDecode, hhigh, hlow, hbyte]

theorem percentDecode_flatMap_append (bytes : List UInt8) (cs : List Char) :
    percentDecode (bytes.flatMap percentByte ++ cs) = bytes ++ percentDecode cs := by
  induction bytes with
  | nil => rfl
  | cons b bytes ih =>
    rw [List.flatMap_cons, List.append_assoc, percentDecode_percentByte_append, ih,
      List.cons_append]

theorem percentDecode_cons_of_ne {c : Char} (h : c ≠ '%') (cs : List Char) :
    percentDecode (c :: cs) = String.utf8EncodeChar c ++ percentDecode cs := by
  rw [percentDecode]
  intro a b rest hc
  exact absurd hc h

variable {encoded : Char → Bool}

@[simp] theorem percentEncode_nil : percentEncode encoded [] = [] := rfl

theorem percentEncode_cons (c : Char) (cs : List Char) :
    percentEncode encoded (c :: cs) =
      (if encoded c then (String.utf8EncodeChar c).flatMap percentByte else [c]) ++
        percentEncode encoded cs := List.flatMap_cons

/-- Decoding undoes encoding, if the percent sign is encoded too. -/
theorem percentDecode_percentEncode (hpercent : encoded '%') (cs : List Char) :
    percentDecode (percentEncode encoded cs) = utf8Bytes cs := by
  induction cs with
  | nil => rfl
  | cons c cs ih =>
    rw [percentEncode_cons, utf8Bytes, List.flatMap_cons, ← utf8Bytes, ← ih]
    split
    next => apply percentDecode_flatMap_append
    next hc =>
      apply percentDecode_cons_of_ne
      rintro rfl
      exact hc hpercent

/-! ### What encoding leaves -/

/-- In an encoded text there is no character of the set, except for those that bytes are written
with. -/
theorem isUserinfoEncoded_of_mem_percentEncode (hset : ∀ c, isUserinfoEncoded c → encoded c)
    {cs : List Char} {c : Char} (h : c ∈ percentEncode encoded cs) :
    isUserinfoEncoded c = false := by
  obtain ⟨d, -, hd⟩ := List.mem_flatMap.1 h
  split at hd
  next =>
    obtain ⟨b, -, hb⟩ := List.mem_flatMap.1 hd
    exact isUserinfoEncoded_of_mem_percentByte hb
  next hplain =>
    obtain rfl := List.mem_singleton.1 hd
    exact Bool.eq_false_iff.2 fun hc => hplain (hset c hc)

theorem length_percentEncode (encoded : Char → Bool) (cs : List Char) :
    cs.length + 2 * cs.countP encoded ≤ (percentEncode encoded cs).length := by
  induction cs with
  | nil => simp
  | cons c cs ih =>
    rw [percentEncode_cons, List.countP_cons, List.length_cons, List.length_append]
    have hpos : 0 < c.utf8Size := c.utf8Size_pos
    have hlength : ((String.utf8EncodeChar c).flatMap percentByte).length = 3 * c.utf8Size := by
      simp [List.length_flatMap, percentByte, String.length_utf8EncodeChar, Nat.mul_comm]
    split
    next => omega
    next => simp only [List.length_singleton]; omega

/-- Exactly a text without a character of the set is its own encoding. -/
theorem percentEncode_eq_self_iff {cs : List Char} :
    percentEncode encoded cs = cs ↔ ∀ c ∈ cs, encoded c = false := by
  constructor
  · intro h
    -- an encoded character is longer than the character, so there is none
    have hlength := length_percentEncode encoded cs
    rw [h] at hlength
    have hcount : cs.countP encoded = 0 := by omega
    simpa using List.countP_eq_zero.1 hcount
  · intro h
    induction cs with
    | nil => rfl
    | cons c cs ih =>
      rw [percentEncode_cons, ih fun d hd => h d (List.mem_cons_of_mem c hd),
        if_neg (by simp [h c List.mem_cons_self]), List.singleton_append]

end MigrationPreview.Url
