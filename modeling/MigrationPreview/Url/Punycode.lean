/-!
# Punycode

The form of a domain label in which characters outside ASCII are written with letters, digits and
hyphens, after RFC 3492. The ASCII characters come first; behind a hyphen, the other ones follow in
ascending order, each as the distance that an enumeration of all insertions covers to reach it.

## Main definitions

* `Punycode.encode`: the form of a label
* `Punycode.decode?`: the label in a form
-/

namespace MigrationPreview.Punycode

/-! ### Distances -/

/-- The letter or digit of a number below thirty-six. -/
def digit (n : Nat) : Char :=
  if n < 26 then Char.ofNat ('a'.toNat + n) else Char.ofNat ('0'.toNat + (n - 26))

/-- The number of a small letter or a digit. -/
def digitNumber? (c : Char) : Option Nat :=
  if 'a' ≤ c ∧ c ≤ 'z' then some (c.toNat - 'a'.toNat)
  else if c.isDigit then some (c.toNat - '0'.toNat + 26)
  else none

/-- What a digit must reach so that another one follows it, where `place` counts in steps of
thirty-six. -/
def threshold (bias place : Nat) : Nat :=
  if place ≤ bias then 1 else if bias + 26 ≤ place then 26 else place - bias

theorem threshold_pos (bias place : Nat) : 0 < threshold bias place := by
  unfold threshold
  split
  · omega
  · split <;> omega

theorem rest_lt {bias place n : Nat} (h : ¬n < threshold bias place) :
    (n - threshold bias place) / (36 - threshold bias place) < n := by
  have hpos := threshold_pos bias place
  have hle := Nat.div_le_self (n - threshold bias place) (36 - threshold bias place)
  omega

/-- The digits of a distance from a place on, the least significant first. -/
def digits (bias place n : Nat) : List Char :=
  let t := threshold bias place
  if n < t then [digit n]
  else digit (t + (n - t) % (36 - t)) :: digits bias (place + 36) ((n - t) / (36 - t))
termination_by n
decreasing_by exact rest_lt ‹_›

/-- Reads a distance from a place on, where a digit counts `weight` times. -/
def readDistance? (bias : Nat) : Nat → Nat → List Char → Option (Nat × List Char)
  | _, _, [] => none
  | place, weight, c :: cs => do
    let d ← digitNumber? c
    let t := threshold bias place
    if d < t then some (d * weight, cs)
    else
      let (n, rest) ← readDistance? bias (place + 36) (weight * (36 - t)) cs
      some (d * weight + n, rest)

theorem length_lt_of_readDistance? {bias place weight n : Nat} {cs rest : List Char}
    (h : readDistance? bias place weight cs = some (n, rest)) : rest.length < cs.length := by
  induction cs generalizing place weight n with
  | nil => simp [readDistance?] at h
  | cons c cs ih =>
    rw [readDistance?] at h
    obtain ⟨d, -, h⟩ := Option.bind_eq_some_iff.1 h
    simp only at h
    split at h
    · simp_all
    · obtain ⟨⟨m, r⟩, hr, h⟩ := Option.bind_eq_some_iff.1 h
      obtain ⟨-, rfl⟩ := Prod.mk.inj (Option.some.inj h)
      exact Nat.lt_succ_of_lt (ih hr)

/-! ### The bias -/

/-- The bias for a distance that is reduced until it is small. -/
def reduce (place delta : Nat) : Nat :=
  if 455 < delta then reduce (place + 36) (delta / 35) else place + 36 * delta / (delta + 38)
termination_by delta
decreasing_by exact Nat.div_lt_self (by omega) (by omega)

/-- The bias behind a distance, where `count` characters stand in the label by now. -/
def adapt (delta count : Nat) (first : Bool) : Nat :=
  let delta := if first then delta / 700 else delta / 2
  reduce 0 (delta + delta / count)

/-! ### Encoding -/

/-- Where the enumeration stands. -/
structure State where
  code : Nat := 128
  delta : Nat := 0
  bias : Nat := 72
  written : Nat
  output : List Char := []

/-- Passes over one character of the label while characters with the current code are written. -/
def step (basic : Nat) (s : State) (c : Char) : State :=
  if c.toNat < s.code then { s with delta := s.delta + 1 }
  else if c.toNat = s.code then
    { s with
      output := s.output ++ digits s.bias 36 s.delta
      bias := adapt s.delta (s.written + 1) (s.written = basic)
      delta := 0
      written := s.written + 1 }
  else s

/-- Writes all characters with the code `code`. -/
def writeCode (label : List Char) (basic : Nat) (s : State) (code : Nat) : State :=
  let s := { s with delta := s.delta + (code - s.code) * (s.written + 1), code := code }
  let s := label.foldl (step basic) s
  { s with delta := s.delta + 1, code := s.code + 1 }

/-- The form of a label. -/
def encode (label : List Char) : List Char :=
  let basic := label.filter (·.toNat < 128)
  let codes := ((label.map Char.toNat).filter (128 ≤ ·)).eraseDups.mergeSort (· ≤ ·)
  let s := codes.foldl (writeCode label basic.length) { written := basic.length }
  basic ++ (if basic.isEmpty then [] else ['-']) ++ s.output

/-! ### Decoding -/

/-- Inserts the characters whose distances are given into a label. The enumeration stands at the
character `code` and the place `i`. -/
def insertAll? (bias code i : Nat) (label : List Char) : List Char → Option (List Char)
  | [] => some label
  | c :: cs =>
    match h : readDistance? bias 36 1 (c :: cs) with
    | none => none
    | some (delta, rest) =>
      let count := label.length + 1
      let code := code + (i + delta) / count
      let place := (i + delta) % count
      if code.isValidChar then
        insertAll? (adapt delta count (i = 0)) code (place + 1)
          (label.insertIdx place (Char.ofNat code)) rest
      else none
termination_by cs => cs.length
decreasing_by exact length_lt_of_readDistance? h

/-- The label in a form, which must be in ASCII and in small letters. -/
def decode? (form : List Char) : Option (List Char) :=
  let distances := (form.reverse.takeWhile (· != '-')).reverse
  let basic := (form.take (form.length - distances.length)).dropLast
  -- a hyphen in front of everything does not end any ASCII characters
  if form.any (128 ≤ ·.toNat) ∨ (basic.isEmpty ∧ distances.length < form.length) then none
  else insertAll? 72 128 0 basic distances

end MigrationPreview.Punycode
