import MigrationPreview.Proofs.Json.Token
import MigrationPreview.Proofs.Url.Percent
import MigrationPreview.Url.Basic
import Mathlib.Data.List.Sections
import Mathlib.Data.List.TakeWhile

/-!
# Parts of a URL

A URL that is put together from its parts is read back in these parts, where no part holds a
character that ends it. Each reader has one lemma about a text that begins with its part; the
lemma about the whole URL puts them together. A path of one segment is kept unless the segment
stands for the path itself or for the one above it.

## Main definitions

* `Url.IsPlainScheme`, `Url.IsCredential`, `Url.IsPlainHost`, `Url.IsDotSegment`: what the parts are
  made of
* `Url.addressText`: a URL with credentials, a host, a port and a path of one segment

## Main results

* `Url.parse?_addressText`: such a URL is read back
* `Url.isDotSegment_percentEncode_iff`: the encoded texts that a path does not keep
-/

namespace MigrationPreview.Url

variable {cs rest scheme user password host segment : List Char} {port : Nat}

/-! ### What the parts are made of -/

/-- A scheme in small letters that is not special. -/
structure IsPlainScheme (scheme : List Char) : Prop where
  isAlpha_head : scheme.head?.any Char.isAlpha
  isSchemeChar : ∀ c ∈ scheme, isSchemeChar c
  map_toLower : scheme.map Char.toLower = scheme
  lookup_eq_none : specialSchemes.lookup scheme = none

/-- A text that stands in credentials as it is. Percent signs and digits behind them may be in it. -/
def IsCredential (cs : List Char) : Prop := ∀ c ∈ cs, isUserinfoEncoded c = false

/-- A host name that stands in a URL as it is: letters, digits and most other visible characters of
ASCII. -/
def IsPlainHost (cs : List Char) : Prop :=
  cs ≠ [] ∧ ∀ c ∈ cs, isForbiddenInHost c = false ∧ isControlEncoded c = false

instance (cs : List Char) : Decidable (IsPlainHost cs) :=
  inferInstanceAs (Decidable (_ ∧ _))

/-- A text without blanks and control characters, which is read as it is. -/
def IsVisible (cs : List Char) : Prop := ∀ c ∈ cs, 0x20 < c.toNat

/-- A segment for the path itself, one dot, or for the path above it, two dots. Each dot may be
encoded. -/
def IsDotSegment (cs : List Char) : Prop :=
  cs.map Char.toLower ∈
    [".", "%2e", "..", ".%2e", "%2e.", "%2e%2e"].map String.toList

instance (cs : List Char) : Decidable (IsDotSegment cs) :=
  inferInstanceAs (Decidable (_ ∈ _))

theorem IsCredential.notMem (h : IsCredential cs) {d : Char} (hd : isUserinfoEncoded d) : d ∉ cs := by
  intro hmem
  rw [h d hmem] at hd
  exact Bool.false_ne_true hd

theorem IsPlainHost.notMem (h : IsPlainHost cs) {d : Char} (hd : isForbiddenInHost d) : d ∉ cs := by
  intro hmem
  rw [(h.2 d hmem).1] at hd
  exact Bool.false_ne_true hd

theorem lt_toNat_of_not_isControlEncoded {c : Char} (h : isControlEncoded c = false)
    (hspace : c ≠ ' ') : 0x20 < c.toNat := by
  have hlow : 0x20 ≤ c.toNat := by
    simp only [isControlEncoded, Bool.or_eq_false_iff, decide_eq_false_iff_not] at h
    omega
  have hne : c.toNat ≠ 0x20 := by
    intro heq
    apply hspace
    rw [← Char.ofNat_toNat c, heq]
  omega

theorem IsVisible.append (h : IsVisible cs) (hrest : IsVisible rest) : IsVisible (cs ++ rest) :=
  List.forall_mem_append.2 ⟨h, hrest⟩

theorem IsVisible.cons {c : Char} (hc : 0x20 < c.toNat) (h : IsVisible cs) : IsVisible (c :: cs) :=
  List.forall_mem_cons.2 ⟨hc, h⟩

theorem IsCredential.isVisible (h : IsCredential cs) : IsVisible cs := by
  intro c hc
  have hcontrol : isControlEncoded c = false := by
    have := h c hc
    simp only [isUserinfoEncoded, isPathEncoded, Bool.or_eq_false_iff] at this
    exact this.1.1
  apply lt_toNat_of_not_isControlEncoded hcontrol
  rintro rfl
  exact h.notMem (by decide) hc

theorem IsPlainHost.isVisible (h : IsPlainHost cs) : IsVisible cs := by
  intro c hc
  apply lt_toNat_of_not_isControlEncoded (h.2 c hc).2
  rintro rfl
  exact h.notMem (by decide) hc

theorem isCredential_toDigits (n : Nat) : IsCredential (Nat.toDigits 10 n) := by
  intro c hc
  exact isUserinfoEncoded_of_isDigit (Json.isDigit_of_mem_toDigits hc)

/-! ### Texts up to a character -/

theorem takeWhile_bne_append {d : Char} (h : d ∉ cs) (rest : List Char) :
    (cs ++ d :: rest).takeWhile (· != d) = cs := by
  have hpos : ∀ c ∈ cs, (c != d) = true := fun c hc => bne_iff_ne.2 (ne_of_mem_of_not_mem hc h)
  rw [List.takeWhile_append_of_pos hpos, List.takeWhile_cons_of_neg (by simp), List.append_nil]

theorem dropWhile_bne_append {d : Char} (h : d ∉ cs) (rest : List Char) :
    (cs ++ d :: rest).dropWhile (· != d) = d :: rest := by
  have hpos : ∀ c ∈ cs, (c != d) = true := fun c hc => bne_iff_ne.2 (ne_of_mem_of_not_mem hc h)
  rw [List.dropWhile_append_of_pos hpos, List.dropWhile_cons_of_neg (by simp)]

/-! ### Schemes -/

theorem IsPlainScheme.isSpecial_eq (h : IsPlainScheme scheme) : isSpecial scheme = false := by
  rw [isSpecial, h.lookup_eq_none, Option.isSome_none]

theorem IsPlainScheme.readScheme_append (h : IsPlainScheme scheme) (rest : List Char) :
    readScheme (scheme ++ ':' :: rest) = some (scheme, rest) := by
  have htake : (scheme ++ ':' :: rest).takeWhile Url.isSchemeChar = scheme := by
    rw [List.takeWhile_append_of_pos h.isSchemeChar, List.takeWhile_cons_of_neg (by decide),
      List.append_nil]
  have hdrop : (scheme ++ ':' :: rest).dropWhile Url.isSchemeChar = ':' :: rest := by
    rw [List.dropWhile_append_of_pos h.isSchemeChar, List.dropWhile_cons_of_neg (by decide)]
  have hhead := h.isAlpha_head
  rw [readScheme, htake, hdrop]
  cases hscheme : scheme with
  | nil => simp [hscheme] at hhead
  | cons c cs =>
    rw [hscheme, List.head?_cons, Option.any_some] at hhead
    simp only [hhead, if_true]
    rw [← hscheme, h.map_toLower]

theorem IsPlainScheme.isVisible (h : IsPlainScheme scheme) : IsVisible scheme := by
  intro c hc
  by_contra hle
  have all : ∀ n < 0x21, Url.isSchemeChar (Char.ofNat n) = false := by decide
  have hno := all c.toNat (by omega)
  rw [Char.ofNat_toNat, h.isSchemeChar c hc] at hno
  exact Bool.false_ne_true hno.symm

/-! ### Credentials and hosts -/

theorem splitAtLastAt_append (h : '@' ∉ rest) :
    splitAtLastAt (cs ++ '@' :: rest) = (some cs, rest) := by
  have hreverse : (cs ++ '@' :: rest).reverse = rest.reverse ++ '@' :: cs.reverse := by simp
  have hbehind : ((cs ++ '@' :: rest).reverse.takeWhile (· != '@')).reverse = rest := by
    rw [hreverse, takeWhile_bne_append (by simpa using h), List.reverse_reverse]
  have hlength : (cs ++ '@' :: rest).length = cs.length + rest.length + 1 := by
    rw [List.length_append, List.length_cons, Nat.add_assoc]
  simp only [splitAtLastAt, hbehind, hlength]
  rw [if_neg (by omega), show cs.length + rest.length + 1 - rest.length - 1 = cs.length by omega,
    List.take_left]

theorem readUserinfo_append (huser : IsCredential user) (hpassword : IsCredential password) :
    readUserinfo (user ++ ':' :: password) = (user, password) := by
  have hcolon : ':' ∉ user := huser.notMem (by decide)
  simp only [readUserinfo, takeWhile_bne_append hcolon, dropWhile_bne_append hcolon, List.drop_one,
    List.tail_cons, percentEncode_eq_self_iff.2 huser, percentEncode_eq_self_iff.2 hpassword]

theorem takeHost_append (hcolon : ':' ∉ host) (hopen : '[' ∉ host) (hclose : ']' ∉ host)
    (rest : List Char) : takeHost false (host ++ ':' :: rest) = host := by
  induction host with
  | nil => simp [takeHost]
  | cons c host ih =>
    simp only [List.mem_cons, not_or] at hcolon hopen hclose
    rw [List.cons_append, takeHost, if_neg (by simp [Ne.symm hcolon.1]),
      if_neg (Ne.symm hopen.1), if_neg (Ne.symm hclose.1), ih hcolon.2 hopen.2 hclose.2]

theorem IsPlainHost.opaqueHost?_eq (h : IsPlainHost host) : opaqueHost? host = some host := by
  have hopen : host.head? ≠ some '[' := fun heq =>
    h.notMem (by decide) (List.mem_of_mem_head? heq)
  have hallowed : ¬host.any isForbiddenInHost = true := by
    simpa using fun c hc => (h.2 c hc).1
  rw [opaqueHost?, if_neg hopen, if_neg hallowed,
    percentEncode_eq_self_iff.2 fun c hc => (h.2 c hc).2]

theorem readPort_toDigits (h : port ≤ 65535) :
    readPort (Nat.toDigits 10 port) = some (some port, []) := by
  have hdigits : ∀ c ∈ Nat.toDigits 10 port, c.isDigit := fun c hc => Json.isDigit_of_mem_toDigits hc
  have htake : (Nat.toDigits 10 port).takeWhile Char.isDigit = Nat.toDigits 10 port :=
    List.takeWhile_eq_self_iff.2 hdigits
  have hdrop : (Nat.toDigits 10 port).dropWhile Char.isDigit = [] :=
    List.dropWhile_eq_nil_iff.2 hdigits
  have hvalue : (Nat.toDigits 10 port).foldl (fun n d => 10 * n + (d.toNat - '0'.toNat)) 0 = port :=
    Json.natOfDigits_toDigits port
  obtain ⟨c, ds, hcons, -⟩ := Json.exists_cons_toDigits port
  simp only [readPort, htake, hdrop, hvalue]
  rw [if_neg (by simp; omega), if_neg (by simp [hcons])]

theorem readHostAndPort_append (hscheme : IsPlainScheme scheme)
    (hhost : IsPlainHost host) (hport : port ≤ 65535) :
    readHostAndPort scheme (host ++ ':' :: Nat.toDigits 10 port) = some (some host, some port, []) := by
  have htake : takeHost false (host ++ ':' :: Nat.toDigits 10 port) = host :=
    takeHost_append (hhost.notMem (by decide)) (hhost.notMem (by decide)) (hhost.notMem (by decide)) _
  simp [readHostAndPort, hscheme.isSpecial_eq, defaultPort?, hscheme.lookup_eq_none, htake,
    hhost.opaqueHost?_eq, hhost.1, readPort_toDigits hport]

/-! ### Paths -/

theorem resolveSegments_singleton (h : IsCredential segment) :
    resolveSegments [] [segment] = [if IsDotSegment segment then [] else segment] := by
  have hplain : percentEncode isPathEncoded segment = segment := by
    apply percentEncode_eq_self_iff.2
    intro c hc
    have := h c hc
    simp only [isUserinfoEncoded, Bool.or_eq_false_iff] at this
    exact this.1
  have hdots (names : List String) : String.ofList (segment.map Char.toLower) ∈ names ↔
      segment.map Char.toLower ∈ names.map String.toList := by
    constructor
    · intro hmem
      simpa using List.mem_map_of_mem (f := String.toList) hmem
    · intro hmem
      obtain ⟨name, hname, heq⟩ := List.mem_map.1 hmem
      rwa [← heq, String.ofList_toList]
  -- a segment of dots at the end leaves an empty one, whichever of the two it stands for
  simp only [resolveSegments, hplain, dropSegment, List.isEmpty_nil, if_true, List.reverse_cons,
    List.reverse_nil, List.nil_append, hdots, IsDotSegment]
  grind

theorem readPathAndQuery_cons (h : IsCredential segment) :
    readPathAndQuery false ('/' :: segment) =
      ('/' :: if IsDotSegment segment then [] else segment, none) := by
  have hpath : ('/' :: segment).takeWhile (fun c => c != '?' && c != '#') = '/' :: segment := by
    apply List.takeWhile_eq_self_iff.2
    intro c hc
    obtain rfl | hc := List.mem_cons.1 hc
    · decide
    · have hquestion : c ≠ '?' := ne_of_mem_of_not_mem hc (h.notMem (by decide))
      have hhash : c ≠ '#' := ne_of_mem_of_not_mem hc (h.notMem (by decide))
      simp [hquestion, hhash]
  have hsplit : segment.splitOn '/' = [segment] :=
    List.splitOn_eq_singleton (h.notMem (by decide))
  simp [readPathAndQuery, hpath, readPath, splitSegments, hsplit, resolveSegments_singleton h]

/-! ### Segments of dots -/

theorem eq_or_eq_toUpper_of_toLower_eq {c d : Char} (h : c.toLower = d) : c = d ∨ c = d.toUpper := by
  -- a character is its own small letter, or else it is one of twenty-six capital ones
  by_cases hupper : c.val ≥ 'A'.val ∧ c.val ≤ 'Z'.val
  · right
    have hrange : 65 ≤ c.toNat ∧ c.toNat ≤ 90 := by
      simpa [UInt32.le_iff_toNat_le] using hupper
    have all : ∀ n < 26, (Char.ofNat (65 + n)).toLower.toUpper = Char.ofNat (65 + n) := by decide
    have hc := all (c.toNat - 65) (by omega)
    rw [Nat.add_sub_cancel' hrange.1, Char.ofNat_toNat] at hc
    rw [← h, hc]
  · left
    have hlower : c.toLower = c := dif_neg hupper
    rw [← h, hlower]

theorem mem_sections_map_toLower (cs : List Char) :
    cs ∈ ((cs.map Char.toLower).map fun d => [d, d.toUpper]).sections := by
  rw [List.mem_sections, List.map_map]
  apply List.forall₂_map_right_iff.2
  apply List.forall₂_same.2
  intro c hc
  simpa using eq_or_eq_toUpper_of_toLower_eq (c := c) rfl

/-- A segment of dots stands for the bytes of the dots, encoded or not. -/
theorem percentDecode_of_isDotSegment (h : IsDotSegment segment) :
    percentDecode segment ∈ [utf8Bytes ['.'], utf8Bytes ['.', '.']] := by
  have all : ∀ word ∈ [".", "%2e", "..", ".%2e", "%2e.", "%2e%2e"].map String.toList,
      ∀ cs ∈ (word.map fun d => [d, d.toUpper]).sections,
        percentDecode cs ∈ [utf8Bytes ['.'], utf8Bytes ['.', '.']] := by decide
  exact all _ h segment (mem_sections_map_toLower segment)

/-- The encoded texts that a path does not keep are those of one dot and of two dots. -/
theorem isDotSegment_percentEncode_iff {encoded : Char → Bool} (hpercent : encoded '%') :
    IsDotSegment (percentEncode encoded cs) ↔ cs ∈ [['.'], ['.', '.']] := by
  constructor
  · intro h
    -- many texts are segments of dots, but decoded they are only two
    have hbytes := percentDecode_of_isDotSegment h
    rw [percentDecode_percentEncode hpercent, ← List.map_singleton, ← List.map_cons] at hbytes
    exact (List.mem_map_of_injective utf8Bytes_injective).1 hbytes
  · intro h
    simp only [List.mem_cons, List.not_mem_nil, or_false] at h
    obtain rfl | rfl := h <;> by_cases hdot : encoded '.'
    all_goals
      simp only [percentEncode_cons, percentEncode_nil, hdot, if_true, Bool.false_eq_true, if_false]
      decide

/-! ### Whole URLs -/

/-- A URL with credentials, a host, a port and a path of one segment. -/
def addressText (scheme user password host : List Char) (port : Nat) (segment : List Char) :
    List Char :=
  scheme ++ ':' :: '/' :: '/' ::
    (user ++ ':' :: password ++ '@' :: (host ++ ':' :: Nat.toDigits 10 port) ++ '/' :: segment)

theorem endsAuthority_eq_false (h : ∀ d ∈ ['/', '?', '#'], d ∉ cs) :
    ∀ c ∈ cs, endsAuthority false c = false := by
  intro c hc
  have hne : c ∉ ['/', '?', '#'] := fun hmem => h c hmem hc
  simpa [endsAuthority, and_assoc] using hne

theorem readAuthority_append (hscheme : IsPlainScheme scheme) (huser : IsCredential user)
    (hpassword : IsCredential password) (hhost : IsPlainHost host) (hport : port ≤ 65535)
    (hsegment : IsCredential segment) :
    readAuthority scheme
        (user ++ ':' :: password ++ '@' :: (host ++ ':' :: Nat.toDigits 10 port) ++ '/' :: segment) =
      some {
        scheme, username := user, password, host := some host, port := some port
        path := '/' :: if IsDotSegment segment then [] else segment } := by
  have hseparator : ∀ d ∈ ['/', '?', '#'],
      isUserinfoEncoded d ∧ isForbiddenInHost d ∧ d ≠ ':' ∧ d ≠ '@' := by decide
  have hends : ∀ c ∈ user ++ ':' :: password ++ '@' :: (host ++ ':' :: Nat.toDigits 10 port),
      endsAuthority false c = false := by
    apply endsAuthority_eq_false
    intro d hmem
    obtain ⟨hd, hforbidden, hcolon, hat⟩ := hseparator d hmem
    simp only [List.mem_append, List.mem_cons, not_or]
    exact ⟨⟨huser.notMem hd, hcolon, hpassword.notMem hd⟩, hat, hhost.notMem hforbidden, hcolon,
      (isCredential_toDigits port).notMem hd⟩
  have hat : '@' ∉ host ++ ':' :: Nat.toDigits 10 port := by
    rw [List.mem_append, List.mem_cons, not_or, not_or]
    exact ⟨hhost.notMem (by decide), by decide, (isCredential_toDigits port).notMem (by decide)⟩
  have huserinfo := readUserinfo_append huser hpassword
  have hplace := readHostAndPort_append hscheme hhost hport
  -- what the two sides of the at sign are made of is of no matter from here on
  have hne : user ++ ':' :: password ≠ [] := by simp
  generalize user ++ ':' :: password = userinfo at *
  generalize host ++ ':' :: Nat.toDigits 10 port = place at *
  have hauthority : (userinfo ++ '@' :: place ++ '/' :: segment).takeWhile (!endsAuthority false ·) =
      userinfo ++ '@' :: place := by
    rw [List.takeWhile_append_of_pos (by simpa using hends), List.takeWhile_cons_of_neg (by decide),
      List.append_nil]
  simp only [readAuthority, hscheme.isSpecial_eq, hauthority, List.drop_left, splitAtLastAt_append hat,
    Option.getD_some, huserinfo, hplace, Option.bind_eq_bind, Option.bind_some, List.nil_append,
    readPathAndQuery_cons hsegment]
  rw [if_neg (by simp [hne]), if_neg (by simp)]
  rfl

theorem parse?_of_isVisible (h : IsVisible cs) :
    parse? (String.ofList cs) = (readScheme cs).bind fun p => readBehindScheme p.1 p.2 := by
  have hdrop {cs : List Char} (hcs : IsVisible cs) :
      cs.dropWhile (fun c => decide (c.toNat ≤ 0x20)) = cs := by
    cases cs with
    | nil => rfl
    | cons c cs =>
      have hc := hcs c List.mem_cons_self
      exact List.dropWhile_cons_of_neg (by simpa using hc)
  have hreverse : IsVisible cs.reverse := fun c hc => h c (List.mem_reverse.1 hc)
  have hfilter : cs.filter (fun c => c != '\t' && c != '\n' && c != '\r') = cs := by
    apply List.filter_eq_self.2
    intro c hc
    have hlt := h c hc
    simp only [Bool.and_eq_true, bne_iff_ne]
    refine ⟨⟨?_, ?_⟩, ?_⟩ <;> rintro rfl <;> exact absurd hlt (by decide)
  simp only [parse?, String.toList_ofList, hdrop h, hdrop hreverse, List.reverse_reverse, hfilter,
    Option.bind_eq_bind]

theorem IsPlainScheme.parse?_append (hscheme : IsPlainScheme scheme) (h : IsVisible rest) :
    parse? (String.ofList (scheme ++ ':' :: '/' :: '/' :: rest)) = readAuthority scheme rest := by
  have hvisible : IsVisible (scheme ++ ':' :: '/' :: '/' :: rest) := by
    apply hscheme.isVisible.append
    exact ((h.cons (by decide)).cons (by decide)).cons (by decide)
  -- the scheme for files is special, so it is not this one
  have hfile : scheme ≠ "file".toList := by
    intro heq
    have hlookup := hscheme.lookup_eq_none
    rw [heq] at hlookup
    exact absurd hlookup (by decide)
  rw [parse?_of_isVisible hvisible, hscheme.readScheme_append, Option.bind_some, readBehindScheme,
    if_neg hfile, hscheme.isSpecial_eq, if_neg Bool.false_ne_true]

/-- A URL that is put together from its parts is read back. -/
theorem parse?_addressText (hscheme : IsPlainScheme scheme) (huser : IsCredential user)
    (hpassword : IsCredential password) (hhost : IsPlainHost host) (hport : port ≤ 65535)
    (hsegment : IsCredential segment) :
    parse? (String.ofList (addressText scheme user password host port segment)) =
      some {
        scheme, username := user, password, host := some host, port := some port
        path := '/' :: if IsDotSegment segment then [] else segment } := by
  have huserinfo : IsVisible (user ++ ':' :: password) :=
    huser.isVisible.append (hpassword.isVisible.cons (by decide))
  have hplace : IsVisible (host ++ ':' :: Nat.toDigits 10 port) :=
    hhost.isVisible.append ((isCredential_toDigits port).isVisible.cons (by decide))
  have hvisible : IsVisible
      (user ++ ':' :: password ++ '@' :: (host ++ ':' :: Nat.toDigits 10 port) ++ '/' :: segment) :=
    (huserinfo.append (hplace.cons (by decide))).append (hsegment.isVisible.cons (by decide))
  rw [addressText, hscheme.parse?_append hvisible]
  exact readAuthority_append hscheme huser hpassword hhost hport hsegment

end MigrationPreview.Url
