/-!
# Maps in key order

A map is the list of its entries in strictly ascending key order, so two maps are equal exactly
when they hold the same entries. Tables by name, diff entries by category and operations by line
are all kept this way, and are listed in this order wherever they are printed.

## Main definitions

* `SortedMap`: the type of maps
* `SortedMap.get?`, `SortedMap.alter`, `SortedMap.insert`: look up and change one key
* `SortedMap.ofList`: the map of a list of entries, in which the last entry of a key wins
* `SortedSet`: maps that hold nothing but their keys

## Main results

* `SortedMap.get?_alter`, `SortedMap.get?_insert`: what is found after a change
* `SortedMap.mem_keys_iff`: the keys are those under which something is found
* `SortedMap.get?_eq_some_iff`: what is found under a key is its entry
* `SortedMap.ofList_entries`: a map is the map of its own entries
-/

namespace MigrationPreview

/-- A finite map whose entries are listed in strictly ascending key order. -/
structure SortedMap (κ ν : Type) [Ord κ] where
  entries : List (κ × ν)
  sorted : entries.Pairwise fun a b => compare a.1 b.1 = .lt

namespace SortedMap

variable {κ ν : Type} [Ord κ]

/-! ### Lists of entries -/

/-- The value of the first entry of `key`. -/
def lookupEntries (key : κ) : List (κ × ν) → Option ν
  | [] => none
  | (k, v) :: rest => if compare key k = .eq then some v else lookupEntries key rest

/-- Replaces the value `v` of `key` by `f (some v)`, or puts `f none` where the key belongs. -/
def alterEntries (key : κ) (f : Option ν → ν) : List (κ × ν) → List (κ × ν)
  | [] => [(key, f none)]
  | (k, v) :: rest =>
    match compare key k with
    | .lt => (key, f none) :: (k, v) :: rest
    | .eq => (k, f (some v)) :: rest
    | .gt => (k, v) :: alterEntries key f rest

theorem key_mem_of_mem_alterEntries {key : κ} {f : Option ν → ν} {l : List (κ × ν)} {e : κ × ν}
    (h : e ∈ alterEntries key f l) : e.1 = key ∨ ∃ e' ∈ l, e'.1 = e.1 := by
  induction l with
  | nil =>
    simp only [alterEntries, List.mem_singleton] at h
    exact .inl (by rw [h])
  | cons a rest ih =>
    obtain ⟨k, v⟩ := a
    simp only [alterEntries] at h
    split at h
    · rcases List.mem_cons.1 h with rfl | h
      · exact .inl rfl
      · exact .inr ⟨e, h, rfl⟩
    · rcases List.mem_cons.1 h with rfl | h
      · exact .inr ⟨(k, v), by simp, rfl⟩
      · exact .inr ⟨e, by simp [h], rfl⟩
    · rcases List.mem_cons.1 h with rfl | h
      · exact .inr ⟨(k, v), by simp, rfl⟩
      · rcases ih h with h | ⟨e', he', hk⟩
        · exact .inl h
        · exact .inr ⟨e', by simp [he'], hk⟩

theorem sorted_alterEntries [Std.TransOrd κ] {key : κ} {f : Option ν → ν} {l : List (κ × ν)}
    (h : l.Pairwise fun a b => compare a.1 b.1 = .lt) :
    (alterEntries key f l).Pairwise fun a b => compare a.1 b.1 = .lt := by
  induction l with
  | nil => simp [alterEntries]
  | cons a rest ih =>
    obtain ⟨k, v⟩ := a
    have hrest := List.pairwise_cons.1 h
    simp only [alterEntries]
    split
    · next hlt =>
      refine List.pairwise_cons.2 ⟨fun b hb => ?_, h⟩
      rcases List.mem_cons.1 hb with rfl | hb
      · exact hlt
      · exact Std.TransCmp.lt_trans hlt (hrest.1 b hb)
    · exact List.pairwise_cons.2 ⟨hrest.1, hrest.2⟩
    · next hgt =>
      refine List.pairwise_cons.2 ⟨fun b hb => ?_, ih hrest.2⟩
      rcases key_mem_of_mem_alterEntries hb with hb | ⟨e, he, hk⟩
      · rw [hb]
        exact Std.OrientedCmp.lt_of_gt hgt
      · rw [← hk]
        exact hrest.1 e he

theorem lookupEntries_eq_none {key : κ} {l : List (κ × ν)}
    (h : ∀ e ∈ l, compare key e.1 ≠ .eq) : lookupEntries key l = none := by
  induction l with
  | nil => rfl
  | cons a rest ih =>
    simp only [lookupEntries]
    rw [if_neg (h a (by simp)), ih fun e he => h e (by simp [he])]

theorem lookupEntries_alterEntries [Std.TransOrd κ] {key k : κ} {f : Option ν → ν}
    {l : List (κ × ν)} (h : l.Pairwise fun a b => compare a.1 b.1 = .lt) :
    lookupEntries k (alterEntries key f l) =
      if compare k key = .eq then some (f (lookupEntries key l)) else lookupEntries k l := by
  induction l with
  | nil => simp [alterEntries, lookupEntries]
  | cons a rest ih =>
    obtain ⟨k', v⟩ := a
    have ⟨hfirst, hrest⟩ := List.pairwise_cons.1 h
    simp only [alterEntries]
    split
    · next hlt =>
      -- `key` belongs before the whole list
      have hnone : lookupEntries key ((k', v) :: rest) = none :=
        lookupEntries_eq_none fun e he => by
          rcases List.mem_cons.1 he with rfl | he
          · simp [hlt]
          · simp [Std.TransCmp.lt_trans hlt (hfirst e he)]
      rw [hnone, lookupEntries]
    · next heq =>
      simp only [lookupEntries, heq, if_true, Std.TransCmp.congr_right heq]
      split <;> rfl
    · next hgt =>
      rw [lookupEntries, lookupEntries, lookupEntries, ih hrest, hgt]
      by_cases hk : compare k k' = .eq
      · have hne : compare k key ≠ .eq := by
          simp [Std.TransCmp.congr_left hk, Std.OrientedCmp.lt_of_gt hgt]
        simp [hk, hne]
      · simp [hk]

theorem alterEntries_of_gt {key : κ} {f : Option ν → ν} {l : List (κ × ν)}
    (h : ∀ e ∈ l, compare key e.1 = .gt) : alterEntries key f l = l ++ [(key, f none)] := by
  induction l with
  | nil => rfl
  | cons a rest ih =>
    obtain ⟨k, v⟩ := a
    simp only [alterEntries, h (k, v) (by simp), List.cons_append]
    rw [ih fun e he => h e (by simp [he])]

/-! ### Maps -/

/-- The map without entries. -/
def empty : SortedMap κ ν := ⟨[], .nil⟩

instance : EmptyCollection (SortedMap κ ν) := ⟨empty⟩

instance : Inhabited (SortedMap κ ν) := ⟨empty⟩

instance [DecidableEq κ] [DecidableEq ν] : DecidableEq (SortedMap κ ν) := fun a b =>
  if h : a.entries = b.entries then .isTrue (by cases a; cases b; simp_all)
  else .isFalse fun hab => h (by rw [hab])

/-- The value of a key, if the map has it. -/
def get? (m : SortedMap κ ν) (key : κ) : Option ν := lookupEntries key m.entries

/-- Whether the map has a key. -/
def contains (m : SortedMap κ ν) (key : κ) : Bool := (m.get? key).isSome

/-- Changes the value of one key; `f` is given the old value, if there is one. -/
def alter [Std.TransOrd κ] (m : SortedMap κ ν) (key : κ) (f : Option ν → ν) : SortedMap κ ν :=
  ⟨alterEntries key f m.entries, sorted_alterEntries m.sorted⟩

/-- The map in which `key` has the value `value`. -/
def insert [Std.TransOrd κ] (m : SortedMap κ ν) (key : κ) (value : ν) : SortedMap κ ν :=
  m.alter key fun _ => value

/-- The map of a list of entries; of several entries of one key the last counts. -/
def ofList [Std.TransOrd κ] (entries : List (κ × ν)) : SortedMap κ ν :=
  entries.foldl (fun m e => m.insert e.1 e.2) ∅

/-- The keys, in ascending order. -/
def keys (m : SortedMap κ ν) : List κ := m.entries.map Prod.fst

/-- The values, in the order of their keys. -/
def values (m : SortedMap κ ν) : List ν := m.entries.map Prod.snd

/-- The number of entries. -/
def size (m : SortedMap κ ν) : Nat := m.entries.length

/-! ### Laws -/

theorem ext {a b : SortedMap κ ν} (h : a.entries = b.entries) : a = b := by
  cases a; cases b; simp_all

@[simp] theorem get?_empty (key : κ) : (∅ : SortedMap κ ν).get? key = none := rfl

theorem get?_alter [Std.TransOrd κ] (m : SortedMap κ ν) (key k : κ) (f : Option ν → ν) :
    (m.alter key f).get? k = if compare k key = .eq then some (f (m.get? key)) else m.get? k :=
  lookupEntries_alterEntries m.sorted

theorem get?_insert [Std.TransOrd κ] (m : SortedMap κ ν) (key k : κ) (value : ν) :
    (m.insert key value).get? k = if compare k key = .eq then some value else m.get? k :=
  get?_alter m key k fun _ => value

theorem mem_keys_iff [Std.LawfulEqOrd κ] {m : SortedMap κ ν} {key : κ} :
    key ∈ m.keys ↔ (m.get? key).isSome := by
  obtain ⟨l, _⟩ := m
  simp only [keys, get?]
  induction l with
  | nil => simp [lookupEntries]
  | cons a rest ih =>
    obtain ⟨k, v⟩ := a
    rw [List.map_cons, List.mem_cons, ih (List.pairwise_cons.1 ‹_›).2, lookupEntries]
    by_cases h : key = k
    · simp [h]
    · rw [if_neg (mt Std.LawfulEqCmp.eq_of_compare h)]
      simp [h]

theorem get?_eq_some_iff [Std.LawfulEqOrd κ] {m : SortedMap κ ν} {key : κ} {value : ν} :
    m.get? key = some value ↔ (key, value) ∈ m.entries := by
  obtain ⟨l, hsorted⟩ := m
  simp only [get?]
  induction l with
  | nil => simp [lookupEntries]
  | cons a rest ih =>
    obtain ⟨k, v⟩ := a
    have ⟨hfirst, hrest⟩ := List.pairwise_cons.1 hsorted
    rw [lookupEntries, List.mem_cons, Prod.mk.injEq]
    by_cases h : key = k
    · -- a later entry of the same key would not be in order
      have hlater : (key, value) ∉ rest := fun hmem => by
        have hlt := hfirst _ hmem
        simp [h] at hlt
      simp [h, eq_comm, h ▸ hlater]
    · rw [if_neg (mt Std.LawfulEqCmp.eq_of_compare h), ih hrest]
      simp [h]

theorem nodup_keys [Std.ReflOrd κ] (m : SortedMap κ ν) : m.keys.Nodup := by
  refine List.pairwise_map.2 (m.sorted.imp ?_)
  intro a b hlt heq
  simp [heq] at hlt

theorem mem_keys_alter [Std.TransOrd κ] [Std.LawfulEqOrd κ] {m : SortedMap κ ν} {key k : κ}
    {f : Option ν → ν} : k ∈ (m.alter key f).keys ↔ k = key ∨ k ∈ m.keys := by
  rw [mem_keys_iff, get?_alter, mem_keys_iff]
  by_cases h : k = key
  · simp [h]
  · rw [if_neg (mt Std.LawfulEqCmp.eq_of_compare h)]
    simp [h]

theorem entries_foldl_insert [Std.TransOrd κ] {m : SortedMap κ ν} {l : List (κ × ν)}
    (h : (m.entries ++ l).Pairwise fun a b => compare a.1 b.1 = .lt) :
    (l.foldl (fun m e => m.insert e.1 e.2) m).entries = m.entries ++ l := by
  induction l generalizing m with
  | nil => simp
  | cons e rest ih =>
    have hinsert : (m.insert e.1 e.2).entries = m.entries ++ [e] :=
      alterEntries_of_gt fun e' he' =>
        Std.OrientedCmp.gt_of_lt ((List.pairwise_append.1 h).2.2 e' he' e (by simp))
    rw [List.foldl_cons, ih (by simpa [hinsert] using h), hinsert, List.append_assoc,
      List.singleton_append]

theorem ofList_entries [Std.TransOrd κ] (m : SortedMap κ ν) : ofList m.entries = m :=
  ext (entries_foldl_insert (by simpa [EmptyCollection.emptyCollection, empty] using m.sorted))

end SortedMap

/-- A finite set, listed in strictly ascending order. -/
abbrev SortedSet (κ : Type) [Ord κ] := SortedMap κ Unit

namespace SortedSet

variable {κ : Type} [Ord κ]

/-- The set with one more element. -/
def add [Std.TransOrd κ] (s : SortedSet κ) (x : κ) : SortedSet κ := s.insert x ()

/-- The set of the elements of a list. -/
def ofList [Std.TransOrd κ] (xs : List κ) : SortedSet κ := xs.foldl add ∅

/-- The elements, in ascending order. -/
def toList (s : SortedSet κ) : List κ := s.keys

end SortedSet

end MigrationPreview
