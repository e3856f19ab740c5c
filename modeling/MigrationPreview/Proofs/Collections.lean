import Mathlib.Data.List.Induction
import Mathlib.Data.List.Sort
import MigrationPreview.Collections.SortedMap

/-!
# What maps and sets hold

A map in key order is determined by what is found under its keys, and a set by its elements. So the order
in which they are filled matters only where a key is given twice, and then the last value counts.

## Main definitions

* `SortedSet` has membership, `∪` and `⊆`

## Main results

* `SortedMap.ext_get?`, `SortedSet.ext`: maps and sets are equal if they hold the same
* `SortedMap.get?_ofList`: what a map holds that is filled from a list
* `SortedMap.ofList_eq_of_perm`: entries with different keys may be listed in any order
* `SortedSet.mem_ofList`, `SortedSet.mem_union`: the elements of a list and of a union
-/

namespace MigrationPreview

namespace SortedMap

variable {κ ν : Type} [Ord κ] [Std.TransOrd κ] [Std.LawfulEqOrd κ]

instance : Std.Irrefl fun a b : κ × ν => compare a.1 b.1 = .lt where
  irrefl a h := by simp at h

instance : Std.Antisymm fun a b : κ × ν => compare a.1 b.1 = .lt where
  antisymm _ _ h h' := absurd h' (by simp [Std.OrientedCmp.gt_of_lt h])

/-- A map is determined by what is found in it. -/
theorem ext_get? {m m' : SortedMap κ ν} (h : ∀ key, m.get? key = m'.get? key) : m = m' := by
  refine ext (List.Pairwise.eq_of_mem_iff m.sorted m'.sorted fun e => ?_)
  obtain ⟨key, value⟩ := e
  rw [← get?_eq_some_iff, ← get?_eq_some_iff, h]

/-- The last of several values of a key counts. -/
theorem get?_ofList [DecidableEq κ] (entries : List (κ × ν)) (key : κ) :
    (ofList entries).get? key = ((entries.filter (·.1 = key)).map Prod.snd).getLast? := by
  induction entries using List.reverseRecOn with
  | nil => rfl
  | append_singleton entries e ih =>
    have hinsert : ofList (entries ++ [e]) = (ofList entries).insert e.1 e.2 := List.foldl_append ..
    rw [hinsert, get?_insert, ih]
    by_cases hkey : key = e.1
    · simp [hkey]
    · rw [if_neg (mt Std.LawfulEqCmp.eq_of_compare hkey)]
      simp [Ne.symm hkey]

/-- Where no key is given twice, all entries are found. -/
theorem get?_ofList_eq_some_iff {entries : List (κ × ν)} (h : (entries.map Prod.fst).Nodup)
    {key : κ} {value : ν} : (ofList entries).get? key = some value ↔ (key, value) ∈ entries := by
  classical
  have hfound {value : ν} (hlast : (ofList entries).get? key = some value) : (key, value) ∈ entries := by
    rw [get?_ofList] at hlast
    obtain ⟨e, he, rfl⟩ := List.mem_map.mp (List.mem_of_getLast? hlast)
    obtain ⟨hmem, hkey⟩ := List.mem_filter.mp he
    rwa [← of_decide_eq_true hkey]
  refine ⟨hfound, fun hmem => ?_⟩
  have hne : (entries.filter (·.1 = key)).map Prod.snd ≠ [] :=
    List.ne_nil_of_mem (List.mem_map_of_mem (List.mem_filter.mpr ⟨hmem, decide_eq_true rfl⟩))
  obtain ⟨last, hlast⟩ := Option.ne_none_iff_exists'.mp (mt List.getLast?_eq_none_iff.mp hne)
  rw [← get?_ofList] at hlast
  -- the entry that is found has the same key, so it is the same one
  obtain ⟨-, rfl⟩ := Prod.mk.inj (List.inj_on_of_nodup_map h (hfound hlast) hmem rfl)
  exact hlast

/-- Entries with different keys may be listed in any order. -/
theorem ofList_eq_of_perm {entries entries' : List (κ × ν)} (hperm : entries.Perm entries')
    (h : (entries.map Prod.fst).Nodup) : ofList entries = ofList entries' := by
  have h' : (entries'.map Prod.fst).Nodup := (hperm.map Prod.fst).nodup_iff.mp h
  refine ext_get? fun key => Option.ext fun value => ?_
  rw [get?_ofList_eq_some_iff h, get?_ofList_eq_some_iff h', hperm.mem_iff]

end SortedMap

namespace SortedSet

variable {κ : Type} [Ord κ]

instance : Membership κ (SortedSet κ) := ⟨fun s x => x ∈ s.toList⟩

instance [DecidableEq κ] (x : κ) (s : SortedSet κ) : Decidable (x ∈ s) :=
  inferInstanceAs (Decidable (x ∈ s.toList))

instance : HasSubset (SortedSet κ) := ⟨fun s t => ∀ x ∈ s, x ∈ t⟩

theorem subset_refl (s : SortedSet κ) : s ⊆ s := fun _ hx => hx

theorem subset_trans {s t u : SortedSet κ} (h : s ⊆ t) (h' : t ⊆ u) : s ⊆ u := fun x hx => h' x (h x hx)

theorem notMem_empty (x : κ) : x ∉ (∅ : SortedSet κ) := List.not_mem_nil

theorem empty_subset (s : SortedSet κ) : ∅ ⊆ s := fun x hx => absurd hx (notMem_empty x)

variable [Std.TransOrd κ]

/-- The elements of two sets. -/
instance : Union (SortedSet κ) := ⟨fun s t => t.toList.foldl add s⟩

variable [Std.LawfulEqOrd κ] {s t u : SortedSet κ} {x : κ}

/-- A set is determined by its elements. -/
theorem ext (h : ∀ x, x ∈ s ↔ x ∈ t) : s = t := by
  refine SortedMap.ext_get? fun x => ?_
  have hfound : (s.get? x).isSome ↔ (t.get? x).isSome := by
    rw [← SortedMap.mem_keys_iff, ← SortedMap.mem_keys_iff]
    exact h x
  cases hs : s.get? x <;> cases ht : t.get? x <;> simp_all

theorem eq_empty_iff : s = ∅ ↔ ∀ x, x ∉ s := by
  refine ⟨fun h x => h ▸ notMem_empty x, fun h => ext fun x => ?_⟩
  exact iff_of_false (h x) (notMem_empty x)

theorem mem_add {y : κ} : x ∈ s.add y ↔ x = y ∨ x ∈ s := SortedMap.mem_keys_alter

theorem mem_foldl_add {xs : List κ} : x ∈ xs.foldl add s ↔ x ∈ s ∨ x ∈ xs := by
  induction xs generalizing s with
  | nil => simp
  | cons y xs ih =>
    rw [List.foldl_cons, ih, mem_add, List.mem_cons]
    tauto

@[simp] theorem mem_ofList {xs : List κ} : x ∈ ofList xs ↔ x ∈ xs := by
  exact mem_foldl_add.trans (or_iff_right (notMem_empty x))

theorem mem_ofList_filterMap {α : Type} {f : α → Option κ} {xs : List α} :
    x ∈ ofList (xs.filterMap f) ↔ ∃ a ∈ xs, f a = some x := by
  rw [mem_ofList, List.mem_filterMap]

theorem mem_union : x ∈ s ∪ t ↔ x ∈ s ∨ x ∈ t := mem_foldl_add

theorem ofList_append (xs ys : List κ) : ofList (xs ++ ys) = ofList xs ∪ ofList ys :=
  ext fun x => by rw [mem_union, mem_ofList, mem_ofList, mem_ofList, List.mem_append]

theorem subset_union_left : s ⊆ s ∪ t := fun _ hx => mem_union.mpr (.inl hx)

theorem subset_union_right : t ⊆ s ∪ t := fun _ hx => mem_union.mpr (.inr hx)

theorem union_subset (h : s ⊆ u) (h' : t ⊆ u) : s ∪ t ⊆ u := fun x hx =>
  (mem_union.mp hx).elim (h x) (h' x)

theorem subset_antisymm (h : s ⊆ t) (h' : t ⊆ s) : s = t := ext fun x => ⟨h x, h' x⟩

end SortedSet

end MigrationPreview
