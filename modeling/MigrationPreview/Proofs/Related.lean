import Mathlib.Data.Option.Defs

/-!
# Results that are related

Two readers of related texts, or two look-ups in related tables, either both find something or both find
nothing, and what they find is related. Here is how such results are put together and taken apart.

## Main results

* `rel_cases`: both results are absent, or both are there
* `rel_bind`, `rel_map`, `rel_findSome?`: results that are built from related results
* `isSome_eq_of_rel`, `map_eq_of_rel`: what related results agree on
-/

namespace MigrationPreview

variable {α β γ δ : Type}

theorem rel_cases {P : α → β → Prop} {x : Option α} {y : Option β} (h : Option.Rel P x y) :
    (x = none ∧ y = none) ∨ ∃ a b, x = some a ∧ y = some b ∧ P a b := by
  cases h with
  | none => exact .inl ⟨rfl, rfl⟩
  | some h => exact .inr ⟨_, _, rfl, rfl, h⟩

theorem rel_bind {P : α → β → Prop} {Q : γ → δ → Prop} {x : Option α} {y : Option β}
    {f : α → Option γ} {g : β → Option δ} (h : Option.Rel P x y)
    (hnext : ∀ a b, P a b → Option.Rel Q (f a) (g b)) : Option.Rel Q (x.bind f) (y.bind g) := by
  cases h with
  | none => exact .none
  | some h => exact hnext _ _ h

theorem rel_map {P : α → β → Prop} {Q : γ → δ → Prop} {x : Option α} {y : Option β} {f : α → γ}
    {g : β → δ} (h : Option.Rel P x y) (hnext : ∀ a b, P a b → Q (f a) (g b)) :
    Option.Rel Q (x.map f) (y.map g) := by
  cases h with
  | none => exact .none
  | some h => exact .some (hnext _ _ h)

theorem rel_and {P : α → β → Prop} {A : α → Prop} {B : β → Prop} {x : Option α} {y : Option β}
    (h : Option.Rel P x y) (hx : ∀ a ∈ x, A a) (hy : ∀ b ∈ y, B b) :
    Option.Rel (fun a b => P a b ∧ A a ∧ B b) x y := by
  cases h with
  | none => exact .none
  | some h => exact .some ⟨h, hx _ rfl, hy _ rfl⟩

theorem isSome_eq_of_rel {P : α → β → Prop} {x : Option α} {y : Option β} (h : Option.Rel P x y) :
    y.isSome = x.isSome := by
  cases h <;> rfl

theorem map_eq_of_rel {P : α → β → Prop} {x : Option α} {y : Option β} {f : α → γ} {g : β → γ}
    (h : Option.Rel P x y) (hnext : ∀ a b, P a b → g b = f a) : y.map g = x.map f := by
  cases h with
  | none => rfl
  | some h => exact congrArg some (hnext _ _ h)

theorem rel_findSome? {P : β → γ → Prop} {f : α → Option β} {g : α → Option γ} {xs : List α}
    (h : ∀ x ∈ xs, Option.Rel P (f x) (g x)) : Option.Rel P (xs.findSome? f) (xs.findSome? g) := by
  induction xs with
  | nil => exact .none
  | cons x xs ih =>
    obtain ⟨hx, hxs⟩ := List.forall_mem_cons.mp h
    rw [List.findSome?_cons, List.findSome?_cons]
    rcases rel_cases hx with ⟨hf, hg⟩ | ⟨a, b, hf, hg, hab⟩
    · rw [hf, hg]
      exact ih hxs
    · rw [hf, hg]
      exact .some hab

end MigrationPreview
