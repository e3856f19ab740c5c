import Mathlib.Data.List.Basic
import MigrationPreview.Proofs.Collections
import MigrationPreview.Settings.EnvironmentFile

/-!
# Environments completed by a file

A file adds variables to an environment and changes none. So a variable that it cannot set, because the
value for it holds a null character, is one that the environment does not have.

## Main definitions

* `Environment.Extends`: an environment with at least the variables of another one

## Main results

* `EnvironmentFile.extends_of_complete`: variables that are set keep their values
* `EnvironmentFile.get?_name_of_complete`: only a variable that is not set can be one that cannot be set
-/

namespace MigrationPreview

/-! ### Environments -/

/-- An environment has at least the variables of another one, with their values. -/
def Environment.Extends (environment given : Environment) : Prop :=
  ∀ name value, given.get? name = some value → environment.get? name = some value

theorem Environment.Extends.refl (environment : Environment) : environment.Extends environment :=
  fun _ _ h => h

namespace EnvironmentFile

open Text

section

variable {environment environment' given : Environment} {name value : String}
  {lines : List (Option (List Char))} {cause : UnsettableVariable}

/-! ### One variable -/

theorem addNew_eq_error (h : addNew environment name value = .error cause) :
    environment.get? name = none ∧ cause.name = name := by
  rw [addNew] at h
  split_ifs at h with hsome hnull
  obtain rfl := Except.error.inj h
  exact ⟨by simpa using hsome, rfl⟩

theorem extends_of_addNew (h : addNew environment name value = .ok environment') :
    environment'.Extends environment := by
  intro known old hknown
  rw [addNew] at h
  split_ifs at h with hsome hnull
  · obtain rfl := Except.ok.inj h
    exact hknown
  · obtain rfl := Except.ok.inj h
    have hne : known ≠ name := by
      rintro rfl
      simp [hknown] at hsome
    rw [SortedMap.get?_insert, if_neg (by simpa using hne), hknown]

/-! ### Files -/

/-- Variables that are set keep their values. -/
theorem extends_of_completeLines (h : completeLines environment lines = .ok environment') :
    environment'.Extends environment := by
  fun_induction completeLines environment lines with
  | case1 environment line rest name value hread ih =>
    cases hadded : addNew environment name value with
    | error cause =>
      rw [hadded] at h
      cases h
    | ok added =>
      rw [hadded] at h
      intro known old hknown
      exact ih added h known old (extends_of_addNew hadded known old hknown)
  | case2 environment line rest hread ih => exact ih h
  | case3 environment | case4 environment =>
    obtain rfl := Except.ok.inj h
    exact .refl _

theorem extends_of_complete {bytes : ByteArray} (h : complete given bytes = .ok environment) :
    environment.Extends given := extends_of_completeLines h

theorem get?_name_of_completeLines (h : completeLines environment lines = .error cause) :
    environment.get? cause.name = none := by
  fun_induction completeLines environment lines with
  | case1 environment line rest name value hread ih =>
    cases hadded : addNew environment name value with
    | error cause' =>
      rw [hadded] at h
      obtain rfl := Except.error.inj h
      obtain ⟨hnone, hname⟩ := addNew_eq_error hadded
      rwa [hname]
    | ok added =>
      rw [hadded] at h
      -- a variable that is missing behind the line was missing in front of it
      have hnone := ih added h
      by_contra hsome
      obtain ⟨old, hold⟩ := Option.ne_none_iff_exists'.mp hsome
      rw [extends_of_addNew hadded _ _ hold] at hnone
      cases hnone
  | case2 environment line rest hread ih => exact ih h
  | case3 | case4 => cases h

/-- Only a variable that is not set can be one that cannot be set. -/
theorem get?_name_of_complete {bytes : ByteArray} (h : complete given bytes = .error cause) :
    given.get? cause.name = none := get?_name_of_completeLines h

end

end EnvironmentFile

end MigrationPreview
