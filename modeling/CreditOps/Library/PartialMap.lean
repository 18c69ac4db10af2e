import Mathlib.Logic.Function.Basic

/-!
# Partial maps with point updates

A registry of entries by key, as a function to `Option`. An entry after a point update is the one that
was written or one that was there (`update_some_cases`), a key without one had none
(`of_update_some_none`), and after an entry is dropped it is one that was there (`of_update_none`);
filling a free key keeps every entry (`update_of_free`), updating an existing key keeps the set of keys
(`isSome_update_of_isSome`), and an update away from a property keeps the entries that have it
(`update_keeps`).
-/

set_option autoImplicit false

namespace PartialMap

universe u v

variable {κ : Type u} {α : Type v} [DecidableEq κ] {m : κ → Option α} {key k : κ} {a b : α}

/-- **What an updated registry holds.** -/
theorem update_some_cases (h : Function.update m key (some a) k = some b) :
    (k = key ∧ b = a) ∨ (k ≠ key ∧ m k = some b) := by
  by_cases hk : k = key
  · subst hk
    rw [Function.update_self, Option.some.injEq] at h
    exact Or.inl ⟨rfl, h.symm⟩
  · rw [Function.update_of_ne hk] at h
    exact Or.inr ⟨hk, h⟩

theorem of_update_some_none (h : Function.update m key (some a) k = none) : k ≠ key ∧ m k = none := by
  by_cases hk : k = key
  · subst hk
    rw [Function.update_self] at h
    cases h
  · rw [Function.update_of_ne hk] at h
    exact ⟨hk, h⟩

theorem of_update_none (h : Function.update m key none k = some b) : m k = some b := by
  by_cases hk : k = key
  · subst hk
    rw [Function.update_self] at h
    cases h
  · rwa [Function.update_of_ne hk] at h

theorem update_of_free (hfree : m key = none) (hk : m k = some b) :
    Function.update m key (some a) k = some b := by
  have hne : k ≠ key := by
    rintro rfl
    rw [hfree] at hk
    cases hk
  rw [Function.update_of_ne hne, hk]

theorem isSome_update_of_isSome (h : m key = some b) (k : κ) :
    (Function.update m key (some a) k).isSome = (m k).isSome := by
  by_cases hk : k = key
  · subst hk
    rw [Function.update_self, h]
    rfl
  · rw [Function.update_of_ne hk]

theorem update_keeps {P : α → Prop} (hkey : m key = some b) (hb : ¬ P b)
    (hk : ∃ c, m k = some c ∧ P c) : ∃ c, Function.update m key (some a) k = some c ∧ P c := by
  obtain ⟨c, hc, hP⟩ := hk
  have hne : k ≠ key := by
    rintro rfl
    rw [hkey, Option.some.injEq] at hc
    exact hb (by rw [hc]; exact hP)
  exact ⟨c, by rw [Function.update_of_ne hne, hc], hP⟩

end PartialMap
