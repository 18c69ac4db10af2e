import Mathlib.Data.List.Perm.Basic
import Mathlib.Data.List.Sort

/-!
# Sorting as a canonical order

Sorting forgets the order of a list and nothing else: by a key that tells the members apart, two lists sort
alike exactly when one is a permutation of the other (`sortBy_eq_iff`). The same holds of sorting the images
under an injection (`insertionSort_map_eq_iff`). Two lists with the same distinct keys in the same order sort
alike only when they are equal (`eq_of_sortBy_eq`).
-/

set_option autoImplicit false

namespace CanonicalOrder

universe u v

variable {α : Type u} {β : Type v} [LinearOrder β]

/-- Sort by a key. -/
def sortBy (key : α → β) (l : List α) : List α :=
  l.insertionSort fun a b => key a ≤ key b

theorem sortBy_perm (key : α → β) (l : List α) : (sortBy key l).Perm l :=
  List.perm_insertionSort _ l

theorem sortBy_pairwise (key : α → β) (l : List α) :
    (sortBy key l).Pairwise fun a b => key a ≤ key b := by
  have : Std.Total fun a b : α => key a ≤ key b := ⟨fun a b => le_total (key a) (key b)⟩
  have : IsTrans α fun a b => key a ≤ key b := ⟨fun _ _ _ hab hbc => le_trans hab hbc⟩
  exact List.pairwise_insertionSort _ l

variable {key : α → β} {l l' : List α}

/-- **Lists sort alike when one is a permutation of the other**, for a key that tells their members apart. -/
theorem sortBy_eq_of_perm (h : l.Perm l') (hkey : ∀ a ∈ l, ∀ b ∈ l, key a = key b → a = b) :
    sortBy key l = sortBy key l' := by
  have hperm : (sortBy key l).Perm (sortBy key l') :=
    (sortBy_perm key l).trans (h.trans (sortBy_perm key l').symm)
  refine hperm.eq_of_pairwise ?_ (sortBy_pairwise key l) (sortBy_pairwise key l')
  intro a b ha hb hab hba
  exact hkey a ((sortBy_perm key l).mem_iff.1 ha) b (h.mem_iff.2 ((sortBy_perm key l').mem_iff.1 hb))
    (le_antisymm hab hba)

theorem perm_of_sortBy_eq (h : sortBy key l = sortBy key l') : l.Perm l' := by
  have hperm := (sortBy_perm key l').symm
  rw [← h] at hperm
  exact (sortBy_perm key l).symm.trans hperm.symm

/-- **Sorting by an injective key forgets the order and nothing else.** -/
theorem sortBy_eq_iff (hkey : Function.Injective key) :
    sortBy key l = sortBy key l' ↔ l.Perm l' :=
  ⟨perm_of_sortBy_eq, fun h => sortBy_eq_of_perm h fun _ _ _ _ heq => hkey heq⟩

/-- **So does sorting the images under an injection.** -/
theorem insertionSort_map_eq_iff {f : α → β} (hf : Function.Injective f) :
    (l.map f).insertionSort (· ≤ ·) = (l'.map f).insertionSort (· ≤ ·) ↔ l.Perm l' := by
  have hsort : ∀ m : List β, m.insertionSort (· ≤ ·) = sortBy id m := fun _ => rfl
  rw [hsort, hsort, sortBy_eq_iff Function.injective_id]
  exact List.map_perm_map_iff hf

omit [LinearOrder β] in
/-- **The same keys in the same order leave nothing to forget.** -/
theorem eq_of_perm_of_keys (h : l.Perm l') (hkeys : l.map key = l'.map key) (hnodup : (l.map key).Nodup) :
    l = l' := by
  induction l generalizing l' with
  | nil => exact (List.nil_perm.1 h).symm
  | cons a _ ih =>
    cases l' with
    | nil => cases hkeys
    | cons b =>
      obtain ⟨_, htail⟩ := List.cons.inj hkeys
      obtain ⟨hnew, hrest⟩ := List.nodup_cons.1 hnodup
      have heq : a = b := by
        rcases List.mem_cons.1 (h.mem_iff.1 List.mem_cons_self) with heq | hmem
        · exact heq
        · -- the key of the first would come a second time
          rw [htail] at hnew
          exact absurd (List.mem_map.2 ⟨a, hmem, rfl⟩) hnew
      subst heq
      rw [ih (List.perm_cons a |>.1 h) htail hrest]

theorem eq_of_sortBy_eq (h : sortBy key l = sortBy key l') (hkeys : l.map key = l'.map key)
    (hnodup : (l.map key).Nodup) : l = l' :=
  eq_of_perm_of_keys (perm_of_sortBy_eq h) hkeys hnodup

end CanonicalOrder
