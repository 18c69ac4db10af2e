import Mathlib.Algebra.BigOperators.Group.List.Basic
import Mathlib.Algebra.GroupWithZero.Nat
import Mathlib.Data.List.Infix

/-!
# The longest prefix within a budget

Every item has a cost, and a list is served from its head while the total stays within a budget. What is
served is the longest prefix that the budget covers (`prefix_within_of_sum_le`), its cost is covered
(`sum_within_le`), and a larger budget serves at least as much (`within_prefix_within`).
-/

set_option autoImplicit false

namespace PrefixBudget

universe u

variable {α : Type u} (cost : α → Nat)

/-- The items that are served, once a total has been spent. -/
def within (budget : Nat) : Nat → List α → List α
  | _, [] => []
  | spent, item :: items =>
    if spent + cost item ≤ budget then item :: within budget (spent + cost item) items else []

/-- The cost of a list. -/
def total (items : List α) : Nat :=
  (items.map cost).sum

@[simp] theorem total_cons (item : α) (items : List α) :
    total cost (item :: items) = cost item + total cost items :=
  rfl

variable {cost} {budget spent : Nat} {items : List α}

theorem within_cons_of_le {item : α} (h : spent + cost item ≤ budget) :
    within cost budget spent (item :: items) = item :: within cost budget (spent + cost item) items :=
  if_pos h

theorem within_cons_of_lt {item : α} (h : budget < spent + cost item) :
    within cost budget spent (item :: items) = [] :=
  if_neg (Nat.not_le.2 h)

theorem within_prefix : within cost budget spent items <+: items := by
  induction items generalizing spent with
  | nil => exact List.nil_prefix
  | cons item _ ih =>
    by_cases h : spent + cost item ≤ budget
    · rw [within_cons_of_le h]
      exact List.cons_prefix_cons.2 ⟨rfl, ih⟩
    · rw [within_cons_of_lt (Nat.lt_of_not_le h)]
      exact List.nil_prefix

/-- **The budget covers what is served.** -/
theorem sum_within_le (hspent : spent ≤ budget) :
    spent + total cost (within cost budget spent items) ≤ budget := by
  induction items generalizing spent with
  | nil => exact hspent
  | cons item _ ih =>
    by_cases h : spent + cost item ≤ budget
    · rw [within_cons_of_le h, total_cons, ← Nat.add_assoc]
      exact ih h
    · rw [within_cons_of_lt (Nat.lt_of_not_le h)]
      exact hspent

/-- **No longer prefix is covered.** -/
theorem prefix_within_of_sum_le {front : List α} (hfront : front <+: items)
    (hcost : spent + total cost front ≤ budget) : front <+: within cost budget spent items := by
  induction items generalizing spent front with
  | nil =>
    rw [List.prefix_nil.1 hfront]
    exact List.nil_prefix
  | cons _ _ ih =>
    cases front with
    | nil => exact List.nil_prefix
    | cons =>
      obtain ⟨rfl, hrest⟩ := List.cons_prefix_cons.1 hfront
      rw [total_cons, ← Nat.add_assoc] at hcost
      rw [within_cons_of_le ((Nat.le_add_right _ _).trans hcost)]
      exact List.cons_prefix_cons.2 ⟨rfl, ih hrest hcost⟩

/-- **A larger budget serves at least as much.** -/
theorem within_prefix_within {budget' : Nat} (hspent : spent ≤ budget) (h : budget ≤ budget') :
    within cost budget spent items <+: within cost budget' spent items :=
  prefix_within_of_sum_le within_prefix ((sum_within_le hspent).trans h)

end PrefixBudget
