import Mathlib.Data.Finset.Union

/-!
# Recursive queries

`with recursive … union`: every row of the working table yields rows, those that are new are added to the
result and make up the next working table, until there are none. Where the rows a row yields have a higher
rank, and no rank passes a bound, the query ends (`recursiveUnion_isSome`), and its result is the least set
of rows that holds the first ones and is closed.
-/

set_option autoImplicit false

namespace RecursiveQuery

universe u

variable {ρ : Type u} [DecidableEq ρ] {next : ρ → Finset ρ} {result working rows : Finset ρ} {n : Nat}

/-- The rounds of the query; none when there is a working table left after `n` of them. -/
def recursiveUnion (next : ρ → Finset ρ) : Nat → Finset ρ → Finset ρ → Option (Finset ρ)
  | 0, result, working => if working = ∅ then some result else none
  | n + 1, result, working =>
    recursiveUnion next n (result ∪ (working.biUnion next \ result)) (working.biUnion next \ result)

/-- **Nothing but what the first rows yield.** -/
theorem of_mem_recursiveUnion {P : ρ → Prop} (hnext : ∀ row, P row → ∀ row' ∈ next row, P row')
    (hres : ∀ row ∈ result, P row) (hworking : working ⊆ result)
    (h : recursiveUnion next n result working = some rows) : ∀ row ∈ rows, P row := by
  induction n generalizing result working with
  | zero =>
    unfold recursiveUnion at h
    split at h
    · cases h
      exact hres
    · cases h
  | succ _ ih =>
    refine ih ?_ Finset.subset_union_right h
    intro row hrow
    rcases Finset.mem_union.1 hrow with hold | hnew
    · exact hres row hold
    · obtain ⟨source, hsource, hyields⟩ := Finset.mem_biUnion.1 (Finset.mem_sdiff.1 hnew).1
      exact hnext source (hres source (hworking hsource)) row hyields

/-- **All that the first rows yield.** -/
theorem recursiveUnion_closed (hclosed : ∀ row ∈ result, row ∉ working → next row ⊆ result)
    (h : recursiveUnion next n result working = some rows) :
    result ⊆ rows ∧ ∀ row ∈ rows, next row ⊆ rows := by
  induction n generalizing result working with
  | zero =>
    unfold recursiveUnion at h
    split at h
    · rename_i hempty
      cases h
      refine ⟨Finset.Subset.refl _, fun row hrow => hclosed row hrow ?_⟩
      rw [hempty]
      exact Finset.notMem_empty row
    · cases h
  | succ _ ih =>
    have hstep := ih ?_ h
    · exact ⟨Finset.subset_union_left.trans hstep.1, hstep.2⟩
    · intro row hrow hnew row' hyields
      rcases Finset.mem_union.1 hrow with hold | hnew'
      · by_cases hworks : row ∈ working
        · -- the round has taken the row up
          rw [Finset.union_sdiff_self_eq_union]
          exact Finset.mem_union_right _ (Finset.mem_biUnion.2 ⟨row, hworks, hyields⟩)
        · exact Finset.mem_union_left _ (hclosed row hold hworks hyields)
      · exact absurd hnew' hnew

/-- **The query ends**, after as many rounds as ranks are left. -/
theorem recursiveUnion_isSome (rank : ρ → Nat) (bound low : Nat)
    (hrank : ∀ row, ∀ row' ∈ next row, rank row < rank row' ∧ rank row' ≤ bound)
    (hlow : ∀ row ∈ working, low ≤ rank row ∧ rank row ≤ bound) (hn : bound < low + n) :
    ∃ rows, recursiveUnion next n result working = some rows := by
  induction n generalizing result working low with
  | zero =>
    refine ⟨result, if_pos (Finset.eq_empty_of_forall_notMem fun row hrow => ?_)⟩
    have := hlow row hrow
    omega
  | succ _ ih =>
    refine ih (low + 1) (fun row hrow => ?_) (by omega)
    obtain ⟨source, hsource, hyields⟩ := Finset.mem_biUnion.1 (Finset.mem_sdiff.1 hrow).1
    have := hrank source row hyields
    have := hlow source hsource
    omega

end RecursiveQuery
