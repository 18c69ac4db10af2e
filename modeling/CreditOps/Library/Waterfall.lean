import Mathlib.Algebra.Group.Subgroup.ZPowers.Basic
import Mathlib.Algebra.Group.Subgroup.Finite
import Mathlib.Algebra.Order.BigOperators.Group.List
import Mathlib.Algebra.Order.Floor.Ring

/-!
# Filling demands in order

One amount is poured over a list of demands: each demand takes what is there, up to its own size, and
what it takes is rounded half up to a unit. The demands are multiples of the unit; the amount need not
be one.
-/

set_option autoImplicit false

namespace Waterfall

open AddSubgroup

universe v

/-! ## Priority -/

section Priority

variable {M : Type v} [Zero M] [LinearOrder M]

/-- A pass down the buckets, each a share and its demand. A bucket gets at most its demand; it gets nothing
when nothing is left, and nothing is left when it gets less than its demand. -/
inductive Served : M → List (M × M) → Prop where
  | nil (remaining : M) : Served remaining []
  | cons {remaining left share demand : M} {buckets : List (M × M)} (nonneg : 0 ≤ share)
      (le : share ≤ demand) (empty : remaining ≤ 0 → share = 0 ∧ left ≤ 0)
      (short : share < demand → left ≤ 0) (rest : Served left buckets) :
      Served remaining ((share, demand) :: buckets)

variable {remaining : M} {buckets : List (M × M)}

theorem Served.within (h : Served remaining buckets) :
    ∀ bucket ∈ buckets, 0 ≤ bucket.1 ∧ bucket.1 ≤ bucket.2 := by
  induction h with
  | nil => exact fun bucket hbucket => absurd hbucket List.not_mem_nil
  | cons nonneg le _ _ _ ih => exact List.forall_mem_cons.2 ⟨⟨nonneg, le⟩, ih⟩

theorem Served.eq_zero (h : Served remaining buckets) (hempty : remaining ≤ 0) :
    ∀ bucket ∈ buckets, bucket.1 = 0 := by
  induction h with
  | nil => exact fun bucket hbucket => absurd hbucket List.not_mem_nil
  | cons _ _ empty _ _ ih =>
    obtain ⟨hshare, hleft⟩ := empty hempty
    exact List.forall_mem_cons.2 ⟨hshare, ih hleft⟩

/-- **The buckets are filled in order.** Before a bucket that gets something, every bucket is full. -/
theorem Served.pairwise (h : Served remaining buckets) :
    buckets.Pairwise fun earlier later => 0 < later.1 → earlier.1 = earlier.2 := by
  induction h with
  | nil => exact List.Pairwise.nil
  | @cons remaining left share demand buckets _ le _ short rest ih =>
    refine List.Pairwise.cons (fun later hlater hpos => ?_) ih
    by_contra hother
    -- a bucket that is not full leaves nothing for the later ones
    have hleft := short (lt_of_le_of_ne le hother)
    exact hpos.ne' (rest.eq_zero hleft later hlater)

/-- At most one bucket is filled in part. -/
theorem Served.countP_le_one (h : Served remaining buckets) :
    (buckets.countP fun bucket => 0 < bucket.1 ∧ bucket.1 < bucket.2) ≤ 1 := by
  induction h with
  | nil => exact Nat.zero_le _
  | @cons remaining left share demand buckets _ _ _ short rest ih =>
    rw [List.countP_cons]
    split
    · rename_i hpart
      have hleft := short (of_decide_eq_true hpart).2
      have hnone : (buckets.countP fun bucket => 0 < bucket.1 ∧ bucket.1 < bucket.2) = 0 := by
        rw [List.countP_eq_zero]
        intro bucket hbucket hpos
        exact (of_decide_eq_true hpos).1.ne' (rest.eq_zero hleft bucket hbucket)
      rw [hnone]
    · exact ih

end Priority

variable {K : Type v} [Field K] [LinearOrder K] [FloorRing K]

/-! ## Rounding to a unit -/

/-- Half up to a multiple of the unit. -/
def halfUp (u x : K) : K :=
  ⌊x / u + 1 / 2⌋ * u

/-- What a demand takes from what remains. -/
def take (u remaining demand : K) : K :=
  if remaining ≤ 0 ∨ demand ≤ 0 then 0 else halfUp u (min remaining demand)

/-- What the demands take, in order. -/
def allocations (u : K) : K → List K → List K
  | _, [] => []
  | remaining, demand :: demands =>
    take u remaining demand :: allocations u (remaining - take u remaining demand) demands

/-- What is left. -/
def leftover (u amount : K) (demands : List K) : K :=
  amount - (allocations u amount demands).sum

/-- Nothing is made up or lost, every share is within its demand, and something is left over only after
every demand is full. -/
structure Balanced (u amount : K) (demands : List K) : Prop where
  total : amount = (allocations u amount demands).sum + max (leftover u amount demands) 0
  within : List.Forall₂ (fun share demand => 0 ≤ share ∧ share ≤ demand)
    (allocations u amount demands) demands
  full : 0 < leftover u amount demands → allocations u amount demands = demands

theorem halfUp_mem (u x : K) : halfUp u x ∈ zmultiples u :=
  mem_zmultiples_iff.2 ⟨⌊x / u + 1 / 2⌋, zsmul_eq_mul _ _⟩

theorem take_mem (u remaining demand : K) : take u remaining demand ∈ zmultiples u := by
  unfold take
  split
  · exact zero_mem _
  · exact halfUp_mem u _

theorem allocations_mem (u : K) (demands : List K) :
    ∀ amount, ∀ share ∈ allocations u amount demands, share ∈ zmultiples u := by
  induction demands with
  | nil =>
    intro amount share hshare
    cases hshare
  | cons demand _ ih =>
    intro amount share hshare
    rcases List.mem_cons.1 hshare with rfl | hrest
    · exact take_mem u amount demand
    · exact ih _ share hrest

theorem leftover_cons (u amount demand : K) (demands : List K) :
    leftover u amount (demand :: demands) = leftover u (amount - take u amount demand) demands := by
  unfold leftover
  rw [allocations, List.sum_cons, sub_sub]

theorem Balanced.sum_le [IsStrictOrderedRing K] {u amount : K} {demands : List K}
    (h : Balanced u amount demands) :
    (allocations u amount demands).sum ≤ amount := by
  by_contra hover
  have hnone : leftover u amount demands ≤ 0 := by
    unfold leftover
    exact (sub_neg.2 (not_le.1 hover)).le
  have htotal := h.total
  rw [max_eq_right hnone, add_zero] at htotal
  exact hover htotal.ge

section Unit

variable [IsStrictOrderedRing K] {u : K} (hu : 0 < u)

include hu

variable {x y demand remaining : K}

theorem halfUp_of_mem (hx : x ∈ zmultiples u) : halfUp u x = x := by
  obtain ⟨n, rfl⟩ := mem_zmultiples_iff.1 hx
  have hfloor : ⌊(n : K) + 1 / 2⌋ = n := by
    rw [Int.floor_intCast_add, Int.floor_eq_zero_iff.2 (by constructor <;> norm_num), add_zero]
  rw [halfUp, zsmul_eq_mul, mul_div_cancel_right₀ _ hu.ne', hfloor]

theorem halfUp_mono (hxy : x ≤ y) : halfUp u x ≤ halfUp u y := by
  apply mul_le_mul_of_nonneg_right _ hu.le
  exact_mod_cast Int.floor_mono (add_le_add (div_le_div_of_nonneg_right hxy hu.le) le_rfl)

theorem halfUp_nonneg (hx : 0 ≤ x) : 0 ≤ halfUp u x := by
  calc (0 : K) = halfUp u 0 := (halfUp_of_mem hu (zero_mem _)).symm
    _ ≤ halfUp u x := halfUp_mono hu hx

theorem halfUp_le (hxy : x ≤ y) (hy : y ∈ zmultiples u) : halfUp u x ≤ y := by
  calc halfUp u x ≤ halfUp u y := halfUp_mono hu hxy
    _ = y := halfUp_of_mem hu hy

theorem abs_sub_halfUp_le (x : K) : |x - halfUp u x| ≤ u / 2 := by
  have hdiv : x / u * u = x := div_mul_cancel₀ x hu.ne'
  have hlow := mul_le_mul_of_nonneg_right (Int.floor_le (x / u + 1 / 2)) hu.le
  have hhigh := mul_le_mul_of_nonneg_right (Int.lt_floor_add_one (x / u + 1 / 2)).le hu.le
  rw [add_mul, hdiv] at hlow
  rw [add_mul, add_mul, hdiv, one_mul] at hhigh
  unfold halfUp
  rw [abs_le]
  constructor <;> linarith

/-- Nothing is closer to a positive number than to zero and rounds past it. -/
theorem abs_sub_halfUp_le_self (hx : 0 ≤ x) : |x - halfUp u x| ≤ x := by
  rcases (halfUp_nonneg hu hx).eq_or_lt with hzero | hpos
  · rw [← hzero, sub_zero, abs_of_nonneg hx]
  · -- a positive multiple is at least the unit, so half a unit was there
    have hfloor : (0 : K) < ⌊x / u + 1 / 2⌋ := pos_of_mul_pos_left hpos hu.le
    have hone : (1 : K) ≤ ⌊x / u + 1 / 2⌋ := by
      exact_mod_cast Int.add_one_le_of_lt (Int.cast_pos.1 hfloor)
    have hhalf : 1 / 2 ≤ x / u := by
      linarith [Int.floor_le (x / u + 1 / 2)]
    have hx' : u / 2 ≤ x := by
      rw [le_div_iff₀ hu] at hhalf
      linarith
    exact (abs_sub_halfUp_le hu x).trans hx'

/-! ## One share -/

theorem take_nonneg (remaining demand : K) : 0 ≤ take u remaining demand := by
  unfold take
  split
  · exact le_rfl
  · rename_i hboth
    rw [not_or, not_le, not_le] at hboth
    exact halfUp_nonneg hu (le_min hboth.1.le hboth.2.le)

theorem take_le (hdemand : 0 ≤ demand) (hmem : demand ∈ zmultiples u) :
    take u remaining demand ≤ demand := by
  unfold take
  split
  · exact hdemand
  · exact halfUp_le hu (min_le_right _ _) hmem

theorem take_of_le (hdemand : 0 ≤ demand) (hmem : demand ∈ zmultiples u) (hle : demand ≤ remaining) :
    take u remaining demand = demand := by
  unfold take
  split
  · rename_i hnone
    rcases hnone with hempty | hzero
    · exact le_antisymm hdemand (hle.trans hempty)
    · exact le_antisymm hdemand hzero
  · rw [min_eq_right hle]
    exact halfUp_of_mem hu hmem

theorem take_of_lt (hpos : 0 ≤ remaining) (hlt : remaining < demand) :
    take u remaining demand = halfUp u remaining := by
  unfold take
  split
  · rename_i hnone
    have hzero : remaining = 0 := by
      rcases hnone with hempty | _
      · exact le_antisymm hempty hpos
      · linarith
    rw [hzero, halfUp_of_mem hu (zero_mem _)]
  · rw [min_eq_left hlt.le]

theorem take_eq_min (hpos : 0 ≤ remaining) (hrem : remaining ∈ zmultiples u) (hdemand : 0 ≤ demand)
    (hmem : demand ∈ zmultiples u) :
    take u remaining demand = min remaining demand := by
  rcases le_or_gt demand remaining with hle | hlt
  · rw [take_of_le hu hdemand hmem hle, min_eq_right hle]
  · rw [take_of_lt hu hpos hlt, halfUp_of_mem hu hrem, min_eq_left hlt.le]

/-! ## All shares -/

variable {demands : List K}

theorem allocations_within (hdemands : ∀ demand ∈ demands, 0 ≤ demand)
    (hmem : ∀ demand ∈ demands, demand ∈ zmultiples u) :
    ∀ amount, List.Forall₂ (fun share demand => 0 ≤ share ∧ share ≤ demand)
      (allocations u amount demands) demands := by
  induction demands with
  | nil => exact fun _ => List.Forall₂.nil
  | cons _ _ ih =>
    intro amount
    rw [List.forall_mem_cons] at hdemands hmem
    exact List.Forall₂.cons ⟨take_nonneg hu _ _, take_le hu hdemands.1 hmem.1⟩
      (ih hdemands.2 hmem.2 _)

/-- An amount that covers every demand fills every demand. -/
theorem allocations_of_sum_le (hdemands : ∀ demand ∈ demands, 0 ≤ demand)
    (hmem : ∀ demand ∈ demands, demand ∈ zmultiples u) :
    ∀ amount, demands.sum ≤ amount → allocations u amount demands = demands := by
  induction demands with
  | nil => exact fun _ _ => rfl
  | cons demand demands ih =>
    intro amount hcovers
    rw [List.forall_mem_cons] at hdemands hmem
    rw [List.sum_cons] at hcovers
    have hrest : 0 ≤ demands.sum := List.sum_nonneg hdemands.2
    have htake : take u amount demand = demand :=
      take_of_le hu hdemands.1 hmem.1 (by linarith)
    rw [allocations, htake, ih hdemands.2 hmem.2 _ (by linarith)]

/-- Whole units are handed out up to the sum of the demands. -/
theorem allocations_sum (hdemands : ∀ demand ∈ demands, 0 ≤ demand)
    (hmem : ∀ demand ∈ demands, demand ∈ zmultiples u) :
    ∀ amount, 0 ≤ amount → amount ∈ zmultiples u →
      (allocations u amount demands).sum = min amount demands.sum := by
  induction demands with
  | nil =>
    intro amount hpos _
    exact (min_eq_right hpos).symm
  | cons demand demands ih =>
    intro amount hpos hamount
    rw [List.forall_mem_cons] at hdemands hmem
    have hmin := take_eq_min hu hpos hamount hdemands.1 hmem.1
    have hleft : 0 ≤ amount - take u amount demand := by
      rw [hmin]
      exact sub_nonneg.2 (min_le_left _ _)
    rw [allocations, List.sum_cons, List.sum_cons,
      ih hdemands.2 hmem.2 _ hleft (sub_mem hamount (take_mem u _ _)), hmin]
    have hrest : 0 ≤ demands.sum := List.sum_nonneg hdemands.2
    rcases le_total demand amount with hle | hle
    · rw [min_eq_right hle, ← min_add_add_left, add_sub_cancel]
    · rw [min_eq_left hle, sub_self, min_eq_left hrest, add_zero, min_eq_left (by linarith)]

/-- **When a pour balances.** The amount and the demands are not negative, and the amount is whole units
or covers every demand. -/
theorem balanced_iff (amount : K) (hmem : ∀ demand ∈ demands, demand ∈ zmultiples u) :
    Balanced u amount demands ↔
      0 ≤ amount ∧ (∀ demand ∈ demands, 0 ≤ demand) ∧
        (amount ∈ zmultiples u ∨ demands.sum ≤ amount) := by
  constructor
  · intro h
    obtain ⟨hshares, -⟩ := (List.forall₂_and_left _ _).1 h.within
    refine ⟨(List.sum_nonneg hshares).trans h.sum_le, ?_, ?_⟩
    · have hflip : List.Forall₂ (fun demand share => 0 ≤ demand ∧ 0 ≤ share) demands
          (allocations u amount demands) :=
        h.within.flip.imp fun _ _ hbound => ⟨hbound.1.trans hbound.2, hbound.1⟩
      exact ((List.forall₂_and_left _ _).1 hflip).1
    · rcases le_or_gt (leftover u amount demands) 0 with hnone | hsome
      · -- nothing is left over, so the amount is a sum of shares
        left
        have htotal := h.total
        rw [max_eq_right hnone, add_zero] at htotal
        rw [htotal]
        exact list_sum_mem (allocations_mem u demands amount)
      · right
        have hfull := h.full hsome
        unfold leftover at hsome
        rw [hfull] at hsome
        exact (sub_pos.1 hsome).le
  · rintro ⟨hpos, hdemands, hunits⟩
    have hsum : (allocations u amount demands).sum ≤ amount := by
      rcases hunits with hamount | hcovers
      · rw [allocations_sum hu hdemands hmem amount hpos hamount]
        exact min_le_left _ _
      · rw [allocations_of_sum_le hu hdemands hmem amount hcovers]
        exact hcovers
    refine ⟨?_, allocations_within hu hdemands hmem amount, ?_⟩
    · unfold leftover
      rw [max_eq_left (sub_nonneg.2 hsum), add_sub_cancel]
    · intro hleft
      apply allocations_of_sum_le hu hdemands hmem
      rcases hunits with hamount | hcovers
      · unfold leftover at hleft
        rw [allocations_sum hu hdemands hmem amount hpos hamount] at hleft
        by_contra hopen
        rw [min_eq_left (not_le.1 hopen).le, sub_self] at hleft
        exact hleft.false
      · exact hcovers

end Unit

end Waterfall
