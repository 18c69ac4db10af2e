import Mathlib.Data.List.Sort
import Mathlib.Data.List.MinMax

/-!
# Draining a queue through a window

Entries wait in a list, ordered by a key. A round looks only at the `n` entries with the least keys, its
window, and removes those of them it can handle; the bad ones stay where they are (`drain`).
-/

set_option autoImplicit false

namespace Window

universe u v

variable {α : Type u} {κ : Type v} [LinearOrder κ] (key : α → κ)

/-! ## Places in line -/

/-- How many entries are ahead of `a`. -/
def rank (l : List α) (a : α) : Nat :=
  l.countP fun b => key b < key a

variable {key} {l : List α} {a : α} {n : Nat}

theorem rank_cons (b : α) :
    rank key (b :: l) a = rank key l a + if key b < key a then 1 else 0 := by
  simp only [rank, List.countP_cons, decide_eq_true_eq]

/-- **The window of a sorted list.** The first `n` entries are those with fewer than `n` ahead. -/
theorem mem_take_iff_rank_lt (hsort : l.Pairwise (key · < key ·)) :
    a ∈ l.take n ↔ a ∈ l ∧ rank key l a < n := by
  induction l generalizing n with
  | nil => simp
  | cons _ l ih =>
    obtain ⟨hhead, htail⟩ := List.pairwise_cons.1 hsort
    cases n with
    | zero => simp
    | succ n =>
      rw [List.take_succ_cons, List.mem_cons, List.mem_cons, ih htail, rank_cons]
      constructor
      · rintro (rfl | ⟨hmem, hrank⟩)
        · -- nothing behind the first entry is ahead of it
          have hnone : rank key l a = 0 :=
            List.countP_eq_zero.2 fun c hc => by simpa using (hhead c hc).le
          refine ⟨Or.inl rfl, ?_⟩
          rw [hnone, if_neg (lt_irrefl _)]
          exact Nat.succ_pos n
        · refine ⟨Or.inr hmem, ?_⟩
          rw [if_pos (hhead a hmem)]
          exact Nat.succ_lt_succ hrank
      · rintro ⟨rfl | hmem, hrank⟩
        · exact Or.inl rfl
        · rw [if_pos (hhead a hmem)] at hrank
          exact Or.inr ⟨hmem, Nat.lt_of_succ_lt_succ hrank⟩

/-! ## Rounds -/

variable (key) in
/-- A round: the entries of the window that are not bad are removed. -/
def drain (bad : α → Bool) (n : Nat) (l : List α) : List α :=
  l.filter fun a => bad a || decide (n ≤ rank key l a)

variable (key) in
/-- No entry that is not bad has `n` bad ones ahead. -/
def Served (bad : α → Bool) (n : Nat) (l : List α) : Prop :=
  ∀ a ∈ l, bad a = false → rank key (l.filter bad) a < n

variable {bad : α → Bool}

theorem mem_drain :
    a ∈ drain key bad n l ↔ a ∈ l ∧ (bad a = true ∨ n ≤ rank key l a) := by
  rw [drain, List.mem_filter, Bool.or_eq_true, decide_eq_true_eq]

theorem filter_bad_drain : (drain key bad n l).filter bad = l.filter bad := by
  rw [drain, List.filter_filter]
  apply List.filter_congr
  intro b _
  cases bad b <;> rfl

theorem rank_filter_le : rank key (l.filter bad) a ≤ rank key l a :=
  List.filter_sublist.countP_le

/-- **The stuck entry.** With `n` bad entries ahead, an entry that is not bad stays for good. -/
theorem mem_iterate_drain_of_stuck (hmem : a ∈ l) (hstuck : n ≤ rank key (l.filter bad) a)
    (k : Nat) : a ∈ (drain key bad n)^[k] l := by
  induction k generalizing l with
  | zero => exact hmem
  | succ _ ih =>
    rw [Function.iterate_succ_apply]
    apply ih
    · exact mem_drain.2 ⟨hmem, Or.inr (hstuck.trans rank_filter_le)⟩
    · rw [filter_bad_drain]
      exact hstuck

theorem Served.drain (h : Served key bad n l) : Served key bad n (drain key bad n l) := by
  intro b hb hgood
  rw [filter_bad_drain]
  exact h b (mem_drain.1 hb).1 hgood

/-- **Every round makes progress.** The first entry that is not bad is in the window. -/
theorem Served.countP_drain_lt (h : Served key bad n l) (hgood : ∃ a ∈ l, bad a = false) :
    (Window.drain key bad n l).countP (fun a => !bad a) < l.countP fun a => !bad a := by
  -- take the first of the entries that are not bad
  obtain ⟨b, hb, hbGood⟩ := hgood
  have hne : l.filter (fun a => !bad a) ≠ [] :=
    List.ne_nil_of_mem (List.mem_filter.2 ⟨hb, by rw [hbGood]; rfl⟩)
  obtain ⟨first, hfirst⟩ : ∃ first, (l.filter fun a => !bad a).argmin key = some first :=
    Option.ne_none_iff_exists'.1 (mt List.argmin_eq_none.1 hne)
  obtain ⟨hmem, hfirstGood⟩ := List.mem_filter.1 (List.argmin_mem hfirst)
  -- all that is ahead of it is bad, so it is in the window
  have hahead : rank key l first = rank key (l.filter bad) first := by
    rw [rank, rank, List.countP_filter]
    apply List.countP_congr
    intro c hc
    simp only [Bool.and_eq_true, decide_eq_true_eq, iff_self_and]
    intro hlt
    by_contra hcGood
    have hc' : c ∈ l.filter fun a => !bad a :=
      List.mem_filter.2 ⟨hc, by rw [Bool.eq_false_of_not_eq_true hcGood]; rfl⟩
    exact absurd hlt (not_lt.2 (List.le_of_mem_argmin hc' hfirst))
  have hserved : rank key l first < n := by
    rw [hahead]
    exact h first hmem (by simpa using hfirstGood)
  rw [Window.drain, List.countP_eq_length_filter, List.countP_eq_length_filter, List.filter_comm]
  refine List.length_filter_lt_length_iff_exists.2 ⟨first, List.mem_filter.2 ⟨hmem, hfirstGood⟩, ?_⟩
  simpa [hserved] using hfirstGood

/-- **Rounds reach everything that is not bad.** -/
theorem forall_bad_of_served {k : Nat} (hcount : l.countP (fun a => !bad a) ≤ k)
    (h : Served key bad n l) : ∀ a ∈ (drain key bad n)^[k] l, bad a = true := by
  induction k generalizing l with
  | zero =>
    intro a hmem
    simpa using List.countP_eq_zero.1 (Nat.le_zero.1 hcount) a hmem
  | succ k ih =>
    rw [Function.iterate_succ_apply]
    refine ih ?_ h.drain
    by_cases hgood : ∃ a ∈ l, bad a = false
    · exact Nat.le_of_lt_succ ((h.countP_drain_lt hgood).trans_le hcount)
    · -- nothing is left to remove
      have hnone : (drain key bad n l).countP (fun a => !bad a) = 0 := by
        refine List.countP_eq_zero.2 fun b hb hbGood => hgood ⟨b, (mem_drain.1 hb).1, ?_⟩
        simpa using hbGood
      rw [hnone]
      exact Nat.zero_le k

/-- **When the rounds drain the list.** Some number of rounds leaves only bad entries if and only if
every entry that is not bad has fewer than `n` bad ones ahead of it. -/
theorem exists_drained_iff :
    (∃ k, ∀ a ∈ (drain key bad n)^[k] l, bad a = true) ↔ Served key bad n l := by
  constructor
  · rintro ⟨k, hk⟩ b hb hgood
    by_contra hstuck
    have hbad := hk b (mem_iterate_drain_of_stuck hb (not_lt.1 hstuck) k)
    rw [hgood] at hbad
    cases hbad
  · intro h
    exact ⟨_, forall_bad_of_served (Nat.le_refl _) h⟩

end Window
