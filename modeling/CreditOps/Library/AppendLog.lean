import Mathlib.Data.List.Pairwise
import Mathlib.Data.List.Sort

/-!
# The latest row of an append-only table

An append-only table holds its rows in commit order, newest first, while a reader sees them ordered by
a recorded key (a timestamp and an id), which need not follow the commit order. `latest` is the last
row in that order that matches a filter.
-/

set_option autoImplicit false

namespace AppendLog

universe u

variable {α : Type u} (r : α → α → Prop) [DecidableRel r] (p : α → Bool)

/-- The last row that matches, in the order of the key. -/
def latest (rows : List α) : Option α :=
  ((rows.insertionSort r).filter p).getLast?

theorem orderedInsert_split (row : α) (rows : List α) :
    ∃ before after, rows = before ++ after ∧ rows.orderedInsert r row = before ++ row :: after := by
  refine ⟨rows.takeWhile fun b => ¬ r row b, rows.dropWhile fun b => ¬ r row b, ?_, ?_⟩
  · exact (List.takeWhile_append_dropWhile ..).symm
  · exact List.orderedInsert_eq_take_drop r row rows

/-- **One append.** The latest row stays the latest, or the appended row matches and is the latest. -/
theorem latest_cons (row : α) (rows : List α) :
    latest r p (row :: rows) = latest r p rows ∨
      (p row = true ∧ latest r p (row :: rows) = some row) := by
  unfold latest
  rw [List.insertionSort_cons]
  obtain ⟨before, after, hold, hnew⟩ := orderedInsert_split r row (rows.insertionSort r)
  rw [hnew, hold, List.filter_append, List.filter_append, List.filter_cons]
  cases hp : p row with
  | false => exact Or.inl rfl
  | true =>
    rw [if_pos rfl]
    cases hafter : after.filter p with
    | nil =>
      -- nothing matches after the appended row
      refine Or.inr ⟨rfl, ?_⟩
      rw [List.getLast?_append, List.getLast?_singleton, Option.some_or]
    | cons =>
      -- a later row matches, and it was the latest before
      refine Or.inl ?_
      rw [List.getLast?_append, List.getLast?_append, List.getLast?_cons_cons]

theorem mem_of_latest {row : α} {rows : List α} (h : latest r p rows = some row) :
    row ∈ rows ∧ p row = true := by
  obtain ⟨hmem, hp⟩ := List.mem_filter.1 (List.mem_of_getLast? h)
  exact ⟨(List.mem_insertionSort r).1 hmem, hp⟩

/-! ## The latest row by a key -/

section Key

universe v

variable {β : Type v} [LinearOrder β] {key : α → β} {p : α → Bool} {rows : List α} {row : α}

theorem le_of_latest (h : latest (fun a b => key a ≤ key b) p rows = some row) {other : α}
    (hmem : other ∈ rows) (hp : p other = true) : key other ≤ key row := by
  have : Std.Total fun a b : α => key a ≤ key b := ⟨fun a b => le_total (key a) (key b)⟩
  have : IsTrans α fun a b => key a ≤ key b := ⟨fun a b c hab hbc => le_trans hab hbc⟩
  have : Std.Refl fun a b : α => key a ≤ key b := ⟨fun a => le_refl (key a)⟩
  have hsort : ((rows.insertionSort fun a b => key a ≤ key b).filter p).Pairwise
      fun a b => key a ≤ key b := (List.pairwise_insertionSort _ rows).filter p
  have hother : other ∈ (rows.insertionSort fun a b => key a ≤ key b).filter p :=
    List.mem_filter.2 ⟨(List.mem_insertionSort _).2 hmem, hp⟩
  have hlast := hsort.rel_getLast hother
  rwa [(List.getLast_eq_iff_getLast?_eq_some _).2 h] at hlast

/-- **The latest row.** With distinct keys it is the matching row that no matching row is later than. -/
theorem latest_eq_some_iff (hinj : ∀ a ∈ rows, ∀ b ∈ rows, key a = key b → a = b) :
    latest (fun a b => key a ≤ key b) p rows = some row ↔
      row ∈ rows ∧ p row = true ∧ ∀ other ∈ rows, p other = true → key other ≤ key row := by
  constructor
  · intro h
    obtain ⟨hmem, hp⟩ := mem_of_latest _ p h
    exact ⟨hmem, hp, fun other hother hpother => le_of_latest h hother hpother⟩
  · rintro ⟨hmem, hp, hmax⟩
    cases hlatest : latest (fun a b => key a ≤ key b) p rows with
    | none =>
      -- a matching row is left, so there is a latest one
      have hnil := List.getLast?_eq_none_iff.1 hlatest
      have hin : row ∈ (rows.insertionSort fun a b => key a ≤ key b).filter p :=
        List.mem_filter.2 ⟨(List.mem_insertionSort _).2 hmem, hp⟩
      rw [hnil] at hin
      cases hin
    | some last =>
      obtain ⟨hlast, hplast⟩ := mem_of_latest _ p hlatest
      have hkey := le_antisymm (le_of_latest hlatest hmem hp) (hmax last hlast hplast)
      rw [hinj row hmem last hlast hkey]

end Key

/-! ## Numbered logs -/

section Numbered

variable {number : α → Nat} {rows : List α}

/-- The rows are numbered from one without a hole, newest first. -/
def Numbered (number : α → Nat) : List α → Prop
  | [] => True
  | row :: older => number row = older.length + 1 ∧ Numbered number older

theorem Numbered.exists_iff (h : Numbered number rows) (k : Nat) :
    (∃ row ∈ rows, number row = k) ↔ 1 ≤ k ∧ k ≤ rows.length := by
  induction rows with
  | nil =>
    simp only [List.not_mem_nil, false_and, exists_false, List.length_nil, false_iff]
    omega
  | cons _ _ ih =>
    obtain ⟨hrow, holder⟩ := h
    simp only [List.mem_cons, exists_eq_or_imp, ih holder, hrow, List.length_cons]
    omega

/-- **The next number.** A free number that is one, or one beyond a number in use, is the next one. -/
theorem Numbered.eq_next (h : Numbered number rows) {k : Nat}
    (hfree : ∀ row ∈ rows, number row ≠ k)
    (hafter : k = 1 ∨ ∃ row ∈ rows, k = number row + 1) : k = rows.length + 1 := by
  have hunused : ¬ (1 ≤ k ∧ k ≤ rows.length) := by
    rw [← h.exists_iff k]
    rintro ⟨row, hmem, hk⟩
    exact hfree row hmem hk
  rcases hafter with rfl | ⟨row, hmem, rfl⟩
  · omega
  have hused := (h.exists_iff (number row)).1 ⟨row, hmem, rfl⟩
  omega

theorem Numbered.map_reverse (h : Numbered number rows) :
    (rows.map number).reverse = List.range' 1 rows.length := by
  induction rows with
  | nil => rfl
  | cons _ _ ih =>
    obtain ⟨hrow, holder⟩ := h
    rw [List.map_cons, List.reverse_cons, ih holder, hrow, List.length_cons, List.range'_1_concat,
      Nat.add_comm 1]

theorem Numbered.pairwise (h : Numbered number rows) :
    rows.Pairwise fun a b => number b ≤ number a := by
  induction rows with
  | nil => exact List.Pairwise.nil
  | cons _ _ ih =>
    obtain ⟨_, holder⟩ := h
    refine List.Pairwise.cons ?_ (ih holder)
    intro other hmem
    have hused := (holder.exists_iff (number other)).1 ⟨other, hmem, rfl⟩
    omega

end Numbered

/-! ## Logs of moves -/

section Trail

universe v

variable {σ : Type v} {allowed : σ → σ → Prop} {start current next : σ} {moves : List (σ × σ)}

/-- The moves, newest first, lead from `start` to `current` along allowed edges. -/
def Trail (allowed : σ → σ → Prop) (start : σ) : List (σ × σ) → σ → Prop
  | [], current => current = start
  | move :: older, current => move.2 = current ∧ allowed move.1 move.2 ∧ Trail allowed start older move.1

instance decidableTrail [DecidableEq σ] [DecidableRel allowed] :
    ∀ (moves : List (σ × σ)) (current : σ), Decidable (Trail allowed start moves current)
  | [], _ => inferInstanceAs (Decidable (_ = _))
  | move :: older, _ =>
    have := decidableTrail older move.1
    inferInstanceAs (Decidable (_ ∧ _ ∧ _))

theorem Trail.unique (h : Trail allowed start moves current) (h' : Trail allowed start moves next) :
    current = next := by
  cases moves with
  | nil => exact Eq.trans h (Eq.symm h')
  | cons => exact h.1.symm.trans h'.1

/-- **One more move.** -/
theorem trail_cons_iff (h : Trail allowed start moves current) {source : σ} :
    Trail allowed start ((source, next) :: moves) next ↔ source = current ∧ allowed source next := by
  constructor
  · rintro ⟨-, hallow, holder⟩
    exact ⟨holder.unique h, hallow⟩
  · rintro ⟨rfl, hallow⟩
    exact ⟨rfl, hallow, h⟩

theorem Trail.rank_le {rank : σ → Nat} (hclimbs : ∀ {a b}, allowed a b → rank a < rank b)
    (h : Trail allowed start moves current) {move : σ × σ} (hmem : move ∈ moves) :
    rank move.2 ≤ rank current := by
  induction moves generalizing current with
  | nil => exact absurd hmem List.not_mem_nil
  | cons _ _ ih =>
    obtain ⟨rfl, hallow, holder⟩ := h
    rcases List.mem_cons.1 hmem with rfl | hold
    · exact le_refl _
    · exact (ih holder hold).trans (hclimbs hallow).le

end Trail

end AppendLog
