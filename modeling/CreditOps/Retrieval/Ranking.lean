import Mathlib.Data.List.Sort
import Mathlib.Data.Prod.Lex
import Mathlib.Order.Bounds.Basic
import CreditOps.Domain.Text

/-!
# Merging the search legs

A passage may be ranked by the lexical leg, by the vector leg, or by both. The merged ranking has every
ranked passage once, in the order of its best position in a leg (`mergeRankings_merged`).
-/

set_option autoImplicit false

namespace CreditOps.Retrieval

variable {σ : Type}

/-- One passage ranked by a leg. -/
structure ScoredPassage (σ : Type) where
  passageId : Uuid
  score : σ
deriving DecidableEq

/-- What a leg returns, best first. A leg selects rows by their primary key, so it ranks a passage once. -/
structure SearchLeg (σ : Type) where
  entries : List (ScoredPassage σ)
  distinct : (entries.map (·.passageId)).Nodup

namespace SearchLeg

/-- The ranked passages, best first. -/
def ids (leg : SearchLeg σ) : List Uuid :=
  leg.entries.map (·.passageId)

/-- A leg that is not searched. -/
def none : SearchLeg σ :=
  ⟨[], List.nodup_nil⟩

/-- `{sp.passage_id: i for i, sp in enumerate(leg)}` -/
def position (leg : SearchLeg σ) (passageId : Uuid) : Option Nat :=
  ((leg.entries.zipIdx.filter (·.1.passageId = passageId)).getLast?).map (·.2)

/-- `{sp.passage_id: sp.score for sp in leg}` -/
def score (leg : SearchLeg σ) (passageId : Uuid) : Option σ :=
  ((leg.entries.filter (·.passageId = passageId)).getLast?).map (·.score)

end SearchLeg

/-- `_MergedPassage` -/
structure MergedPassage (σ : Type) where
  passageId : Uuid
  lexicalScore : Option σ
  vectorScore : Option σ
deriving DecidableEq

/-- The passages of both legs, by first appearance. -/
def orderedIds (lexical vector : SearchLeg σ) : List Uuid :=
  (lexical.ids ++ vector.ids).eraseDups

/-- `best_rank` -/
def bestRank (lexical vector : SearchLeg σ) (passageId : Uuid) : Nat :=
  match lexical.position passageId, vector.position passageId with
  | some i, some j => min i j
  | some i, none => i
  | none, some j => j
  | none, none => 0

/-- The sort key: the best rank, and the first appearance on a tie. -/
def mergeKey (lexical vector : SearchLeg σ) (passageId : Uuid) : Nat ×ₗ Nat :=
  toLex (bestRank lexical vector passageId, (orderedIds lexical vector).idxOf passageId)

/-- `_merge_rankings` -/
def mergeRankings (lexical vector : SearchLeg σ) : List (MergedPassage σ) :=
  ((orderedIds lexical vector).insertionSort
    fun a b => mergeKey lexical vector a ≤ mergeKey lexical vector b).map fun passageId =>
      { passageId
        lexicalScore := lexical.score passageId
        vectorScore := vector.score passageId }

/-! ## Positions -/

/-- A leg has the passage at that position. -/
def SearchLeg.At (leg : SearchLeg σ) (passageId : Uuid) (i : Nat) : Prop :=
  leg.ids[i]? = some passageId

/-- The best rank of a passage is its least position in a leg. -/
def IsBestRank (lexical vector : SearchLeg σ) (passageId : Uuid) (rank : Nat) : Prop :=
  IsLeast {i | lexical.At passageId i ∨ vector.At passageId i} rank

variable {lexical vector leg : SearchLeg σ} {passageId : Uuid} {i j : Nat}

theorem SearchLeg.At.unique (hi : leg.At passageId i) (hj : leg.At passageId j) : i = j := by
  obtain ⟨_, hget⟩ := List.getElem?_eq_some_iff.1 hi
  obtain ⟨_, hget'⟩ := List.getElem?_eq_some_iff.1 hj
  exact (List.Nodup.getElem_inj_iff leg.distinct).1 (hget.trans hget'.symm)

theorem SearchLeg.mem_ids_iff : passageId ∈ leg.ids ↔ ∃ i, leg.At passageId i :=
  List.mem_iff_getElem?

theorem SearchLeg.at_of_mem_zipIdx {entry : ScoredPassage σ × Nat}
    (h : entry ∈ leg.entries.zipIdx.filter (·.1.passageId = passageId)) : leg.At passageId entry.2 := by
  obtain ⟨hmem, hid⟩ := List.mem_filter.1 h
  have hget : leg.entries[entry.2]? = some entry.1 := List.mem_zipIdx_iff_getElem?.1 hmem
  have hid' : entry.1.passageId = passageId := of_decide_eq_true hid
  rw [At, ids, List.getElem?_map, hget, Option.map_some, hid']

/-- **The dictionary of positions** knows a passage exactly where the leg has it. -/
theorem SearchLeg.position_eq_some_iff : leg.position passageId = some i ↔ leg.At passageId i := by
  unfold position
  constructor
  · intro h
    obtain ⟨_, hlast, rfl⟩ := Option.map_eq_some_iff.1 h
    exact at_of_mem_zipIdx (List.mem_of_getLast? hlast)
  · intro h
    have hentry := h
    rw [At, ids, List.getElem?_map] at hentry
    obtain ⟨entry, hget, hid⟩ := Option.map_eq_some_iff.1 hentry
    have hmem : (entry, i) ∈ leg.entries.zipIdx.filter (·.1.passageId = passageId) :=
      List.mem_filter.2 ⟨List.mem_zipIdx_iff_getElem?.2 hget, decide_eq_true hid⟩
    cases hlast : (leg.entries.zipIdx.filter (·.1.passageId = passageId)).getLast? with
    | none =>
      rw [List.getLast?_eq_none_iff.1 hlast] at hmem
      cases hmem
    | some =>
      have hat := at_of_mem_zipIdx (List.mem_of_getLast? hlast)
      rw [Option.map_some, hat.unique h]

theorem SearchLeg.position_eq_none_iff : leg.position passageId = .none ↔ ∀ i, ¬ leg.At passageId i := by
  rw [Option.eq_none_iff_forall_ne_some]
  exact forall_congr' fun i => not_congr position_eq_some_iff

/-- **The best rank is the least position.** -/
theorem isBestRank_bestRank (h : passageId ∈ lexical.ids ∨ passageId ∈ vector.ids) :
    IsBestRank lexical vector passageId (bestRank lexical vector passageId) := by
  rw [SearchLeg.mem_ids_iff, SearchLeg.mem_ids_iff] at h
  unfold bestRank
  cases hlexical : lexical.position passageId with
  | none =>
    have hnot := SearchLeg.position_eq_none_iff.1 hlexical
    cases hvector : vector.position passageId with
    | none =>
      have hnot' := SearchLeg.position_eq_none_iff.1 hvector
      exact h.elim (fun ⟨i, hi⟩ => absurd hi (hnot i)) fun ⟨i, hi⟩ => absurd hi (hnot' i)
    | some =>
      have hj := SearchLeg.position_eq_some_iff.1 hvector
      refine ⟨Or.inr hj, ?_⟩
      rintro k (hk | hk)
      · exact absurd hk (hnot k)
      · exact (hj.unique hk).le
  | some i =>
    have hi := SearchLeg.position_eq_some_iff.1 hlexical
    cases hvector : vector.position passageId with
    | none =>
      have hnot' := SearchLeg.position_eq_none_iff.1 hvector
      refine ⟨Or.inl hi, ?_⟩
      rintro k (hk | hk)
      · exact (hi.unique hk).le
      · exact absurd hk (hnot' k)
    | some j =>
      have hj := SearchLeg.position_eq_some_iff.1 hvector
      dsimp only
      refine ⟨?_, ?_⟩
      · rcases le_total i j with hmin | hmin
        · rw [min_eq_left hmin]
          exact Or.inl hi
        · rw [min_eq_right hmin]
          exact Or.inr hj
      · rintro k (hk | hk)
        · exact (min_le_left i j).trans (hi.unique hk).le
        · exact (min_le_right i j).trans (hj.unique hk).le

theorem IsBestRank.unique {rank rank' : Nat} (h : IsBestRank lexical vector passageId rank)
    (h' : IsBestRank lexical vector passageId rank') : rank = rank' :=
  IsLeast.unique h h'

/-! ## The merged ranking -/

theorem nodup_eraseDups {α : Type} [BEq α] [LawfulBEq α] (n : Nat) :
    ∀ l : List α, l.length ≤ n → l.eraseDups.Nodup := by
  induction n with
  | zero =>
    intro l hl
    rw [List.eq_nil_of_length_eq_zero (Nat.le_zero.1 hl)]
    exact List.nodup_nil
  | succ _ ih =>
    intro l hl
    cases l with
    | nil => exact List.nodup_nil
    | cons =>
      rw [List.eraseDups_cons, List.nodup_cons]
      refine ⟨?_, ih _ ((List.length_filter_le _ _).trans (Nat.le_of_succ_le_succ hl))⟩
      intro hmem
      have hne := (List.mem_filter.1 (List.mem_eraseDups.1 hmem)).2
      rw [beq_self_eq_true] at hne
      exact Bool.false_ne_true hne

theorem mem_orderedIds : passageId ∈ orderedIds lexical vector ↔
    passageId ∈ lexical.ids ∨ passageId ∈ vector.ids := by
  rw [orderedIds, List.mem_eraseDups, List.mem_append]

/-- The passages of the merged ranking, in its order. -/
def mergedIds (lexical vector : SearchLeg σ) : List Uuid :=
  (mergeRankings lexical vector).map (·.passageId)

theorem mergedIds_eq : mergedIds lexical vector = (orderedIds lexical vector).insertionSort
    fun a b => mergeKey lexical vector a ≤ mergeKey lexical vector b := by
  rw [mergedIds, mergeRankings, List.map_map]
  exact List.map_id _

/-- The merged ranking has every ranked passage once, by best rank. -/
structure MergedByBestRank (lexical vector : SearchLeg σ) : Prop where
  nodup : (mergedIds lexical vector).Nodup
  mem_iff : ∀ passageId, passageId ∈ mergedIds lexical vector ↔
    passageId ∈ lexical.ids ∨ passageId ∈ vector.ids
  ordered : (mergedIds lexical vector).Pairwise fun earlier later =>
    ∀ rank rank', IsBestRank lexical vector earlier rank → IsBestRank lexical vector later rank' →
      rank ≤ rank'

/-- **The merged ranking is the union of the legs, by best rank.** -/
theorem mergeRankings_merged (lexical vector : SearchLeg σ) : MergedByBestRank lexical vector := by
  have hmem : ∀ passageId, passageId ∈ mergedIds lexical vector ↔
      passageId ∈ lexical.ids ∨ passageId ∈ vector.ids := by
    intro passageId
    rw [mergedIds_eq, List.mem_insertionSort, mem_orderedIds]
  refine ⟨?_, hmem, ?_⟩
  · rw [mergedIds_eq, (List.perm_insertionSort _ _).nodup_iff]
    exact nodup_eraseDups _ _ le_rfl
  · have hsort : (mergedIds lexical vector).Pairwise fun a b =>
        mergeKey lexical vector a ≤ mergeKey lexical vector b := by
      rw [mergedIds_eq]
      exact List.pairwise_insertionSort _ _
    refine List.Pairwise.imp_of_mem ?_ hsort
    intro a b ha hb hkey rank rank' hrank hrank'
    rw [hrank.unique (isBestRank_bestRank ((hmem a).1 ha)),
      hrank'.unique (isBestRank_bestRank ((hmem b).1 hb))]
    exact Prod.Lex.monotone_fst _ _ hkey

end CreditOps.Retrieval
