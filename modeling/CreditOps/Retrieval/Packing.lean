import CreditOps.Library.PrefixBudget
import CreditOps.Domain.Text

/-!
# Packing retrieved passages

The pipeline delivers the ranked hits in order while their estimated tokens stay within the budget. The
first hit that would overflow and every one after it is recorded as out of budget. The loop serves the
longest prefix within the budget (`packContext_eq`), so it loses no hit, packs as much as fits, and with a
larger budget packs at least as much (`packContext_longest`).
-/

set_option autoImplicit false

namespace CreditOps.Retrieval

variable {σ : Type}

/-! ## Hits -/

/-- `ExclusionReason` -/
inductive ExclusionReason where
  | stale
  | outOfBudget
  | unauthorizedScope
deriving DecidableEq

/-- A hydrated passage with its merge scores. The bounds are the ones its fields are declared with. -/
structure RetrievalHit (σ : Type) where
  passageId : Uuid
  passageText : String
  documentVersionId : Uuid
  pageNumber : Option Int
  pageRegionId : Option Uuid
  passageHash : String
  rank : Nat
  lexicalScore : Option σ
  vectorScore : Option σ
  text_ne : 1 ≤ passageText.length
  page_pos : ∀ page ∈ pageNumber, 1 ≤ page
  hash_hex : isSha256Hex passageHash = true
  rank_pos : 1 ≤ rank

/-- A passage that was reached and is not delivered. -/
structure ExcludedPassage where
  passageId : Uuid
  reason : ExclusionReason
deriving DecidableEq

/-- `PackedContext` -/
structure PackedContext (σ : Type) where
  included : List (RetrievalHit σ)
  excluded : List ExcludedPassage
  packedContextVi : String
  tokenEstimate : Nat

/-! ## The loop -/

/-- `CHARS_PER_TOKEN` -/
def charsPerToken : Nat := 4

/-- `estimate_tokens` -/
def estimateTokens (text : String) : Nat :=
  if text.length = 0 then 0 else (text.length + charsPerToken - 1) / charsPerToken

/-- What a hit costs. -/
def hitCost (hit : RetrievalHit σ) : Nat :=
  estimateTokens hit.passageText

/-- The record of a hit that does not fit. -/
def outOfBudget (hit : RetrievalHit σ) : ExcludedPassage :=
  ⟨hit.passageId, .outOfBudget⟩

/-- The variables of the loop of `pack_context`. -/
structure PackState (σ : Type) where
  included : List (RetrievalHit σ)
  excluded : List ExcludedPassage
  total : Nat
  overflowed : Bool

/-- The body of the loop. -/
def packStep (budgetTokens : Nat) (state : PackState σ) (hit : RetrievalHit σ) : PackState σ :=
  let cost := estimateTokens hit.passageText
  if state.overflowed = true ∨ budgetTokens < state.total + cost then
    { state with overflowed := true, excluded := state.excluded ++ [outOfBudget hit] }
  else
    { state with total := state.total + cost, included := state.included ++ [hit] }

/-- `_PACK_DELIMITER` -/
def packDelimiter : String := "\n\n"

/-- `pack_context` -/
def packContext (hits : List (RetrievalHit σ)) (budgetTokens : Nat) : PackedContext σ :=
  let state := hits.foldl (packStep budgetTokens) ⟨[], [], 0, false⟩
  { included := state.included
    excluded := state.excluded
    packedContextVi := packDelimiter.intercalate (state.included.map (·.passageText))
    tokenEstimate := state.total }

/-! ## What the loop does -/

variable {budgetTokens : Nat}

/-- After an overflow every hit is recorded. -/
theorem foldl_packStep_overflowed (hits : List (RetrievalHit σ)) {state : PackState σ}
    (h : state.overflowed = true) :
    hits.foldl (packStep budgetTokens) state =
      { state with excluded := state.excluded ++ hits.map outOfBudget } := by
  induction hits generalizing state with
  | nil =>
    rw [List.map_nil, List.append_nil]
    rfl
  | cons hit _ ih =>
    have hstep : packStep budgetTokens state hit =
        { state with overflowed := true, excluded := state.excluded ++ [outOfBudget hit] } :=
      if_pos (.inl h)
    rw [List.foldl_cons, hstep, ih rfl, List.map_cons]
    simp only [List.append_assoc, List.singleton_append, ← h]

/-- **The loop serves the longest prefix within the budget.** -/
theorem foldl_packStep (hits : List (RetrievalHit σ)) (state : PackState σ) (h : state.overflowed = false) :
    ∃ rest,
    let served := PrefixBudget.within hitCost budgetTokens state.total hits
    let left := hits.foldl (packStep budgetTokens) state
    hits = served ++ rest ∧ left.included = state.included ++ served ∧
      left.excluded = state.excluded ++ rest.map outOfBudget ∧
      left.total = state.total + PrefixBudget.total hitCost served := by
  induction hits generalizing state with
  | nil => exact ⟨[], rfl, (List.append_nil _).symm, (List.append_nil _).symm, rfl⟩
  | cons hit hits ih =>
    by_cases hfits : state.total + hitCost hit ≤ budgetTokens
    · have hstep : packStep budgetTokens state hit =
          { state with total := state.total + hitCost hit, included := state.included ++ [hit] } := by
        refine if_neg ?_
        rw [h, not_or]
        exact ⟨Bool.false_ne_true, Nat.not_lt.2 hfits⟩
      rw [List.foldl_cons, hstep, PrefixBudget.within_cons_of_le hfits]
      obtain ⟨rest, hsplit, hincluded, hexcluded, htotal⟩ := ih
        { state with total := state.total + hitCost hit, included := state.included ++ [hit] } h
      refine ⟨rest, ?_, ?_, hexcluded, ?_⟩
      · rw [List.cons_append, ← hsplit]
      · rw [hincluded, List.append_assoc, List.singleton_append]
      · rw [htotal, PrefixBudget.total_cons, Nat.add_assoc]
    · have hover := Nat.lt_of_not_le hfits
      have hstep : packStep budgetTokens state hit =
          { state with overflowed := true, excluded := state.excluded ++ [outOfBudget hit] } :=
        if_pos (.inr hover)
      rw [List.foldl_cons, hstep, PrefixBudget.within_cons_of_lt hover, foldl_packStep_overflowed hits rfl]
      refine ⟨hit :: hits, rfl, (List.append_nil _).symm, ?_, rfl⟩
      rw [List.map_cons, List.append_assoc, List.singleton_append]

/-- **`pack_context` delivers the longest prefix within the budget**, and records the rest. -/
theorem packContext_eq (hits : List (RetrievalHit σ)) (budgetTokens : Nat) : ∃ rest,
    (packContext hits budgetTokens).included = PrefixBudget.within hitCost budgetTokens 0 hits ∧
      hits = (packContext hits budgetTokens).included ++ rest ∧
      (packContext hits budgetTokens).excluded = rest.map outOfBudget ∧
      (packContext hits budgetTokens).tokenEstimate =
        PrefixBudget.total hitCost (packContext hits budgetTokens).included := by
  obtain ⟨rest, hsplit, hincluded, hexcluded, htotal⟩ :=
    @foldl_packStep _ budgetTokens hits ⟨[], [], 0, false⟩ rfl
  have hserved : (packContext hits budgetTokens).included =
      PrefixBudget.within hitCost budgetTokens 0 hits := hincluded.trans (List.nil_append _)
  refine ⟨rest, hserved, ?_, hexcluded.trans (List.nil_append _), ?_⟩
  · rw [hserved]
    exact hsplit
  · rw [hserved]
    exact htotal.trans (Nat.zero_add _)

/-- **Packing.** The hits are the delivered ones followed by those recorded as out of budget. What is
delivered is within the budget, no longer prefix is, and a larger budget delivers at least as much. -/
theorem packContext_longest (hits : List (RetrievalHit σ)) (budgetTokens : Nat) :
    (∃ rest, hits = (packContext hits budgetTokens).included ++ rest ∧
      (packContext hits budgetTokens).excluded = rest.map outOfBudget) ∧
    (∀ front, front <+: hits → (front.map hitCost).sum ≤ budgetTokens →
      front <+: (packContext hits budgetTokens).included) ∧
    (packContext hits budgetTokens).tokenEstimate =
      ((packContext hits budgetTokens).included.map hitCost).sum ∧
    (packContext hits budgetTokens).tokenEstimate ≤ budgetTokens ∧
    ∀ larger, budgetTokens ≤ larger →
      (packContext hits budgetTokens).included <+: (packContext hits larger).included := by
  obtain ⟨rest, hserved, hsplit, hexcluded, htotal⟩ := packContext_eq hits budgetTokens
  refine ⟨⟨rest, hsplit, hexcluded⟩, ?_, htotal, ?_, ?_⟩
  · intro front hfront hcost
    rw [hserved]
    apply PrefixBudget.prefix_within_of_sum_le hfront
    rwa [Nat.zero_add]
  · rw [htotal, hserved]
    have hcovered : 0 + PrefixBudget.total hitCost (PrefixBudget.within hitCost budgetTokens 0 hits) ≤
        budgetTokens := PrefixBudget.sum_within_le (Nat.zero_le _)
    rwa [Nat.zero_add] at hcovered
  · intro larger hlarger
    obtain ⟨-, hserved', -⟩ := packContext_eq hits larger
    rw [hserved, hserved']
    exact PrefixBudget.within_prefix_within (Nat.zero_le _) hlarger

end CreditOps.Retrieval
