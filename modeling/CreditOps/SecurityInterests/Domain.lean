import CreditOps.Domain.Calendar
import CreditOps.Domain.Text

/-!
# Security interests and their perfection items

A case takes one security interest per asset, and each interest carries perfection items that are dealt
with one by one. An item moves along a small graph: `PENDING` to `EVIDENCE_ATTACHED` to `COMPLETED` to
`EXPIRED`, or from `PENDING` to `NOT_REQUIRED_BY_HUMAN`. The trigger on the table holds the same graph but
lets an update pass that keeps the status (`triggerPasses_iff`).
-/

set_option autoImplicit false

namespace CreditOps.SecurityInterests

/-! ## Statuses -/

/-- The closed set of asset kinds. -/
inductive SecurityAssetKind where
  | realEstate
  | vehicle
  | deposit
  | receivable
  | other
deriving DecidableEq

/-- The stored text of an asset kind. -/
def SecurityAssetKind.value : SecurityAssetKind → String
  | .realEstate => "REAL_ESTATE"
  | .vehicle => "VEHICLE"
  | .deposit => "DEPOSIT"
  | .receivable => "RECEIVABLE"
  | .other => "OTHER"

/-- `SecurityAssetKind(text)`; none where it raises `ValueError`. -/
def SecurityAssetKind.ofValue (text : String) : Option SecurityAssetKind :=
  [SecurityAssetKind.realEstate, .vehicle, .deposit, .receivable, .other].find? (·.value = text)

/-- The statuses of a perfection item. -/
inductive PerfectionStatus where
  | pending
  | evidenceAttached
  | completed
  | notRequiredByHuman
  | expired
deriving DecidableEq

namespace PerfectionStatus

/-- The stored text of a status. -/
def value : PerfectionStatus → String
  | pending => "PENDING"
  | evidenceAttached => "EVIDENCE_ATTACHED"
  | completed => "COMPLETED"
  | notRequiredByHuman => "NOT_REQUIRED_BY_HUMAN"
  | expired => "EXPIRED"

/-- `PerfectionStatus(text)`; none where it raises `ValueError`. -/
def ofValue (text : String) : Option PerfectionStatus :=
  [pending, evidenceAttached, completed, notRequiredByHuman, expired].find? (·.value = text)

/-- How far a status is along the graph. -/
def rank : PerfectionStatus → Nat
  | pending => 0
  | evidenceAttached => 1
  | notRequiredByHuman => 1
  | completed => 2
  | expired => 3

end PerfectionStatus

open PerfectionStatus

/-- `ALLOWED_ITEM_TRANSITIONS` -/
def allowedItemTransitions : PerfectionStatus → List PerfectionStatus
  | pending => [evidenceAttached, notRequiredByHuman]
  | evidenceAttached => [completed]
  | completed => [expired]
  | notRequiredByHuman => []
  | expired => []

/-- `TERMINAL_SATISFIED_STATUSES` -/
def terminalSatisfiedStatuses : List PerfectionStatus :=
  [completed, notRequiredByHuman]

/-- `is_allowed_item_transition` -/
def isAllowedItemTransition (current target : PerfectionStatus) : Bool :=
  target ∈ allowedItemTransitions current

/-- `enforce_security_perfection_item_transition` lets the update pass. -/
def triggerPasses (old new : PerfectionStatus) : Bool :=
  new = old ∨
    (old = pending ∧ new = evidenceAttached) ∨ (old = evidenceAttached ∧ new = completed) ∨
      (old = pending ∧ new = notRequiredByHuman) ∨ (old = completed ∧ new = expired)

/-- **The trigger lets same-status updates pass**, and otherwise what the domain allows. -/
theorem triggerPasses_iff {old new : PerfectionStatus} :
    triggerPasses old new = true ↔ new = old ∨ isAllowedItemTransition old new = true := by
  cases old <;> cases new <;> decide

variable {target current : PerfectionStatus}

theorem rank_lt (h : isAllowedItemTransition current target = true) : current.rank < target.rank := by
  cases current <;> cases target <;> first | decide | exact absurd h (by decide)

theorem source_unique {source other : PerfectionStatus}
    (h : isAllowedItemTransition source target = true)
    (hother : isAllowedItemTransition other target = true) : source = other := by
  cases source <;> cases target <;> first
    | exact absurd h (by decide)
    | cases other <;> first | rfl | exact absurd hother (by decide)

theorem isAllowedItemTransition_irrefl (status : PerfectionStatus) :
    isAllowedItemTransition status status = false := by
  cases status <;> rfl

theorem pending_not_satisfied : pending ∉ terminalSatisfiedStatuses := by
  decide

theorem target_of_terminal (h : current ∈ terminalSatisfiedStatuses)
    (hallow : isAllowedItemTransition current target = true) : target = expired := by
  cases current <;> cases target <;>
    first | rfl | exact absurd h (by decide) | exact absurd hallow (by decide)

theorem not_allowed_of_expired :
    isAllowedItemTransition expired target = false := by
  cases target <;> rfl

/-! ## Rows -/

/-- One row of `security_interests`. -/
structure SecurityInterest where
  id : Uuid
  caseId : Uuid
  caseVersion : CaseVersion
  assetDescriptionVi : String
  assetKind : SecurityAssetKind
  ownerNameVi : Option String
  valuationReference : Option String
  notesVi : Option String
  createdBy : Uuid
deriving DecidableEq

/-- One row of `security_perfection_items`, with its check constraint. -/
@[ext] structure PerfectionItem where
  id : Uuid
  interestId : Uuid
  requirementVi : String
  status : PerfectionStatus
  evidenceRefs : List String
  filingReference : Option String
  effectiveDate : Option Date
  expiryDate : Option Date
  completedBy : Option Uuid
  completedAt : Option Timestamp
  completedHasEvidence : status = completed →
    evidenceRefs ≠ [] ∧ completedBy.isSome = true ∧ completedAt.isSome = true

/-- Items are compared by their columns. -/
instance : DecidableEq PerfectionItem := fun _ _ => decidable_of_iff _ PerfectionItem.ext_iff.symm

/-- An interest with its items. -/
structure SecurityInterestWithItems where
  interest : SecurityInterest
  items : List PerfectionItem

/-- The validator of `SecurityPerfectionItem` accepts a stored row: beyond the check constraint, the
evidence of a completed item is not blank. -/
def PerfectionItem.valid (item : PerfectionItem) : Bool :=
  item.status = completed → item.evidenceRefs.all (fun ref => !isBlank ref) = true

/-! ## The derivation -/

/-- `PerfectionBlockers` -/
structure PerfectionBlockers where
  hasInterests : Bool
  interestsWithoutItems : List Uuid
  blockingItemIds : List Uuid
deriving DecidableEq

/-- `PerfectionBlockers.confirmable` -/
def PerfectionBlockers.confirmable (blockers : PerfectionBlockers) : Bool :=
  blockers.hasInterests ∧ blockers.interestsWithoutItems = [] ∧ blockers.blockingItemIds = []

/-- `derive_perfection_blockers` -/
def derivePerfectionBlockers (interestsWithItems : List SecurityInterestWithItems) :
    PerfectionBlockers where
  hasInterests := !interestsWithItems.isEmpty
  interestsWithoutItems :=
    (interestsWithItems.filter (·.items.isEmpty)).map (·.interest.id)
  blockingItemIds :=
    interestsWithItems.flatMap fun entry =>
      (entry.items.filter (·.status ∉ terminalSatisfiedStatuses)).map (·.id)

/-- `derive_perfection_confirmable` -/
def derivePerfectionConfirmable (interestsWithItems : List SecurityInterestWithItems) : Bool :=
  (derivePerfectionBlockers interestsWithItems).confirmable

/-- **When perfection is confirmable.** -/
theorem confirmable_iff {entries : List SecurityInterestWithItems} :
    derivePerfectionConfirmable entries = true ↔
      entries ≠ [] ∧ ∀ entry ∈ entries, entry.items ≠ [] ∧
        ∀ item ∈ entry.items, item.status ∈ terminalSatisfiedStatuses := by
  simp only [derivePerfectionConfirmable, PerfectionBlockers.confirmable, derivePerfectionBlockers,
    decide_eq_true_eq, Bool.not_eq_true', List.isEmpty_eq_false_iff, List.map_eq_nil_iff,
    List.filter_eq_nil_iff, List.flatMap_eq_nil_iff, List.isEmpty_iff, not_not]
  constructor
  · rintro ⟨hne, hitems, hstat⟩
    exact ⟨hne, fun entry hentry => ⟨hitems entry hentry, hstat entry hentry⟩⟩
  · rintro ⟨hne, hall⟩
    exact ⟨hne, fun entry hentry => (hall entry hentry).1, fun entry hentry => (hall entry hentry).2⟩

end CreditOps.SecurityInterests
