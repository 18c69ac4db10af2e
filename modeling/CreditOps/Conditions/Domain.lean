import CreditOps.Domain.Calendar
import CreditOps.Domain.Database

/-!
# Disbursement conditions

The closed set of condition statuses, the table of allowed transitions, the authority and the rationale a
target demands, and the predicate a ledger of conditions is confirmed on. The database trigger holds the
same table a second time (`triggerTransitions_eq`).
-/

set_option autoImplicit false

namespace CreditOps.Conditions

/-! ## Statuses -/

/-- The statuses of a disbursement condition. -/
inductive ConditionStatus where
  | pending
  | evidenceSubmitted
  | verified
  | failed
  | waiverRequested
  | waivedByHuman
  | superseded
  | notApplicableByHuman
deriving DecidableEq

namespace ConditionStatus

/-- The stored text of a status. -/
def value : ConditionStatus → String
  | pending => "PENDING"
  | evidenceSubmitted => "EVIDENCE_SUBMITTED"
  | verified => "VERIFIED"
  | failed => "FAILED"
  | waiverRequested => "WAIVER_REQUESTED"
  | waivedByHuman => "WAIVED_BY_HUMAN"
  | superseded => "SUPERSEDED"
  | notApplicableByHuman => "NOT_APPLICABLE_BY_HUMAN"

/-- Every status. -/
def all : List ConditionStatus :=
  [pending, evidenceSubmitted, verified, failed, waiverRequested, waivedByHuman, superseded,
    notApplicableByHuman]

/-- `ConditionStatus(text)`; none where it raises `ValueError`. -/
def ofValue (text : String) : Option ConditionStatus :=
  all.find? (·.value = text)

end ConditionStatus

open ConditionStatus

/-- `ALLOWED_TRANSITIONS` -/
def allowedTransitions : ConditionStatus → List ConditionStatus
  | pending => [evidenceSubmitted, waiverRequested, notApplicableByHuman, superseded]
  | evidenceSubmitted => [verified, failed, superseded]
  | failed => [evidenceSubmitted, waiverRequested, superseded]
  | waiverRequested => [waivedByHuman, failed, superseded]
  | verified => [superseded]
  | waivedByHuman => [superseded]
  | notApplicableByHuman => [superseded]
  | superseded => []

/-- `CONFIRMABLE_STATUSES` -/
def confirmableStatuses : List ConditionStatus :=
  [verified, waivedByHuman, notApplicableByHuman]

/-- `RATIONALE_REQUIRED_TARGETS` -/
def rationaleRequiredTargets : List ConditionStatus :=
  [waivedByHuman, notApplicableByHuman]

/-- `CHECKER_AUTHORITY_TARGETS` -/
def checkerAuthorityTargets : List ConditionStatus :=
  [verified, waivedByHuman, notApplicableByHuman]

/-- `is_transition_allowed` -/
def isTransitionAllowed (fromStatus toStatus : ConditionStatus) : Bool :=
  toStatus ∈ allowedTransitions fromStatus

/-- `derive_conditions_confirmable` -/
def deriveConditionsConfirmable (statuses : List ConditionStatus) : Bool :=
  if statuses = [] then false else statuses.all (· ∈ confirmableStatuses)

theorem toStatus_of_confirmable {fromStatus toStatus : ConditionStatus}
    (h : fromStatus ∈ confirmableStatuses) (hallow : isTransitionAllowed fromStatus toStatus = true) :
    toStatus = superseded := by
  cases fromStatus <;> cases toStatus <;> first | rfl | exact absurd h (by decide) | cases hallow

theorem not_allowed_of_superseded {toStatus : ConditionStatus} :
    isTransitionAllowed superseded toStatus = false := by
  cases toStatus <;> rfl

/-- **When a ledger is confirmable.** -/
theorem confirmable_iff {statuses : List ConditionStatus} :
    deriveConditionsConfirmable statuses = true ↔
      statuses ≠ [] ∧ ∀ status ∈ statuses, status ∈ confirmableStatuses := by
  unfold deriveConditionsConfirmable
  by_cases hempty : statuses = []
  · rw [if_pos hempty]
    exact iff_of_false Bool.false_ne_true fun h => h.1 hempty
  · rw [if_neg hempty, List.all_eq_true]
    simp only [decide_eq_true_eq]
    exact (and_iff_right hempty).symm

/-! ## Rows -/

/-- One row of `disbursement_conditions`. -/
structure DisbursementCondition where
  id : Uuid
  caseId : Uuid
  caseVersion : CaseVersion
  decisionId : Uuid
  conditionTextVi : String
  ownerVi : Option String
  dueDate : Option Date
  status : ConditionStatus
  evidenceRefs : List String
  createdAt : Timestamp
deriving DecidableEq

/-- The table of transitions in the trigger. -/
def triggerTransitions : ConditionStatus → List ConditionStatus
  | pending => [evidenceSubmitted, waiverRequested, notApplicableByHuman, superseded]
  | evidenceSubmitted => [verified, failed, superseded]
  | failed => [evidenceSubmitted, waiverRequested, superseded]
  | waiverRequested => [waivedByHuman, failed, superseded]
  | verified => [superseded]
  | waivedByHuman => [superseded]
  | notApplicableByHuman => [superseded]
  | superseded => []

/-- `enforce_disbursement_condition_transition`: only the status and the evidence may change, and the
status only along the table. -/
def enforceDisbursementConditionTransition (old new : DisbursementCondition) :
    Except SqlError DisbursementCondition :=
  if { new with status := old.status, evidenceRefs := old.evidenceRefs } ≠ old then
    .error (.insufficientPrivilege
      "only status and evidence_refs of a disbursement condition may change")
  else if new.status ∉ triggerTransitions old.status then
    .error (.checkViolation ("forbidden disbursement condition transition " ++ old.status.value ++
      " -> " ++ new.status.value))
  else .ok new

/-- **The trigger and the domain hold the same table.** -/
theorem triggerTransitions_eq (status : ConditionStatus) :
    triggerTransitions status = allowedTransitions status := by
  cases status <;> rfl

/-- The trigger lets a change of status and evidence pass exactly when the domain allows it. -/
theorem enforce_eq_ok_iff {old new : DisbursementCondition} {toStatus : ConditionStatus}
    {evidenceRefs : List String} :
    enforceDisbursementConditionTransition old
        { old with status := toStatus, evidenceRefs := evidenceRefs } = .ok new ↔
      isTransitionAllowed old.status toStatus = true ∧
        new = { old with status := toStatus, evidenceRefs := evidenceRefs } := by
  unfold enforceDisbursementConditionTransition isTransitionAllowed
  rw [if_neg (not_not.2 rfl), triggerTransitions_eq, decide_eq_true_eq]
  by_cases hallow : toStatus ∈ allowedTransitions old.status
  · rw [if_neg (not_not.2 hallow), Except.ok.injEq, eq_comm]
    exact (and_iff_right hallow).symm
  · rw [if_pos hallow]
    exact iff_of_false nofun fun h => hallow h.1

end CreditOps.Conditions
