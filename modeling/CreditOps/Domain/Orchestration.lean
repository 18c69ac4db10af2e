import CreditOps.Domain.Database

/-!
# The orchestration vocabulary

The finite sets the deterministic task-graph engine reasons over, with their stored texts, and the
read models it is handed: a snapshot of the tasks, gates and open gaps of one case. Readiness is
derived from these and never stored.
-/

set_option autoImplicit false

namespace CreditOps

/-! ## Tasks -/

/-- The durable task types the engine may schedule. -/
inductive TaskType where
  | documentIngestion
  | orchestratorPlan
  | creditUnderwriting
  | legalComplianceCollateral
  | independentRiskReview
  | creditOperations
deriving DecidableEq

/-- The stored text of a task type. -/
def TaskType.value : TaskType → String
  | .documentIngestion => "DOCUMENT_INGESTION"
  | .orchestratorPlan => "ORCHESTRATOR_PLAN"
  | .creditUnderwriting => "CREDIT_UNDERWRITING"
  | .legalComplianceCollateral => "LEGAL_COMPLIANCE_COLLATERAL"
  | .independentRiskReview => "INDEPENDENT_RISK_REVIEW"
  | .creditOperations => "CREDIT_OPERATIONS"

/-- The stored lifecycle of a processing task. -/
inductive TaskStatus where
  | pending
  | running
  | retryWait
  | succeeded
  | failedManualReview
  | superseded
deriving DecidableEq

/-- Derived per-node state in the task graph; never persisted. -/
inductive TaskReadiness where
  | blocked
  | ready
  | inProgress
  | complete
  | superseded
  | failed
deriving DecidableEq

/-- The text of a readiness in messages and audit events. -/
def TaskReadiness.value : TaskReadiness → String
  | .blocked => "BLOCKED"
  | .ready => "READY"
  | .inProgress => "IN_PROGRESS"
  | .complete => "COMPLETE"
  | .superseded => "SUPERSEDED"
  | .failed => "FAILED"

/-! ## Human gates -/

/-- The human approval points. -/
inductive GateType where
  | g1IntakeComplete
  | g2GapRequestApproval
  | g3RiskDisposition
  | g4OpsAuthorization
  | hgFinancingNeedConfirmed
  | hgUnderwritingAssessmentReviewed
  | hgLegalAssessmentReviewed
  | hgMakerSubmissionConfirmed
  | hgCreditNotificationApproved
  | hgSecurityPerfectionConfirmed
  | hgDisbursementConditionsConfirmed
  | hgContractPackageApproved
  | hgSignatureAuthorityConfirmed
  | hgContractsSigned
  | hgDisbursementValidated
  | hgDisbursementAuthorized
  | hgSettlementConfirmed
  | hgRecoveryStrategyApproved
deriving DecidableEq

/-- The stored text of a gate type. -/
def GateType.value : GateType → String
  | .g1IntakeComplete => "G1_INTAKE_COMPLETE"
  | .g2GapRequestApproval => "G2_GAP_REQUEST_APPROVAL"
  | .g3RiskDisposition => "G3_RISK_DISPOSITION"
  | .g4OpsAuthorization => "G4_OPS_AUTHORIZATION"
  | .hgFinancingNeedConfirmed => "HG_FINANCING_NEED_CONFIRMED"
  | .hgUnderwritingAssessmentReviewed => "HG_UNDERWRITING_ASSESSMENT_REVIEWED"
  | .hgLegalAssessmentReviewed => "HG_LEGAL_ASSESSMENT_REVIEWED"
  | .hgMakerSubmissionConfirmed => "HG_MAKER_SUBMISSION_CONFIRMED"
  | .hgCreditNotificationApproved => "HG_CREDIT_NOTIFICATION_APPROVED"
  | .hgSecurityPerfectionConfirmed => "HG_SECURITY_PERFECTION_CONFIRMED"
  | .hgDisbursementConditionsConfirmed => "HG_DISBURSEMENT_CONDITIONS_CONFIRMED"
  | .hgContractPackageApproved => "HG_CONTRACT_PACKAGE_APPROVED"
  | .hgSignatureAuthorityConfirmed => "HG_SIGNATURE_AUTHORITY_CONFIRMED"
  | .hgContractsSigned => "HG_CONTRACTS_SIGNED"
  | .hgDisbursementValidated => "HG_DISBURSEMENT_VALIDATED"
  | .hgDisbursementAuthorized => "HG_DISBURSEMENT_AUTHORIZED"
  | .hgSettlementConfirmed => "HG_SETTLEMENT_CONFIRMED"
  | .hgRecoveryStrategyApproved => "HG_RECOVERY_STRATEGY_APPROVED"

/-- The stored state of a gate; a satisfied gate is immutable. -/
inductive GateStatus where
  | opened
  | satisfied
deriving DecidableEq

/-- One row of `human_gates`. -/
structure GateRecord where
  gateType : GateType
  caseVersion : CaseVersion
  status : GateStatus
  satisfiedByActorId : Option Uuid
  dispositionRef : Option String
  satisfiedAt : Option Timestamp
deriving DecidableEq

/-- The row of a gate nobody has satisfied. -/
def GateRecord.opened (gateType : GateType) (caseVersion : CaseVersion) : GateRecord where
  gateType
  caseVersion
  status := .opened
  satisfiedByActorId := none
  dispositionRef := none
  satisfiedAt := none

/-! ## Evidence gaps -/

/-- How strongly a gap holds back the work it is attached to. -/
inductive GapBlockingLevel where
  | blocking
  | conditional
  | clarification
deriving DecidableEq

/-- The stored text of a blocking level. -/
def GapBlockingLevel.value : GapBlockingLevel → String
  | .blocking => "BLOCKING"
  | .conditional => "CONDITIONAL"
  | .clarification => "CLARIFICATION"

/-- The stored status of a gap. -/
inductive GapStatus where
  | provisional
  | formal
  | resolved
  | stale
deriving DecidableEq

/-- The stored text of a gap status. -/
def GapStatus.value : GapStatus → String
  | .provisional => "PROVISIONAL"
  | .formal => "FORMAL"
  | .resolved => "RESOLVED"
  | .stale => "STALE"

/-- The statuses the readers count as open. -/
def GapStatus.isOpen : GapStatus → Bool
  | .provisional | .formal => true
  | .resolved | .stale => false

/-! ## The snapshot -/

/-- One agent task as the engine sees it. -/
structure OrchestrationTaskRow where
  taskId : Uuid
  taskType : TaskType
  caseVersion : CaseVersion
  status : TaskStatus
deriving DecidableEq

/-- An unresolved gap with the task it is attached to. -/
structure BlockingGap where
  gapId : Uuid
  affectedTaskId : Uuid
  blockingLevel : GapBlockingLevel
deriving DecidableEq

/-- What `load_snapshot` returns. -/
structure OrchestrationSnapshot where
  caseId : Uuid
  caseVersion : CaseVersion
  hasIntakeHandoff : Bool
  tasks : List OrchestrationTaskRow
  gates : List GateRecord
  blockingGaps : List BlockingGap
deriving DecidableEq

end CreditOps
