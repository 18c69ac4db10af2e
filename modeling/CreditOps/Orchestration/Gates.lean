import CreditOps.Orchestration.Readiness

/-!
# Human-gate derivation

`deriveEffectiveGates` is the view of the gates the engine acts on: the intake gate is derived from the
handoff, every other gate is its stored row or an open one. `deriveG3Status` is the derivation of the
risk-disposition gate from the latest human dispositions, `deriveG4Status` that of the
operations-authorization gate from the authorized actions.
-/

set_option autoImplicit false

namespace CreditOps.Orchestration

/-! ## Effective gates -/

/-- `INTAKE_DISPOSITION_REF` -/
def intakeDispositionRef : String := "intake-handoff"

/-- `ALL_GATES` -/
def allGates : List GateType :=
  [.g1IntakeComplete, .g2GapRequestApproval, .g3RiskDisposition, .g4OpsAuthorization,
    .hgFinancingNeedConfirmed, .hgUnderwritingAssessmentReviewed, .hgLegalAssessmentReviewed,
    .hgMakerSubmissionConfirmed, .hgCreditNotificationApproved, .hgSecurityPerfectionConfirmed,
    .hgDisbursementConditionsConfirmed, .hgContractPackageApproved, .hgSignatureAuthorityConfirmed,
    .hgContractsSigned, .hgDisbursementValidated, .hgDisbursementAuthorized,
    .hgSettlementConfirmed, .hgRecoveryStrategyApproved]

theorem mem_allGates (gateType : GateType) : gateType ∈ allGates := by
  cases gateType <;> decide

/-- The stored row of a gate at the snapshot's version; the last one stands. -/
def storedGate (snapshot : OrchestrationSnapshot) (gateType : GateType) : Option GateRecord :=
  (snapshot.gates.filter fun gate =>
    gate.caseVersion = snapshot.caseVersion ∧ gate.gateType = gateType).getLast?

/-- The effective row of one gate. -/
def effectiveGate (snapshot : OrchestrationSnapshot) (gateType : GateType) : GateRecord :=
  match gateType, storedGate snapshot gateType with
  | .g1IntakeComplete, existing =>
    match existing.filter (·.status = .satisfied) with
    | some record => record
    | none =>
      if snapshot.hasIntakeHandoff then
        { GateRecord.opened .g1IntakeComplete snapshot.caseVersion with
          status := .satisfied
          dispositionRef := some intakeDispositionRef }
      else GateRecord.opened .g1IntakeComplete snapshot.caseVersion
  | _, some existing => existing
  | other, none => GateRecord.opened other snapshot.caseVersion

/-- `derive_effective_gates`: one row a gate type, in `ALL_GATES` order. -/
def deriveEffectiveGates (snapshot : OrchestrationSnapshot) : List (GateType × GateRecord) :=
  allGates.map fun gateType => (gateType, effectiveGate snapshot gateType)

theorem gateStatus_eq_storedGate (snapshot : OrchestrationSnapshot) (gateType : GateType) :
    gateStatus snapshot gateType = (storedGate snapshot gateType).map (·.status) := rfl

/-- **The engine satisfies only the intake gate.** Any other gate is effectively satisfied exactly
when its stored row is. -/
theorem effectiveGate_satisfied_iff {snapshot : OrchestrationSnapshot} {gateType : GateType}
    (hg1 : gateType ≠ .g1IntakeComplete) :
    (effectiveGate snapshot gateType).status = .satisfied ↔
      gateStatus snapshot gateType = some .satisfied := by
  rw [gateStatus_eq_storedGate]
  unfold effectiveGate
  cases storedGate snapshot gateType with
  | none => cases gateType <;> first | exact absurd rfl hg1 | simp [GateRecord.opened]
  | some => cases gateType <;> first | exact absurd rfl hg1 | simp

/-! ## The risk-disposition gate -/

/-- How severe the checker holds a challenge to be. -/
inductive ChallengeSeverity where
  | low
  | medium
  | high
  | critical
deriving DecidableEq

/-- `_SEVERITY_ORDER` -/
def severityOrder : ChallengeSeverity → Nat
  | .low => 0
  | .medium => 1
  | .high => 2
  | .critical => 3

/-- `G3_SEVERITY_THRESHOLD` -/
def g3SeverityThreshold : ChallengeSeverity := .high

/-- The human dispositions of a challenge. -/
inductive DispositionType where
  | noted
  | acceptedRisk
  | makerMustRevise
  | escalated
deriving DecidableEq

/-- The stored text of a disposition type. -/
def DispositionType.value : DispositionType → String
  | .noted => "NOTED"
  | .acceptedRisk => "ACCEPTED_RISK"
  | .makerMustRevise => "MAKER_MUST_REVISE"
  | .escalated => "ESCALATED"

/-- `G3_CONTINUE_DISPOSITION_TYPES` -/
def g3ContinueDispositionTypes : List DispositionType :=
  [.noted, .acceptedRisk]

/-- The latest disposition authorises continuation. -/
def continues (latest : Option DispositionType) : Bool :=
  latest.any (· ∈ g3ContinueDispositionTypes)

/-- The challenges at or above the threshold. -/
def severeIds (challengeSeverities : List (Uuid × ChallengeSeverity))
    (threshold : ChallengeSeverity) : List Uuid :=
  (challengeSeverities.filter fun c => severityOrder threshold ≤ severityOrder c.2).map (·.1)

/-- `derive_g3_status` -/
def deriveG3Status (assessmentExists : Bool)
    (challengeSeverities : List (Uuid × ChallengeSeverity))
    (latestChallengeDispositions : Uuid → Option DispositionType)
    (latestAssessmentLevelDisposition : Option DispositionType)
    (threshold : ChallengeSeverity) : GateStatus :=
  if assessmentExists then
    match severeIds challengeSeverities threshold with
    | [] => if continues latestAssessmentLevelDisposition then .satisfied else .opened
    | severe =>
      if severe.all fun id => continues (latestChallengeDispositions id) then .satisfied
      else .opened
  else .opened

section G3

variable {challengeSeverities : List (Uuid × ChallengeSeverity)}
  {latest : Uuid → Option DispositionType} {assessmentLevel : Option DispositionType}
  {threshold : ChallengeSeverity}

/-- **When the risk gate derives as satisfied.** -/
theorem deriveG3Status_satisfied_iff :
    deriveG3Status true challengeSeverities latest assessmentLevel threshold = .satisfied ↔
      (∀ id ∈ severeIds challengeSeverities threshold, continues (latest id) = true) ∧
        (severeIds challengeSeverities threshold = [] → continues assessmentLevel = true) := by
  unfold deriveG3Status
  cases hsevere : severeIds challengeSeverities threshold with
  | nil =>
    simp only [↓reduceIte, List.not_mem_nil, false_implies, implies_true, true_and]
    cases continues assessmentLevel <;> simp
  | cons =>
    simp only [↓reduceIte, List.all_cons, Bool.and_eq_true, List.all_eq_true, List.mem_cons,
      forall_eq_or_imp, reduceCtorEq, false_implies, and_true, ite_eq_left_iff, imp_false, not_not]

end G3

/-! ## The operations-authorization gate -/

/-- `derive_g4_status`; with no action to authorize it holds vacuously. -/
def deriveG4Status (packageExists : Bool) (actionIds authorizedActionIds : List Uuid) : GateStatus :=
  if packageExists then
    if actionIds.all (· ∈ authorizedActionIds) then .satisfied else .opened
  else .opened

/-- **When the operations gate derives as satisfied.** -/
theorem deriveG4Status_satisfied_iff {packageExists : Bool} {actionIds authorizedActionIds : List Uuid} :
    deriveG4Status packageExists actionIds authorizedActionIds = .satisfied ↔
      packageExists = true ∧ ∀ id ∈ actionIds, id ∈ authorizedActionIds := by
  cases packageExists with
  | false =>
    simp only [deriveG4Status, Bool.false_eq_true, if_false, reduceCtorEq, false_and]
  | true =>
    simp only [deriveG4Status, if_true, true_and]
    split_ifs with hall
    · simpa only [true_iff, List.all_eq_true, decide_eq_true_eq] using hall
    · simpa only [reduceCtorEq, false_iff, List.all_eq_true, decide_eq_true_eq] using hall

end CreditOps.Orchestration
