import CreditOps.Library.AppendLog
import CreditOps.Orchestration.HumanGates
import CreditOps.SettlementRecovery.Domain

/-!
# The settlement and recovery endpoints

The four writes of stage fourteen at one case version, each cut at its transactions. A check and the
opening of a recovery case are one transaction each. A confirmation reads the latest check, writes the
receipts, satisfies `HG_SETTLEMENT_CONFIRMED` and audits it. An approval reads the case, approves it,
satisfies `HG_RECOVERY_STRATEGY_APPROVED` and audits that. A request that crashes takes no further step.
-/

set_option autoImplicit false

namespace CreditOps.SettlementRecovery

open Orchestration

/-! ## Tables -/

/-- The audit events of the stage. An approval is audited twice under one event type: with the update of
the case (`strategyApproved`), and after the gate (`strategyApprovalAudited`). -/
inductive SettlementAudit where
  | checkRecorded (checkId actorId : Uuid) (zeroBalanceConfirmed : Bool) (openExceptionCount : Nat)
  | receiptsRecorded (checkId actorId : Uuid) (kinds : List SettlementReceiptKind)
  | settlementConfirmed (checkId actorId : Uuid) (kinds : List SettlementReceiptKind)
  | recoveryCaseOpened (recoveryId escalatedBy : Uuid) (optionCount evidenceRefCount : Nat)
  | strategyApproved (recoveryId approvedBy escalatedBy : Uuid)
  | strategyApprovalAudited (recoveryId actorId : Uuid)
deriving DecidableEq

namespace SettlementAudit

/-- The stored event type. -/
def eventType : SettlementAudit → String
  | checkRecorded _ _ _ _ => "SETTLEMENT_CHECK_RECORDED"
  | receiptsRecorded _ _ _ => "SETTLEMENT_RECEIPTS_RECORDED"
  | settlementConfirmed _ _ _ => "SETTLEMENT_CONFIRMED"
  | recoveryCaseOpened _ _ _ _ => "RECOVERY_CASE_OPENED"
  | strategyApproved _ _ _ | strategyApprovalAudited _ _ => "RECOVERY_STRATEGY_APPROVED"

/-- The stored artifact id. -/
def artifactId : SettlementAudit → Uuid
  | checkRecorded checkId _ _ _ | receiptsRecorded checkId _ _ | settlementConfirmed checkId _ _ =>
    checkId
  | recoveryCaseOpened recoveryId _ _ _ | strategyApproved recoveryId _ _
  | strategyApprovalAudited recoveryId _ => recoveryId

/-- The event was written with the status change of the case. -/
def isApprovalOf (recoveryId : Uuid) : SettlementAudit → Bool
  | strategyApproved id _ _ => id = recoveryId
  | checkRecorded _ _ _ _ | receiptsRecorded _ _ _ | settlementConfirmed _ _ _
  | recoveryCaseOpened _ _ _ _ | strategyApprovalAudited _ _ => false

end SettlementAudit

/-- The rows of one case version; the appended ones stand newest first. -/
structure SettlementTables where
  caseVersion : CaseVersion
  gates : CaseTables
  checks : List SettlementCheck
  receipts : List SettlementReceipt
  recoveries : List RecoveryCase
  audit : List SettlementAudit

/-- Why a request is refused. -/
inductive SettlementRefusal where
  | api (error : ApiException)
  | sql (error : SqlError)
deriving DecidableEq

namespace SettlementTables

/-- `load_latest_settlement_check`: ordered by `created_at desc, id asc`. -/
def loadLatestSettlementCheck (tables : SettlementTables) : Option SettlementCheck :=
  AppendLog.latest
    (fun a b : SettlementCheck => a.createdAt < b.createdAt ∨ a.createdAt = b.createdAt ∧ b.id ≤ a.id)
    (fun _ => true) tables.checks

/-- `load_recovery_case` -/
def loadRecoveryCase (tables : SettlementTables) (recoveryId : Uuid) : Option RecoveryCase :=
  tables.recoveries.find? (·.id = recoveryId)

/-- Append an audit event. -/
def appendAudit (tables : SettlementTables) (event : SettlementAudit) : SettlementTables :=
  { tables with audit := event :: tables.audit }

/-- `ensure_gate` with a satisfied gate of the case version. -/
def satisfy (tables : SettlementTables) (gateType : GateType) (actorId : Uuid)
    (dispositionRef : String) (now : Timestamp) : SettlementTables :=
  { tables with
    gates := tables.gates.ensureGate tables.caseVersion gateType .satisfied now (some actorId)
      (some dispositionRef) }

/-- The gate of the case version is satisfied. -/
def Satisfied (tables : SettlementTables) (gateType : GateType) : Prop :=
  tables.gates.GateSatisfied tables.caseVersion gateType

instance (tables : SettlementTables) (gateType : GateType) : Decidable (tables.Satisfied gateType) :=
  inferInstanceAs (Decidable (CaseTables.GateSatisfied _ _ _))

/-! ## Settlement -/

/-- `SettlementCheckRequest` -/
structure CheckRequest where
  outstandingPrincipal : String
  outstandingInterest : String
  outstandingFees : String
  openExceptionCount : Nat
deriving DecidableEq

/-- The validators of `SettlementLedgerInputs`. -/
def CheckRequest.inputs (decimal : String → ParsedDecimal) (body : CheckRequest) :
    Option SettlementLedgerInputs := do
  let outstandingPrincipal ← canonicalNonnegAmount decimal body.outstandingPrincipal
  let outstandingInterest ← canonicalNonnegAmount decimal body.outstandingInterest
  let outstandingFees ← canonicalNonnegAmount decimal body.outstandingFees
  return { outstandingPrincipal, outstandingInterest, outstandingFees,
           openExceptionCount := body.openExceptionCount }

/-- `create_settlement_check` -/
def createSettlementCheck (decimal : String → ParsedDecimal) (tables : SettlementTables)
    (body : CheckRequest) (id actorId : Uuid) (now : Timestamp) :
    Except ApiException SettlementTables :=
  match body.inputs decimal with
  | none =>
    .error ⟨422, "INVALID_SETTLEMENT_SNAPSHOT", "Số liệu ledger tất toán không hợp lệ."⟩
  | some inputs =>
    let eligibility := deriveSettlementEligible inputs
    if eligibility.eligible then
      .ok { tables with
            checks :=
              { id
                outstandingPrincipal := eligibility.outstandingPrincipal
                outstandingInterest := eligibility.outstandingInterest
                outstandingFees := eligibility.outstandingFees
                openExceptionCount := eligibility.openExceptionCount
                zeroBalanceConfirmed := eligibility.zeroBalance
                recordedBy := actorId
                createdAt := now } :: tables.checks
            audit :=
              .checkRecorded id actorId eligibility.zeroBalance eligibility.openExceptionCount ::
                tables.audit }
    else
      .error ⟨409, "SETTLEMENT_NOT_ELIGIBLE",
        "Chưa đủ điều kiện tất toán: còn dư nợ hoặc còn exception chưa xử lý."⟩

/-- `record_settlement_receipts`: a kind the check has already is left as it is. -/
def recordSettlementReceipts (tables : SettlementTables) (checkId actorId : Uuid) :
    SettlementTables :=
  let insert (receipts : List SettlementReceipt) (kind : SettlementReceiptKind) :=
    if receipts.any fun receipt => receipt.settlementCheckId = checkId ∧ receipt.kind = kind then
      receipts
    else ⟨checkId, kind, mockReceiptNote kind, actorId⟩ :: receipts
  { tables with
    receipts := mockSettlementReceipts.foldl insert tables.receipts
    audit := .receiptsRecorded checkId actorId mockSettlementReceipts :: tables.audit }

/-- The kinds of receipt a check has. -/
def receiptKinds (tables : SettlementTables) (checkId : Uuid) : List SettlementReceiptKind :=
  ((tables.receipts.filter (·.settlementCheckId = checkId)).map (·.kind)).reverse

/-- What `confirm_settlement` reads: a check of a ledger without a balance. -/
def checkConfirmation (tables : SettlementTables) : Except ApiException SettlementCheck :=
  match tables.loadLatestSettlementCheck.filter (·.zeroBalanceConfirmed) with
  | some check => .ok check
  | none =>
    .error ⟨409, "SETTLEMENT_NOT_ELIGIBLE",
      "Chưa có settlement check đủ điều kiện (zero balance) cho phiên bản hồ sơ hiện tại."⟩

/-! ## Recovery -/

/-- `OpenRecoveryRequest`; the texts come stripped and within their lengths, and neither list is
empty. -/
structure OpenRecoveryRequest where
  outstandingTotal : String
  periodsInShortfall : Nat
  triggerSummaryVi : String
  escalationRationaleVi : String
  evidenceRefs : List String
  options : List RecoveryOption
deriving DecidableEq

/-- The validator of `RecoveryCase`: no evidence reference is blank. -/
def OpenRecoveryRequest.nonBlankRefs (body : OpenRecoveryRequest) : Bool :=
  body.evidenceRefs.all fun ref => !isBlank ref

/-- The row of a new recovery case. -/
def OpenRecoveryRequest.recoveryCase (body : OpenRecoveryRequest) (id actorId : Uuid) :
    RecoveryCase where
  id
  triggerSummaryVi := body.triggerSummaryVi
  escalatedBy := actorId
  escalationRationaleVi := body.escalationRationaleVi
  status := .preparing
  evidenceRefs := body.evidenceRefs.map strip
  options := body.options
  approvedBy := none
  shape := iff_of_true rfl rfl
  differs := by simp only [ne_eq, reduceCtorEq, not_false_eq_true]

/-- `open_recovery` -/
def openRecovery (decimal : String → ParsedDecimal) (tables : SettlementTables)
    (body : OpenRecoveryRequest) (id actorId : Uuid) : Except SettlementRefusal SettlementTables :=
  match canonicalNonnegAmount decimal body.outstandingTotal with
  | none =>
    .error (.api ⟨422, "INVALID_RECOVERY_SNAPSHOT",
      "Số liệu ledger cho trigger xử lý nợ không hợp lệ."⟩)
  | some outstandingTotal =>
    let inputs : RecoveryTriggerInputs := ⟨outstandingTotal, body.periodsInShortfall⟩
    if (deriveRecoveryTrigger inputs sustainedShortfallPeriods).triggered then
      if body.nonBlankRefs then
        if tables.recoveries.any (·.id = id) then
          .error (.sql (.uniqueViolation "recovery_cases_pkey"))
        else
          .ok { tables with
                recoveries := body.recoveryCase id actorId :: tables.recoveries
                audit :=
                  .recoveryCaseOpened id actorId body.options.length body.evidenceRefs.length ::
                    tables.audit }
      else .error (.api ⟨422, "INVALID_RECOVERY_CASE", "Hồ sơ xử lý nợ không hợp lệ."⟩)
    else
      .error (.api ⟨409, "RECOVERY_NOT_TRIGGERED",
        "Chưa đủ điều kiện mở hồ sơ xử lý nợ: shortfall chưa kéo dài đủ số kỳ theo quy tắc."⟩)

/-- `RECOVERY_CASE_NOT_FOUND` -/
def recoveryCaseNotFound : ApiException :=
  ⟨404, "RECOVERY_CASE_NOT_FOUND", "Không tìm thấy hồ sơ xử lý nợ trong hồ sơ này."⟩

/-- `RECOVERY_ALREADY_APPROVED` -/
def recoveryAlreadyApproved : ApiException :=
  ⟨409, "RECOVERY_ALREADY_APPROVED", "Chiến lược xử lý nợ đã được phê duyệt trước đó."⟩

/-- What `approve_recovery_strategy` reads: a case in preparation that another officer has escalated. -/
def checkApproval (tables : SettlementTables) (recoveryId actorId : Uuid) :
    Except ApiException RecoveryCase :=
  match tables.loadRecoveryCase recoveryId with
  | none => .error recoveryCaseNotFound
  | some current =>
    if current.status ≠ .preparing then .error recoveryAlreadyApproved
    else if current.escalatedBy = actorId then
      .error ⟨409, "SAME_ACTOR_FORBIDDEN",
        "Người phê duyệt chiến lược phải khác với người đã escalate hồ sơ."⟩
    else .ok current

/-- The transaction of `approve_recovery_strategy`, with the row locked: the update of the case and its
audit event. -/
def approveRecoveryStrategy (tables : SettlementTables) (recoveryId approvedBy : Uuid) :
    Except SettlementRefusal SettlementTables :=
  match tables.loadRecoveryCase recoveryId with
  | none => .error (.api recoveryCaseNotFound)
  | some current =>
    if current.status ≠ .preparing then .error (.api recoveryAlreadyApproved)
    else
      match current.approve approvedBy with
      | .error error => .error (.sql error)
      | .ok approved =>
        .ok { tables with
              recoveries := tables.recoveries.map fun row =>
                if row.id = recoveryId then approved else row
              audit := .strategyApproved recoveryId approvedBy current.escalatedBy :: tables.audit }

end SettlementTables

/-! ## Requests in flight -/

/-- How far a confirmation has come. -/
inductive ConfirmationStage where
  | started
  | checked (check : SettlementCheck)
  | receipted (check : SettlementCheck)
  | satisfied (check : SettlementCheck)
  | finished
  | refused (error : ApiException)
deriving DecidableEq

/-- One `confirm_settlement` request. -/
structure Confirmation where
  actorId : Uuid
  stage : ConfirmationStage
deriving DecidableEq

/-- The next transaction of a confirmation; none once it is over. -/
def Confirmation.advance (run : Confirmation) (tables : SettlementTables) (now : Timestamp) :
    Option (SettlementTables × Confirmation) :=
  match run.stage with
  | .started =>
    match tables.checkConfirmation with
    | .ok check => some (tables, { run with stage := .checked check })
    | .error error => some (tables, { run with stage := .refused error })
  | .checked check =>
    some (tables.recordSettlementReceipts check.id run.actorId,
      { run with stage := .receipted check })
  | .receipted check =>
    some (tables.satisfy .hgSettlementConfirmed run.actorId
      ("settlement:" ++ toString tables.caseVersion) now, { run with stage := .satisfied check })
  | .satisfied check =>
    some (tables.appendAudit (.settlementConfirmed check.id run.actorId
      (tables.receiptKinds check.id)), { run with stage := .finished })
  | .finished | .refused _ => none

/-- How far an approval has come. -/
inductive ApprovalStage where
  | started
  | loaded
  | approved
  | satisfied
  | finished
  | refused (error : SettlementRefusal)
deriving DecidableEq

/-- One `approve_recovery_strategy` request. -/
structure StrategyApproval where
  recoveryId : Uuid
  actorId : Uuid
  stage : ApprovalStage
deriving DecidableEq

/-- The next transaction of an approval; none once it is over. -/
def StrategyApproval.advance (run : StrategyApproval) (tables : SettlementTables) (now : Timestamp) :
    Option (SettlementTables × StrategyApproval) :=
  match run.stage with
  | .started =>
    match tables.checkApproval run.recoveryId run.actorId with
    | .ok _ => some (tables, { run with stage := .loaded })
    | .error error => some (tables, { run with stage := .refused (.api error) })
  | .loaded =>
    match tables.approveRecoveryStrategy run.recoveryId run.actorId with
    | .ok approved => some (approved, { run with stage := .approved })
    | .error error => some (tables, { run with stage := .refused error })
  | .approved =>
    some (tables.satisfy .hgRecoveryStrategyApproved run.actorId
      ("recovery-strategy:" ++ uuidText run.recoveryId) now, { run with stage := .satisfied })
  | .satisfied =>
    some (tables.appendAudit (.strategyApprovalAudited run.recoveryId run.actorId),
      { run with stage := .finished })
  | .finished | .refused _ => none

/-! ## The system -/

/-- The tables, and the requests in flight. -/
structure SettlementSystem where
  tables : SettlementTables
  confirmations : Uuid → Option Confirmation
  approvals : Uuid → Option StrategyApproval

/-- One transaction. -/
inductive SettlementRequest where
  | check (body : SettlementTables.CheckRequest) (id actorId : Uuid) (now : Timestamp)
  | openConfirmation (confirmationId actorId : Uuid)
  | advanceConfirmation (confirmationId : Uuid) (now : Timestamp)
  | openRecovery (body : SettlementTables.OpenRecoveryRequest) (id actorId : Uuid)
  | openApproval (approvalId recoveryId actorId : Uuid)
  | advanceApproval (approvalId : Uuid) (now : Timestamp)
deriving DecidableEq

namespace SettlementSystem

/-- The step function; none for a transaction that is not at that point or is refused. -/
def step (decimal : String → ParsedDecimal) (s : SettlementSystem) :
    SettlementRequest → Option SettlementSystem
  | .check body id actorId now =>
    (s.tables.createSettlementCheck decimal body id actorId now).toOption.map fun tables =>
      { s with tables }
  | .openConfirmation confirmationId actorId =>
    match s.confirmations confirmationId with
    | some _ => none
    | none =>
      some { s with
             confirmations :=
              Function.update s.confirmations confirmationId (some ⟨actorId, .started⟩) }
  | .advanceConfirmation confirmationId now =>
    ((s.confirmations confirmationId).bind (·.advance s.tables now)).map fun p =>
      { s with
        tables := p.1
        confirmations := Function.update s.confirmations confirmationId (some p.2) }
  | .openRecovery body id actorId =>
    (s.tables.openRecovery decimal body id actorId).toOption.map fun tables => { s with tables }
  | .openApproval approvalId recoveryId actorId =>
    match s.approvals approvalId with
    | some _ => none
    | none =>
      some { s with
             approvals :=
              Function.update s.approvals approvalId (some ⟨recoveryId, actorId, .started⟩) }
  | .advanceApproval approvalId now =>
    ((s.approvals approvalId).bind (·.advance s.tables now)).map fun p =>
      { s with
        tables := p.1
        approvals := Function.update s.approvals approvalId (some p.2) }

/-- A case version before the stage: no check, no recovery case, both gates open, nothing in flight. -/
structure Initial (s : SettlementSystem) : Prop where
  noCheck : s.tables.checks = []
  noRecovery : s.tables.recoveries = []
  noAudit : s.tables.audit = []
  settlementOpen : ¬ s.tables.Satisfied .hgSettlementConfirmed
  recoveryOpen : ¬ s.tables.Satisfied .hgRecoveryStrategyApproved
  noConfirmation : ∀ id, s.confirmations id = none
  noApproval : ∀ id, s.approvals id = none

/-- An empty case version. -/
def start (caseId : Uuid) (caseVersion : CaseVersion) : SettlementSystem where
  tables :=
    { caseVersion
      gates := ⟨caseId, caseVersion, [], [], [], [], [], [], []⟩
      checks := []
      receipts := []
      recoveries := []
      audit := [] }
  confirmations _ := none
  approvals _ := none

theorem initial_start (caseId : Uuid) (caseVersion : CaseVersion) :
    Initial (start caseId caseVersion) where
  noCheck := rfl
  noRecovery := rfl
  noAudit := rfl
  settlementOpen := by rintro ⟨gate, hmem, -⟩; cases hmem
  recoveryOpen := by rintro ⟨gate, hmem, -⟩; cases hmem
  noConfirmation _ := rfl
  noApproval _ := rfl

end SettlementSystem

end CreditOps.SettlementRecovery
