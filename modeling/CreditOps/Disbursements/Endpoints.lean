import CreditOps.Library.Transition
import CreditOps.Domain.Api
import CreditOps.Domain.Money
import CreditOps.Orchestration.Revision
import CreditOps.ContractPackages.Domain
import CreditOps.Disbursements.Store

/-!
# The disbursement endpoints

Creating, validating, authorising, executing and reconciling the proposed disbursements of a case, by
any number of callers at once. A call reads the case version first and then works through the
transactions of its endpoint, so other calls, the engine of the case and a version bump may commit
between any two of them. A call that is refused keeps the answer it was given.
-/

set_option autoImplicit false

namespace CreditOps.Disbursements

open Orchestration ContractPackages PartialMap

/-! ## Requests -/

/-- `ActorContext` -/
structure ActorContext where
  actorId : Uuid
  roles : List String
deriving DecidableEq

/-- `OPS_OFFICER_ROLE` -/
def opsOfficerRole : String := "OPS_OFFICER"

/-- `OPS_CHECKER_ROLE` -/
def opsCheckerRole : String := "OPS_CHECKER"

/-- `CreateDisbursementRequest`; the texts come stripped and within their lengths. -/
structure CreateDisbursementRequest where
  amount : Option ParsedDecimal
  currency : Option String
  beneficiaryRefVi : String
  accountRefVi : String
deriving DecidableEq

/-- The endpoints that write. -/
inductive Endpoint where
  | create (body : CreateDisbursementRequest)
  | validate (actionId : Uuid)
  | authorize (actionId : Uuid)
  | execute (actionId : Uuid)
  | reconcile (actionId : Uuid) (outcome rationaleVi : String)
deriving DecidableEq

namespace Endpoint

/-- The action in the path. -/
def actionId : Endpoint → Option Uuid
  | .create _ => none
  | .validate actionId | .authorize actionId | .execute actionId | .reconcile actionId _ _ =>
    some actionId

/-- The role the endpoint demands. -/
def role : Endpoint → String
  | .create _ => opsOfficerRole
  | .validate _ | .authorize _ | .execute _ | .reconcile _ _ _ => opsCheckerRole

end Endpoint

/-! ## Answers -/

/-- `_require_role` -/
def insufficientRole : ApiException :=
  ⟨403, "INSUFFICIENT_ROLE", "Bạn không có vai trò được yêu cầu cho thao tác này."⟩

/-- `_assert_case_access` -/
def caseNotAccessible : ApiException :=
  ⟨404, "CASE_NOT_ACCESSIBLE", "Không tìm thấy hồ sơ hoặc bạn không có quyền truy cập."⟩

/-- `_load_action_or_404` -/
def disbursementActionNotFound : ApiException :=
  ⟨404, "DISBURSEMENT_ACTION_NOT_FOUND",
    "Không tìm thấy hành động giải ngân trong phiên bản hồ sơ này."⟩

/-- What the execute endpoint answers to an error of the repository; the others reach the server. -/
def executeException : DisbursementError → Option ApiException
  | .reconciliationRequired _ =>
    some ⟨409, "RECONCILIATION_REQUIRED",
      "Lần thực thi trước chưa xác định (EXECUTION_UNKNOWN); cần đối soát thủ công, không tự động " ++
        "thực thi lại."⟩
  | .alreadyExecuted _ =>
    some ⟨409, "ALREADY_EXECUTED", "Hành động giải ngân đã được xác nhận thực thi."⟩
  | .actionNotFound _ => some disbursementActionNotFound
  | .notReconcilable _ | .notAReconciliationOutcome _ | .sql _ => none

/-- What the reconcile endpoint answers to an error of the repository. -/
def reconcileException : DisbursementError → Option ApiException
  | .notReconcilable _ =>
    some ⟨409, "NOT_RECONCILABLE",
      "Hành động không ở trạng thái cần đối soát (chỉ EXECUTION_REQUESTED / EXECUTION_UNKNOWN)."⟩
  | .actionNotFound _ => some disbursementActionNotFound
  | .reconciliationRequired _ | .alreadyExecuted _ | .notAReconciliationOutcome _ | .sql _ => none

/-! ## Checks -/

/-- `_gate_for`: a satisfied row of the gate at the version. -/
def gateFor (snapshot : OrchestrationSnapshot) (gateType : GateType) (caseVersion : CaseVersion) :
    Option GateRecord :=
  snapshot.gates.find? fun gate =>
    gate.gateType = gateType ∧ gate.caseVersion = caseVersion ∧ gate.status = .satisfied

/-- The decision must be an approval. -/
def requireApproval (decision : Option CreditDecision) : Except ApiException CreditDecision :=
  match decision.filter (·.decisionType ∈ approvalDecisions) with
  | some decision => .ok decision
  | none =>
    .error ⟨409, "DISBURSEMENT_REQUIRES_APPROVAL_DECISION",
      "Chưa có quyết định phê duyệt tín dụng cho phiên bản hồ sơ hiện tại để đề xuất giải ngân."⟩

/-- The conditions gate must be satisfied. -/
def requireConditions (snapshot : OrchestrationSnapshot) (caseVersion : CaseVersion) :
    Except ApiException GateRecord :=
  match gateFor snapshot .hgDisbursementConditionsConfirmed caseVersion with
  | some gate => .ok gate
  | none =>
    .error ⟨409, "DISBURSEMENT_CONDITIONS_NOT_CONFIRMED",
      "Chưa xác nhận điều kiện giải ngân (HG_DISBURSEMENT_CONDITIONS_CONFIRMED) cho phiên bản này."⟩

/-- `_resolve_amount` -/
def resolveAmount (raw : Option ParsedDecimal) (approvedAmount : Option Decimal) :
    Except ApiException Decimal :=
  match raw with
  | some parsed =>
    match parsed with
    | .finite amount =>
      if 0 < amount then .ok amount
      else
        .error ⟨422, "INVALID_AMOUNT", "Số tiền giải ngân không phải số thập phân hợp lệ (> 0)."⟩
    | .invalid | .special =>
      .error ⟨422, "INVALID_AMOUNT", "Số tiền giải ngân không phải số thập phân hợp lệ (> 0)."⟩
  | none =>
    match approvedAmount with
    | some amount => .ok amount
    | none =>
      .error ⟨422, "AMOUNT_REQUIRED",
        "Thiếu số tiền giải ngân và điều khoản duyệt không có số tiền."⟩

/-- `body.currency or approved_currency` -/
def resolveCurrency (raw approvedCurrency : Option String) : Except ApiException String :=
  match raw.or approvedCurrency with
  | some currency => .ok currency
  | none =>
    .error ⟨422, "CURRENCY_REQUIRED",
      "Thiếu loại tiền giải ngân và điều khoản duyệt không có loại tiền."⟩

/-- `validate_amount_against_terms`: the approved currency, and no more than the approved amount. -/
def validateAmountAgainstTerms (amount : Decimal) (currency : String) (terms : ApprovedTerms) :
    Except ApiException Unit :=
  if terms.currency.any (· ≠ currency) then
    .error ⟨422, "CURRENCY_MISMATCH", "Loại tiền giải ngân khác với loại tiền đã được phê duyệt."⟩
  else if terms.amount.any (· < amount) then
    .error ⟨422, "AMOUNT_EXCEEDS_APPROVED",
      "Số tiền giải ngân vượt quá số tiền đã được phê duyệt."⟩
  else .ok ()

/-- The amount and the currency of a new action. -/
def resolveTerms (body : CreateDisbursementRequest) (terms : ApprovedTerms) :
    Except ApiException (Decimal × String) := do
  let amount ← resolveAmount body.amount terms.amount
  let currency ← resolveCurrency body.currency terms.currency
  validateAmountAgainstTerms amount currency terms
  if 0 < amount ∧ 1 ≤ currency.length ∧ currency.length ≤ 8 then return (amount, currency)
  else
    throw ⟨422, "INVALID_DISBURSEMENT", "Hành động giải ngân đề xuất không hợp lệ."⟩

/-- The authorising checker must not be the one who validated. -/
def checkAuthorize (snapshot : OrchestrationSnapshot) (caseVersion : CaseVersion) (actorId : Uuid) :
    Except ApiException GateRecord :=
  match gateFor snapshot .hgDisbursementValidated caseVersion with
  | none =>
    .error ⟨409, "VALIDATION_REQUIRED",
      "Chưa thể phê chuẩn: cổng HG_DISBURSEMENT_VALIDATED chưa được thỏa mãn trước."⟩
  | some validated =>
    if validated.satisfiedByActorId = some actorId then
      .error ⟨409, "SAME_ACTOR_FORBIDDEN",
        "Người phê chuẩn phải khác với người đã xác nhận (tách biệt nhiệm vụ)."⟩
    else .ok validated

/-- Both gates must be satisfied, and the executor must not be the maker. -/
def checkExecute (snapshot : OrchestrationSnapshot) (action : ProposedDisbursementAction)
    (caseVersion : CaseVersion) (actorId : Uuid) : Except ApiException (GateRecord × GateRecord) :=
  match gateFor snapshot .hgDisbursementValidated caseVersion,
      gateFor snapshot .hgDisbursementAuthorized caseVersion with
  | some validated, some authorized =>
    if action.createdBy = actorId then
      .error ⟨409, "SAME_ACTOR_FORBIDDEN",
        "Người thực thi giải ngân phải khác với người tạo hành động (tách biệt nhiệm vụ)."⟩
    else .ok (validated, authorized)
  | _, _ =>
    .error ⟨409, "DISBURSEMENT_NOT_AUTHORIZED",
      "Chưa thể giải ngân: cần cả hai cổng HG_DISBURSEMENT_VALIDATED và " ++
        "HG_DISBURSEMENT_AUTHORIZED được thỏa mãn."⟩

/-- The statuses by their stored text. -/
def ExecutionStatus.ofValue (text : String) : Option ExecutionStatus :=
  [ExecutionStatus.proposed, .executionRequested, .executionUnknown, .confirmedExecuted,
    .confirmedNotExecuted].find? (·.value = text)

/-- The outcome a reconciliation may record. -/
def checkOutcome (outcome : String) : Except ApiException ExecutionStatus :=
  match ExecutionStatus.ofValue outcome with
  | none => .error ⟨422, "INVALID_OUTCOME", "Kết quả đối soát không hợp lệ."⟩
  | some status =>
    if status ∈ reconciliationOutcomes then .ok status
    else
      .error ⟨422, "INVALID_OUTCOME",
        "Kết quả đối soát phải là CONFIRMED_EXECUTED hoặc CONFIRMED_NOT_EXECUTED."⟩

/-- `f"{_VALIDATED_REF_PREFIX}:{action_id}"` -/
def validatedRef (actionId : Uuid) : String :=
  "proposed-disbursement-validated:" ++ uuidText actionId

/-- `f"{_AUTHORIZED_REF_PREFIX}:{action_id}"` -/
def authorizedRef (actionId : Uuid) : String :=
  "proposed-disbursement-authorized:" ++ uuidText actionId

/-! ## Calls -/

/-- How far a call has come. -/
inductive CallStage where
  | opened
  | decided (decision : CreditDecision)
  | confirmed (decision : CreditDecision)
  | loaded (action : ProposedDisbursementAction)
  | cleared (action : ProposedDisbursementAction)
  | requested (action : ProposedDisbursementAction) (key : IdempotencyKey)
  | returned (action : ProposedDisbursementAction) (receipt : DisbursementExecutionReceipt)
  | answered
  | refused (answer : ApiException)
  | failed
deriving DecidableEq

/-- A call has its answer, or has failed. -/
def CallStage.isClosed : CallStage → Bool
  | .answered | .refused _ | .failed => true
  | .opened | .decided _ | .confirmed _ | .loaded _ | .cleared _ | .requested _ _
  | .returned _ _ => false

/-- One call, with the case version it read when it was let in. -/
structure Call where
  actor : ActorContext
  endpoint : Endpoint
  caseVersion : CaseVersion
  stage : CallStage
deriving DecidableEq

/-- The case with its disbursements: the engine, the decision of each version, the officers assigned, the
disbursement tables, the unique index of the actions by version, and the calls. -/
structure CaseSystem where
  engine : Engine
  decisions : CaseVersion → Option CreditDecision
  assigned : List Uuid
  store : DisbursementStore
  proposed : CaseVersion → Option Uuid
  calls : Uuid → Option Call

/-- The next transaction of a call, with what the server draws for it. -/
inductive CallAction where
  | loadDecision
  | checkConditions
  | createAction (newId : Uuid) (now : Timestamp)
  | loadAction
  | checkGates
  | satisfyGate (now : Timestamp)
  | requestExecution (key : IdempotencyKey)
  | callAdapter (simulateUnknown : Bool) (receiptId : Uuid)
  | recordExecution
  | reconcile
  | crash
deriving DecidableEq

namespace CaseSystem

/-- The call goes on to a stage. -/
def goTo (s : CaseSystem) (callId : Uuid) (call : Call) (stage : CallStage) : CaseSystem :=
  { s with calls := Function.update s.calls callId (some { call with stage }) }

/-- The call gets the answer to an error, or fails when there is none. -/
def refuse (s : CaseSystem) (callId : Uuid) (call : Call) (answer : Option ApiException) :
    CaseSystem :=
  s.goTo callId call (answer.elim .failed .refused)

/-- Satisfy a gate at the version of the call. -/
def satisfy (s : CaseSystem) (call : Call) (gateType : GateType) (dispositionRef : String)
    (now : Timestamp) : CaseSystem :=
  { s with
    engine := { s.engine with
      tables := s.engine.tables.ensureGate call.caseVersion gateType .satisfied now
        (some call.actor.actorId) (some dispositionRef) } }

/-- The action of the call as the repository keys it. -/
def refOf (s : CaseSystem) (call : Call) (actionId : Uuid) : ActionRef where
  id := actionId
  caseId := s.engine.tables.caseId
  caseVersion := call.caseVersion

/-- The caller as the repository is told. -/
def Call.checker (call : Call) : Actor where
  id := call.actor.actorId
  role := opsCheckerRole

/-- The action a call creates. -/
def newAction (s : CaseSystem) (call : Call) (body : CreateDisbursementRequest)
    (decision : CreditDecision) (newId : Uuid) (now : Timestamp) (amount : Decimal)
    (currency : String) : ProposedDisbursementAction where
  id := newId
  caseId := s.engine.tables.caseId
  caseVersion := call.caseVersion
  decisionId := decision.decisionId
  amountText := amount.formatPlain
  currency
  beneficiaryRefVi := body.beneficiaryRefVi
  accountRefVi := body.accountRefVi
  status := .proposed
  createdBy := call.actor.actorId
  createdAt := now

/-- `create_action`: one action a case version; a second one resolves to the first. -/
def createAction (s : CaseSystem) (action : ProposedDisbursementAction) (amount : Decimal) :
    Except SqlError CaseSystem :=
  if ¬ numericInRange amount then .error .numericValueOutOfRange
  else
    match s.proposed action.caseVersion with
    | some _ => .ok s
    | none =>
      if (s.store.actions action.id).isSome then
        .error (.uniqueViolation "proposed_disbursement_actions_pkey")
      else
        .ok { s with
              store := { s.store with
                actions := Function.update s.store.actions action.id (some action) }
              proposed := Function.update s.proposed action.caseVersion (some action.id) }

/-- `_require_role` and `_assert_case_access`: the case version, for a caller who is let in. -/
def admits (s : CaseSystem) (actor : ActorContext) (endpoint : Endpoint) :
    Except ApiException CaseVersion :=
  if endpoint.role ∉ actor.roles then .error insufficientRole
  else if actor.actorId ∉ s.assigned then .error caseNotAccessible
  else .ok s.engine.tables.caseVersion

/-- One transaction of a call; `none` when the call is not at that point. -/
def act (s : CaseSystem) (callId : Uuid) (call : Call) (action : CallAction) : Option CaseSystem :=
  match action, call.endpoint, call.stage with
  | .loadDecision, .create _, .opened =>
    match requireApproval (s.decisions call.caseVersion) with
    | .error answer => some (s.refuse callId call (some answer))
    | .ok decision => some (s.goTo callId call (.decided decision))
  | .checkConditions, .create _, .decided decision =>
    match requireConditions s.engine.tables.loadSnapshot call.caseVersion with
    | .error answer => some (s.refuse callId call (some answer))
    | .ok _ => some (s.goTo callId call (.confirmed decision))
  | .createAction newId now, .create body, .confirmed decision =>
    match resolveTerms body decision.terms with
    | .error answer => some (s.refuse callId call (some answer))
    | .ok (amount, currency) =>
      match s.createAction (s.newAction call body decision newId now amount currency) amount with
      | .error _ => some (s.refuse callId call none)
      | .ok created => some (created.goTo callId call .answered)
  | .loadAction, endpoint, .opened =>
    endpoint.actionId.map fun actionId =>
      match s.store.selectForUpdate (s.refOf call actionId) with
      | .error _ => s.refuse callId call (some disbursementActionNotFound)
      | .ok row => s.goTo callId call (.loaded row)
  | .checkGates, .authorize _, .loaded row =>
    match checkAuthorize s.engine.tables.loadSnapshot call.caseVersion call.actor.actorId with
    | .error answer => some (s.refuse callId call (some answer))
    | .ok _ => some (s.goTo callId call (.cleared row))
  | .checkGates, .execute _, .loaded row =>
    match checkExecute s.engine.tables.loadSnapshot row call.caseVersion call.actor.actorId with
    | .error answer => some (s.refuse callId call (some answer))
    | .ok _ => some (s.goTo callId call (.cleared row))
  | .satisfyGate now, .validate actionId, .loaded _ =>
    some ((s.satisfy call .hgDisbursementValidated (validatedRef actionId) now).goTo callId call
      .answered)
  | .satisfyGate now, .authorize actionId, .cleared _ =>
    some ((s.satisfy call .hgDisbursementAuthorized (authorizedRef actionId) now).goTo callId call
      .answered)
  | .requestExecution key, .execute actionId, .cleared row =>
    match s.store.requestExecution (s.refOf call actionId) key (Call.checker call) with
    | .error error => some (s.refuse callId call (executeException error))
    | .ok store => some ({ s with store }.goTo callId call (.requested row key))
  | .callAdapter simulateUnknown receiptId, .execute actionId, .requested row key =>
    some (s.goTo callId call
      (.returned row (MockDisbursementExecutionAdapter.execute simulateUnknown receiptId actionId key)))
  | .recordExecution, .execute actionId, .returned _ receipt =>
    match s.store.recordExecution (s.refOf call actionId) receipt (Call.checker call) with
    | .error error => some (s.refuse callId call (executeException error))
    | .ok store => some ({ s with store }.goTo callId call .answered)
  | .reconcile, .reconcile actionId outcome rationaleVi, .loaded _ =>
    match checkOutcome outcome with
    | .error answer => some (s.refuse callId call (some answer))
    | .ok status =>
      match s.store.reconcileAction (s.refOf call actionId) status rationaleVi (Call.checker call) with
      | .error error => some (s.refuse callId call (reconcileException error))
      | .ok store => some ({ s with store }.goTo callId call .answered)
  | .crash, _, _ => some { s with calls := Function.update s.calls callId none }
  | _, _, _ => none

end CaseSystem

/-- One step of the case. The requests after `call` come from elsewhere: the engine, the endpoints that
satisfy other gates, the credit decision, a version bump, and the assignment of officers. -/
inductive CaseRequest where
  | openCall (callId : Uuid) (actor : ActorContext) (endpoint : Endpoint)
  | call (callId : Uuid) (action : CallAction)
  | engine (request : EngineRequest)
  | otherGate (caseVersion : CaseVersion) (gateType : GateType) (actorId : Uuid)
      (dispositionRef : String) (now : Timestamp)
  | decide (caseVersion : CaseVersion) (decision : CreditDecision)
  | bumpCaseVersion (revision : RevisionRequest) (handoffId : Uuid)
  | assign (officers : List Uuid)
deriving DecidableEq

/-- The two gates the endpoints of this module write, and no others do. -/
def disbursementGates : List GateType :=
  [.hgDisbursementValidated, .hgDisbursementAuthorized]

namespace CaseSystem

/-- The step function; `none` for a request that is not at that point. -/
def step (s : CaseSystem) : CaseRequest → Option CaseSystem
  | .openCall callId actor endpoint =>
    match s.calls callId with
    | some _ => none
    | none =>
      let call : Call := ⟨actor, endpoint, s.engine.tables.caseVersion, .opened⟩
      match s.admits actor endpoint with
      | .error answer => some (s.refuse callId call (some answer))
      | .ok caseVersion => some (s.goTo callId { call with caseVersion } .opened)
  | .call callId action => (s.calls callId).bind fun call => s.act callId call action
  | .engine request => (s.engine.step request).map fun engine => { s with engine }
  | .otherGate caseVersion gateType actorId dispositionRef now =>
    if gateType ∈ disbursementGates then none
    else
      some { s with
             engine := { s.engine with
              tables := s.engine.tables.ensureGate caseVersion gateType .satisfied now (some actorId)
                (some dispositionRef) } }
  | .decide caseVersion decision =>
    match s.decisions caseVersion with
    | some _ => none
    | none =>
      some { s with decisions := Function.update s.decisions caseVersion (some decision) }
  | .bumpCaseVersion revision handoffId =>
    match s.engine.tables.bumpCaseVersion revision handoffId with
    | .ok tables => some { s with engine := { s.engine with tables } }
    | .error _ => none
  | .assign officers => some { s with assigned := officers }

/-! ## What a step can do -/

variable {s t : CaseSystem} {callId : Uuid} {call : Call}

/-- **The inversion of a call's transaction.** What it writes, behind the checks that call has passed,
and the stage it goes on to. -/
inductive Acted (s : CaseSystem) (callId : Uuid) (call : Call) : CaseSystem → Prop where
  | crashed : Acted s callId call { s with calls := Function.update s.calls callId none }
  | closed (stage : CallStage) (hclosed : stage.isClosed = true) :
      Acted s callId call (s.goTo callId call stage)
  | decided (decision : CreditDecision) : Acted s callId call (s.goTo callId call (.decided decision))
  | confirmed (decision : CreditDecision) (gate : GateRecord)
      (hgate : requireConditions s.engine.tables.loadSnapshot call.caseVersion = .ok gate) :
      Acted s callId call (s.goTo callId call (.confirmed decision))
  | created (body : CreateDisbursementRequest) (decision : CreditDecision) (newId : Uuid)
      (now : Timestamp) (amount : Decimal) (currency : String) (created : CaseSystem)
      (hstage : call.stage = .confirmed decision)
      (hterms : resolveTerms body decision.terms = .ok (amount, currency))
      (hcreated : s.createAction (s.newAction call body decision newId now amount currency) amount =
        .ok created) :
      Acted s callId call (created.goTo callId call .answered)
  | loaded (actionId : Uuid) (row : ProposedDisbursementAction)
      (hendpoint : call.endpoint.actionId = some actionId)
      (hrow : s.store.selectForUpdate (s.refOf call actionId) = .ok row) :
      Acted s callId call (s.goTo callId call (.loaded row))
  | authorizing (actionId : Uuid) (row : ProposedDisbursementAction) (gate : GateRecord)
      (hendpoint : call.endpoint = .authorize actionId) (hstage : call.stage = .loaded row)
      (hcheck : checkAuthorize s.engine.tables.loadSnapshot call.caseVersion call.actor.actorId =
        .ok gate) :
      Acted s callId call (s.goTo callId call (.cleared row))
  | executing (actionId : Uuid) (row : ProposedDisbursementAction) (gates : GateRecord × GateRecord)
      (hendpoint : call.endpoint = .execute actionId) (hstage : call.stage = .loaded row)
      (hcheck : checkExecute s.engine.tables.loadSnapshot row call.caseVersion call.actor.actorId =
        .ok gates) :
      Acted s callId call (s.goTo callId call (.cleared row))
  | validated (actionId : Uuid) (row : ProposedDisbursementAction) (now : Timestamp)
      (hendpoint : call.endpoint = .validate actionId) (hstage : call.stage = .loaded row) :
      Acted s callId call
        ((s.satisfy call .hgDisbursementValidated (validatedRef actionId) now).goTo callId call
          .answered)
  | authorized (actionId : Uuid) (row : ProposedDisbursementAction) (now : Timestamp)
      (hendpoint : call.endpoint = .authorize actionId) (hstage : call.stage = .cleared row) :
      Acted s callId call
        ((s.satisfy call .hgDisbursementAuthorized (authorizedRef actionId) now).goTo callId call
          .answered)
  | requested (actionId : Uuid) (row : ProposedDisbursementAction) (key : IdempotencyKey)
      (store : DisbursementStore) (hendpoint : call.endpoint = .execute actionId)
      (hstage : call.stage = .cleared row)
      (hcom : s.store.requestExecution (s.refOf call actionId) key (Call.checker call) =
        .ok store) :
      Acted s callId call ({ s with store }.goTo callId call (.requested row key))
  | returned (actionId : Uuid) (row : ProposedDisbursementAction) (key : IdempotencyKey)
      (receipt : DisbursementExecutionReceipt) (hendpoint : call.endpoint = .execute actionId)
      (hstage : call.stage = .requested row key) :
      Acted s callId call (s.goTo callId call (.returned row receipt))
  | settled (store : DisbursementStore) (hrows : s.store.SameRows store) :
      Acted s callId call ({ s with store }.goTo callId call .answered)

theorem act_cases {action : CallAction} (hact : s.act callId call action = some t) :
    Acted s callId call t := by
  have hrefuse : ∀ answer, Acted s callId call (s.refuse callId call answer) := by
    intro answer
    cases answer <;> exact .closed _ rfl
  unfold act at hact
  split at hact
  · -- loadDecision
    split at hact <;> cases hact
    · exact hrefuse _
    · exact .decided _
  · -- checkConditions
    split at hact <;> cases hact
    · exact hrefuse _
    · rename_i hgate
      exact .confirmed _ _ hgate
  · -- createAction
    rename_i hstage
    split at hact
    · cases hact
      exact hrefuse _
    · rename_i hterms
      split at hact <;> cases hact
      · exact hrefuse _
      · rename_i hcreated
        exact .created _ _ _ _ _ _ _ hstage hterms hcreated
  · -- loadAction
    obtain ⟨actionId, hendpoint, hstep⟩ := Option.map_eq_some_iff.1 hact
    split at hstep <;> subst hstep
    · exact hrefuse _
    · rename_i hrow
      exact .loaded _ _ hendpoint hrow
  · -- checkGates of authorize
    rename_i hendpoint hstage
    split at hact <;> cases hact
    · exact hrefuse _
    · rename_i hcheck
      exact .authorizing _ _ _ hendpoint hstage hcheck
  · -- checkGates of execute
    rename_i hendpoint hstage
    split at hact <;> cases hact
    · exact hrefuse _
    · rename_i hcheck
      exact .executing _ _ _ hendpoint hstage hcheck
  · rename_i hendpoint hstage
    cases hact
    exact .validated _ _ _ hendpoint hstage
  · rename_i hendpoint hstage
    cases hact
    exact .authorized _ _ _ hendpoint hstage
  · -- requestExecution
    rename_i hendpoint hstage
    split at hact <;> cases hact
    · exact hrefuse _
    · rename_i hcom
      exact .requested _ _ _ _ hendpoint hstage hcom
  · rename_i hendpoint hstage
    cases hact
    exact .returned _ _ _ _ hendpoint hstage
  · -- recordExecution
    split at hact <;> cases hact
    · exact hrefuse _
    · rename_i hcom
      exact .settled _ (DisbursementStore.recordExecution_sameRows hcom)
  · -- reconcile
    split at hact
    · cases hact
      exact hrefuse _
    · split at hact <;> cases hact
      · exact hrefuse _
      · rename_i hcom
        exact .settled _ (DisbursementStore.reconcileAction_sameRows hcom)
  · cases hact
    exact .crashed
  · cases hact

/-- **The inversion of a step.** -/
inductive Stepped (s : CaseSystem) : CaseRequest → CaseSystem → Prop where
  | opened (callId : Uuid) (actor : ActorContext) (endpoint : Endpoint) (call : Call)
      (hstage : call.stage = .opened ∨ call.stage.isClosed = true) :
      Stepped s (.openCall callId actor endpoint)
        { s with calls := Function.update s.calls callId (some call) }
  | acted (callId : Uuid) (action : CallAction) (call : Call) (t : CaseSystem)
      (hcall : s.calls callId = some call) (hacted : Acted s callId call t) :
      Stepped s (.call callId action) t
  | engine (request : EngineRequest) (engine : Engine)
      (hstep : s.engine.step request = some engine) : Stepped s (.engine request) { s with engine }
  | otherGate (caseVersion : CaseVersion) (gateType : GateType) (actorId : Uuid)
      (dispositionRef : String) (now : Timestamp) (hother : gateType ∉ disbursementGates) :
      Stepped s (.otherGate caseVersion gateType actorId dispositionRef now)
        { s with
          engine := { s.engine with
            tables := s.engine.tables.ensureGate caseVersion gateType .satisfied now (some actorId)
              (some dispositionRef) } }
  | decided (caseVersion : CaseVersion) (decision : CreditDecision) :
      Stepped s (.decide caseVersion decision)
        { s with decisions := Function.update s.decisions caseVersion (some decision) }
  | bumped (revision : RevisionRequest) (handoffId : Uuid) (tables : CaseTables)
      (hbump : s.engine.tables.bumpCaseVersion revision handoffId = .ok tables) :
      Stepped s (.bumpCaseVersion revision handoffId)
        { s with engine := { s.engine with tables } }
  | assigned (officers : List Uuid) : Stepped s (.assign officers) { s with assigned := officers }

theorem step_cases {q : CaseRequest} (hstep : s.step q = some t) : Stepped s q t := by
  cases q with
  | openCall callId actor endpoint =>
    simp only [step] at hstep
    split at hstep
    · cases hstep
    split at hstep <;> cases hstep
    · exact .opened callId actor endpoint _ (Or.inr rfl)
    · exact .opened callId actor endpoint _ (Or.inl rfl)
  | call callId action =>
    obtain ⟨call, hcall, hact⟩ := Option.bind_eq_some_iff.1 hstep
    exact .acted callId action call t hcall (act_cases hact)
  | engine request =>
    obtain ⟨engine, heng, rfl⟩ := Option.map_eq_some_iff.1 hstep
    exact .engine request engine heng
  | otherGate caseVersion gateType actorId dispositionRef now =>
    simp only [step] at hstep
    split at hstep <;> cases hstep
    rename_i hother
    exact .otherGate caseVersion gateType actorId dispositionRef now hother
  | decide caseVersion decision =>
    simp only [step] at hstep
    split at hstep <;> cases hstep
    exact .decided caseVersion decision
  | bumpCaseVersion revision handoffId =>
    simp only [step] at hstep
    split at hstep <;> cases hstep
    rename_i hbump
    exact .bumped revision handoffId _ hbump
  | assign officers =>
    cases hstep
    exact .assigned officers

end CaseSystem

end CreditOps.Disbursements
