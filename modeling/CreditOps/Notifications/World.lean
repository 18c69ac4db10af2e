import CreditOps.Library.AppendLog
import CreditOps.Orchestration.HumanGates
import CreditOps.Notifications.Domain

/-!
# Credit decisions and notifications of one case

The requests that record a decision, draft its notification, approve the draft and deliver it, interleaved
at the granularity of their statements outside transactions and of their transactions, together with
persisted artifacts, version bumps and the ticks that write open gate rows. A decision request reads the
case version and the latest artifact of each kind one after another, checks what it has read, and
inserts later. A delivery reads the draft and then the gates of the case version it finds, and inserts later.
-/

set_option autoImplicit false

namespace CreditOps.Notifications

open Orchestration CreditDecisions
open ContractPackages (CreditDecisionType approvalDecisions)

/-! ## Rows -/

/-- A memo, risk review or underwriting assessment: what the binding reads of it. -/
structure ArtifactRow where
  id : Uuid
  caseVersion : CaseVersion
  taskId : Uuid
  createdAt : Timestamp
deriving DecidableEq

/-- The artifact tables. -/
structure ArtifactTables where
  memos : List ArtifactRow
  riskAssessments : List ArtifactRow
  underwritingAssessments : List ArtifactRow
deriving DecidableEq

/-- The table of one kind. -/
def ArtifactTables.get (tables : ArtifactTables) : ArtifactKind → List ArtifactRow
  | .memo => tables.memos
  | .riskAssessment => tables.riskAssessments
  | .underwritingAssessment => tables.underwritingAssessments

/-- Add a row to the table of one kind. -/
def ArtifactTables.add (tables : ArtifactTables) (row : ArtifactRow) : ArtifactKind → ArtifactTables
  | .memo => { tables with memos := row :: tables.memos }
  | .riskAssessment => { tables with riskAssessments := row :: tables.riskAssessments }
  | .underwritingAssessment =>
    { tables with underwritingAssessments := row :: tables.underwritingAssessments }

/-- The artifact is the latest of the version, or one of the latest. -/
def IsLatest (rows : List ArtifactRow) (caseVersion : CaseVersion) (id : Uuid) : Prop :=
  ∃ row ∈ rows, row.id = id ∧ row.caseVersion = caseVersion ∧
    ∀ other ∈ rows, other.caseVersion = caseVersion → other.createdAt ≤ row.createdAt

/-- What `_latest_id` can read: `order by created_at desc limit 1`. -/
def ReadsLatest (rows : List ArtifactRow) (caseVersion : CaseVersion) : Option Uuid → Prop
  | none => ∀ row ∈ rows, row.caseVersion ≠ caseVersion
  | some id => IsLatest rows caseVersion id

instance (rows : List ArtifactRow) (caseVersion : CaseVersion) (id : Uuid) :
    Decidable (IsLatest rows caseVersion id) :=
  inferInstanceAs (Decidable (∃ row ∈ rows, _))

instance decidableReadsLatest (rows : List ArtifactRow) (caseVersion : CaseVersion) :
    ∀ seen, Decidable (ReadsLatest rows caseVersion seen)
  | none => inferInstanceAs (Decidable (∀ row ∈ rows, _))
  | some _ => inferInstanceAs (Decidable (IsLatest ..))

/-- A row of `human_credit_decisions`, with what held at its commit. -/
structure CommittedDecision where
  decision : HumanCreditDecision
  recordedTerms : Option ApprovedTerms
  versionThen : CaseVersion
  artifactsThen : ArtifactTables

/-- A row of `communication_receipts`, with what held at its commit. -/
structure CommittedReceipt where
  receipt : CommunicationReceipt
  tablesThen : CaseTables

/-! ## Requests -/

/-- How far `record_credit_decision` has come. -/
inductive DecisionStage where
  | reading
  | readingMemo (version : CaseVersion)
  | readingRisk (version : CaseVersion) (memo : Option Uuid)
  | readingUnderwriting (version : CaseVersion) (memo risk : Option Uuid)
  | recording (binding : DecisionBinding) (decision : HumanCreditDecision)
      (terms : Option ApprovedTerms)
  | answered (decision : HumanCreditDecision) (created : Bool)
  | refused (refusal : DecisionRefusal)
  | raised

/-- `record_credit_decision`, past its role and access checks. -/
structure DecisionRequest where
  actorId : Uuid
  body : RecordDecisionRequest
  decisionType : CreditDecisionType
  stage : DecisionStage

/-- How far `create_notification_draft` has come. -/
inductive DraftStage where
  | reading
  | loadingDecision (version : CaseVersion)
  | loadingTerms (decision : HumanCreditDecision)
  | inserting (draft : CreditNotificationDraft)
  | answered (draft : CreditNotificationDraft) (created : Bool)
  | refused (exception : ApiException)
  | raised

/-- `create_notification_draft`, with the draft id it has drawn. -/
structure DraftRequest where
  newId : Uuid
  actorId : Uuid
  stage : DraftStage

/-- How far `approve_notification` has come. -/
inductive ApprovalStage where
  | loading
  | writing (draft : CreditNotificationDraft)
  | answered (draft : CreditNotificationDraft)
  | refused (exception : ApiException)

/-- `approve_notification` of one draft. -/
structure ApprovalRequest where
  actorId : Uuid
  draftId : Uuid
  stage : ApprovalStage

/-- How far `deliver_notification` has come. -/
inductive DeliveryStage where
  | loading
  | readingVersion (draft : CreditNotificationDraft)
  | readingGates (draft : CreditNotificationDraft) (version : CaseVersion)
  | delivering (draft : CreditNotificationDraft) (version : CaseVersion)
  | answered (receipt : CommunicationReceipt)
  | refused (exception : ApiException)
  | raised

/-- `deliver_notification`, with the receipt id it will draw. -/
structure DeliveryRequest where
  newId : Uuid
  actorId : Uuid
  receiptNoteVi : Option String
  stage : DeliveryStage

/-- `_DEFAULT_RECEIPT_NOTE_VI` -/
def defaultReceiptNoteVi : String := "Đã ghi nhận giao thông báo qua kênh mock (dữ liệu mô phỏng)."

/-- The receipt a delivery records. -/
def DeliveryRequest.receipt (request : DeliveryRequest) (draft : CreditNotificationDraft) :
    CommunicationReceipt :=
  receiptOf draft request.newId request.actorId
    (some (request.receiptNoteVi.getD defaultReceiptNoteVi))

/-- A request in flight. -/
inductive CreditRequest where
  | decision (request : DecisionRequest)
  | draft (request : DraftRequest)
  | approval (request : ApprovalRequest)
  | delivery (request : DeliveryRequest)

/-- `DECISION_DOES_NOT_PERMIT_NOTIFICATION` -/
def decisionDoesNotPermitNotification : ApiException :=
  ⟨409, "DECISION_DOES_NOT_PERMIT_NOTIFICATION",
    "Chưa thể tạo thông báo: chưa có quyết định phê duyệt cho phép phát hành thông báo tín dụng."⟩

/-- `_draft_not_available` -/
def draftNotAvailable : ApiException :=
  ⟨404, "NOTIFICATION_DRAFT_NOT_AVAILABLE",
    "Chưa có bản nháp thông báo tín dụng cho hồ sơ này."⟩

/-- `STALE_NOTIFICATION_DRAFT` -/
def staleNotificationDraft : ApiException :=
  ⟨409, "STALE_NOTIFICATION_DRAFT",
    "Bản nháp thông báo đã thay đổi; vui lòng xem lại bản mới nhất trước khi phê duyệt."⟩

/-- `SAME_ACTOR_FORBIDDEN` -/
def sameActorForbidden : ApiException :=
  ⟨409, "SAME_ACTOR_FORBIDDEN",
    "Người tạo bản nháp không được đồng thời thực hiện giao thông báo; " ++
      "cần một người khác (tách biệt nhiệm vụ)."⟩

/-- `GATE_NOT_SATISFIED` -/
def gateNotSatisfied : ApiException :=
  ⟨409, "GATE_NOT_SATISFIED",
    "Chưa thể giao thông báo: cổng phê duyệt HG_CREDIT_NOTIFICATION_APPROVED chưa được thỏa mãn."⟩

/-- `notification-draft:{draft.id}` -/
def dispositionRef (draftId : Uuid) : String :=
  "notification-draft:" ++ uuidText draftId

/-! ## The system -/

/-- The tables of a case and the requests in flight. -/
structure CreditWorld where
  tables : CaseTables
  artifacts : ArtifactTables
  decisions : List CommittedDecision
  snapshots : List ApprovedTermSnapshot
  drafts : List CreditNotificationDraft
  receipts : List CommittedReceipt
  requests : Uuid → Option CreditRequest

/-- One step of an interleaving. A step of a decision request is told which row a read of the latest
artifact returned and which ids the check drew. -/
inductive CreditAction where
  | openDecision (requestId actorId : Uuid) (body : RecordDecisionRequest)
  | openDraft (requestId newId actorId : Uuid)
  | openApproval (requestId actorId draftId : Uuid)
  | openDelivery (requestId newId actorId : Uuid) (receiptNoteVi : Option String)
  | advance (requestId : Uuid) (seen : Option Uuid) (decisionId snapshotId : Uuid) (now : Timestamp)
  | persistArtifact (kind : ArtifactKind) (row : ArtifactRow)
  | tick (caseVersion : CaseVersion) (gateType : GateType) (now : Timestamp)
  | bumpCaseVersion (request : RevisionRequest) (handoffId : Uuid)

namespace CreditWorld

/-- Move a request on. -/
def setRequest (w : CreditWorld) (requestId : Uuid) (request : CreditRequest) : CreditWorld :=
  { w with requests := Function.update w.requests requestId (some request) }

/-- The decision of a case version. -/
def decisionOf (w : CreditWorld) (version : CaseVersion) : Option CommittedDecision :=
  w.decisions.find? (·.decision.caseVersion = version)

/-- The draft of a case version. -/
def draftOf (w : CreditWorld) (version : CaseVersion) : Option CreditNotificationDraft :=
  w.drafts.find? (·.caseVersion = version)

/-- `_load_draft_on`: `order by case_version desc limit 1`. -/
def latestDraft (w : CreditWorld) : Option CreditNotificationDraft :=
  AppendLog.latest (fun a b => a.caseVersion ≤ b.caseVersion) (fun _ => true) w.drafts

/-- `_load_terms_on`: none without a snapshot; terms that cannot be read raise. -/
def loadTermsOn (w : CreditWorld) (decisionId : Uuid) : Option (Option ApprovedTerms) :=
  match w.snapshots.find? (·.decisionId = decisionId) with
  | none => some none
  | some snapshot => (loadTerms snapshot.terms).map some

/-- The receipt of a draft. -/
def receiptFor (w : CreditWorld) (draftId : Uuid) : Option CommittedReceipt :=
  w.receipts.find? (·.receipt.draftId = draftId)

/-- The approval gate of a case version is satisfied. -/
def GateSatisfied (w : CreditWorld) (version : CaseVersion) : Prop :=
  w.tables.GateSatisfied version .hgCreditNotificationApproved

instance (w : CreditWorld) (version : CaseVersion) : Decidable (w.GateSatisfied version) :=
  inferInstanceAs (Decidable (w.tables.GateSatisfied version .hgCreditNotificationApproved))

/-- The keys of a new decision row are free: no decision has its id, and no snapshot the snapshot id. -/
def DecisionKeysFree (w : CreditWorld) (decision : HumanCreditDecision) (snapshotId : Uuid) : Prop :=
  (∀ row ∈ w.decisions, row.decision.id ≠ decision.id) ∧ ∀ row ∈ w.snapshots, row.id ≠ snapshotId

instance (w : CreditWorld) (decision : HumanCreditDecision) (snapshotId : Uuid) :
    Decidable (w.DecisionKeysFree decision snapshotId) :=
  inferInstanceAs (Decidable ((∀ row ∈ w.decisions, _) ∧ ∀ row ∈ w.snapshots, _))

/-- The rows `record_decision` writes. -/
def insertDecision (w : CreditWorld) (decision : HumanCreditDecision) (terms : Option ApprovedTerms)
    (snapshotId : Uuid) : CreditWorld :=
  { w with
    decisions := ⟨decision, terms, w.tables.caseVersion, w.artifacts⟩ :: w.decisions
    snapshots := (terms.map (buildTermSnapshot snapshotId decision)).toList ++ w.snapshots }

/-- The row `record_mock_delivery` writes. -/
def insertReceipt (w : CreditWorld) (receipt : CommunicationReceipt) : CreditWorld :=
  { w with receipts := ⟨receipt, w.tables⟩ :: w.receipts }

/-- The next step of a decision request: the reads, with the checks after the last one, and the
write. -/
def advanceDecision (w : CreditWorld) (requestId : Uuid) (seen : Option Uuid)
    (decisionId snapshotId : Uuid) (request : DecisionRequest) : Option CreditWorld :=
  let move (stage : DecisionStage) := w.setRequest requestId (.decision { request with stage })
  match request.stage with
  | .reading => some (move (.readingMemo w.tables.caseVersion))
  | .readingMemo version =>
    if ReadsLatest w.artifacts.memos version seen then some (move (.readingRisk version seen)) else none
  | .readingRisk version memo =>
    if ReadsLatest w.artifacts.riskAssessments version seen then
      some (move (.readingUnderwriting version memo seen))
    else none
  | .readingUnderwriting version memo risk =>
    if ReadsLatest w.artifacts.underwritingAssessments version seen then
      match checkDecision decisionId request.actorId request.body request.decisionType
          ⟨version, ⟨memo, risk, seen⟩⟩ with
      | .error refusal => some (move (.refused refusal))
      | .ok (decision, terms) => some (move (.recording ⟨version, ⟨memo, risk, seen⟩⟩ decision terms))
    else none
  | .recording _ decision terms =>
    match w.decisionOf decision.caseVersion with
    | some existing => some (move (.answered existing.decision false))
    | none =>
      if w.DecisionKeysFree decision snapshotId then
        some ((w.insertDecision decision terms snapshotId).setRequest requestId
          (.decision { request with stage := .answered decision true }))
      else some (move .raised)
  | .answered _ _ | .refused _ | .raised => none

/-- The next step of a draft request: the case version, its decision, the frozen terms, the insert. -/
def advanceDraft (w : CreditWorld) (requestId : Uuid) (request : DraftRequest) : Option CreditWorld :=
  let move (stage : DraftStage) := w.setRequest requestId (.draft { request with stage })
  match request.stage with
  | .reading => some (move (.loadingDecision w.tables.caseVersion))
  | .loadingDecision version =>
    match w.decisionOf version with
    | none => some (move (.refused decisionDoesNotPermitNotification))
    | some row =>
      if row.decision.decision ∈ approvalDecisions then some (move (.loadingTerms row.decision))
      else some (move (.refused decisionDoesNotPermitNotification))
  | .loadingTerms decision =>
    match (w.loadTermsOn decision.id).bind
        (buildNotificationDraft request.newId request.actorId decision) with
    | none => some (move .raised)
    | some draft => some (move (.inserting draft))
  | .inserting draft =>
    match w.draftOf draft.caseVersion with
    | some _ =>
      -- the conflict is answered with the latest draft of the case
      match w.latestDraft with
      | none => some (move .raised)
      | some existing => some (move (.answered existing false))
    | none =>
      if ∀ row ∈ w.drafts, row.id ≠ draft.id then
        some ({ w with drafts := draft :: w.drafts }.setRequest requestId
          (.draft { request with stage := .answered draft true }))
      else some (move .raised)
  | .answered _ _ | .refused _ | .raised => none

/-- The next step of an approval: the draft must be the latest of the case, then its gate is
satisfied. -/
def advanceApproval (w : CreditWorld) (requestId : Uuid) (now : Timestamp)
    (request : ApprovalRequest) : Option CreditWorld :=
  let move (stage : ApprovalStage) := w.setRequest requestId (.approval { request with stage })
  match request.stage with
  | .loading =>
    match w.latestDraft with
    | none => some (move (.refused draftNotAvailable))
    | some draft =>
      if draft.id = request.draftId then some (move (.writing draft))
      else some (move (.refused staleNotificationDraft))
  | .writing draft =>
    some ({ w with
            tables := w.tables.ensureGate draft.caseVersion .hgCreditNotificationApproved .satisfied now
              (some request.actorId) (some (dispositionRef draft.id)) }.setRequest requestId
      (.approval { request with stage := .answered draft }))
  | .answered _ | .refused _ => none

/-- `_approval_gate_satisfied`, on the gates of the case version the snapshot has read. -/
def approvalGateSatisfied (w : CreditWorld) (version : CaseVersion) (draft : CreditNotificationDraft) :
    Bool :=
  (w.tables.gates.filter (·.caseVersion = version)).any fun gate =>
    gate.gateType = .hgCreditNotificationApproved ∧ gate.caseVersion = draft.caseVersion ∧
      gate.status = .satisfied

/-- The next step of a delivery: the latest draft, the case version and its gates, the insert. The
trigger that compares the hashes comes before the conflict. -/
def advanceDelivery (w : CreditWorld) (requestId : Uuid) (request : DeliveryRequest) :
    Option CreditWorld :=
  let move (stage : DeliveryStage) := w.setRequest requestId (.delivery { request with stage })
  match request.stage with
  | .loading =>
    match w.latestDraft with
    | none => some (move (.refused draftNotAvailable))
    | some draft =>
      if draft.createdBy = request.actorId then some (move (.refused sameActorForbidden))
      else some (move (.readingVersion draft))
  | .readingVersion draft => some (move (.readingGates draft w.tables.caseVersion))
  | .readingGates draft version =>
    if w.approvalGateSatisfied version draft then some (move (.delivering draft version))
    else some (move (.refused gateNotSatisfied))
  | .delivering draft _ =>
    match w.drafts.find? (·.id = draft.id) with
    | none => some (move .raised)
    | some row =>
      if (request.receipt draft).contentHash = row.contentHash then
        match w.receiptFor draft.id with
        | some existing => some (move (.answered existing.receipt))
        | none =>
          if ∀ other ∈ w.receipts, other.receipt.id ≠ request.newId then
            some ((w.insertReceipt (request.receipt draft)).setRequest requestId
              (.delivery { request with stage := .answered (request.receipt draft) }))
          else some (move .raised)
      else some (move .raised)
  | .answered _ | .refused _ | .raised => none

/-- The next step of a request. -/
def advance (w : CreditWorld) (requestId : Uuid) (seen : Option Uuid) (decisionId snapshotId : Uuid)
    (now : Timestamp) : CreditRequest → Option CreditWorld
  | .decision request => w.advanceDecision requestId seen decisionId snapshotId request
  | .draft request => w.advanceDraft requestId request
  | .approval request => w.advanceApproval requestId now request
  | .delivery request => w.advanceDelivery requestId request

/-- Open a request under a free id. -/
def openRequest (w : CreditWorld) (requestId : Uuid) (request : CreditRequest) : Option CreditWorld :=
  match w.requests requestId with
  | some _ => none
  | none => some (w.setRequest requestId request)

/-- The keys of an artifact row are free: its id, and its task at its version. -/
def ArtifactKeysFree (rows : List ArtifactRow) (row : ArtifactRow) : Prop :=
  ∀ other ∈ rows, other.id ≠ row.id ∧
    ¬ (other.caseVersion = row.caseVersion ∧ other.taskId = row.taskId)

instance (rows : List ArtifactRow) (row : ArtifactRow) : Decidable (ArtifactKeysFree rows row) :=
  inferInstanceAs (Decidable (∀ other ∈ rows, _))

/-- A decision request before its first read; one with an unknown decision type is refused. -/
def decisionRequest (actorId : Uuid) (body : RecordDecisionRequest) :
    Except DecisionRefusal DecisionRequest :=
  match parseDecisionType body.decision with
  | none => .error .invalidDecisionType
  | some decisionType => .ok ⟨actorId, body, decisionType, .reading⟩

/-- The step function. -/
def step (w : CreditWorld) : CreditAction → Option CreditWorld
  | .openDecision requestId actorId body =>
    (decisionRequest actorId body).toOption.bind fun request =>
      w.openRequest requestId (.decision request)
  | .openDraft requestId newId actorId => w.openRequest requestId (.draft ⟨newId, actorId, .reading⟩)
  | .openApproval requestId actorId draftId =>
    w.openRequest requestId (.approval ⟨actorId, draftId, .loading⟩)
  | .openDelivery requestId newId actorId receiptNoteVi =>
    w.openRequest requestId (.delivery ⟨newId, actorId, receiptNoteVi, .loading⟩)
  | .advance requestId seen decisionId snapshotId now =>
    (w.requests requestId).bind (w.advance requestId seen decisionId snapshotId now)
  | .persistArtifact kind row =>
    if ArtifactKeysFree (w.artifacts.get kind) row then
      some { w with artifacts := w.artifacts.add row kind }
    else none
  | .tick caseVersion gateType now =>
    some { w with tables := w.tables.ensureGate caseVersion gateType .opened now none none }
  | .bumpCaseVersion request handoffId =>
    (w.tables.bumpCaseVersion request handoffId).toOption.map fun tables => { w with tables }

/-- A case before its first decision. -/
structure Initial (w : CreditWorld) : Prop where
  noDecision : w.decisions = []
  noSnapshot : w.snapshots = []
  noDraft : w.drafts = []
  noReceipt : w.receipts = []
  noRequest : ∀ id, w.requests id = none

end CreditWorld

end CreditOps.Notifications
