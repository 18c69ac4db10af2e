import CreditOps.RiskReview.Dispositions

/-!
# The credit-operations package

The deterministic part of the package, computed before any model is asked: the checklist of upstream
artifacts with the state of the risk gate, one drafted document request an open gap, and the proposed
actions that need an authorization each. The model drafts the memo and nothing else.
-/

set_option autoImplicit false

namespace CreditOps.CreditOperations

open Orchestration RiskReview

/-! ## The checklist -/

/-- The upstream artifacts of the checklist. -/
inductive UpstreamArtifactKind where
  | intakeHandoff
  | underwritingAssessment
  | legalAssessment
  | riskReviewAssessment
deriving DecidableEq

/-- What the checklist calls an artifact. -/
def UpstreamArtifactKind.nameVi : UpstreamArtifactKind → String
  | .intakeHandoff => "ban ban giao tiep nhan (intake handoff)"
  | .underwritingAssessment => "ban danh gia tham dinh tin dung (underwriting)"
  | .legalAssessment => "ban ra soat phap ly/tuan thu/TSBD"
  | .riskReviewAssessment => "ban ra soat rui ro doc lap"

/-- Whether an artifact was found. -/
inductive ChecklistItemStatus where
  | present
  | missing
deriving DecidableEq

/-- One check; an item carries a reference exactly if its artifact is present. -/
structure PackageChecklistItem where
  artifact : UpstreamArtifactKind
  status : ChecklistItemStatus
  detailVi : String
  referenceId : Option Uuid
  reference_matches_status : status = .present ↔ referenceId.isSome = true

/-- The check of one artifact, which is there exactly if it has a reference. -/
def checklistItem (artifact : UpstreamArtifactKind) : Option Uuid → PackageChecklistItem
  | some reference =>
    { artifact
      status := .present
      detailVi := "Da co " ++ artifact.nameVi ++ " cho phien ban ho so nay."
      referenceId := some reference
      reference_matches_status := iff_of_true rfl rfl }
  | none =>
    { artifact
      status := .missing
      detailVi := "Chua co " ++ artifact.nameVi ++ " cho phien ban ho so nay."
      referenceId := none
      reference_matches_status := iff_of_false nofun nofun }

/-- The checklist with the state of the risk gate; it lists an artifact at most once. -/
structure PackageCompleteness where
  artifacts : List PackageChecklistItem
  dispositionsStateVi : String
  unresolvedChallengeCount : Nat
  openBlockingGapCount : Nat
  allRequiredPresent : Bool
  allRequiredPresent_consistent : allRequiredPresent = artifacts.all (·.status = .present)
  kinds_nodup : (artifacts.map (·.artifact)).Nodup

/-- What the worker has read of the upstream agents for the case version: the ids of their artifacts, and
the assessment of the checker. -/
structure CreditOpsUpstreamView where
  caseVersion : CaseVersion
  hasIntakeHandoff : Bool
  intakeHandoffId : Option Uuid
  underwriting : Option Uuid
  legal : Option Uuid
  riskReview : Option RiskReviewAssessment
deriving DecidableEq

/-- `is_complete` -/
def CreditOpsUpstreamView.isComplete (view : CreditOpsUpstreamView) : Bool :=
  view.hasIntakeHandoff && view.underwriting.isSome && view.legal.isSome && view.riskReview.isSome

/-- The four checks. -/
def checklist (view : CreditOpsUpstreamView) : List PackageChecklistItem :=
  [checklistItem .intakeHandoff (if view.hasIntakeHandoff then view.intakeHandoffId else none),
    checklistItem .underwritingAssessment view.underwriting,
    checklistItem .legalAssessment view.legal,
    checklistItem .riskReviewAssessment (view.riskReview.map (·.id))]

@[simp] theorem checklistItem_artifact (artifact : UpstreamArtifactKind) (reference : Option Uuid) :
    (checklistItem artifact reference).artifact = artifact := by
  cases reference <;> rfl

theorem checklist_artifacts (view : CreditOpsUpstreamView) :
    (checklist view).map (·.artifact) =
      [.intakeHandoff, .underwritingAssessment, .legalAssessment, .riskReviewAssessment] := by
  simp only [checklist, List.map_cons, List.map_nil, checklistItem_artifact]

theorem checklist_nodup (view : CreditOpsUpstreamView) :
    ((checklist view).map (·.artifact)).Nodup := by
  rw [checklist_artifacts]
  decide

/-- `compute_package_completeness` -/
def computePackageCompleteness (view : CreditOpsUpstreamView) (dispositionsStateVi : String)
    (unresolvedChallengeCount openBlockingGapCount : Nat) : PackageCompleteness where
  artifacts := checklist view
  dispositionsStateVi := dispositionsStateVi
  unresolvedChallengeCount := unresolvedChallengeCount
  openBlockingGapCount := openBlockingGapCount
  allRequiredPresent := (checklist view).all (·.status = .present)
  allRequiredPresent_consistent := rfl
  kinds_nodup := checklist_nodup view

/-! ## Document requests and actions -/

/-- One drafted document request; nothing sends it. -/
structure DocumentRequest where
  id : Uuid
  originatingGapId : Uuid
  requestTextVi : String
  blockingLevel : GapBlockingLevel
  requestTextVi_fits : FitsText requestTextVi

/-- The document request of a gap; none when its text does not fit. -/
def documentRequest? (gap : EvidenceGap) (id : Uuid) : Option DocumentRequest :=
  let requestTextVi := "De nghi khach hang/don vi lien quan bo sung: " ++ gap.missingInformationVi
  if h : FitsText requestTextVi then
    some
      { id
        originatingGapId := gap.id
        requestTextVi
        blockingLevel := gap.blockingLevel
        requestTextVi_fits := h }
  else none

/-- `consolidate_document_requests`, with the uuids drawn for the requests. -/
def consolidateDocumentRequests (openGaps : List EvidenceGap) (draw : Nat → Uuid) :
    Option (List DocumentRequest) :=
  (openGaps.filter (·.status.isOpen)).zipIdx.mapM fun p => documentRequest? p.1 (draw p.2)

/-- The types of a proposed action. -/
inductive ProposedActionType where
  | prepareDocumentRequest
  | scheduleMockLosEntry
  | prepareHandoffPackage
deriving DecidableEq

/-- One proposed action, drafted for an authorization; nothing executes it. -/
structure ProposedAction where
  id : Uuid
  actionType : ProposedActionType
  descriptionVi : String
  relatedDocumentRequestId : Option Uuid
  descriptionVi_fits : FitsText descriptionVi

/-- A proposed action; none when its description does not fit. -/
def proposedAction? (id : Uuid) (actionType : ProposedActionType) (descriptionVi : String)
    (relatedDocumentRequestId : Option Uuid) : Option ProposedAction :=
  if h : FitsText descriptionVi then
    some ⟨id, actionType, descriptionVi, relatedDocumentRequestId, h⟩
  else none

/-- The action that prepares one document request. -/
def prepareAction? (id : Uuid) (request : DocumentRequest) : Option ProposedAction :=
  proposedAction? id .prepareDocumentRequest
    ("Chuan bi yeu cau bo sung tai lieu (chi soan thao, cho phe duyet cua con nguoi): " ++
      request.requestTextVi)
    (some request.id)

/-- The entry into the mock loan system. -/
def losEntryAction? (id : Uuid) : Option ProposedAction :=
  proposedAction? id .scheduleMockLosEntry
    ("De xuat lich nhap lieu vao he thong LOS mo phong (mock) sau khi ho so day du va duoc con " ++
      "nguoi uy quyen.")
    none

/-- The handoff of the package. -/
def handoffAction? (id : Uuid) : Option ProposedAction :=
  proposedAction? id .prepareHandoffPackage
    "Chuan bi goi ho so ban giao cho nguoi ra quyet dinh tin dung." none

/-- `build_proposed_actions`: one action a document request, the entry once the package is complete, and
always the handoff. -/
def buildProposedActions (documentRequests : List DocumentRequest) (packageComplete : Bool)
    (draw : Nat → Uuid) : Option (List ProposedAction) := do
  let prepared ← documentRequests.zipIdx.mapM fun p => prepareAction? (draw p.2) p.1
  if packageComplete then
    let entry ← losEntryAction? (draw documentRequests.length)
    let handoff ← handoffAction? (draw (documentRequests.length + 1))
    some (prepared ++ [entry, handoff])
  else
    let handoff ← handoffAction? (draw documentRequests.length)
    some (prepared ++ [handoff])

theorem actionType_of_handoffAction? {id : Uuid} {action : ProposedAction}
    (h : handoffAction? id = some action) : action.actionType = .prepareHandoffPackage := by
  simp only [handoffAction?, proposedAction?] at h
  split_ifs at h
  cases h
  rfl

/-- **The handoff is always proposed.** -/
theorem handoff_mem_buildProposedActions {documentRequests : List DocumentRequest}
    {packageComplete : Bool} {draw : Nat → Uuid} {actions : List ProposedAction}
    (h : buildProposedActions documentRequests packageComplete draw = some actions) :
    ∃ action ∈ actions, action.actionType = .prepareHandoffPackage := by
  obtain ⟨_, -, hrest⟩ := Option.bind_eq_some_iff.1 h
  cases packageComplete with
  | true =>
    rw [if_pos rfl] at hrest
    obtain ⟨_, -, hrest⟩ := Option.bind_eq_some_iff.1 hrest
    obtain ⟨handoff, hhandoff, hactions⟩ := Option.bind_eq_some_iff.1 hrest
    cases hactions
    refine ⟨handoff, ?_, actionType_of_handoffAction? hhandoff⟩
    exact List.mem_append_right _ (List.mem_cons_of_mem _ List.mem_cons_self)
  | false =>
    rw [if_neg nofun] at hrest
    obtain ⟨handoff, hhandoff, hactions⟩ := Option.bind_eq_some_iff.1 hrest
    cases hactions
    exact ⟨handoff, List.mem_append_right _ List.mem_cons_self,
      actionType_of_handoffAction? hhandoff⟩

/-! ## The risk gate as the package reports it -/

/-- One human disposition, as the worker reads it. -/
structure ChallengeDispositionSummary where
  challengeId : Option Uuid
  dispositionType : DispositionType
deriving DecidableEq

/-- The latest disposition of a challenge, or of the assessment level; the list is in recording order. -/
def latestOf (dispositions : List ChallengeDispositionSummary) (challengeId : Option Uuid) :
    Option DispositionType :=
  ((dispositions.filter (·.challengeId = challengeId)).getLast?).map (·.dispositionType)

/-- The derivation of the risk gate from what the worker has read. -/
def reportedG3Status (view : CreditOpsUpstreamView)
    (dispositions : List ChallengeDispositionSummary) : GateStatus :=
  deriveG3Status view.riskReview.isSome ((view.riskReview.map (·.challenges)).getD [])
    (fun id => latestOf dispositions (some id)) (latestOf dispositions none) g3SeverityThreshold

theorem exists_of_latestOf {dispositions : List ChallengeDispositionSummary}
    {challengeId : Option Uuid} {dispositionType : DispositionType}
    (h : latestOf dispositions challengeId = some dispositionType) :
    ∃ disposition ∈ dispositions, disposition.challengeId = challengeId ∧
      disposition.dispositionType = dispositionType := by
  obtain ⟨disposition, hlast, rfl⟩ := Option.map_eq_some_iff.1 h
  obtain ⟨hmem, hchal⟩ := List.mem_filter.1 (List.mem_of_getLast? hlast)
  exact ⟨disposition, hmem, of_decide_eq_true hchal, rfl⟩

/-- **The package never reports a satisfied risk gate without a disposition.** -/
theorem reportedG3Status_backed {view : CreditOpsUpstreamView}
    {dispositions : List ChallengeDispositionSummary}
    (h : reportedG3Status view dispositions = .satisfied) :
    ∃ disposition ∈ dispositions, continues (some disposition.dispositionType) = true := by
  unfold reportedG3Status at h
  cases hreview : view.riskReview with
  | none =>
    rw [hreview] at h
    cases h
  | some record =>
    rw [hreview] at h
    obtain ⟨hlatest, hempty⟩ := deriveG3Status_satisfied_iff.1 h
    obtain ⟨challengeId, hcontinues⟩ :
        ∃ challengeId, continues (latestOf dispositions challengeId) = true := by
      cases hsevere : severeIds record.challenges g3SeverityThreshold with
      | nil => exact ⟨none, hempty hsevere⟩
      | cons id => exact ⟨some id, hlatest id (hsevere ▸ List.mem_cons_self)⟩
    obtain ⟨_, hdisposed, htype⟩ := (Option.any_eq_true _ _).1 hcontinues
    obtain ⟨disposition, hmem, -, rfl⟩ := exists_of_latestOf hdisposed
    exact ⟨disposition, hmem, htype⟩

/-- `_dispositions_state_vi` -/
def dispositionsStateVi (status : GateStatus) (unresolvedChallengeCount : Nat) : String :=
  match status with
  | .satisfied =>
    "G3_RISK_DISPOSITION: DA XU LY (SATISFIED) - moi thach thuc nghiem trong tu muc HIGH tro len " ++
      "(hoac su vang mat cua chung) da duoc con nguoi ghi nhan quyet dinh."
  | .opened =>
    "G3_RISK_DISPOSITION: CHUA XU LY (OPEN) - con " ++ toString unresolvedChallengeCount ++
      " thach thuc chua co quyet dinh cua con nguoi co tham quyen."

/-- The challenges without a disposition. -/
def unresolvedChallengeCount (view : CreditOpsUpstreamView)
    (dispositions : List ChallengeDispositionSummary) : Nat :=
  ((view.riskReview.map (·.challenges)).getD []).countP fun challenge =>
    (latestOf dispositions (some challenge.1)).isNone

/-! ## The package -/

/-- What is computed before inference. -/
structure DeterministicCreditOpsPackage where
  packageCompleteness : PackageCompleteness
  documentRequests : List DocumentRequest
  proposedActions : List ProposedAction

/-- `compute_deterministic_package`, with the uuids drawn on the way; none when a text does not fit. -/
def computeDeterministicPackage (view : CreditOpsUpstreamView) (openGaps : List EvidenceGap)
    (dispositions : List ChallengeDispositionSummary) (draw : Nat → Uuid) :
    Option DeterministicCreditOpsPackage := do
  let unresolved := unresolvedChallengeCount view dispositions
  let completeness := computePackageCompleteness view
    (dispositionsStateVi (reportedG3Status view dispositions) unresolved) unresolved
    (openGaps.countP (·.blockingLevel = .blocking))
  let documentRequests ← consolidateDocumentRequests openGaps draw
  let proposedActions ← buildProposedActions documentRequests completeness.allRequiredPresent
    fun n => draw (documentRequests.length + n)
  some ⟨completeness, documentRequests, proposedActions⟩

/-- A package with its validators. -/
structure CreditOpsPackage where
  id : Uuid
  caseVersion : CaseVersion
  taskId : Uuid
  packageCompleteness : PackageCompleteness
  documentRequests : List DocumentRequest
  proposedActions : List ProposedAction
  documentRequestIds_nodup : (documentRequests.map (·.id)).Nodup
  actionIds_nodup : (proposedActions.map (·.id)).Nodup
  actions_known : ∀ action ∈ proposedActions, ∀ id, action.relatedDocumentRequestId = some id →
    id ∈ documentRequests.map (·.id)

/-- The ids in `proposed_actions`. -/
def CreditOpsPackage.actionIds (package : CreditOpsPackage) : List Uuid :=
  package.proposedActions.map (·.id)

/-- `assemble_package`; none when a validator refuses. -/
def assemblePackage (view : CreditOpsUpstreamView) (deterministic : DeterministicCreditOpsPackage)
    (taskId packageId : Uuid) : Option CreditOpsPackage :=
  if h : (deterministic.documentRequests.map (·.id)).Nodup ∧
      (deterministic.proposedActions.map (·.id)).Nodup ∧
      ∀ action ∈ deterministic.proposedActions, ∀ id ∈ action.relatedDocumentRequestId,
        id ∈ deterministic.documentRequests.map (·.id) then
    some
      { id := packageId
        caseVersion := view.caseVersion
        taskId
        packageCompleteness := deterministic.packageCompleteness
        documentRequests := deterministic.documentRequests
        proposedActions := deterministic.proposedActions
        documentRequestIds_nodup := h.1
        actionIds_nodup := h.2.1
        actions_known := h.2.2 }
  else none

/-- What the worker drafts for a task from what it has read. -/
def draftPackage (view : CreditOpsUpstreamView) (openGaps : List EvidenceGap)
    (dispositions : List ChallengeDispositionSummary) (taskId packageId : Uuid)
    (draw : Nat → Uuid) : Option CreditOpsPackage :=
  (computeDeterministicPackage view openGaps dispositions draw).bind fun deterministic =>
    assemblePackage view deterministic taskId packageId

section Draft

variable {view : CreditOpsUpstreamView} {openGaps : List EvidenceGap}
  {dispositions : List ChallengeDispositionSummary} {taskId packageId : Uuid} {draw : Nat → Uuid}
  {package : CreditOpsPackage}

theorem draftPackage_eq_some
    (h : draftPackage view openGaps dispositions taskId packageId draw = some package) :
    package.id = packageId ∧ package.caseVersion = view.caseVersion ∧ package.taskId = taskId ∧
      ∃ packageComplete draw', buildProposedActions package.documentRequests packageComplete draw' =
        some package.proposedActions := by
  obtain ⟨_, hdet, hassemble⟩ := Option.bind_eq_some_iff.1 h
  obtain ⟨_, -, hrest⟩ := Option.bind_eq_some_iff.1 hdet
  obtain ⟨_, hactions, hsome⟩ := Option.bind_eq_some_iff.1 hrest
  cases hsome
  unfold assemblePackage at hassemble
  split_ifs at hassemble
  cases hassemble
  exact ⟨rfl, rfl, rfl, _, _, hactions⟩

/-- **A drafted package proposes its handoff**, whatever the worker has read. -/
theorem handoff_mem_proposedActions
    (h : draftPackage view openGaps dispositions taskId packageId draw = some package) :
    ∃ action ∈ package.proposedActions, action.actionType = .prepareHandoffPackage := by
  obtain ⟨-, -, -, _, _, hactions⟩ := draftPackage_eq_some h
  exact handoff_mem_buildProposedActions hactions

end Draft

end CreditOps.CreditOperations
