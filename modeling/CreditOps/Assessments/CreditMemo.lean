import CreditOps.Assessments.Checker
import CreditOps.CreditOperations.Package

/-!
# The credit memo

The credit-operations agent drafts a memo over a package that is computed beforehand. Its builder reads
six sections of statements, checks every reference against the three assessments under review, and takes
the state of the risk gate from the package; the assembly puts the memo next to the deterministic parts.
-/

set_option autoImplicit false

namespace CreditOps.Assessments.CreditMemo

open JsonValue Orchestration CreditOperations

/-! ## What the agent inspects -/

/-- `CreditOpsUpstreamView` -/
structure UpstreamView where
  caseId : Uuid
  caseVersion : CaseVersion
  builtAt : Timestamp
  hasIntakeHandoff : Bool
  intakeHandoffId : Option Uuid
  underwriting : Option Underwriting.UnderwritingAssessment
  underwritingExecutionId : Option Uuid
  underwritingHandoffId : Option Uuid
  legal : Option Legal.LegalComplianceAssessment
  legalExecutionId : Option Uuid
  legalHandoffId : Option Uuid
  riskReview : Option RiskReview.RiskReviewAssessment
  riskReviewExecutionId : Option Uuid
  riskReviewHandoffId : Option Uuid

/-- The ids, and the challenges with their severities: what the deterministic package is computed
from. -/
def UpstreamView.summary (view : UpstreamView) : CreditOpsUpstreamView where
  caseVersion := view.caseVersion
  hasIntakeHandoff := view.hasIntakeHandoff
  intakeHandoffId := view.intakeHandoffId
  underwriting := view.underwriting.map (·.id)
  legal := view.legal.map (·.id)
  riskReview := view.riskReview.map fun a =>
    { id := a.id
      caseVersion := a.provenance.caseVersion
      taskId := a.provenance.taskId
      challenges := a.challenges.map fun challenge => (challenge.id, challenge.severity)
      createdAt := a.provenance.createdAt }

/-! ## The index of provenance -/

/-- `ProvenanceIndexEntry` -/
structure ProvenanceIndexEntry where
  artifact : UpstreamArtifactKind
  assessmentId : Option Uuid
  executionId : Option Uuid
  handoffId : Option Uuid
  citationCount : Nat
deriving DecidableEq

/-- `EvidenceConsolidation`; it lists an artifact at most once. -/
structure EvidenceConsolidation where
  entries : List ProvenanceIndexEntry
  distinctCitationCount : Nat
  kinds_nodup : (entries.map (·.artifact)).Nodup
deriving DecidableEq

/-- The number of citations of the items. -/
def countCitations {α Citation : Type} (citations : α → List Citation) (items : List α) : Nat :=
  (items.map fun item => (citations item).length).sum

/-- `_count_underwriting_citations` -/
def countUnderwritingCitations (a : Underwriting.UnderwritingAssessment) : Nat :=
  countCitations (·.citations.1) a.business.findings.1 +
    countCitations (·.citations.1) a.financial.findings.1 +
    countCitations (·.citations.1) a.cashFlow.findings.1 +
    countCitations (·.citations.1) a.repaymentSource.findings.1 +
    countCitations (·.citations.1) a.repaymentSource.downsideScenarios +
    countCitations (·.citations.1) a.proposedStructure.findings.1 +
    countCitations (·.citations.1) a.risks + countCitations (·.citations.1) a.mitigants

/-- `_count_legal_citations` -/
def countLegalCitations (a : Legal.LegalComplianceAssessment) : Nat :=
  countCitations (·.citations.1) a.legalEntityReview.findings.1 +
    countCitations (·.citations.1) a.authoritySignatoryReview.findings.1 +
    countCitations (·.citations.1) a.ownershipConsistency.findings.1 +
    countCitations (·.citations) a.ownershipConsistency.inconsistencies +
    countCitations (·.citations.1) a.policyReview +
    countCitations (·.citations.1) a.collateralReview.documentItems +
    countCitations (·.citations.1) a.collateralReview.ownershipEvidenceFindings.1 +
    countCitations (·.citations.1) a.exceptions

/-- `_count_risk_review_citations` -/
def countRiskReviewCitations (a : RiskReview.RiskReviewAssessment) : Nat :=
  countCitations (·.citations.1) a.challenges + countCitations (·.citations.1) a.omittedRisks +
    countCitations (·.citations.1) a.mitigantAdequacyReviews +
    countCitations (·.citations) a.recommendations

namespace UpstreamView

variable (view : UpstreamView)

def intakeEntry : Option ProvenanceIndexEntry :=
  if view.hasIntakeHandoff then
    view.intakeHandoffId.map fun id => ⟨.intakeHandoff, none, none, some id, 0⟩
  else none

def underwritingEntry : Option ProvenanceIndexEntry :=
  view.underwriting.map fun a =>
    ⟨.underwritingAssessment, some a.id, view.underwritingExecutionId, view.underwritingHandoffId,
      countUnderwritingCitations a⟩

def legalEntry : Option ProvenanceIndexEntry :=
  view.legal.map fun a =>
    ⟨.legalAssessment, some a.id, view.legalExecutionId, view.legalHandoffId, countLegalCitations a⟩

def riskReviewEntry : Option ProvenanceIndexEntry :=
  view.riskReview.map fun a =>
    ⟨.riskReviewAssessment, some a.id, view.riskReviewExecutionId, view.riskReviewHandoffId,
      countRiskReviewCitations a⟩

/-- The entries of the artifacts that are there. -/
def entries : List ProvenanceIndexEntry :=
  view.intakeEntry.toList ++ view.underwritingEntry.toList ++ view.legalEntry.toList ++
    view.riskReviewEntry.toList

theorem intakeEntry_artifact : ∀ entry ∈ view.intakeEntry, entry.artifact = .intakeHandoff := by
  intro entry h
  rw [intakeEntry] at h
  split at h
  · obtain ⟨_, -, rfl⟩ := Option.map_eq_some_iff.1 h
    rfl
  · cases h

theorem underwritingEntry_artifact :
    ∀ entry ∈ view.underwritingEntry, entry.artifact = .underwritingAssessment := by
  intro entry h
  obtain ⟨a, -, rfl⟩ := Option.map_eq_some_iff.1 h
  rfl

theorem legalEntry_artifact : ∀ entry ∈ view.legalEntry, entry.artifact = .legalAssessment := by
  intro entry h
  obtain ⟨a, -, rfl⟩ := Option.map_eq_some_iff.1 h
  rfl

theorem riskReviewEntry_artifact :
    ∀ entry ∈ view.riskReviewEntry, entry.artifact = .riskReviewAssessment := by
  intro entry h
  obtain ⟨a, -, rfl⟩ := Option.map_eq_some_iff.1 h
  rfl

/-- Each artifact has at most one entry. -/
theorem entries_nodup : (view.entries.map (·.artifact)).Nodup := by
  have hkind : ∀ {entry : Option ProvenanceIndexEntry} {kind : UpstreamArtifactKind},
      (∀ e ∈ entry, e.artifact = kind) →
        (entry.toList.map (·.artifact)).Sublist [kind] := by
    intro entry kind h
    cases entry with
    | none => exact List.nil_sublist _
    | some e =>
      rw [Option.toList_some, List.map_singleton, h e rfl]
  have hsub : (view.entries.map (·.artifact)).Sublist
      ([.intakeHandoff] ++ [.underwritingAssessment] ++ [.legalAssessment] ++
        [.riskReviewAssessment]) := by
    rw [entries, List.map_append, List.map_append, List.map_append]
    exact (((hkind view.intakeEntry_artifact).append (hkind view.underwritingEntry_artifact)).append
      (hkind view.legalEntry_artifact)).append (hkind view.riskReviewEntry_artifact)
  exact hsub.nodup (by decide)

end UpstreamView

/-- `consolidate_evidence` -/
def consolidateEvidence (view : UpstreamView) : EvidenceConsolidation where
  entries := view.entries
  distinctCitationCount := (view.entries.map (·.citationCount)).sum
  kinds_nodup := view.entries_nodup

/-! ## The target universe -/

/-- `MemoSource` -/
inductive MemoSource where
  | creditUnderwriting
  | legalComplianceCollateral
  | independentRiskReview
deriving DecidableEq

def MemoSource.value : MemoSource → String
  | .creditUnderwriting => "CREDIT_UNDERWRITING"
  | .legalComplianceCollateral => "LEGAL_COMPLIANCE_COLLATERAL"
  | .independentRiskReview => "INDEPENDENT_RISK_REVIEW"

/-- `MemoFindingRef`, which is all a `MemoFindingCitation` has. -/
structure MemoFindingRef where
  source : MemoSource
  sourceAssessmentId : Uuid
  sectionPath : SizedText 1 200
deriving DecidableEq

/-- `risk_review_target_paths` -/
def riskReviewTargetPaths (a : RiskReview.RiskReviewAssessment) : List String :=
  RiskReview.paths "challenges" a.challenges ++ RiskReview.paths "omitted_risks" a.omittedRisks ++
    RiskReview.paths "mitigant_adequacy_reviews" a.mitigantAdequacyReviews ++
    RiskReview.paths "recommendations" a.recommendations ++
    RiskReview.paths "evidence_gaps" a.evidenceGaps

/-- `MemoTargetUniverse` -/
structure MemoTargetUniverse where
  underwritingAssessmentId : Uuid
  underwritingPaths : List String
  legalAssessmentId : Uuid
  legalPaths : List String
  riskReviewAssessmentId : Uuid
  riskReviewPaths : List String
deriving DecidableEq

/-- `MemoTargetUniverse.contains` -/
def MemoTargetUniverse.contains (targets : MemoTargetUniverse) (ref : MemoFindingRef) : Bool :=
  match ref.source with
  | .creditUnderwriting =>
    ref.sourceAssessmentId = targets.underwritingAssessmentId ∧
      ref.sectionPath.text ∈ targets.underwritingPaths
  | .legalComplianceCollateral =>
    ref.sourceAssessmentId = targets.legalAssessmentId ∧ ref.sectionPath.text ∈ targets.legalPaths
  | .independentRiskReview =>
    ref.sourceAssessmentId = targets.riskReviewAssessmentId ∧
      ref.sectionPath.text ∈ targets.riskReviewPaths

/-- `target_universe_for`; none where an assessment is missing, which the assertions exclude. -/
def targetUniverseFor (view : UpstreamView) : Option MemoTargetUniverse :=
  match view.underwriting, view.legal, view.riskReview with
  | some underwriting, some legal, some riskReview =>
    some
      { underwritingAssessmentId := underwriting.id
        underwritingPaths := RiskReview.underwritingTargetPaths underwriting
        legalAssessmentId := legal.id
        legalPaths := RiskReview.legalTargetPaths legal
        riskReviewAssessmentId := riskReview.id
        riskReviewPaths := riskReviewTargetPaths riskReview }
  | _, _, _ => none

/-! ## The memo -/

/-- `MemoStatement` -/
structure MemoStatement where
  statementVi : SizedText 1 4000
  citations : NonemptyList MemoFindingRef
deriving DecidableEq

/-- `MemoSection` -/
structure MemoSection where
  statements : NonemptyList MemoStatement
deriving DecidableEq

/-- `ChallengeStatusSection` -/
structure ChallengeStatusSection where
  statements : NonemptyList MemoStatement
  dispositionStatusVi : SizedText 1 2000
deriving DecidableEq

/-- `DraftCreditMemo`; the disclaimer in its header has one value. -/
structure DraftCreditMemo where
  tomTatNhuCau : MemoSection
  phanTichMaker : MemoSection
  raSoatPhapLyTsbd : MemoSection
  thachThucChecker : ChallengeStatusSection
  dieuKienDeXuat : MemoSection
  phuLucBangChung : MemoSection
deriving DecidableEq

/-- The statements of a memo. -/
def DraftCreditMemo.statements (memo : DraftCreditMemo) : List MemoStatement :=
  memo.tomTatNhuCau.statements.1 ++ memo.phanTichMaker.statements.1 ++
    memo.raSoatPhapLyTsbd.statements.1 ++ memo.dieuKienDeXuat.statements.1 ++
    memo.phuLucBangChung.statements.1 ++ memo.thachThucChecker.statements.1

/-- `_iter_citations` -/
def DraftCreditMemo.iterCitations (memo : DraftCreditMemo) : List MemoFindingRef :=
  memo.statements.flatMap (·.citations.1)

/-! ## The builder -/

section Builder

variable (str : JsonValue → String)

/-- The reading of a reference's fields; what it raises is raised anew. -/
def refFields (raw : Mapping) : Except BuildFault MemoFindingRef := do
  let source ← chosen [.creditUnderwriting, .legalComplianceCollateral, .independentRiskReview]
    MemoSource.value (getText str raw "source")
  let sourceAssessmentId ← uuidFrom (getText str raw "source_assessment_id")
  let sectionPath ← validated "MemoFindingRef" "section_path"
    (SizedText.ofText? 1 200 (getText str raw "section_path"))
  return { source, sourceAssessmentId, sectionPath }

/-- `_ref_from` -/
def refFrom (targets : MemoTargetUniverse) (raw : Mapping) : Except BuildFault MemoFindingRef := do
  let ref ← (refFields str raw).mapError fun _ =>
    .outputInvalid "invalid memo finding reference: " [.object raw]
  require (.outputInvalid "reference does not resolve in reviewed assessments: " [])
    (targets.contains ref = true)
  return ref

/-- One element of `_citations_from`. -/
def citationFrom (targets : MemoTargetUniverse) (value : JsonValue) :
    Except BuildFault MemoFindingRef := do
  let item ← asItem value
  match item.lookup "kind" with
  | some (.string "MEMO_FINDING") =>
    match (item.lookup "ref").bind mapping? with
    | none => .error (.outputInvalid "MEMO_FINDING citation missing ref" [])
    | some raw => refFrom str targets raw
  | kind => .error (.outputInvalid "unsupported citation kind: " kind.toList)

/-- One element of `statements`. -/
def statementFrom (targets : MemoTargetUniverse) (item : Mapping) :
    Except BuildFault MemoStatement := do
  let citations ← citationsAt (citationFrom str targets) item "citations"
  let statementVi ← validated "MemoStatement" "statement_vi"
    (SizedText.ofText? 1 4000 (getText str item "statement_vi"))
  let citations ← validated "MemoStatement" "citations" (NonemptyList.ofList? citations)
  return { statementVi, citations }

/-- `_section_from` -/
def sectionFrom (payload : Mapping) (key : String) (targets : MemoTargetUniverse) :
    Except BuildFault MemoSection :=
  match (payload.lookup key).bind mapping? with
  | none => .error (.outputInvalid ("missing memo section: " ++ key) [])
  | some raw =>
    match (raw.lookup "statements").bind list? with
    | none | some [] => .error (.outputInvalid ("memo section " ++ key ++ " has no statements") [])
    | some rawStatements => do
      let statements ← (mappings rawStatements).mapM (statementFrom str targets)
      match NonemptyList.ofList? statements with
      | none =>
        .error (.outputInvalid ("memo section " ++ key ++ " produced no valid statements") [])
      | some statements => .ok { statements }

/-- The reading of the six sections, the checker's last. -/
def memoFrom (payload : Mapping) (targets : MemoTargetUniverse) (dispositionStatusVi : String) :
    Except BuildFault DraftCreditMemo := do
  let tomTatNhuCau ← sectionFrom str payload "tom_tat_nhu_cau" targets
  let phanTichMaker ← sectionFrom str payload "phan_tich_maker" targets
  let raSoatPhapLyTsbd ← sectionFrom str payload "ra_soat_phap_ly_tsbd" targets
  let dieuKienDeXuat ← sectionFrom str payload "dieu_kien_de_xuat" targets
  let phuLucBangChung ← sectionFrom str payload "phu_luc_bang_chung" targets
  let challenges ← sectionFrom str payload "thach_thuc_checker" targets
  let dispositionStatusVi ← validated "ChallengeStatusSection" "disposition_status_vi"
    (SizedText.ofText? 1 2000 dispositionStatusVi)
  return { tomTatNhuCau, phanTichMaker, raSoatPhapLyTsbd
           thachThucChecker := ⟨challenges.statements, dispositionStatusVi⟩
           dieuKienDeXuat, phuLucBangChung }

/-- `BuildMemo.build` -/
def build (payload : Mapping) (targets : MemoTargetUniverse) (dispositionStatusVi : String) :
    Except BuildFault DraftCreditMemo :=
  (memoFrom str payload targets dispositionStatusVi).mapError
    (BuildFault.wrapped "credit-ops memo output rejected: ")

end Builder

/-! ## The package -/

/-- `DeterministicCreditOpsPackage`, with the index of provenance. -/
structure DeterministicPackage extends DeterministicCreditOpsPackage where
  evidenceConsolidation : EvidenceConsolidation

/-- `compute_deterministic_package` -/
def computePackage (view : UpstreamView) (openGaps : List EvidenceGap)
    (dispositions : List ChallengeDispositionSummary) (draw : Nat → Uuid) :
    Option DeterministicPackage :=
  (computeDeterministicPackage view.summary openGaps dispositions draw).map fun package =>
    ⟨package, consolidateEvidence view⟩

/-- `AssemblerRunContext`, with the model and the endpoint that answered. -/
structure AssemblerRun where
  taskId : Uuid
  executionId : Uuid
  modelId : String
  endpointId : String
deriving DecidableEq

/-- `CREDIT_OPS_PROMPT_VERSION` -/
def promptVersion : String := "credit-ops-prompt-v1"

/-- `CreditOpsProvenance` -/
structure CreditOpsProvenance where
  caseId : Uuid
  caseVersion : CaseVersion
  executionId : Uuid
  taskId : Uuid
  promptVersion : String
  modelId : String
  endpointId : String
  evidenceViewBuiltAt : Timestamp
  createdAt : Timestamp
  intakeHandoffId : Option Uuid
  underwritingAssessmentId : Option Uuid
  underwritingExecutionId : Option Uuid
  legalAssessmentId : Option Uuid
  legalExecutionId : Option Uuid
  riskReviewAssessmentId : Option Uuid
  riskReviewExecutionId : Option Uuid
  versionPositive : 1 ≤ caseVersion
  textsNonempty : promptVersion ≠ "" ∧ modelId ≠ "" ∧ endpointId ≠ ""

def makeProvenance (view : UpstreamView) (run : AssemblerRun) (now : Timestamp) :
    Except BuildFault CreditOpsProvenance :=
  if hver : 1 ≤ view.caseVersion then
    if htexts : promptVersion ≠ "" ∧ run.modelId ≠ "" ∧ run.endpointId ≠ "" then
      .ok ⟨view.caseId, view.caseVersion, run.executionId, run.taskId, promptVersion, run.modelId,
        run.endpointId, view.builtAt, now, view.intakeHandoffId, view.underwriting.map (·.id),
        view.underwritingExecutionId, view.legal.map (·.id), view.legalExecutionId,
        view.riskReview.map (·.id), view.riskReviewExecutionId, hver, htexts⟩
    else .error (.validation "CreditOpsProvenance" "model_id")
  else .error (.validation "CreditOpsProvenance" "case_version")

/-- `expected_assessment_id` -/
def CreditOpsProvenance.assessmentId (provenance : CreditOpsProvenance) : MemoSource → Option Uuid
  | .creditUnderwriting => provenance.underwritingAssessmentId
  | .legalComplianceCollateral => provenance.legalAssessmentId
  | .independentRiskReview => provenance.riskReviewAssessmentId

/-- `CreditOpsPackage`: the drafted package with its provenance and the memo, whose citations are of the
assessments in the provenance. -/
structure Package extends CreditOpsPackage where
  provenance : CreditOpsProvenance
  evidenceConsolidation : EvidenceConsolidation
  draftMemo : DraftCreditMemo
  citationsRecorded : ∀ ref ∈ draftMemo.iterCitations,
    provenance.assessmentId ref.source = some ref.sourceAssessmentId

/-- `assemble_package` -/
def assemble (view : UpstreamView) (deterministic : DeterministicPackage) (memo : DraftCreditMemo)
    (run : AssemblerRun) (now : Timestamp) (packageId : Uuid) : Except BuildFault Package := do
  let provenance ← makeProvenance view run now
  match assemblePackage view.summary deterministic.toDeterministicCreditOpsPackage run.taskId
      packageId with
  | none => .error (.validation "CreditOpsPackage" "")
  | some package =>
    if h : ∀ ref ∈ memo.iterCitations,
        provenance.assessmentId ref.source = some ref.sourceAssessmentId then
      .ok { package with
            provenance
            evidenceConsolidation := deterministic.evidenceConsolidation
            draftMemo := memo
            citationsRecorded := h }
    else .error (.validation "CreditOpsPackage" "")

/-! ## What the builder ensures -/

section Builder

variable {str : JsonValue → String} {targets : MemoTargetUniverse}

theorem refFrom_contained (raw : Mapping) :
    Ensures (refFrom str targets raw) fun ref => targets.contains ref = true := by
  refine Ensures.bind (Ensures.self _) fun ref _ => ?_
  refine Ensures.bind ensures_require fun _ hcontained => ?_
  exact Ensures.ok hcontained

/-- **The reader of a citation.** What it accepts is in the target universe. -/
theorem citationFrom_contained (value : JsonValue) :
    Ensures (citationFrom str targets value) fun ref => targets.contains ref = true := by
  refine Ensures.bind (Ensures.self _) fun item _ => ?_
  split
  · split
    · exact Ensures.error _
    · exact refFrom_contained _
  · exact Ensures.error _

/-- The statement cites something, and what it cites is in the universe. -/
def MemoStatement.Grounded (targets : MemoTargetUniverse) (statement : MemoStatement) : Prop :=
  statement.citations.1 ≠ [] ∧ ∀ ref ∈ statement.citations.1, targets.contains ref = true

theorem statementFrom_grounded (item : Mapping) :
    Ensures (statementFrom str targets item) (MemoStatement.Grounded targets) := by
  refine Ensures.bind (citationsAt_ensures citationFrom_contained item _) fun refs hrefs => ?_
  refine Ensures.bind (Ensures.self _) fun statement _ => ?_
  refine Ensures.bind (Ensures.self _) fun citations hcits => ?_
  apply Ensures.ok
  refine ⟨citations.2, ?_⟩
  intro ref hmem
  rw [NonemptyList.val_of_ofList? (validated_eq_ok hcits)] at hmem
  exact hrefs ref hmem

theorem sectionFrom_grounded (payload : Mapping) (key : String) :
    Ensures (sectionFrom str payload key targets) fun part =>
      ∀ statement ∈ part.statements.1, statement.Grounded targets := by
  unfold sectionFrom
  split
  · exact Ensures.error _
  · split
    · exact Ensures.error _
    · exact Ensures.error _
    · refine Ensures.bind (Ensures.mapM statementFrom_grounded _) fun statements hstmts => ?_
      split
      · exact Ensures.error _
      · next hsome =>
        apply Ensures.ok
        rw [NonemptyList.val_of_ofList? hsome]
        exact hstmts

/-- What the builder promises of a memo. -/
structure DraftCreditMemo.Drafted (targets : MemoTargetUniverse) (dispositionStatusVi : String)
    (memo : DraftCreditMemo) : Prop where
  statements : ∀ statement ∈ memo.statements, statement.Grounded targets
  dispositionStatusVi : memo.thachThucChecker.dispositionStatusVi.text = dispositionStatusVi

/-- **Every statement of a memo cites the assessments**, and the state of the gate is the one given. -/
theorem build_cites (payload : Mapping) (dispositionStatusVi : String) :
    Ensures (build str payload targets dispositionStatusVi)
      (DraftCreditMemo.Drafted targets dispositionStatusVi) := by
  apply Ensures.mapError
  refine Ensures.bind (sectionFrom_grounded payload _) fun needs hneeds => ?_
  refine Ensures.bind (sectionFrom_grounded payload _) fun maker hmaker => ?_
  refine Ensures.bind (sectionFrom_grounded payload _) fun legal hlegal => ?_
  refine Ensures.bind (sectionFrom_grounded payload _) fun terms hterms => ?_
  refine Ensures.bind (sectionFrom_grounded payload _) fun annex hannex => ?_
  refine Ensures.bind (sectionFrom_grounded payload _) fun checker hchecker => ?_
  refine Ensures.bind (Ensures.self _) fun status hstat => ?_
  apply Ensures.ok
  refine ⟨?_, SizedText.text_of_ofText? (validated_eq_ok hstat)⟩
  intro statement hmem
  simp only [DraftCreditMemo.statements, List.mem_append] at hmem
  rcases hmem with ((((hmem | hmem) | hmem) | hmem) | hmem) | hmem
  · exact hneeds statement hmem
  · exact hmaker statement hmem
  · exact hlegal statement hmem
  · exact hterms statement hmem
  · exact hannex statement hmem
  · exact hchecker statement hmem

end Builder

end CreditOps.Assessments.CreditMemo
