import CreditOps.Assessments.Domain
import CreditOps.Domain.Calendar
import CreditOps.Evidence.Views

/-!
# The legal reviewer's deterministic pre-analysis

Before the language model is asked, the reviewer evaluates the checklist of collateral documents and
compares the registered name of the entity with the recorded owner of the collateral. Both are computed
from the confirmed facts of the view, and what they cite are facts of the view
(`evaluateCollateralChecklist_cites`, `checkOwnershipConsistency_cites`).
-/

set_option autoImplicit false

namespace CreditOps.Assessments.Legal

open Evidence

/-! ## Citations and checks -/

/-- The clause a policy citation or a retrieval hit names, with the quoted text. -/
structure PolicyKey where
  corpusId : String
  corpusVersion : String
  documentId : String
  clauseId : String
  quotedTextVi : String
deriving DecidableEq

/-- `PolicyCitation` and `PolicyHitRecord`, which have the same fields and bounds. -/
structure PolicyCitation where
  corpusId : SizedText 1 200
  corpusVersion : SizedText 1 50
  documentId : SizedText 1 200
  clauseId : SizedText 1 50
  quotedTextVi : SizedText 1 2000
deriving DecidableEq

def PolicyCitation.key (citation : PolicyCitation) : PolicyKey where
  corpusId := citation.corpusId.text
  corpusVersion := citation.corpusVersion.text
  documentId := citation.documentId.text
  clauseId := citation.clauseId.text
  quotedTextVi := citation.quotedTextVi.text

/-- The citation of a clause, where its texts are within their bounds. -/
def makePolicyCitation (model : String) (key : PolicyKey) : Except BuildFault PolicyCitation := do
  let corpusId ← validated model "corpus_id" (SizedText.ofText? 1 200 key.corpusId)
  let corpusVersion ← validated model "corpus_version" (SizedText.ofText? 1 50 key.corpusVersion)
  let documentId ← validated model "document_id" (SizedText.ofText? 1 200 key.documentId)
  let clauseId ← validated model "clause_id" (SizedText.ofText? 1 50 key.clauseId)
  let quotedTextVi ← validated model "quoted_text_vi" (SizedText.ofText? 1 2000 key.quotedTextVi)
  return { corpusId, corpusVersion, documentId, clauseId, quotedTextVi }

/-- `EvidenceCitation` -/
inductive EvidenceCitation where
  | confirmedFact (confirmedFactId : Uuid)
  | documentRegion (documentVersionId : Uuid) (region : SizedText 1 500)
  | policy (citation : PolicyCitation)
  | controlledCheck (invocationId : Uuid)
deriving DecidableEq

/-- `ControlledCheckType` -/
inductive ControlledCheckType where
  | kyc
  | amlWatchlist
  | relatedParty
deriving DecidableEq

def ControlledCheckType.value : ControlledCheckType → String
  | .kyc => "KYC"
  | .amlWatchlist => "AML_WATCHLIST"
  | .relatedParty => "RELATED_PARTY"

/-- `ControlledCheckStatus` -/
inductive ControlledCheckStatus where
  | clear
  | hit
  | inconclusive
deriving DecidableEq

/-- `ControlledCheckResult`, and its record on the assessment. -/
structure ControlledCheckResult where
  invocationId : Uuid
  checkType : ControlledCheckType
  providerId : SizedText 1 100
  toolName : SizedText 1 200
  toolVersion : SizedText 1 50
  subjectRefVi : SizedText 1 300
  status : ControlledCheckStatus
  resultSummaryVi : SizedText 1 1000
  invokedAt : Timestamp
  isMock : Bool
deriving DecidableEq

/-- `MissingControlledCheck` -/
structure MissingControlledCheck where
  checkType : ControlledCheckType
  reason : String
  blockingLevel : GapBlockingLevel
deriving DecidableEq

/-- `ControlledCheckSuite` -/
structure ControlledCheckSuite where
  results : List ControlledCheckResult
  missing : List MissingControlledCheck
deriving DecidableEq

/-- `PolicyHit`: a clause retrieval offered. -/
structure PolicyHit where
  key : PolicyKey
  documentTitleVi : String
  score : Nat
deriving DecidableEq

/-! ## The texts of the runtime -/

/-- The texts Python's `str`, `casefold` and `date.fromisoformat` give and read. -/
structure PythonTexts where
  str : JsonValue → String
  number : Decimal → String
  casefold : String → String
  fromIsoformat : String → Option Date

/-- `str(fact.value)` -/
def PythonTexts.factText (py : PythonTexts) : FactValue → String
  | .string text => text
  | .number value => py.number value
  | .boolean true => "True"
  | .boolean false => "False"

/-! ## The collateral checklist -/

/-- `CollateralDocumentStatus` -/
inductive CollateralDocumentStatus where
  | present
  | missing
  | expired
deriving DecidableEq

/-- `CollateralRequirement` -/
structure CollateralRequirement where
  docKey : String
  labelVi : String
  corpusClauseRef : String
  requiresExpiryCheck : Bool
  missingBlockingLevel : GapBlockingLevel
  expiredBlockingLevel : GapBlockingLevel
deriving DecidableEq

/-- `COLLATERAL_CHECKLIST` -/
def collateralChecklist : List CollateralRequirement :=
  [ { docKey := "giay_chung_nhan_qsdd"
      labelVi := "Giấy chứng nhận quyền sử dụng đất/quyền sở hữu tài sản"
      corpusClauseRef := "tai_san_bao_dam:TSBD-01"
      requiresExpiryCheck := true
      missingBlockingLevel := .blocking
      expiredBlockingLevel := .blocking },
    { docKey := "hop_dong_the_chap"
      labelVi := "Hợp đồng thế chấp/cầm cố tài sản bảo đảm"
      corpusClauseRef := "tai_san_bao_dam:TSBD-02"
      requiresExpiryCheck := false
      missingBlockingLevel := .blocking
      expiredBlockingLevel := .conditional },
    { docKey := "bien_ban_dinh_gia"
      labelVi := "Biên bản định giá tài sản bảo đảm"
      corpusClauseRef := "tai_san_bao_dam:TSBD-03"
      requiresExpiryCheck := true
      missingBlockingLevel := .conditional
      expiredBlockingLevel := .conditional } ]

/-- `CollateralItemResult` -/
structure CollateralItemResult where
  documentTypeKey : String
  labelVi : String
  status : CollateralDocumentStatus
  citations : List EvidenceCitation
  expiryDate : Option Date
  notesVi : String
deriving DecidableEq

/-- `CollateralPreAnalysis` -/
structure CollateralPreAnalysis where
  items : List CollateralItemResult
  gaps : List EvidenceGapItem
deriving DecidableEq

/-- `_fact` -/
def factOf (view : LegalEvidenceView) (fieldKey : String) : Option EvidenceFact :=
  view.confirmedFacts.find? (·.fieldKey = fieldKey)

def statusFieldKey (docKey : String) : String :=
  "collateral.documents." ++ docKey ++ ".status"

def expiryFieldKey (docKey : String) : String :=
  "collateral.documents." ++ docKey ++ ".expiry_date"

/-- `_parse_date` -/
def parseDate (py : PythonTexts) : FactValue → Option Date
  | .string text => py.fromIsoformat text
  | _ => none

namespace CollateralRequirement

variable (requirement : CollateralRequirement)

/-- The checklist item of a requirement. -/
def itemWith (status : CollateralDocumentStatus) (citations : List EvidenceCitation)
    (expiryDate : Option Date) (notesVi : String) : CollateralItemResult where
  documentTypeKey := requirement.docKey
  labelVi := requirement.labelVi
  status
  citations
  expiryDate
  notesVi

/-- A gap about a requirement, found beside its item. -/
def gapOf (missingInformationVi whyNeededVi : String) (blockingLevel : GapBlockingLevel)
    (suggested : List String) : Except BuildFault (List EvidenceGapItem) := do
  let gap ← makeGap missingInformationVi whyNeededVi blockingLevel suggested
  return [gap]

/-- The rest of the evaluation for a document that is present. -/
def evaluatePresent (py : PythonTexts) (view : LegalEvidenceView) (asOf : Date)
    (statusCitation : EvidenceCitation) :
    Except BuildFault (List CollateralItemResult × List EvidenceGapItem) :=
  if requirement.requiresExpiryCheck then
    match factOf view (expiryFieldKey requirement.docKey) with
    | none => do
      let gaps ← gapOf ("Chưa có ngày hết hạn được xác nhận cho tài liệu '" ++ requirement.labelVi ++ "'.")
        "Cần để xác định tài liệu còn hiệu lực hay đã hết hạn." .clarification []
      return ([requirement.itemWith .present [statusCitation] none
        "Chưa xác định được ngày hết hạn."], gaps)
    | some expiryFact =>
      match parseDate py expiryFact.value with
      | none => do
        let gaps ← gapOf ("Ngày hết hạn không hợp lệ cho tài liệu '" ++ requirement.labelVi ++ "'.")
          "Cần một ngày hợp lệ theo định dạng ISO." .clarification []
        return ([requirement.itemWith .present [statusCitation] none ""], gaps)
      | some parsed =>
        let citations := [statusCitation, .confirmedFact expiryFact.confirmedFactId]
        if asOf ≤ parsed then
          return ([requirement.itemWith .present citations (some parsed) ""], [])
        else do
          let gaps ← gapOf
            ("Tài liệu '" ++ requirement.labelVi ++ "' đã hết hạn (" ++ parsed.isoformat ++ ").")
            ("Cần bản cập nhật còn hiệu lực theo danh mục kiểm tra (" ++
              requirement.corpusClauseRef ++ ").")
            requirement.expiredBlockingLevel
            [requirement.labelVi ++ " còn hiệu lực do cán bộ phụ trách xác nhận."]
          return ([requirement.itemWith .expired citations (some parsed)
            ("Hết hạn ngày " ++ parsed.isoformat ++ ".")], gaps)
  else return ([requirement.itemWith .present [statusCitation] none ""], [])

/-- One requirement of `evaluate_collateral_checklist`. -/
def evaluate (py : PythonTexts) (view : LegalEvidenceView) (asOf : Date) :
    Except BuildFault (List CollateralItemResult × List EvidenceGapItem) :=
  match factOf view (statusFieldKey requirement.docKey) with
  | none => do
    let gaps ← gapOf
      ("Chưa có dữ kiện đã xác nhận về tình trạng tài liệu '" ++ requirement.labelVi ++ "'.")
      ("Cần để đánh giá tính đầy đủ hồ sơ tài sản bảo đảm theo danh mục kiểm tra (" ++
        requirement.corpusClauseRef ++ ").")
      requirement.missingBlockingLevel
      [requirement.labelVi ++ " do cán bộ phụ trách xác nhận."]
    return ([], gaps)
  | some statusFact =>
    let statusCitation := .confirmedFact statusFact.confirmedFactId
    let rawStatus := py.factText statusFact.value
    if rawStatus = "MISSING" then do
      let gaps ← gapOf
        ("Thiếu tài liệu '" ++ requirement.labelVi ++ "' trong hồ sơ tài sản bảo đảm.")
        ("Bắt buộc theo danh mục kiểm tra tài sản bảo đảm (" ++ requirement.corpusClauseRef ++ ").")
        requirement.missingBlockingLevel
        [requirement.labelVi ++ " do cán bộ phụ trách xác nhận."]
      return ([requirement.itemWith .missing [statusCitation] none ""], gaps)
    else if rawStatus = "PRESENT" then requirement.evaluatePresent py view asOf statusCitation
    else do
      let gaps ← gapOf
        ("Giá trị tình trạng không hợp lệ cho tài liệu '" ++ requirement.labelVi ++ "': '" ++
          rawStatus ++ "'.")
        "Cần dữ kiện tình trạng hợp lệ (PRESENT/MISSING)." .clarification []
      return ([], gaps)

end CollateralRequirement

/-- `evaluate_collateral_checklist` -/
def evaluateCollateralChecklist (py : PythonTexts) (view : LegalEvidenceView) (asOf : Date) :
    Except BuildFault CollateralPreAnalysis := do
  let evaluated ← collateralChecklist.mapM (·.evaluate py view asOf)
  return { items := evaluated.flatMap (·.1), gaps := evaluated.flatMap (·.2) }

/-! ## The ownership cross-check -/

/-- `OwnershipInconsistencyItem` -/
structure OwnershipInconsistencyItem where
  descriptionVi : SizedText 1 2000
  citations : List EvidenceCitation
  confidence : ConfidenceLevel
  twoCitations : 2 ≤ citations.length
deriving DecidableEq

/-- `ENTITY_NAME_FIELD_KEY` -/
def entityNameFieldKey : String := "legal.entity.registered_name_vi"

/-- `COLLATERAL_OWNER_FIELD_KEY` -/
def collateralOwnerFieldKey : String := "collateral.asset.owner_name_vi"

/-- `check_ownership_consistency` -/
def checkOwnershipConsistency (py : PythonTexts) (view : LegalEvidenceView) :
    Except BuildFault (List OwnershipInconsistencyItem) :=
  match factOf view entityNameFieldKey, factOf view collateralOwnerFieldKey with
  | some entityFact, some collateralFact =>
    let entityName := py.casefold (strip (py.factText entityFact.value))
    let collateralOwner := py.casefold (strip (py.factText collateralFact.value))
    if entityName = "" ∨ collateralOwner = "" ∨ entityName = collateralOwner then .ok []
    else do
      let descriptionVi ← validated "OwnershipInconsistencyItem" "description_vi"
        (SizedText.ofText? 1 2000
          ("Tên chủ thể đăng ký doanh nghiệp ('" ++ py.factText entityFact.value ++
            "') không khớp với tên chủ sở hữu ghi nhận trên tài liệu tài sản bảo đảm ('" ++
            py.factText collateralFact.value ++ "')."))
      return [⟨descriptionVi, [.confirmedFact entityFact.confirmedFactId,
        .confirmedFact collateralFact.confirmedFactId], .high, Nat.le_refl 2⟩]
  | _, _ => .ok []

/-! ## What the pre-analysis cites -/

/-- The citation names a confirmed fact of the view. -/
def CitesFact (view : LegalEvidenceView) (citation : EvidenceCitation) : Prop :=
  ∃ fact ∈ view.confirmedFacts, citation = .confirmedFact fact.confirmedFactId

variable {py : PythonTexts} {view : LegalEvidenceView} {asOf : Date}

theorem citesFact_of_factOf {fieldKey : String} {fact : EvidenceFact}
    (h : factOf view fieldKey = some fact) : CitesFact view (.confirmedFact fact.confirmedFactId) :=
  ⟨fact, List.mem_of_find?_eq_some h, rfl⟩

/-- The items of one requirement cite facts of the view, and at least one. -/
def ItemsCite (view : LegalEvidenceView) (items : List CollateralItemResult) : Prop :=
  ∀ item ∈ items, item.citations ≠ [] ∧ ∀ citation ∈ item.citations, CitesFact view citation

theorem itemsCite_singleton {requirement : CollateralRequirement} {status : CollateralDocumentStatus}
    {citations : List EvidenceCitation} {expiryDate : Option Date} {notesVi : String}
    (hne : citations ≠ []) (h : ∀ citation ∈ citations, CitesFact view citation) :
    ItemsCite view [requirement.itemWith status citations expiryDate notesVi] := by
  intro item hitem
  rw [List.mem_singleton] at hitem
  rw [hitem]
  exact ⟨hne, h⟩

theorem itemsCite_nil : ItemsCite view [] := by
  intro item hitem
  cases hitem

theorem evaluatePresent_cites (requirement : CollateralRequirement) {statusCitation : EvidenceCitation}
    (h : CitesFact view statusCitation) :
    Ensures (requirement.evaluatePresent py view asOf statusCitation) fun r => ItemsCite view r.1 := by
  have hone : ∀ citation ∈ [statusCitation], CitesFact view citation := by
    intro citation hc
    rw [List.mem_singleton] at hc
    rw [hc]
    exact h
  unfold CollateralRequirement.evaluatePresent
  split
  · split
    · refine Ensures.bind (Ensures.self _) fun gaps _ => ?_
      exact Ensures.ok (itemsCite_singleton (List.cons_ne_nil _ _) hone)
    · next expiryFact hexpiry =>
      -- the second citation is the fact of the expiry date
      have htwo : ∀ citation ∈ [statusCitation, .confirmedFact expiryFact.confirmedFactId],
          CitesFact view citation := by
        intro citation hc
        rcases List.mem_cons.1 hc with rfl | htail
        · exact h
        · rw [List.mem_singleton] at htail
          rw [htail]
          exact citesFact_of_factOf hexpiry
      split
      · refine Ensures.bind (Ensures.self _) fun gaps _ => ?_
        exact Ensures.ok (itemsCite_singleton (List.cons_ne_nil _ _) hone)
      · split
        · exact Ensures.ok (itemsCite_singleton (List.cons_ne_nil _ _) htwo)
        · refine Ensures.bind (Ensures.self _) fun gaps _ => ?_
          exact Ensures.ok (itemsCite_singleton (List.cons_ne_nil _ _) htwo)
  · exact Ensures.ok (itemsCite_singleton (List.cons_ne_nil _ _) hone)

theorem evaluate_cites (requirement : CollateralRequirement) :
    Ensures (requirement.evaluate py view asOf) fun r => ItemsCite view r.1 := by
  unfold CollateralRequirement.evaluate
  split
  · refine Ensures.bind (Ensures.self _) fun gaps _ => ?_
    exact Ensures.ok itemsCite_nil
  · next statusFact hstat =>
    have hcites := citesFact_of_factOf hstat
    dsimp only
    split
    · refine Ensures.bind (Ensures.self _) fun gaps _ => ?_
      apply Ensures.ok
      apply itemsCite_singleton (List.cons_ne_nil _ _)
      intro citation hc
      rw [List.mem_singleton] at hc
      rw [hc]
      exact hcites
    · split
      · exact evaluatePresent_cites requirement hcites
      · refine Ensures.bind (Ensures.self _) fun gaps _ => ?_
        exact Ensures.ok itemsCite_nil

/-- **The checklist cites facts of the view.** -/
theorem evaluateCollateralChecklist_cites :
    Ensures (evaluateCollateralChecklist py view asOf) fun pre => ItemsCite view pre.items := by
  refine Ensures.bind (Ensures.mapM evaluate_cites _) fun evaluated hevaluated => ?_
  apply Ensures.ok
  intro item hitem
  obtain ⟨one, hone, hmem⟩ := List.mem_flatMap.1 hitem
  exact hevaluated one hone item hmem

/-- **The cross-check cites facts of the view.** -/
theorem checkOwnershipConsistency_cites :
    Ensures (checkOwnershipConsistency py view) fun items =>
      ∀ item ∈ items, ∀ citation ∈ item.citations, CitesFact view citation := by
  unfold checkOwnershipConsistency
  split
  · next entityFact collateralFact hentity hcollateral =>
    dsimp only
    split
    · apply Ensures.ok
      intro item hitem
      cases hitem
    · refine Ensures.bind (Ensures.self _) fun descriptionVi _ => ?_
      apply Ensures.ok
      intro item hitem citation hc
      rw [List.mem_singleton] at hitem
      rw [hitem] at hc
      rcases List.mem_cons.1 hc with rfl | htail
      · exact citesFact_of_factOf hentity
      · rw [List.mem_singleton] at htail
        rw [htail]
        exact citesFact_of_factOf hcollateral
  · apply Ensures.ok
    intro item hitem
    cases hitem

end CreditOps.Assessments.Legal
