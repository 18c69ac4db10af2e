import CreditOps.Library.Decimal
import CreditOps.Domain.Text

/-!
# Contract packages

The contract text is rendered from the credit decision and its approved terms by a fixed template, and
every stored package is bound to its text by a hash. A package row is a new version, never an edit; its
state names the stage of that version.
-/

set_option autoImplicit false

namespace CreditOps.ContractPackages

/-! ## Decisions and terms -/

/-- The human credit decisions. -/
inductive CreditDecisionType where
  | approvedAsProposed
  | approvedWithConditions
  | returnedForRevision
  | moreInformationRequired
  | declinedByHuman
deriving DecidableEq

/-- The stored text of a decision. -/
def CreditDecisionType.value : CreditDecisionType → String
  | .approvedAsProposed => "APPROVED_AS_PROPOSED"
  | .approvedWithConditions => "APPROVED_WITH_CONDITIONS"
  | .returnedForRevision => "RETURNED_FOR_REVISION"
  | .moreInformationRequired => "MORE_INFORMATION_REQUIRED"
  | .declinedByHuman => "DECLINED_BY_HUMAN"

/-- `APPROVAL_DECISIONS` -/
def approvalDecisions : List CreditDecisionType :=
  [.approvedAsProposed, .approvedWithConditions]

/-- The approved terms of a decision; each may be left unspecified. -/
structure ApprovedTerms where
  amount : Option Decimal
  currency : Option String
  term : Option String
  rate : Option Decimal
deriving DecidableEq

/-- A decision with its term snapshot, as stored: one a case version, never changed. -/
structure CreditDecision where
  decisionId : Uuid
  decisionType : CreditDecisionType
  rationaleVi : String
  conditions : List String
  terms : ApprovedTerms
  snapshotHash : String
deriving DecidableEq

/-! ## Rendering -/

/-- `MOCK_CONTRACT_LABEL_VI` -/
def mockContractLabelVi : String := "Hợp đồng mô phỏng — không có hiệu lực pháp lý."

/-- `SYNTHETIC_NOTICE_VI` -/
def syntheticNoticeVi : String :=
  "Toàn bộ dữ liệu khách hàng, chính sách, tài liệu và phản hồi hệ thống " ++
    "ngân hàng trong dự án này là dữ liệu tổng hợp, được tạo riêng cho mục " ++
    "đích trình diễn."

/-- `_UNSPECIFIED_VI` -/
def unspecifiedVi : String := "(không xác định)"

/-- `_NO_CONDITIONS_VI` -/
def noConditionsVi : String := "(không có điều kiện)"

/-- `_render_amount` -/
def renderAmount (value : Option Decimal) : String :=
  (value.map Decimal.formatPlain).getD unspecifiedVi

/-- `_render_text` -/
def renderText (value : Option String) : String :=
  value.getD unspecifiedVi

/-- The block of conditions, one line each. -/
def conditionsBlock (conditions : List String) : String :=
  if conditions = [] then "- " ++ noConditionsVi
  else "\n".intercalate (conditions.map ("- " ++ ·))

/-- `render_contract_content_vi` -/
def renderContractContentVi (decision : CreditDecision) : String :=
  "\n".intercalate
    [mockContractLabelVi, "", "HỢP ĐỒNG TÍN DỤNG (BẢN MÔ PHỎNG)", "", syntheticNoticeVi, "",
      "I. QUYẾT ĐỊNH TÍN DỤNG", "- Loại quyết định: " ++ decision.decisionType.value,
      "- Căn cứ: " ++ decision.rationaleVi, "", "II. ĐIỀU KHOẢN ĐƯỢC PHÊ DUYỆT",
      "- Số tiền: " ++ renderAmount decision.terms.amount,
      "- Loại tiền: " ++ renderText decision.terms.currency,
      "- Thời hạn: " ++ renderText decision.terms.term,
      "- Lãi suất: " ++ renderAmount decision.terms.rate, "", "III. ĐIỀU KIỆN",
      conditionsBlock decision.conditions, "", mockContractLabelVi]

/-- `compute_content_hash` -/
def computeContentHash (contentVi : String) : String :=
  sha256Hex contentVi

/-- `detect_material_change` -/
def detectMaterialChange (packageTermSnapshotHash currentDecisionSnapshotHash : String) : Bool :=
  packageTermSnapshotHash ≠ currentDecisionSnapshotHash

/-! ## Rows -/

/-- The stage of one package version. -/
inductive ContractPackageState where
  | draft
  | redlined
  | materialChangeDetected
  | readyForSignature
deriving DecidableEq

/-- One package version; the hash binds it to its text. -/
structure ContractPackage where
  id : Uuid
  caseVersion : CaseVersion
  decisionId : Uuid
  termSnapshotHash : String
  contentVi : String
  contentHash : String
  packageVersion : Nat
  state : ContractPackageState
  createdBy : Uuid
  contentHash_eq : contentHash = computeContentHash contentVi
deriving DecidableEq

/-- One redline: the note and the whole changed text. -/
structure ContractRedline where
  id : Uuid
  packageId : Uuid
  caseVersion : CaseVersion
  redlineVersion : Nat
  changeNoteVi : String
  changedContentVi : String
  changedContentHash : String
  createdBy : Uuid
deriving DecidableEq

/-- `MOCK_SIGNATURE`, the only kind of signature evidence. -/
def mockSignature : String := "MOCK_SIGNATURE"

/-- Signature evidence, one row a signed version. -/
structure SignatureEvidence where
  id : Uuid
  packageId : Uuid
  caseVersion : CaseVersion
  kind : String
  signerNames : List String
  evidenceNoteVi : Option String
  recordedBy : Uuid
deriving DecidableEq

theorem contentHash_eq_of_contentVi_eq {p q : ContractPackage} (h : p.contentVi = q.contentVi) :
    p.contentHash = q.contentHash := by
  rw [p.contentHash_eq, q.contentHash_eq, h]

end CreditOps.ContractPackages
