import CreditOps.CreditDecisions.Domain

/-!
# Credit notifications

The notification of an approval is rendered from the recorded decision and its frozen terms by a fixed
template; no other decision has a notification. A draft freezes the rendered text with its hash, and a
receipt of the mock delivery carries the hash of the draft it delivered.
-/

set_option autoImplicit false

namespace CreditOps.Notifications

open ContractPackages (CreditDecisionType approvalDecisions syntheticNoticeVi)
open CreditDecisions

/-! ## Rendering -/

/-- `MOCK_DELIVERY_CHANNEL` -/
def mockDeliveryChannel : String := "MOCK_CHANNEL"

/-- `NOT_A_DISBURSEMENT_NOTICE_VI` -/
def notADisbursementNoticeVi : String := "Thông báo tín dụng không phải xác nhận giải ngân."

/-- `_DECISION_LABEL_VI`; only an approval has a label. -/
def decisionLabelVi : CreditDecisionType → Option String
  | .approvedAsProposed => some "Phê duyệt theo đề xuất"
  | .approvedWithConditions => some "Phê duyệt có điều kiện"
  | .returnedForRevision | .moreInformationRequired | .declinedByHuman => none

/-- `_NOT_PROVIDED_VI` -/
def notProvidedVi : String := "Không cung cấp"

/-- The amount with its currency. -/
def amountLine (terms : ApprovedTerms) : String :=
  match terms.amount, terms.currency with
  | none, _ => notProvidedVi
  | some amount, none => amount.toText
  | some amount, some currency => amount.toText ++ " " ++ currency

/-- The conditions, one line each. -/
def conditionsBlock (conditions : List String) : String :=
  if conditions = [] then "Không có điều kiện bổ sung."
  else "\n".intercalate (conditions.map ("- " ++ ·))

/-- The lines of a notification. -/
def notificationLines (label : String) (conditions : List String) (terms : Option ApprovedTerms) :
    List String :=
  ["THÔNG BÁO TÍN DỤNG (DỮ LIỆU MÔ PHỎNG)", "",
    "Kết quả phê duyệt của cấp có thẩm quyền: " ++ label, "",
    "Số tiền: " ++ (terms.map amountLine).getD notProvidedVi,
    "Thời hạn: " ++ (terms.bind (·.term)).getD notProvidedVi,
    "Lãi suất hoặc nguyên tắc xác định: " ++
      ((terms.bind (·.rate)).map DecimalNumeral.toText).getD notProvidedVi, "",
    "Điều kiện trước khi ký/giải ngân:", conditionsBlock conditions, "", notADisbursementNoticeVi, "",
    syntheticNoticeVi]

/-- `render_notification_content_vi`; it raises on a decision that is no approval. -/
def renderNotificationContentVi (decision : HumanCreditDecision) (terms : Option ApprovedTerms) :
    Option String :=
  (decisionLabelVi decision.decision).map fun label =>
    "\n".intercalate (notificationLines label decision.conditions terms)

/-- `compute_content_hash` -/
def computeContentHash (contentVi : String) : String :=
  sha256Hex contentVi

/-- `part in text` -/
def Embeds (part text : String) : Prop :=
  ∃ start rest, text = start ++ part ++ rest

/-! ## Rows -/

/-- One draft, the hash bound to the text and both notices in it. -/
structure CreditNotificationDraft where
  id : Uuid
  caseVersion : CaseVersion
  decisionId : Uuid
  contentVi : String
  contentHash : String
  createdBy : Uuid
  contentHash_eq : contentHash = computeContentHash contentVi
  not_a_disbursement : Embeds notADisbursementNoticeVi contentVi
  synthetic : Embeds syntheticNoticeVi contentVi

/-- One receipt of a mock delivery. -/
structure CommunicationReceipt where
  id : Uuid
  draftId : Uuid
  deliveredVia : String
  contentHash : String
  receiptNoteVi : Option String
  recordedBy : Uuid
  delivered_via_mock : deliveredVia = mockDeliveryChannel
  contentHash_hex : isSha256Hex contentHash = true

/-! ## The notices -/

/-- What is joined is embedded. -/
theorem embeds_intercalate {part separator : String} {parts : List String} (h : part ∈ parts) :
    Embeds part (separator.intercalate parts) := by
  induction parts with
  | nil => cases h
  | cons first rest ih =>
    cases rest with
    | nil =>
      obtain rfl := List.mem_singleton.1 h
      exact ⟨"", "", by rw [String.intercalate_singleton, String.empty_append, String.append_empty]⟩
    | cons second others =>
      rw [String.intercalate_cons_cons]
      rcases List.mem_cons.1 h with rfl | htail
      · exact ⟨"", separator ++ separator.intercalate (second :: others), by
          rw [String.empty_append, String.append_assoc]⟩
      · obtain ⟨start, rest, hrest⟩ := ih htail
        refine ⟨first ++ separator ++ start, rest, ?_⟩
        rw [hrest]
        simp only [String.append_assoc]

variable {decision : HumanCreditDecision} {terms : Option ApprovedTerms} {content : String}

/-- **A rendered text has both notices.** -/
theorem render_embeds (h : renderNotificationContentVi decision terms = some content) :
    Embeds notADisbursementNoticeVi content ∧ Embeds syntheticNoticeVi content := by
  obtain ⟨_, -, rfl⟩ := Option.map_eq_some_iff.1 h
  constructor
  all_goals
    apply embeds_intercalate
    simp only [notificationLines, List.mem_cons, true_or, or_true]

theorem approval_of_render (h : renderNotificationContentVi decision terms = some content) :
    decision.decision ∈ approvalDecisions := by
  obtain ⟨_, hlabel, -⟩ := Option.map_eq_some_iff.1 h
  cases hdec : decision.decision <;> rw [hdec] at hlabel
  case approvedAsProposed => decide
  case approvedWithConditions => decide
  all_goals cases hlabel

/-- `build_notification_draft` -/
def buildNotificationDraft (draftId createdBy : Uuid) (decision : HumanCreditDecision)
    (terms : Option ApprovedTerms) : Option CreditNotificationDraft :=
  match h : renderNotificationContentVi decision terms with
  | none => none
  | some contentVi =>
    some
      { id := draftId
        caseVersion := decision.caseVersion
        decisionId := decision.id
        contentVi
        contentHash := computeContentHash contentVi
        createdBy
        contentHash_eq := rfl
        not_a_disbursement := (render_embeds h).1
        synthetic := (render_embeds h).2 }

theorem buildNotificationDraft_eq_some {draftId createdBy : Uuid} {draft : CreditNotificationDraft}
    (h : buildNotificationDraft draftId createdBy decision terms = some draft) :
    renderNotificationContentVi decision terms = some draft.contentVi ∧
      draft.caseVersion = decision.caseVersion ∧ draft.decisionId = decision.id := by
  unfold buildNotificationDraft at h
  split at h
  · cases h
  rename_i contentVi hrender
  cases h
  exact ⟨hrender, rfl, rfl⟩

/-- The receipt of a mock delivery of a draft. -/
def receiptOf (draft : CreditNotificationDraft) (receiptId recordedBy : Uuid)
    (receiptNoteVi : Option String) : CommunicationReceipt where
  id := receiptId
  draftId := draft.id
  deliveredVia := mockDeliveryChannel
  contentHash := draft.contentHash
  receiptNoteVi
  recordedBy
  delivered_via_mock := rfl
  contentHash_hex := by
    rw [draft.contentHash_eq]
    exact isSha256Hex_sha256Hex _

end CreditOps.Notifications
