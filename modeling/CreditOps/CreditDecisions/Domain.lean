import CreditOps.Library.DecimalNotation
import CreditOps.Library.Results
import CreditOps.ContractPackages.Domain
import CreditOps.Domain.Api

/-!
# The human credit decision

A human approver records one decision a case version. The decision binds that version and, where they are
named, the latest memo, risk review and underwriting assessment of it; an approval can freeze its terms.
The frozen terms are stored as a JSON object of texts, next to the hash of their canonical JSON.
-/

set_option autoImplicit false

namespace CreditOps.CreditDecisions

open ContractPackages (CreditDecisionType approvalDecisions)

/-! ## Approved terms -/

/-- The length of a text that may be left out. -/
def LengthWithin (low high : Nat) (text : Option String) : Prop :=
  ∀ value ∈ text, low ≤ value.length ∧ value.length ≤ high

instance (low high : Nat) (text : Option String) : Decidable (LengthWithin low high text) :=
  inferInstanceAs (Decidable (∀ value ∈ text, _))

/-- The approved terms; the amounts keep their sign and their trailing zeros. -/
structure ApprovedTerms where
  amount : Option DecimalNumeral
  currency : Option String
  term : Option String
  rate : Option DecimalNumeral
  currency_length : LengthWithin 1 8 currency
  term_length : LengthWithin 1 100 term
deriving DecidableEq

/-- A jsonb object whose values are texts or null. -/
abbrev StoredTerms := List (String × Option String)

/-- `terms.model_dump(mode="json")` -/
def ApprovedTerms.stored (terms : ApprovedTerms) : StoredTerms :=
  [("amount", terms.amount.map DecimalNumeral.toText), ("currency", terms.currency),
    ("term", terms.term), ("rate", terms.rate.map DecimalNumeral.toText)]

/-- `raw.get(key)` -/
def StoredTerms.get (raw : StoredTerms) (key : String) : Option String :=
  ((raw.find? (·.1 = key)).map (·.2)).join

/-- `Decimal(str(value)) if value is not None else None`; a text that is no decimal raises. -/
def loadDecimal : Option String → Option (Option DecimalNumeral)
  | none => some none
  | some text => (DecimalNumeral.ofText text).map some

/-- `ApprovedTerms(…)` -/
def approvedTerms? (amount : Option DecimalNumeral) (currency term : Option String)
    (rate : Option DecimalNumeral) : Option ApprovedTerms :=
  if h : LengthWithin 1 8 currency ∧ LengthWithin 1 100 term then
    some ⟨amount, currency, term, rate, h.1, h.2⟩
  else none

/-- `_load_terms_on`, on a stored row. -/
def loadTerms (raw : StoredTerms) : Option ApprovedTerms :=
  (loadDecimal (raw.get "amount")).bind fun amount =>
    (loadDecimal (raw.get "rate")).bind fun rate =>
      approvedTerms? amount (raw.get "currency") (raw.get "term") rate

/-- A character as `json.dumps` writes it inside a string. -/
def jsonChar (c : Char) : List Char :=
  match c with
  | '"' => ['\\', '"']
  | '\\' => ['\\', '\\']
  | '\n' => ['\\', 'n']
  | '\r' => ['\\', 'r']
  | '\t' => ['\\', 't']
  | '\x08' => ['\\', 'b']
  | '\x0c' => ['\\', 'f']
  | c => if c.toNat < 32 then ['\\', 'u'] ++ Sha256.hexDigits 4 c.toNat else [c]

/-- A text or null, as `json.dumps` writes it. -/
def jsonText : Option String → String
  | none => "null"
  | some text => "\"" ++ String.ofList (text.toList.flatMap jsonChar) ++ "\""

/-- `json.dumps` of the terms with sorted keys and tight separators. -/
def canonicalTerms (terms : ApprovedTerms) : String :=
  "\x7b\"amount\":" ++ jsonText (terms.stored.get "amount") ++
    ",\"currency\":" ++ jsonText (terms.stored.get "currency") ++
    ",\"rate\":" ++ jsonText (terms.stored.get "rate") ++
    ",\"term\":" ++ jsonText (terms.stored.get "term") ++ "\x7d"

/-- `compute_terms_hash` -/
def computeTermsHash (terms : ApprovedTerms) : String :=
  sha256Hex (canonicalTerms terms)

theorem loadDecimal_map_toText (value : Option DecimalNumeral) :
    loadDecimal (value.map DecimalNumeral.toText) = some value := by
  cases value with
  | none => rfl
  | some d =>
    show (DecimalNumeral.ofText d.toText).map some = some (some d)
    rw [DecimalNumeral.ofText_toText]
    rfl

/-- **What is stored is read back as it was.** -/
theorem loadTerms_stored (terms : ApprovedTerms) : loadTerms terms.stored = some terms := by
  have hamount : terms.stored.get "amount" = terms.amount.map DecimalNumeral.toText := rfl
  have hcurrency : terms.stored.get "currency" = terms.currency := rfl
  have hterm : terms.stored.get "term" = terms.term := rfl
  have hrate : terms.stored.get "rate" = terms.rate.map DecimalNumeral.toText := rfl
  rw [loadTerms, hamount, hcurrency, hterm, hrate, loadDecimal_map_toText, loadDecimal_map_toText,
    Option.bind_some, Option.bind_some, approvedTerms?, dif_pos ⟨terms.currency_length, terms.term_length⟩]

/-! ## Decisions -/

/-- `CreditDecisionType(text)` -/
def parseDecisionType (text : String) : Option CreditDecisionType :=
  [.approvedAsProposed, .approvedWithConditions, .returnedForRevision, .moreInformationRequired,
    CreditDecisionType.declinedByHuman].find? (·.value = text)

/-- An approval with conditions has conditions, none of them blank, and no other decision has any. -/
def ConditionsMatch (decision : CreditDecisionType) (conditions : List String) : Prop :=
  (decision = .approvedWithConditions → conditions ≠ [] ∧ ∀ text ∈ conditions, ¬ isBlank text) ∧
    (decision ≠ .approvedWithConditions → conditions = [])

instance (decision : CreditDecisionType) (conditions : List String) :
    Decidable (ConditionsMatch decision conditions) :=
  inferInstanceAs (Decidable (_ ∧ _))

/-- The artifacts a decision can name. -/
inductive ArtifactKind where
  | memo
  | riskAssessment
  | underwritingAssessment
deriving DecidableEq

/-- The field of a request that names an artifact. -/
def ArtifactKind.field : ArtifactKind → String
  | .memo => "memoArtifactId"
  | .riskAssessment => "riskAssessmentId"
  | .underwritingAssessment => "underwritingAssessmentId"

/-- The artifacts a decision names. -/
structure ArtifactIds where
  memo : Option Uuid
  riskAssessment : Option Uuid
  underwritingAssessment : Option Uuid
deriving DecidableEq

/-- The id of one kind. -/
def ArtifactIds.get (ids : ArtifactIds) : ArtifactKind → Option Uuid
  | .memo => ids.memo
  | .riskAssessment => ids.riskAssessment
  | .underwritingAssessment => ids.underwritingAssessment

/-- One decision; its conditions match its type. -/
structure HumanCreditDecision where
  id : Uuid
  caseVersion : CaseVersion
  decision : CreditDecisionType
  rationaleVi : String
  decidedBy : Uuid
  decidedByRole : String
  artifactIds : ArtifactIds
  conditions : List String
  rationaleVi_length : 1 ≤ rationaleVi.length ∧ rationaleVi.length ≤ 4000
  conditions_match : ConditionsMatch decision conditions
deriving DecidableEq

/-- One row of `approved_term_snapshots`. -/
structure ApprovedTermSnapshot where
  id : Uuid
  decisionId : Uuid
  caseVersion : CaseVersion
  terms : StoredTerms
  snapshotHash : String
deriving DecidableEq

/-- `build_term_snapshot`, as the row it is stored as. -/
def buildTermSnapshot (snapshotId : Uuid) (decision : HumanCreditDecision) (terms : ApprovedTerms) :
    ApprovedTermSnapshot where
  id := snapshotId
  decisionId := decision.id
  caseVersion := decision.caseVersion
  terms := terms.stored
  snapshotHash := computeTermsHash terms

/-! ## The checks of a request -/

/-- The terms a request gives. -/
structure TermsRequest where
  amount : Option DecimalNumeral
  currency : Option String
  term : Option String
  rate : Option DecimalNumeral
deriving DecidableEq

/-- `RecordDecisionRequest`, its texts stripped. -/
structure RecordDecisionRequest where
  decision : String
  rationaleVi : String
  caseVersion : CaseVersion
  artifactIds : ArtifactIds
  conditions : List String
  terms : Option TermsRequest
deriving DecidableEq

/-- What `load_decision_binding` has read. -/
structure DecisionBinding where
  currentCaseVersion : CaseVersion
  latest : ArtifactIds
deriving DecidableEq

/-- `CREDIT_APPROVER` -/
def creditApproverRole : String := "CREDIT_APPROVER"

/-- Why a decision is refused. -/
inductive DecisionRefusal where
  | invalidDecisionType
  | staleCaseVersion (expectedVersion : CaseVersion)
  | unknownArtifactBinding (field : String)
  | invalidCreditDecision
deriving DecidableEq

/-- What the officer is answered. -/
def DecisionRefusal.exception : DecisionRefusal → ApiException
  | .invalidDecisionType =>
    ⟨422, "INVALID_DECISION_TYPE", "Loại quyết định tín dụng không hợp lệ."⟩
  | .staleCaseVersion _ =>
    ⟨409, "STALE_CASE_VERSION",
      "Phiên bản hồ sơ đã thay đổi; hãy xem lại hồ sơ trước khi quyết định."⟩
  | .unknownArtifactBinding _ =>
    ⟨422, "UNKNOWN_ARTIFACT_BINDING",
      "Mã tạo tác tham chiếu không khớp phiên bản hiện tại của hồ sơ."⟩
  | .invalidCreditDecision =>
    ⟨422, "INVALID_CREDIT_DECISION",
      "Quyết định tín dụng không hợp lệ so với ràng buộc nghiệp vụ."⟩

/-- `_assert_artifact_binding` -/
def assertArtifactBinding (referenced current : ArtifactIds) (kind : ArtifactKind) :
    Except DecisionRefusal Unit :=
  match referenced.get kind with
  | none => .ok ()
  | some id => if some id = current.get kind then .ok () else .error (.unknownArtifactBinding kind.field)

/-- The decision a request asks for, if it is one. -/
def humanCreditDecision? (decisionId actorId : Uuid) (decisionType : CreditDecisionType)
    (body : RecordDecisionRequest) : Option HumanCreditDecision :=
  if h : (1 ≤ body.rationaleVi.length ∧ body.rationaleVi.length ≤ 4000) ∧
      ConditionsMatch decisionType body.conditions then
    some
      { id := decisionId
        caseVersion := body.caseVersion
        decision := decisionType
        rationaleVi := body.rationaleVi
        decidedBy := actorId
        decidedByRole := creditApproverRole
        artifactIds := body.artifactIds
        conditions := body.conditions
        rationaleVi_length := h.1
        conditions_match := h.2 }
  else none

/-- The terms a decision freezes: none, or valid ones on an approval. -/
def frozenTerms? (decision : HumanCreditDecision) : Option TermsRequest → Option (Option ApprovedTerms)
  | none => some none
  | some terms =>
    (approvedTerms? terms.amount terms.currency terms.term terms.rate).bind fun approved =>
      if decision.decision ∈ approvalDecisions then some (some approved) else none

/-- The part of the endpoint between the reads and the write. -/
def checkDecision (decisionId actorId : Uuid) (body : RecordDecisionRequest)
    (decisionType : CreditDecisionType) (binding : DecisionBinding) :
    Except DecisionRefusal (HumanCreditDecision × Option ApprovedTerms) :=
  if body.caseVersion ≠ binding.currentCaseVersion then
    .error (.staleCaseVersion binding.currentCaseVersion)
  else
    (assertArtifactBinding body.artifactIds binding.latest .memo).bind fun _ =>
      (assertArtifactBinding body.artifactIds binding.latest .riskAssessment).bind fun _ =>
        (assertArtifactBinding body.artifactIds binding.latest .underwritingAssessment).bind fun _ =>
          match humanCreditDecision? decisionId actorId decisionType body with
          | none => .error .invalidCreditDecision
          | some decision =>
            match frozenTerms? decision body.terms with
            | none => .error .invalidCreditDecision
            | some terms => .ok (decision, terms)

/-- The decision is of the version that was read, and names only artifacts that were read as latest. -/
def Binds (binding : DecisionBinding) (decision : HumanCreditDecision) : Prop :=
  decision.caseVersion = binding.currentCaseVersion ∧
    ∀ kind, ∀ id ∈ decision.artifactIds.get kind, binding.latest.get kind = some id

theorem assertArtifactBinding_ok {referenced current : ArtifactIds} {kind : ArtifactKind}
    (h : assertArtifactBinding referenced current kind = .ok ()) :
    ∀ id ∈ referenced.get kind, current.get kind = some id := by
  intro id hid
  unfold assertArtifactBinding at h
  rw [Option.mem_def] at hid
  rw [hid] at h
  dsimp only at h
  split at h
  · rename_i hcur
    exact hcur.symm
  · cases h

/-- **A decision that passes the checks binds what was read.** -/
theorem checkDecision_binds {decisionId actorId : Uuid} {body : RecordDecisionRequest}
    {decisionType : CreditDecisionType} {binding : DecisionBinding} {decision : HumanCreditDecision}
    {terms : Option ApprovedTerms}
    (h : checkDecision decisionId actorId body decisionType binding = .ok (decision, terms)) :
    Binds binding decision := by
  unfold checkDecision at h
  split at h
  · cases h
  rename_i hver
  obtain ⟨⟨⟩, hmemo, h⟩ := Results.bind_eq_ok.1 h
  obtain ⟨⟨⟩, hrisk, h⟩ := Results.bind_eq_ok.1 h
  obtain ⟨⟨⟩, hunderwriting, h⟩ := Results.bind_eq_ok.1 h
  split at h
  · cases h
  rename_i built hbuilt
  split at h
  · cases h
  cases h
  -- the decision is the one of the body
  unfold humanCreditDecision? at hbuilt
  split at hbuilt
  · cases hbuilt
    refine ⟨not_not.1 hver, ?_⟩
    intro kind
    cases kind with
    | memo => exact assertArtifactBinding_ok hmemo
    | riskAssessment => exact assertArtifactBinding_ok hrisk
    | underwritingAssessment => exact assertArtifactBinding_ok hunderwriting
  · cases hbuilt

end CreditOps.CreditDecisions
