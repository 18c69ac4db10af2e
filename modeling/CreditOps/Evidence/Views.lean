import CreditOps.Library.Decimal
import CreditOps.Library.Results
import CreditOps.Library.Transition
import CreditOps.Orchestration.Revision

/-!
# The evidence base and the views of it

Evidence grows from uploads: an upload intent fixes the case version it was opened at, the document
version registered from it keeps that version, candidate facts are extracted at the version of their
document, and a confirmed fact is derived from its candidate and the officer's confirmation. The maker
of the underwriting assessment, the legal reviewer and the checker (before and after it sees the
makers' outputs) each load the live confirmed facts *of the current case version*.

No evidence row is ever ahead of its case (`FromPast.step`), and a maker revision clones none, so the
views of the version it opens are empty (`loadFacts_bump`). The evidence is carried over exactly when
there was none to carry (`carriedOver_iff`).
-/

set_option autoImplicit false

namespace CreditOps.Evidence

open Orchestration Transition

/-! ## Rows -/

/-- `DocumentStage` -/
inductive DocumentStage where
  | registered
  | securityValidated
  | parsed
  | classified
  | extracted
  | indexed
  | readyForOfficerReview
deriving DecidableEq

/-- `_ALLOWED_DOCUMENT_TRANSITIONS` -/
def DocumentStage.next : DocumentStage → Option DocumentStage
  | .registered => some .securityValidated
  | .securityValidated => some .parsed
  | .parsed => some .classified
  | .classified => some .extracted
  | .extracted => some .indexed
  | .indexed => some .readyForOfficerReview
  | .readyForOfficerReview => none

/-- The value of a fact: a JSON string, number or boolean. -/
inductive FactValue where
  | string (text : String)
  | number (value : Decimal)
  | boolean (value : Bool)
deriving DecidableEq

/-- One open row of `upload_intents`. -/
structure UploadIntent where
  id : Uuid
  caseVersion : CaseVersion
  originalFilename : String
deriving DecidableEq

/-- One row of `document_versions`. -/
structure DocumentVersion where
  id : Uuid
  caseVersion : CaseVersion
  stage : DocumentStage
  originalFilename : String
  createdAt : Timestamp
  staleAt : Option Timestamp
deriving DecidableEq

/-- One row of `candidate_facts`. -/
structure CandidateFact where
  id : Uuid
  caseVersion : CaseVersion
  documentVersionId : Uuid
  pageRegionId : Uuid
  fieldKey : String
  proposedValue : FactValue
deriving DecidableEq

/-- What the officer decided about a candidate; a corrected value comes with a correction only. -/
inductive FactDisposition where
  | accepted
  | corrected (value : FactValue)
  | absent
  | unreadable
deriving DecidableEq

/-- One row of `fact_confirmations`, unique by candidate. -/
structure FactConfirmation where
  id : Uuid
  caseVersion : CaseVersion
  candidateFactId : Uuid
  disposition : FactDisposition
  actorId : Uuid
deriving DecidableEq

/-- One row of `confirmed_facts`. -/
structure ConfirmedFact where
  id : Uuid
  caseVersion : CaseVersion
  candidateFactId : Uuid
  confirmationId : Uuid
  documentVersionId : Uuid
  pageRegionId : Uuid
  fieldKey : String
  value : FactValue
  candidateValue : FactValue
  createdAt : Timestamp
  staleAt : Option Timestamp
deriving DecidableEq

/-- The evidence tables of one case beside its orchestration tables. Rows stand newest first. -/
structure EvidenceBase where
  tables : CaseTables
  intents : List UploadIntent
  documents : List DocumentVersion
  candidates : List CandidateFact
  confirmations : List FactConfirmation
  facts : List ConfirmedFact
deriving DecidableEq

/-! ## The views -/

/-- One confirmed fact as an agent reads it: its value and its lineage. -/
structure EvidenceFact where
  confirmedFactId : Uuid
  fieldKey : String
  value : FactValue
  documentVersionId : Uuid
deriving DecidableEq

/-- One document of the reviewer's inventory. -/
structure DocumentInventoryItem where
  documentVersionId : Uuid
  originalFilename : String
  stage : DocumentStage
deriving DecidableEq

/-- `EvidenceView`, what the underwriting maker reads. -/
structure EvidenceView where
  caseId : Uuid
  caseVersion : CaseVersion
  builtAt : Timestamp
  confirmedFacts : List EvidenceFact
deriving DecidableEq

/-- `LegalEvidenceView` -/
structure LegalEvidenceView where
  caseId : Uuid
  caseVersion : CaseVersion
  builtAt : Timestamp
  confirmedFacts : List EvidenceFact
  documents : List DocumentInventoryItem
deriving DecidableEq

/-- `CheckerEvidenceView` -/
structure CheckerEvidenceView where
  caseId : Uuid
  caseVersion : CaseVersion
  builtAt : Timestamp
  confirmedFacts : List EvidenceFact
deriving DecidableEq

/-- `PreAnalysisEvidenceView`, what the checker reads before it sees any maker's output. -/
structure PreAnalysisEvidenceView where
  caseId : Uuid
  caseVersion : CaseVersion
  builtAt : Timestamp
  confirmedFacts : List EvidenceFact
deriving DecidableEq

namespace EvidenceBase

/-- The fact is live at the version. -/
def isLiveFact (caseVersion : CaseVersion) (fact : ConfirmedFact) : Bool :=
  fact.caseVersion = caseVersion ∧ fact.staleAt = none

/-- The document is live at the version. -/
def isLiveDocument (caseVersion : CaseVersion) (document : DocumentVersion) : Bool :=
  document.caseVersion = caseVersion ∧ document.staleAt = none

/-- The query of confirmed facts that all four loaders run. -/
def loadFacts (base : EvidenceBase) (caseVersion : CaseVersion) : List EvidenceFact :=
  ((base.facts.reverse.filter (isLiveFact caseVersion)).insertionSort
    fun a b => a.createdAt ≤ b.createdAt).map fun fact =>
      ⟨fact.id, fact.fieldKey, fact.value, fact.documentVersionId⟩

/-- The query of the document inventory. -/
def loadDocuments (base : EvidenceBase) (caseVersion : CaseVersion) : List DocumentInventoryItem :=
  ((base.documents.reverse.filter (isLiveDocument caseVersion)).insertionSort
    fun a b => a.createdAt ≤ b.createdAt).map fun document =>
      ⟨document.id, document.originalFilename, document.stage⟩

/-- `PostgresUnderwritingRepository.load_evidence_view` -/
def underwritingView (base : EvidenceBase) (caseId : Uuid) (now : Timestamp) :
    Option EvidenceView :=
  if base.tables.caseId = caseId then
    some ⟨caseId, base.tables.caseVersion, now, base.loadFacts base.tables.caseVersion⟩
  else none

/-- `PostgresLegalRepository.load_evidence_view` -/
def legalView (base : EvidenceBase) (caseId : Uuid) (now : Timestamp) : Option LegalEvidenceView :=
  if base.tables.caseId = caseId then
    some ⟨caseId, base.tables.caseVersion, now, base.loadFacts base.tables.caseVersion,
      base.loadDocuments base.tables.caseVersion⟩
  else none

/-- `PostgresRiskReviewRepository.load_evidence_view` -/
def checkerView (base : EvidenceBase) (caseId : Uuid) (now : Timestamp) :
    Option CheckerEvidenceView :=
  if base.tables.caseId = caseId then
    some ⟨caseId, base.tables.caseVersion, now, base.loadFacts base.tables.caseVersion⟩
  else none

/-- `PostgresRiskReviewRepository.load_blind_evidence_view` -/
def blindView (base : EvidenceBase) (caseId : Uuid) (now : Timestamp) :
    Option PreAnalysisEvidenceView :=
  if base.tables.caseId = caseId then
    some ⟨caseId, base.tables.caseVersion, now, base.loadFacts base.tables.caseVersion⟩
  else none

/-! ## Writes -/

/-- `register_verified_upload`: the document version is registered at the version of its intent, which
is consumed. -/
def registerUpload (base : EvidenceBase) (intentId documentVersionId : Uuid) (now : Timestamp) :
    Option EvidenceBase :=
  (base.intents.find? (·.id = intentId)).map fun intent =>
    { base with
      intents := base.intents.filter (·.id ≠ intentId)
      documents :=
        ⟨documentVersionId, intent.caseVersion, .registered, intent.originalFilename, now, none⟩ ::
          base.documents }

/-- `_advance_stage`: a legal single step, from the stage it starts at or already done. -/
def advanceStage (base : EvidenceBase) (documentVersionId : Uuid) (caseVersion : CaseVersion)
    (fromStage toStage : DocumentStage) : Option EvidenceBase :=
  if fromStage.next = some toStage ∧ base.documents.any fun document =>
      document.id = documentVersionId ∧ document.caseVersion = caseVersion ∧
        (document.stage = fromStage ∨ document.stage = toStage) then
    some { base with
           documents := base.documents.map fun document =>
            if document.id = documentVersionId ∧ document.caseVersion = caseVersion then
              { document with stage := toStage }
            else document }
  else none

/-- A candidate a parser found. -/
structure PersistableCandidate where
  candidateFactId : Uuid
  pageRegionId : Uuid
  fieldKey : String
  proposedValue : FactValue
deriving DecidableEq

/-- `insert into candidate_facts … on conflict (id) do nothing` -/
def insertCandidate (documentVersionId : Uuid) (caseVersion : CaseVersion)
    (base : EvidenceBase) (candidate : PersistableCandidate) : EvidenceBase :=
  if base.candidates.any (·.id = candidate.candidateFactId) then base
  else
    { base with
      candidates :=
        ⟨candidate.candidateFactId, caseVersion, documentVersionId, candidate.pageRegionId,
          candidate.fieldKey, candidate.proposedValue⟩ :: base.candidates }

/-- `persist_candidates`: the candidates and the stage they bring the document to. A document version
of another case version is a foreign key violation. -/
def persistCandidates (base : EvidenceBase) (documentVersionId : Uuid) (caseVersion : CaseVersion)
    (candidates : List PersistableCandidate) (fromStage toStage : DocumentStage) :
    Option EvidenceBase :=
  (candidates.foldl (insertCandidate documentVersionId caseVersion) base).advanceStage
    documentVersionId caseVersion fromStage toStage

/-- One disposition of a confirmation batch, with the uuids drawn for its rows. -/
structure ConfirmationInput where
  confirmationId : Uuid
  confirmedFactId : Uuid
  candidateId : Uuid
  disposition : FactDisposition
deriving DecidableEq

/-- The value the trigger derives; `none` where the disposition supports no confirmed fact. -/
def FactDisposition.expectedValue (candidate : CandidateFact) : FactDisposition → Option FactValue
  | .accepted => some candidate.proposedValue
  | .corrected value => some value
  | .absent | .unreadable => none

/-- `_record_one` and `_derive_confirmed_fact`: one confirmation per candidate, and the fact it
supports. A candidate of another case version is a foreign key violation. -/
def recordOne (caseVersion : CaseVersion) (actorId : Uuid) (now : Timestamp) (base : EvidenceBase)
    (input : ConfirmationInput) : Option EvidenceBase :=
  if base.confirmations.any (·.candidateFactId = input.candidateId) then some base
  else
    (base.candidates.find? fun candidate =>
      candidate.id = input.candidateId ∧ candidate.caseVersion = caseVersion).map fun candidate =>
        { base with
          confirmations :=
            ⟨input.confirmationId, caseVersion, input.candidateId, input.disposition, actorId⟩ ::
              base.confirmations
          facts :=
            ((FactDisposition.expectedValue candidate input.disposition).map fun value =>
              { id := input.confirmedFactId
                caseVersion := candidate.caseVersion
                candidateFactId := candidate.id
                confirmationId := input.confirmationId
                documentVersionId := candidate.documentVersionId
                pageRegionId := candidate.pageRegionId
                fieldKey := candidate.fieldKey
                value
                candidateValue := candidate.proposedValue
                createdAt := now
                staleAt := none }).toList ++ base.facts }

/-- `record_confirmations`: the whole batch, on a live document version at the expected stage. -/
def recordConfirmations (base : EvidenceBase) (documentVersionId actorId : Uuid)
    (expectedStage : DocumentStage) (inputs : List ConfirmationInput) (now : Timestamp) :
    Option EvidenceBase :=
  match base.documents.find? (·.id = documentVersionId) with
  | none => none
  | some document =>
    if document.staleAt ≠ none ∨ document.stage ≠ expectedStage then none
    else inputs.foldlM (recordOne document.caseVersion actorId now) base

end EvidenceBase

open EvidenceBase

/-! ## Requests -/

/-- One transaction. `otherWrites` stands for every transaction of the case that leaves the evidence
tables alone, and `createUploadIntent` carries the case version its request read. -/
inductive Request where
  | createUploadIntent (intentId : Uuid) (caseVersion : CaseVersion) (originalFilename : String)
  | registerUpload (intentId documentVersionId : Uuid) (now : Timestamp)
  | advanceStage (documentVersionId : Uuid) (caseVersion : CaseVersion)
      (fromStage toStage : DocumentStage)
  | persistCandidates (documentVersionId : Uuid) (caseVersion : CaseVersion)
      (candidates : List PersistableCandidate) (fromStage toStage : DocumentStage)
  | recordConfirmations (documentVersionId actorId : Uuid) (expectedStage : DocumentStage)
      (inputs : List ConfirmationInput) (now : Timestamp)
  | otherWrites (tables : CaseTables)
  | bumpCaseVersion (revision : RevisionRequest) (handoffId : Uuid)
deriving DecidableEq

/-- The step function; `none` for a request that is refused. -/
def step (base : EvidenceBase) : Request → Option EvidenceBase
  | .createUploadIntent intentId caseVersion originalFilename =>
    if caseVersion ≤ base.tables.caseVersion then
      some { base with intents := ⟨intentId, caseVersion, originalFilename⟩ :: base.intents }
    else none
  | .registerUpload intentId documentVersionId now =>
    base.registerUpload intentId documentVersionId now
  | .advanceStage documentVersionId caseVersion fromStage toStage =>
    base.advanceStage documentVersionId caseVersion fromStage toStage
  | .persistCandidates documentVersionId caseVersion candidates fromStage toStage =>
    base.persistCandidates documentVersionId caseVersion candidates fromStage toStage
  | .recordConfirmations documentVersionId actorId expectedStage inputs now =>
    base.recordConfirmations documentVersionId actorId expectedStage inputs now
  | .otherWrites tables =>
    if tables.caseId = base.tables.caseId ∧ tables.caseVersion = base.tables.caseVersion then
      some { base with tables }
    else none
  | .bumpCaseVersion revision handoffId =>
    match base.tables.bumpCaseVersion revision handoffId with
    | .ok tables => some { base with tables }
    | .error _ => none

/-- A case without evidence. -/
def noEvidence (tables : CaseTables) : EvidenceBase where
  tables
  intents := []
  documents := []
  candidates := []
  confirmations := []
  facts := []

/-! ## Evidence is never ahead of its case -/

/-- No evidence row carries a case version that the case has not reached. -/
structure FromPast (base : EvidenceBase) : Prop where
  intents : ∀ intent ∈ base.intents, intent.caseVersion ≤ base.tables.caseVersion
  documents : ∀ document ∈ base.documents, document.caseVersion ≤ base.tables.caseVersion
  candidates : ∀ candidate ∈ base.candidates, candidate.caseVersion ≤ base.tables.caseVersion
  facts : ∀ fact ∈ base.facts, fact.caseVersion ≤ base.tables.caseVersion

theorem noEvidence_fromPast (tables : CaseTables) : FromPast (noEvidence tables) where
  intents _ h := by cases h
  documents _ h := by cases h
  candidates _ h := by cases h
  facts _ h := by cases h

section Steps

variable {base base' : EvidenceBase}

theorem FromPast.withTables (h : FromPast base) {tables : CaseTables}
    (hver : base.tables.caseVersion ≤ tables.caseVersion) : FromPast { base with tables } where
  intents intent hmem := (h.intents intent hmem).trans hver
  documents document hmem := (h.documents document hmem).trans hver
  candidates candidate hmem := (h.candidates candidate hmem).trans hver
  facts fact hmem := (h.facts fact hmem).trans hver

variable {actorId handoffId documentVersionId : Uuid} {now : Timestamp}

theorem FromPast.registerUpload (h : FromPast base) {intentId : Uuid}
    (hstep : base.registerUpload intentId documentVersionId now = some base') :
    FromPast base' := by
  obtain ⟨intent, hfind, rfl⟩ := Option.map_eq_some_iff.1 hstep
  have hintent := h.intents intent (List.mem_of_find?_eq_some hfind)
  refine ⟨?_, ?_, h.candidates, h.facts⟩
  · intro other hother
    exact h.intents other (List.mem_filter.1 hother).1
  · intro document hdoc
    rcases List.mem_cons.1 hdoc with rfl | hold
    · exact hintent
    · exact h.documents document hold

variable {caseVersion : CaseVersion} {toStage fromStage : DocumentStage}

/-- A stage is advanced on a document version of the given case version, and nothing else moves. -/
theorem FromPast.advanceStage (h : FromPast base)
    (hstep : base.advanceStage documentVersionId caseVersion fromStage toStage = some base') :
    FromPast base' := by
  unfold EvidenceBase.advanceStage at hstep
  split at hstep
  · cases hstep
    refine ⟨h.intents, ?_, h.candidates, h.facts⟩
    intro document hdoc
    obtain ⟨old, hold, rfl⟩ := List.mem_map.1 hdoc
    split
    all_goals exact h.documents old hold
  · cases hstep

theorem advanceStage_document
    (hstep : base.advanceStage documentVersionId caseVersion fromStage toStage = some base') :
    ∃ document ∈ base.documents, document.caseVersion = caseVersion := by
  unfold EvidenceBase.advanceStage at hstep
  split at hstep
  · rename_i hguard
    obtain ⟨document, hmem, hmatch⟩ := List.any_eq_true.1 hguard.2
    exact ⟨document, hmem, (of_decide_eq_true hmatch).2.1⟩
  · cases hstep

variable {candidates : List PersistableCandidate}

/-- The candidates of a batch are written at the version of the batch. -/
theorem FromPast.insertCandidates :
    ∀ {base : EvidenceBase}, FromPast base → caseVersion ≤ base.tables.caseVersion →
      FromPast (candidates.foldl (insertCandidate documentVersionId caseVersion) base) := by
  induction candidates with
  | nil =>
    intro base h _
    exact h
  | cons _ _ ih =>
    intro base h hver
    rw [List.foldl_cons]
    unfold insertCandidate
    split
    · exact ih h hver
    · refine ih ⟨h.intents, h.documents, ?_, h.facts⟩ hver
      intro found hfound
      rcases List.mem_cons.1 hfound with rfl | hold
      · exact hver
      · exact h.candidates found hold

theorem insertCandidates_documents (documentVersionId : Uuid) (caseVersion : CaseVersion)
    (candidates : List PersistableCandidate) (base : EvidenceBase) :
    (candidates.foldl (insertCandidate documentVersionId caseVersion) base).documents =
      base.documents := by
  induction candidates generalizing base with
  | nil => rfl
  | cons _ _ ih =>
    rw [List.foldl_cons, ih]
    unfold insertCandidate
    split <;> rfl

theorem FromPast.persistCandidates (h : FromPast base)
    (hstep : base.persistCandidates documentVersionId caseVersion candidates fromStage toStage = some base') :
    FromPast base' := by
  -- the stage write finds a document of this version, so the version is in the past
  obtain ⟨document, hdoc, hver⟩ := advanceStage_document hstep
  rw [insertCandidates_documents] at hdoc
  have hpast : caseVersion ≤ base.tables.caseVersion := by
    rw [← hver]
    exact h.documents document hdoc
  exact (h.insertCandidates hpast).advanceStage hstep

/-- A derived fact has the version of its candidate. -/
theorem FromPast.recordOne (h : FromPast base) {input : ConfirmationInput}
    (hstep : EvidenceBase.recordOne caseVersion actorId now base input = some base') :
    FromPast base' := by
  unfold EvidenceBase.recordOne at hstep
  split at hstep
  · cases hstep
    exact h
  · obtain ⟨candidate, hfind, rfl⟩ := Option.map_eq_some_iff.1 hstep
    have hcand := h.candidates candidate (List.mem_of_find?_eq_some hfind)
    refine ⟨h.intents, h.documents, h.candidates, ?_⟩
    intro fact hfact
    rcases List.mem_append.1 hfact with hnew | hold
    · obtain ⟨_, -, rfl⟩ := Option.map_eq_some_iff.1 (Option.mem_toList.1 hnew)
      exact hcand
    · exact h.facts fact hold

theorem FromPast.recordConfirmations (h : FromPast base) {expectedStage : DocumentStage}
    {inputs : List ConfirmationInput}
    (hstep : base.recordConfirmations documentVersionId actorId expectedStage inputs now = some base') :
    FromPast base' := by
  unfold EvidenceBase.recordConfirmations at hstep
  split at hstep
  · cases hstep
  split at hstep
  · cases hstep
  · exact Results.foldlM_invariant (fun hbase hone => FromPast.recordOne hbase hone) h hstep

/-- **No request puts evidence ahead of its case.** -/
theorem FromPast.step (h : FromPast base) {q : Request}
    (hstep : Evidence.step base q = some base') : FromPast base' := by
  cases q with
  | createUploadIntent intentId caseVersion originalFilename =>
    simp only [Evidence.step] at hstep
    split at hstep
    · rename_i hver
      cases hstep
      refine ⟨?_, h.documents, h.candidates, h.facts⟩
      intro intent hintent
      rcases List.mem_cons.1 hintent with rfl | hold
      · exact hver
      · exact h.intents intent hold
    · cases hstep
  | registerUpload => exact h.registerUpload hstep
  | advanceStage => exact h.advanceStage hstep
  | persistCandidates =>
    exact h.persistCandidates hstep
  | recordConfirmations =>
    exact h.recordConfirmations hstep
  | otherWrites tables =>
    simp only [Evidence.step] at hstep
    split at hstep
    · rename_i hsame
      cases hstep
      exact h.withTables hsame.2.ge
    · cases hstep
  | bumpCaseVersion revision handoffId =>
    simp only [Evidence.step] at hstep
    split at hstep
    · rename_i tables hbump
      cases hstep
      apply h.withTables
      rw [(CaseTables.bumpCaseVersion_ok hbump).1, (CaseTables.bumpCaseVersion_ok hbump).2]
      exact Nat.le_succ _
    · cases hstep

/-! ## What a revision carries over -/

/-- The confirmed facts that the makers and the checker load are the same before and after, each with
its value and lineage. -/
structure CarriedOver (before after : EvidenceBase) : Prop where
  underwriting : ∀ caseId now now',
    (after.underwritingView caseId now').map (·.confirmedFacts) =
      (before.underwritingView caseId now).map (·.confirmedFacts)
  legal : ∀ caseId now now',
    (after.legalView caseId now').map (·.confirmedFacts) =
      (before.legalView caseId now).map (·.confirmedFacts)
  checker : ∀ caseId now now',
    (after.checkerView caseId now').map (·.confirmedFacts) =
      (before.checkerView caseId now).map (·.confirmedFacts)
  blind : ∀ caseId now now',
    (after.blindView caseId now').map (·.confirmedFacts) =
      (before.blindView caseId now).map (·.confirmedFacts)

/-- The version has no live confirmed fact. -/
def NoLiveFact (base : EvidenceBase) (caseVersion : CaseVersion) : Prop :=
  ∀ fact ∈ base.facts, isLiveFact caseVersion fact = false

theorem loadFacts_eq_nil_iff (base : EvidenceBase) (caseVersion : CaseVersion) :
    base.loadFacts caseVersion = [] ↔ NoLiveFact base caseVersion := by
  have hlen : base.loadFacts caseVersion = [] ↔
      base.facts.reverse.filter (isLiveFact caseVersion) = [] := by
    rw [← List.length_eq_zero_iff, ← List.length_eq_zero_iff, EvidenceBase.loadFacts,
      List.length_map, List.length_insertionSort]
  rw [hlen, List.filter_eq_nil_iff, NoLiveFact]
  constructor
  · intro h fact hfact
    exact Bool.eq_false_iff.2 (h fact (List.mem_reverse.2 hfact))
  · intro h fact hfact
    exact Bool.eq_false_iff.1 (h fact (List.mem_reverse.1 hfact))

variable {revision : RevisionRequest}

theorem bump_cases (hstep : step base (.bumpCaseVersion revision handoffId) = some base') :
    ∃ tables, base' = { base with tables } ∧ tables.caseId = base.tables.caseId ∧
      tables.caseVersion = base.tables.caseVersion + 1 := by
  simp only [step] at hstep
  split at hstep
  · rename_i tables hbump
    cases hstep
    exact ⟨tables, rfl, CaseTables.bumpCaseVersion_next hbump⟩
  · cases hstep

/-- The version a bump opens has no live fact. -/
theorem loadFacts_bump (h : FromPast base)
    (hstep : step base (.bumpCaseVersion revision handoffId) = some base') :
    base'.loadFacts base'.tables.caseVersion = [] := by
  obtain ⟨_, rfl, -, hnext⟩ := bump_cases hstep
  rw [loadFacts_eq_nil_iff]
  intro fact hfact
  have hpast := h.facts fact hfact
  apply decide_eq_false
  rintro ⟨hver, -⟩
  have hahead : base.tables.caseVersion + 1 ≤ base.tables.caseVersion := by
    rw [← hnext]
    exact hver ▸ hpast
  exact Nat.not_succ_le_self _ hahead

/-- **What a maker revision carries over.** In every state reached, a bump leaves the evidence views as
they were exactly when the version it leaves had no live confirmed fact. -/
theorem carriedOver_iff {tables : CaseTables} {requests : List Request} {revision : RevisionRequest}
    {handoffId : Uuid} (hrun : run step (noEvidence tables) requests = some base)
    (hbump : step base (.bumpCaseVersion revision handoffId) = some base') :
    CarriedOver base base' ↔ NoLiveFact base base.tables.caseVersion := by
  have hpast : FromPast base :=
    run_invariant (fun h hstep => h.step hstep) (noEvidence_fromPast tables) hrun
  have hempty := loadFacts_bump hpast hbump
  obtain ⟨_, hbase', hcase, -⟩ := bump_cases hbump
  have hid : base'.tables.caseId = base.tables.caseId := by
    rw [hbase']
    exact hcase
  rw [← loadFacts_eq_nil_iff]
  constructor
  · intro hcarried
    have hsame := hcarried.underwriting base.tables.caseId 0 0
    rw [underwritingView, underwritingView, if_pos hid, if_pos rfl, Option.map_some,
      Option.map_some, Option.some.injEq] at hsame
    exact hsame.symm.trans hempty
  · intro hnone
    -- both sides load nothing, whichever loader and whichever case is asked for
    refine ⟨?_, ?_, ?_, ?_⟩
    · intro caseId now now'
      rw [underwritingView, underwritingView, hempty, hnone, hid]
      split <;> rfl
    · intro caseId now now'
      rw [legalView, legalView, hempty, hnone, hid]
      split <;> rfl
    · intro caseId now now'
      rw [checkerView, checkerView, hempty, hnone, hid]
      split <;> rfl
    · intro caseId now now'
      rw [blindView, blindView, hempty, hnone, hid]
      split <;> rfl

end Steps

/-! ## A confirmed fact and a revision -/

/-- A case at version one. -/
def sampleTables : CaseTables where
  caseId := 10
  caseVersion := 1
  handoffs := []
  tasks := []
  dependencies := []
  gates := []
  gaps := []
  outbox := []
  audit := []

/-- A financial statement is uploaded and read, and the officer accepts the revenue found in it. -/
def revenueConfirmed : List Request :=
  [.createUploadIntent 30 1 "bao-cao-tai-chinh.pdf", .registerUpload 30 31 1,
    .advanceStage 31 1 .registered .securityValidated, .advanceStage 31 1 .securityValidated .parsed,
    .advanceStage 31 1 .parsed .classified,
    .persistCandidates 31 1 [⟨32, 33, "revenue", .number ⟨125, 8⟩⟩] .classified .extracted,
    .advanceStage 31 1 .extracted .indexed, .advanceStage 31 1 .indexed .readyForOfficerReview,
    .recordConfirmations 31 40 .readyForOfficerReview [⟨34, 35, 32, .accepted⟩] 2]

/-- The revision the risk reviewer asks for. -/
def revised : Request :=
  .bumpCaseVersion ⟨1, 50, 41, "phân tích lại dòng tiền"⟩ 20

/-- Nothing was confirmed: the revision leaves the views as they were. -/
theorem revised_without_facts_carriedOver :
    ∃ base base', run step (noEvidence sampleTables) [] = some base ∧
      step base revised = some base' ∧ CarriedOver base base' := by
  have hruns : (run step (noEvidence sampleTables) []).any (fun base =>
      (step base revised).isSome ∧ base.facts = []) = true := by
    decide +kernel
  obtain ⟨base, hrun, hboth⟩ := (Option.any_eq_true _ _).1 hruns
  obtain ⟨hbumps, hfacts⟩ := of_decide_eq_true hboth
  obtain ⟨base', hbump⟩ := Option.isSome_iff_exists.1 hbumps
  refine ⟨base, base', hrun, hbump, (carriedOver_iff hrun hbump).2 ?_⟩
  intro fact hfact
  rw [hfacts] at hfact
  cases hfact

/-- **The promise fails on the code.** The confirmed revenue is gone from every view of version two. -/
theorem revised_not_carriedOver :
    ¬ ∀ (requests : List Request) (base base' : EvidenceBase) (revision : RevisionRequest)
        (handoffId : Uuid), run step (noEvidence sampleTables) requests = some base →
      step base (.bumpCaseVersion revision handoffId) = some base' → CarriedOver base base' := by
  intro hclaim
  have hcheck : (run step (noEvidence sampleTables) revenueConfirmed).any (fun base =>
      (step base revised).any fun base' =>
        (base'.underwritingView 10 3).map (·.confirmedFacts) ≠
          (base.underwritingView 10 3).map (·.confirmedFacts)) = true := by
    decide +kernel
  obtain ⟨base, hrun, hbumps⟩ := (Option.any_eq_true _ _).1 hcheck
  obtain ⟨base', hbump, hdiffer⟩ := (Option.any_eq_true _ _).1 hbumps
  have hcarried := hclaim revenueConfirmed base base' _ 20 hrun hbump
  exact of_decide_eq_true hdiffer (hcarried.underwriting 10 3 3)

end CreditOps.Evidence
