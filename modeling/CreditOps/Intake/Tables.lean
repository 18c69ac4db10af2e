import CreditOps.Library.AppendLog
import CreditOps.Library.KeyedTable
import CreditOps.Intake.Handoffs

/-!
# The intake tables of one case version

The rows of one case version that intake reads, and the transactions that write them: uploads register
document versions, ingestion moves each of them on by single stages and writes its candidates with the move
to `EXTRACTED`, and the officer's batches record one disposition for each candidate of a version that is
ready for review. Handoffs are inserted and never changed.
-/

set_option autoImplicit false

namespace CreditOps.Intake

open Evidence (DocumentStage FactValue FactDisposition)
open Ingestion (Place)
open KeyedTable

/-! ## Rows -/

/-- One row of `document_versions`. -/
structure DocumentRow where
  id : Uuid
  stage : DocumentStage
  staleAt : Option Timestamp
deriving DecidableEq

/-- One row of `candidate_facts`, with its region. -/
structure CandidateRow where
  id : Uuid
  documentVersionId : Uuid
  fieldKey : String
  proposedValue : FactValue
  confidence : ℚ
  region : Place
  createdAt : Timestamp
  staleAt : Option Timestamp
deriving DecidableEq

/-- One row of `fact_confirmations`. -/
structure ConfirmationRow where
  id : Uuid
  candidateFactId : Uuid
  disposition : FactDisposition
  actorId : Uuid
  assignedOfficerId : Uuid
  authoritySource : String
  authorityGrantedAt : Timestamp
  confirmedAt : Timestamp
  createdAt : Timestamp
deriving DecidableEq

/-- One row of `confirmed_facts`: its id, and what a trigger derives the rest from. -/
structure FactRow where
  id : Uuid
  candidateFactId : Uuid
  confirmationId : Uuid
  createdAt : Timestamp
  staleAt : Option Timestamp
deriving DecidableEq

/-- One `DOCUMENT_INGESTION` row of `processing_tasks`. -/
structure IngestionTaskRow where
  id : Uuid
  createdAt : Timestamp
deriving DecidableEq

/-- One row of `handoffs` in the state `READY_FOR_SPECIALIST_REVIEW`, the only one there is. -/
structure HandoffRow where
  id : Uuid
  sourceTaskId : Uuid
  artifact : HandoffArtifact
  createdById : Uuid
  createdAt : Timestamp
  staleAt : Option Timestamp
deriving DecidableEq

/-- The row is live. -/
def HandoffRow.isLive (row : HandoffRow) : Bool :=
  row.staleAt = none

/-- The tables of one case version. -/
structure IntakeTables where
  caseId : Uuid
  caseVersion : CaseVersion
  documents : List DocumentRow
  candidates : List CandidateRow
  confirmations : List ConfirmationRow
  facts : List FactRow
  ingestionTasks : List IngestionTaskRow
  handoffs : List HandoffRow

namespace IntakeTables

/-! ## Uploads, ingestion and review -/

/-- `register_verified_upload`: a registered document version and its ingestion task. -/
def registerUpload (s : IntakeTables) (documentVersionId taskId : Uuid) (now : Timestamp) :
    Option IntakeTables :=
  if s.documents.any (·.id = documentVersionId) then none
  else
    some { s with
           documents := s.documents ++ [⟨documentVersionId, .registered, none⟩]
           ingestionTasks := s.ingestionTasks ++ [⟨taskId, now⟩] }

/-- The document after a move. -/
def moved (documentVersionId : Uuid) (toStage : DocumentStage) (row : DocumentRow) : DocumentRow :=
  if row.id = documentVersionId then { row with stage := toStage } else row

/-- `_advance_stage`: a legal single step, from the stage it starts at or already done. -/
def advanceStage (s : IntakeTables) (documentVersionId : Uuid) (fromStage toStage : DocumentStage) :
    Option IntakeTables :=
  if fromStage.next = some toStage ∧ s.documents.any fun row =>
      row.id = documentVersionId ∧ (row.stage = fromStage ∨ row.stage = toStage) then
    some { s with documents := s.documents.map (moved documentVersionId toStage) }
  else none

/-- A candidate the extraction found. -/
structure PersistableCandidate where
  candidateFactId : Uuid
  fieldKey : String
  proposedValue : FactValue
  confidence : ℚ
  region : Place
deriving DecidableEq

/-- The row of a found candidate. -/
def candidateRow (documentVersionId : Uuid) (now : Timestamp) (candidate : PersistableCandidate) :
    CandidateRow where
  id := candidate.candidateFactId
  documentVersionId
  fieldKey := candidate.fieldKey
  proposedValue := candidate.proposedValue
  confidence := candidate.confidence
  region := candidate.region
  createdAt := now
  staleAt := none

/-- `persist_candidates`, from `CLASSIFIED` to `EXTRACTED`. -/
def persistCandidates (s : IntakeTables) (documentVersionId : Uuid)
    (candidates : List PersistableCandidate) (now : Timestamp) : Option IntakeTables :=
  advanceStage
    { s with
      candidates := addAll CandidateRow.id s.candidates
        (candidates.map (candidateRow documentVersionId now)) }
    documentVersionId .classified .extracted

/-- One disposition of a batch, with the uuids drawn for its rows. -/
structure DispositionInput where
  confirmationId : Uuid
  confirmedFactId : Uuid
  candidateId : Uuid
  disposition : FactDisposition
deriving DecidableEq

/-- `_AUTHORITY_SOURCE` -/
def authoritySource : String := "CASE_ASSIGNMENT"

/-- The row of a disposition. -/
def confirmationRow (actorId : Uuid) (now : Timestamp) (input : DispositionInput) : ConfirmationRow where
  id := input.confirmationId
  candidateFactId := input.candidateId
  disposition := input.disposition
  actorId
  assignedOfficerId := actorId
  authoritySource
  authorityGrantedAt := now
  confirmedAt := now
  createdAt := now

/-- `_record_one` and `_derive_confirmed_fact`: a candidate with a disposition is passed over, and an
unknown candidate is a foreign key violation. -/
def recordOne (actorId : Uuid) (now : Timestamp) (s : IntakeTables) (input : DispositionInput) :
    Option IntakeTables :=
  if s.confirmations.any (·.candidateFactId = input.candidateId) then some s
  else if s.candidates.any (·.id = input.candidateId) then
    some { s with
           confirmations := s.confirmations ++ [confirmationRow actorId now input]
           facts :=
            if supported input.disposition then
              s.facts ++ [⟨input.confirmedFactId, input.candidateId, input.confirmationId, now, none⟩]
            else s.facts }
  else none

/-- `record_confirmations` on a live document version that is ready for review. -/
def recordConfirmations (s : IntakeTables) (documentVersionId actorId : Uuid)
    (inputs : List DispositionInput) (now : Timestamp) : Option IntakeTables :=
  match s.documents.find? (·.id = documentVersionId) with
  | none => none
  | some document =>
    if document.staleAt ≠ none ∨ document.stage ≠ .readyForOfficerReview then none
    else inputs.foldlM (recordOne actorId now) s

end IntakeTables

/-- One transaction of uploads, ingestion or review. -/
inductive EvidenceWrite where
  | registerUpload (documentVersionId taskId : Uuid) (now : Timestamp)
  | advanceStage (documentVersionId : Uuid) (fromStage toStage : DocumentStage)
  | persistCandidates (documentVersionId : Uuid) (candidates : List IntakeTables.PersistableCandidate)
      (now : Timestamp)
  | recordConfirmations (documentVersionId actorId : Uuid) (inputs : List IntakeTables.DispositionInput)
      (now : Timestamp)
deriving DecidableEq

namespace IntakeTables

/-- What a transaction writes; `none` when it is rolled back. -/
def write (s : IntakeTables) : EvidenceWrite → Option IntakeTables
  | .registerUpload documentVersionId taskId now => s.registerUpload documentVersionId taskId now
  | .advanceStage documentVersionId fromStage toStage =>
    s.advanceStage documentVersionId fromStage toStage
  | .persistCandidates documentVersionId candidates now =>
    s.persistCandidates documentVersionId candidates now
  | .recordConfirmations documentVersionId actorId inputs now =>
    s.recordConfirmations documentVersionId actorId inputs now

/-! ## Reads -/

/-- The rows in the order of their creation. -/
def inOrder {α : Type} (createdAt : α → Timestamp) (id : α → Uuid) (rows : List α) : List α :=
  rows.insertionSort fun a b => createdAt a < createdAt b ∨ (createdAt a = createdAt b ∧ id a ≤ id b)

/-- The candidate of a row. -/
def toCandidate (s : IntakeTables) (row : CandidateRow) : CandidateFact where
  id := row.id
  caseId := s.caseId
  caseVersion := s.caseVersion
  documentVersionId := row.documentVersionId
  fieldKey := row.fieldKey
  proposedValue := row.proposedValue
  confidence := row.confidence
  source := row.region

/-- The confirmation of a row. -/
def toConfirmation (s : IntakeTables) (row : ConfirmationRow) : FactConfirmation where
  id := row.id
  candidateId := row.candidateFactId
  disposition := row.disposition
  authority :=
    { caseId := s.caseId
      caseVersion := s.caseVersion
      actorId := row.actorId
      assignedOfficerId := row.assignedOfficerId
      grantedAt := row.authorityGrantedAt
      source := row.authoritySource }
  confirmedAt := row.confirmedAt

/-- The first query of `load_intake_evidence`: the live candidates. -/
def readCandidates (s : IntakeTables) : List CandidateFact :=
  (inOrder CandidateRow.createdAt CandidateRow.id (s.candidates.filter (·.staleAt = none))).map
    s.toCandidate

/-- The second query: the confirmations. -/
def readConfirmations (s : IntakeTables) : List FactConfirmation :=
  (inOrder ConfirmationRow.createdAt ConfirmationRow.id s.confirmations).map s.toConfirmation

/-- The third query: the live facts, rebuilt from what the queries before have read. None where a candidate
or a confirmation is missing (`KeyError`), or where the two do not make a fact. -/
def readFacts (s : IntakeTables) (candidates : List CandidateFact)
    (confirmations : List FactConfirmation) : Option (List ConfirmedFact) :=
  (inOrder FactRow.createdAt FactRow.id (s.facts.filter (·.staleAt = none))).mapM fun row =>
    (candidates.find? (·.id = row.candidateFactId)).bind fun candidate =>
      (confirmations.find? (·.id = row.confirmationId)).bind fun confirmation =>
        fromConfirmation row.id candidate confirmation

/-- `load_current_handoff`: the live handoff created last. -/
def loadCurrentHandoff (s : IntakeTables) : Option HandoffRow :=
  AppendLog.latest (fun a b : HandoffRow => a.createdAt ≤ b.createdAt) HandoffRow.isLive s.handoffs

/-- The first query of `persist_handoff`: the live handoff created first. -/
def firstHandoff (s : IntakeTables) : Option HandoffRow :=
  ((s.handoffs.filter HandoffRow.isLive).insertionSort fun a b => a.createdAt ≤ b.createdAt).head?

/-- Its second query: the ingestion task created last. -/
def sourceTask (s : IntakeTables) : Option IngestionTaskRow :=
  AppendLog.latest (fun a b : IngestionTaskRow => a.createdAt ≤ b.createdAt) (fun _ => true)
    s.ingestionTasks

/-- A live handoff exists. -/
def HasLiveHandoff (s : IntakeTables) : Prop :=
  ∃ row ∈ s.handoffs, row.isLive = true

instance (s : IntakeTables) : Decidable s.HasLiveHandoff :=
  inferInstanceAs (Decidable (∃ row ∈ s.handoffs, _))

/-! ## What the transactions keep -/

/-- Rows are added beside the handoffs: candidates and confirmations stay. -/
structure Grows (s s' : IntakeTables) : Prop where
  caseId : s'.caseId = s.caseId
  caseVersion : s'.caseVersion = s.caseVersion
  handoffs : s'.handoffs = s.handoffs
  candidates : s.candidates ⊆ s'.candidates
  confirmations : s.confirmations ⊆ s'.confirmations

/-- The unique keys: the ids of candidates, and one disposition for each. -/
structure Keyed (s : IntakeTables) : Prop where
  candidates : (s.candidates.map CandidateRow.id).Nodup
  dispositions : (s.confirmations.map ConfirmationRow.candidateFactId).Nodup

variable {s s' : IntakeTables}

theorem Grows.refl (s : IntakeTables) : s.Grows s :=
  ⟨rfl, rfl, rfl, List.Subset.refl _, List.Subset.refl _⟩

theorem Grows.trans {s'' : IntakeTables} (h : s.Grows s') (h' : s'.Grows s'') : s.Grows s'' where
  caseId := h'.caseId.trans h.caseId
  caseVersion := h'.caseVersion.trans h.caseVersion
  handoffs := h'.handoffs.trans h.handoffs
  candidates := List.Subset.trans h.candidates h'.candidates
  confirmations := List.Subset.trans h.confirmations h'.confirmations

/-- The effect of one disposition. -/
theorem recordOne_cases {actorId : Uuid} {now : Timestamp} {input : DispositionInput}
    (h : recordOne actorId now s input = some s') :
    s' = s ∨ ((∀ row ∈ s.confirmations, row.candidateFactId ≠ input.candidateId) ∧
      ∃ facts, s' =
        { s with confirmations := s.confirmations ++ [confirmationRow actorId now input], facts }) := by
  unfold recordOne at h
  split at h
  · cases h
    exact Or.inl rfl
  · rename_i hfree
    split at h
    · cases h
      refine Or.inr ⟨?_, _, rfl⟩
      intro row hmem hid
      exact hfree (List.any_eq_true.2 ⟨row, hmem, decide_eq_true hid⟩)
    · cases h

/-- A batch of dispositions leaves documents and candidates alone. -/
theorem recordConfirmations_frame {documentVersionId actorId : Uuid} {inputs : List DispositionInput}
    {now : Timestamp} (h : s.recordConfirmations documentVersionId actorId inputs now = some s') :
    s'.documents = s.documents ∧ s'.candidates = s.candidates ∧ s.Grows s' ∧
      (s.Keyed → s'.Keyed) := by
  have hstep : ∀ {m input m'}, (m.documents = s.documents ∧ m.candidates = s.candidates ∧ s.Grows m ∧
      (s.Keyed → m.Keyed)) → recordOne actorId now m input = some m' →
        m'.documents = s.documents ∧ m'.candidates = s.candidates ∧ s.Grows m' ∧
          (s.Keyed → m'.Keyed) := by
    rintro m _ _ ⟨hdocs, hcands, hgrows, hkeyed⟩ hone
    rcases recordOne_cases hone with rfl | ⟨hfree, _, rfl⟩
    · exact ⟨hdocs, hcands, hgrows, hkeyed⟩
    · refine ⟨hdocs, hcands, hgrows.trans ?_, ?_⟩
      · exact ⟨rfl, rfl, rfl, List.Subset.refl _, List.subset_append_left _ _⟩
      · intro hs
        refine ⟨(hkeyed hs).candidates, ?_⟩
        -- the candidate of the new row has none before it
        rw [List.map_append, List.nodup_append]
        refine ⟨(hkeyed hs).dispositions, List.nodup_singleton _, ?_⟩
        rintro _ hmem _ hnew rfl
        obtain ⟨row, hrow, rfl⟩ := List.mem_map.1 hmem
        exact hfree row hrow (List.mem_singleton.1 hnew)
  unfold recordConfirmations at h
  split at h
  · cases h
  split at h
  · cases h
  exact Results.foldlM_invariant hstep
    ⟨rfl, rfl, Grows.refl s, fun hs => hs⟩ h

theorem advanceStage_eq_some {documentVersionId : Uuid} {fromStage toStage : DocumentStage}
    (h : s.advanceStage documentVersionId fromStage toStage = some s') :
    fromStage.next = some toStage ∧
      (∃ row ∈ s.documents, row.stage = fromStage ∨ row.stage = toStage) ∧
        s' = { s with documents := s.documents.map (moved documentVersionId toStage) } := by
  unfold advanceStage at h
  split at h
  · rename_i hguard
    cases h
    obtain ⟨row, hmem, hrow⟩ := List.any_eq_true.1 hguard.2
    exact ⟨hguard.1, ⟨row, hmem, (of_decide_eq_true hrow).2⟩, rfl⟩
  · cases h

/-- **What a transaction keeps.** -/
theorem write_grows {e : EvidenceWrite} (h : s.write e = some s') :
    s.Grows s' ∧ (s.Keyed → s'.Keyed) := by
  cases e with
  | registerUpload =>
    obtain ⟨-, heq⟩ := Option.ite_none_left_eq_some.1 h
    cases heq
    exact ⟨⟨rfl, rfl, rfl, List.Subset.refl _, List.Subset.refl _⟩, fun hs => ⟨hs.candidates, hs.dispositions⟩⟩
  | advanceStage =>
    obtain ⟨-, -, rfl⟩ := advanceStage_eq_some h
    exact ⟨⟨rfl, rfl, rfl, List.Subset.refl _, List.Subset.refl _⟩, fun hs => ⟨hs.candidates, hs.dispositions⟩⟩
  | persistCandidates =>
    obtain ⟨-, -, rfl⟩ := advanceStage_eq_some h
    refine ⟨⟨rfl, rfl, rfl, fun row hmem => mem_addAll_of_mem hmem, List.Subset.refl _⟩, fun hs => ?_⟩
    exact ⟨addAll_nodup hs.candidates _, hs.dispositions⟩
  | recordConfirmations =>
    obtain ⟨-, -, hgrows, hkeyed⟩ := recordConfirmations_frame h
    exact ⟨hgrows, hkeyed⟩

end IntakeTables

end CreditOps.Intake
