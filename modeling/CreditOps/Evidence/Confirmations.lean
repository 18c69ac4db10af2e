import CreditOps.Library.KeyedInserts
import CreditOps.Evidence.Views

/-!
# Confirming a batch, statement by statement

An officer confirms the candidates of a document version in one transaction. It locks the version and fails
on one that is stale or at another stage. It then inserts a confirmation for each candidate, and passes over
a candidate that has one; for an accepted or a corrected value it inserts the fact, whose columns a trigger
derives from the candidate and the confirmation, and the three edges from the fact to its evidence; and it
records the confirmation in the audit. Any statement that raises rolls the whole batch back.
-/

set_option autoImplicit false

namespace CreditOps.Evidence

open KeyedInserts

/-! ## Rows and keys -/

/-- `EvidenceEntityType`, as far as lineage goes. -/
inductive EvidenceEntityType where
  | confirmedFact
  | candidateFact
  | pageRegion
  | documentVersion
deriving DecidableEq

/-- `EvidenceEdgeType`, as far as lineage goes. -/
inductive EvidenceEdgeType where
  | derivedFromCandidate
  | locatedInRegion
  | sourcedFromDocumentVersion
deriving DecidableEq

/-- `EvidenceEdge`: the columns of the unique typed edge. -/
structure EvidenceEdge where
  caseVersion : CaseVersion
  edgeType : EvidenceEdgeType
  sourceEntityType : EvidenceEntityType
  sourceEntityId : Uuid
  targetEntityType : EvidenceEntityType
  targetEntityId : Uuid
deriving DecidableEq

/-- The disposition an officer asks for. -/
inductive RequestedDisposition where
  | accepted
  | corrected
  | absent
  | unreadable
deriving DecidableEq

/-- `ConfirmationInput` -/
structure DispositionInput where
  candidateId : Uuid
  disposition : RequestedDisposition
  correctedValue : Option FactValue
  rationale : Option String
deriving DecidableEq

/-- One row of the audit trail of confirmations. -/
structure ConfirmationAudit where
  caseVersion : CaseVersion
  actorId : Uuid
  confirmationId : Uuid
  candidateId : Uuid
  documentVersionId : Uuid
  disposition : RequestedDisposition
  rationale : Option String
deriving DecidableEq

/-- The rows a batch writes. -/
inductive LineageRow where
  | confirmation (row : FactConfirmation)
  | fact (row : ConfirmedFact)
  | edge (id : Uuid) (row : EvidenceEdge)
  | audit (event : ConfirmationAudit)
deriving DecidableEq

/-- The keys of the unique constraints, and the lock of a document version. -/
inductive LineageKey where
  | confirmation (id : Uuid)
  | dispositionOf (candidateId : Uuid)
  | fact (id : Uuid)
  | factOf (confirmationId : Uuid)
  | edge (id : Uuid)
  | typedEdge (row : EvidenceEdge)
  | document (id : Uuid)
deriving DecidableEq

/-- The key an insert names in its conflict clause. -/
def LineageRow.target : LineageRow → Option LineageKey
  | confirmation row => some (.dispositionOf row.candidateFactId)
  | fact row => some (.factOf row.confirmationId)
  | edge _ row => some (.typedEdge row)
  | audit _ => none

/-- The unique keys of a row. -/
def LineageRow.keys : LineageRow → List LineageKey
  | confirmation row => [.confirmation row.id, .dispositionOf row.candidateFactId]
  | fact row => [.fact row.id, .factOf row.confirmationId]
  | edge id row => [.edge id, .typedEdge row]
  | audit _ => []

variable {ι : Type}

/-- A row with the batch that has written it. -/
abbrev BatchRow (ι : Type) := ι × LineageRow

/-- The unique keys of a written row. -/
def batchKeys (row : BatchRow ι) : List LineageKey :=
  row.2.keys

/-! ## Batches -/

/-- A call of `record_confirmations`. -/
structure ConfirmationBatch where
  documentVersionId : Uuid
  confirmations : List DispositionInput
  actorId : Uuid
  expectedDocumentStage : DocumentStage
deriving DecidableEq

/-- `RecordedConfirmations` -/
structure RecordedConfirmations where
  confirmationIds : List Uuid
  confirmedFactIds : List Uuid
  created : Bool
deriving DecidableEq

/-- How far a batch has come. Behind `confirming` it works on one confirmation it has inserted: it derives
the fact, links it and audits it, before it goes on with the inputs that are left. -/
inductive BatchStage where
  | begin
  | confirming (caseVersion : CaseVersion) (recorded : RecordedConfirmations)
      (pending : List DispositionInput)
  | confirmed (caseVersion : CaseVersion) (recorded : RecordedConfirmations) (row : FactConfirmation)
      (input : DispositionInput) (pending : List DispositionInput)
  | linking (caseVersion : CaseVersion) (recorded : RecordedConfirmations) (edges : List EvidenceEdge)
      (row : FactConfirmation) (input : DispositionInput) (pending : List DispositionInput)
  | done (recorded : RecordedConfirmations)
  | failed
deriving DecidableEq

/-- `_record_one` turns the input into the row it inserts; `none` when the row breaks the check on
corrections. -/
def DispositionInput.toDisposition (input : DispositionInput) : Option FactDisposition :=
  match input.disposition with
  | .accepted => some .accepted
  | .corrected => input.correctedValue.map .corrected
  | .absent => some .absent
  | .unreadable => some .unreadable

/-- `_DERIVES_CONFIRMED_FACT` -/
def RequestedDisposition.derivesConfirmedFact : RequestedDisposition → Bool
  | .accepted | .corrected => true
  | .absent | .unreadable => false

/-- The confirmations of a batch under way: documents, candidates and the officers assigned to the case, the
tables the batches insert into, and the batches. -/
structure LineageWorld (ι : Type) where
  documents : List DocumentVersion
  candidates : List CandidateFact
  assigned : List Uuid
  session : Session LineageKey ι (BatchRow ι)
  batches : ι → Option (ConfirmationBatch × BatchStage)

namespace LineageWorld

/-- No evidence and no batch yet. -/
def empty : LineageWorld ι where
  documents := []
  candidates := []
  assigned := []
  session := .empty
  batches _ := none

/-- `derive_and_protect_confirmed_fact`: the columns of a fact, from its candidate and its confirmation. -/
def deriveConfirmedFact (candidates : List CandidateFact) (row : FactConfirmation) (id : Uuid)
    (now : Timestamp) : Option ConfirmedFact :=
  (candidates.find? (·.id = row.candidateFactId)).bind fun candidate =>
    (EvidenceBase.FactDisposition.expectedValue candidate row.disposition).bind fun value =>
      if row.caseVersion ≠ candidate.caseVersion then none
      else
        some
          { id
            caseVersion := candidate.caseVersion
            candidateFactId := candidate.id
            confirmationId := row.id
            documentVersionId := candidate.documentVersionId
            pageRegionId := candidate.pageRegionId
            fieldKey := candidate.fieldKey
            value
            candidateValue := candidate.proposedValue
            createdAt := now
            staleAt := none }

/-- `_write_evidence_edges`: the lineage of a fact. -/
def evidenceEdges (caseVersion : CaseVersion) (fact : ConfirmedFact) : List EvidenceEdge :=
  [⟨caseVersion, .derivedFromCandidate, .confirmedFact, fact.id, .candidateFact, fact.candidateFactId⟩,
    ⟨caseVersion, .locatedInRegion, .confirmedFact, fact.id, .pageRegion, fact.pageRegionId⟩,
    ⟨caseVersion, .sourcedFromDocumentVersion, .confirmedFact, fact.id, .documentVersion,
      fact.documentVersionId⟩]

variable [DecidableEq ι]

/-- Move a batch on. -/
def put (w : LineageWorld ι) (id : ι) (batch : ConfirmationBatch) (stage : BatchStage) :
    LineageWorld ι :=
  { w with batches := Function.update w.batches id (some (batch, stage)) }

/-- A statement raises: the transaction is rolled back. -/
def abort (w : LineageWorld ι) (id : ι) (batch : ConfirmationBatch) : LineageWorld ι :=
  { w.put id batch .failed with session := w.session.rollback id }

/-- What a conflict-ignoring insert comes to: it waits, finds the row of its conflict clause, meets another
key and raises, or inserts. -/
inductive Outcome (ι : Type) where
  | waits
  | exists
  | raises
  | inserted (session : Session LineageKey ι (BatchRow ι))

/-- `insert … on conflict (…) do nothing`. -/
def insertNew (session : Session LineageKey ι (BatchRow ι)) (id : ι) (row : LineageRow) : Outcome ι :=
  match session.insert batchKeys id (id, row) with
  | .waits => .waits
  | .conflict =>
    if row.target.any fun key => Taken batchKeys (session.view id) key then .exists else .raises
  | .inserted session => .inserted session

/-- `select … for update` of the document version, and the guards on it. -/
def lockDocument (w : LineageWorld ι) (id : ι) (batch : ConfirmationBatch) : Option (LineageWorld ι) :=
  (w.session.lock id (.document batch.documentVersionId)).map fun session =>
    match w.documents.find? (·.id = batch.documentVersionId) with
    | none => w.abort id batch
    | some document =>
      if document.staleAt ≠ none ∨ document.stage ≠ batch.expectedDocumentStage then w.abort id batch
      else
        { w.put id batch (.confirming document.caseVersion ⟨[], [], false⟩ batch.confirmations) with
          session }

/-- The id of the confirmation a candidate has. -/
def existingConfirmation (rows : List (BatchRow ι)) (candidateId : Uuid) : Option Uuid :=
  rows.findSome? fun row =>
    match row.2 with
    | .confirmation row => if row.candidateFactId = candidateId then some row.id else none
    | .fact _ | .edge _ _ | .audit _ => none

/-- `_record_one`: the confirmation of the next candidate. -/
def recordOne (w : LineageWorld ι) (id : ι) (newId : Uuid) (batch : ConfirmationBatch)
    (caseVersion : CaseVersion) (recorded : RecordedConfirmations) (input : DispositionInput)
    (pending : List DispositionInput) : Option (LineageWorld ι) :=
  match input.toDisposition with
  | none => some (w.abort id batch)
  | some disposition =>
    if batch.actorId ∉ w.assigned then some (w.abort id batch)
    else
      let row : FactConfirmation := ⟨newId, caseVersion, input.candidateId, disposition, batch.actorId⟩
      match insertNew w.session id (.confirmation row) with
      | .waits => none
      | .raises => some (w.abort id batch)
      | .exists =>
        match existingConfirmation (w.session.view id) input.candidateId with
        | none => some (w.abort id batch)
        | some existing =>
          some (w.put id batch (.confirming caseVersion
            { recorded with confirmationIds := recorded.confirmationIds ++ [existing] } pending))
      | .inserted session =>
        -- the foreign key to the candidate of the case version
        if w.candidates.any fun candidate =>
            candidate.id = input.candidateId ∧ candidate.caseVersion = caseVersion then
          let recorded : RecordedConfirmations :=
            { recorded with
              confirmationIds := recorded.confirmationIds ++ [newId]
              created := true }
          if input.disposition.derivesConfirmedFact then
            some { w.put id batch (.confirmed caseVersion recorded row input pending) with session }
          else some { w.put id batch (.linking caseVersion recorded [] row input pending) with session }
        else some (w.abort id batch)

/-- `_derive_confirmed_fact`: the fact of a confirmation just inserted. -/
def derive (w : LineageWorld ι) (id : ι) (newId : Uuid) (now : Timestamp) (batch : ConfirmationBatch)
    (caseVersion : CaseVersion) (recorded : RecordedConfirmations) (row : FactConfirmation)
    (input : DispositionInput) (pending : List DispositionInput) : Option (LineageWorld ι) :=
  match deriveConfirmedFact w.candidates row newId now with
  | none => some (w.abort id batch)
  | some fact =>
    match insertNew w.session id (.fact fact) with
    | .waits => none
    | .raises => some (w.abort id batch)
    | .exists => some (w.put id batch (.linking caseVersion recorded [] row input pending))
    | .inserted session =>
      some
        { w.put id batch (.linking caseVersion
            { recorded with confirmedFactIds := recorded.confirmedFactIds ++ [newId] }
            (evidenceEdges caseVersion fact) row input pending) with session }

/-- One edge of a fact, or, when none is left, the audit event of its confirmation. -/
def link (w : LineageWorld ι) (id : ι) (newId : Uuid) (batch : ConfirmationBatch)
    (caseVersion : CaseVersion) (recorded : RecordedConfirmations) (row : FactConfirmation)
    (input : DispositionInput) (pending : List DispositionInput) :
    List EvidenceEdge → Option (LineageWorld ι)
  | edge :: edges =>
    match insertNew w.session id (.edge newId edge) with
    | .waits => none
    | .raises => some (w.abort id batch)
    | .exists => some (w.put id batch (.linking caseVersion recorded edges row input pending))
    | .inserted session =>
      some { w.put id batch (.linking caseVersion recorded edges row input pending) with session }
  | [] =>
    match insertNew w.session id (.audit
        { caseVersion
          actorId := batch.actorId
          confirmationId := row.id
          candidateId := input.candidateId
          documentVersionId := batch.documentVersionId
          disposition := input.disposition
          rationale := input.rationale }) with
    | .waits => none
    | .exists | .raises => some (w.abort id batch)
    | .inserted session => some { w.put id batch (.confirming caseVersion recorded pending) with session }

/-- The next statement of a batch, with the id it draws; `none` when there is none, or when it waits. -/
def statement (w : LineageWorld ι) (id : ι) (newId : Uuid) (now : Timestamp) :
    Option (LineageWorld ι) :=
  match w.batches id with
  | some (batch, .begin) => w.lockDocument id batch
  | some (batch, .confirming _ recorded []) =>
    some { w.put id batch (.done recorded) with session := w.session.commit id }
  | some (batch, .confirming caseVersion recorded (input :: pending)) =>
    w.recordOne id newId batch caseVersion recorded input pending
  | some (batch, .confirmed caseVersion recorded row input pending) =>
    w.derive id newId now batch caseVersion recorded row input pending
  | some (batch, .linking caseVersion recorded edges row input pending) =>
    w.link id newId batch caseVersion recorded row input pending edges
  | some (_, .done _) | some (_, .failed) | none => none

/-- A batch starts, takes its next statement or crashes; a document version is written by another part, a
candidate is extracted, the assignments of the case change. -/
inductive Action (ι : Type) where
  | request (id : ι) (batch : ConfirmationBatch)
  | statement (id : ι) (newId : Uuid) (now : Timestamp)
  | crash (id : ι)
  | putDocument (document : DocumentVersion)
  | addCandidate (candidate : CandidateFact)
  | assign (officers : List Uuid)
deriving DecidableEq

/-- One step of the world; `none` when it is not enabled. A locked document version is not written. -/
def step (w : LineageWorld ι) : Action ι → Option (LineageWorld ι)
  | .request id batch =>
    match w.batches id with
    | none => some (w.put id batch .begin)
    | some _ => none
  | .statement id newId now => w.statement id newId now
  | .crash id =>
    match w.batches id with
    | some (_, .done _) | some (_, .failed) | none => none
    | some (batch, _) => some (w.abort id batch)
  | .putDocument document =>
    if w.session.holder (.document document.id) = none then
      some { w with documents := document :: w.documents.filter (·.id ≠ document.id) }
    else none
  | .addCandidate candidate =>
    if w.candidates.any (·.id = candidate.id) then none
    else some { w with candidates := candidate :: w.candidates }
  | .assign officers => some { w with assigned := officers }

end LineageWorld

end CreditOps.Evidence
