import CreditOps.Evidence.Views
import CreditOps.Ingestion.Documents

/-!
# The handoff of intake

The evidence of a case version as the intake officer hands it over: the candidates, what was decided about
each, and the facts confirmed. `checkHandoff` is the validator of the artifact, with the text of every
refusal: one case and version throughout, each candidate with exactly one disposition, each supported
disposition with exactly one fact, and each fact what its candidate and its disposition make.
-/

set_option autoImplicit false

namespace CreditOps.Intake

open Evidence (FactValue FactDisposition)
open Ingestion (Place)

/-! ## Evidence -/

/-- `==` of two values: a boolean is the number it stands for. -/
def FactValue.pyEq : FactValue → FactValue → Bool
  | .string a, .string b => a = b
  | .number a, .number b => a.toRat = b.toRat
  | .number a, .boolean b | .boolean b, .number a => a.toRat = if b then 1 else 0
  | .boolean a, .boolean b => a = b
  | .string _, .number _ | .string _, .boolean _ | .number _, .string _ | .boolean _, .string _ => false

/-- `ConfirmationAuthority` -/
structure ConfirmationAuthority where
  caseId : Uuid
  caseVersion : CaseVersion
  actorId : Uuid
  assignedOfficerId : Uuid
  grantedAt : Timestamp
  source : String
deriving DecidableEq

/-- `CandidateFact` -/
structure CandidateFact where
  id : Uuid
  caseId : Uuid
  caseVersion : CaseVersion
  documentVersionId : Uuid
  fieldKey : String
  proposedValue : FactValue
  confidence : ℚ
  source : Place
deriving DecidableEq

/-- `FactConfirmation`; a corrected value comes with its disposition. -/
structure FactConfirmation where
  id : Uuid
  candidateId : Uuid
  disposition : FactDisposition
  authority : ConfirmationAuthority
  confirmedAt : Timestamp
deriving DecidableEq

/-- `ConfirmedFact` -/
structure ConfirmedFact where
  id : Uuid
  caseId : Uuid
  caseVersion : CaseVersion
  candidateId : Uuid
  confirmationId : Uuid
  documentVersionId : Uuid
  fieldKey : String
  value : FactValue
  candidateValue : FactValue
  source : Place
  authority : ConfirmationAuthority
  confirmedAt : Timestamp
deriving DecidableEq

/-- The value a disposition gives a candidate; none for `ABSENT` and `UNREADABLE`. -/
def expectedValue (candidate : CandidateFact) : FactDisposition → Option FactValue
  | .accepted => some candidate.proposedValue
  | .corrected value => some value
  | .absent | .unreadable => none

/-- `ConfirmedFact.from_confirmation`; none where it raises. -/
def fromConfirmation (id : Uuid) (candidate : CandidateFact) (confirmation : FactConfirmation) :
    Option ConfirmedFact :=
  if confirmation.candidateId = candidate.id ∧ confirmation.authority.caseId = candidate.caseId ∧
      confirmation.authority.caseVersion = candidate.caseVersion then
    (expectedValue candidate confirmation.disposition).map fun value =>
      { id
        caseId := candidate.caseId
        caseVersion := candidate.caseVersion
        candidateId := candidate.id
        confirmationId := confirmation.id
        documentVersionId := candidate.documentVersionId
        fieldKey := candidate.fieldKey
        value
        candidateValue := candidate.proposedValue
        source := candidate.source
        authority := confirmation.authority
        confirmedAt := confirmation.confirmedAt }
  else none

/-- `HandoffArtifact` -/
structure HandoffArtifact where
  id : Uuid
  caseId : Uuid
  caseVersion : CaseVersion
  candidates : List CandidateFact
  confirmations : List FactConfirmation
  confirmedFacts : List ConfirmedFact
  conflictIds : List Uuid
  gapIds : List Uuid
deriving DecidableEq

/-! ## The validator -/

/-- The disposition supports a confirmed fact. -/
def supported : FactDisposition → Bool
  | .accepted | .corrected _ => true
  | .absent | .unreadable => false

/-- One candidate beside the ones before it. -/
def checkCandidate (artifact : HandoffArtifact) (seen : List CandidateFact) (candidate : CandidateFact) :
    Except String (List CandidateFact) :=
  if candidate.caseId ≠ artifact.caseId ∨ candidate.caseVersion ≠ artifact.caseVersion then
    .error "handoff evidence must share one case/version"
  else if seen.any (·.id = candidate.id) then
    .error "handoff cannot contain duplicate candidate IDs"
  else .ok (seen ++ [candidate])

/-- One confirmation beside the ones before it. -/
def checkConfirmation (artifact : HandoffArtifact) (seen : List FactConfirmation)
    (confirmation : FactConfirmation) : Except String (List FactConfirmation) :=
  if confirmation.authority.caseId ≠ artifact.caseId ∨
      confirmation.authority.caseVersion ≠ artifact.caseVersion then
    .error "handoff evidence must share one case/version"
  else if seen.any (·.id = confirmation.id) then
    .error "handoff cannot contain duplicate confirmation IDs"
  else if artifact.candidates.all (·.id ≠ confirmation.candidateId) then
    .error "handoff confirmation references an unknown candidate"
  else if seen.any (·.candidateId = confirmation.candidateId) then
    .error "each candidate requires exactly one disposition"
  else .ok (seen ++ [confirmation])

/-- The fact is what the candidate and the confirmation make. -/
def matchesEvidence (candidate : CandidateFact) (confirmation : FactConfirmation)
    (fact : ConfirmedFact) : Bool :=
  fact.confirmationId = confirmation.id ∧ fact.documentVersionId = candidate.documentVersionId ∧
    fact.fieldKey = candidate.fieldKey ∧ FactValue.pyEq fact.candidateValue candidate.proposedValue ∧
      (expectedValue candidate confirmation.disposition).any (FactValue.pyEq fact.value) ∧
        fact.source = candidate.source ∧ fact.authority = confirmation.authority ∧
          fact.confirmedAt = confirmation.confirmedAt

/-- One fact beside the ones before it. -/
def checkFact (artifact : HandoffArtifact) (seen : List ConfirmedFact) (fact : ConfirmedFact) :
    Except String (List ConfirmedFact) :=
  if fact.caseId ≠ artifact.caseId ∨ fact.caseVersion ≠ artifact.caseVersion then
    .error "handoff evidence must share one case/version"
  else
    match artifact.candidates.find? (·.id = fact.candidateId),
      artifact.confirmations.find? (·.candidateId = fact.candidateId) with
    | some candidate, some confirmation =>
      if !supported confirmation.disposition then
        .error "handoff fact has an unsupported disposition"
      else if seen.any (·.confirmationId = fact.confirmationId) then
        .error "each supported confirmation requires exactly one confirmed fact"
      else if matchesEvidence candidate confirmation fact then .ok (seen ++ [fact])
      else .error "handoff fact does not match confirmation and candidate evidence"
    | _, _ => .error "handoff fact does not reference confirmed candidate evidence"

/-- The facts beside the dispositions: one for each supported one, and no other. -/
def checkFacts (artifact : HandoffArtifact) : Except String Unit := do
  let facts ← artifact.confirmedFacts.foldlM (checkFact artifact) []
  let supportedIds := (artifact.confirmations.filter (supported ·.disposition)).map (·.id)
  if facts.all (·.confirmationId ∈ supportedIds) ∧
      supportedIds.all fun id => facts.any (·.confirmationId = id) then
    return ()
  else throw "each supported confirmation requires exactly one confirmed fact"

/-- `_check_handoff`, behind the constraint on the case version. -/
def checkHandoff (artifact : HandoffArtifact) : Except String Unit :=
  if artifact.caseVersion < 1 then .error "Input should be greater than or equal to 1"
  else do
    let _ ← artifact.candidates.foldlM (checkCandidate artifact) []
    let _ ← artifact.confirmations.foldlM (checkConfirmation artifact) []
    if artifact.candidates.any fun candidate =>
        artifact.confirmations.all (·.candidateId ≠ candidate.id) then
      throw "handoff has a missing confirmation for a candidate"
    else checkFacts artifact

/-! ## What a checked handoff has -/

/-- **Each candidate of a checked handoff has a disposition.** -/
theorem disposed_of_checkHandoff {artifact : HandoffArtifact} (h : checkHandoff artifact = .ok ())
    {candidate : CandidateFact} (hmem : candidate ∈ artifact.candidates) :
    ∃ confirmation ∈ artifact.confirmations, confirmation.candidateId = candidate.id := by
  by_contra hnone
  -- the candidate would be a missing one
  have hmissing : (artifact.candidates.any fun candidate =>
      artifact.confirmations.all (·.candidateId ≠ candidate.id)) = true := by
    refine List.any_eq_true.2 ⟨candidate, hmem, List.all_eq_true.2 ?_⟩
    intro confirmation hconf
    refine decide_eq_true ?_
    intro hid
    exact hnone ⟨confirmation, hconf, hid⟩
  rw [checkHandoff, if_pos hmissing] at h
  by_cases hver : artifact.caseVersion < 1
  · rw [if_pos hver] at h
    cases h
  · rw [if_neg hver] at h
    obtain ⟨-, -, hcands⟩ := Results.bind_eq_ok.1 h
    obtain ⟨-, -, hrest⟩ := Results.bind_eq_ok.1 hcands
    cases hrest

end CreditOps.Intake
