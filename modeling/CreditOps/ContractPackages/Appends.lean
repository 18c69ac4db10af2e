import CreditOps.Library.AppendLog
import CreditOps.Library.KeyedInserts
import CreditOps.Library.Transition
import CreditOps.ContractPackages.Store

/-!
# Appending to the version chain, statement by statement

The repository appends a package version inside one transaction: it reads the current version, and for a
redline the largest redline number of that version, inserts its rows, and commits. Nothing is locked; the
unique constraints decide between two requests that have read the same current version. The first draft
and the redline row are plain inserts, so the request that meets a row fails. A later version is inserted
with `on conflict do nothing`; a request that meets one rolls back and starts over from the new current
version, up to eight times.
-/

set_option autoImplicit false

namespace CreditOps.ContractPackages

open KeyedInserts

/-! ## Rows and keys -/

/-- A row of `contract_packages`. -/
structure PackageRow where
  id : Uuid
  caseVersion : CaseVersion
  decisionId : Uuid
  termSnapshotHash : String
  contentVi : String
  contentHash : String
  packageVersion : Nat
  state : ContractPackageState
  createdBy : Uuid
deriving DecidableEq

/-- The rows a request can write. -/
inductive ContractRow where
  | package (row : PackageRow)
  | redline (row : ContractRedline)
  | evidence (row : SignatureEvidence)
  | audit (event : ContractAudit)
deriving DecidableEq

/-- The unique constraints at one case version. Ids are fresh, so the primary keys decide nothing. -/
inductive ContractKey where
  | packageVersion (number : Nat)
  | redlineVersion (packageId : Uuid) (number : Nat)
  | evidenceOf (packageId : Uuid)
deriving DecidableEq

namespace ContractRow

/-- The unique keys of a row. -/
def keys : ContractRow → List ContractKey
  | package row => [.packageVersion row.packageVersion]
  | redline row => [.redlineVersion row.packageId row.redlineVersion]
  | evidence row => [.evidenceOf row.packageId]
  | audit _ => []

/-- The row of `contract_packages`, if it is one. -/
def package? : ContractRow → Option PackageRow
  | package row => some row
  | redline _ | evidence _ | audit _ => none

/-- The row of `contract_redlines`, if it is one. -/
def redline? : ContractRow → Option ContractRedline
  | redline row => some row
  | package _ | evidence _ | audit _ => none

end ContractRow

variable {ι : Type}

/-- A row with the request that has written it. -/
abbrev WrittenRow (ι : Type) := ι × ContractRow

/-- The unique keys of a written row. -/
def writtenKeys (row : WrittenRow ι) : List ContractKey :=
  row.2.keys

/-- The package rows, newest first. -/
def packagesOf (rows : List (WrittenRow ι)) : List PackageRow :=
  rows.filterMap fun row => row.2.package?

/-- The redline rows, newest first. -/
def redlinesOf (rows : List (WrittenRow ι)) : List ContractRedline :=
  rows.filterMap fun row => row.2.redline?

/-- The rows of a request, newest first. -/
def rowsBy [DecidableEq ι] (rows : List (WrittenRow ι)) (id : ι) : List ContractRow :=
  (rows.filter (·.1 = id)).map (·.2)

/-- `_load_current_package_on`: the row with the largest version. -/
def loadCurrentPackage (rows : List (WrittenRow ι)) : Option PackageRow :=
  AppendLog.latest (fun p q : PackageRow => p.packageVersion ≤ q.packageVersion) (fun _ => true)
    (packagesOf rows)

/-- `select coalesce(max(redline_version), 0) + 1` -/
def nextRedlineVersion (rows : List (WrittenRow ι)) (packageId : Uuid) : Nat :=
  (((redlinesOf rows).filter (·.packageId = packageId)).map (·.redlineVersion)).foldr max 0 + 1

/-! ## Requests -/

/-- A call of the repository. -/
inductive ContractCall where
  | createPackage (decisionId : Uuid) (termSnapshotHash contentVi contentHash : String)
  | addRedline (changeNoteVi changedContentVi changedContentHash : String)
  | markMaterialChange
  | recordSignatureEvidence (signerNames : List String) (evidenceNoteVi : Option String)
deriving DecidableEq

/-- The endpoints that append a version. -/
inductive ContractEndpoint where
  | createContractPackage (decision : CreditDecision)
  | addContractRedline (changeNoteVi changedContentVi : String)
  | approveContractPackage
  | signContractPackage (signerNames : List String) (evidenceNoteVi : Option String)
deriving DecidableEq

/-- What an endpoint asks of the repository; the approval asks for a fence when the terms have changed. -/
def ContractEndpoint.call : ContractEndpoint → ContractCall
  | createContractPackage decision =>
    .createPackage decision.decisionId decision.snapshotHash (renderContractContentVi decision)
      (computeContentHash (renderContractContentVi decision))
  | addContractRedline changeNoteVi changedContentVi =>
    .addRedline changeNoteVi changedContentVi (computeContentHash changedContentVi)
  | approveContractPackage => .markMaterialChange
  | signContractPackage signerNames evidenceNoteVi =>
    .recordSignatureEvidence signerNames evidenceNoteVi

/-- A request of an officer at the case version. -/
structure ContractRequest where
  caseVersion : CaseVersion
  call : ContractCall
  actorId : Uuid
deriving DecidableEq

/-- What an insert does on a conflict: raise, or do nothing and have the transaction retried. -/
inductive OnConflict where
  | raise
  | retryAppend
deriving DecidableEq

/-- The inserts that are left, in order. -/
abbrev Plan := List (ContractRow × OnConflict)

/-- The first draft. -/
def ContractRequest.draftRow (request : ContractRequest) (newId decisionId : Uuid)
    (termSnapshotHash contentVi contentHash : String) : PackageRow where
  id := newId
  caseVersion := request.caseVersion
  decisionId
  termSnapshotHash
  contentVi
  contentHash
  packageVersion := 1
  state := .draft
  createdBy := request.actorId

/-- The row of `_append_version_on`: the next version after the base. -/
def PackageRow.next (base : PackageRow) (newId : Uuid) (contentVi contentHash : String)
    (state : ContractPackageState) (actorId : Uuid) : PackageRow where
  id := newId
  caseVersion := base.caseVersion
  decisionId := base.decisionId
  termSnapshotHash := base.termSnapshotHash
  contentVi
  contentHash
  packageVersion := base.packageVersion + 1
  state
  createdBy := actorId

/-- The inserts of `create_package`. -/
def createPlan (drafted : PackageRow) : Plan :=
  [(.package drafted, .raise), (.audit (.packageDrafted drafted.id drafted.createdBy), .raise)]

/-- The inserts of `add_redline`. -/
def redlinePlan (redline : ContractRedline) (package : PackageRow) : Plan :=
  [(.redline redline, .raise), (.package package, .retryAppend),
    (.audit (.packageRedlined redline.id redline.createdBy redline.redlineVersion
      package.packageVersion), .raise)]

/-- The inserts of `mark_material_change`. -/
def fencePlan (package : PackageRow) : Plan :=
  [(.package package, .retryAppend),
    (.audit (.materialChangeDetected package.id package.createdBy package.packageVersion), .raise)]

/-- The inserts of `record_signature_evidence`. -/
def signPlan (package : PackageRow) (evidence : SignatureEvidence) : Plan :=
  [(.package package, .retryAppend), (.evidence evidence, .raise),
    (.audit (.packageSignedMock evidence.id evidence.recordedBy package.packageVersion
      evidence.signerNames.length), .raise)]

/-! ## Progress -/

/-- `_MAX_APPEND_ATTEMPTS` -/
def maxAppendAttempts : Nat := 8

/-- How far a request has come, and how often it has lost a race. A redline still reads its number after
the current version; from then on only the inserts and the commit are left. -/
inductive Stage where
  | begin (lost : Nat)
  | numbering (lost : Nat) (base : PackageRow)
  | inserting (lost : Nat) (package : PackageRow) (pending : Plan)
  | done (lost : Nat) (package : PackageRow)
  | failed (lost : Nat)
deriving DecidableEq

/-- How often the request has met a row of another one. -/
def Stage.lost : Stage → Nat
  | begin lost | numbering lost _ | inserting lost _ _ | done lost _ | failed lost => lost

/-- The tables of the case version, and the requests. -/
structure AppendWorld (ι : Type) where
  session : Session ContractKey ι (WrittenRow ι)
  requests : ι → Option (ContractRequest × Stage)

namespace AppendWorld

/-- No package yet, and no request. -/
def empty : AppendWorld ι where
  session := .empty
  requests _ := none

/-- The committed package rows, newest first. -/
def packages (w : AppendWorld ι) : List PackageRow :=
  packagesOf w.session.rows

variable [DecidableEq ι]

/-- The committed rows of a request, newest first. -/
def rowsOf (w : AppendWorld ι) (id : ι) : List ContractRow :=
  rowsBy w.session.rows id

/-- Move a request on. -/
def put (w : AppendWorld ι) (id : ι) (request : ContractRequest) (stage : Stage) : AppendWorld ι :=
  { w with requests := Function.update w.requests id (some (request, stage)) }

/-- End the transaction of a request without its rows. -/
def abort (w : AppendWorld ι) (id : ι) (request : ContractRequest) (stage : Stage) : AppendWorld ι :=
  { w.put id request stage with session := w.session.rollback id }

/-- What a request does once it has read the current version. -/
def afterRead (request : ContractRequest) (lost : Nat) (newId rowId : Uuid) :
    Option PackageRow → Stage
  | none =>
    match request.call with
    | .createPackage decisionId termSnapshotHash contentVi contentHash =>
      let drafted := request.draftRow newId decisionId termSnapshotHash contentVi contentHash
      .inserting lost drafted (createPlan drafted)
    | .addRedline _ _ _ | .markMaterialChange | .recordSignatureEvidence _ _ => .failed lost
  | some base =>
    match request.call with
    | .createPackage _ _ _ _ => .done lost base
    | .addRedline _ _ _ => .numbering lost base
    | .markMaterialChange =>
      if base.state = .materialChangeDetected then .done lost base
      else
        let package := base.next newId base.contentVi base.contentHash .materialChangeDetected
          request.actorId
        .inserting lost package (fencePlan package)
    | .recordSignatureEvidence signerNames evidenceNoteVi =>
      match base.state with
      | .materialChangeDetected | .readyForSignature => .failed lost
      | .draft | .redlined =>
        let package := base.next newId base.contentVi base.contentHash .readyForSignature
          request.actorId
        .inserting lost package
          (signPlan package
            { id := rowId
              packageId := newId
              caseVersion := request.caseVersion
              kind := mockSignature
              signerNames
              evidenceNoteVi
              recordedBy := request.actorId })

/-- What a redline does once it has read its number. -/
def afterNumber (request : ContractRequest) (lost : Nat) (newId rowId : Uuid) (base : PackageRow)
    (redlineVersion : Nat) : Stage :=
  match request.call with
  | .addRedline changeNoteVi changedContentVi changedContentHash =>
    let package := base.next newId changedContentVi changedContentHash .redlined request.actorId
    .inserting lost package
      (redlinePlan
        { id := rowId
          packageId := base.id
          caseVersion := request.caseVersion
          redlineVersion
          changeNoteVi
          changedContentVi
          changedContentHash
          createdBy := request.actorId }
        package)
  | .createPackage _ _ _ _ | .markMaterialChange | .recordSignatureEvidence _ _ => .failed lost

/-- What a request does when an insert has met a row. -/
def afterConflict (lost : Nat) : OnConflict → Stage
  | .raise => .failed (lost + 1)
  | .retryAppend => if lost + 1 < maxAppendAttempts then .begin (lost + 1) else .failed (lost + 1)

/-- The next statement of a request; none when there is none, or when it waits. -/
def statement (w : AppendWorld ι) (id : ι) (newId rowId : Uuid) : Option (AppendWorld ι) :=
  match w.requests id with
  | some (request, .begin lost) =>
    some (w.put id request
      (afterRead request lost newId rowId (loadCurrentPackage (w.session.view id))))
  | some (request, .numbering lost base) =>
    some (w.put id request
      (afterNumber request lost newId rowId base (nextRedlineVersion (w.session.view id) base.id)))
  | some (request, .inserting lost package ((row, onConflict) :: pending)) =>
    match w.session.insert writtenKeys id (id, row) with
    | .waits => none
    | .conflict => some (w.abort id request (afterConflict lost onConflict))
    | .inserted session => some { w.put id request (.inserting lost package pending) with session }
  | some (request, .inserting lost package []) =>
    some { w.put id request (.done lost package) with session := w.session.commit id }
  | some (_, .done _ _) | some (_, .failed _) | none => none

/-- A request starts, takes its next statement with the ids it generates, or crashes. -/
inductive Action (ι : Type) where
  | request (id : ι) (endpoint : ContractEndpoint) (caseVersion : CaseVersion) (actorId : Uuid)
  | statement (id : ι) (newId rowId : Uuid)
  | crash (id : ι)
deriving DecidableEq

/-- One step of the world; none when it is not enabled. -/
def step (w : AppendWorld ι) : Action ι → Option (AppendWorld ι)
  | .request id endpoint caseVersion actorId =>
    match w.requests id with
    | none => some (w.put id ⟨caseVersion, endpoint.call, actorId⟩ (.begin 0))
    | some _ => none
  | .statement id newId rowId => w.statement id newId rowId
  | .crash id =>
    match w.requests id with
    | some (_, .done _ _) | some (_, .failed _) | none => none
    | some (request, stage) => some (w.abort id request (.failed stage.lost))

end AppendWorld

end CreditOps.ContractPackages
