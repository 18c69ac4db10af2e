import CreditOps.Domain.Api
import CreditOps.Orchestration.Store
import CreditOps.ContractPackages.Domain

/-!
# The contract packages of one case version

The package versions form a chain: versions are numbered from one without a hole (`Numbered`), and the
newest stands first. Every write of the repository appends: `createPackage` the first draft, `addRedline`
a version with the changed text, `markMaterialChange` and `recordSignatureEvidence` a version with the
same text. A lost race for the next version number is retried by the adapter, so each of them is one
atomic append to the current version.
-/

set_option autoImplicit false

namespace CreditOps.ContractPackages

open Orchestration

/-- The audit events of the package workflow. -/
inductive ContractAudit where
  | packageDrafted (packageId actorId : Uuid)
  | packageRedlined (redlineId actorId : Uuid) (redlineVersion packageVersion : Nat)
  | materialChangeDetected (packageId actorId : Uuid) (packageVersion : Nat)
  | packageSignedMock (evidenceId actorId : Uuid) (packageVersion signerCount : Nat)
  | packageApproved (packageId actorId : Uuid) (rationaleVi : String) (packageVersion : Nat)
  | signatureAuthorityConfirmed (packageId actorId : Uuid) (rationaleVi : String)
  | contractsSignedMock (evidenceId actorId : Uuid) (packageVersion : Nat)
deriving DecidableEq

/-- The package version an approval row is about. -/
def ContractAudit.approvedVersion : ContractAudit → Option (Uuid × Nat)
  | .packageApproved packageId _ _ packageVersion => some (packageId, packageVersion)
  | .packageDrafted _ _ | .packageRedlined _ _ _ _ | .materialChangeDetected _ _ _
  | .packageSignedMock _ _ _ _ | .signatureAuthorityConfirmed _ _ _
  | .contractsSignedMock _ _ _ => none

/-- The versions are numbered from one without a hole, the newest first. -/
def Numbered : List ContractPackage → Prop
  | [] => True
  | package :: older => package.packageVersion = older.length + 1 ∧ Numbered older

/-- The rows of the workflow at one case version: the package versions, newest first, the append-only
tables, and the decision of the case version. -/
structure ContractStore where
  caseVersion : CaseVersion
  decision : Option CreditDecision
  packages : List ContractPackage
  redlines : List ContractRedline
  evidence : List SignatureEvidence
  audit : List ContractAudit
  numbered : Numbered packages

namespace ContractStore

/-- `load_current_package`: the version with the largest number. -/
def currentPackage (store : ContractStore) : Option ContractPackage :=
  store.packages.head?

/-- `load_permitting_decision`: the decision of the case version, if it is an approval. -/
def permittingDecision (store : ContractStore) : Option CreditDecision :=
  store.decision.filter (·.decisionType ∈ approvalDecisions)

/-- The next number of the chain. -/
def nextVersion (store : ContractStore) : Nat :=
  store.packages.length + 1

/-- A version with a text and a state, built on another one. -/
def successor (store : ContractStore) (base : ContractPackage) (newId : Uuid) (contentVi : String)
    (state : ContractPackageState) (actorId : Uuid) : ContractPackage where
  id := newId
  caseVersion := base.caseVersion
  decisionId := base.decisionId
  termSnapshotHash := base.termSnapshotHash
  contentVi
  contentHash := computeContentHash contentVi
  packageVersion := store.nextVersion
  state
  createdBy := actorId
  contentHash_eq := rfl

/-- Append a version that has the next number. -/
def push (store : ContractStore) (package : ContractPackage)
    (hnext : package.packageVersion = store.nextVersion) : ContractStore :=
  { store with packages := package :: store.packages, numbered := ⟨hnext, store.numbered⟩ }

/-- `_append_version_on` -/
def appendVersion (store : ContractStore) (base : ContractPackage) (newId : Uuid)
    (contentVi : String) (state : ContractPackageState) (actorId : Uuid) : ContractStore :=
  store.push (store.successor base newId contentVi state actorId) rfl

/-- The first draft, rendered from the decision. -/
def draft (store : ContractStore) (decision : CreditDecision) (newId actorId : Uuid) :
    ContractPackage where
  id := newId
  caseVersion := store.caseVersion
  decisionId := decision.decisionId
  termSnapshotHash := decision.snapshotHash
  contentVi := renderContractContentVi decision
  contentHash := computeContentHash (renderContractContentVi decision)
  packageVersion := 1
  state := .draft
  createdBy := actorId
  contentHash_eq := rfl

/-- `create_package`: the first draft, or nothing when there is a package. -/
def createPackage (store : ContractStore) (decision : CreditDecision) (newId actorId : Uuid) :
    ContractStore :=
  match h : store.packages with
  | [] =>
    let drafted := store.push (store.draft decision newId actorId)
      (by rw [nextVersion, h]; rfl)
    { drafted with audit := .packageDrafted newId actorId :: drafted.audit }
  | _ :: _ => store

/-- The next redline number of a package. -/
def nextRedlineVersion (store : ContractStore) (packageId : Uuid) : Nat :=
  (((store.redlines.filter (·.packageId = packageId)).map (·.redlineVersion)).foldr max 0) + 1

/-- `add_redline`: the redline row and the version with the changed text. -/
def addRedline (store : ContractStore) (redlineId newId : Uuid)
    (changeNoteVi changedContentVi : String) (actorId : Uuid) : Option ContractStore :=
  store.currentPackage.map fun base =>
    let appended := store.appendVersion base newId changedContentVi .redlined actorId
    { appended with
      redlines :=
        { id := redlineId
          packageId := base.id
          caseVersion := store.caseVersion
          redlineVersion := store.nextRedlineVersion base.id
          changeNoteVi
          changedContentVi
          changedContentHash := computeContentHash changedContentVi
          createdBy := actorId } :: store.redlines
      audit :=
        .packageRedlined redlineId actorId (store.nextRedlineVersion base.id) store.nextVersion ::
          store.audit }

/-- `mark_material_change`: a fenced version with the same text, unless the current one is fenced. -/
def markMaterialChange (store : ContractStore) (newId actorId : Uuid) : Option ContractStore :=
  store.currentPackage.map fun base =>
    if base.state = .materialChangeDetected then store
    else
      let appended := store.appendVersion base newId base.contentVi .materialChangeDetected actorId
      { appended with
        audit := .materialChangeDetected newId actorId store.nextVersion :: store.audit }

/-- What a signature request records. -/
structure SignatureRequest where
  signerNames : List String
  evidenceNoteVi : Option String
  actorId : Uuid
deriving DecidableEq

/-- `record_signature_evidence`: a final version with the same text and its evidence. A fenced version
cannot be signed, and the current version only once. -/
def recordSignatureEvidence (store : ContractStore) (newId evidenceId : Uuid)
    (request : SignatureRequest) : Except ApiException ContractStore :=
  match store.currentPackage with
  | none =>
    .error ⟨409, "NO_CONTRACT_PACKAGE", "Chưa có hồ sơ hợp đồng cho phiên bản hồ sơ hiện tại."⟩
  | some base =>
    match base.state with
    | .materialChangeDetected =>
      .error ⟨409, "MATERIAL_CHANGE_DETECTED",
        "Hồ sơ đang bị chặn do thay đổi trọng yếu; không thể ký."⟩
    | .readyForSignature =>
      .error ⟨409, "CONTRACT_ALREADY_SIGNED", "Hồ sơ hợp đồng đã được ký (bằng chứng mô phỏng)."⟩
    | .draft | .redlined =>
      let appended :=
        store.appendVersion base newId base.contentVi .readyForSignature request.actorId
      .ok { appended with
            evidence :=
              { id := evidenceId
                packageId := newId
                caseVersion := store.caseVersion
                kind := mockSignature
                signerNames := request.signerNames
                evidenceNoteVi := request.evidenceNoteVi
                recordedBy := request.actorId } :: store.evidence
            audit :=
              .packageSignedMock evidenceId request.actorId store.nextVersion
                request.signerNames.length :: store.audit }

/-! ## What the writes do -/

/-- Every row of the old store is in the new one. -/
structure Extends (store store' : ContractStore) : Prop where
  packages : store.packages ⊆ store'.packages
  audit : store.audit ⊆ store'.audit

variable {store store' : ContractStore}

theorem createPackage_cases (store : ContractStore) (decision : CreditDecision) (newId actorId : Uuid) :
    store.createPackage decision newId actorId = store ∨
      ∃ package, store.packages = [] ∧ package.state = .draft ∧
        (store.createPackage decision newId actorId).packages = [package] ∧
        Extends store (store.createPackage decision newId actorId) := by
  unfold createPackage
  split
  · rename_i h
    refine Or.inr ⟨store.draft decision newId actorId, h, rfl, ?_, ?_, ?_⟩
    · simp only [push, h]
    · exact List.subset_cons_self _ _
    · exact List.subset_cons_self _ _
  · exact Or.inl rfl

variable {newId actorId evidenceId : Uuid}

theorem addRedline_cases {redlineId : Uuid} {changeNoteVi changedContentVi : String}
    (h : store.addRedline redlineId newId changeNoteVi changedContentVi actorId = some store') :
    ∃ base package, store.currentPackage = some base ∧ package.state = .redlined ∧
      package.contentVi = changedContentVi ∧ store'.packages = package :: store.packages ∧
      Extends store store' := by
  obtain ⟨base, hbase, rfl⟩ := Option.map_eq_some_iff.1 h
  exact ⟨base, store.successor base newId changedContentVi .redlined actorId, hbase, rfl, rfl, rfl,
    List.subset_cons_self _ _, List.subset_cons_self _ _⟩

theorem markMaterialChange_cases (h : store.markMaterialChange newId actorId = some store') :
    store' = store ∨
      ∃ base package, store.currentPackage = some base ∧ package.state = .materialChangeDetected ∧
        package.contentVi = base.contentVi ∧ store'.packages = package :: store.packages ∧
        Extends store store' := by
  obtain ⟨base, hbase, hstore⟩ := Option.map_eq_some_iff.1 h
  split at hstore
  · exact Or.inl hstore.symm
  · subst hstore
    exact Or.inr ⟨base, store.successor base newId base.contentVi .materialChangeDetected actorId,
      hbase, rfl, rfl, rfl, List.subset_cons_self _ _, List.subset_cons_self _ _⟩

variable {request : SignatureRequest}

/-- **What is signed is the current text.** -/
theorem recordSignatureEvidence_cases
    (h : store.recordSignatureEvidence newId evidenceId request = .ok store') :
    ∃ base package, store.currentPackage = some base ∧ package.state = .readyForSignature ∧
      package.contentVi = base.contentVi ∧ store'.packages = package :: store.packages ∧
      Extends store store' := by
  unfold recordSignatureEvidence at h
  split at h
  · cases h
  rename_i base hbase
  split at h
  · cases h
  · cases h
  all_goals
    cases h
    exact ⟨base, store.successor base newId base.contentVi .readyForSignature request.actorId,
      hbase, rfl, rfl, rfl, List.subset_cons_self _ _, List.subset_cons_self _ _⟩

theorem recordSignatureEvidence_caseVersion
    (h : store.recordSignatureEvidence newId evidenceId request = .ok store') :
    store'.caseVersion = store.caseVersion := by
  unfold recordSignatureEvidence at h
  split at h
  · cases h
  · split at h <;> cases h <;> rfl

end ContractStore

end CreditOps.ContractPackages
