import CreditOps.Library.Transition
import CreditOps.Library.Fencing
import CreditOps.Orchestration.Engine
import CreditOps.ContractPackages.Store

/-!
# From draft to signature

The five requests on the contract packages of one case version, interleaved at the granularity of
transactions: an officer creates the draft, legal redlines it, and a checker approves the current
version, confirms the authority to sign and signs. An approval and a signature read first and write
later, so redlines may commit in between.
-/

set_option autoImplicit false

namespace CreditOps.ContractPackages

open Transition Fencing PartialMap Orchestration

/-! ## The system -/

/-- How far one approval request has come. -/
inductive ApprovalPhase where
  | fencing
  | approving
  | auditing
  | closed
deriving DecidableEq

/-- One approval request: the package it loaded, who asked for it and why. -/
structure Approval where
  package : ContractPackage
  actorId : Uuid
  rationaleVi : String
  phase : ApprovalPhase
deriving DecidableEq

/-- How far one signature request has come. -/
inductive SigningPhase where
  | fencing
  | signing
  | signed (evidenceId : Uuid) (packageVersion : Nat)
  | closed
deriving DecidableEq

/-- One signature request that has passed its checks. -/
structure Signing where
  request : ContractStore.SignatureRequest
  phase : SigningPhase
deriving DecidableEq

/-- What matters for the text that is signed: an approver loads the current package, and a redline
changes the text. -/
inductive Event where
  | loaded (approvalId : Uuid)
  | reworded
deriving DecidableEq

/-- The packages, the gates of the case, the requests in flight, and the approvals on record. -/
structure System where
  store : ContractStore
  tables : CaseTables
  approvals : Uuid → Option Approval
  signings : Uuid → Option Signing
  recorded : List Uuid
  history : List Event

/-- One step of an interleaving. -/
inductive Request where
  | decide (decision : CreditDecision)
  | create (newId actorId : Uuid)
  | redline (redlineId newId : Uuid) (changeNoteVi changedContentVi : String) (actorId : Uuid)
  | openApproval (approvalId actorId : Uuid) (rationaleVi : String)
  | fenceApproval (approvalId newId : Uuid)
  | satisfyApproval (approvalId : Uuid) (now : Timestamp)
  | auditApproval (approvalId : Uuid)
  | confirmAuthority (actorId : Uuid) (rationaleVi : String) (now : Timestamp)
  | openSigning (signingId : Uuid) (request : ContractStore.SignatureRequest)
  | fenceSigning (signingId newId : Uuid)
  | recordSignature (signingId newId evidenceId : Uuid)
  | satisfySigned (signingId : Uuid) (now : Timestamp)
deriving DecidableEq

/-- The uuid a request draws for a package version. -/
def Request.newPackageId : Request → Option Uuid
  | .create newId _ | .redline _ newId _ _ _ | .fenceApproval _ newId | .fenceSigning _ newId
  | .recordSignature _ newId _ => some newId
  | .decide _ | .openApproval _ _ _ | .satisfyApproval _ _ | .auditApproval _
  | .confirmAuthority _ _ _ | .openSigning _ _ | .satisfySigned _ _ => none

/-- `_no_package_exception` -/
def noPackageException : ApiException :=
  ⟨409, "NO_CONTRACT_PACKAGE", "Chưa có hồ sơ hợp đồng cho phiên bản hồ sơ hiện tại."⟩

/-- `_require_permitting_decision` -/
def requirePermittingDecision (store : ContractStore) : Except ApiException CreditDecision :=
  match store.permittingDecision with
  | none =>
    .error ⟨409, "NO_PERMITTING_DECISION",
      "Chưa có quyết định phê duyệt kèm điều khoản để lập hồ sơ hợp đồng."⟩
  | some decision => .ok decision

/-- `_gate_order_exception` -/
def gateOrderException (messageVi : String) : ApiException :=
  ⟨409, "GATE_ORDER_VIOLATION", messageVi⟩

/-- What the approval endpoint reads: the current package, and whether its terms still match. -/
def checkApproval (store : ContractStore) : Except ApiException (ContractPackage × Bool) := do
  let package ← (store.currentPackage.map Except.ok).getD (.error noPackageException)
  let permitting ← requirePermittingDecision store
  return (package, detectMaterialChange package.termSnapshotHash permitting.snapshotHash)

/-- What the authority endpoint reads. -/
def checkAuthority (store : ContractStore) (tables : CaseTables) :
    Except ApiException ContractPackage := do
  let package ← (store.currentPackage.map Except.ok).getD (.error noPackageException)
  if tables.GateSatisfied store.caseVersion .hgContractPackageApproved then return package
  else
    throw (gateOrderException
      "Chưa phê duyệt hồ sơ hợp đồng trước khi xác nhận thẩm quyền ký.")

/-- What the signing endpoint reads: the current package, both gates, and whether the terms still
match. -/
def checkSigning (store : ContractStore) (tables : CaseTables) : Except ApiException Bool := do
  let package ← (store.currentPackage.map Except.ok).getD (.error noPackageException)
  if tables.GateSatisfied store.caseVersion .hgContractPackageApproved ∧
      tables.GateSatisfied store.caseVersion .hgSignatureAuthorityConfirmed then
    let permitting ← requirePermittingDecision store
    return detectMaterialChange package.termSnapshotHash permitting.snapshotHash
  else
    throw (gateOrderException "Phải phê duyệt hồ sơ và xác nhận thẩm quyền ký trước khi ký.")

/-- `f"contract-package:{package.id}"` -/
def approvalRef (package : ContractPackage) : String :=
  "contract-package:" ++ uuidText package.id

namespace System

/-- Satisfy a gate of the case version. -/
def satisfy (s : System) (gateType : GateType) (actorId : Uuid) (dispositionRef : String)
    (now : Timestamp) : System :=
  { s with
    tables := s.tables.ensureGate s.store.caseVersion gateType .satisfied now (some actorId)
      (some dispositionRef) }

/-- Append an audit event. -/
def appendAudit (s : System) (event : ContractAudit) : System :=
  { s with store := { s.store with audit := event :: s.store.audit } }

/-- Move one approval to a phase. -/
def setApproval (s : System) (approvalId : Uuid) (approval : Approval) (phase : ApprovalPhase) :
    Uuid → Option Approval :=
  Function.update s.approvals approvalId (some { approval with phase })

/-- Move one signature request to a phase. -/
def setSigning (s : System) (signingId : Uuid) (signing : Signing) (phase : SigningPhase) :
    Uuid → Option Signing :=
  Function.update s.signings signingId (some { signing with phase })

end System

/-- The redline changes the text of the package it is written on. -/
def rewords (store : ContractStore) (changedContentVi : String) : Bool :=
  store.currentPackage.any (·.contentVi ≠ changedContentVi)

/-- What a request does; `none` when it is not at that point or is refused. An approval is on record
once its gate write was the one that satisfied the gate, or once it is in the audit log. The last gate
and the last audit row of a request are written together. -/
def perform (s : System) : Request → Option System
  | .decide decision =>
    match s.store.decision with
    | some _ => none
    | none => some { s with store := { s.store with decision := some decision } }
  | .create newId actorId =>
    s.store.permittingDecision.map fun decision =>
      { s with store := s.store.createPackage decision newId actorId }
  | .redline redlineId newId changeNoteVi changedContentVi actorId =>
    (s.store.addRedline redlineId newId changeNoteVi changedContentVi actorId).map fun store =>
      { s with
        store
        history := if rewords s.store changedContentVi then .reworded :: s.history else s.history }
  | .openApproval approvalId actorId rationaleVi =>
    match s.approvals approvalId, checkApproval s.store with
    | none, .ok (package, material) =>
      some { s with
             approvals := Function.update s.approvals approvalId
              (some ⟨package, actorId, rationaleVi, if material then .fencing else .approving⟩)
             history := .loaded approvalId :: s.history }
    | _, _ => none
  | .fenceApproval approvalId newId =>
    match s.approvals approvalId with
    | none => none
    | some approval =>
      if approval.phase = .fencing then
        (s.store.markMaterialChange newId approval.actorId).map fun store =>
          { s with store, approvals := s.setApproval approvalId approval .closed }
      else none
  | .satisfyApproval approvalId now =>
    match s.approvals approvalId with
    | none => none
    | some approval =>
      if approval.phase = .approving then
        some { s.satisfy .hgContractPackageApproved approval.actorId (approvalRef approval.package)
                now with
               approvals := s.setApproval approvalId approval .auditing
               recorded :=
                if s.tables.GateSatisfied s.store.caseVersion .hgContractPackageApproved then
                  s.recorded
                else approvalId :: s.recorded }
      else none
  | .auditApproval approvalId =>
    match s.approvals approvalId with
    | none => none
    | some approval =>
      if approval.phase = .auditing then
        some { s.appendAudit (.packageApproved approval.package.id approval.actorId
                approval.rationaleVi approval.package.packageVersion) with
               approvals := s.setApproval approvalId approval .closed
               recorded := approvalId :: s.recorded }
      else none
  | .confirmAuthority actorId rationaleVi now =>
    match checkAuthority s.store s.tables with
    | .error _ => none
    | .ok package =>
      some ((s.satisfy .hgSignatureAuthorityConfirmed actorId
        ("signature-authority:" ++ uuidText package.id) now).appendAudit
          (.signatureAuthorityConfirmed package.id actorId rationaleVi))
  | .openSigning signingId request =>
    match s.signings signingId, checkSigning s.store s.tables with
    | none, .ok material =>
      some { s with
             signings := Function.update s.signings signingId
              (some ⟨request, if material then .fencing else .signing⟩) }
    | _, _ => none
  | .fenceSigning signingId newId =>
    match s.signings signingId with
    | none => none
    | some signing =>
      if signing.phase = .fencing then
        (s.store.markMaterialChange newId signing.request.actorId).map fun store =>
          { s with store, signings := s.setSigning signingId signing .closed }
      else none
  | .recordSignature signingId newId evidenceId =>
    match s.signings signingId with
    | none => none
    | some signing =>
      if signing.phase = .signing then
        match s.store.recordSignatureEvidence newId evidenceId signing.request with
        | .error _ => none
        | .ok store =>
          some { s with
                 store
                 signings := s.setSigning signingId signing (.signed evidenceId s.store.nextVersion) }
      else none
  | .satisfySigned signingId now =>
    match s.signings signingId with
    | some ⟨request, .signed evidenceId packageVersion⟩ =>
      some { (s.satisfy .hgContractsSigned request.actorId
                ("contracts-signed:" ++ uuidText evidenceId) now).appendAudit
                (.contractsSignedMock evidenceId request.actorId packageVersion) with
             signings := s.setSigning signingId ⟨request, .signed evidenceId packageVersion⟩ .closed }
    | _ => none

/-- The step function: a package id that is taken rolls the transaction back. -/
def step (s : System) (q : Request) : Option System :=
  if q.newPackageId.all (· ∉ s.store.packages.map (·.id)) then perform s q else none

/-- A case version before its first package, whose approval gate is open. -/
structure Initial (s : System) : Prop where
  gateOpen : ¬ s.tables.GateSatisfied s.store.caseVersion .hgContractPackageApproved
  noPackage : s.store.packages = []
  noApproval : ∀ id, s.approvals id = none
  noSigning : ∀ id, s.signings id = none
  noneRecorded : s.recorded = []
  noHistory : s.history = []

/-! ## What a request can do -/

/-- What a request can do, with everything it has checked. -/
inductive Performed (s : System) : Request → System → Prop where
  | decided {decision : CreditDecision} (hnone : s.store.decision = none) :
      Performed s (.decide decision) { s with store := { s.store with decision := some decision } }
  | created {newId actorId : Uuid} {decision : CreditDecision}
      (hdec : s.store.permittingDecision = some decision) :
      Performed s (.create newId actorId)
        { s with store := s.store.createPackage decision newId actorId }
  | redlined {redlineId newId : Uuid} {changeNoteVi changedContentVi : String} {actorId : Uuid}
      {store : ContractStore}
      (hstore : s.store.addRedline redlineId newId changeNoteVi changedContentVi actorId =
        some store) :
      Performed s (.redline redlineId newId changeNoteVi changedContentVi actorId)
        { s with
          store
          history := if rewords s.store changedContentVi then .reworded :: s.history else s.history }
  | approvalOpened {approvalId actorId : Uuid} {rationaleVi : String} {package : ContractPackage}
      {material : Bool} (hfree : s.approvals approvalId = none)
      (hcheck : checkApproval s.store = .ok (package, material)) :
      Performed s (.openApproval approvalId actorId rationaleVi)
        { s with
          approvals := Function.update s.approvals approvalId
            (some ⟨package, actorId, rationaleVi, if material then .fencing else .approving⟩)
          history := .loaded approvalId :: s.history }
  | approvalFenced {approvalId newId : Uuid} {approval : Approval} {store : ContractStore}
      (happr : s.approvals approvalId = some approval) (hphase : approval.phase = .fencing)
      (hstore : s.store.markMaterialChange newId approval.actorId = some store) :
      Performed s (.fenceApproval approvalId newId)
        { s with store, approvals := s.setApproval approvalId approval .closed }
  | approvalSatisfied {approvalId : Uuid} {now : Timestamp} {approval : Approval}
      (happr : s.approvals approvalId = some approval) (hphase : approval.phase = .approving) :
      Performed s (.satisfyApproval approvalId now)
        { s.satisfy .hgContractPackageApproved approval.actorId (approvalRef approval.package) now with
          approvals := s.setApproval approvalId approval .auditing
          recorded :=
            if s.tables.GateSatisfied s.store.caseVersion .hgContractPackageApproved then s.recorded
            else approvalId :: s.recorded }
  | approvalAudited {approvalId : Uuid} {approval : Approval}
      (happr : s.approvals approvalId = some approval) (hphase : approval.phase = .auditing) :
      Performed s (.auditApproval approvalId)
        { s.appendAudit (.packageApproved approval.package.id approval.actorId
            approval.rationaleVi approval.package.packageVersion) with
          approvals := s.setApproval approvalId approval .closed
          recorded := approvalId :: s.recorded }
  | authorityConfirmed {actorId : Uuid} {rationaleVi : String} {now : Timestamp}
      {package : ContractPackage} (hcheck : checkAuthority s.store s.tables = .ok package) :
      Performed s (.confirmAuthority actorId rationaleVi now)
        ((s.satisfy .hgSignatureAuthorityConfirmed actorId
          ("signature-authority:" ++ uuidText package.id) now).appendAudit
            (.signatureAuthorityConfirmed package.id actorId rationaleVi))
  | signingOpened {signingId : Uuid} {request : ContractStore.SignatureRequest} {material : Bool}
      (hfree : s.signings signingId = none)
      (hcheck : checkSigning s.store s.tables = .ok material) :
      Performed s (.openSigning signingId request)
        { s with
          signings := Function.update s.signings signingId
            (some ⟨request, if material then .fencing else .signing⟩) }
  | signingFenced {signingId newId : Uuid} {signing : Signing} {store : ContractStore}
      (hsigning : s.signings signingId = some signing) (hphase : signing.phase = .fencing)
      (hstore : s.store.markMaterialChange newId signing.request.actorId = some store) :
      Performed s (.fenceSigning signingId newId)
        { s with store, signings := s.setSigning signingId signing .closed }
  | signatureRecorded {signingId newId evidenceId : Uuid} {signing : Signing} {store : ContractStore}
      (hsigning : s.signings signingId = some signing) (hphase : signing.phase = .signing)
      (hstore : s.store.recordSignatureEvidence newId evidenceId signing.request = .ok store) :
      Performed s (.recordSignature signingId newId evidenceId)
        { s with
          store
          signings := s.setSigning signingId signing (.signed evidenceId s.store.nextVersion) }
  | signedSatisfied {signingId : Uuid} {now : Timestamp} {request : ContractStore.SignatureRequest}
      {evidenceId : Uuid} {packageVersion : Nat}
      (hsigning : s.signings signingId = some ⟨request, .signed evidenceId packageVersion⟩) :
      Performed s (.satisfySigned signingId now)
        { (s.satisfy .hgContractsSigned request.actorId
            ("contracts-signed:" ++ uuidText evidenceId) now).appendAudit
            (.contractsSignedMock evidenceId request.actorId packageVersion) with
          signings := s.setSigning signingId ⟨request, .signed evidenceId packageVersion⟩ .closed }

variable {s t : System} {q : Request}

/-- **What a request can do.** -/
theorem perform_cases (h : perform s q = some t) : Performed s q t := by
  cases q with
  | decide decision =>
    simp only [perform] at h
    split at h
    · cases h
    rename_i hnone
    cases h
    exact .decided hnone
  | create =>
    obtain ⟨_, hdec, rfl⟩ := Option.map_eq_some_iff.1 h
    exact .created hdec
  | redline =>
    obtain ⟨_, hstore, rfl⟩ := Option.map_eq_some_iff.1 h
    exact .redlined hstore
  | openApproval approvalId actorId rationaleVi =>
    simp only [perform] at h
    split at h
    · rename_i package material hfree hcheck
      cases h
      exact .approvalOpened hfree hcheck
    · cases h
  | fenceApproval approvalId newId =>
    simp only [perform] at h
    split at h
    · cases h
    rename_i approval happr
    split_ifs at h with hphase
    obtain ⟨_, hstore, rfl⟩ := Option.map_eq_some_iff.1 h
    exact .approvalFenced happr hphase hstore
  | satisfyApproval approvalId now =>
    simp only [perform] at h
    split at h
    · cases h
    rename_i approval happr
    split at h
    · rename_i hphase
      cases h
      exact .approvalSatisfied happr hphase
    · cases h
  | auditApproval approvalId =>
    simp only [perform] at h
    split at h
    · cases h
    rename_i approval happr
    split_ifs at h with hphase
    cases h
    exact .approvalAudited happr hphase
  | confirmAuthority actorId rationaleVi now =>
    simp only [perform] at h
    split at h
    · cases h
    rename_i package hcheck
    cases h
    exact .authorityConfirmed hcheck
  | openSigning signingId request =>
    simp only [perform] at h
    split at h
    · rename_i material hfree hcheck
      cases h
      exact .signingOpened hfree hcheck
    · cases h
  | fenceSigning signingId newId =>
    simp only [perform] at h
    split at h
    · cases h
    rename_i signing hsigning
    split_ifs at h with hphase
    obtain ⟨_, hstore, rfl⟩ := Option.map_eq_some_iff.1 h
    exact .signingFenced hsigning hphase hstore
  | recordSignature signingId newId evidenceId =>
    simp only [perform] at h
    split at h
    · cases h
    rename_i signing hsigning
    split_ifs at h with hphase
    split at h
    · cases h
    rename_i store hstore
    cases h
    exact .signatureRecorded hsigning hphase hstore
  | satisfySigned signingId now =>
    simp only [perform] at h
    split at h
    · rename_i hsigning
      cases h
      exact .signedSatisfied hsigning
    · cases h

theorem performed_of_step (h : step s q = some t) : Performed s q t := by
  unfold step at h
  split_ifs at h
  exact perform_cases h

theorem newPackageId_free {newId : Uuid} (h : step s q = some t) (hnew : q.newPackageId = some newId) :
    newId ∉ s.store.packages.map (·.id) := by
  unfold step at h
  split_ifs at h with hfree
  rw [hnew, Option.all_some] at hfree
  exact of_decide_eq_true hfree

/-! ## The promise -/

/-- The approval of a package version is on record: the satisfied gate names it, or the audit log
does. -/
def ApprovalRecorded (s : System) (package : ContractPackage) : Prop :=
  (∃ gate ∈ s.tables.gates,
    CaseTables.isGate s.store.caseVersion .hgContractPackageApproved gate = true ∧
      gate.status = .satisfied ∧ gate.dispositionRef = some (approvalRef package)) ∨
  ∃ event ∈ s.store.audit, event.approvedVersion = some (package.id, package.packageVersion)

instance (s : System) (package : ContractPackage) : Decidable (ApprovalRecorded s package) :=
  inferInstanceAs (Decidable ((∃ gate ∈ s.tables.gates, _) ∨ ∃ event ∈ s.store.audit, _))

/-- **The promise.** The text of every signed version is the text of a version whose approval is on
record. -/
def SignedAreApproved (s : System) : Prop :=
  ∀ signed ∈ s.store.packages, signed.state = .readyForSignature →
    ∃ approved ∈ s.store.packages, ApprovalRecorded s approved ∧
      approved.contentHash = signed.contentHash

instance (s : System) : Decidable (SignedAreApproved s) :=
  inferInstanceAs (Decidable (∀ signed ∈ s.store.packages, _ → ∃ approved ∈ s.store.packages, _))

/-! ## The condition -/

/-- An approver who loads the current package takes its text; a rewording redline takes it away. -/
def Event.fence : Event → FenceEvent Uuid
  | .loaded approvalId => .acquire approvalId
  | .reworded => .revoke

/-- The fencing log of a history. -/
def fenceLog (history : List Event) : List (FenceEvent Uuid) :=
  history.map Event.fence

/-- The condition on one step: a signature is recorded only while no redline has changed the text since
one of the recorded approvals loaded it. -/
def SignsSeenText (s : System) : Request → Prop
  | .recordSignature _ _ _ =>
    s.recorded = [] ∨ ∃ id ∈ s.recorded, revokedSince id (fenceLog s.history) = false
  | _ => True

instance (s : System) : ∀ q, Decidable (SignsSeenText s q)
  | .recordSignature _ _ _ => inferInstanceAs (Decidable (_ ∨ ∃ id ∈ s.recorded, _))
  | .decide _ | .create _ _ | .redline _ _ _ _ _ | .openApproval _ _ _ | .fenceApproval _ _
  | .satisfyApproval _ _ | .auditApproval _ | .confirmAuthority _ _ _ | .openSigning _ _
  | .fenceSigning _ _ | .satisfySigned _ _ => isTrue trivial

/-! ## The invariant -/

/-- What an approval in flight or on record has seen: the current text, unless a redline changed it
since the approver loaded the package. -/
structure Seen (s : System) (approvalId : Uuid) (approval : Approval) : Prop where
  package : approval.package ∈ s.store.packages
  loaded : FenceEvent.acquire approvalId ∈ fenceLog s.history
  current : revokedSince approvalId (fenceLog s.history) = false →
    ∃ current, s.store.currentPackage = some current ∧
      current.contentVi = approval.package.contentVi

theorem Seen.congr {approvalId : Uuid} {approval : Approval} (h : Seen s approvalId approval)
    (hpkgs : t.store.packages = s.store.packages) (hhist : t.history = s.history) :
    Seen t approvalId approval := by
  obtain ⟨hpkg, hloaded, hcurrent⟩ := h
  refine ⟨hpkgs ▸ hpkg, hhist ▸ hloaded, ?_⟩
  rw [hhist, ContractStore.currentPackage, hpkgs]
  exact hcurrent

/-- What every reachable state satisfies. -/
structure Inv (s : System) : Prop where
  seen : ∀ id approval, s.approvals id = some approval → Seen s id approval
  recordedApproved : ∀ id ∈ s.recorded, ∃ approval, s.approvals id = some approval ∧
    ApprovalRecorded s approval.package
  gateRecorded : s.tables.GateSatisfied s.store.caseVersion .hgContractPackageApproved →
    s.recorded ≠ []
  signingBacked : ∀ id signing, s.signings id = some signing → signing.phase = .signing →
    s.tables.GateSatisfied s.store.caseVersion .hgContractPackageApproved

theorem Initial.inv (h : Initial s) : Inv s where
  seen id approval happr := by rw [h.noApproval] at happr; cases happr
  recordedApproved id hid := by rw [h.noneRecorded] at hid; cases hid
  gateRecorded hgate := absurd hgate h.gateOpen
  signingBacked id signing hsigning := by rw [h.noSigning] at hsigning; cases hsigning

theorem Initial.signedAreApproved (h : Initial s) : SignedAreApproved s := by
  intro signed hsigned
  rw [h.noPackage] at hsigned
  cases hsigned

variable {package : ContractPackage}

theorem ApprovalRecorded.mono (h : ApprovalRecorded s package)
    (hver : t.store.caseVersion = s.store.caseVersion)
    (hgates : ∀ gate ∈ s.tables.gates, gate.status = .satisfied → gate ∈ t.tables.gates)
    (haudit : s.store.audit ⊆ t.store.audit) : ApprovalRecorded t package := by
  rcases h with ⟨gate, hmem, hgate, hstat, href⟩ | ⟨event, hmem, hver'⟩
  · rw [← hver] at hgate
    exact Or.inl ⟨gate, hgates gate hmem hstat, hgate, hstat, href⟩
  · exact Or.inr ⟨event, haudit hmem, hver'⟩

namespace Inv

variable {s : System}

variable {store : ContractStore}

/-- A write to the packages keeps the invariant if it keeps the rows, and keeps the current text of
every approval that no redline has overtaken. -/
theorem withStore (h : Inv s) {history : List Event} (hver : store.caseVersion = s.store.caseVersion)
    (hextends : ContractStore.Extends s.store store)
    (hlog : ∀ e ∈ fenceLog s.history, e ∈ fenceLog history)
    (hcurrent : ∀ id, FenceEvent.acquire id ∈ fenceLog s.history → revokedSince id (fenceLog history) = false → revokedSince id (fenceLog s.history) = false ∧ ∀ current, s.store.currentPackage = some current → ∃ current', store.currentPackage = some current' ∧ current'.contentVi = current.contentVi) :
    Inv { s with store, history } := by
  refine ⟨?_, ?_, ?_, ?_⟩
  · intro id approval happr
    obtain ⟨hpkg, hloaded, hseen⟩ := h.seen id approval happr
    refine ⟨hextends.packages hpkg, hlog _ hloaded, fun hquiet => ?_⟩
    obtain ⟨hold, hkeep⟩ := hcurrent id hloaded hquiet
    obtain ⟨current, hcur, htext⟩ := hseen hold
    obtain ⟨current', hcur', htext'⟩ := hkeep current hcur
    exact ⟨current', hcur', htext'.trans htext⟩
  · intro id hid
    obtain ⟨approval, happr, hrecorded⟩ := h.recordedApproved id hid
    exact ⟨approval, happr,
      hrecorded.mono hver (fun gate hmem _ => hmem) hextends.audit⟩
  · intro hgate
    simp only [hver] at hgate
    exact h.gateRecorded hgate
  · intro id signing hsigning hphase
    simp only [hver]
    exact h.signingBacked id signing hsigning hphase

theorem appendSame (h : Inv s) {base package : ContractPackage}
    (hver : store.caseVersion = s.store.caseVersion) (hextends : ContractStore.Extends s.store store)
    (hbase : s.store.currentPackage = some base)
    (hpkgs : store.packages = package :: s.store.packages)
    (htext : package.contentVi = base.contentVi) : Inv { s with store } := by
  refine h.withStore hver hextends (fun e he => he) fun id _ hquiet => ⟨hquiet, ?_⟩
  intro current hcurrent
  rw [hbase, Option.some.injEq] at hcurrent
  subst hcurrent
  refine ⟨package, ?_, htext⟩
  rw [ContractStore.currentPackage, hpkgs]
  rfl

/-- A gate write keeps the invariant if the approval gate is satisfied only with an approval on
record. -/
theorem satisfy (h : Inv s) {gateType : GateType} (actorId : Uuid) (dispositionRef : String)
    (now : Timestamp) (hrecorded : gateType = .hgContractPackageApproved → s.recorded ≠ []) :
    Inv (s.satisfy gateType actorId dispositionRef now) := by
  refine ⟨?_, ?_, ?_, ?_⟩
  · intro id approval happr
    exact (h.seen id approval happr).congr rfl rfl
  · intro id hid
    obtain ⟨approval, happr, hrec⟩ := h.recordedApproved id hid
    refine ⟨approval, happr, hrec.mono rfl ?_ (List.Subset.refl _)⟩
    intro gate hmem hstat
    exact CaseTables.mem_gates_ensureGate_of_satisfied hmem hstat
  · intro hgate
    rcases CaseTables.gateSatisfied_of_ensureGate hgate with hold | ⟨-, -, htype⟩
    · exact h.gateRecorded hold
    · exact hrecorded htype.symm
  · intro id signing hsigning hphase
    exact CaseTables.gateSatisfied_ensureGate_of (h.signingBacked id signing hsigning hphase)

theorem appendAudit (h : Inv s) (event : ContractAudit) : Inv (s.appendAudit event) := by
  refine ⟨?_, ?_, h.gateRecorded, h.signingBacked⟩
  · intro id approval happr
    exact (h.seen id approval happr).congr rfl rfl
  · intro id hid
    obtain ⟨approval, happr, hrec⟩ := h.recordedApproved id hid
    exact ⟨approval, happr,
      hrec.mono rfl (fun gate hmem _ => hmem) (List.subset_cons_self _ _)⟩

variable {newId actorId signingId approvalId : Uuid} {approval : Approval}

/-- Moving an approval to another phase keeps the invariant. -/
theorem setApproval (h : Inv s) (happr : s.approvals approvalId = some approval)
    (phase : ApprovalPhase) :
    Inv { s with approvals := s.setApproval approvalId approval phase } := by
  refine ⟨?_, ?_, h.gateRecorded, h.signingBacked⟩
  · intro id a ha
    rcases update_some_cases ha with ⟨rfl, rfl⟩ | ⟨-, hold⟩
    · obtain ⟨hpkg, hloaded, hseen⟩ := h.seen _ _ happr
      exact ⟨hpkg, hloaded, hseen⟩
    · exact (h.seen id a hold).congr rfl rfl
  · intro id hid
    obtain ⟨a, ha, hrec⟩ := h.recordedApproved id hid
    by_cases hsame : id = approvalId
    · subst hsame
      rw [happr, Option.some.injEq] at ha
      subst ha
      exact ⟨_, Function.update_self .., hrec⟩
    · exact ⟨a, (Function.update_of_ne hsame ..).trans ha, hrec⟩

variable {signing : Signing}

/-- Moving a signature request past its signature keeps the invariant. -/
theorem setSigning (h : Inv s) {phase : SigningPhase} (hphase : phase ≠ .signing) :
    Inv { s with signings := s.setSigning signingId signing phase } := by
  refine ⟨?_, ?_, h.gateRecorded, ?_⟩
  · intro id approval happr
    exact (h.seen id approval happr).congr rfl rfl
  · intro id hid
    obtain ⟨approval, happr, hrec⟩ := h.recordedApproved id hid
    exact ⟨approval, happr, hrec⟩
  · intro id g hg hgphase
    rcases update_some_cases hg with ⟨-, rfl⟩ | ⟨-, hold⟩
    · exact absurd hgphase hphase
    · exact h.signingBacked id g hold hgphase

theorem record (h : Inv s) (happr : s.approvals approvalId = some approval)
    (hrecorded : ApprovalRecorded s approval.package) :
    Inv { s with recorded := approvalId :: s.recorded } := by
  refine ⟨?_, ?_, fun _ => List.cons_ne_nil _ _, h.signingBacked⟩
  · intro id a ha
    exact (h.seen id a ha).congr rfl rfl
  · intro id hid
    rcases List.mem_cons.1 hid with rfl | hold
    · exact ⟨approval, happr, hrecorded⟩
    · exact h.recordedApproved id hold

theorem create (h : Inv s) {decision : CreditDecision} (newId actorId : Uuid) :
    Inv { s with store := s.store.createPackage decision newId actorId } := by
  rcases ContractStore.createPackage_cases s.store decision newId actorId with
    hsame | ⟨package, hnone, -, hpkgs, hextends⟩
  · rw [hsame]
    exact h
  · refine h.withStore ?_ hextends (fun e he => he) fun id _ hquiet => ⟨hquiet, ?_⟩
    · unfold ContractStore.createPackage
      split <;> rfl
    · -- there was no current package to keep
      intro current hcurrent
      rw [ContractStore.currentPackage, hnone] at hcurrent
      cases hcurrent

/-- A redline keeps the text, or it overtakes every approval. -/
theorem redline (h : Inv s) {redlineId : Uuid} {changeNoteVi changedContentVi : String}
    (hstore : s.store.addRedline redlineId newId changeNoteVi changedContentVi actorId = some store) :
    Inv { s with
          store
          history := if rewords s.store changedContentVi then .reworded :: s.history
            else s.history } := by
  have hver : store.caseVersion = s.store.caseVersion := by
    obtain ⟨_, -, rfl⟩ := Option.map_eq_some_iff.1 hstore
    rfl
  obtain ⟨base, _, hbase, -, htext, hpkgs, hextends⟩ :=
    ContractStore.addRedline_cases hstore
  cases hrewords : rewords s.store changedContentVi with
  | true =>
    refine h.withStore hver hextends (fun e he => List.mem_cons_of_mem _ he) ?_
    intro id hloaded hquiet
    have hrevoked : revokedSince id (fenceLog (.reworded :: s.history)) = true :=
      revokedSince_revoke hloaded
    rw [if_pos rfl, hrevoked] at hquiet
    cases hquiet
  | false =>
    have hkept : base.contentVi = changedContentVi := by
      simpa [rewords, hbase] using hrewords
    rw [if_neg Bool.false_ne_true]
    exact h.appendSame hver hextends hbase hpkgs (htext.trans hkept.symm)

theorem openApproval (h : Inv s) (hfree : s.approvals approvalId = none)
    (hcurrent : s.store.currentPackage = some approval.package) :
    Inv { s with
          approvals := Function.update s.approvals approvalId (some approval)
          history := .loaded approvalId :: s.history } := by
  refine ⟨?_, ?_, h.gateRecorded, h.signingBacked⟩
  · intro id a ha
    rcases update_some_cases ha with ⟨rfl, rfl⟩ | ⟨hne, hold⟩
    · refine ⟨?_, List.mem_cons_self, fun _ => ⟨_, hcurrent, rfl⟩⟩
      exact List.mem_of_mem_head? hcurrent
    · obtain ⟨hpkg, hloaded, hseen⟩ := h.seen id a hold
      refine ⟨hpkg, List.mem_cons_of_mem _ hloaded, fun hquiet => hseen ?_⟩
      have hlog : revokedSince id (fenceLog (.loaded approvalId :: s.history)) =
          revokedSince id (fenceLog s.history) := revokedSince_acquire_of_ne hne.symm _
      rw [← hlog]
      exact hquiet
  · intro id hid
    obtain ⟨a, ha, hrec⟩ := h.recordedApproved id hid
    have hne : id ≠ approvalId := by
      rintro rfl
      rw [hfree] at ha
      cases ha
    exact ⟨a, (Function.update_of_ne hne ..).trans ha, hrec⟩

theorem fence (h : Inv s) (hstore : s.store.markMaterialChange newId actorId = some store) :
    Inv { s with store } := by
  have hver : store.caseVersion = s.store.caseVersion := by
    obtain ⟨_, -, rfl⟩ := Option.map_eq_some_iff.1 hstore
    split <;> rfl
  rcases ContractStore.markMaterialChange_cases hstore with
    rfl | ⟨base, package, hbase, -, htext, hpkgs, hextends⟩
  · exact h
  · exact h.appendSame hver hextends hbase hpkgs htext

/-- The gate write of an approval is on record, as the reference of the gate it satisfied or by the
approval that had satisfied it. -/
theorem satisfyApproval (h : Inv s) (happr : s.approvals approvalId = some approval)
    (now : Timestamp) :
    Inv { s.satisfy .hgContractPackageApproved approval.actorId (approvalRef approval.package) now with
          approvals := s.setApproval approvalId approval .auditing
          recorded :=
            if s.tables.GateSatisfied s.store.caseVersion .hgContractPackageApproved then s.recorded
            else approvalId :: s.recorded } := by
  by_cases hgate : s.tables.GateSatisfied s.store.caseVersion .hgContractPackageApproved
  · rw [if_pos hgate]
    exact (h.satisfy approval.actorId (approvalRef approval.package) now
      fun _ => h.gateRecorded hgate).setApproval happr .auditing
  · rw [if_neg hgate]
    -- first the record, which the gate write itself backs
    refine ⟨?_, ?_, fun _ => List.cons_ne_nil _ _, ?_⟩
    · intro id a ha
      rcases update_some_cases ha with ⟨rfl, rfl⟩ | ⟨-, hold⟩
      · obtain ⟨hpkg, hloaded, hseen⟩ := h.seen _ _ happr
        exact ⟨hpkg, hloaded, hseen⟩
      · exact (h.seen id a hold).congr rfl rfl
    · intro id hid
      by_cases hsame : id = approvalId
      · subst hsame
        exact ⟨_, Function.update_self .., Or.inl (CaseTables.exists_satisfied_ensureGate hgate ..)⟩
      · obtain ⟨a, ha, hrec⟩ := h.recordedApproved id (List.mem_of_ne_of_mem hsame hid)
        refine ⟨a, (Function.update_of_ne hsame ..).trans ha, hrec.mono rfl ?_ (List.Subset.refl _)⟩
        intro gate hmem hstat
        exact CaseTables.mem_gates_ensureGate_of_satisfied hmem hstat
    · intro id signing hsigning hphase
      exact absurd (h.signingBacked id signing hsigning hphase) hgate

theorem auditApproval (h : Inv s) (happr : s.approvals approvalId = some approval) :
    Inv { s.appendAudit (.packageApproved approval.package.id approval.actorId
            approval.rationaleVi approval.package.packageVersion) with
          approvals := s.setApproval approvalId approval .closed
          recorded := approvalId :: s.recorded } := by
  have haudited := (h.appendAudit (.packageApproved approval.package.id approval.actorId
    approval.rationaleVi approval.package.packageVersion)).record happr
      (Or.inr ⟨_, List.mem_cons_self, rfl⟩)
  exact haudited.setApproval happr .closed

theorem openSigning (h : Inv s)
    (hgate : s.tables.GateSatisfied s.store.caseVersion .hgContractPackageApproved) :
    Inv { s with signings := Function.update s.signings signingId (some signing) } := by
  refine ⟨?_, ?_, h.gateRecorded, fun _ _ _ _ => hgate⟩
  · intro id approval happr
    exact (h.seen id approval happr).congr rfl rfl
  · intro id hid
    obtain ⟨approval, happr, hrec⟩ := h.recordedApproved id hid
    exact ⟨approval, happr, hrec⟩

end Inv

/-! ## What a step does to the signed versions -/

/-- What every step keeps on record, and where a signed version comes from: it was there, or it is the
current text of a signature request that had found the approval gate satisfied. -/
structure Carries (s : System) (q : Request) (t : System) : Prop where
  version : t.store.caseVersion = s.store.caseVersion
  packages : s.store.packages ⊆ t.store.packages
  gates : ∀ gate ∈ s.tables.gates, gate.status = .satisfied → gate ∈ t.tables.gates
  audit : s.store.audit ⊆ t.store.audit
  signed : ∀ package ∈ t.store.packages, package.state = .readyForSignature →
    package ∈ s.store.packages ∨
      ∃ signingId newId evidenceId signing base, q = .recordSignature signingId newId evidenceId ∧
        s.signings signingId = some signing ∧ signing.phase = .signing ∧
        s.store.currentPackage = some base ∧ package.contentVi = base.contentVi

section Carries

variable {s t : System} {q : Request}

theorem carries_of_packages_eq (hver : t.store.caseVersion = s.store.caseVersion)
    (hpkgs : t.store.packages = s.store.packages)
    (hgates : ∀ gate ∈ s.tables.gates, gate.status = .satisfied → gate ∈ t.tables.gates)
    (haudit : s.store.audit ⊆ t.store.audit) : Carries s q t where
  version := hver
  packages := hpkgs ▸ List.Subset.refl _
  gates := hgates
  audit := haudit
  signed _ hmem _ := Or.inl (hpkgs ▸ hmem)

/-- A step that appends one version that is not a signed one. -/
theorem carries_of_append {package : ContractPackage}
    (hver : t.store.caseVersion = s.store.caseVersion) (htabs : t.tables = s.tables)
    (hextends : ContractStore.Extends s.store t.store)
    (hpkgs : t.store.packages = package :: s.store.packages)
    (hstate : package.state ≠ .readyForSignature) : Carries s q t where
  version := hver
  packages := hextends.packages
  gates gate hmem _ := htabs ▸ hmem
  audit := hextends.audit
  signed p hmem hready := by
    rw [hpkgs] at hmem
    rcases List.mem_cons.1 hmem with rfl | hold
    · exact absurd hready hstate
    · exact Or.inl hold

theorem carries_satisfy (gateType : GateType) (actorId : Uuid) (dispositionRef : String)
    (now : Timestamp) :
    ∀ gate ∈ s.tables.gates, gate.status = .satisfied →
      gate ∈ (s.satisfy gateType actorId dispositionRef now).tables.gates :=
  fun _ hmem hstat => CaseTables.mem_gates_ensureGate_of_satisfied hmem hstat

/-- A fence appends one fenced version or nothing. -/
theorem carries_fence {newId actorId : Uuid} {store : ContractStore} (htabs : t.tables = s.tables)
    (hstore : t.store = store) (hfence : s.store.markMaterialChange newId actorId = some store) :
    Carries s q t := by
  subst hstore
  have hver : t.store.caseVersion = s.store.caseVersion := by
    obtain ⟨_, -, heq⟩ := Option.map_eq_some_iff.1 hfence
    rw [← heq]
    split <;> rfl
  rcases ContractStore.markMaterialChange_cases hfence with
    hsame | ⟨base, package, -, hstate, -, hpkgs, hextends⟩
  · exact carries_of_packages_eq hver (by rw [hsame]) (fun gate hmem _ => htabs ▸ hmem)
      (by rw [hsame]; exact List.Subset.refl _)
  · exact carries_of_append hver htabs hextends hpkgs
      (by rw [hstate]; exact ContractPackageState.noConfusion)

end Carries

variable {store : ContractStore} {material : Bool}

theorem checkApproval_ok (h : checkApproval store = .ok (package, material)) :
    store.currentPackage = some package := by
  unfold checkApproval at h
  cases hcurrent : store.currentPackage with
  | none =>
    rw [hcurrent] at h
    cases h
  | some =>
    rw [hcurrent] at h
    cases hdec : requirePermittingDecision store with
    | error =>
      rw [hdec] at h
      cases h
    | ok =>
      rw [hdec] at h
      cases h
      rfl

theorem checkSigning_ok {tables : CaseTables} (h : checkSigning store tables = .ok material) :
    tables.GateSatisfied store.caseVersion .hgContractPackageApproved := by
  unfold checkSigning at h
  cases hcurrent : store.currentPackage with
  | none =>
    rw [hcurrent] at h
    cases h
  | some current =>
    simp only [hcurrent, Option.map_some, Option.getD_some, bind, Except.bind] at h
    split at h
    · rename_i hboth
      exact hboth.1
    · cases h

/-- **Every step keeps the invariant and what is on record.** -/
theorem Inv.step (h : Inv s) (hstep : step s q = some t) :
    Inv t ∧ Carries s q t := by
  cases performed_of_step hstep with
  | decided =>
    refine ⟨⟨?_, h.recordedApproved, h.gateRecorded, h.signingBacked⟩, ?_⟩
    · intro id approval happr
      exact (h.seen id approval happr).congr rfl rfl
    · exact carries_of_packages_eq rfl rfl (fun gate hmem _ => hmem) (List.Subset.refl _)
  | @created newId actorId decision _ =>
    refine ⟨h.create newId actorId, ?_⟩
    rcases ContractStore.createPackage_cases s.store decision newId actorId with
      hsame | ⟨package, hnone, hstate, hpkgs, hextends⟩
    · rw [hsame]
      exact carries_of_packages_eq rfl rfl (fun gate hmem _ => hmem) (List.Subset.refl _)
    · refine carries_of_append ?_ rfl hextends (by rw [hpkgs, hnone]) ?_
      · simp only [ContractStore.createPackage]
        split <;> rfl
      · rw [hstate]
        exact ContractPackageState.noConfusion
  | redlined hstore =>
    refine ⟨h.redline hstore, ?_⟩
    obtain ⟨base, _, -, hstate, -, hpkgs, hextends⟩ :=
      ContractStore.addRedline_cases hstore
    refine carries_of_append ?_ rfl hextends hpkgs ?_
    · obtain ⟨_, -, rfl⟩ := Option.map_eq_some_iff.1 hstore
      rfl
    · rw [hstate]
      exact ContractPackageState.noConfusion
  | approvalOpened hfree hcheck =>
    exact ⟨h.openApproval hfree (checkApproval_ok hcheck),
      carries_of_packages_eq rfl rfl (fun gate hmem _ => hmem) (List.Subset.refl _)⟩
  | approvalFenced happr _ hstore =>
    exact ⟨(h.fence hstore).setApproval happr .closed, carries_fence rfl rfl hstore⟩
  | @approvalSatisfied _ now _ happr _ =>
    exact ⟨h.satisfyApproval happr now,
      carries_of_packages_eq rfl rfl (carries_satisfy _ _ _ now) (List.Subset.refl _)⟩
  | approvalAudited happr =>
    exact ⟨h.auditApproval happr, carries_of_packages_eq rfl rfl (fun gate hmem _ => hmem)
      (List.subset_cons_self _ _)⟩
  | @authorityConfirmed actorId _ now _ _ =>
    refine ⟨(h.satisfy actorId _ now fun hg => ?_).appendAudit _,
      carries_of_packages_eq rfl rfl (carries_satisfy _ _ _ now) (List.subset_cons_self _ _)⟩
    cases hg
  | signingOpened _ hcheck =>
    exact ⟨h.openSigning (checkSigning_ok hcheck),
      carries_of_packages_eq rfl rfl (fun gate hmem _ => hmem) (List.Subset.refl _)⟩
  | signingFenced _ _ hstore =>
    exact ⟨(h.fence hstore).setSigning SigningPhase.noConfusion, carries_fence rfl rfl hstore⟩
  | @signatureRecorded signingId newId evidenceId signing store hsigning hphase hstore =>
    have hver : store.caseVersion = s.store.caseVersion :=
      ContractStore.recordSignatureEvidence_caseVersion hstore
    obtain ⟨base, package, hbase, -, htext, hpkgs, hextends⟩ :=
      ContractStore.recordSignatureEvidence_cases hstore
    refine ⟨(h.appendSame hver hextends hbase hpkgs htext).setSigning
      SigningPhase.noConfusion, hver, hextends.packages, fun gate hmem _ => hmem,
      hextends.audit, ?_⟩
    intro p hmem hready
    -- a final version was there, or it is the one this request has appended
    rcases List.mem_cons.1 (hpkgs ▸ hmem : p ∈ package :: s.store.packages) with rfl | hold
    · exact Or.inr ⟨signingId, newId, evidenceId, signing, base, rfl, hsigning, hphase, hbase, htext⟩
    · exact Or.inl hold
  | @signedSatisfied _ now _ _ _ hsigning =>
    refine ⟨((h.satisfy _ _ now fun hg => ?_).appendAudit _).setSigning SigningPhase.noConfusion,
      carries_of_packages_eq rfl rfl (carries_satisfy _ _ _ now) (List.subset_cons_self _ _)⟩
    cases hg

/-! ## What is signed was approved -/

/-- A step that signs only seen text keeps the promise. -/
theorem SignedAreApproved.step (h : SignedAreApproved s) (hinv : Inv s) (hseen : SignsSeenText s q)
    (hcarries : Carries s q t) : SignedAreApproved t := by
  have hmono : ∀ package, ApprovalRecorded s package → ApprovalRecorded t package :=
    fun _ hrec => hrec.mono hcarries.version hcarries.gates hcarries.audit
  intro signed hmem hready
  rcases hcarries.signed signed hmem hready with hold | hnew
  · obtain ⟨approved, happroved, hrecorded, hhash⟩ := h signed hold hready
    exact ⟨approved, hcarries.packages happroved, hmono _ hrecorded, hhash⟩
  · obtain ⟨signingId, _, _, signing, _, rfl, hsigning, hphase, hbase, htext⟩ := hnew
    have hany : s.recorded ≠ [] :=
      hinv.gateRecorded (hinv.signingBacked signingId signing hsigning hphase)
    -- a recorded approval has seen the current text, and the signature appends that text
    obtain ⟨id, hid, hquiet⟩ := hseen.resolve_left hany
    obtain ⟨approval, happr, hrecorded⟩ := hinv.recordedApproved id hid
    obtain ⟨hpkg, -, hcurrent⟩ := hinv.seen id approval happr
    obtain ⟨_, hcur, hsame⟩ := hcurrent hquiet
    rw [hbase, Option.some.injEq] at hcur
    subst hcur
    exact ⟨approval.package, hcarries.packages hpkg, hmono _ hrecorded,
      contentHash_eq_of_contentVi_eq (hsame.symm.trans htext.symm)⟩

/-- **What is signed was approved, on runs that sign seen text.** In every state reached by a run whose
signatures are recorded while no redline has changed the text since one of the recorded approvals
loaded it, the text of every signed version is the text of a version whose approval is on record. -/
theorem signed_approved {s t : System} {as : List Request} (hs : Initial s)
    (hseen : RunMeets step SignsSeenText s as) (hrun : run step s as = some t) :
    SignedAreApproved t := by
  have hpreserved : ∀ {s q t}, Inv s ∧ SignedAreApproved s → SignsSeenText s q →
      step s q = some t → Inv t ∧ SignedAreApproved t := by
    rintro s q t ⟨hinv, hsigned⟩ hq hstep
    obtain ⟨hinv', hcarries⟩ := hinv.step hstep
    exact ⟨hinv', hsigned.step hinv hq hcarries⟩
  exact (run_invariant_of_meets hpreserved ⟨hs.inv, hs.signedAreApproved⟩ hseen hrun).2

/-! ## Concrete interleavings -/

section Interleavings

/-- A case version with an approving decision and nothing else. -/
def sampleCase : System where
  store :=
    { caseVersion := 1
      decision := some ⟨600, .approvedAsProposed, "đủ điều kiện", [],
        ⟨some ⟨1000000, 0⟩, some "VND", some "12 tháng", some ⟨85, -1⟩⟩,
        String.ofList (List.replicate 64 'a')⟩
      packages := []
      redlines := []
      evidence := []
      audit := []
      numbered := trivial }
  tables := (Engine.handedOff 10 20 21).tables
  approvals := fun _ => none
  signings := fun _ => none
  recorded := []
  history := []

theorem sampleCase_initial : Initial sampleCase where
  gateOpen := by decide
  noPackage := rfl
  noApproval _ := rfl
  noSigning _ := rfl
  noneRecorded := rfl
  noHistory := rfl

/-- The checker approves the current version and confirms the authority to sign. -/
def approvedBy (approvalId : Uuid) : List Request :=
  [.openApproval approvalId 40 "đồng ý", .satisfyApproval approvalId 1, .auditApproval approvalId,
    .confirmAuthority 40 "đủ thẩm quyền" 2]

/-- The checker signs. -/
def signedBy (signingId : Uuid) : List Request :=
  [.openSigning signingId ⟨["Nguyễn Văn A"], none, 40⟩, .recordSignature signingId 703 704,
    .satisfySigned signingId 3]

/-- The redline comes before the approval. -/
def redlinedThenApproved : List Request :=
  .create 700 41 :: .redline 701 702 "sửa lãi suất" "bản sửa" 42 :: approvedBy 500 ++ signedBy 501

theorem redlinedThenApproved_approved :
    ∃ t, run step sampleCase redlinedThenApproved = some t ∧ SignedAreApproved t := by
  have hruns : (run step sampleCase redlinedThenApproved).isSome = true := by
    decide +kernel
  obtain ⟨t, hrun⟩ := Option.isSome_iff_exists.1 hruns
  exact ⟨t, hrun, signed_approved sampleCase_initial (by decide +kernel) hrun⟩

/-- Another redline comes between the approval and the signature. -/
def redlinedAfterApproval : List Request :=
  .create 700 41 :: .redline 701 702 "sửa lãi suất" "bản sửa" 42 :: approvedBy 500 ++
    .redline 705 706 "sửa thời hạn" "bản chưa duyệt" 42 :: signedBy 501

/-- **The promise fails on the code.** The gates stay satisfied, and a text that no checker has seen is
signed. -/
theorem signed_text_not_approved :
    Initial sampleCase ∧
    ∃ t, run step sampleCase redlinedAfterApproval = some t ∧ ¬ SignedAreApproved t := by
  refine ⟨sampleCase_initial, ?_⟩
  have hcheck : (run step sampleCase redlinedAfterApproval).any
      (fun t => decide (¬ SignedAreApproved t)) = true := by
    decide +kernel
  obtain ⟨t, hrun, ht⟩ := (Option.any_eq_true _ _).1 hcheck
  exact ⟨t, hrun, of_decide_eq_true ht⟩

end Interleavings

end CreditOps.ContractPackages
