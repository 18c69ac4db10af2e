import CreditOps.ContractPackages.Signing

/-!
# Signing once

A signature appends a final version and hangs its evidence on it. A second signature is refused while that
version is the current one, but a redline does not look at the evidence: it appends another version, and
since the gates stay satisfied that version can be signed as well (`signed_twice`).

The terms of a case version never change, so its packages always match them (`Sealed.terms`) and no request
ever fences one. A redline is then all that can follow a signature, and signing closes the contract in every
state of a run exactly if no redline is accepted once a version is signed (`signing_closes_iff`).
-/

set_option autoImplicit false

namespace CreditOps.ContractPackages

open Transition PartialMap Orchestration

/-! ## The promise and the condition -/

/-- The versions that carry signature evidence. -/
def ContractStore.signedPackages (store : ContractStore) : List ContractPackage :=
  store.packages.filter fun package => store.evidence.any (·.packageId = package.id)

/-- **Signing closes the contract.** At most one version is signed, and nothing is appended after it. -/
def SigningCloses (s : System) : Prop :=
  s.store.signedPackages.length ≤ 1 ∧
    ∀ package ∈ s.store.signedPackages, s.store.currentPackage = some package

instance (s : System) : Decidable (SigningCloses s) :=
  inferInstanceAs (Decidable (_ ∧ ∀ package ∈ s.store.signedPackages, _))

/-- The condition on one step: no redline is accepted once there is signature evidence. -/
def RedlinesUnsigned (s : System) : Request → Prop
  | .redline _ _ _ _ _ => s.store.evidence = []
  | _ => True

instance (s : System) : ∀ q, Decidable (RedlinesUnsigned s q)
  | .redline _ _ _ _ _ => inferInstanceAs (Decidable (_ = []))
  | .decide _ | .create _ _ | .openApproval _ _ _ | .fenceApproval _ _ | .satisfyApproval _ _
  | .auditApproval _ | .confirmAuthority _ _ _ | .openSigning _ _ | .fenceSigning _ _
  | .recordSignature _ _ _ | .satisfySigned _ _ => isTrue trivial

/-- A case version before its first package and without signature evidence. -/
structure Unsigned (s : System) : Prop extends Initial s where
  noEvidence : s.store.evidence = []

/-! ## What every reachable state satisfies -/

/-- The signed versions are the final ones, no two versions share an id, every version has the terms of the
decision, and no request is about to fence one. -/
structure Sealed (s : System) : Prop where
  signed : s.store.evidence.map (·.packageId) =
    (s.store.packages.filter (·.state = .readyForSignature)).map (·.id)
  keyed : (s.store.packages.map (·.id)).Nodup
  terms : ∀ package ∈ s.store.packages, ∃ decision, s.store.decision = some decision ∧
    package.termSnapshotHash = decision.snapshotHash
  noApprovalFence : ∀ id approval, s.approvals id = some approval → approval.phase ≠ .fencing
  noSigningFence : ∀ id signing, s.signings id = some signing → signing.phase ≠ .fencing

variable {s t : System} {q : Request}

theorem Unsigned.sealed (h : Unsigned s) : Sealed s where
  signed := by rw [h.noEvidence, h.noPackage]; rfl
  keyed := by rw [h.noPackage]; exact List.nodup_nil
  terms package hmem := by rw [h.noPackage] at hmem; cases hmem
  noApprovalFence id approval happr := by rw [h.noApproval] at happr; cases happr
  noSigningFence id signing hsigning := by rw [h.noSigning] at hsigning; cases hsigning

/-- The versions that carry evidence are the final ones. -/
theorem Sealed.signedPackages_eq (h : Sealed s) :
    s.store.signedPackages = s.store.packages.filter (·.state = .readyForSignature) := by
  refine List.filter_congr fun package hmem => ?_
  rw [Bool.eq_iff_iff, List.any_eq_true, decide_eq_true_eq]
  constructor
  · rintro ⟨_, hevid, hid⟩
    have hfinal : package.id ∈
        (s.store.packages.filter (·.state = .readyForSignature)).map (·.id) := by
      rw [← h.signed, ← of_decide_eq_true hid]
      exact List.mem_map_of_mem hevid
    obtain ⟨_, hmem', hsame⟩ := List.mem_map.1 hfinal
    obtain ⟨hpkg, hstate⟩ := List.mem_filter.1 hmem'
    obtain rfl := List.inj_on_of_nodup_map h.keyed hpkg hmem hsame
    exact of_decide_eq_true hstate
  · intro hstate
    have hid : package.id ∈ s.store.evidence.map (·.packageId) := by
      rw [h.signed]
      exact List.mem_map_of_mem (List.mem_filter.2 ⟨hmem, decide_eq_true hstate⟩)
    obtain ⟨evidence, hevid, hsame⟩ := List.mem_map.1 hid
    exact ⟨evidence, hevid, decide_eq_true hsame⟩

theorem Sealed.signedPackages_eq_nil_iff (h : Sealed s) :
    s.store.signedPackages = [] ↔ s.store.evidence = [] := by
  rw [h.signedPackages_eq, ← List.map_eq_nil_iff (f := fun package : ContractPackage => package.id),
    ← h.signed, List.map_eq_nil_iff]

variable {base package : ContractPackage} {permitting : CreditDecision}

theorem Sealed.not_material (h : Sealed s) (hmem : package ∈ s.store.packages)
    (hpermitting : s.store.permittingDecision = some permitting) :
    detectMaterialChange package.termSnapshotHash permitting.snapshotHash = false := by
  obtain ⟨_, hdec, hhash⟩ := h.terms package hmem
  rw [ContractStore.permittingDecision, hdec] at hpermitting
  obtain ⟨hsame, -⟩ := Option.filter_eq_some_iff.1 hpermitting
  obtain rfl := Option.some.inj hsame
  exact decide_eq_false (not_not.2 hhash)

variable {store : ContractStore} {material : Bool}

theorem checkApproval_material (h : checkApproval store = .ok (package, material)) :
    ∃ permitting, store.permittingDecision = some permitting ∧
      material = detectMaterialChange package.termSnapshotHash permitting.snapshotHash := by
  unfold checkApproval requirePermittingDecision at h
  cases hcur : store.currentPackage with
  | none =>
    rw [hcur] at h
    cases h
  | some =>
    cases hpermitting : store.permittingDecision with
    | none =>
      rw [hcur, hpermitting] at h
      cases h
    | some permitting =>
      rw [hcur, hpermitting] at h
      cases h
      exact ⟨permitting, rfl, rfl⟩

theorem checkSigning_material {tables : CaseTables} (h : checkSigning store tables = .ok material) :
    ∃ package permitting, store.currentPackage = some package ∧
      store.permittingDecision = some permitting ∧
        material = detectMaterialChange package.termSnapshotHash permitting.snapshotHash := by
  unfold checkSigning requirePermittingDecision at h
  cases hcur : store.currentPackage with
  | none =>
    rw [hcur] at h
    cases h
  | some current =>
    simp only [hcur, Option.map_some, Option.getD_some, bind, Except.bind] at h
    split at h
    · cases hpermitting : store.permittingDecision with
      | none =>
        rw [hpermitting] at h
        cases h
      | some permitting =>
        rw [hpermitting] at h
        cases h
        exact ⟨current, permitting, rfl, rfl, rfl⟩
    · cases h

/-! ## What a step appends -/

/-- A step that is no redline leaves the versions and the evidence alone or starts the chain or signs; a
redline and a signature append a version to the current one, under a new id and with its terms. -/
inductive VersionMove (s t : System) : Request → Prop where
  | kept {q : Request} (hquiet : ∀ a b c d e, q ≠ .redline a b c d e)
      (hpkgs : t.store.packages = s.store.packages)
      (hevid : t.store.evidence = s.store.evidence) : VersionMove s t q
  | drafted {newId actorId : Uuid} {decision : CreditDecision} {package : ContractPackage}
      (hnone : s.store.packages = []) (hdec : s.store.decision = some decision)
      (hpkgs : t.store.packages = [package]) (hevid : t.store.evidence = s.store.evidence)
      (hstate : package.state = .draft)
      (hterms : package.termSnapshotHash = decision.snapshotHash) :
      VersionMove s t (.create newId actorId)
  | redlined {redlineId newId : Uuid} {changeNoteVi changedContentVi : String} {actorId : Uuid}
      {base package : ContractPackage} (hbase : s.store.currentPackage = some base)
      (hpkgs : t.store.packages = package :: s.store.packages)
      (hevid : t.store.evidence = s.store.evidence)
      (hid : package.id ∉ s.store.packages.map (·.id)) (hstate : package.state = .redlined)
      (hterms : package.termSnapshotHash = base.termSnapshotHash) :
      VersionMove s t (.redline redlineId newId changeNoteVi changedContentVi actorId)
  | signed {signingId newId evidenceId : Uuid} {base package : ContractPackage}
      {evidence : SignatureEvidence} (hbase : s.store.currentPackage = some base)
      (hbaseState : base.state ≠ .readyForSignature)
      (hpkgs : t.store.packages = package :: s.store.packages)
      (hevid : t.store.evidence = evidence :: s.store.evidence)
      (hpackageId : evidence.packageId = package.id)
      (hid : package.id ∉ s.store.packages.map (·.id)) (hstate : package.state = .readyForSignature)
      (hterms : package.termSnapshotHash = base.termSnapshotHash) :
      VersionMove s t (.recordSignature signingId newId evidenceId)

theorem drafted_of_create (store : ContractStore) (decision : CreditDecision) (newId actorId : Uuid) :
    (store.createPackage decision newId actorId).evidence = store.evidence ∧
      ((store.createPackage decision newId actorId).packages = store.packages ∨
        store.packages = [] ∧ (store.createPackage decision newId actorId).packages =
          [store.draft decision newId actorId]) := by
  unfold ContractStore.createPackage
  split
  · rename_i hnone
    refine ⟨rfl, Or.inr ⟨hnone, ?_⟩⟩
    show store.draft decision newId actorId :: store.packages = _
    rw [hnone]
  · exact ⟨rfl, Or.inl rfl⟩

/-- **What a step appends.** -/
theorem versionMove_of_step (h : Sealed s) (hstep : step s q = some t) : VersionMove s t q := by
  have hfree : ∀ newId, q.newPackageId = some newId → newId ∉ s.store.packages.map (·.id) :=
    fun newId hnew => newPackageId_free hstep hnew
  cases performed_of_step hstep with
  | @created newId actorId decision hdec =>
    obtain ⟨hevid, hpkgs | ⟨hnone, hpkgs⟩⟩ :=
      drafted_of_create s.store decision newId actorId
    · exact .kept nofun hpkgs hevid
    · exact .drafted hnone (Option.filter_eq_some_iff.1 hdec).1 hpkgs hevid rfl rfl
  | @redlined redlineId newId changeNoteVi changedContentVi actorId store hstore =>
    obtain ⟨_, hbase, rfl⟩ := Option.map_eq_some_iff.1 hstore
    exact .redlined hbase rfl rfl (hfree newId rfl) rfl rfl
  | @signatureRecorded signingId newId evidenceId signing store _ _ hstore =>
    unfold ContractStore.recordSignatureEvidence at hstore
    split at hstore
    · cases hstore
    rename_i base hbase
    have hnew := hfree newId rfl
    split at hstore
    · cases hstore
    · cases hstore
    all_goals
      rename_i hstate
      cases hstore
      exact .signed hbase (by rw [hstate]; nofun) rfl rfl rfl hnew rfl rfl
  | approvalFenced happr hphase => exact absurd hphase (h.noApprovalFence _ _ happr)
  | signingFenced hsigning hphase => exact absurd hphase (h.noSigningFence _ _ hsigning)
  | decided | approvalOpened | approvalSatisfied | approvalAudited | authorityConfirmed | signingOpened
  | signedSatisfied => exact .kept nofun rfl rfl

/-- A decision stays. -/
theorem decision_of_step (hstep : step s q = some t) {decision : CreditDecision}
    (hdec : s.store.decision = some decision) : t.store.decision = some decision := by
  cases performed_of_step hstep with
  | decided hnone =>
    rw [hnone] at hdec
    cases hdec
  | created =>
    show (ContractStore.createPackage ..).decision = _
    unfold ContractStore.createPackage
    split
    all_goals exact hdec
  | redlined hstore =>
    obtain ⟨_, -, rfl⟩ := Option.map_eq_some_iff.1 hstore
    exact hdec
  | approvalFenced _ _ hstore | signingFenced _ _ hstore =>
    obtain ⟨_, -, rfl⟩ := Option.map_eq_some_iff.1 hstore
    split
    all_goals exact hdec
  | signatureRecorded _ _ hstore =>
    unfold ContractStore.recordSignatureEvidence at hstore
    split at hstore
    · cases hstore
    split at hstore
    · cases hstore
    · cases hstore
    all_goals
      cases hstore
      exact hdec
  | approvalOpened | approvalSatisfied | approvalAudited | authorityConfirmed | signingOpened
  | signedSatisfied => exact hdec

theorem Sealed.phase_of_current (h : Sealed s) (hcur : s.store.currentPackage = some package)
    (hpermitting : s.store.permittingDecision = some permitting)
    (hmaterial : material = detectMaterialChange package.termSnapshotHash permitting.snapshotHash) :
    material = false :=
  hmaterial.trans (h.not_material (List.mem_of_mem_head? hcur) hpermitting)

theorem Sealed.keyed_of_append (h : Sealed s)
    (hpkgs : t.store.packages = package :: s.store.packages)
    (hid : package.id ∉ s.store.packages.map (·.id)) : (t.store.packages.map (·.id)).Nodup := by
  rw [hpkgs, List.map_cons]
  exact List.nodup_cons.2 ⟨hid, h.keyed⟩

theorem Sealed.terms_of_append (h : Sealed s) (hstep : ContractPackages.step s q = some t)
    (hbase : s.store.currentPackage = some base)
    (hpkgs : t.store.packages = package :: s.store.packages)
    (hterms : package.termSnapshotHash = base.termSnapshotHash) :
    ∀ p ∈ t.store.packages, ∃ decision, t.store.decision = some decision ∧
      p.termSnapshotHash = decision.snapshotHash := by
  have hkept : ∀ p ∈ s.store.packages, ∃ decision, t.store.decision = some decision ∧
      p.termSnapshotHash = decision.snapshotHash := by
    intro p hmem
    obtain ⟨decision, hdec, hhash⟩ := h.terms p hmem
    exact ⟨decision, decision_of_step hstep hdec, hhash⟩
  intro p hmem
  rw [hpkgs] at hmem
  rcases List.mem_cons.1 hmem with rfl | hold
  · obtain ⟨decision, hdec, hhash⟩ := hkept base (List.mem_of_mem_head? hbase)
    exact ⟨decision, hdec, hterms.trans hhash⟩
  · exact hkept p hold

theorem Sealed.noApprovalFence_step (h : Sealed s) (hstep : ContractPackages.step s q = some t) :
    ∀ id approval, t.approvals id = some approval → approval.phase ≠ .fencing := by
  have hset : ∀ {approvalId next}, next.phase ≠ .fencing → ∀ id approval,
      Function.update s.approvals approvalId (some next) id = some approval →
        approval.phase ≠ .fencing := by
    intro approvalId next hnext id approval happr
    rcases update_some_cases happr with ⟨-, rfl⟩ | ⟨-, hold⟩
    · exact hnext
    · exact h.noApprovalFence id approval hold
  cases performed_of_step hstep with
  | @approvalOpened approvalId actorId rationaleVi package material hfree hcheck =>
    obtain ⟨_, hpermitting, hmaterial⟩ := checkApproval_material hcheck
    have hfalse := h.phase_of_current (checkApproval_ok hcheck) hpermitting hmaterial
    refine hset ?_
    rw [hfalse]
    exact nofun
  | approvalFenced | approvalSatisfied | approvalAudited => exact hset nofun
  | decided | created | redlined | authorityConfirmed | signingOpened | signingFenced
  | signatureRecorded | signedSatisfied => exact h.noApprovalFence

theorem Sealed.noSigningFence_step (h : Sealed s) (hstep : ContractPackages.step s q = some t) :
    ∀ id signing, t.signings id = some signing → signing.phase ≠ .fencing := by
  have hset : ∀ {signingId next}, next.phase ≠ .fencing → ∀ id signing,
      Function.update s.signings signingId (some next) id = some signing →
        signing.phase ≠ .fencing := by
    intro signingId next hnext id signing hsigning
    rcases update_some_cases hsigning with ⟨-, rfl⟩ | ⟨-, hold⟩
    · exact hnext
    · exact h.noSigningFence id signing hold
  cases performed_of_step hstep with
  | @signingOpened signingId request material hfree hcheck =>
    obtain ⟨_, _, hcur, hpermitting, hmaterial⟩ := checkSigning_material hcheck
    have hfalse := h.phase_of_current hcur hpermitting hmaterial
    refine hset ?_
    rw [hfalse]
    exact nofun
  | signingFenced | signatureRecorded | signedSatisfied => exact hset nofun
  | decided | created | redlined | approvalOpened | approvalFenced | approvalSatisfied
  | approvalAudited | authorityConfirmed => exact h.noSigningFence

theorem Sealed.step (h : Sealed s) (hstep : ContractPackages.step s q = some t) : Sealed t := by
  refine ⟨?_, ?_, ?_, h.noApprovalFence_step hstep, h.noSigningFence_step hstep⟩
  · cases versionMove_of_step h hstep with
    | kept _ hpkgs hevid =>
      rw [hpkgs, hevid]
      exact h.signed
    | drafted hnone _ hpkgs hevid hstate =>
      have hold := h.signed
      rw [hnone] at hold
      rw [hpkgs, hevid, hold, List.filter_cons, hstate]
      rfl
    | redlined _ hpkgs hevid _ hstate =>
      rw [hpkgs, hevid, List.filter_cons, hstate]
      exact h.signed
    | signed _ _ hpkgs hevid hpackageId _ hstate =>
      rw [hpkgs, hevid, List.filter_cons, hstate, if_pos (decide_eq_true rfl), List.map_cons,
        List.map_cons, hpackageId, h.signed]
  · cases versionMove_of_step h hstep with
    | kept _ hpkgs =>
      rw [hpkgs]
      exact h.keyed
    | drafted _ _ hpkgs =>
      rw [hpkgs]
      exact List.nodup_singleton _
    | redlined _ hpkgs _ hid | signed _ _ hpkgs _ _ hid => exact h.keyed_of_append hpkgs hid
  · cases versionMove_of_step h hstep with
    | kept _ hpkgs =>
      intro package hmem
      rw [hpkgs] at hmem
      obtain ⟨decision, hdec, hhash⟩ := h.terms package hmem
      exact ⟨decision, decision_of_step hstep hdec, hhash⟩
    | drafted _ hdec hpkgs _ _ hterms =>
      intro package hmem
      rw [hpkgs, List.mem_singleton] at hmem
      subst hmem
      exact ⟨_, decision_of_step hstep hdec, hterms⟩
    | redlined hbase hpkgs _ _ _ hterms | signed hbase _ hpkgs _ _ _ _ hterms =>
      exact h.terms_of_append hstep hbase hpkgs hterms

/-! ## One step -/

theorem signingCloses_congr (hpkgs : t.store.packages = s.store.packages)
    (hevid : t.store.evidence = s.store.evidence) : SigningCloses t ↔ SigningCloses s := by
  rw [SigningCloses, SigningCloses, ContractStore.signedPackages, ContractStore.signedPackages,
    ContractStore.currentPackage, ContractStore.currentPackage, hpkgs, hevid]

theorem signingCloses_of_nil (h : s.store.signedPackages = []) : SigningCloses s := by
  rw [SigningCloses, h]
  exact ⟨Nat.zero_le 1, fun package hmem => absurd hmem List.not_mem_nil⟩

theorem signedPackages_eq_nil (h : Sealed s) (hcloses : SigningCloses s)
    (hbase : s.store.currentPackage = some base) (hstate : base.state ≠ .readyForSignature) :
    s.store.signedPackages = [] := by
  refine List.eq_nil_iff_forall_not_mem.2 fun package hmem => hstate ?_
  obtain rfl := Option.some.inj ((hcloses.2 package hmem).symm.trans hbase)
  rw [h.signedPackages_eq] at hmem
  exact of_decide_eq_true (List.mem_filter.1 hmem).2

/-- **A step keeps the contract closed exactly if it meets the condition.** -/
theorem signingCloses_step_iff (h : Sealed s) (hcloses : SigningCloses s) (hstep : step s q = some t) :
    SigningCloses t ↔ RedlinesUnsigned s q := by
  have hnext := h.step hstep
  cases versionMove_of_step h hstep with
  | kept hquiet hpkgs hevid =>
    refine iff_of_true ((signingCloses_congr hpkgs hevid).2 hcloses) ?_
    cases q with
    | redline a b c d e => exact absurd rfl (hquiet a b c d e)
    | decide | create | openApproval | fenceApproval | satisfyApproval | auditApproval
    | confirmAuthority | openSigning | fenceSigning | recordSignature | satisfySigned => trivial
  | drafted hnone _ _ hevid =>
    refine iff_of_true (signingCloses_of_nil ?_) trivial
    rw [hnext.signedPackages_eq_nil_iff, hevid, ← h.signedPackages_eq_nil_iff,
      ContractStore.signedPackages, hnone, List.filter_nil]
  | @redlined _ _ _ _ _ base package _ hpkgs hevid _ hstate =>
    show SigningCloses t ↔ s.store.evidence = []
    rw [← hevid, ← hnext.signedPackages_eq_nil_iff]
    constructor
    · intro hafter
      have hcur : t.store.currentPackage = some package := by
        rw [ContractStore.currentPackage, hpkgs, List.head?_cons]
      refine signedPackages_eq_nil hnext hafter hcur ?_
      rw [hstate]
      rintro ⟨⟩
    · exact signingCloses_of_nil
  | @signed _ _ _ base package _ hbase hbaseState hpkgs _ _ _ hstate =>
    -- the version that was current is not final, so this is the first signature
    have hnone := signedPackages_eq_nil h hcloses hbase hbaseState
    rw [h.signedPackages_eq] at hnone
    have hsigned : t.store.signedPackages = [package] := by
      rw [hnext.signedPackages_eq, hpkgs, List.filter_cons, hstate, if_pos (decide_eq_true rfl),
        hnone]
    refine iff_of_true ⟨?_, ?_⟩ trivial
    · rw [hsigned, List.length_singleton]
    · intro p hmem
      rw [hsigned, List.mem_singleton] at hmem
      rw [hmem, ContractStore.currentPackage, hpkgs, List.head?_cons]

/-- **When signing closes the contract.** In every state of a run at most one version is signed and nothing
is appended after it, exactly if every step meets the condition. -/
theorem signing_closes_iff {as : List Request} (hinit : Unsigned s) (hrun : run step s as = some t) :
    AllAlong step SigningCloses s as ↔ RunMeets step RedlinesUnsigned s as := by
  refine allAlong_iff_runMeets (fun hs _ hstep _ => Sealed.step hs hstep)
    (fun hs hcloses hstep => signingCloses_step_iff hs hcloses hstep) hinit.sealed ?_ hrun
  exact signingCloses_of_nil (hinit.sealed.signedPackages_eq_nil_iff.2 hinit.noEvidence)

/-! ## Concrete runs -/

section Runs

theorem sampleCase_unsigned : Unsigned sampleCase where
  toInitial := sampleCase_initial
  noEvidence := rfl

theorem redlinedThenApproved_closed :
    ∃ t, run step sampleCase redlinedThenApproved = some t ∧ t.store.signedPackages.length = 1 ∧
      AllAlong step SigningCloses sampleCase redlinedThenApproved := by
  have hruns : (run step sampleCase redlinedThenApproved).any (fun t =>
      t.store.signedPackages.length = 1) = true := by
    decide +kernel
  obtain ⟨t, hrun, hsigned⟩ := (Option.any_eq_true _ _).1 hruns
  have hmeets : RunMeets step RedlinesUnsigned sampleCase redlinedThenApproved := by decide +kernel
  exact ⟨t, hrun, of_decide_eq_true hsigned, (signing_closes_iff sampleCase_unsigned hrun).2 hmeets⟩

/-- Legal redlines the signed contract, and the checker signs again. -/
def signedRedlinedSigned : List Request :=
  redlinedThenApproved ++
    [.redline 711 712 "sửa thời hạn" "bản sửa sau ký" 42,
      .openSigning 502 ⟨["Nguyễn Văn A"], none, 40⟩, .recordSignature 502 713 714]

/-- **A contract is signed twice.** The redline is accepted after the signature, and the version it has
appended is signed under the gates of the first one. -/
theorem signed_twice :
    Unsigned sampleCase ∧ ∃ t, run step sampleCase signedRedlinedSigned = some t ∧
      t.store.signedPackages.map (·.packageVersion) = [5, 3] ∧ ¬ SigningCloses t := by
  have hruns : (run step sampleCase signedRedlinedSigned).any (fun t =>
      t.store.signedPackages.map (·.packageVersion) = [5, 3] ∧ ¬ SigningCloses t) = true := by
    decide +kernel
  obtain ⟨t, hrun, hstate⟩ := (Option.any_eq_true _ _).1 hruns
  exact ⟨sampleCase_unsigned, t, hrun, of_decide_eq_true hstate⟩

end Runs

end CreditOps.ContractPackages
