import CreditOps.Notifications.World

/-!
# The moves of credit decisions and notifications

What a step does to a reachable state (`step_cases`): it moves one request on, adds one decision, draft or
receipt, writes a gate, adds an artifact, or bumps the case version. Rows are only added and satisfied
gates stay satisfied (`Stepped.grows`).
-/

set_option autoImplicit false

namespace CreditOps.Notifications

open Orchestration CreditDecisions
open ContractPackages (CreditDecisionType approvalDecisions)

namespace CreditWorld

/-! ## What an insert finds -/

/-- The current case version is the one that was read, and what was read of every artifact kind that the
decision names is still the latest. -/
def StillCurrent (w : CreditWorld) (binding : DecisionBinding) (decision : HumanCreditDecision) : Prop :=
  w.tables.caseVersion = binding.currentCaseVersion ∧
    ∀ kind ∈ [ArtifactKind.memo, .riskAssessment, .underwritingAssessment],
      decision.artifactIds.get kind ≠ none →
        ReadsLatest (w.artifacts.get kind) binding.currentCaseVersion (binding.latest.get kind)

instance (w : CreditWorld) (binding : DecisionBinding) (decision : HumanCreditDecision) :
    Decidable (w.StillCurrent binding decision) :=
  inferInstanceAs (Decidable (_ ∧ ∀ _ ∈ _, _))

/-- A decision request that inserts now finds the case version and the artifacts it has read. -/
def DecisionFinds (w : CreditWorld) (snapshotId : Uuid) : DecisionStage → Prop
  | .recording binding decision _ =>
    w.decisionOf decision.caseVersion = none → w.DecisionKeysFree decision snapshotId →
      w.StillCurrent binding decision
  | .reading | .readingMemo _ | .readingRisk _ _ | .readingUnderwriting _ _ _ | .answered _ _
  | .refused _ | .raised => True

/-- A delivery that inserts now finds the case version whose gates it has read. -/
def DeliveryFinds (w : CreditWorld) (newId : Uuid) : DeliveryStage → Prop
  | .delivering draft version =>
    w.receiptFor draft.id = none → (∀ other ∈ w.receipts, other.receipt.id ≠ newId) →
      w.tables.caseVersion = version
  | .loading | .readingVersion _ | .readingGates _ _ | .answered _ | .refused _ | .raised => True

/-- What a step of a request finds. -/
def RequestFinds (w : CreditWorld) (snapshotId : Uuid) : CreditRequest → Prop
  | .decision request => w.DecisionFinds snapshotId request.stage
  | .delivery request => w.DeliveryFinds request.newId request.stage
  | .draft _ | .approval _ => True

/-- An insert finds what its request has read. -/
def FindsWhatItRead (w : CreditWorld) : CreditAction → Prop
  | .advance requestId _ _ snapshotId _ =>
    ∀ request ∈ w.requests requestId, w.RequestFinds snapshotId request
  | .openDecision _ _ _ | .openDraft _ _ _ | .openApproval _ _ _ | .openDelivery _ _ _ _
  | .persistArtifact _ _ | .tick _ _ _ | .bumpCaseVersion _ _ => True

instance decidableDecisionFinds (w : CreditWorld) (snapshotId : Uuid) :
    ∀ stage, Decidable (w.DecisionFinds snapshotId stage)
  | .recording binding decision _ =>
    match h : w.decisionOf decision.caseVersion with
    | some _ => isTrue fun hnone => by cases h.symm.trans hnone
    | none =>
      decidable_of_iff (w.DecisionKeysFree decision snapshotId → w.StillCurrent binding decision)
        ⟨fun hfinds _ => hfinds, fun hfinds => hfinds h⟩
  | .reading | .readingMemo _ | .readingRisk _ _ | .readingUnderwriting _ _ _ | .answered _ _
  | .refused _ | .raised => isTrue trivial

instance decidableDeliveryFinds (w : CreditWorld) (newId : Uuid) :
    ∀ stage, Decidable (w.DeliveryFinds newId stage)
  | .delivering draft version =>
    match h : w.receiptFor draft.id with
    | some _ => isTrue fun hnone => by cases h.symm.trans hnone
    | none =>
      decidable_of_iff
        ((∀ other ∈ w.receipts, other.receipt.id ≠ newId) → w.tables.caseVersion = version)
        ⟨fun hfinds _ => hfinds, fun hfinds => hfinds h⟩
  | .loading | .readingVersion _ | .readingGates _ _ | .answered _ | .refused _ | .raised =>
    isTrue trivial

instance decidableRequestFinds (w : CreditWorld) (snapshotId : Uuid) :
    ∀ request, Decidable (w.RequestFinds snapshotId request)
  | .decision _ => inferInstanceAs (Decidable (w.DecisionFinds ..))
  | .delivery _ => inferInstanceAs (Decidable (w.DeliveryFinds ..))
  | .draft _ | .approval _ => isTrue trivial

instance decidableFindsWhatItRead (w : CreditWorld) : ∀ a, Decidable (w.FindsWhatItRead a)
  | .advance _ _ _ _ _ => inferInstanceAs (Decidable (∀ _ ∈ _, _))
  | .openDecision _ _ _ | .openDraft _ _ _ | .openApproval _ _ _ | .openDelivery _ _ _ _
  | .persistArtifact _ _ | .tick _ _ _ | .bumpCaseVersion _ _ => isTrue trivial

/-! ## What a reachable state looks like -/

/-- The draft is the rendering of a stored decision of its case version and the terms the decision was
recorded with. -/
def DraftFaithful (w : CreditWorld) (draft : CreditNotificationDraft) : Prop :=
  ∃ row ∈ w.decisions, row.decision.id = draft.decisionId ∧
    row.decision.caseVersion = draft.caseVersion ∧
    renderNotificationContentVi row.decision row.recordedTerms = some draft.contentVi

/-- What a draft request knows. -/
def DraftTracked (w : CreditWorld) : DraftStage → Prop
  | .loadingTerms decision => ∃ row ∈ w.decisions, row.decision = decision
  | .inserting draft => w.DraftFaithful draft
  | .reading | .loadingDecision _ | .answered _ _ | .refused _ | .raised => True

/-- What a delivery of the actor knows. -/
def DeliveryTracked (w : CreditWorld) (actorId : Uuid) : DeliveryStage → Prop
  | .readingVersion draft | .readingGates draft _ => draft ∈ w.drafts ∧ draft.createdBy ≠ actorId
  | .delivering draft version =>
    draft ∈ w.drafts ∧ draft.createdBy ≠ actorId ∧ draft.caseVersion = version ∧ w.GateSatisfied version
  | .loading | .answered _ | .refused _ | .raised => True

/-- What a request knows. -/
def RequestTracked (w : CreditWorld) : CreditRequest → Prop
  | .decision request => ∀ binding decision terms, request.stage = .recording binding decision terms →
      Binds binding decision
  | .draft request => w.DraftTracked request.stage
  | .approval _ => True
  | .delivery request => w.DeliveryTracked request.actorId request.stage

/-- The snapshot freezes the terms a stored decision was recorded with. -/
def SnapshotFaithful (w : CreditWorld) (snapshot : ApprovedTermSnapshot) : Prop :=
  ∃ row ∈ w.decisions, row.decision.id = snapshot.decisionId ∧ ∃ terms,
    row.recordedTerms = some terms ∧ snapshot.terms = terms.stored ∧
      snapshot.snapshotHash = computeTermsHash terms

/-- What every reachable state satisfies. -/
structure Tracked (w : CreditWorld) : Prop where
  requests : ∀ id request, w.requests id = some request → w.RequestTracked request
  decisionIds : (w.decisions.map (·.decision.id)).Nodup
  draftIds : (w.drafts.map (·.id)).Nodup
  snapshots : ∀ snapshot ∈ w.snapshots, w.SnapshotFaithful snapshot
  frozen : ∀ row ∈ w.decisions, ∀ terms ∈ row.recordedTerms,
    ∃ snapshot ∈ w.snapshots, snapshot.decisionId = row.decision.id

variable {w t : CreditWorld} {a : CreditAction} {id decisionId snapshotId : Uuid} {seen : Option Uuid}
  {now : Timestamp}

theorem Initial.tracked (h : w.Initial) : w.Tracked where
  requests id request hreq := by
    rw [h.noRequest id] at hreq
    cases hreq
  decisionIds := by
    rw [h.noDecision]
    exact List.nodup_nil
  draftIds := by
    rw [h.noDraft]
    exact List.nodup_nil
  snapshots snapshot hmem := by
    rw [h.noSnapshot] at hmem
    cases hmem
  frozen row hmem := by
    rw [h.noDecision] at hmem
    cases hmem

/-! ## Rows are only added -/

/-- Rows are only added, and satisfied gates stay satisfied. -/
structure Grows (w t : CreditWorld) : Prop where
  decisions : ∀ row ∈ w.decisions, row ∈ t.decisions
  snapshots : ∀ row ∈ w.snapshots, row ∈ t.snapshots
  drafts : ∀ row ∈ w.drafts, row ∈ t.drafts
  gates : ∀ version, w.GateSatisfied version → t.GateSatisfied version

theorem DraftFaithful.mono (h : w.Grows t) {draft : CreditNotificationDraft}
    (hdraft : w.DraftFaithful draft) : t.DraftFaithful draft := by
  obtain ⟨row, hrow, hfaithful⟩ := hdraft
  exact ⟨row, h.decisions row hrow, hfaithful⟩

theorem SnapshotFaithful.mono (h : w.Grows t) {snapshot : ApprovedTermSnapshot}
    (hsnap : w.SnapshotFaithful snapshot) : t.SnapshotFaithful snapshot := by
  obtain ⟨row, hrow, hfaithful⟩ := hsnap
  exact ⟨row, h.decisions row hrow, hfaithful⟩

/-- What a request knows it knows on. -/
theorem RequestTracked.mono (h : w.Grows t) {request : CreditRequest}
    (hreq : w.RequestTracked request) : t.RequestTracked request := by
  cases request with
  | decision => exact hreq
  | approval => trivial
  | draft request =>
    obtain ⟨_, _, stage⟩ := request
    cases stage with
    | loadingTerms =>
      obtain ⟨row, hrow, hdec⟩ := hreq
      exact ⟨row, h.decisions row hrow, hdec⟩
    | inserting => exact DraftFaithful.mono h hreq
    | reading | loadingDecision | answered | refused | raised => trivial
  | delivery request =>
    obtain ⟨_, _, _, stage⟩ := request
    cases stage with
    | readingVersion draft | readingGates draft => exact ⟨h.drafts draft hreq.1, hreq.2⟩
    | delivering draft version =>
      obtain ⟨hdraft, hactor, hver, hgate⟩ := hreq
      exact ⟨h.drafts draft hdraft, hactor, hver, h.gates version hgate⟩
    | loading | answered | refused | raised => trivial

/-! ## What a step does -/

/-- What a step does, with everything it has checked. -/
inductive Stepped (w : CreditWorld) (a : CreditAction) : CreditWorld → Prop where
  | moved {id : Uuid} {request : CreditRequest} (htracked : w.RequestTracked request)
      (hfinds : w.FindsWhatItRead a) :
      Stepped w a (w.setRequest id request)
  | decided {id snapshotId decisionId : Uuid} {seen : Option Uuid} {now : Timestamp}
      {request : DecisionRequest} {binding : DecisionBinding} {decision : HumanCreditDecision}
      {terms : Option ApprovedTerms} (ha : a = .advance id seen decisionId snapshotId now)
      (hreq : w.requests id = some (.decision request))
      (hstage : request.stage = .recording binding decision terms)
      (hfree : w.decisionOf decision.caseVersion = none)
      (hkeys : w.DecisionKeysFree decision snapshotId) :
      Stepped w a ((w.insertDecision decision terms snapshotId).setRequest id
        (.decision { request with stage := .answered decision true }))
  | drafted {id : Uuid} {request : DraftRequest} {draft : CreditNotificationDraft}
      (hreq : w.requests id = some (.draft request)) (hstage : request.stage = .inserting draft)
      (hfree : w.draftOf draft.caseVersion = none) (hkey : ∀ row ∈ w.drafts, row.id ≠ draft.id)
      (hfinds : w.FindsWhatItRead a) :
      Stepped w a ({ w with drafts := draft :: w.drafts }.setRequest id
        (.draft { request with stage := .answered draft true }))
  | approved {id : Uuid} {request : ApprovalRequest} {draft : CreditNotificationDraft}
      {tables : CaseTables} (hver : tables.caseVersion = w.tables.caseVersion)
      (hgates : ∀ version, w.GateSatisfied version →
        tables.GateSatisfied version .hgCreditNotificationApproved)
      (hfinds : w.FindsWhatItRead a) :
      Stepped w a ({ w with tables }.setRequest id
        (.approval { request with stage := .answered draft }))
  | delivered {id snapshotId decisionId : Uuid} {seen : Option Uuid} {now : Timestamp}
      {request : DeliveryRequest} {draft : CreditNotificationDraft} {version : CaseVersion}
      (ha : a = .advance id seen decisionId snapshotId now)
      (hreq : w.requests id = some (.delivery request))
      (hstage : request.stage = .delivering draft version) (hfree : w.receiptFor draft.id = none)
      (hkey : ∀ other ∈ w.receipts, other.receipt.id ≠ request.newId) :
      Stepped w a ((w.insertReceipt (request.receipt draft)).setRequest id
        (.delivery { request with stage := .answered (request.receipt draft) }))
  | persisted {artifacts : ArtifactTables} (hfinds : w.FindsWhatItRead a) :
      Stepped w a { w with artifacts }
  | wroteTables {tables : CaseTables} (hgates : ∀ version, w.GateSatisfied version →
        tables.GateSatisfied version .hgCreditNotificationApproved)
      (hfinds : w.FindsWhatItRead a) :
      Stepped w a { w with tables }

/-- A step only adds rows. -/
theorem Stepped.grows (h : Stepped w a t) : w.Grows t := by
  have hkeep : ∀ {α : Type} {rows : List α}, ∀ row ∈ rows, row ∈ rows := fun _ hmem => hmem
  cases h with
  | moved | delivered | persisted => exact ⟨hkeep, hkeep, hkeep, fun _ hgate => hgate⟩
  | decided =>
    exact ⟨fun _ hmem => List.mem_cons_of_mem _ hmem, fun _ hmem => List.mem_append_right _ hmem, hkeep,
      fun _ hgate => hgate⟩
  | drafted =>
    exact ⟨hkeep, hkeep, fun _ hmem => List.mem_cons_of_mem _ hmem, fun _ hgate => hgate⟩
  | approved _ hgates | wroteTables hgates => exact ⟨hkeep, hkeep, hkeep, hgates⟩

/-! ## The steps of each request -/

theorem findsWhatItRead_advance {request : CreditRequest} (hreq : w.requests id = some request)
    (hfinds : w.RequestFinds snapshotId request) :
    w.FindsWhatItRead (.advance id seen decisionId snapshotId now) := by
  intro other hother
  rw [Option.mem_def, hreq, Option.some.injEq] at hother
  exact hother ▸ hfinds

theorem decision_cases {request : DecisionRequest} (hreq : w.requests id = some (.decision request))
    (h : w.advanceDecision id seen decisionId snapshotId request = some t) :
    Stepped w (.advance id seen decisionId snapshotId now) t := by
  unfold advanceDecision at h
  dsimp only at h
  -- the reads and the refusals know nothing
  have hmoved : ∀ stage, (∀ binding decision terms, stage = .recording binding decision terms →
      Binds binding decision) → w.DecisionFinds snapshotId request.stage →
      Stepped w (.advance id seen decisionId snapshotId now)
        (w.setRequest id (.decision { request with stage })) := by
    intro stage hstage hfinds
    exact .moved hstage (findsWhatItRead_advance hreq hfinds)
  cases hstage : request.stage with
  | reading =>
    rw [hstage] at h hmoved
    cases h
    exact hmoved _ (by rintro _ _ _ ⟨⟩) trivial
  | readingMemo | readingRisk =>
    rw [hstage] at h hmoved
    dsimp only at h
    split at h
    · cases h
      exact hmoved _ (by rintro _ _ _ ⟨⟩) trivial
    · cases h
  | readingUnderwriting version memo risk =>
    rw [hstage] at h hmoved
    dsimp only at h
    split at h
    · split at h
      · cases h
        exact hmoved _ (by rintro _ _ _ ⟨⟩) trivial
      · rename_i decision terms hcheck
        cases h
        refine hmoved _ ?_ trivial
        rintro _ _ _ ⟨⟩
        exact checkDecision_binds hcheck
    · cases h
  | recording binding decision terms =>
    rw [hstage] at h hmoved
    dsimp only at h
    split at h
    · rename_i existing hexisting
      cases h
      refine hmoved _ (by rintro _ _ _ ⟨⟩) ?_
      intro hnone
      cases hexisting.symm.trans hnone
    · rename_i hfree
      split at h
      · rename_i hkeys
        cases h
        exact .decided rfl hreq hstage hfree hkeys
      · rename_i htaken
        cases h
        refine hmoved _ (by rintro _ _ _ ⟨⟩) ?_
        intro _ hkeys
        exact absurd hkeys htaken
  | answered | refused | raised =>
    rw [hstage] at h
    cases h

/-- The terms a draft request loads are those the decision was recorded with. -/
theorem Tracked.loadTermsOn_eq (hw : w.Tracked) {row : CommittedDecision} (hrow : row ∈ w.decisions) :
    w.loadTermsOn row.decision.id = some row.recordedTerms := by
  unfold loadTermsOn
  split
  · rename_i hnone
    cases hterms : row.recordedTerms with
    | none => rfl
    | some terms =>
      -- the snapshot of a decision with terms would have been found
      obtain ⟨snapshot, hmem, hid⟩ := hw.frozen row hrow terms hterms
      have hmiss := List.find?_eq_none.1 hnone snapshot hmem
      exact absurd (decide_eq_true hid) hmiss
  · rename_i snapshot hfound
    have hmatch := List.find?_some hfound
    have hid : snapshot.decisionId = row.decision.id := of_decide_eq_true hmatch
    obtain ⟨other, hother, hotherId, _, hterms, hstored, -⟩ :=
      hw.snapshots snapshot (List.mem_of_find?_eq_some hfound)
    obtain rfl : other = row :=
      List.inj_on_of_nodup_map hw.decisionIds hother hrow (hotherId.trans hid)
    rw [hstored, loadTerms_stored, hterms]
    rfl

theorem draft_cases (hw : w.Tracked) {request : DraftRequest}
    (hreq : w.requests id = some (.draft request)) (h : w.advanceDraft id request = some t) :
    Stepped w (.advance id seen decisionId snapshotId now) t := by
  have hfinds : w.FindsWhatItRead (.advance id seen decisionId snapshotId now) :=
    findsWhatItRead_advance hreq trivial
  have htracked : w.DraftTracked request.stage := hw.requests id _ hreq
  have hmoved : ∀ stage, w.DraftTracked stage → Stepped w (.advance id seen decisionId snapshotId now)
      (w.setRequest id (.draft { request with stage })) := fun _ hstage => .moved hstage hfinds
  unfold advanceDraft at h
  dsimp only at h
  cases hstage : request.stage with
  | reading =>
    rw [hstage] at h
    cases h
    exact hmoved _ trivial
  | loadingDecision version =>
    rw [hstage] at h
    dsimp only at h
    split at h
    · cases h
      exact hmoved _ trivial
    · rename_i row hrow
      split at h
      · cases h
        exact hmoved _ ⟨row, List.mem_of_find?_eq_some hrow, rfl⟩
      · cases h
        exact hmoved _ trivial
  | loadingTerms decision =>
    rw [hstage] at h htracked
    obtain ⟨row, hrow, rfl⟩ := htracked
    dsimp only at h
    rw [hw.loadTermsOn_eq hrow, Option.bind_some] at h
    split at h
    · cases h
      exact hmoved _ trivial
    · rename_i draft hbuilt
      cases h
      obtain ⟨hrender, hver, hid⟩ := buildNotificationDraft_eq_some hbuilt
      exact hmoved _ ⟨row, hrow, hid.symm, hver.symm, hrender⟩
  | inserting draft =>
    rw [hstage] at h
    dsimp only at h
    split at h
    · split at h
      all_goals
        cases h
        exact hmoved _ trivial
    · rename_i hfree
      split at h
      · rename_i hkey
        cases h
        exact .drafted hreq hstage hfree hkey hfinds
      · cases h
        exact hmoved _ trivial
  | answered | refused | raised =>
    rw [hstage] at h
    cases h

theorem approval_cases {request : ApprovalRequest} (hreq : w.requests id = some (.approval request))
    (h : w.advanceApproval id now request = some t) :
    Stepped w (.advance id seen decisionId snapshotId now) t := by
  have hfinds : w.FindsWhatItRead (.advance id seen decisionId snapshotId now) :=
    findsWhatItRead_advance hreq trivial
  have hmoved : ∀ stage, Stepped w (.advance id seen decisionId snapshotId now)
      (w.setRequest id (.approval { request with stage })) := fun _ => .moved trivial hfinds
  unfold advanceApproval at h
  dsimp only at h
  cases hstage : request.stage with
  | loading =>
    rw [hstage] at h
    dsimp only at h
    split at h
    · cases h
      exact hmoved _
    · split at h
      all_goals
        cases h
        exact hmoved _
  | writing =>
    rw [hstage] at h
    cases h
    refine .approved ?_ ?_ hfinds
    · rw [CaseTables.ensureGate_frame]
    · intro version hgate
      exact CaseTables.gateSatisfied_ensureGate_of hgate
  | answered | refused =>
    rw [hstage] at h
    cases h

theorem gateSatisfied_of_approvalGateSatisfied {version : CaseVersion} {draft : CreditNotificationDraft}
    (h : w.approvalGateSatisfied version draft = true) :
    draft.caseVersion = version ∧ w.GateSatisfied version := by
  obtain ⟨gate, hmem, hgate⟩ := List.any_eq_true.1 h
  obtain ⟨hstored, hver⟩ := List.mem_filter.1 hmem
  obtain ⟨htype, hdraft, hstat⟩ := of_decide_eq_true hgate
  have hat : gate.caseVersion = version := of_decide_eq_true hver
  exact ⟨hdraft.symm.trans hat, gate, hstored, CaseTables.isGate_iff.2 ⟨hat, htype⟩, hstat⟩

theorem mem_of_latestDraft {draft : CreditNotificationDraft} (h : w.latestDraft = some draft) :
    draft ∈ w.drafts :=
  (AppendLog.mem_of_latest _ _ h).1

theorem Tracked.find_draft (hw : w.Tracked) {draft : CreditNotificationDraft} (hmem : draft ∈ w.drafts) :
    w.drafts.find? (·.id = draft.id) = some draft := by
  have hsome : (w.drafts.find? (·.id = draft.id)).isSome :=
    List.find?_isSome.2 ⟨draft, hmem, decide_eq_true rfl⟩
  obtain ⟨found, hfound⟩ := Option.isSome_iff_exists.1 hsome
  have hmatch := List.find?_some hfound
  have hid : found.id = draft.id := of_decide_eq_true hmatch
  rw [hfound, List.inj_on_of_nodup_map hw.draftIds (List.mem_of_find?_eq_some hfound) hmem hid]

theorem delivery_cases (hw : w.Tracked) {request : DeliveryRequest}
    (hreq : w.requests id = some (.delivery request))
    (h : w.advanceDelivery id request = some t) :
    Stepped w (.advance id seen decisionId snapshotId now) t := by
  have htracked : w.DeliveryTracked request.actorId request.stage := hw.requests id _ hreq
  have hmoved : ∀ stage, w.DeliveryTracked request.actorId stage →
      w.DeliveryFinds request.newId request.stage →
      Stepped w (.advance id seen decisionId snapshotId now)
        (w.setRequest id (.delivery { request with stage })) := by
    intro stage hstage hfinds
    exact .moved hstage (findsWhatItRead_advance hreq hfinds)
  unfold advanceDelivery at h
  dsimp only at h
  cases hstage : request.stage with
  | loading =>
    rw [hstage] at h hmoved
    dsimp only at h
    split at h
    · cases h
      exact hmoved _ trivial trivial
    · rename_i draft hdraft
      split at h
      · cases h
        exact hmoved _ trivial trivial
      · rename_i hactor
        cases h
        exact hmoved _ ⟨mem_of_latestDraft hdraft, hactor⟩ trivial
  | readingVersion =>
    rw [hstage] at h hmoved htracked
    cases h
    exact hmoved _ htracked trivial
  | readingGates draft version =>
    rw [hstage] at h hmoved htracked
    dsimp only at h
    split at h
    · rename_i hgate
      cases h
      exact hmoved _ ⟨htracked.1, htracked.2, gateSatisfied_of_approvalGateSatisfied hgate⟩ trivial
    · cases h
      exact hmoved _ trivial trivial
  | delivering draft version =>
    rw [hstage] at h hmoved htracked
    dsimp only at h
    -- the draft is found, and its hash is the one the receipt carries
    have hhash : (request.receipt draft).contentHash = draft.contentHash := rfl
    rw [hw.find_draft htracked.1] at h
    dsimp only at h
    rw [if_pos hhash] at h
    split at h
    · rename_i existing hexisting
      cases h
      refine hmoved _ trivial ?_
      intro hnone
      cases hexisting.symm.trans hnone
    · rename_i hfree
      split at h
      · rename_i hkey
        cases h
        exact .delivered rfl hreq hstage hfree hkey
      · rename_i htaken
        cases h
        refine hmoved _ trivial ?_
        intro _ hkey
        exact absurd hkey htaken
  | answered | refused | raised =>
    rw [hstage] at h
    cases h

/-- **What a step does.** -/
theorem step_cases (hw : w.Tracked) (h : step w a = some t) : Stepped w a t := by
  have hopened : ∀ (id : Uuid) (request : CreditRequest), w.openRequest id request = some t →
      w.RequestTracked request → w.FindsWhatItRead a → Stepped w a t := by
    intro id request hopen htracked hfinds
    unfold openRequest at hopen
    split at hopen
    · cases hopen
    cases hopen
    exact .moved htracked hfinds
  cases a with
  | openDecision id =>
    obtain ⟨_, hreq, hopen⟩ := Option.bind_eq_some_iff.1 h
    refine hopened id _ hopen ?_ trivial
    have hok := Results.toOption_eq_some.1 hreq
    unfold decisionRequest at hok
    split at hok
    · cases hok
    cases hok
    rintro _ _ _ ⟨⟩
  | openDraft id | openApproval id | openDelivery id => exact hopened id _ h trivial trivial
  | advance =>
    obtain ⟨request, hreq, hadv⟩ := Option.bind_eq_some_iff.1 h
    cases request with
    | decision => exact decision_cases hreq hadv
    | draft => exact draft_cases hw hreq hadv
    | approval => exact approval_cases hreq hadv
    | delivery => exact delivery_cases hw hreq hadv
  | persistArtifact kind row =>
    have hpersist : (if ArtifactKeysFree (w.artifacts.get kind) row then
        some { w with artifacts := w.artifacts.add row kind } else none) = some t := h
    split at hpersist
    · cases hpersist
      exact .persisted trivial
    · cases hpersist
  | tick version =>
    cases h
    refine .wroteTables ?_ trivial
    intro version hgate
    exact CaseTables.gateSatisfied_ensureGate_of hgate
  | bumpCaseVersion =>
    obtain ⟨_, hbump, rfl⟩ := Option.map_eq_some_iff.1 h
    refine .wroteTables ?_ trivial
    intro version hgate
    have hgates := (CaseTables.bumpCaseVersion_frame (Results.toOption_eq_some.1 hbump)).2.2.1
    rwa [CaseTables.GateSatisfied, hgates]

/-! ## Reachable states -/

theorem requests_setRequest (hw : w.Tracked) (hgrows : w.Grows t) {request : CreditRequest}
    (htracked : t.RequestTracked request) :
    ∀ other otherRequest, Function.update w.requests id (some request) other = some otherRequest →
      t.RequestTracked otherRequest := by
  intro other otherRequest hother
  rcases PartialMap.update_some_cases hother with ⟨-, rfl⟩ | ⟨-, hold⟩
  · exact htracked
  · exact RequestTracked.mono hgrows (hw.requests other otherRequest hold)

theorem Tracked.stepped (hw : w.Tracked) (h : Stepped w a t) : t.Tracked := by
  have hgrows := h.grows
  have hsnaps : ∀ snapshot ∈ w.snapshots, t.SnapshotFaithful snapshot :=
    fun snapshot hmem => SnapshotFaithful.mono hgrows (hw.snapshots snapshot hmem)
  cases h with
  | moved htracked =>
    exact ⟨requests_setRequest hw hgrows (RequestTracked.mono hgrows htracked), hw.decisionIds, hw.draftIds,
      hsnaps, hw.frozen⟩
  | @decided id snapshotId _ _ _ request binding decision terms ha hreq hstage hfree hkeys =>
    refine ⟨requests_setRequest hw hgrows (by rintro _ _ _ ⟨⟩), ?_, hw.draftIds, ?_, ?_⟩
    · refine List.nodup_cons.2 ⟨?_, hw.decisionIds⟩
      rintro hmem
      obtain ⟨row, hrow, hid⟩ := List.mem_map.1 hmem
      exact hkeys.1 row hrow hid
    · intro snapshot hmem
      rcases List.mem_append.1 hmem with hnew | hold
      · obtain ⟨frozen, hfrozen, rfl⟩ := Option.map_eq_some_iff.1 (Option.mem_toList.1 hnew)
        exact ⟨_, List.mem_cons_self, rfl, frozen, hfrozen, rfl, rfl⟩
      · exact hsnaps snapshot hold
    · intro row hmem frozen hfrozen
      rcases List.mem_cons.1 hmem with rfl | hold
      · refine ⟨buildTermSnapshot snapshotId decision frozen, List.mem_append_left _ ?_, rfl⟩
        exact Option.mem_toList.2 (Option.map_eq_some_iff.2 ⟨frozen, hfrozen, rfl⟩)
      · obtain ⟨snapshot, hsnap, hid⟩ := hw.frozen row hold frozen hfrozen
        exact ⟨snapshot, List.mem_append_right _ hsnap, hid⟩
  | drafted _ _ _ hkey =>
    refine ⟨requests_setRequest hw hgrows trivial, hw.decisionIds, ?_, hsnaps, hw.frozen⟩
    refine List.nodup_cons.2 ⟨?_, hw.draftIds⟩
    intro hmem
    obtain ⟨row, hrow, hid⟩ := List.mem_map.1 hmem
    exact hkey row hrow hid
  | approved | delivered =>
    exact ⟨requests_setRequest hw hgrows trivial, hw.decisionIds, hw.draftIds, hsnaps, hw.frozen⟩
  | persisted | wroteTables =>
    exact ⟨fun id request hreq => RequestTracked.mono hgrows (hw.requests id request hreq),
      hw.decisionIds, hw.draftIds, hsnaps, hw.frozen⟩

/-- The request has found its gate and inserts next. -/
def isDelivering : CreditRequest → Bool
  | .delivery request =>
    match request.stage with
    | .delivering _ _ => true
    | .loading | .readingVersion _ | .readingGates _ _ | .answered _ | .refused _ | .raised => false
  | .decision _ | .draft _ | .approval _ => false

/-- **A first delivery goes through.** Once it has found its gate, it records a receipt by its actor. -/
theorem Tracked.delivers (hw : w.Tracked) (hdelivering : (w.requests id).any isDelivering = true)
    (hfirst : w.receipts = []) :
    ∃ t, CreditWorld.step w (.advance id seen decisionId snapshotId now) = some t ∧
      t.receipts.length = 1 := by
  obtain ⟨request, hreq, hstage⟩ := (Option.any_eq_true _ _).1 hdelivering
  cases request with
  | decision | draft | approval => cases hstage
  | delivery request =>
    have htracked : w.DeliveryTracked request.actorId request.stage := hw.requests id _ hreq
    cases hdelivery : request.stage with
    | delivering draft =>
      rw [hdelivery] at htracked
      have hhash : (request.receipt draft).contentHash = draft.contentHash := rfl
      have hfree : w.receiptFor draft.id = none := by
        rw [receiptFor, hfirst]
        rfl
      have hkey : ∀ other ∈ w.receipts, other.receipt.id ≠ request.newId := by
        rw [hfirst]
        intro other hother
        cases hother
      refine ⟨(w.insertReceipt (request.receipt draft)).setRequest id
        (.delivery { request with stage := .answered (request.receipt draft) }), ?_, ?_⟩
      · have hadv : w.advanceDelivery id request = some ((w.insertReceipt (request.receipt draft)).setRequest
            id (.delivery { request with stage := .answered (request.receipt draft) })) := by
          unfold advanceDelivery
          rw [hdelivery]
          dsimp only
          rw [hw.find_draft htracked.1]
          dsimp only
          rw [if_pos hhash, hfree]
          dsimp only
          rw [if_pos hkey]
        exact Option.bind_eq_some_iff.2 ⟨_, hreq, hadv⟩
      · show (⟨request.receipt draft, w.tables⟩ :: w.receipts).length = 1
        rw [hfirst]
        rfl
    | loading | readingVersion | readingGates | answered | refused | raised =>
      simp only [isDelivering, hdelivery, Bool.false_eq_true] at hstage

theorem Tracked.step (hw : w.Tracked) (h : step w a = some t) : t.Tracked :=
  hw.stepped (step_cases hw h)

end CreditWorld

end CreditOps.Notifications
