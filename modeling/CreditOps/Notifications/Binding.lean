import CreditOps.Notifications.Moves

/-!
# What credit acts bind at their commit

A decision is checked against the case version and the artifacts that were read before it, and a delivery
against the gates of the case version that was read before it; neither insert looks again. So the promise
that a committed decision is of the current case version and names the latest artifacts of it, and that a
committed receipt is for a draft of the current case version (`BindsCurrent`), fails when a bump or a new
artifact comes between the read and the insert (`binding_overtaken`).

It holds all along a run exactly when every insert finds what its request has read (`bindsCurrent_iff`).
-/

set_option autoImplicit false

namespace CreditOps.Notifications

open Transition Orchestration CreditDecisions
open ContractPackages (CreditDecisionType approvalDecisions)

/-- At its commit the decision was of the current case version, and every artifact it names was the
latest of that version. -/
def CommittedDecision.Current (row : CommittedDecision) : Prop :=
  row.decision.caseVersion = row.versionThen ∧
    ∀ kind, ∀ id ∈ row.decision.artifactIds.get kind,
      IsLatest (row.artifactsThen.get kind) row.decision.caseVersion id

namespace CreditWorld

/-- At its commit the receipt was for a draft of the current case version. -/
def ReceiptCurrent (w : CreditWorld) (row : CommittedReceipt) : Prop :=
  ∃ draft ∈ w.drafts, draft.id = row.receipt.draftId ∧ draft.caseVersion = row.tablesThen.caseVersion

/-- Every decision and every receipt was current at its commit. -/
structure BindsCurrent (w : CreditWorld) : Prop where
  decisions : ∀ row ∈ w.decisions, row.Current
  receipts : ∀ row ∈ w.receipts, w.ReceiptCurrent row

variable {w t : CreditWorld} {a : CreditAction} {id decisionId snapshotId : Uuid} {seen : Option Uuid}
  {now : Timestamp}

theorem Initial.bindsCurrent (h : w.Initial) : w.BindsCurrent where
  decisions row hmem := by
    rw [h.noDecision] at hmem
    cases hmem
  receipts row hmem := by
    rw [h.noReceipt] at hmem
    cases hmem

theorem ReceiptCurrent.mono (h : w.Grows t) {row : CommittedReceipt} (hrow : w.ReceiptCurrent row) :
    t.ReceiptCurrent row := by
  obtain ⟨draft, hdraft, hrcpt⟩ := hrow
  exact ⟨draft, h.drafts draft hdraft, hrcpt⟩

theorem BindsCurrent.keep (hP : w.BindsCurrent) (hgrows : w.Grows t)
    (hdecs : t.decisions = w.decisions) (hrcpts : t.receipts = w.receipts) :
    t.BindsCurrent where
  decisions row hmem := hP.decisions row (hdecs ▸ hmem)
  receipts row hmem := ReceiptCurrent.mono hgrows (hP.receipts row (hrcpts ▸ hmem))

variable {binding : DecisionBinding} {decision : HumanCreditDecision} {terms : Option ApprovedTerms}

/-- **A decision is current at its commit** exactly when what it binds is still there. -/
theorem current_iff_stillCurrent (hbinds : Binds binding decision) :
    (CommittedDecision.mk decision terms w.tables.caseVersion w.artifacts).Current ↔
      w.StillCurrent binding decision := by
  obtain ⟨hver, hids⟩ := hbinds
  constructor
  · rintro ⟨hcur, hlatest⟩
    refine ⟨hcur.symm.trans hver, ?_⟩
    intro kind _ hnamed
    obtain ⟨artifactId, hid⟩ := Option.ne_none_iff_exists'.1 hnamed
    rw [hids kind artifactId hid, ← hver]
    exact hlatest kind artifactId hid
  · rintro ⟨hcur, hlatest⟩
    refine ⟨hver.trans hcur.symm, ?_⟩
    intro kind artifactId hid
    have hall : kind ∈ [ArtifactKind.memo, .riskAssessment, .underwritingAssessment] := by
      cases kind <;> decide
    have hnamed : decision.artifactIds.get kind ≠ none := by
      rw [Option.mem_def.1 hid]
      exact Option.some_ne_none _
    have hread := hlatest kind hall hnamed
    rw [hids kind artifactId hid, ← hver] at hread
    exact hread

theorem findsWhatItRead_advance_iff {request : CreditRequest} (hreq : w.requests id = some request) :
    w.FindsWhatItRead (.advance id seen decisionId snapshotId now) ↔ w.RequestFinds snapshotId request := by
  constructor
  · intro hfinds
    exact hfinds request hreq
  · exact findsWhatItRead_advance hreq

variable {moved : CreditRequest}

/-- **A committed decision** keeps the promise when it finds what it has read. -/
theorem bindsCurrent_decided_iff (hw : w.Tracked) (hP : w.BindsCurrent) {request : DecisionRequest}
    (hreq : w.requests id = some (.decision request))
    (hstage : request.stage = .recording binding decision terms)
    (hfree : w.decisionOf decision.caseVersion = none) (hkeys : w.DecisionKeysFree decision snapshotId) :
    ((w.insertDecision decision terms snapshotId).setRequest id moved).BindsCurrent ↔
      w.FindsWhatItRead (.advance id seen decisionId snapshotId now) := by
  have hbinds : Binds binding decision := hw.requests id _ hreq binding decision terms hstage
  have hrow : (CommittedDecision.mk decision terms w.tables.caseVersion w.artifacts).Current ↔
      w.StillCurrent binding decision := current_iff_stillCurrent hbinds
  rw [findsWhatItRead_advance_iff hreq, RequestFinds, hstage]
  constructor
  · intro ht _ _
    exact hrow.1 (ht.decisions _ List.mem_cons_self)
  · intro hfinds
    refine ⟨?_, hP.receipts⟩
    intro row hmem
    rcases List.mem_cons.1 hmem with rfl | hold
    · exact hrow.2 (hfinds hfree hkeys)
    · exact hP.decisions row hold

/-- **A committed receipt** keeps the promise when it finds the case version it has read. -/
theorem bindsCurrent_delivered_iff (hw : w.Tracked) (hP : w.BindsCurrent) {request : DeliveryRequest}
    {draft : CreditNotificationDraft} {version : CaseVersion}
    (hreq : w.requests id = some (.delivery request))
    (hstage : request.stage = .delivering draft version) (hfree : w.receiptFor draft.id = none)
    (hkey : ∀ other ∈ w.receipts, other.receipt.id ≠ request.newId) :
    ((w.insertReceipt (request.receipt draft)).setRequest id moved).BindsCurrent ↔
      w.FindsWhatItRead (.advance id seen decisionId snapshotId now) := by
  have htracked : w.DeliveryTracked request.actorId request.stage := hw.requests id _ hreq
  rw [hstage] at htracked
  obtain ⟨hdraft, -, hver, -⟩ := htracked
  rw [findsWhatItRead_advance_iff hreq, RequestFinds, hstage]
  constructor
  · intro ht _ _
    obtain ⟨other, hother, hid, hcur⟩ := ht.receipts _ List.mem_cons_self
    obtain rfl : other = draft := List.inj_on_of_nodup_map hw.draftIds hother hdraft hid
    exact hcur.symm.trans hver
  · intro hfinds
    refine ⟨hP.decisions, ?_⟩
    intro row hmem
    rcases List.mem_cons.1 hmem with rfl | hold
    · exact ⟨draft, hdraft, rfl, hver.trans (hfinds hfree hkey).symm⟩
    · exact hP.receipts row hold

/-- **One step.** It keeps the promise exactly when an insert finds what its request has read. -/
theorem bindsCurrent_step_iff (hw : w.Tracked) (hP : w.BindsCurrent) (h : step w a = some t) :
    t.BindsCurrent ↔ w.FindsWhatItRead a := by
  have hstepped := step_cases hw h
  have hgrows := hstepped.grows
  cases hstepped with
  | moved _ hfinds | drafted _ _ _ _ hfinds | approved _ _ hfinds | persisted hfinds | wroteTables _ hfinds =>
    exact iff_of_true (hP.keep hgrows rfl rfl) hfinds
  | decided ha hreq hstage hfree hkeys =>
    subst ha
    exact bindsCurrent_decided_iff hw hP hreq hstage hfree hkeys
  | delivered ha hreq hstage hfree hkey =>
    subst ha
    exact bindsCurrent_delivered_iff hw hP hreq hstage hfree hkey

/-- **When credit acts bind the current state.** All along a run from a case without decisions, every
committed decision and receipt was current at its commit, exactly when every insert of the run finds what
its request has read. -/
theorem bindsCurrent_iff {as : List CreditAction} (hinit : w.Initial) (hrun : run step w as = some t) :
    AllAlong step BindsCurrent w as ↔ RunMeets step FindsWhatItRead w as := by
  have hkeeps : ∀ {w a t}, Tracked w → BindsCurrent w → step w a = some t → BindsCurrent t →
      Tracked t := by
    intro w a t hw _ hstep _
    exact hw.step hstep
  have hiff : ∀ {w a t}, Tracked w → BindsCurrent w → step w a = some t →
      (BindsCurrent t ↔ FindsWhatItRead w a) := by
    intro w a t hw hP hstep
    exact bindsCurrent_step_iff hw hP hstep
  exact allAlong_iff_runMeets hkeeps hiff hinit.tracked hinit.bindsCurrent hrun

/-! ## Runs -/

/-- A case at its first version with one memo. -/
def opened : CreditWorld where
  tables := ⟨1, 1, [], [], [], [], [], [], []⟩
  artifacts := ⟨[⟨21, 1, 5, 10⟩], [], []⟩
  decisions := []
  snapshots := []
  drafts := []
  receipts := []
  requests _ := none

theorem initial_opened : opened.Initial where
  noDecision := rfl
  noSnapshot := rfl
  noDraft := rfl
  noReceipt := rfl
  noRequest _ := rfl

/-- An approval of a case version that names a memo and freezes its terms. -/
def approving (version : CaseVersion) (memo : Uuid) : RecordDecisionRequest where
  decision := "APPROVED_AS_PROPOSED"
  rationaleVi := "Đủ điều kiện"
  caseVersion := version
  artifactIds := ⟨some memo, none, none⟩
  conditions := []
  terms := some ⟨some ⟨false, 500000, 3⟩, some "VND", some "12 tháng", some ⟨false, 850, -2⟩⟩

/-- A decision request up to its insert. -/
def deciding (requestId : Uuid) (version : CaseVersion) (memo : Uuid) : List CreditAction :=
  [.openDecision requestId 7 (approving version memo), .advance requestId none 31 41 0,
    .advance requestId (some memo) 31 41 0, .advance requestId none 31 41 0,
    .advance requestId none 31 41 0]

/-- Draft, approve and deliver by three requests, up to the last insert. -/
def notifying : List CreditAction :=
  [.openDraft 2 51 8, .advance 2 none 0 0 0, .advance 2 none 0 0 0, .advance 2 none 0 0 0,
    .advance 2 none 0 0 0, .openApproval 3 8 51, .advance 3 none 0 0 60, .advance 3 none 0 0 61,
    .openDelivery 4 61 9 none, .advance 4 none 0 0 0, .advance 4 none 0 0 0, .advance 4 none 0 0 0]

/-- A second memo and a bump come between the reads and the insert of a decision. -/
def overtaken : List CreditAction :=
  deciding 1 1 21 ++ [.persistArtifact .memo ⟨22, 1, 6, 20⟩,
    .bumpCaseVersion ⟨1, 40, 8, "Bổ sung hồ sơ"⟩ 42, .advance 1 none 31 41 0]

/-- The binding is overtaken: the decision is of the first case version and names the first memo, when the
case is at the second version and the first version has a later memo. -/
theorem binding_overtaken : opened.Initial ∧ ∃ w, run step opened overtaken = some w ∧
    (∃ row ∈ w.decisions, row.decision.caseVersion = 1 ∧ row.versionThen = 2 ∧
      row.decision.artifactIds.memo = some 21 ∧ ¬ IsLatest row.artifactsThen.memos 1 21) ∧
    ¬ w.BindsCurrent := by
  have hruns : (run step opened overtaken).any (fun w =>
      ∃ row ∈ w.decisions, row.decision.caseVersion = 1 ∧ row.versionThen = 2 ∧
        row.decision.artifactIds.memo = some 21 ∧ ¬ IsLatest row.artifactsThen.memos 1 21) = true := by
    decide +kernel
  obtain ⟨w, hrun, hw⟩ := (Option.any_eq_true _ _).1 hruns
  obtain ⟨row, hmem, hver, hthen, hmemo, hlatest⟩ := of_decide_eq_true hw
  refine ⟨initial_opened, w, hrun, ⟨row, hmem, hver, hthen, hmemo, hlatest⟩, ?_⟩
  intro hbinds
  have hcur := (hbinds.decisions row hmem).1
  rw [hver, hthen] at hcur
  cases hcur

/-- The decision is inserted before the later memo, and its notification is drafted, approved and about to
be delivered while the case is at its version. -/
def upToDate : List CreditAction :=
  deciding 1 1 21 ++ [.advance 1 none 31 41 0, .persistArtifact .memo ⟨22, 1, 6, 20⟩] ++ notifying

theorem upToDate_delivers : ∃ w t, run step opened upToDate = some w ∧
    w.FindsWhatItRead (.advance 4 none 0 0 0) ∧
    run step opened (upToDate ++ [.advance 4 none 0 0 0]) = some t ∧ t.receipts.length = 1 := by
  have hruns : (run step opened upToDate).any (fun w => (w.requests 4).any isDelivering ∧
      w.receipts.length = 0 ∧ w.FindsWhatItRead (.advance 4 none 0 0 0)) = true := by
    decide +kernel
  obtain ⟨w, hrun, hw⟩ := (Option.any_eq_true _ _).1 hruns
  obtain ⟨hdelivering, hfirst, hfinds⟩ := of_decide_eq_true hw
  have htracked : w.Tracked := run_invariant (fun hw h => hw.step h) initial_opened.tracked hrun
  obtain ⟨t, hstep, hrcpt⟩ : ∃ t, step w (.advance 4 none 0 0 0) = some t ∧ t.receipts.length = 1 :=
    htracked.delivers hdelivering (List.eq_nil_of_length_eq_zero hfirst)
  exact ⟨w, t, hrun, hfinds, run_append_eq_some.2 ⟨w, hrun, run_singleton.trans hstep⟩, hrcpt⟩

theorem bindsCurrent_upToDate :
    AllAlong step BindsCurrent opened (upToDate ++ [.advance 4 none 0 0 0]) := by
  obtain ⟨w, t, hrun, hfinds, hall, -⟩ := upToDate_delivers
  have hmeets : RunMeets step FindsWhatItRead opened upToDate := by decide +kernel
  refine (bindsCurrent_iff initial_opened hall).2 (runMeets_append hmeets ?_)
  intro other hother
  obtain rfl : w = other := Option.some.inj (hrun.symm.trans hother)
  exact ⟨hfinds, fun _ _ => trivial⟩

end CreditWorld

end CreditOps.Notifications
