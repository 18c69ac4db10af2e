import CreditOps.Notifications.Binding

/-!
# What a notification receipt vouches for

The decision, its frozen terms, the draft, the gate and the receipt are written by four requests, each
after reads of its own. However they interleave, and whatever bumps come between, a stored receipt is for a
draft that is the rendering of an approval of its case version and of the terms the approval was recorded
with, its gate was satisfied before the receipt, and the one who delivered is not the one who drafted. There
is one decision and one draft a case version and one receipt a draft (`notifications_faithful`).
-/

set_option autoImplicit false

namespace CreditOps.Notifications

open Transition Orchestration CreditDecisions
open ContractPackages (CreditDecisionType approvalDecisions)

namespace CreditWorld

/-! ## The promise -/

/-- What a receipt vouches for, with the draft it is for and the decision that the draft is of. -/
structure VouchesFor (w : CreditWorld) (row : CommittedReceipt) (draft : CreditNotificationDraft)
    (committed : CommittedDecision) : Prop where
  draftId : draft.id = row.receipt.draftId
  decisionId : committed.decision.id = draft.decisionId
  caseVersion : committed.decision.caseVersion = draft.caseVersion
  approval : committed.decision.decision ∈ approvalDecisions
  content : renderNotificationContentVi committed.decision committed.recordedTerms = some draft.contentVi
  reloads : w.loadTermsOn committed.decision.id = some committed.recordedTerms
  rehashes : ∀ snapshot ∈ w.snapshots, snapshot.decisionId = committed.decision.id →
    (loadTerms snapshot.terms).map computeTermsHash = some snapshot.snapshotHash
  draftHash : draft.contentHash = sha256Hex draft.contentVi
  receiptHash : row.receipt.contentHash = sha256Hex draft.contentVi
  gate : row.tablesThen.GateSatisfied draft.caseVersion .hgCreditNotificationApproved
  actor : row.receipt.recordedBy ≠ draft.createdBy

/-- Every receipt vouches for a stored draft of a stored decision; decisions and drafts are one a case
version, and receipts one a draft. -/
structure ReceiptsFaithful (w : CreditWorld) : Prop where
  receipts : ∀ row ∈ w.receipts, ∃ draft ∈ w.drafts, ∃ committed ∈ w.decisions,
    w.VouchesFor row draft committed
  oneDecision : (w.decisions.map (·.decision.caseVersion)).Nodup
  oneDraft : (w.drafts.map (·.caseVersion)).Nodup
  oneReceipt : (w.receipts.map (·.receipt.draftId)).Nodup

/-! ## The links -/

variable {w t : CreditWorld} {a : CreditAction} {id : Uuid}

/-- A receipt is for a stored draft by another actor, and its gate was satisfied. -/
def ReceiptLinked (w : CreditWorld) (row : CommittedReceipt) : Prop :=
  ∃ draft ∈ w.drafts, draft.id = row.receipt.draftId ∧ row.receipt.contentHash = draft.contentHash ∧
    row.tablesThen.GateSatisfied draft.caseVersion .hgCreditNotificationApproved ∧
    row.receipt.recordedBy ≠ draft.createdBy

/-- The links between the rows. -/
structure Linked (w : CreditWorld) : Prop where
  tracked : w.Tracked
  drafts : ∀ draft ∈ w.drafts, w.DraftFaithful draft
  receipts : ∀ row ∈ w.receipts, w.ReceiptLinked row
  oneDecision : (w.decisions.map (·.decision.caseVersion)).Nodup
  oneDraft : (w.drafts.map (·.caseVersion)).Nodup
  oneReceipt : (w.receipts.map (·.receipt.draftId)).Nodup

theorem Initial.linked (h : w.Initial) : w.Linked where
  tracked := h.tracked
  drafts draft hmem := by
    rw [h.noDraft] at hmem
    cases hmem
  receipts row hmem := by
    rw [h.noReceipt] at hmem
    cases hmem
  oneDecision := by
    rw [h.noDecision]
    exact List.nodup_nil
  oneDraft := by
    rw [h.noDraft]
    exact List.nodup_nil
  oneReceipt := by
    rw [h.noReceipt]
    exact List.nodup_nil

theorem ReceiptLinked.mono (h : w.Grows t) {row : CommittedReceipt} (hrow : w.ReceiptLinked row) :
    t.ReceiptLinked row := by
  obtain ⟨draft, hdraft, hlinked⟩ := hrow
  exact ⟨draft, h.drafts draft hdraft, hlinked⟩

theorem not_mem_map_of_find?_eq_none {α κ : Type} [DecidableEq κ] {key : α → κ} {rows : List α} {k : κ}
    (h : rows.find? (key · = k) = none) : k ∉ rows.map key := by
  intro hmem
  obtain ⟨row, hrow, hkey⟩ := List.mem_map.1 hmem
  exact absurd (decide_eq_true hkey) (List.find?_eq_none.1 h row hrow)

/-- **One step** keeps the links. -/
theorem Linked.step (hw : w.Linked) (h : step w a = some t) : t.Linked := by
  have hstepped := step_cases hw.tracked h
  have hgrows := hstepped.grows
  have htracked := hw.tracked.step h
  have hdrafts : ∀ draft ∈ w.drafts, t.DraftFaithful draft :=
    fun draft hmem => DraftFaithful.mono hgrows (hw.drafts draft hmem)
  have hrcpts : ∀ row ∈ w.receipts, t.ReceiptLinked row :=
    fun row hmem => ReceiptLinked.mono hgrows (hw.receipts row hmem)
  cases hstepped with
  | moved | approved | persisted | wroteTables =>
    exact ⟨htracked, hdrafts, hrcpts, hw.oneDecision, hw.oneDraft, hw.oneReceipt⟩
  | decided _ _ _ hfree =>
    refine ⟨htracked, hdrafts, hrcpts, ?_, hw.oneDraft, hw.oneReceipt⟩
    exact List.nodup_cons.2 ⟨not_mem_map_of_find?_eq_none hfree, hw.oneDecision⟩
  | drafted hreq hstage hfree =>
    refine ⟨htracked, ?_, hrcpts, hw.oneDecision, ?_, hw.oneReceipt⟩
    · intro draft hmem
      rcases List.mem_cons.1 hmem with rfl | hold
      · have hknown : w.DraftTracked _ := hw.tracked.requests _ _ hreq
        rw [hstage] at hknown
        exact DraftFaithful.mono hgrows hknown
      · exact hdrafts draft hold
    · exact List.nodup_cons.2 ⟨not_mem_map_of_find?_eq_none hfree, hw.oneDraft⟩
  | @delivered _ _ _ _ _ request draft _ ha hreq hstage hfree hkey =>
    refine ⟨htracked, hdrafts, ?_, hw.oneDecision, hw.oneDraft, ?_⟩
    · intro row hmem
      rcases List.mem_cons.1 hmem with rfl | hold
      · have hknown : w.DeliveryTracked request.actorId request.stage := hw.tracked.requests _ _ hreq
        rw [hstage] at hknown
        obtain ⟨hdraft, hactor, rfl, hgate⟩ := hknown
        exact ⟨draft, hdraft, rfl, rfl, hgate, hactor.symm⟩
      · exact hrcpts row hold
    · exact List.nodup_cons.2 ⟨not_mem_map_of_find?_eq_none hfree, hw.oneReceipt⟩

theorem Tracked.rehashes (hw : w.Tracked) {snapshot : ApprovedTermSnapshot}
    (hmem : snapshot ∈ w.snapshots) :
    (loadTerms snapshot.terms).map computeTermsHash = some snapshot.snapshotHash := by
  obtain ⟨_, -, -, _, -, hstored, hhash⟩ := hw.snapshots snapshot hmem
  rw [hstored, loadTerms_stored, hhash]
  rfl

/-- **The links make the promise.** -/
theorem Linked.receiptsFaithful (hw : w.Linked) : w.ReceiptsFaithful where
  receipts row hmem := by
    obtain ⟨draft, hdraft, hid, hhash, hgate, hactor⟩ := hw.receipts row hmem
    obtain ⟨committed, hcommitted, hdec, hver, hrender⟩ := hw.drafts draft hdraft
    refine ⟨draft, hdraft, committed, hcommitted, ?_⟩
    exact
      { draftId := hid
        decisionId := hdec
        caseVersion := hver
        approval := approval_of_render hrender
        content := hrender
        reloads := hw.tracked.loadTermsOn_eq hcommitted
        rehashes := fun snapshot hsnap _ => hw.tracked.rehashes hsnap
        draftHash := draft.contentHash_eq
        receiptHash := hhash.trans draft.contentHash_eq
        gate := hgate
        actor := hactor }
  oneDecision := hw.oneDecision
  oneDraft := hw.oneDraft
  oneReceipt := hw.oneReceipt

/-- **Every receipt vouches for what it should**, after any interleaving from a case without
decisions. -/
theorem notifications_faithful {as : List CreditAction} (hinit : w.Initial)
    (hrun : run step w as = some t) : t.ReceiptsFaithful :=
  (run_invariant (fun hw h => Linked.step hw h) hinit.linked hrun).receiptsFaithful

theorem notifications_faithful_upToDate :
    ∃ t, run step opened (upToDate ++ [.advance 4 none 0 0 0]) = some t ∧ t.receipts.length = 1 ∧
      t.ReceiptsFaithful := by
  obtain ⟨-, t, -, -, hrun, hrcpt⟩ := upToDate_delivers
  exact ⟨t, hrun, hrcpt, notifications_faithful initial_opened hrun⟩

end CreditWorld

end CreditOps.Notifications
