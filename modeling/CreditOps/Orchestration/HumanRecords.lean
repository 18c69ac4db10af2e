import CreditOps.GapRequests.Assembly
import CreditOps.RiskReview.Settlement
import CreditOps.CreditOperations.Authorization
import CreditOps.Conditions.Confirmation
import CreditOps.SecurityInterests.Confirmation

/-!
# Human records behind the derived gates

Each derived human gate is a check of all the items of a collection that a worker or an officer has drafted,
and such a check holds of an empty collection. None of the five derivations accepts without a human act all
the same, whatever the requests of its workflow have done (`gates_backed`): the derivations of the risk gate,
of the conditions and of the perfection treat the empty collection as a case of its own, the batch gate asks
for a disposition of the batch itself, and the operations gate is only derived from packages that propose an
action.

The act need not be one that meets the requirement: a perfection all of whose items a human has ruled out is
confirmable with nothing completed (`confirmable_without_completion`).
-/

set_option autoImplicit false

namespace CreditOps.Orchestration

open Transition

/-- **No derivation of a human gate accepts without a human record.** In every state of every run of its
workflow, the record behind an accepting derivation is a disposition of the batch, a disposition of a severe
challenge or of the assessment, an authorization of a proposed action, a ruling on a condition, or a
transition of a perfection item, for the case version the gate is about; the risk gate that the
credit-operations worker reports goes back to a disposition it has read. -/
theorem gates_backed :
    (∀ (s t : GapRequests.Assembly.Desk) (as : List GapRequests.Assembly.Request),
      GapRequests.Assembly.Initial s → run GapRequests.Assembly.step s as = some t →
        GapRequests.Assembly.BatchGateBacked t) ∧
    (∀ (s t : RiskReview.System) (as : List RiskReview.Request),
      RiskReview.Initial s → run RiskReview.step s as = some t → RiskReview.RiskGateBacked t.store) ∧
    (∀ (view : CreditOperations.CreditOpsUpstreamView)
      (dispositions : List CreditOperations.ChallengeDispositionSummary),
      CreditOperations.reportedG3Status view dispositions = .satisfied →
        ∃ disposition ∈ dispositions, continues (some disposition.dispositionType) = true) ∧
    (∀ (s t : CreditOperations.System) (as : List CreditOperations.Request),
      CreditOperations.Initial s → run CreditOperations.step s as = some t →
        CreditOperations.OperationsGateBacked t) ∧
    (∀ (s t : Conditions.System) (as : List Conditions.Request),
      Conditions.Initial s → run Conditions.step s as = some t → Conditions.ConfirmationBacked t) ∧
    (∀ (s t : SecurityInterests.System) (as : List SecurityInterests.Request),
      SecurityInterests.Initial s → run SecurityInterests.step s as = some t →
        SecurityInterests.PerfectionBacked t) := by
  refine ⟨?_, ?_, ?_, ?_, ?_, ?_⟩
  · intro s t as hinit hrun
    exact GapRequests.Assembly.batchGate_backed hinit hrun
  · intro s t as _ _
    exact RiskReview.riskGate_backed t.store
  · intro view dispositions hsat
    exact CreditOperations.reportedG3Status_backed hsat
  · intro s t as hinit hrun
    exact (run_invariant CreditOperations.Inv.step hinit.inv hrun).backed
  · intro s t as hinit hrun
    exact Conditions.confirmation_backed hinit hrun
  · intro s t as hinit hrun
    exact SecurityInterests.perfection_backed hinit hrun

/-! ## Accepting derivations -/

section Histories

/-- The officer approves the batch of the open gap. -/
def batchApproved : List GapRequests.Assembly.Request :=
  GapRequests.Assembly.emptyThenGap ++
    GapRequests.Assembly.disposing GapRequests.Assembly.approvalOf300 9

/-- A case before its first credit-operations package. -/
def unpackagedCase : CreditOperations.System where
  tasks _ := none
  checkpoints _ := none
  store := { packages := [], authorizations := [] }
  tables := ⟨10, 1, [], [], [], [], [], [], []⟩
  runs _ := none
  audit := []

theorem unpackagedCase_initial : CreditOperations.Initial unpackagedCase where
  noCheckpoint _ := rfl
  noPackage := rfl
  noAuthorization := rfl
  noRun _ := rfl
  gateOpen v := by
    rintro ⟨_, hmem, -⟩
    cases hmem

/-- What the worker reads once the checker has raised nothing. -/
def completeView : CreditOperations.CreditOpsUpstreamView where
  caseVersion := 1
  hasIntakeHandoff := true
  intakeHandoffId := some 20
  underwriting := some 301
  legal := some 302
  riskReview := some ⟨303, 1, 203, [], 1⟩

/-- An officer authorizes one action. -/
def authorizing (authorizationId actionId : Uuid) : List CreditOperations.Request :=
  [.openAuthorization authorizationId actionId ⟨40, ["OPS_OFFICER"]⟩ "đã rà soát",
    .recordAuthorization authorizationId 6, .auditAuthorization authorizationId,
    .readAuthorizations authorizationId]

/-- The worker drafts a complete package without document requests, and its two actions are authorized. -/
def actionsAuthorized : List CreditOperations.Request :=
  [.schedule 204 1, .draft 204 304 completeView [] [] (400 + ·), .persist 204 5] ++
    authorizing 501 400 ++ authorizing 502 401 ++ [.satisfyG4 502 7]

theorem batchApproved_accepts : ∃ t batch,
    run GapRequests.Assembly.step GapRequests.Assembly.sampleDesk batchApproved = some t ∧
      GapRequests.Assembly.loadCurrentBatch t.rows t.tables.caseVersion = some batch ∧
      GapRequests.deriveG2FromBatch batch (t.latestDisposition batch) t.tables.caseVersion
        (GapRequests.currentOpenGapHash t.tables) = .satisfied := by
  have hruns : (run GapRequests.Assembly.step GapRequests.Assembly.sampleDesk batchApproved).any
      (fun t => (GapRequests.Assembly.loadCurrentBatch t.rows t.tables.caseVersion).any fun batch =>
        GapRequests.deriveG2FromBatch batch (t.latestDisposition batch) t.tables.caseVersion
          (GapRequests.currentOpenGapHash t.tables) = .satisfied) = true := by
    decide +kernel
  obtain ⟨t, hrun, hcur⟩ := (Option.any_eq_true _ _).1 hruns
  obtain ⟨batch, hbatch, hstat⟩ := (Option.any_eq_true _ _).1 hcur
  exact ⟨t, batch, hrun, hbatch, of_decide_eq_true hstat⟩

theorem escalatedThenNoted_accepts : ∃ t record,
    run RiskReview.step RiskReview.sampleCase RiskReview.escalatedThenNoted = some t ∧
      t.store.g3Status record = .satisfied := by
  have hruns : (run RiskReview.step RiskReview.sampleCase RiskReview.escalatedThenNoted).any
      (fun t => t.store.loadLatestAssessment.any fun record =>
        t.store.g3Status record = .satisfied) = true := by
    decide +kernel
  obtain ⟨t, hrun, hlatest⟩ := (Option.any_eq_true _ _).1 hruns
  obtain ⟨record, -, hstat⟩ := (Option.any_eq_true _ _).1 hlatest
  exact ⟨t, record, hrun, of_decide_eq_true hstat⟩

theorem actionsAuthorized_accepts : ∃ t package,
    run CreditOperations.step unpackagedCase actionsAuthorized = some t ∧
      t.store.loadLatestPackage = some package ∧ t.store.g4Status package = .satisfied := by
  have hruns : (run CreditOperations.step unpackagedCase actionsAuthorized).any
      (fun t => t.store.loadLatestPackage.any fun package =>
        t.store.g4Status package = .satisfied) = true := by
    decide +kernel
  obtain ⟨t, hrun, hlatest⟩ := (Option.any_eq_true _ _).1 hruns
  obtain ⟨package, hpkg, hstat⟩ := (Option.any_eq_true _ _).1 hlatest
  exact ⟨t, package, hrun, hpkg, of_decide_eq_true hstat⟩

theorem waived_confirmable : ∃ t, run Conditions.step Conditions.approvedCase Conditions.waived = some t ∧
    Conditions.deriveConditionsConfirmable t.ledger.statuses = true := by
  have hruns : (run Conditions.step Conditions.approvedCase Conditions.waived).any (fun t =>
      Conditions.deriveConditionsConfirmable t.ledger.statuses) = true := by
    decide +kernel
  exact (Option.any_eq_true _ _).1 hruns

theorem completedInTurn_confirmable : ∃ t,
    run SecurityInterests.step SecurityInterests.openedCase SecurityInterests.completedInTurn = some t ∧
      SecurityInterests.derivePerfectionConfirmable t.ledger = true := by
  have hruns : (run SecurityInterests.step SecurityInterests.openedCase
      SecurityInterests.completedInTurn).any (fun t =>
        SecurityInterests.derivePerfectionConfirmable t.ledger) = true := by
    decide +kernel
  exact (Option.any_eq_true _ _).1 hruns

/-- Each derivation accepts at the end of some run, with the record behind it. -/
theorem accepting_runs_backed :
    (∃ t, run GapRequests.Assembly.step GapRequests.Assembly.sampleDesk batchApproved = some t ∧
      ∃ recorded ∈ t.dispositions, recorded.dispositionType ∈ GapRequests.satisfyingDispositions) ∧
    (∃ t, run RiskReview.step RiskReview.sampleCase RiskReview.escalatedThenNoted = some t ∧
      ∃ row ∈ t.store.dispositions, continues (some row.dispositionType) = true) ∧
    (∃ t, run CreditOperations.step unpackagedCase actionsAuthorized = some t ∧
      ∃ authorization ∈ t.store.authorizations,
        authorization.actorRole = Disbursements.opsOfficerRole) ∧
    (∃ t, run Conditions.step Conditions.approvedCase Conditions.waived = some t ∧
      ∃ condition ∈ t.ledger.listing, condition.status ∈ Conditions.confirmableStatuses) ∧
    (∃ t, run SecurityInterests.step SecurityInterests.openedCase
        SecurityInterests.completedInTurn = some t ∧
      ∃ entry ∈ t.ledger, ∃ item ∈ entry.items,
        item.status ∈ SecurityInterests.terminalSatisfiedStatuses) := by
  obtain ⟨hbatch, hrisk, -, hoperations, hconds, hperfection⟩ := gates_backed
  refine ⟨?_, ?_, ?_, ?_, ?_⟩
  · obtain ⟨t, _, hrun, hcur, hstat⟩ := batchApproved_accepts
    obtain ⟨recorded, hmem, -, -, -, htype⟩ :=
      hbatch _ t _ GapRequests.Assembly.sampleDesk_initial hrun _ _ (.status hcur) hstat
    exact ⟨t, hrun, recorded, hmem, htype⟩
  · obtain ⟨t, record, hrun, hstat⟩ := escalatedThenNoted_accepts
    obtain ⟨row, hmem, -, hcontinues, -⟩ := hrisk _ t _ RiskReview.sampleCase_initial hrun record hstat
    exact ⟨t, hrun, row, hmem, hcontinues⟩
  · obtain ⟨t, package, hrun, hlatest, hstat⟩ := actionsAuthorized_accepts
    obtain ⟨authorization, hmem, -, -, -, hrole⟩ :=
      hoperations _ t _ unpackagedCase_initial hrun package (.status hlatest) hstat
    exact ⟨t, hrun, authorization, hmem, hrole⟩
  · obtain ⟨t, hrun, hconfirmable⟩ := waived_confirmable
    obtain ⟨condition, hmem, -, _, -, -, hto, hcounts⟩ :=
      hconds _ t _ Conditions.approvedCase_initial hrun hconfirmable
    exact ⟨t, hrun, condition, hmem, hto ▸ hcounts⟩
  · obtain ⟨t, hrun, hconfirmable⟩ := completedInTurn_confirmable
    obtain ⟨entry, hentry, -, item, hitem, _, -, -, hcounts⟩ :=
      hperfection _ t _ SecurityInterests.openedCase_initial hrun _ .status hconfirmable
    exact ⟨t, hrun, entry, hentry, item, hitem, hcounts⟩

/-- The only requirement of a case is ruled out by an officer. -/
def requirementRuledOut : List SecurityInterests.Request :=
  SecurityInterests.listing 5 10 ++
    .beginTransition 1 (SecurityInterests.officer 21) 10
      ⟨"NOT_REQUIRED_BY_HUMAN", some "không thuộc diện đăng ký", [], none, none, none⟩ 9 ::
    SecurityInterests.writing 1

/-- **A perfection is confirmable with nothing completed.** The human act behind it rules the only
requirement out. -/
theorem confirmable_without_completion :
    SecurityInterests.Initial SecurityInterests.openedCase ∧
    ∃ t, run SecurityInterests.step SecurityInterests.openedCase requirementRuledOut = some t ∧
      SecurityInterests.derivePerfectionConfirmable t.ledger = true ∧
      ∀ entry ∈ t.ledger, ∀ item ∈ entry.items,
        item.status ≠ .completed ∧ item.completedBy = none := by
  have hruns : (run SecurityInterests.step SecurityInterests.openedCase requirementRuledOut).any
      (fun t => SecurityInterests.derivePerfectionConfirmable t.ledger = true ∧
        ∀ entry ∈ t.ledger, ∀ item ∈ entry.items,
          item.status ≠ .completed ∧ item.completedBy = none) = true := by
    decide +kernel
  obtain ⟨t, hrun, hstate⟩ := (Option.any_eq_true _ _).1 hruns
  exact ⟨SecurityInterests.openedCase_initial, t, hrun, of_decide_eq_true hstate⟩

end Histories

end CreditOps.Orchestration
