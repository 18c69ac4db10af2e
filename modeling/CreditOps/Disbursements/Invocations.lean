import Mathlib.Data.List.Count
import Mathlib.Data.List.Perm.Subperm
import CreditOps.Disbursements.Fencing

/-!
# No blind second disbursement

How often the adapter is called for one action, over every interleaving of execute and reconcile
requests with crashes between them. An attempt calls the adapter at most once, and an attempt begins
only where nobody has to find out what became of the one before it: at the first request, or after a
human has recorded that nothing was executed. `Accounted` is this balance of attempts and
reconciliations, kept by every step (`Accounted.step`).

`calls_within_reconciliations` is the bound on the adapter calls, with the two facts that make a
confirmed execution final: the status is never left again (`executed_absorbing`), and the action has at
most one receipt that says so.
-/

set_option autoImplicit false

namespace CreditOps.Disbursements

open Transition

/-! ## Counting -/

/-- The attempt an event calls the adapter for. -/
def Event.calledKey : Event → Option IdempotencyKey
  | .adapterCalled key _ => some key
  | .requested _ | .recorded _ _ | .recordFailed _ _ | .reconciled _ => none

/-- The attempt an event requests. -/
def Event.requestedKey : Event → Option IdempotencyKey
  | .requested key => some key
  | .adapterCalled _ _ | .recorded _ _ | .recordFailed _ _ | .reconciled _ => none

/-- The adapter calls of a history, by attempt. -/
def adapterCalls (history : List Event) : List IdempotencyKey :=
  history.filterMap Event.calledKey

/-- The attempts of a history. -/
def requests (history : List Event) : List IdempotencyKey :=
  history.filterMap Event.requestedKey

/-- How often a human recorded that nothing was executed. -/
def reconciledNotExecuted (history : List Event) : Nat :=
  history.count (.reconciled .confirmedNotExecuted)

/-- The receipts that say the action was executed. -/
def executedReceipts (store : DisbursementStore) (ref : ActionRef) : List RecordedExecutionReceipt :=
  store.receipts.filter fun row => row.actionId = ref.id ∧ row.resultStatus = .confirmedExecuted

theorem mem_requests {key : IdempotencyKey} {history : List Event} :
    key ∈ requests history ↔ Event.requested key ∈ history := by
  unfold requests
  rw [List.mem_filterMap]
  constructor
  · rintro ⟨e, hmem, he⟩
    cases e with
    | requested =>
      cases he
      exact hmem
    | adapterCalled | recorded | recordFailed | reconciled => cases he
  · intro hmem
    exact ⟨_, hmem, rfl⟩

/-! ## The balance -/

/-- What every interleaving keeps: each attempt calls the adapter at most once, the attempts are
covered by the reconciliations, and a receipt of an execution goes with the status. -/
structure Accounted (ref : ActionRef) (s : System) : Prop where
  consistent : Consistent ref s
  calledOnce : (adapterCalls s.history).Nodup
  calledAttempt : ∀ key ∈ adapterCalls s.history,
    ∃ actor phase, s.attempts key = some ⟨actor, phase⟩ ∧ phase ≠ .requested
  covered : (requests s.history).length ≤ reconciledNotExecuted s.history + 1
  settled : ∀ status, s.store.statusOf ref = some status → status ∈ reattemptableStatuses →
    (requests s.history).length ≤ reconciledNotExecuted s.history
  receipts : (executedReceipts s.store ref).length ≤ 1
  receiptStatus : executedReceipts s.store ref ≠ [] →
    s.store.statusOf ref = some .confirmedExecuted

/-- The action is freshly proposed, and there is no receipt of it. -/
structure Fresh (ref : ActionRef) (s : System) : Prop where
  initial : Initial ref s
  noReceipt : ∀ row ∈ s.store.receipts, row.actionId ≠ ref.id

variable {ref : ActionRef} {s : System}

theorem Fresh.accounted (h : Fresh ref s) : Accounted ref s := by
  have hnone : executedReceipts s.store ref = [] := by
    apply List.filter_eq_nil_iff.2
    intro row hmem hmatch
    exact h.noReceipt row hmem (of_decide_eq_true hmatch).1
  constructor
  · exact h.initial.consistent
  · rw [h.initial.noHistory]
    exact List.nodup_nil
  · intro key hkey
    rw [h.initial.noHistory] at hkey
    cases hkey
  · rw [h.initial.noHistory]
    exact Nat.zero_le _
  · intro status _ _
    rw [h.initial.noHistory]
    exact Nat.le_refl _
  · rw [hnone]
    exact Nat.zero_le _
  · intro hsome
    exact absurd hnone hsome

theorem not_reattemptable_executed : ExecutionStatus.confirmedExecuted ∉ reattemptableStatuses := by
  decide

theorem not_reattemptable_of_result {s : ExecutionStatus} (hs : s ∈ adapterResultStatuses) :
    s ∉ reattemptableStatuses := by
  cases s <;> revert hs <;> decide

theorem Accounted.calls_subset (h : Accounted ref s) :
    adapterCalls s.history ⊆ requests s.history := by
  intro key hkey
  obtain ⟨_, _, hatt, -⟩ := h.calledAttempt key hkey
  rw [mem_requests, h.consistent.requestedIff, hatt]
  rfl

/-- **The adapter calls are covered by the reconciliations.** -/
theorem Accounted.calls_le (h : Accounted ref s) :
    (adapterCalls s.history).length ≤ 1 + reconciledNotExecuted s.history := by
  have hcalls := (h.calledOnce.subperm h.calls_subset).length_le
  have hcovered := h.covered
  omega

namespace Accounted

variable {ref : ActionRef} {s : System}

variable {key : IdempotencyKey} {actor : Actor}

theorem calledAttempt_setPhase (h : Accounted ref s) {phase : AttemptPhase} (hphase : phase ≠ .requested) :
    ∀ k ∈ adapterCalls s.history, ∃ b p, s.setPhase key actor phase k = some ⟨b, p⟩ ∧
      p ≠ .requested := by
  intro k hk
  by_cases hkey : k = key
  · subst hkey
    exact ⟨actor, phase, setPhase_self, hphase⟩
  · obtain ⟨b, p, hatt, hp⟩ := h.calledAttempt k hk
    exact ⟨b, p, (setPhase_of_ne hkey).trans hatt, hp⟩

variable {store : DisbursementStore}

/-- **A new attempt.** It begins where the attempts before it are covered. -/
theorem requested (h : Accounted ref s) (hfree : s.attempts key = none)
    (hfresh : key ∉ s.store.receipts.map (·.idempotencyKey))
    (hcom : s.store.requestExecution ref key actor = .ok store) :
    Accounted ref ⟨store, s.setPhase key actor .requested, .requested key :: s.history⟩ := by
  obtain ⟨found, hfound, hre, hstat, hrcpts⟩ := DisbursementStore.requestExecution_ok hcom
  have hcovered := h.settled found hfound hre
  have hnone : executedReceipts s.store ref = [] := by
    by_contra hsome
    have hexec := h.receiptStatus hsome
    rw [hfound, Option.some.injEq] at hexec
    rw [hexec] at hre
    exact not_reattemptable_executed hre
  have hsame : executedReceipts store ref = [] := by
    unfold executedReceipts
    rw [hrcpts]
    exact hnone
  refine ⟨h.consistent.requested hfree hfresh hcom, h.calledOnce, ?_, ?_, ?_, ?_, ?_⟩
  · intro k hk
    obtain ⟨b, p, hatt, hp⟩ := h.calledAttempt k hk
    have hne : k ≠ key := by
      rintro rfl
      rw [hfree] at hatt
      cases hatt
    exact ⟨b, p, (setPhase_of_ne hne).trans hatt, hp⟩
  · exact Nat.succ_le_succ hcovered
  · intro status hnow hnowRe
    rw [hstat, Option.some.injEq] at hnow
    subst hnow
    exact absurd hnowRe (by decide)
  · rw [hsame]
    exact Nat.zero_le _
  · intro hsome
    exact absurd hsame hsome

/-- **The adapter call.** The attempt had not called it before. -/
theorem returned (h : Accounted ref s) {key : IdempotencyKey} {actor : Actor}
    {receipt : DisbursementExecutionReceipt} (hphase : s.attempts key = some ⟨actor, .requested⟩)
    (haction : receipt.actionId = ref.id) (hkey : receipt.idempotencyKey = key) :
    Accounted ref ⟨s.store, s.setPhase key actor (.returned receipt),
      .adapterCalled key receipt.resultStatus :: s.history⟩ := by
  refine ⟨h.consistent.returned hphase haction hkey, ?_, ?_, h.covered, h.settled, h.receipts,
    h.receiptStatus⟩
  · refine List.nodup_cons.2 ⟨?_, h.calledOnce⟩
    intro hmem
    obtain ⟨b, p, hatt, hp⟩ := h.calledAttempt key hmem
    rw [hphase] at hatt
    cases hatt
    exact hp rfl
  · intro k hk
    rcases List.mem_cons.1 hk with rfl | hold
    · exact ⟨actor, _, setPhase_self, by simp⟩
    · exact h.calledAttempt_setPhase (by simp) k hold

/-- **A record.** Its receipt is the first that says the action was executed. -/
theorem recorded (h : Accounted ref s) {key : IdempotencyKey} {actor : Actor}
    {receipt : DisbursementExecutionReceipt} {store : DisbursementStore}
    (hphase : s.attempts key = some ⟨actor, .returned receipt⟩)
    (hcom : s.store.recordExecution ref receipt actor = .ok store) :
    Accounted ref ⟨store, s.setPhase key actor .recorded,
      .recorded key receipt.resultStatus :: s.history⟩ := by
  obtain ⟨_, hfound⟩ := h.consistent.action
  obtain ⟨hallow, hstat, hrcpts⟩ := DisbursementStore.recordExecution_ok hfound hcom
  have hnone : executedReceipts s.store ref = [] := by
    by_contra hsome
    have hexec := h.receiptStatus hsome
    rw [hfound, Option.some.injEq] at hexec
    rw [hexec, isExecutionTransitionAllowed_confirmedExecuted] at hallow
    cases hallow
  have hrows : executedReceipts store ref =
      [DisbursementStore.recordedReceipt receipt actor].filter
        fun row => row.actionId = ref.id ∧ row.resultStatus = .confirmedExecuted := by
    unfold executedReceipts at hnone ⊢
    rw [hrcpts, ← List.singleton_append, List.filter_append, hnone, List.append_nil]
  refine ⟨h.consistent.recorded hphase hcom, h.calledOnce,
    h.calledAttempt_setPhase (by simp), h.covered, ?_, ?_, ?_⟩
  · intro status hnow hre
    rw [hstat, Option.some.injEq] at hnow
    subst hnow
    exact absurd hre (not_reattemptable_of_result receipt.result_mem)
  · rw [hrows]
    exact List.length_filter_le _ _
  · intro hsome
    rw [hrows] at hsome
    obtain ⟨_, hrow⟩ := List.exists_mem_of_ne_nil _ hsome
    obtain ⟨hmem, hmatch⟩ := List.mem_filter.1 hrow
    rw [List.mem_singleton] at hmem
    subst hmem
    have hexec : receipt.resultStatus = .confirmedExecuted := (of_decide_eq_true hmatch).2
    rw [← hexec]
    exact hstat

/-- **A reconciliation.** When nothing was executed it covers one more attempt. -/
theorem reconciled (h : Accounted ref s) {outcome : ExecutionStatus} {rationale : String}
    (hcom : s.store.reconcileAction ref outcome rationale actor = .ok store) :
    Accounted ref ⟨store, s.attempts, .reconciled outcome :: s.history⟩ := by
  obtain ⟨_, hfound, hrec, hout, hstat, hrcpts⟩ :=
    DisbursementStore.reconcileAction_ok hcom
  have hnone : executedReceipts s.store ref = [] := by
    by_contra hsome
    have hexec := h.receiptStatus hsome
    rw [hfound, Option.some.injEq] at hexec
    rw [hexec] at hrec
    exact absurd hrec (by decide)
  have hsame : executedReceipts store ref = [] := by
    unfold executedReceipts
    rw [hrcpts]
    exact hnone
  have hcovered := h.covered
  have hcount : reconciledNotExecuted s.history ≤
      reconciledNotExecuted (Event.reconciled outcome :: s.history) :=
    List.count_le_count_cons
  refine ⟨h.consistent.reconciled hcom, h.calledOnce, h.calledAttempt, ?_, ?_, ?_, ?_⟩
  · exact Nat.le_trans hcovered (Nat.succ_le_succ hcount)
  · intro status hnow hre
    rw [hstat, Option.some.injEq] at hnow
    subst hnow
    have hcne : outcome = .confirmedNotExecuted := by
      revert hout hre
      cases outcome <;> decide
    subst hcne
    have hnext : reconciledNotExecuted (.reconciled .confirmedNotExecuted :: s.history) =
        reconciledNotExecuted s.history + 1 := List.count_cons_self
    change (requests s.history).length ≤ reconciledNotExecuted (_ :: s.history)
    rw [hnext]
    exact hcovered
  · rw [hsame]
    exact Nat.zero_le _
  · intro hsome
    exact absurd hsame hsome

/-- **Every step keeps the balance.** -/
theorem step (h : Accounted ref s) {q : Request} {t : System}
    (hstep : Disbursements.step ref s q = some t) : Accounted ref t := by
  cases step_cases hstep with
  | refused => exact h
  | requested hfree hfresh hcom => exact h.requested hfree hfresh hcom
  | returned hphase haction hkey => exact h.returned hphase haction hkey
  | recordFailed hphase =>
    exact ⟨h.consistent.recordFailed hphase, h.calledOnce, h.calledAttempt_setPhase (by simp),
      h.covered, h.settled, h.receipts, h.receiptStatus⟩
  | recorded hphase hcom => exact h.recorded hphase hcom
  | crashed hphase hopen =>
    exact ⟨h.consistent.crashed hphase hopen, h.calledOnce, h.calledAttempt_setPhase (by simp),
      h.covered, h.settled, h.receipts, h.receiptStatus⟩
  | reconciled hcom => exact h.reconciled hcom

end Accounted

/-! ## The bound -/

/-- **A confirmed execution is never left.** -/
theorem executed_absorbing {t : System} {q : Request} (hstep : step ref s q = some t)
    (hexec : s.store.statusOf ref = some .confirmedExecuted) :
    t.store.statusOf ref = some .confirmedExecuted := by
  cases step_cases hstep with
  | refused | returned | recordFailed | crashed => exact hexec
  | requested _ _ hcom =>
    obtain ⟨_, hfound, hre, -, -⟩ := DisbursementStore.requestExecution_ok hcom
    rw [hexec, Option.some.injEq] at hfound
    subst hfound
    exact absurd hre not_reattemptable_executed
  | recorded _ hcom =>
    obtain ⟨hallow, -, -⟩ := DisbursementStore.recordExecution_ok hexec hcom
    rw [isExecutionTransitionAllowed_confirmedExecuted] at hallow
    cases hallow
  | reconciled hcom =>
    obtain ⟨_, hfound, hrec, -⟩ := DisbursementStore.reconcileAction_ok hcom
    rw [hexec, Option.some.injEq] at hfound
    subst hfound
    exact absurd hrec (by decide)

/-- **No blind double disbursement.** On every run from a freshly proposed action, the adapter has been
called at most once more often than a human recorded that nothing was executed; a confirmed execution
stays confirmed whatever happens next; and at most one receipt of the action says it was executed. -/
theorem calls_within_reconciliations {ref : ActionRef} {s t : System} {as : List Request}
    (hs : Fresh ref s) (hrun : run (step ref) s as = some t) :
    (adapterCalls t.history).length ≤ 1 + reconciledNotExecuted t.history ∧
      (t.store.statusOf ref = some .confirmedExecuted → ∀ bs u, run (step ref) t bs = some u →
        u.store.statusOf ref = some .confirmedExecuted) ∧
      (executedReceipts t.store ref).length ≤ 1 := by
  have haccounted : Accounted ref t :=
    run_invariant (fun h hstep => h.step hstep) hs.accounted hrun
  refine ⟨haccounted.calls_le, ?_, haccounted.receipts⟩
  intro hexec bs u hrest
  have hkeep : ∀ {v : System} {a : Request} {v' : System},
      v.store.statusOf ref = some .confirmedExecuted → step ref v a = some v' →
        v'.store.statusOf ref = some .confirmedExecuted :=
    fun h hstep => executed_absorbing hstep h
  exact run_invariant hkeep hexec hrest

theorem sampleSystem_fresh : Fresh sampleRef sampleSystem where
  initial := sampleSystem_initial
  noReceipt _ h := by cases h

theorem retryAfterReconciliation_calls :
    ∃ t, run (step sampleRef) sampleSystem retryAfterReconciliation = some t ∧
      (adapterCalls t.history).length = 2 ∧ reconciledNotExecuted t.history = 1 ∧
      (executedReceipts t.store sampleRef).length ≤ 1 := by
  refine ⟨_, rfl, rfl, rfl, ?_⟩
  exact (calls_within_reconciliations sampleSystem_fresh
    (rfl : run (step sampleRef) sampleSystem retryAfterReconciliation = some _)).2.2

end CreditOps.Disbursements
