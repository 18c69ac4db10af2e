import CreditOps.Library.Fencing
import CreditOps.Disbursements.Attempts

/-!
# Fencing of execution attempts

The fencing log of a history (`Event.fence`) names the current attempt: a request acquires the action
for its attempt, a reconciliation takes it away. `Fenced` is the fencing contract: an outcome is
applied only while its attempt is current, a confirmed execution whose record ran is durable, and no
attempt requested after it calls the adapter.
-/

set_option autoImplicit false

namespace CreditOps.Disbursements

open Transition Fencing

/-! ## The fencing contract -/

/-- A request acquires the action for its attempt; a reconciliation takes it away. -/
def Event.fence : Event → FenceEvent IdempotencyKey
  | .requested key => .acquire key
  | .reconciled _ => .revoke
  | .adapterCalled _ _ | .recorded _ _ | .recordFailed _ _ => .neutral

/-- The attempt the action is being executed by, after a history. -/
def currentAttempt (history : List Event) : Option IdempotencyKey :=
  holder (history.map Event.fence)

/-- A reconciliation committed after the request of the attempt. -/
def reconciledSince (key : IdempotencyKey) (history : List Event) : Bool :=
  revokedSince key (history.map Event.fence)

/-- The attempts requested after the given one. -/
def laterAttempts (key : IdempotencyKey) (history : List Event) : List IdempotencyKey :=
  acquiredSince key (history.map Event.fence)

/-- Every record that was applied was applied while its attempt was the current one. -/
def AppliedWhileCurrent : List Event → Prop
  | [] => True
  | .recorded key _ :: older => currentAttempt older = some key ∧ AppliedWhileCurrent older
  | .requested _ :: older | .adapterCalled _ _ :: older | .recordFailed _ _ :: older
  | .reconciled _ :: older => AppliedWhileCurrent older

/-- The record transaction of the attempt ran with this adapter result, and committed or raised. -/
def RecordRan (key : IdempotencyKey) (result : ExecutionStatus) (history : List Event) : Prop :=
  Event.recorded key result ∈ history ∨ Event.recordFailed key result ∈ history

/-- The fencing contract of disbursement attempts. -/
structure Fenced (ref : ActionRef) (s : System) : Prop where
  /-- An outcome is applied only while the attempt that produced it is current. -/
  appliedWhileCurrent : AppliedWhileCurrent s.history
  /-- A confirmed execution whose record ran is durable, as a receipt and as the status. -/
  durable : ∀ key, RecordRan key .confirmedExecuted s.history →
    (∃ row ∈ s.store.receipts, row.idempotencyKey = key ∧ row.actionId = ref.id ∧
      row.resultStatus = .confirmedExecuted) ∧
    s.store.statusOf ref = some .confirmedExecuted
  /-- No attempt requested after it calls the adapter. -/
  noLaterCall : ∀ key, RecordRan key .confirmedExecuted s.history →
    ∀ later ∈ laterAttempts key s.history, ∀ result,
      Event.adapterCalled later result ∉ s.history

/-- The adapter result an attempt is about to record. -/
def System.returnedResult (s : System) (key : IdempotencyKey) : Option ExecutionStatus :=
  match s.attempts key with
  | some ⟨_, .returned receipt⟩ => some receipt.resultStatus
  | _ => none

/-- The condition on one step: a record step does not come after a reconciliation newer than its own
request, unless its result is unknown and the action is not awaiting one. -/
def RecordsInTurn (ref : ActionRef) (s : System) : Request → Prop
  | .record key =>
    reconciledSince key s.history = false ∨
      (s.returnedResult key = some .executionUnknown ∧
        s.store.statusOf ref ≠ some .executionRequested)
  | .execute _ _ | .adapterReturns _ _ _ | .crash _ | .reconcile _ _ _ => True

instance (ref : ActionRef) (s : System) : ∀ q, Decidable (RecordsInTurn ref s q)
  | .record _ => inferInstanceAs (Decidable (_ ∨ _))
  | .execute _ _ | .adapterReturns _ _ _ | .crash _ | .reconcile _ _ _ => isTrue trivial

/-- What records in turn keep: an open attempt that no reconciliation has overtaken is the current
one, and its action awaits its result. -/
structure InTurn (ref : ActionRef) (s : System) : Prop where
  consistent : Consistent ref s
  openIsCurrent : ∀ key actor phase, s.attempts key = some ⟨actor, phase⟩ → phase.isOpen = true →
    reconciledSince key s.history = false →
    currentAttempt s.history = some key ∧ s.store.statusOf ref = some .executionRequested
  appliedWhileCurrent : AppliedWhileCurrent s.history
  executedIsRecorded : ∀ key, Event.recordFailed key .confirmedExecuted ∉ s.history
  executedIsLast : ∀ key, Event.recorded key .confirmedExecuted ∈ s.history →
    laterAttempts key s.history = []

variable {ref : ActionRef} {s t : System}

theorem InTurn.fenced (h : InTurn ref s) : Fenced ref s where
  appliedWhileCurrent := h.appliedWhileCurrent
  durable key hran := by
    rcases hran with hrec | hfail
    · exact ⟨h.consistent.recordedReceipt key _ hrec, h.consistent.executedStatus key hrec⟩
    · exact absurd hfail (h.executedIsRecorded key)
  noLaterCall key hran later hlater := by
    rcases hran with hrec | hfail
    · rw [h.executedIsLast key hrec] at hlater
      cases hlater
    · exact absurd hfail (h.executedIsRecorded key)

theorem Initial.inTurn (h : Initial ref s) : InTurn ref s where
  consistent := h.consistent
  openIsCurrent key actor phase hk := by rw [h.noAttempt] at hk; cases hk
  appliedWhileCurrent := by rw [h.noHistory]; trivial
  executedIsRecorded key hm := by rw [h.noHistory] at hm; cases hm
  executedIsLast key hm := by rw [h.noHistory] at hm; cases hm

variable {key : IdempotencyKey}

theorem returnedResult_eq {actor : Actor} {receipt : DisbursementExecutionReceipt}
    (hphase : s.attempts key = some ⟨actor, .returned receipt⟩) :
    s.returnedResult key = some receipt.resultStatus := by
  simp only [System.returnedResult, hphase]

theorem Consistent.acquire_mem (h : Consistent ref s) {a : Attempt} (hatt : s.attempts key = some a) :
    FenceEvent.acquire key ∈ s.history.map Event.fence := by
  have hreq : Event.requested key ∈ s.history := (h.requestedIff key).2 (by rw [hatt]; rfl)
  exact List.mem_map.2 ⟨_, hreq, rfl⟩

namespace InTurn

variable {ref : ActionRef} {s : System}

variable {key : IdempotencyKey} {actor : Actor} {store : DisbursementStore}

theorem requested (h : InTurn ref s) (hfree : s.attempts key = none)
    (hfresh : key ∉ s.store.receipts.map (·.idempotencyKey))
    (hcom : s.store.requestExecution ref key actor = .ok store) :
    InTurn ref ⟨store, s.setPhase key actor .requested, .requested key :: s.history⟩ := by
  obtain ⟨_, hfound, hre, hstat, -⟩ := DisbursementStore.requestExecution_ok hcom
  refine ⟨h.consistent.requested hfree hfresh hcom, ?_, h.appliedWhileCurrent, ?_, ?_⟩
  · intro k b phase hk hopen hsince
    rcases setPhase_cases hk with ⟨rfl, -⟩ | ⟨hne, hold⟩
    · exact ⟨rfl, hstat⟩
    · have hsince' : reconciledSince k s.history = false := by
        rw [← hsince]
        exact (revokedSince_acquire_of_ne hne.symm _).symm
      have hreq := (h.openIsCurrent k b phase hold hopen hsince').2
      rw [hfound, Option.some.injEq] at hreq
      subst hreq
      exact absurd hre (by decide)
  · intro k hm
    exact h.executedIsRecorded k (List.mem_of_ne_of_mem (by simp) hm)
  · intro k hm
    have hexec := h.consistent.executedStatus k (List.mem_of_ne_of_mem (by simp) hm)
    rw [hfound, Option.some.injEq] at hexec
    subst hexec
    exact absurd hre (by decide)

theorem recordFailed (h : InTurn ref s) {receipt : DisbursementExecutionReceipt} {e : DisbursementError}
    (hphase : s.attempts key = some ⟨actor, .returned receipt⟩)
    (hraise : s.store.recordExecution ref receipt actor = .error e)
    (hturn : RecordsInTurn ref s (.record key)) :
    InTurn ref ⟨s.store, s.setPhase key actor .failed,
      .recordFailed key receipt.resultStatus :: s.history⟩ := by
  have hunknown : receipt.resultStatus = .executionUnknown := by
    rcases hturn with hsince | ⟨hres, -⟩
    · obtain ⟨-, hreq⟩ := h.openIsCurrent key actor _ hphase rfl hsince
      obtain ⟨haction, hkey⟩ := h.consistent.returnedPins key actor receipt hphase
      have hfresh := h.consistent.noReceipt key actor _ hphase (by simp)
      rw [← hkey] at hfresh
      have hallow : isExecutionTransitionAllowed .executionRequested receipt.resultStatus = true := by
        have hmem := receipt.result_mem
        revert hmem
        cases receipt.resultStatus <;> decide
      obtain ⟨_, hok⟩ := DisbursementStore.recordExecution_succeeds hreq haction hfresh
        hallow actor
      rw [hok] at hraise
      cases hraise
    · rw [returnedResult_eq hphase, Option.some.injEq] at hres
      exact hres
  refine ⟨h.consistent.recordFailed hphase, ?_, h.appliedWhileCurrent, ?_, ?_⟩
  · intro k b phase hk hopen hsince
    rcases setPhase_cases hk with ⟨-, hp⟩ | ⟨-, hold⟩
    · cases hp
      cases hopen
    · exact h.openIsCurrent k b phase hold hopen hsince
  · intro k hm
    rw [hunknown] at hm
    exact h.executedIsRecorded k (List.mem_of_ne_of_mem (by simp) hm)
  · intro k hm
    exact h.executedIsLast k (List.mem_of_ne_of_mem (by simp) hm)

theorem recorded (h : InTurn ref s) {key : IdempotencyKey} {actor : Actor}
    {receipt : DisbursementExecutionReceipt} {store : DisbursementStore}
    (hphase : s.attempts key = some ⟨actor, .returned receipt⟩)
    (hcom : s.store.recordExecution ref receipt actor = .ok store)
    (hturn : RecordsInTurn ref s (.record key)) :
    InTurn ref ⟨store, s.setPhase key actor .recorded,
      .recorded key receipt.resultStatus :: s.history⟩ := by
  obtain ⟨_, hfound⟩ := h.consistent.action
  obtain ⟨hallow, -, -⟩ := DisbursementStore.recordExecution_ok hfound hcom
  have hcur : currentAttempt s.history = some key := by
    rcases hturn with hsince | ⟨hres, hne⟩
    · exact (h.openIsCurrent key actor _ hphase rfl hsince).1
    · rw [returnedResult_eq hphase, Option.some.injEq] at hres
      rw [hres, executionUnknown_allowed_iff] at hallow
      exact absurd (by rw [hfound, hallow]) hne
  refine ⟨h.consistent.recorded hphase hcom, ?_, ⟨hcur, h.appliedWhileCurrent⟩, ?_, ?_⟩
  · intro k b phase hk hopen hsince
    rcases setPhase_cases hk with ⟨-, hp⟩ | ⟨hne, hold⟩
    · cases hp
      cases hopen
    · have hk' := (h.openIsCurrent k b phase hold hopen hsince).1
      rw [hcur, Option.some.injEq] at hk'
      exact absurd hk'.symm hne
  · intro k hm
    exact h.executedIsRecorded k (List.mem_of_ne_of_mem (by simp) hm)
  · intro k hm
    rcases List.mem_cons.1 hm with heq | hold
    · simp only [Event.recorded.injEq] at heq
      rw [heq.1]
      exact acquiredSince_eq_nil_of_holder hcur
    · exact h.executedIsLast k hold

theorem reconciled (h : InTurn ref s) {outcome : ExecutionStatus} {rationale : String}
    (hcom : s.store.reconcileAction ref outcome rationale actor = .ok store) :
    InTurn ref ⟨store, s.attempts, .reconciled outcome :: s.history⟩ := by
  refine ⟨h.consistent.reconciled hcom, ?_, h.appliedWhileCurrent, ?_, ?_⟩
  · intro k b phase hk _ hsince
    have hover : reconciledSince k (.reconciled outcome :: s.history) = true :=
      revokedSince_revoke (h.consistent.acquire_mem hk)
    exact absurd (hover.symm.trans hsince) (by decide)
  · intro k hm
    exact h.executedIsRecorded k (List.mem_of_ne_of_mem (by simp) hm)
  · intro k hm
    exact h.executedIsLast k (List.mem_of_ne_of_mem (by simp) hm)

/-- **A step that records in turn keeps the invariant.** -/
theorem step (h : InTurn ref s) {q : Request} {t : System} (hturn : RecordsInTurn ref s q)
    (hstep : Disbursements.step ref s q = some t) : InTurn ref t := by
  cases step_cases hstep with
  | refused => exact h
  | requested hfree hfresh hcom => exact h.requested hfree hfresh hcom
  | @returned _ key actor receipt hphase haction hkey =>
    refine ⟨h.consistent.returned hphase haction hkey, ?_, h.appliedWhileCurrent, ?_, ?_⟩
    · intro k b phase hk hopen hsince
      rcases setPhase_cases hk with ⟨rfl, -⟩ | ⟨-, hold⟩
      · exact h.openIsCurrent _ actor _ hphase rfl hsince
      · exact h.openIsCurrent k b phase hold hopen hsince
    · intro k hm
      exact h.executedIsRecorded k (List.mem_of_ne_of_mem (by simp) hm)
    · intro k hm
      exact h.executedIsLast k (List.mem_of_ne_of_mem (by simp) hm)
  | recordFailed hphase hraise => exact h.recordFailed hphase hraise hturn
  | recorded hphase hcom => exact h.recorded hphase hcom hturn
  | @crashed _ key actor phase hphase hopen =>
    refine ⟨h.consistent.crashed hphase hopen, ?_, h.appliedWhileCurrent, h.executedIsRecorded,
      h.executedIsLast⟩
    intro k b p hk hopen' hsince
    rcases setPhase_cases hk with ⟨rfl, -⟩ | ⟨-, hold⟩
    · exact h.openIsCurrent _ actor phase hphase hopen hsince
    · exact h.openIsCurrent k b p hold hopen' hsince
  | reconciled hcom => exact h.reconciled hcom

end InTurn

/-! ## Runs that are not fenced -/

/-- A breach no later step repairs: a confirmed execution whose record raised, or a record applied out
of turn. -/
def Breached (s : System) : Prop :=
  (∃ key, Event.recordFailed key .confirmedExecuted ∈ s.history) ∨ ¬ AppliedWhileCurrent s.history

variable {q : Request}

theorem step_history (hstep : step ref s q = some t) :
    t.history = s.history ∨ ∃ e, t.history = e :: s.history := by
  cases step_cases hstep with
  | refused | crashed => exact Or.inl rfl
  | requested | returned | recordFailed | recorded | reconciled => exact Or.inr ⟨_, rfl⟩

theorem AppliedWhileCurrent.tail {e : Event} {history : List Event}
    (h : AppliedWhileCurrent (e :: history)) : AppliedWhileCurrent history := by
  cases e with
  | recorded => exact h.2
  | requested | adapterCalled | recordFailed | reconciled => exact h

theorem Breached.step (h : Breached s) (hstep : Disbursements.step ref s q = some t) : Breached t := by
  rcases step_history hstep with heq | ⟨e, heq⟩
  · unfold Breached
    rw [heq]
    exact h
  · unfold Breached
    rw [heq]
    rcases h with ⟨key, hkey⟩ | hout
    · exact Or.inl ⟨key, List.mem_cons_of_mem _ hkey⟩
    · exact Or.inr fun happlied => hout happlied.tail

theorem Breached.not_fenced (h : Breached s) (hc : Consistent ref s) : ¬ Fenced ref s := by
  intro hf
  rcases h with ⟨key, hfail⟩ | hout
  · obtain ⟨⟨row, hrow, hkey, -⟩, -⟩ := hf.durable key (Or.inr hfail)
    obtain ⟨actor, hphase⟩ := hc.recordFailedPhase key _ hfail
    exact hc.noReceipt key actor _ hphase (by simp) (List.mem_map.2 ⟨row, hrow, hkey⟩)
  · exact hout hf.appliedWhileCurrent

/-- **A record step out of turn breaches the contract.** -/
theorem breached_of_not_recordsInTurn (hc : Consistent ref s) (hstep : step ref s q = some t)
    (hturn : ¬ RecordsInTurn ref s q) :
    Breached t := by
  cases q with
  | execute | adapterReturns | crash | reconcile => exact absurd trivial hturn
  | record key =>
    simp only [RecordsInTurn, not_or, Bool.not_eq_false, not_and, not_not] at hturn
    obtain ⟨hsince, hawait⟩ := hturn
    simp only [step] at hstep
    split at hstep
    · rename_i actor receipt hphase
      rw [returnedResult_eq hphase, Option.some.injEq] at hawait
      cases hrec : s.store.recordExecution ref receipt actor with
      | error =>
        simp only [hrec, Option.some.injEq] at hstep
        subst hstep
        have hexec : receipt.resultStatus = .confirmedExecuted := by
          have hmem := receipt.result_mem
          simp only [adapterResultStatuses, List.mem_cons, List.not_mem_nil, or_false] at hmem
          rcases hmem with hexec | hunknown
          · exact hexec
          · obtain ⟨haction, hkey⟩ := hc.returnedPins key actor receipt hphase
            have hfresh := hc.noReceipt key actor _ hphase (by simp)
            rw [← hkey] at hfresh
            obtain ⟨_, hok⟩ := DisbursementStore.recordExecution_succeeds (hawait hunknown)
              haction hfresh (by rw [hunknown]; rfl) actor
            rw [hok] at hrec
            cases hrec
        exact Or.inl ⟨key, by rw [hexec]; exact List.mem_cons_self⟩
      | ok =>
        simp only [hrec, Option.some.injEq] at hstep
        subst hstep
        exact Or.inr fun happlied => holder_ne_of_revokedSince hsince happlied.1
    · cases hstep

/-- A fenced run recorded every attempt in turn. -/
theorem recordsInTurn_of_fenced (hf : Fenced ref t) :
    ∀ {as : List Request} {s : System}, InTurn ref s → run (step ref) s as = some t →
      RunMeets (step ref) (RecordsInTurn ref) s as := by
  intro as
  induction as with
  | nil =>
    intro s _ _
    trivial
  | cons q _ ih =>
    intro s hs hrun
    obtain ⟨m, hm, hrest⟩ := run_cons_eq_some.1 hrun
    by_cases hturn : RecordsInTurn ref s q
    · refine ⟨hturn, fun m' hm' => ?_⟩
      rw [hm, Option.some.injEq] at hm'
      subst hm'
      exact ih (hs.step hturn hm) hrest
    · have hbreach : Breached t :=
        run_invariant (fun hb hstep => hb.step hstep)
          (breached_of_not_recordsInTurn hs.consistent hm hturn) hrest
      exact absurd hf (hbreach.not_fenced (consistent_run hs.consistent hrun))

/-- **Attempts are fenced exactly when they are recorded in turn.** On every run from a freshly
proposed action, the fencing contract holds in the state reached if and only if no record step came
after a reconciliation newer than its own request, unknown results that find the action no longer
awaiting one excepted. -/
theorem fenced_iff_recordsInTurn {ref : ActionRef} {s t : System} {as : List Request}
    (hs : Initial ref s) (hrun : run (step ref) s as = some t) :
    Fenced ref t ↔ RunMeets (step ref) (RecordsInTurn ref) s as := by
  constructor
  · intro hf
    exact recordsInTurn_of_fenced hf hs.inTurn hrun
  · intro hmeets
    exact (run_invariant_of_meets (fun hi hturn hstep => hi.step hturn hstep) hs.inTurn hmeets
      hrun).fenced

/-! ## Concrete interleavings -/

section Interleavings

/-- A proposed disbursement of the second version of a case. -/
def sampleAction : ProposedDisbursementAction where
  id := 1
  caseId := 10
  caseVersion := 2
  decisionId := 20
  amountText := "500000000"
  currency := "VND"
  beneficiaryRefVi := "SYN-BEN"
  accountRefVi := "SYN-ACC"
  status := .proposed
  createdBy := 30
  createdAt := 0

/-- Its key triple. -/
def sampleRef : ActionRef where
  id := 1
  caseId := 10
  caseVersion := 2

/-- The system before the first request. -/
def sampleSystem : System where
  store :=
    { actions := fun id => if id = 1 then some sampleAction else none
      receipts := []
      audit := [] }
  attempts := fun _ => none
  history := []

/-- A checker other than the maker. -/
def sampleChecker : Actor where
  id := 31
  role := "OPS_CHECKER"

theorem sampleSystem_initial : Initial sampleRef sampleSystem where
  proposed := rfl
  noAttempt _ := rfl
  noHistory := rfl

/-- An attempt recorded as unknown, reconciled as not executed, and attempted again. -/
def retryAfterReconciliation : List Request :=
  [.execute 7 sampleChecker, .adapterReturns 7 true 100, .record 7,
    .reconcile .confirmedNotExecuted "bank statement shows no debit" sampleChecker,
    .execute 8 sampleChecker, .adapterReturns 8 false 101, .record 8]

theorem retryAfterReconciliation_fenced :
    ∃ t, run (step sampleRef) sampleSystem retryAfterReconciliation = some t ∧
      t.store.statusOf sampleRef = some .confirmedExecuted ∧ Fenced sampleRef t := by
  refine ⟨_, rfl, rfl, (fenced_iff_recordsInTurn sampleSystem_initial
    (rfl : run (step sampleRef) sampleSystem retryAfterReconciliation = some _)).2 ?_⟩
  decide

/-- A reconciliation commits between the adapter call of an attempt and its record; the next attempt
calls the adapter again. -/
def reconciledWhileInFlight : List Request :=
  [.execute 7 sampleChecker, .adapterReturns 7 false 100,
    .reconcile .confirmedNotExecuted "no response yet" sampleChecker,
    .record 7, .execute 8 sampleChecker, .adapterReturns 8 false 101]

/-- **The contract fails on the code.** Both attempts moved the money, the first left no receipt. -/
theorem reconciledWhileInFlight_not_fenced :
    Initial sampleRef sampleSystem ∧
    ∃ t, run (step sampleRef) sampleSystem reconciledWhileInFlight = some t ∧
      t.history = [.adapterCalled 8 .confirmedExecuted, .requested 8,
        .recordFailed 7 .confirmedExecuted, .reconciled .confirmedNotExecuted,
        .adapterCalled 7 .confirmedExecuted, .requested 7] ∧
      t.store.receipts = [] ∧ ¬ Fenced sampleRef t := by
  refine ⟨sampleSystem_initial, _, rfl, rfl, rfl, ?_⟩
  intro hf
  obtain ⟨⟨_, hrow, -⟩, -⟩ := hf.durable 7 (Or.inr (by decide))
  cases hrow

end Interleavings

end CreditOps.Disbursements
