import CreditOps.Library.Transition
import CreditOps.Library.PartialMap
import CreditOps.Disbursements.Store

/-!
# Interleaved execution attempts

Any number of execute and reconcile requests on one action, interleaved at the granularity of their
transactions. An execute request commits `requestExecution`, calls the adapter outside any
transaction, and then runs `recordExecution`, each as its own step; an attempt can crash between any
two of them. A reconciliation is one step. The history keeps what committed, newest first.
-/

set_option autoImplicit false

namespace CreditOps.Disbursements

open Transition PartialMap

/-! ## The system -/

/-- How far one execute request has come. -/
inductive AttemptPhase where
  | requested
  | returned (receipt : DisbursementExecutionReceipt)
  | recorded
  | failed
  | crashed
deriving DecidableEq

/-- The record transaction of the attempt has not run. -/
def AttemptPhase.isOpen : AttemptPhase → Bool
  | .requested | .returned _ | .crashed => true
  | .recorded | .failed => false

/-- One execute request whose first transaction committed. -/
structure Attempt where
  actor : Actor
  phase : AttemptPhase
deriving DecidableEq

/-- What happened, in commit order; `recordFailed` is a second transaction that raised and rolled
back. -/
inductive Event where
  | requested (key : IdempotencyKey)
  | adapterCalled (key : IdempotencyKey) (result : ExecutionStatus)
  | recorded (key : IdempotencyKey) (result : ExecutionStatus)
  | recordFailed (key : IdempotencyKey) (result : ExecutionStatus)
  | reconciled (outcome : ExecutionStatus)
deriving DecidableEq

/-- The tables, the attempts by idempotency key, and the history, newest event first. -/
structure System where
  store : DisbursementStore
  attempts : IdempotencyKey → Option Attempt
  history : List Event

/-- One step of an interleaving. -/
inductive Request where
  | execute (key : IdempotencyKey) (actor : Actor)
  | adapterReturns (key : IdempotencyKey) (simulateUnknown : Bool) (receiptId : Uuid)
  | record (key : IdempotencyKey)
  | crash (key : IdempotencyKey)
  | reconcile (outcome : ExecutionStatus) (rationale : String) (actor : Actor)
deriving DecidableEq

/-- Move one attempt to a phase. -/
def System.setPhase (s : System) (key : IdempotencyKey) (actor : Actor) (phase : AttemptPhase) :
    IdempotencyKey → Option Attempt :=
  Function.update s.attempts key (some { actor, phase })

/-- The step function. A refused request leaves the system as it is; an execute request draws a
fresh key. -/
def step (ref : ActionRef) (s : System) : Request → Option System
  | .execute key actor =>
    if (s.attempts key).isSome ∨ key ∈ s.store.receipts.map (·.idempotencyKey) then none
    else
      match s.store.requestExecution ref key actor with
      | .error _ => some s
      | .ok store =>
        some { store
               attempts := s.setPhase key actor .requested
               history := .requested key :: s.history }
  | .adapterReturns key simulateUnknown receiptId =>
    match s.attempts key with
    | some ⟨actor, .requested⟩ =>
      let receipt := MockDisbursementExecutionAdapter.execute simulateUnknown receiptId ref.id key
      some { s with
             attempts := s.setPhase key actor (.returned receipt)
             history := .adapterCalled key receipt.resultStatus :: s.history }
    | _ => none
  | .record key =>
    match s.attempts key with
    | some ⟨actor, .returned receipt⟩ =>
      match s.store.recordExecution ref receipt actor with
      | .error _ =>
        some { s with
               attempts := s.setPhase key actor .failed
               history := .recordFailed key receipt.resultStatus :: s.history }
      | .ok store =>
        some { store
               attempts := s.setPhase key actor .recorded
               history := .recorded key receipt.resultStatus :: s.history }
    | _ => none
  | .crash key =>
    match s.attempts key with
    | some ⟨actor, .requested⟩ => some { s with attempts := s.setPhase key actor .crashed }
    | some ⟨actor, .returned _⟩ => some { s with attempts := s.setPhase key actor .crashed }
    | _ => none
  | .reconcile outcome rationale actor =>
    match s.store.reconcileAction ref outcome rationale actor with
    | .error _ => some s
    | .ok store => some { s with store, history := .reconciled outcome :: s.history }

/-- The action is freshly proposed and no attempt was made. -/
structure Initial (ref : ActionRef) (s : System) : Prop where
  proposed : s.store.statusOf ref = some .proposed
  noAttempt : ∀ key, s.attempts key = none
  noHistory : s.history = []

/-- What one step can do: a refused request changes nothing; the other cases are the committed
transactions, the adapter call, the refused record and the crash. -/
inductive Stepped (ref : ActionRef) (s : System) : Request → System → Prop where
  | refused (q : Request) : Stepped ref s q s
  | requested {key : IdempotencyKey} {actor : Actor} {store : DisbursementStore}
      (hfree : s.attempts key = none)
      (hfresh : key ∉ s.store.receipts.map (·.idempotencyKey))
      (hcom : s.store.requestExecution ref key actor = .ok store) :
      Stepped ref s (.execute key actor)
        ⟨store, s.setPhase key actor .requested, .requested key :: s.history⟩
  | returned {q : Request} {key : IdempotencyKey} {actor : Actor}
      {receipt : DisbursementExecutionReceipt}
      (hphase : s.attempts key = some ⟨actor, .requested⟩)
      (haction : receipt.actionId = ref.id) (hkey : receipt.idempotencyKey = key) :
      Stepped ref s q
        ⟨s.store, s.setPhase key actor (.returned receipt),
          .adapterCalled key receipt.resultStatus :: s.history⟩
  | recordFailed {key : IdempotencyKey} {actor : Actor} {receipt : DisbursementExecutionReceipt}
      {e : DisbursementError} (hphase : s.attempts key = some ⟨actor, .returned receipt⟩)
      (hraise : s.store.recordExecution ref receipt actor = .error e) :
      Stepped ref s (.record key)
        ⟨s.store, s.setPhase key actor .failed,
          .recordFailed key receipt.resultStatus :: s.history⟩
  | recorded {key : IdempotencyKey} {actor : Actor} {receipt : DisbursementExecutionReceipt}
      {store : DisbursementStore} (hphase : s.attempts key = some ⟨actor, .returned receipt⟩)
      (hcom : s.store.recordExecution ref receipt actor = .ok store) :
      Stepped ref s (.record key)
        ⟨store, s.setPhase key actor .recorded, .recorded key receipt.resultStatus :: s.history⟩
  | crashed {q : Request} {key : IdempotencyKey} {actor : Actor} {phase : AttemptPhase}
      (hphase : s.attempts key = some ⟨actor, phase⟩) (hopen : phase.isOpen = true) :
      Stepped ref s q ⟨s.store, s.setPhase key actor .crashed, s.history⟩
  | reconciled {q : Request} {outcome : ExecutionStatus} {rationale : String} {actor : Actor}
      {store : DisbursementStore}
      (hcom : s.store.reconcileAction ref outcome rationale actor = .ok store) :
      Stepped ref s q ⟨store, s.attempts, .reconciled outcome :: s.history⟩

variable {ref : ActionRef} {s t : System}

/-- **Every step is one of these cases.** -/
theorem step_cases {q : Request} (h : step ref s q = some t) :
    Stepped ref s q t := by
  cases q with
  | execute key actor =>
    simp only [step] at h
    by_cases hused : (s.attempts key).isSome ∨ key ∈ s.store.receipts.map (·.idempotencyKey)
    · simp only [if_pos hused, reduceCtorEq] at h
    · simp only [if_neg hused] at h
      have hfree : s.attempts key = none := by
        rw [← Option.not_isSome_iff_eq_none]
        exact fun hs => hused (Or.inl hs)
      cases hreq : s.store.requestExecution ref key actor with
      | error =>
        simp only [hreq, Option.some.injEq] at h
        subst h
        exact Stepped.refused _
      | ok =>
        simp only [hreq, Option.some.injEq] at h
        subst h
        exact Stepped.requested hfree (fun hm => hused (Or.inr hm)) hreq
  | adapterReturns key simulateUnknown receiptId =>
    simp only [step] at h
    split at h
    · rename_i actor hphase
      cases h
      have hpins := execute_pins simulateUnknown receiptId ref.id key
      exact Stepped.returned hphase hpins.1 hpins.2
    · cases h
  | record key =>
    simp only [step] at h
    split at h
    · rename_i actor receipt hphase
      cases hrec : s.store.recordExecution ref receipt actor with
      | error =>
        simp only [hrec, Option.some.injEq] at h
        subst h
        exact Stepped.recordFailed hphase hrec
      | ok =>
        simp only [hrec, Option.some.injEq] at h
        subst h
        exact Stepped.recorded hphase hrec
    · cases h
  | crash key =>
    simp only [step] at h
    split at h
    · rename_i actor hphase
      cases h
      exact Stepped.crashed hphase rfl
    · rename_i actor receipt hphase
      cases h
      exact Stepped.crashed hphase rfl
    · cases h
  | reconcile outcome rationale actor =>
    simp only [step] at h
    cases hrec : s.store.reconcileAction ref outcome rationale actor with
    | error =>
      simp only [hrec, Option.some.injEq] at h
      subst h
      exact Stepped.refused _
    | ok =>
      simp only [hrec, Option.some.injEq] at h
      subst h
      exact Stepped.reconciled hrec

/-! ## Bookkeeping -/

/-- What every reachable system satisfies, whatever the interleaving. -/
structure Consistent (ref : ActionRef) (s : System) : Prop where
  action : ∃ status, s.store.statusOf ref = some status
  requestedIff : ∀ key, Event.requested key ∈ s.history ↔ (s.attempts key).isSome
  returnedPins : ∀ key actor receipt, s.attempts key = some ⟨actor, .returned receipt⟩ →
    receipt.actionId = ref.id ∧ receipt.idempotencyKey = key
  noReceipt : ∀ key actor phase, s.attempts key = some ⟨actor, phase⟩ → phase ≠ .recorded →
    key ∉ s.store.receipts.map (·.idempotencyKey)
  recordFailedPhase : ∀ key result, Event.recordFailed key result ∈ s.history →
    ∃ actor, s.attempts key = some ⟨actor, .failed⟩
  recordedPhase : ∀ key result, Event.recorded key result ∈ s.history →
    ∃ actor, s.attempts key = some ⟨actor, .recorded⟩
  recordedReceipt : ∀ key result, Event.recorded key result ∈ s.history →
    ∃ row ∈ s.store.receipts, row.idempotencyKey = key ∧ row.actionId = ref.id ∧
      row.resultStatus = result
  executedStatus : ∀ key, Event.recorded key .confirmedExecuted ∈ s.history →
    s.store.statusOf ref = some .confirmedExecuted

theorem Initial.consistent (h : Initial ref s) :
    Consistent ref s where
  action := ⟨_, h.proposed⟩
  requestedIff key := by simp only [h.noHistory, h.noAttempt, List.not_mem_nil, Option.isSome_none,
    Bool.false_eq_true]
  returnedPins key actor receipt hk := by rw [h.noAttempt] at hk; cases hk
  noReceipt key actor phase hk := by rw [h.noAttempt] at hk; cases hk
  recordFailedPhase key result hm := by rw [h.noHistory] at hm; cases hm
  recordedPhase key result hm := by rw [h.noHistory] at hm; cases hm
  recordedReceipt key result hm := by rw [h.noHistory] at hm; cases hm
  executedStatus key hm := by rw [h.noHistory] at hm; cases hm

section SetPhase

variable {s : System} {key k : IdempotencyKey} {actor : Actor} {phase : AttemptPhase}

theorem setPhase_self : s.setPhase key actor phase key = some ⟨actor, phase⟩ :=
  Function.update_self ..

theorem setPhase_of_ne (hk : k ≠ key) : s.setPhase key actor phase k = s.attempts k :=
  Function.update_of_ne hk ..

variable {a : Attempt}

theorem setPhase_cases (h : s.setPhase key actor phase k = some a) :
    (k = key ∧ a = ⟨actor, phase⟩) ∨ (k ≠ key ∧ s.attempts k = some a) :=
  update_some_cases h

theorem setPhase_isSome (hatt : s.attempts key = some a) (k : IdempotencyKey) :
    (s.setPhase key actor phase k).isSome = (s.attempts k).isSome :=
  isSome_update_of_isSome hatt k

theorem setPhase_keeps {p : AttemptPhase} (hatt : s.attempts key = some a) (hp : a.phase ≠ p)
    (hk : ∃ b, s.attempts k = some ⟨b, p⟩) :
    ∃ b, s.setPhase key actor phase k = some ⟨b, p⟩ := by
  obtain ⟨b, hb⟩ := hk
  obtain ⟨⟨c, q⟩, hc, rfl⟩ := update_keeps (P := fun a => a.phase = p) hatt hp ⟨⟨b, p⟩, hb, rfl⟩
  exact ⟨c, hc⟩

end SetPhase

namespace Consistent

variable {ref : ActionRef} {s : System}

variable {key : IdempotencyKey} {actor : Actor} {store : DisbursementStore}

theorem requested (h : Consistent ref s) (hfree : s.attempts key = none)
    (hfresh : key ∉ s.store.receipts.map (·.idempotencyKey))
    (hcom : s.store.requestExecution ref key actor = .ok store) :
    Consistent ref ⟨store, s.setPhase key actor .requested, .requested key :: s.history⟩ := by
  obtain ⟨_, hfound, hre, hstat, hrcpts⟩ := DisbursementStore.requestExecution_ok hcom
  refine ⟨⟨_, hstat⟩, ?_, ?_, ?_, ?_, ?_, ?_, ?_⟩
  · intro k
    by_cases hk : k = key
    · subst hk
      simp only [List.mem_cons, true_or, setPhase_self, Option.isSome_some]
    · simp only [List.mem_cons, Event.requested.injEq, hk, false_or, setPhase_of_ne hk,
        h.requestedIff k]
  · intro k b receipt hk
    rcases setPhase_cases hk with ⟨-, hphase⟩ | ⟨-, hold⟩
    · cases hphase
    · exact h.returnedPins k b receipt hold
  · intro k b phase hk hp
    show k ∉ store.receipts.map _
    rw [hrcpts]
    rcases setPhase_cases hk with ⟨rfl, -⟩ | ⟨-, hold⟩
    · exact hfresh
    · exact h.noReceipt k b phase hold hp
  · intro k result hm
    obtain ⟨b, hb⟩ := h.recordFailedPhase k result (List.mem_of_ne_of_mem (by simp) hm)
    have hne : k ≠ key := by rintro rfl; rw [hfree] at hb; cases hb
    exact ⟨b, (setPhase_of_ne hne).trans hb⟩
  · intro k result hm
    obtain ⟨b, hb⟩ := h.recordedPhase k result (List.mem_of_ne_of_mem (by simp) hm)
    have hne : k ≠ key := by rintro rfl; rw [hfree] at hb; cases hb
    exact ⟨b, (setPhase_of_ne hne).trans hb⟩
  · intro k result hm
    show ∃ row ∈ store.receipts, _
    rw [hrcpts]
    exact h.recordedReceipt k result (List.mem_of_ne_of_mem (by simp) hm)
  · intro k hm
    have hexec := h.executedStatus k (List.mem_of_ne_of_mem (by simp) hm)
    rw [hfound, Option.some.injEq] at hexec
    subst hexec
    exact absurd hre (by decide)

theorem returned (h : Consistent ref s) {key : IdempotencyKey} {actor : Actor}
    {receipt : DisbursementExecutionReceipt} (hphase : s.attempts key = some ⟨actor, .requested⟩)
    (haction : receipt.actionId = ref.id) (hkey : receipt.idempotencyKey = key) :
    Consistent ref ⟨s.store, s.setPhase key actor (.returned receipt),
      .adapterCalled key receipt.resultStatus :: s.history⟩ := by
  refine ⟨h.action, ?_, ?_, ?_, ?_, ?_, ?_, ?_⟩
  · intro k
    rw [setPhase_isSome hphase, ← h.requestedIff]
    simp only [List.mem_cons, reduceCtorEq, false_or]
  · intro k b r hk
    rcases setPhase_cases hk with ⟨rfl, hr⟩ | ⟨-, hold⟩
    · cases hr
      exact ⟨haction, hkey⟩
    · exact h.returnedPins k b r hold
  · intro k b phase hk hp
    rcases setPhase_cases hk with ⟨rfl, -⟩ | ⟨-, hold⟩
    · exact h.noReceipt k actor _ hphase (by simp)
    · exact h.noReceipt k b phase hold hp
  · intro k result hm
    exact setPhase_keeps hphase (by simp)
      (h.recordFailedPhase k result (List.mem_of_ne_of_mem (by simp) hm))
  · intro k result hm
    exact setPhase_keeps hphase (by simp)
      (h.recordedPhase k result (List.mem_of_ne_of_mem (by simp) hm))
  · intro k result hm
    exact h.recordedReceipt k result (List.mem_of_ne_of_mem (by simp) hm)
  · intro k hm
    exact h.executedStatus k (List.mem_of_ne_of_mem (by simp) hm)

theorem recordFailed (h : Consistent ref s) {receipt : DisbursementExecutionReceipt}
    (hphase : s.attempts key = some ⟨actor, .returned receipt⟩) :
    Consistent ref ⟨s.store, s.setPhase key actor .failed,
      .recordFailed key receipt.resultStatus :: s.history⟩ := by
  refine ⟨h.action, ?_, ?_, ?_, ?_, ?_, ?_, ?_⟩
  · intro k
    rw [setPhase_isSome hphase, ← h.requestedIff]
    simp only [List.mem_cons, reduceCtorEq, false_or]
  · intro k b r hk
    rcases setPhase_cases hk with ⟨-, hr⟩ | ⟨-, hold⟩
    · cases hr
    · exact h.returnedPins k b r hold
  · intro k b phase hk hp
    rcases setPhase_cases hk with ⟨rfl, -⟩ | ⟨-, hold⟩
    · exact h.noReceipt k actor _ hphase (by simp)
    · exact h.noReceipt k b phase hold hp
  · intro k result hm
    rcases List.mem_cons.1 hm with heq | hold
    · cases heq
      exact ⟨actor, setPhase_self⟩
    · exact setPhase_keeps hphase (by simp) (h.recordFailedPhase k result hold)
  · intro k result hm
    exact setPhase_keeps hphase (by simp)
      (h.recordedPhase k result (List.mem_of_ne_of_mem (by simp) hm))
  · intro k result hm
    exact h.recordedReceipt k result (List.mem_of_ne_of_mem (by simp) hm)
  · intro k hm
    exact h.executedStatus k (List.mem_of_ne_of_mem (by simp) hm)

theorem recorded (h : Consistent ref s) {key : IdempotencyKey} {actor : Actor}
    {receipt : DisbursementExecutionReceipt} {store : DisbursementStore}
    (hphase : s.attempts key = some ⟨actor, .returned receipt⟩)
    (hcom : s.store.recordExecution ref receipt actor = .ok store) :
    Consistent ref ⟨store, s.setPhase key actor .recorded,
      .recorded key receipt.resultStatus :: s.history⟩ := by
  obtain ⟨_, hfound⟩ := h.action
  obtain ⟨hallow, hstat, hrcpts⟩ := DisbursementStore.recordExecution_ok hfound hcom
  obtain ⟨haction, hkey⟩ := h.returnedPins key actor receipt hphase
  refine ⟨⟨_, hstat⟩, ?_, ?_, ?_, ?_, ?_, ?_, ?_⟩
  · intro k
    rw [setPhase_isSome hphase, ← h.requestedIff]
    simp only [List.mem_cons, reduceCtorEq, false_or]
  · intro k b r hk
    rcases setPhase_cases hk with ⟨-, hr⟩ | ⟨-, hold⟩
    · cases hr
    · exact h.returnedPins k b r hold
  · intro k b phase hk hp
    rcases setPhase_cases hk with ⟨-, hr⟩ | ⟨hne, hold⟩
    · cases hr
      exact absurd rfl hp
    · have hrest := h.noReceipt k b phase hold hp
      show k ∉ store.receipts.map _
      rw [hrcpts, List.map_cons, List.mem_cons, not_or]
      exact ⟨by rw [DisbursementStore.recordedReceipt, hkey]; exact hne, hrest⟩
  · intro k result hm
    exact setPhase_keeps hphase (by simp)
      (h.recordFailedPhase k result (List.mem_of_ne_of_mem (by simp) hm))
  · intro k result hm
    rcases List.mem_cons.1 hm with heq | hold
    · cases heq
      exact ⟨actor, setPhase_self⟩
    · exact setPhase_keeps hphase (by simp) (h.recordedPhase k result hold)
  · intro k result hm
    show ∃ row ∈ store.receipts, _
    rw [hrcpts]
    rcases List.mem_cons.1 hm with heq | hold
    · cases heq
      exact ⟨_, List.mem_cons_self, hkey, haction, rfl⟩
    · obtain ⟨row, hrow, hfacts⟩ := h.recordedReceipt k result hold
      exact ⟨row, List.mem_cons_of_mem _ hrow, hfacts⟩
  · intro k hm
    rcases List.mem_cons.1 hm with heq | hold
    · simp only [Event.recorded.injEq] at heq
      rw [heq.2]
      exact hstat
    · have hexec := h.executedStatus k hold
      rw [hfound, Option.some.injEq] at hexec
      rw [hexec, isExecutionTransitionAllowed_confirmedExecuted] at hallow
      cases hallow

theorem crashed (h : Consistent ref s) {key : IdempotencyKey} {actor : Actor}
    {phase : AttemptPhase} (hphase : s.attempts key = some ⟨actor, phase⟩)
    (hopen : phase.isOpen = true) :
    Consistent ref ⟨s.store, s.setPhase key actor .crashed, s.history⟩ := by
  have hfailed : phase ≠ .failed := by rintro rfl; cases hopen
  have hrecorded : phase ≠ .recorded := by rintro rfl; cases hopen
  refine ⟨h.action, ?_, ?_, ?_, ?_, ?_, h.recordedReceipt, h.executedStatus⟩
  · intro k
    rw [setPhase_isSome hphase, ← h.requestedIff]
  · intro k b r hk
    rcases setPhase_cases hk with ⟨-, hr⟩ | ⟨-, hold⟩
    · cases hr
    · exact h.returnedPins k b r hold
  · intro k b p hk hp
    rcases setPhase_cases hk with ⟨rfl, -⟩ | ⟨-, hold⟩
    · exact h.noReceipt k actor phase hphase hrecorded
    · exact h.noReceipt k b p hold hp
  · intro k result hm
    exact setPhase_keeps hphase hfailed (h.recordFailedPhase k result hm)
  · intro k result hm
    exact setPhase_keeps hphase hrecorded (h.recordedPhase k result hm)

theorem reconciled (h : Consistent ref s) {outcome : ExecutionStatus} {rationale : String}
    (hcom : s.store.reconcileAction ref outcome rationale actor = .ok store) :
    Consistent ref ⟨store, s.attempts, .reconciled outcome :: s.history⟩ := by
  obtain ⟨_, hfound, hrec, -, hstat, hrcpts⟩ :=
    DisbursementStore.reconcileAction_ok hcom
  refine ⟨⟨_, hstat⟩, ?_, h.returnedPins, ?_, ?_, ?_, ?_, ?_⟩
  · intro k
    rw [← h.requestedIff]
    simp only [List.mem_cons, reduceCtorEq, false_or]
  · intro k b phase hk hp
    show k ∉ store.receipts.map _
    rw [hrcpts]
    exact h.noReceipt k b phase hk hp
  · intro k result hm
    exact h.recordFailedPhase k result (List.mem_of_ne_of_mem (by simp) hm)
  · intro k result hm
    exact h.recordedPhase k result (List.mem_of_ne_of_mem (by simp) hm)
  · intro k result hm
    show ∃ row ∈ store.receipts, _
    rw [hrcpts]
    exact h.recordedReceipt k result (List.mem_of_ne_of_mem (by simp) hm)
  · intro k hm
    have hexec := h.executedStatus k (List.mem_of_ne_of_mem (by simp) hm)
    rw [hfound, Option.some.injEq] at hexec
    subst hexec
    exact absurd hrec (by decide)

/-- **Every step keeps the bookkeeping.** -/
theorem step (h : Consistent ref s) {q : Request} {t : System}
    (hstep : Disbursements.step ref s q = some t) : Consistent ref t := by
  cases step_cases hstep with
  | refused => exact h
  | requested hfree hfresh hcom => exact h.requested hfree hfresh hcom
  | returned hphase haction hkey => exact h.returned hphase haction hkey
  | recordFailed hphase => exact h.recordFailed hphase
  | recorded hphase hcom => exact h.recorded hphase hcom
  | crashed hphase hopen => exact h.crashed hphase hopen
  | reconciled hcom => exact h.reconciled hcom

end Consistent

/-- **Every run keeps the bookkeeping.** -/
theorem consistent_run {as : List Request} (hs : Consistent ref s) (hrun : run (step ref) s as = some t) :
    Consistent ref t :=
  run_invariant (fun hc hstep => hc.step hstep) hs hrun

end CreditOps.Disbursements
