import CreditOps.Domain.Disbursements

/-!
# The disbursement repository

The three transactions that move a proposed disbursement. `requestExecution` is the first
transaction of `execute_action`: it locks the row, fails closed for an unresolved or confirmed
action, and records `EXECUTION_REQUESTED`. `recordExecution` is its second transaction: it inserts the
append-only receipt of the adapter and moves the row to the adapter's result. `reconcileAction` is
the human resolution. The adapter is called between the first two, outside any transaction.
-/

set_option autoImplicit false

namespace CreditOps.Disbursements

/-! ## Tables -/

/-- The key the repository passes around: an action with the case version it is bound to. -/
structure ActionRef where
  id : Uuid
  caseId : Uuid
  caseVersion : CaseVersion
deriving DecidableEq

/-- One row of `disbursement_execution_receipts`. -/
structure RecordedExecutionReceipt where
  id : Uuid
  actionId : Uuid
  idempotencyKey : IdempotencyKey
  adapterLabel : String
  resultStatus : ExecutionStatus
  receiptRef : Option String
  recordedBy : Uuid
deriving DecidableEq

/-- The `event_data` of the audit events the repository writes. -/
inductive AuditEventData where
  | executionRequested (idempotencyKey : IdempotencyKey) (fromStatus : ExecutionStatus)
  | executionRecorded (idempotencyKey : IdempotencyKey) (adapterLabel : String)
      (resultStatus : ExecutionStatus) (receiptRef : Option String)
  | executionReconciled (fromStatus outcome : ExecutionStatus) (rationale : String)
deriving DecidableEq

/-- The `event_type` that goes with the data. -/
def AuditEventData.eventType : AuditEventData → String
  | .executionRequested .. => "DISBURSEMENT_EXECUTION_REQUESTED"
  | .executionRecorded .. => "DISBURSEMENT_EXECUTION_RECORDED"
  | .executionReconciled .. => "DISBURSEMENT_EXECUTION_RECONCILED"

/-- One audit event on a `PROPOSED_DISBURSEMENT_ACTION` artifact. -/
structure AuditEvent where
  caseId : Uuid
  caseVersion : CaseVersion
  actorType : String
  actorId : Uuid
  artifactId : Uuid
  data : AuditEventData
deriving DecidableEq

/-- The human who calls an endpoint. -/
structure Actor where
  id : Uuid
  role : String
deriving DecidableEq

/-- The tables the repository reads and writes; appended rows stand first. -/
structure DisbursementStore where
  actions : Uuid → Option ProposedDisbursementAction
  receipts : List RecordedExecutionReceipt
  audit : List AuditEvent

/-- The errors of the repository; `sql` is an error raised by the database. -/
inductive DisbursementError where
  | reconciliationRequired (status : String)
  | alreadyExecuted (actionId : Uuid)
  | notReconcilable (status : String)
  | actionNotFound (actionId : Uuid)
  | notAReconciliationOutcome (status : String)
  | sql (error : SqlError)
deriving DecidableEq

namespace DisbursementStore

/-! ## Statements -/

/-- `_select_for_update`: the row of the triple, or `DisbursementActionNotFound`. -/
def selectForUpdate (store : DisbursementStore) (ref : ActionRef) :
    Except DisbursementError ProposedDisbursementAction :=
  match store.actions ref.id with
  | none => .error (.actionNotFound ref.id)
  | some row =>
    if row.caseId = ref.caseId ∧ row.caseVersion = ref.caseVersion then .ok row
    else .error (.actionNotFound ref.id)

/-- `_update_status`: an update that matches no row writes nothing; otherwise the trigger decides. -/
def updateStatus (store : DisbursementStore) (ref : ActionRef) (toStatus : ExecutionStatus) :
    Except DisbursementError DisbursementStore :=
  match store.selectForUpdate ref with
  | .error _ => .ok store
  | .ok row =>
    match enforceDisbursementExecutionTransition row { row with status := toStatus } with
    | .error e => .error (.sql e)
    | .ok new =>
      .ok { store with actions := Function.update store.actions ref.id (some new) }

/-- `_insert_audit` -/
def insertAudit (store : DisbursementStore) (ref : ActionRef) (actor : Actor)
    (data : AuditEventData) : DisbursementStore :=
  { store with
    audit :=
      { caseId := ref.caseId
        caseVersion := ref.caseVersion
        actorType := "HUMAN:" ++ actor.role
        actorId := actor.id
        artifactId := ref.id
        data } :: store.audit }

/-- The insert into `disbursement_execution_receipts`. Its label, result and reference checks repeat
what the receipt type already guarantees. -/
def insertReceipt (store : DisbursementStore) (receipt : DisbursementExecutionReceipt)
    (recordedBy : Uuid) : Except DisbursementError DisbursementStore :=
  if receipt.idempotencyKey ∈ store.receipts.map (·.idempotencyKey) then
    .error (.sql (.uniqueViolation "disbursement_execution_receipts_idempotency_key"))
  else if (store.actions receipt.actionId).isNone then
    .error (.sql (.foreignKeyViolation "disbursement_execution_receipts_action_id_fkey"))
  else
    .ok
      { store with
        receipts :=
          { id := receipt.id
            actionId := receipt.actionId
            idempotencyKey := receipt.idempotencyKey
            adapterLabel := receipt.adapterLabel
            resultStatus := receipt.resultStatus
            receiptRef := receipt.receiptRef
            recordedBy } :: store.receipts }

/-! ## Transactions -/

/-- The first transaction of `execute_action`. -/
def requestExecution (store : DisbursementStore) (ref : ActionRef) (key : IdempotencyKey)
    (actor : Actor) : Except DisbursementError DisbursementStore :=
  match store.selectForUpdate ref with
  | .error e => .error e
  | .ok current =>
    if current.status ∈ reconcilableStatuses then
      .error (.reconciliationRequired current.status.value)
    else if current.status = .confirmedExecuted then
      .error (.alreadyExecuted ref.id)
    else if current.status ∉ reattemptableStatuses then
      .error (.reconciliationRequired current.status.value)
    else
      match store.updateStatus ref .executionRequested with
      | .error e => .error e
      | .ok updated => .ok (updated.insertAudit ref actor (.executionRequested key current.status))

/-- The second transaction of `execute_action`. -/
def recordExecution (store : DisbursementStore) (ref : ActionRef)
    (receipt : DisbursementExecutionReceipt) (actor : Actor) :
    Except DisbursementError DisbursementStore :=
  match store.insertReceipt receipt actor.id with
  | .error e => .error e
  | .ok inserted =>
    match inserted.updateStatus ref receipt.resultStatus with
    | .error e => .error e
    | .ok updated =>
      .ok (updated.insertAudit ref actor
        (.executionRecorded receipt.idempotencyKey receipt.adapterLabel receipt.resultStatus
          receipt.receiptRef))

/-- `reconcile_action` -/
def reconcileAction (store : DisbursementStore) (ref : ActionRef) (outcome : ExecutionStatus)
    (rationale : String) (actor : Actor) : Except DisbursementError DisbursementStore :=
  if outcome ∉ reconciliationOutcomes then
    .error (.notAReconciliationOutcome outcome.value)
  else
    match store.selectForUpdate ref with
    | .error e => .error e
    | .ok current =>
      if current.status ∉ reconcilableStatuses then
        .error (.notReconcilable current.status.value)
      else
        match store.updateStatus ref outcome with
        | .error e => .error e
        | .ok updated =>
          .ok (updated.insertAudit ref actor
            (.executionReconciled current.status outcome rationale))

/-! ## What each transaction does -/

/-- The status of the action, when the row exists. -/
def statusOf (store : DisbursementStore) (ref : ActionRef) : Option ExecutionStatus :=
  match store.selectForUpdate ref with
  | .error _ => none
  | .ok row => some row.status

variable {store store' : DisbursementStore} {ref : ActionRef}

theorem statusOf_eq_some {s : ExecutionStatus} :
    store.statusOf ref = some s ↔ ∃ row, store.selectForUpdate ref = .ok row ∧ row.status = s := by
  unfold statusOf
  cases store.selectForUpdate ref with
  | error => simp only [reduceCtorEq, false_and, exists_false]
  | ok => simp only [Option.some.injEq, Except.ok.injEq, exists_eq_left']

@[simp] theorem statusOf_withReceipts (store : DisbursementStore) (ref : ActionRef)
    (receipts : List RecordedExecutionReceipt) :
    { store with receipts }.statusOf ref = store.statusOf ref :=
  rfl

theorem selectForUpdate_ok {row : ProposedDisbursementAction} (h : store.selectForUpdate ref = .ok row) :
    store.actions ref.id = some row ∧ row.caseId = ref.caseId ∧
      row.caseVersion = ref.caseVersion := by
  unfold selectForUpdate at h
  cases hrow : store.actions ref.id with
  | none =>
    rw [hrow] at h
    cases h
  | some found =>
    rw [hrow] at h
    by_cases hm : found.caseId = ref.caseId ∧ found.caseVersion = ref.caseVersion
    · simp only [if_pos hm, Except.ok.injEq] at h
      subst h
      exact ⟨rfl, hm⟩
    · simp only [if_neg hm, reduceCtorEq] at h

variable {found outcome toStatus : ExecutionStatus}

/-- **A status update that found its row.** -/
theorem updateStatus_ok (hfound : store.statusOf ref = some found)
    (h : store.updateStatus ref toStatus = .ok store') :
    isExecutionTransitionAllowed found toStatus = true ∧ store'.statusOf ref = some toStatus ∧
      store'.receipts = store.receipts ∧ store'.audit = store.audit := by
  obtain ⟨row, hrow, rfl⟩ := statusOf_eq_some.1 hfound
  obtain ⟨-, hcase, hver⟩ := selectForUpdate_ok hrow
  unfold updateStatus at h
  simp only [hrow, enforceDisbursementExecutionTransition_status] at h
  by_cases hallow : isExecutionTransitionAllowed row.status toStatus = true
  · simp only [if_pos hallow, Except.ok.injEq] at h
    subst h
    refine ⟨hallow, ?_, rfl, rfl⟩
    exact statusOf_eq_some.2 ⟨{ row with status := toStatus }, by
      simp only [selectForUpdate, Function.update_self, hcase, hver, and_self, ↓reduceIte], rfl⟩
  · simp only [if_neg hallow, reduceCtorEq] at h

/-- The rows are the same but for their statuses. -/
def SameRows (store store' : DisbursementStore) : Prop :=
  ∀ id, (store'.actions id).map (fun row => { row with status := .proposed }) =
    (store.actions id).map fun row => { row with status := .proposed }

theorem SameRows.refl (store : DisbursementStore) : SameRows store store :=
  fun _ => rfl

/-- A status update changes nothing but a status. -/
theorem updateStatus_sameRows (h : store.updateStatus ref toStatus = .ok store') :
    SameRows store store' := by
  unfold updateStatus at h
  cases hrow : store.selectForUpdate ref with
  | error =>
    rw [hrow] at h
    cases h
    exact SameRows.refl store
  | ok row =>
    simp only [hrow, enforceDisbursementExecutionTransition_status] at h
    by_cases hallow : isExecutionTransitionAllowed row.status toStatus = true
    · simp only [if_pos hallow, Except.ok.injEq] at h
      subst h
      intro id
      by_cases hid : id = ref.id
      · subst hid
        simp only [Function.update_self, Option.map_some, (selectForUpdate_ok hrow).1]
      · simp only [Function.update_of_ne hid]
    · simp only [if_neg hallow, reduceCtorEq] at h

theorem updateStatus_succeeds (hfound : store.statusOf ref = some found)
    (hallow : isExecutionTransitionAllowed found toStatus = true) :
    ∃ store', store.updateStatus ref toStatus = .ok store' := by
  obtain ⟨row, hrow, rfl⟩ := statusOf_eq_some.1 hfound
  refine ⟨{ store with
    actions := Function.update store.actions ref.id (some { row with status := toStatus }) }, ?_⟩
  simp only [updateStatus, hrow, enforceDisbursementExecutionTransition_status, if_pos hallow]

variable {key : IdempotencyKey} {actor : Actor}

/-- **The first transaction.** It commits only from a reattemptable status, leaves the receipts
alone and opens the attempt. -/
theorem requestExecution_ok (h : store.requestExecution ref key actor = .ok store') :
    ∃ found, store.statusOf ref = some found ∧ found ∈ reattemptableStatuses ∧
      store'.statusOf ref = some .executionRequested ∧ store'.receipts = store.receipts := by
  unfold requestExecution at h
  cases hrow : store.selectForUpdate ref with
  | error => simp only [hrow, reduceCtorEq] at h
  | ok row =>
    have hfound : store.statusOf ref = some row.status := statusOf_eq_some.2 ⟨row, hrow, rfl⟩
    simp only [hrow] at h
    by_cases hrec : row.status ∈ reconcilableStatuses
    · simp only [if_pos hrec, reduceCtorEq] at h
    by_cases hex : row.status = .confirmedExecuted
    · simp only [if_neg hrec, if_pos hex, reduceCtorEq] at h
    by_cases hre : row.status ∈ reattemptableStatuses
    · simp only [if_neg hrec, if_neg hex, not_true_eq_false, hre, ↓reduceIte] at h
      cases hupd : store.updateStatus ref .executionRequested with
      | error => simp only [hupd, reduceCtorEq] at h
      | ok =>
        simp only [hupd, Except.ok.injEq] at h
        subst h
        obtain ⟨-, hstat, hrcpts, -⟩ := updateStatus_ok hfound hupd
        exact ⟨row.status, hfound, hre, hstat, hrcpts⟩
    · simp only [if_neg hrec, if_neg hex, hre, not_false_eq_true, ↓reduceIte, reduceCtorEq] at h

/-- The receipt row the second transaction inserts. -/
def recordedReceipt (receipt : DisbursementExecutionReceipt) (actor : Actor) :
    RecordedExecutionReceipt where
  id := receipt.id
  actionId := receipt.actionId
  idempotencyKey := receipt.idempotencyKey
  adapterLabel := receipt.adapterLabel
  resultStatus := receipt.resultStatus
  receiptRef := receipt.receiptRef
  recordedBy := actor.id

variable {receipt : DisbursementExecutionReceipt}

theorem insertReceipt_ok (h : store.insertReceipt receipt actor.id = .ok store') :
    receipt.idempotencyKey ∉ store.receipts.map (·.idempotencyKey) ∧
      store' = { store with receipts := recordedReceipt receipt actor :: store.receipts } := by
  unfold insertReceipt at h
  by_cases hdup : receipt.idempotencyKey ∈ store.receipts.map (·.idempotencyKey)
  · simp only [if_pos hdup, reduceCtorEq] at h
  by_cases hnone : (store.actions receipt.actionId).isNone
  · simp only [if_neg hdup, if_pos hnone, reduceCtorEq] at h
  · simp only [if_neg hdup, if_neg hnone, Except.ok.injEq] at h
    exact ⟨hdup, h.symm⟩

/-- **The second transaction.** It commits only along an allowed edge from the status it finds,
inserts exactly the adapter's receipt and leaves the row at the adapter's result. -/
theorem recordExecution_ok (hfound : store.statusOf ref = some found)
    (h : store.recordExecution ref receipt actor = .ok store') :
    isExecutionTransitionAllowed found receipt.resultStatus = true ∧
      store'.statusOf ref = some receipt.resultStatus ∧
      store'.receipts = recordedReceipt receipt actor :: store.receipts := by
  unfold recordExecution at h
  cases hins : store.insertReceipt receipt actor.id with
  | error => simp only [hins, reduceCtorEq] at h
  | ok =>
    obtain ⟨-, rfl⟩ := insertReceipt_ok hins
    rw [← statusOf_withReceipts store ref (recordedReceipt receipt actor :: store.receipts)] at hfound
    simp only [hins] at h
    cases hupd : DisbursementStore.updateStatus
        { store with receipts := recordedReceipt receipt actor :: store.receipts } ref
        receipt.resultStatus with
    | error e => simp only [hupd, reduceCtorEq] at h
    | ok updated =>
      simp only [hupd, Except.ok.injEq] at h
      subst h
      obtain ⟨hallow, hstat, hrcpts, -⟩ := updateStatus_ok hfound hupd
      exact ⟨hallow, hstat, hrcpts⟩

/-- **When the second transaction succeeds.** A fresh key on an existing action, along an allowed
edge. -/
theorem recordExecution_succeeds (hfound : store.statusOf ref = some found)
    (haction : receipt.actionId = ref.id)
    (hfresh : receipt.idempotencyKey ∉ store.receipts.map (·.idempotencyKey))
    (hallow : isExecutionTransitionAllowed found receipt.resultStatus = true) (actor : Actor) :
    ∃ store', store.recordExecution ref receipt actor = .ok store' := by
  obtain ⟨_, hrow, -⟩ := statusOf_eq_some.1 hfound
  have hsome : (store.actions receipt.actionId).isNone = false := by
    rw [haction, (selectForUpdate_ok hrow).1]
    rfl
  have hins : store.insertReceipt receipt actor.id =
      .ok { store with receipts := recordedReceipt receipt actor :: store.receipts } := by
    simp only [insertReceipt, if_neg hfresh, hsome, Bool.false_eq_true, ↓reduceIte, recordedReceipt]
  rw [← statusOf_withReceipts store ref (recordedReceipt receipt actor :: store.receipts)] at hfound
  obtain ⟨_, hupd⟩ := updateStatus_succeeds hfound hallow
  exact ⟨_, by simp only [recordExecution, hins, hupd]; rfl⟩

variable {rationale : String}

/-- **The reconciliation.** It commits only on an unresolved action, to one of the two outcomes, and
leaves the receipts alone. -/
theorem reconcileAction_ok (h : store.reconcileAction ref outcome rationale actor = .ok store') :
    ∃ found, store.statusOf ref = some found ∧ found ∈ reconcilableStatuses ∧
      outcome ∈ reconciliationOutcomes ∧ store'.statusOf ref = some outcome ∧
      store'.receipts = store.receipts := by
  unfold reconcileAction at h
  by_cases hout : outcome ∈ reconciliationOutcomes
  · simp only [hout, not_true_eq_false, ↓reduceIte] at h
    cases hrow : store.selectForUpdate ref with
    | error => simp only [hrow, reduceCtorEq] at h
    | ok row =>
      have hfound : store.statusOf ref = some row.status := statusOf_eq_some.2 ⟨row, hrow, rfl⟩
      simp only [hrow] at h
      by_cases hrec : row.status ∈ reconcilableStatuses
      · simp only [hrec, not_true_eq_false, ↓reduceIte] at h
        cases hupd : store.updateStatus ref outcome with
        | error => simp only [hupd, reduceCtorEq] at h
        | ok =>
          simp only [hupd, Except.ok.injEq] at h
          subst h
          obtain ⟨-, hstat, hrcpts, -⟩ := updateStatus_ok hfound hupd
          exact ⟨row.status, hfound, hrec, hout, hstat, hrcpts⟩
      · simp only [hrec, not_false_eq_true, ↓reduceIte, reduceCtorEq] at h
  · simp only [hout, not_false_eq_true, ↓reduceIte, reduceCtorEq] at h

/-! ## What the transactions leave alone -/

theorem requestExecution_sameRows (h : store.requestExecution ref key actor = .ok store') :
    SameRows store store' := by
  unfold requestExecution at h
  split at h
  · cases h
  split at h
  · cases h
  split at h
  · cases h
  split at h
  · cases h
  split at h
  · cases h
  rename_i updated hupdate
  cases h
  exact fun id => updateStatus_sameRows hupdate id

theorem recordExecution_sameRows (h : store.recordExecution ref receipt actor = .ok store') :
    SameRows store store' := by
  unfold recordExecution at h
  split at h
  · cases h
  rename_i inserted hinsert
  obtain ⟨-, rfl⟩ := insertReceipt_ok hinsert
  split at h
  · cases h
  rename_i updated hupdate
  cases h
  exact fun id => updateStatus_sameRows hupdate id

theorem reconcileAction_sameRows (h : store.reconcileAction ref outcome rationale actor = .ok store') :
    SameRows store store' := by
  unfold reconcileAction at h
  split at h
  · cases h
  split at h
  · cases h
  split at h
  · cases h
  split at h
  · cases h
  rename_i updated hupdate
  cases h
  exact fun id => updateStatus_sameRows hupdate id

end DisbursementStore

end CreditOps.Disbursements
