import Mathlib.Algebra.Group.Nat.Defs
import CreditOps.Orchestration.Store

/-!
# The durable task repository

The operations a worker has on `processing_tasks` and `task_checkpoints`, each one statement in a
transaction of its own. A claim takes a waiting task of the current case version under a fresh lease;
every other operation is presented with a lease token, and its `where` clause demands a running task
that holds this very token, unexpired (`ownedBy`). The sweep alone takes a running task from a holder
whose lease has expired.
-/

set_option autoImplicit false

namespace CreditOps.Workers

open Orchestration

/-! ## Envelopes and checkpoints -/

/-- `TaskEnvelopeV1`: the identifiers a queue message carries. A document ingestion is bound to a
document version, an agent task never is. -/
@[ext] structure TaskEnvelope where
  taskId : Uuid
  caseId : Uuid
  caseVersion : CaseVersion
  taskType : TaskType
  documentVersionId : Option Uuid
  caseVersion_pos : 1 ≤ caseVersion
  documentScope : taskType = .documentIngestion ↔ documentVersionId.isSome = true

instance : DecidableEq TaskEnvelope :=
  fun _ _ => decidable_of_iff _ TaskEnvelope.ext_iff.symm

/-- One row of `task_checkpoints`. -/
structure TaskCheckpoint where
  taskId : Uuid
  caseId : Uuid
  caseVersion : CaseVersion
  documentVersionId : Uuid
  sequenceNo : Nat
  checkpointType : String
  checkpointSchemaVersion : String
  checkpointData : String
  createdAt : Timestamp
deriving DecidableEq

/-- What a checkpoint write raises. -/
inductive CheckpointError where
  | staleTask (message : String)
  | sql (error : SqlError)
deriving DecidableEq

/-- A live row of `document_versions`. -/
structure LiveDocument where
  documentVersionId : Uuid
  caseVersion : CaseVersion
deriving DecidableEq

/-! ## The guards -/

/-- The statuses in which the worker archives the message of a task. -/
def isTerminal : TaskStatus → Bool
  | .succeeded | .superseded | .failedManualReview => true
  | .pending | .running | .retryWait => false

/-- The row is the one the envelope names, at its version and document scope. -/
def inScope (tables : CaseTables) (envelope : TaskEnvelope) (task : ProcessingTask) : Bool :=
  task.id = envelope.taskId ∧ tables.caseId = envelope.caseId ∧
    task.caseVersion = envelope.caseVersion ∧ task.documentVersionId = envelope.documentVersionId

/-- `status = 'RUNNING' and lease_token = %s and lease_until > statement_timestamp()` -/
def ownedBy (leaseToken : Uuid) (clock : Timestamp) (task : ProcessingTask) : Bool :=
  task.status = .running ∧ task.lease.any fun lease => lease.1 = leaseToken ∧ clock < lease.2

/-- The document version of the task, if it has one, is live at the version of the task. -/
def documentCurrent (documents : List LiveDocument) (task : ProcessingTask) : Bool :=
  match task.documentVersionId with
  | none => true
  | some documentVersionId => ⟨documentVersionId, task.caseVersion⟩ ∈ documents

/-- The guard of a claim: a waiting task that is due, not leased, and current. -/
def claimable (tables : CaseTables) (documents : List LiveDocument) (clock : Timestamp)
    (task : ProcessingTask) : Bool :=
  (task.status = .pending ∨ task.status = .retryWait) ∧ task.availableAt ≤ clock ∧
    task.lease.all (fun lease => lease.2 ≤ clock) ∧ tables.caseVersion = task.caseVersion ∧
      documentCurrent documents task

/-- A running task whose lease the sweep sees as expired. -/
def stranded (now : Timestamp) (task : ProcessingTask) : Bool :=
  task.status = .running ∧ task.lease.any fun lease => lease.2 ≤ now

/-! ## The writes -/

/-- The microseconds of `interval '1 second'`. -/
def second : Timestamp := 1000000

/-- What a claim sets. -/
def claimTask (leaseToken : Uuid) (leaseUntil : Timestamp) (task : ProcessingTask) :
    ProcessingTask :=
  { task with
    status := .running
    attemptCount := task.attemptCount + 1
    lease := some (leaseToken, leaseUntil) }

/-- What a renewal sets. -/
def extendTask (leaseToken : Uuid) (leaseUntil : Timestamp) (task : ProcessingTask) :
    ProcessingTask :=
  { task with lease := some (leaseToken, leaseUntil) }

/-- What a terminal update sets. -/
def closeTask (status : TaskStatus) (task : ProcessingTask) : ProcessingTask :=
  { task with status, lease := none }

/-- What a retry sets: another attempt after a delay that doubles with each one, or manual review when
the attempts are used up. -/
def retryTask (now : Timestamp) (baseDelaySeconds : Nat) (task : ProcessingTask) : ProcessingTask :=
  if task.attemptCount ≥ task.maxAttempts then
    { task with status := .failedManualReview, lease := none }
  else
    { task with
      status := .retryWait
      availableAt := now + baseDelaySeconds * 2 ^ (task.attemptCount - 1) * second
      lease := none }

/-- `update … where guard returning id`; `none` when no row matched. -/
def updateTasks (tables : CaseTables) (guard : ProcessingTask → Bool)
    (set : ProcessingTask → ProcessingTask) : Option CaseTables :=
  if tables.tasks.any guard then
    some { tables with tasks := tables.tasks.map fun task => if guard task then set task else task }
  else none

/-! ## The operations -/

section Operations

variable (tables : CaseTables) (clock : Timestamp)

/-- `claim` -/
def claim (documents : List LiveDocument) (envelope : TaskEnvelope) (leaseToken : Uuid)
    (leaseUntil : Timestamp) : Option CaseTables :=
  updateTasks tables (fun task => inScope tables envelope task && claimable tables documents clock task)
    (claimTask leaseToken leaseUntil)

/-- An update that only the holder of the lease may make. -/
def updateOwned (envelope : TaskEnvelope) (leaseToken : Uuid)
    (set : ProcessingTask → ProcessingTask) : Option CaseTables :=
  updateTasks tables (fun task => inScope tables envelope task && ownedBy leaseToken clock task) set

/-- `extend_task_lease`; `none` is a `TaskLeaseLost`. -/
def extendTaskLease (envelope : TaskEnvelope) (leaseToken : Uuid) (leaseUntil : Timestamp) :
    Option CaseTables :=
  updateOwned tables clock envelope leaseToken (extendTask leaseToken leaseUntil)

/-- `succeed`; `none` is a `TaskLeaseLost`. -/
def succeed (envelope : TaskEnvelope) (leaseToken : Uuid) : Option CaseTables :=
  updateOwned tables clock envelope leaseToken (closeTask .succeeded)

/-- `mark_superseded`; `none` is a `TaskLeaseLost`. -/
def markSuperseded (envelope : TaskEnvelope) (leaseToken : Uuid) : Option CaseTables :=
  updateOwned tables clock envelope leaseToken (closeTask .superseded)

/-- `retry_or_fail`; `none` is a `TaskLeaseLost`. -/
def retryOrFail (envelope : TaskEnvelope) (leaseToken : Uuid) (now : Timestamp)
    (baseDelaySeconds : Nat) : Option CaseTables :=
  updateOwned tables clock envelope leaseToken (retryTask now baseDelaySeconds)

/-- `_RECLAIM_RETRY_BASE_DELAY_SECONDS` -/
def reclaimRetryBaseDelaySeconds : Nat := 30

/-- `reclaim_stranded`: the sweep over every task, by the clock of the worker that runs it. -/
def reclaimStranded (now : Timestamp) : CaseTables :=
  { tables with
    tasks := tables.tasks.map fun task =>
      if stranded now task then retryTask now reclaimRetryBaseDelaySeconds task else task }

/-- `get`, within the case. -/
def getTask (taskId caseId : Uuid) : Option ProcessingTask :=
  if tables.caseId = caseId then tables.tasks.find? (·.id = taskId) else none

/-- `latest_checkpoint`: the row of the highest sequence number. Rows stand newest first. -/
def latestCheckpoint (checkpoints : List TaskCheckpoint) (envelope : TaskEnvelope) :
    Option TaskCheckpoint :=
  ((checkpoints.filter fun row =>
    row.taskId = envelope.taskId ∧ row.caseId = envelope.caseId ∧
      row.caseVersion = envelope.caseVersion ∧
        some row.documentVersionId = envelope.documentVersionId).insertionSort
          fun a b => b.sequenceNo ≤ a.sequenceNo).head?

/-- `checkpoint`: the row it inserts. The column `document_version_id` is not null, so a task without a
document cannot have one. -/
def checkpoint (documents : List LiveDocument) (checkpoints : List TaskCheckpoint)
    (envelope : TaskEnvelope) (leaseToken : Uuid) (sequenceNo : Nat)
    (checkpointType checkpointData : String) : Except CheckpointError TaskCheckpoint :=
  match tables.tasks.find? fun task =>
      inScope tables envelope task && ownedBy leaseToken clock task &&
        decide (tables.caseVersion = task.caseVersion) && documentCurrent documents task with
  | none => .error (.staleTask "task or document version is no longer current")
  | some task =>
    match task.documentVersionId with
    | none => .error (.sql (.notNullViolation "document_version_id"))
    | some documentVersionId =>
      if checkpoints.any fun row => row.taskId = task.id ∧ row.sequenceNo = sequenceNo then
        .error (.sql (.uniqueViolation "task_checkpoints_task_sequence_key"))
      else
        .ok { taskId := task.id
              caseId := tables.caseId
              caseVersion := task.caseVersion
              documentVersionId
              sequenceNo
              checkpointType
              checkpointSchemaVersion := "1"
              checkpointData
              createdAt := clock }

end Operations

/-! ## What can happen to a row -/

/-- A move of one row, at a clock reading and a case version. -/
inductive TaskMove (clock : Timestamp) (current : CaseVersion) :
    ProcessingTask → ProcessingTask → Prop where
  | stays (task : ProcessingTask) : TaskMove clock current task task
  | claimed (task : ProcessingTask) (leaseToken : Uuid) (leaseUntil : Timestamp)
      (hwaiting : task.status = .pending ∨ task.status = .retryWait)
      (hcur : current = task.caseVersion) :
      TaskMove clock current task (claimTask leaseToken leaseUntil task)
  | extended (task : ProcessingTask) (leaseToken : Uuid) (leaseUntil : Timestamp)
      (howned : ownedBy leaseToken clock task = true) :
      TaskMove clock current task (extendTask leaseToken leaseUntil task)
  | closed (task : ProcessingTask) (leaseToken : Uuid) (status : TaskStatus)
      (hstat : status = .succeeded ∨ status = .superseded)
      (howned : ownedBy leaseToken clock task = true) :
      TaskMove clock current task (closeTask status task)
  | retried (task : ProcessingTask) (now : Timestamp) (baseDelaySeconds : Nat)
      (hrunning : task.status = .running) :
      TaskMove clock current task (retryTask now baseDelaySeconds task)

section Moves

variable {clock : Timestamp} {current : CaseVersion} {task task' : ProcessingTask}

theorem ownedBy_iff {leaseToken : Uuid} :
    ownedBy leaseToken clock task = true ↔
      task.status = .running ∧ ∃ leaseUntil, task.lease = some (leaseToken, leaseUntil) ∧
        clock < leaseUntil := by
  rw [ownedBy, decide_eq_true_eq, Option.any_eq_true]
  constructor
  · rintro ⟨hrunning, ⟨token, leaseUntil⟩, hlease, hmatch⟩
    obtain ⟨rfl, hlive⟩ := of_decide_eq_true hmatch
    exact ⟨hrunning, leaseUntil, hlease, hlive⟩
  · rintro ⟨hrunning, leaseUntil, hlease, hlive⟩
    exact ⟨hrunning, (leaseToken, leaseUntil), hlease, decide_eq_true ⟨rfl, hlive⟩⟩

theorem retryTask_cases (now : Timestamp) (baseDelaySeconds : Nat) (task : ProcessingTask) :
    (task.maxAttempts ≤ task.attemptCount ∧
      (retryTask now baseDelaySeconds task).status = .failedManualReview) ∨
      (task.attemptCount < task.maxAttempts ∧
        (retryTask now baseDelaySeconds task).status = .retryWait) := by
  unfold retryTask
  split
  · rename_i hused
    exact Or.inl ⟨hused, rfl⟩
  · rename_i hleft
    exact Or.inr ⟨Nat.lt_of_not_ge hleft, rfl⟩

theorem retryTask_frame (now : Timestamp) (baseDelaySeconds : Nat) (task : ProcessingTask) :
    (retryTask now baseDelaySeconds task).id = task.id ∧
      (retryTask now baseDelaySeconds task).caseVersion = task.caseVersion ∧
      (retryTask now baseDelaySeconds task).documentVersionId = task.documentVersionId ∧
      (retryTask now baseDelaySeconds task).attemptCount = task.attemptCount ∧
      (retryTask now baseDelaySeconds task).maxAttempts = task.maxAttempts ∧
      (retryTask now baseDelaySeconds task).lease = none := by
  unfold retryTask
  split <;> exact ⟨rfl, rfl, rfl, rfl, rfl, rfl⟩

/-- **The identity of a row never changes.** -/
theorem TaskMove.frame (h : TaskMove clock current task task') :
    task'.id = task.id ∧ task'.caseVersion = task.caseVersion ∧
      task'.documentVersionId = task.documentVersionId := by
  cases h with
  | stays | claimed | extended | closed => exact ⟨rfl, rfl, rfl⟩
  | retried now baseDelaySeconds =>
    obtain ⟨hid, hver, hdoc, -⟩ := retryTask_frame now baseDelaySeconds task
    exact ⟨hid, hver, hdoc⟩

/-- **A finished row never moves.** -/
theorem TaskMove.eq_of_isTerminal (h : TaskMove clock current task task')
    (hterm : isTerminal task.status = true) : task' = task := by
  cases h with
  | stays => rfl
  | claimed _ _ hwaiting =>
    rcases hwaiting with hstat | hstat
    all_goals
      rw [hstat] at hterm
      cases hterm
  | extended _ _ howned | closed _ _ _ howned =>
    rw [(ownedBy_iff.1 howned).1] at hterm
    cases hterm
  | retried _ _ hrunning =>
    rw [hrunning] at hterm
    cases hterm

/-- The row keeps within its attempts, has one left while it waits, and holds a lease exactly when it
runs. -/
structure WellFormed (task : ProcessingTask) : Prop where
  attempts : task.attemptCount ≤ task.maxAttempts
  waiting : task.status = .pending ∨ task.status = .retryWait → task.attemptCount < task.maxAttempts
  leased : task.status = .running ↔ task.lease.isSome = true

/-- **Every move keeps a row well formed.** -/
theorem TaskMove.wellFormed (h : TaskMove clock current task task') (hwell : WellFormed task) :
    WellFormed task' := by
  cases h with
  | stays => exact hwell
  | claimed _ _ hwaiting =>
    refine ⟨hwell.waiting hwaiting, ?_, ⟨fun _ => rfl, fun _ => rfl⟩⟩
    rintro (hstat | hstat) <;> cases hstat
  | extended _ _ howned =>
    have hrunning := (ownedBy_iff.1 howned).1
    exact ⟨hwell.attempts, hwell.waiting, ⟨fun _ => rfl, fun _ => hrunning⟩⟩
  | closed _ status hstat =>
    refine ⟨hwell.attempts, ?_, ?_⟩
    · change status = .pending ∨ status = .retryWait → _
      rcases hstat with rfl | rfl
      all_goals rintro (hwait | hwait) <;> cases hwait
    · change status = .running ↔ false = true
      rcases hstat with rfl | rfl <;> decide
  | retried now baseDelaySeconds =>
    obtain ⟨-, -, -, hatts, hmax, hlease⟩ := retryTask_frame now baseDelaySeconds task
    rcases retryTask_cases now baseDelaySeconds task with ⟨hused, hstat⟩ | ⟨hleft, hstat⟩
    · refine ⟨?_, ?_, ?_⟩
      · rw [hatts, hmax]
        exact hwell.attempts
      · rw [hstat]
        rintro (hwait | hwait) <;> cases hwait
      · rw [hstat, hlease]
        decide
    · refine ⟨?_, ?_, ?_⟩
      · rw [hatts, hmax]
        exact hwell.attempts
      · intro _
        rw [hatts, hmax]
        exact hleft
      · rw [hstat, hlease]
        decide

end Moves

/-! ## Every operation moves rows -/

/-- The tasks after an operation are those before it, each after a move. -/
def Moved (clock : Timestamp) (tables tables' : CaseTables) : Prop :=
  ∃ move : ProcessingTask → ProcessingTask,
    tables' = { tables with tasks := tables.tasks.map move } ∧
      ∀ task ∈ tables.tasks, TaskMove clock tables.caseVersion task (move task)

section Operations

variable {tables tables' : CaseTables} {clock : Timestamp}

theorem Moved.refl (tables : CaseTables) (clock : Timestamp) : Moved clock tables tables := by
  refine ⟨id, ?_, fun task _ => TaskMove.stays task⟩
  rw [List.map_id]

variable {set : ProcessingTask → ProcessingTask}

/-- An update moves the rows its guard lets through. -/
theorem updateTasks_moved {guard : ProcessingTask → Bool}
    (hset : ∀ task ∈ tables.tasks, guard task = true → TaskMove clock tables.caseVersion task (set task))
    (h : updateTasks tables guard set = some tables') : Moved clock tables tables' := by
  unfold updateTasks at h
  split at h
  · cases h
    refine ⟨_, rfl, ?_⟩
    intro task hmem
    split
    · rename_i hguard
      exact hset task hmem hguard
    · exact TaskMove.stays task
  · cases h

variable {documents : List LiveDocument} {envelope : TaskEnvelope} {leaseToken : Uuid}

theorem claim_moved {leaseUntil : Timestamp}
    (h : claim tables clock documents envelope leaseToken leaseUntil = some tables') :
    Moved clock tables tables' := by
  refine updateTasks_moved ?_ h
  intro task _ hguard
  obtain ⟨hwaiting, -, -, hcur, -⟩ := of_decide_eq_true (Bool.and_eq_true_iff.1 hguard).2
  exact TaskMove.claimed task leaseToken leaseUntil hwaiting hcur

theorem updateOwned_moved
    (hset : ∀ task ∈ tables.tasks, ownedBy leaseToken clock task = true → TaskMove clock tables.caseVersion task (set task))
    (h : updateOwned tables clock envelope leaseToken set = some tables') :
    Moved clock tables tables' :=
  updateTasks_moved (fun task hmem hguard => hset task hmem (Bool.and_eq_true_iff.1 hguard).2) h

theorem reclaimStranded_moved (now : Timestamp) :
    Moved clock tables (reclaimStranded tables now) := by
  refine ⟨_, rfl, ?_⟩
  intro task _
  split
  · rename_i hstranded
    exact TaskMove.retried task now _ (of_decide_eq_true hstranded).1
  · exact TaskMove.stays task

/-- **A lost lease changes nothing.** When no row of the task holds the token, unexpired, an update
presented with it is refused. -/
theorem updateOwned_eq_none
    (hlost : ∀ task ∈ tables.tasks, task.id = envelope.taskId → task.lease.map (·.1) ≠ some leaseToken) :
    updateOwned tables clock envelope leaseToken set = none := by
  rw [updateOwned, updateTasks, if_neg]
  intro hany
  obtain ⟨task, hmem, hguard⟩ := List.any_eq_true.1 hany
  obtain ⟨hscope, howned⟩ := Bool.and_eq_true_iff.1 hguard
  obtain ⟨-, leaseUntil, hlease, -⟩ := ownedBy_iff.1 howned
  apply hlost task hmem (of_decide_eq_true hscope).1
  rw [hlease]
  rfl

variable {checkpoints : List TaskCheckpoint} {sequenceNo : Nat} {checkpointData checkpointType : String}

theorem checkpoint_error_of_lost
    (hlost : ∀ task ∈ tables.tasks, task.id = envelope.taskId → task.lease.map (·.1) ≠ some leaseToken) :
    checkpoint tables clock documents checkpoints envelope leaseToken sequenceNo checkpointType
      checkpointData = .error (.staleTask "task or document version is no longer current") := by
  have hnone : (tables.tasks.find? fun task =>
      inScope tables envelope task && ownedBy leaseToken clock task &&
        decide (tables.caseVersion = task.caseVersion) && documentCurrent documents task) = none := by
    rw [List.find?_eq_none]
    intro task hmem hguard
    simp only [Bool.and_eq_true] at hguard
    obtain ⟨⟨⟨hscope, howned⟩, -⟩, -⟩ := hguard
    obtain ⟨-, leaseUntil, hlease, -⟩ := ownedBy_iff.1 howned
    apply hlost task hmem (of_decide_eq_true hscope).1
    rw [hlease]
    rfl
  rw [checkpoint, hnone]

/-- What a checkpoint that is written says: it stands for a running task of the envelope, owned by the
presented token, and its sequence number was free. -/
theorem checkpoint_ok {row : TaskCheckpoint}
    (h : checkpoint tables clock documents checkpoints envelope leaseToken sequenceNo checkpointType checkpointData = .ok row) :
    ∃ task ∈ tables.tasks, inScope tables envelope task = true ∧
      ownedBy leaseToken clock task = true ∧ row.taskId = task.id ∧ row.sequenceNo = sequenceNo ∧
      row.caseId = tables.caseId ∧ row.caseVersion = task.caseVersion ∧
      some row.documentVersionId = task.documentVersionId ∧
      ∀ other ∈ checkpoints, other.taskId = task.id → other.sequenceNo ≠ sequenceNo := by
  unfold checkpoint at h
  split at h
  · cases h
  rename_i task hfind
  have hguard := List.find?_some (p := fun task : ProcessingTask =>
    inScope tables envelope task && ownedBy leaseToken clock task &&
      decide (tables.caseVersion = task.caseVersion) && documentCurrent documents task) hfind
  simp only [Bool.and_eq_true] at hguard
  obtain ⟨⟨⟨hscope, howned⟩, -⟩, -⟩ := hguard
  split at h
  · cases h
  rename_i documentVersionId hdoc
  split at h
  · cases h
  rename_i hfree
  cases h
  refine ⟨task, List.mem_of_find?_eq_some hfind, hscope, howned, rfl, rfl, rfl, rfl,
    hdoc.symm, ?_⟩
  intro other hother hsame hsequence
  exact hfree (List.any_eq_true.2 ⟨other, hother, decide_eq_true ⟨hsame, hsequence⟩⟩)

end Operations

end CreditOps.Workers
