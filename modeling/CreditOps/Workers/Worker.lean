import CreditOps.Library.Transition
import CreditOps.Orchestration.Revision
import CreditOps.Workers.Tasks

/-!
# Workers on one queue

`RunWorkerOnce.run_once`, cut at its transactions. A worker takes the single worker slot, sweeps
stranded tasks, reads one message, claims its task, renews its leases, reads the latest checkpoint, and
then lets the processor of the task run: the processor saves checkpoints while a heartbeat renews the
leases, and reports an outcome. The outcome is written to the task first and the message is archived
after it. Every exit of the source is a stage here: an unclaimable message, a lost lease, an exception
and the retry it asks for, and a crash, which is a worker that takes no further step.
-/

set_option autoImplicit false

namespace CreditOps.Workers

open Orchestration PartialMap

/-! ## The state -/

/-- `WorkerOutcome` -/
inductive WorkerOutcome where
  | noSlot
  | noMessage
  | succeeded
  | superseded
  | retryWait
  | failedManualReview
  | stale
deriving DecidableEq

/-- A message of the queue; a reader sees it from `visibleAt` on. -/
structure QueueMessage where
  messageId : Nat
  visibleAt : Timestamp
  envelope : TaskEnvelope
deriving DecidableEq

/-- The one row of `worker_slots`, while it is leased. -/
structure WorkerSlot where
  leaseOwner : Uuid
  leaseToken : Uuid
  leaseUntil : Timestamp
deriving DecidableEq

/-- The three parts of a renewal, in the order `_renew` makes them. -/
inductive Renewal where
  | taskLease
  | workerSlot
  | visibility
deriving DecidableEq

/-- A whole `_renew`. -/
def renewals : List Renewal := [.taskLease, .workerSlot, .visibility]

/-- Where a worker stands. The renewals still to be made come before anything else. -/
inductive WorkerStage where
  | slotHeld
  | swept
  | delivered (message : QueueMessage)
  | unclaimed (message : QueueMessage)
  | claimed (message : QueueMessage) (pending : List Renewal)
  | processing (message : QueueMessage) (latest : Option TaskCheckpoint) (pending : List Renewal)
  | reported (message : QueueMessage) (outcome : WorkerOutcome)
  | failing (message : QueueMessage)
  | recovering (message : QueueMessage)
  | archiving (message : QueueMessage)
  | finished
deriving DecidableEq

/-- One `run_once`. -/
structure WorkerRun where
  owner : Uuid
  retryBaseDelaySeconds : Nat
  stage : WorkerStage
deriving DecidableEq

/-- The tables of the case, the queue and the workers, by lease token. Checkpoints stand newest first;
`clock` is what `statement_timestamp()` reads. -/
structure System where
  clock : Timestamp
  tables : CaseTables
  documents : List LiveDocument
  checkpoints : List TaskCheckpoint
  slot : Option WorkerSlot
  queue : List QueueMessage
  archive : List QueueMessage
  workers : Uuid → Option WorkerRun

/-! ## The worker slot -/

/-- `try_acquire_worker_slot`; `none` when the slot is taken or the requested expiry is not in the
future. -/
def tryAcquireWorkerSlot (slot : Option WorkerSlot) (clock : Timestamp) (owner leaseToken : Uuid)
    (leaseUntil : Timestamp) : Option WorkerSlot :=
  if clock < leaseUntil ∧ slot.all fun held =>
      held.leaseUntil ≤ clock ∨ (held.leaseOwner = owner ∧ held.leaseToken = leaseToken) then
    some ⟨owner, leaseToken, leaseUntil⟩
  else none

/-- The slot is leased to the worker and the lease has not expired. -/
def slotLive (slot : Option WorkerSlot) (clock : Timestamp) (owner leaseToken : Uuid) : Bool :=
  slot.any fun held => held.leaseOwner = owner ∧ held.leaseToken = leaseToken ∧ clock < held.leaseUntil

/-- `extend_worker_slot`; `none` when the slot is no longer owned. -/
def extendWorkerSlot (slot : Option WorkerSlot) (clock : Timestamp) (owner leaseToken : Uuid)
    (leaseUntil : Timestamp) : Option WorkerSlot :=
  if slotLive slot clock owner leaseToken then some ⟨owner, leaseToken, leaseUntil⟩ else none

/-- `release_worker_slot` -/
def releaseWorkerSlot (slot : Option WorkerSlot) (owner leaseToken : Uuid) : Option WorkerSlot :=
  slot.filter fun held => ¬ (held.leaseOwner = owner ∧ held.leaseToken = leaseToken)

/-! ## The queue -/

/-- `pgmq.set_vt`: the message becomes visible at the given time. -/
def setVisibility (queue : List QueueMessage) (messageId : Nat) (visibleAt : Timestamp) :
    List QueueMessage :=
  queue.map fun message =>
    if message.messageId = messageId then { message with visibleAt } else message

/-- Drop a message from the queue. -/
def dropMessage (queue : List QueueMessage) (messageId : Nat) : List QueueMessage :=
  queue.filter (·.messageId ≠ messageId)

/-! ## Worker actions -/

/-- One transaction of a worker, with the clock readings and the processor's answers it depends on. -/
inductive WorkerAction where
  | reclaimStranded (now : Timestamp)
  | readOne (messageId : Nat) (visibleUntil : Timestamp)
  | readNothing
  | claim (leaseUntil : Timestamp)
  | getUnclaimed
  | renew (leaseUntil : Timestamp)
  | heartbeat (renewal : Renewal) (leaseUntil : Timestamp)
  | latestCheckpoint
  | saveCheckpoint (checkpointType checkpointData : String)
  | report (outcome : WorkerOutcome)
  | raise
  | settle (now : Timestamp)
  | getFailed
  | recover (now : Timestamp)
  | archive
  | abort
  | releaseSlot
  | crash
deriving DecidableEq

namespace System

/-- The worker goes on to a stage. -/
def goTo (s : System) (leaseToken : Uuid) (run : WorkerRun) (stage : WorkerStage) : System :=
  { s with workers := Function.update s.workers leaseToken (some { run with stage }) }

/-- One renewal; `none` is a lost lease. -/
def renewOnce (s : System) (leaseToken : Uuid) (run : WorkerRun) (message : QueueMessage)
    (leaseUntil : Timestamp) : Renewal → Option System
  | .taskLease =>
    (extendTaskLease s.tables s.clock message.envelope leaseToken leaseUntil).map fun tables =>
      { s with tables }
  | .workerSlot =>
    (extendWorkerSlot s.slot s.clock run.owner leaseToken leaseUntil).map fun slot =>
      { s with slot := some slot }
  | .visibility => some { s with queue := setVisibility s.queue message.messageId leaseUntil }

/-- The worker goes on after a renewal, or abandons its work when the lease is lost. -/
def renewThen (s : System) (leaseToken : Uuid) (run : WorkerRun) (message : QueueMessage)
    (leaseUntil : Timestamp) (renewal : Renewal) (stage : WorkerStage) : System :=
  match s.renewOnce leaseToken run message leaseUntil renewal with
  | some renewed => renewed.goTo leaseToken run stage
  | none => s.goTo leaseToken run .finished

/-- The write that settles an outcome; `none` is a lost lease. -/
def settleOutcome (s : System) (leaseToken : Uuid) (run : WorkerRun) (message : QueueMessage)
    (now : Timestamp) : WorkerOutcome → Option CaseTables
  | .superseded => markSuperseded s.tables s.clock message.envelope leaseToken
  | .succeeded => succeed s.tables s.clock message.envelope leaseToken
  | _ => retryOrFail s.tables s.clock message.envelope leaseToken now run.retryBaseDelaySeconds

/-- The task of a message, as the worker reads it. -/
def taskOf (s : System) (message : QueueMessage) : Option ProcessingTask :=
  getTask s.tables message.envelope.taskId message.envelope.caseId

/-- The message of a stage in which an exception has to be dealt with. -/
def raisable : WorkerStage → Option QueueMessage
  | .delivered message | .unclaimed message | .claimed message _ | .processing message _ _
  | .reported message _ | .archiving message => some message
  | .slotHeld | .swept | .failing _ | .recovering _ | .finished => none

/-- After a retry or a failure, the message is archived when the task went to manual review. -/
def afterRetry (s : System) (leaseToken : Uuid) (run : WorkerRun) (message : QueueMessage) : System :=
  match s.taskOf message with
  | some task =>
    if task.status = .failedManualReview then s.goTo leaseToken run (.archiving message)
    else s.goTo leaseToken run .finished
  | none => s.goTo leaseToken run .finished

/-- One action of a worker; `none` when the worker is not at that point. -/
def act (s : System) (leaseToken : Uuid) (run : WorkerRun) (action : WorkerAction) :
    Option System :=
  match action, run.stage with
  | .reclaimStranded now, .slotHeld =>
    some ({ s with tables := reclaimStranded s.tables now }.goTo leaseToken run .swept)
  | .readOne messageId visibleUntil, .swept =>
    -- a read skips what a concurrent read has locked, so any visible message may be the one
    (s.queue.find? fun message => message.messageId = messageId ∧ message.visibleAt ≤ s.clock).map
      fun message =>
        { s with queue := setVisibility s.queue messageId visibleUntil }.goTo leaseToken run
          (.delivered message)
  | .readNothing, .swept =>
    if s.queue.any (·.visibleAt ≤ s.clock) then none else some (s.goTo leaseToken run .finished)
  | .claim leaseUntil, .delivered message =>
    match claim s.tables s.clock s.documents message.envelope leaseToken leaseUntil with
    | some tables => some ({ s with tables }.goTo leaseToken run (.claimed message renewals))
    | none => some (s.goTo leaseToken run (.unclaimed message))
  | .getUnclaimed, .unclaimed message =>
    match s.taskOf message with
    | some task =>
      if isTerminal task.status then some (s.goTo leaseToken run (.archiving message))
      else some (s.goTo leaseToken run .finished)
    | none => some (s.goTo leaseToken run .finished)
  | .renew leaseUntil, .claimed message (renewal :: pending) =>
    some (s.renewThen leaseToken run message leaseUntil renewal (.claimed message pending))
  | .renew leaseUntil, .processing message latest (renewal :: pending) =>
    some (s.renewThen leaseToken run message leaseUntil renewal (.processing message latest pending))
  | .heartbeat renewal leaseUntil, .processing message latest pending =>
    some (s.renewThen leaseToken run message leaseUntil renewal (.processing message latest pending))
  | .latestCheckpoint, .claimed message [] =>
    some (s.goTo leaseToken run
      (.processing message (latestCheckpoint s.checkpoints message.envelope) []))
  | .saveCheckpoint checkpointType checkpointData, .processing message latest [] =>
    match checkpoint s.tables s.clock s.documents s.checkpoints message.envelope leaseToken
        (latest.elim 1 (·.sequenceNo + 1)) checkpointType checkpointData with
    | .ok row =>
      some ({ s with checkpoints := row :: s.checkpoints }.goTo leaseToken run
        (.processing message (some row) renewals))
    | .error (.staleTask _) => some (s.goTo leaseToken run .finished)
    | .error (.sql _) => some (s.goTo leaseToken run (.failing message))
  | .report outcome, .processing message _ [] =>
    some (s.goTo leaseToken run (.reported message outcome))
  | .raise, stage => (raisable stage).map fun message => s.goTo leaseToken run (.failing message)
  | .settle now, .reported message outcome =>
    match s.settleOutcome leaseToken run message now outcome with
    | none => some (s.goTo leaseToken run .finished)
    | some tables =>
      match outcome with
      | .succeeded | .superseded =>
        some ({ s with tables }.goTo leaseToken run (.archiving message))
      | _ => some ({ s with tables }.afterRetry leaseToken run message)
  | .getFailed, .failing message =>
    if (s.taskOf message).any fun task => task.lease.any (·.1 = leaseToken) then
      some (s.goTo leaseToken run (.recovering message))
    else some (s.goTo leaseToken run .finished)
  | .recover now, .recovering message =>
    match retryOrFail s.tables s.clock message.envelope leaseToken now run.retryBaseDelaySeconds with
    | some tables => some ({ s with tables }.afterRetry leaseToken run message)
    | none => some (s.goTo leaseToken run .finished)
  | .archive, .archiving message =>
    if s.queue.any (·.messageId = message.messageId) then
      some ({ s with
              queue := dropMessage s.queue message.messageId
              archive := message :: s.archive }.goTo leaseToken run .finished)
    else some (s.goTo leaseToken run (.failing message))
  | .releaseSlot, .finished =>
    some { s with
           slot := releaseWorkerSlot s.slot run.owner leaseToken
           workers := Function.update s.workers leaseToken none }
  -- an exception that reaches the caller, or a cancellation, still releases the slot
  | .abort, _ => some (s.goTo leaseToken run .finished)
  | .crash, _ => some { s with workers := Function.update s.workers leaseToken none }
  | _, _ => none

end System

/-! ## Requests -/

/-- One transaction of the system. The requests after `worker` come from elsewhere: time passes, a
dispatcher sends a message, tasks are created, documents become stale, the case moves on, and whatever
else its other tables see. -/
inductive Request where
  | acquireSlot (leaseToken owner : Uuid) (retryBaseDelaySeconds : Nat) (leaseUntil : Timestamp)
  | worker (leaseToken : Uuid) (action : WorkerAction)
  | tick (elapsed : Timestamp)
  | send (messageId : Nat) (envelope : TaskEnvelope) (visibleAt : Timestamp)
  | createTask (taskId : Uuid) (caseVersion : CaseVersion) (taskType : TaskType) (key : TaskKey)
      (now : Timestamp) (dependsOn : List Uuid)
  | registerIngestion (taskId documentVersionId : Uuid) (caseVersion : CaseVersion)
      (now : Timestamp)
  | staleDocument (document : LiveDocument)
  | bumpCaseVersion (revision : RevisionRequest) (handoffId : Uuid)
  | otherWrites (tables : CaseTables)
deriving DecidableEq

/-- The row `create_task` inserts. -/
def agentTask (taskId : Uuid) (caseVersion : CaseVersion) (taskType : TaskType) (key : TaskKey)
    (now : Timestamp) : ProcessingTask where
  id := taskId
  caseVersion
  documentVersionId := none
  taskType
  status := .pending
  attemptCount := 0
  maxAttempts := 3
  availableAt := now
  lease := none
  idempotencyKey := key

/-- The row of a new ingestion task. -/
def ingestionTask (taskId documentVersionId : Uuid) (caseVersion : CaseVersion) (now : Timestamp) :
    ProcessingTask where
  id := taskId
  caseVersion
  documentVersionId := some documentVersionId
  taskType := .documentIngestion
  status := .pending
  attemptCount := 0
  maxAttempts := 3
  availableAt := now
  lease := none
  idempotencyKey := .ingestion documentVersionId

namespace System

/-- The step function; `none` for a request that is not at that point or is refused. -/
def step (s : System) : Request → Option System
  | .acquireSlot leaseToken owner retryBaseDelaySeconds leaseUntil =>
    match s.workers leaseToken with
    | some _ => none
    | none =>
      (tryAcquireWorkerSlot s.slot s.clock owner leaseToken leaseUntil).map fun slot =>
        { s with
          slot := some slot
          workers := Function.update s.workers leaseToken
            (some ⟨owner, retryBaseDelaySeconds, .slotHeld⟩) }
  | .worker leaseToken action =>
    (s.workers leaseToken).bind fun run => s.act leaseToken run action
  | .tick elapsed => some { s with clock := s.clock + elapsed }
  | .send messageId envelope visibleAt =>
    if (s.queue ++ s.archive).any (·.messageId = messageId) then none
    else some { s with queue := s.queue ++ [⟨messageId, visibleAt, envelope⟩] }
  | .createTask taskId caseVersion taskType key now dependsOn =>
    if s.tables.tasks.any (·.id = taskId) ∨ taskType = .documentIngestion then none
    else some { s with
                tables := s.tables.createTask taskId caseVersion taskType key now dependsOn }
  | .registerIngestion taskId documentVersionId caseVersion now =>
    if s.tables.tasks.any (·.id = taskId) ∨
        ¬ s.tables.keyFree (.ingestion documentVersionId) then none
    else
      some { s with
             tables := { s.tables with
              tasks := s.tables.tasks ++
                [ingestionTask taskId documentVersionId caseVersion now] }
             documents := ⟨documentVersionId, caseVersion⟩ :: s.documents }
  | .staleDocument document => some { s with documents := s.documents.filter (· ≠ document) }
  | .bumpCaseVersion revision handoffId =>
    match s.tables.bumpCaseVersion revision handoffId with
    | .ok tables => some { s with tables }
    | .error _ => none
  | .otherWrites tables =>
    if tables.caseId = s.tables.caseId ∧ tables.caseVersion = s.tables.caseVersion ∧
        tables.tasks = s.tables.tasks then some { s with tables }
    else none

/-- A case without tasks, an empty queue and no worker. -/
def idle (tables : CaseTables) : System where
  clock := 0
  tables := { tables with tasks := [] }
  documents := []
  checkpoints := []
  slot := none
  queue := []
  archive := []
  workers := fun _ => none

/-! ## What an action can do -/

/-- The stages in which a worker has given its task up, or never had one. -/
def idleStage : WorkerStage → Bool
  | .unclaimed _ | .failing _ | .recovering _ | .finished => true
  | _ => false

/-- The message a worker is busy with. -/
def held : WorkerStage → Option QueueMessage
  | .delivered message | .unclaimed message | .claimed message _ | .processing message _ _
  | .reported message _ | .failing message | .recovering message | .archiving message => some message
  | .slotHeld | .swept | .finished => none

variable {message : QueueMessage}

theorem held_of_raisable {stage : WorkerStage} (h : raisable stage = some message) :
    held stage = some message := by
  cases stage <;> first | exact h | cases h

/-- A renewal leaves the worker where it was, or takes the renewal off the pending ones. -/
inductive Renewing (renewal : Renewal) (message : QueueMessage) : WorkerStage → WorkerStage → Prop where
  | claimed (pending : List Renewal) :
      Renewing renewal message (.claimed message (renewal :: pending)) (.claimed message pending)
  | processing (latest : Option TaskCheckpoint) (pending : List Renewal) :
      Renewing renewal message (.processing message latest (renewal :: pending))
        (.processing message latest pending)
  | heartbeat (latest : Option TaskCheckpoint) (pending : List Renewal) :
      Renewing renewal message (.processing message latest pending)
        (.processing message latest pending)

/-- **The inversion of an action.** -/
inductive Acted (s : System) (leaseToken : Uuid) (run : WorkerRun) : System → Prop where
  | reclaimed (now : Timestamp) :
      Acted s leaseToken run
        ({ s with tables := reclaimStranded s.tables now }.goTo leaseToken run .swept)
  | delivered (message : QueueMessage) (visibleUntil : Timestamp) (hmem : message ∈ s.queue) :
      Acted s leaseToken run
        ({ s with queue := setVisibility s.queue message.messageId visibleUntil }.goTo leaseToken run
          (.delivered message))
  | claimed (message : QueueMessage) (leaseUntil : Timestamp) (tables : CaseTables)
      (hstage : run.stage = .delivered message)
      (hclaim : claim s.tables s.clock s.documents message.envelope leaseToken leaseUntil =
        some tables) :
      Acted s leaseToken run ({ s with tables }.goTo leaseToken run (.claimed message renewals))
  | idles (stage : WorkerStage) (hidle : idleStage stage = true)
      (hheld : ∀ message, held stage = some message → held run.stage = some message) :
      Acted s leaseToken run (s.goTo leaseToken run stage)
  | foundTerminal (message : QueueMessage) (task : ProcessingTask)
      (hstage : run.stage = .unclaimed message) (htask : s.taskOf message = some task) (hterm : isTerminal task.status = true) :
      Acted s leaseToken run (s.goTo leaseToken run (.archiving message))
  | renewed (message : QueueMessage) (leaseUntil : Timestamp) (renewal : Renewal) (s' : System)
      (stage : WorkerStage) (hrenewing : Renewing renewal message run.stage stage)
      (hrenew : s.renewOnce leaseToken run message leaseUntil renewal = some s') :
      Acted s leaseToken run (s'.goTo leaseToken run stage)
  | loaded (message : QueueMessage) (hstage : run.stage = .claimed message []) :
      Acted s leaseToken run
        (s.goTo leaseToken run
          (.processing message (latestCheckpoint s.checkpoints message.envelope) []))
  | saved (message : QueueMessage) (latest : Option TaskCheckpoint)
      (checkpointType checkpointData : String) (row : TaskCheckpoint)
      (hstage : run.stage = .processing message latest [])
      (hrow : checkpoint s.tables s.clock s.documents s.checkpoints message.envelope leaseToken
        (latest.elim 1 (·.sequenceNo + 1)) checkpointType checkpointData = .ok row) :
      Acted s leaseToken run
        ({ s with checkpoints := row :: s.checkpoints }.goTo leaseToken run
          (.processing message (some row) renewals))
  | reported (message : QueueMessage) (latest : Option TaskCheckpoint) (outcome : WorkerOutcome)
      (hstage : run.stage = .processing message latest []) :
      Acted s leaseToken run (s.goTo leaseToken run (.reported message outcome))
  | closed (message : QueueMessage) (outcome : WorkerOutcome) (now : Timestamp)
      (tables : CaseTables) (hstage : run.stage = .reported message outcome)
      (hout : outcome = .succeeded ∨ outcome = .superseded)
      (hsettle : s.settleOutcome leaseToken run message now outcome = some tables) :
      Acted s leaseToken run ({ s with tables }.goTo leaseToken run (.archiving message))
  | retried (message : QueueMessage) (now : Timestamp) (tables : CaseTables)
      (hheld : held run.stage = some message)
      (hretry : retryOrFail s.tables s.clock message.envelope leaseToken now
        run.retryBaseDelaySeconds = some tables) :
      Acted s leaseToken run ({ s with tables }.afterRetry leaseToken run message)
  | archived (message : QueueMessage) (hstage : run.stage = .archiving message) :
      Acted s leaseToken run
        ({ s with
           queue := dropMessage s.queue message.messageId
           archive := message :: s.archive }.goTo leaseToken run .finished)
  | released :
      Acted s leaseToken run
        { s with
          slot := releaseWorkerSlot s.slot run.owner leaseToken
          workers := Function.update s.workers leaseToken none }
  | crashed :
      Acted s leaseToken run { s with workers := Function.update s.workers leaseToken none }

variable {s s' : System} {leaseToken : Uuid} {run : WorkerRun} {action : WorkerAction}

theorem idles_finished : Acted s leaseToken run (s.goTo leaseToken run .finished) :=
  .idles .finished rfl fun _ hnone => by cases hnone

theorem idles_holding (stage : WorkerStage) (hidle : idleStage stage = true)
    (hstage : held stage = some message) (hheld : held run.stage = some message) :
    Acted s leaseToken run (s.goTo leaseToken run stage) := by
  refine .idles stage hidle ?_
  intro other hother
  rw [hheld, ← hstage, hother]

theorem renewThen_acted (message : QueueMessage) (leaseUntil : Timestamp) (renewal : Renewal)
    (stage : WorkerStage) (hrenewing : Renewing renewal message run.stage stage) :
    Acted s leaseToken run (s.renewThen leaseToken run message leaseUntil renewal stage) := by
  unfold renewThen
  split
  · rename_i renewed hrenew
    exact .renewed message leaseUntil renewal renewed stage hrenewing hrenew
  · exact idles_finished

theorem act_cases (h : s.act leaseToken run action = some s') : Acted s leaseToken run s' := by
  unfold act at h
  split at h
  · -- the sweep
    rename_i now hstage
    cases h
    exact .reclaimed now
  · -- a message is read
    rename_i messageId visibleUntil hstage
    obtain ⟨message, hfind, rfl⟩ := Option.map_eq_some_iff.1 h
    have hmatch := of_decide_eq_true (List.find?_some (p := fun m : QueueMessage => decide
      (m.messageId = messageId ∧ m.visibleAt ≤ s.clock)) hfind)
    rw [← hmatch.1]
    exact .delivered message visibleUntil (List.mem_of_find?_eq_some hfind)
  · -- nothing is visible
    split at h
    · cases h
    cases h
    exact idles_finished
  · -- the claim
    rename_i leaseUntil message hstage
    split at h
    · rename_i tables hclaim
      cases h
      exact .claimed message leaseUntil tables hstage hclaim
    · cases h
      exact idles_holding (.unclaimed message) rfl rfl (by rw [hstage]; rfl)
  · -- the look-up after a claim that failed
    rename_i message hstage
    split at h
    · rename_i task htask
      split at h
      · rename_i hterm
        cases h
        exact .foundTerminal message task hstage htask hterm
      · cases h
        exact idles_finished
    · cases h
      exact idles_finished
  · -- a pending renewal of a claimed task
    rename_i leaseUntil message renewal pending hstage
    cases h
    exact renewThen_acted message leaseUntil renewal _ (hstage ▸ .claimed pending)
  · -- a pending renewal after a checkpoint
    rename_i leaseUntil message latest renewal pending hstage
    cases h
    exact renewThen_acted message leaseUntil renewal _ (hstage ▸ .processing latest pending)
  · -- a heartbeat
    rename_i renewal leaseUntil message latest pending hstage
    cases h
    refine renewThen_acted message leaseUntil renewal _ ?_
    rw [hstage]
    exact .heartbeat latest pending
  · -- the latest checkpoint
    rename_i message hstage
    cases h
    exact .loaded message hstage
  · -- a checkpoint
    rename_i checkpointType checkpointData message latest hstage
    split at h
    · rename_i row hrow
      cases h
      exact .saved message latest checkpointType checkpointData row hstage hrow
    · cases h
      exact idles_finished
    · cases h
      exact idles_holding (.failing message) rfl rfl (by rw [hstage]; rfl)
  · -- the processor reports
    rename_i outcome message latest hstage
    cases h
    exact .reported message latest outcome hstage
  · -- an exception
    rename_i stage hstage
    obtain ⟨message, hraisable, rfl⟩ := Option.map_eq_some_iff.1 h
    exact idles_holding (.failing message) rfl rfl (held_of_raisable hraisable)
  · -- the outcome is settled
    rename_i now message outcome hstage
    split at h
    · cases h
      exact idles_finished
    · rename_i tables hsettle
      split at h
      · cases h
        exact .closed message .succeeded now tables hstage (Or.inl rfl) hsettle
      · cases h
        exact .closed message .superseded now tables hstage (Or.inr rfl) hsettle
      · rename_i hsucceeded hsuperseded
        cases h
        refine .retried message now tables (by rw [hstage]; rfl) ?_
        unfold settleOutcome at hsettle
        split at hsettle
        · exact absurd rfl hsuperseded
        · exact absurd rfl hsucceeded
        · exact hsettle
  · -- the look-up after an exception
    rename_i message hstage
    split at h
    · cases h
      exact idles_holding (.recovering message) rfl rfl (by rw [hstage]; rfl)
    · cases h
      exact idles_finished
  · -- the retry after an exception
    rename_i now message hstage
    split at h
    · rename_i tables hretry
      cases h
      exact .retried message now tables (by rw [hstage]; rfl) hretry
    · cases h
      exact idles_finished
  · -- the archive
    rename_i message hstage
    split at h
    · cases h
      exact .archived message hstage
    · cases h
      exact idles_holding (.failing message) rfl rfl (by rw [hstage]; rfl)
  · cases h
    exact .released
  · cases h
    exact idles_finished
  · cases h
    exact .crashed
  · cases h

/-! ## What an action does to the tasks -/

theorem settleOutcome_moved {now : Timestamp} {outcome : WorkerOutcome} {tables : CaseTables}
    (h : s.settleOutcome leaseToken run message now outcome = some tables) :
    Moved s.clock s.tables tables := by
  unfold settleOutcome at h
  split at h
  · exact updateOwned_moved (fun task _ howned => .closed task leaseToken .superseded (Or.inr rfl)
      howned) h
  · exact updateOwned_moved (fun task _ howned => .closed task leaseToken .succeeded (Or.inl rfl)
      howned) h
  · exact updateOwned_moved (fun task _ howned => .retried task now _ (ownedBy_iff.1 howned).1) h

theorem renewOnce_moved {leaseUntil : Timestamp} {renewal : Renewal}
    (h : s.renewOnce leaseToken run message leaseUntil renewal = some s') :
    Moved s.clock s.tables s'.tables := by
  cases renewal with
  | taskLease =>
    obtain ⟨tables, hextend, rfl⟩ := Option.map_eq_some_iff.1 h
    exact updateOwned_moved (fun task _ howned => .extended task leaseToken leaseUntil howned) hextend
  | workerSlot =>
    obtain ⟨slot, -, rfl⟩ := Option.map_eq_some_iff.1 h
    exact Moved.refl _ _
  | visibility =>
    cases h
    exact Moved.refl _ _

@[simp] theorem goTo_tables (stage : WorkerStage) :
    (s.goTo leaseToken run stage).tables = s.tables := rfl

/-- What `afterRetry` comes to: it archives only what went to manual review. -/
theorem afterRetry_cases (s : System) (leaseToken : Uuid) (run : WorkerRun)
    (message : QueueMessage) :
    (∃ task, s.taskOf message = some task ∧ task.status = .failedManualReview ∧
      s.afterRetry leaseToken run message = s.goTo leaseToken run (.archiving message)) ∨
      s.afterRetry leaseToken run message = s.goTo leaseToken run .finished := by
  unfold afterRetry
  split
  · rename_i task htask
    split
    · rename_i hfailed
      exact Or.inl ⟨task, htask, hfailed, rfl⟩
    · exact Or.inr rfl
  · exact Or.inr rfl

@[simp] theorem afterRetry_tables (message : QueueMessage) :
    (s.afterRetry leaseToken run message).tables = s.tables := by
  rcases afterRetry_cases s leaseToken run message with
    ⟨_, -, -, h⟩ | h <;> rw [h] <;> rfl

/-- **A worker only moves rows.** -/
theorem Acted.moved (h : Acted s leaseToken run s') : Moved s.clock s.tables s'.tables := by
  cases h with
  | reclaimed now => exact reclaimStranded_moved now
  | delivered | idles | foundTerminal | loaded | saved | reported | archived | released | crashed =>
    exact Moved.refl _ _
  | claimed _ _ _ _ hclaim => exact claim_moved hclaim
  | renewed _ _ _ _ _ _ hrenew =>
    rw [goTo_tables]
    exact renewOnce_moved hrenew
  | closed _ _ _ _ _ _ hsettle => exact settleOutcome_moved hsettle
  | retried _ now _ _ hretry =>
    rw [afterRetry_tables]
    exact updateOwned_moved (fun task _ howned => .retried task now _ (ownedBy_iff.1 howned).1) hretry

/-- The clock stands still while a worker acts. -/
theorem Acted.clock_eq (h : Acted s leaseToken run s') : s'.clock = s.clock := by
  cases h with
  | renewed _ _ renewal _ _ _ hrenew =>
    cases renewal with
    | taskLease =>
      obtain ⟨tables, -, rfl⟩ := Option.map_eq_some_iff.1 hrenew
      rfl
    | workerSlot =>
      obtain ⟨slot, -, rfl⟩ := Option.map_eq_some_iff.1 hrenew
      rfl
    | visibility =>
      cases hrenew
      rfl
  | retried message _ tables =>
    rcases afterRetry_cases { s with tables } leaseToken run message with
      ⟨_, -, -, h⟩ | h <;> rw [h] <;> rfl
  | _ => rfl

/-! ## What a step can do -/

/-- **The inversion of a step.** -/
inductive Stepped (s : System) : System → Prop where
  | acquired (leaseToken owner : Uuid) (retryBaseDelaySeconds : Nat) (slot : WorkerSlot)
      (hfree : s.workers leaseToken = none) (hslot : slot.leaseToken = leaseToken) :
      Stepped s
        { s with
          slot := some slot
          workers := Function.update s.workers leaseToken
            (some ⟨owner, retryBaseDelaySeconds, .slotHeld⟩) }
  | acted (leaseToken : Uuid) (run : WorkerRun) (s' : System)
      (hrun : s.workers leaseToken = some run) (hacted : Acted s leaseToken run s') : Stepped s s'
  | ticked (elapsed : Timestamp) : Stepped s { s with clock := s.clock + elapsed }
  | sent (messageId : Nat) (envelope : TaskEnvelope) (visibleAt : Timestamp)
      (hfresh : ∀ message ∈ s.queue ++ s.archive, message.messageId ≠ messageId) :
      Stepped s { s with queue := s.queue ++ [⟨messageId, visibleAt, envelope⟩] }
  | created (task : ProcessingTask) (tables : CaseTables) (documents : List LiveDocument)
      (htabs : tables.tasks = s.tables.tasks ++ [task])
      (hver : tables.caseVersion = s.tables.caseVersion)
      (hcase : tables.caseId = s.tables.caseId)
      (hfresh : ∀ other ∈ s.tables.tasks, other.id ≠ task.id)
      (hpend : task.status = .pending ∧ task.attemptCount = 0 ∧ task.maxAttempts = 3 ∧
        task.lease = none) :
      Stepped s { s with tables, documents }
  | others (tables : CaseTables) (documents : List LiveDocument)
      (htasks : tables.tasks = s.tables.tasks)
      (hver : s.tables.caseVersion ≤ tables.caseVersion)
      (hcase : tables.caseId = s.tables.caseId) :
      Stepped s { s with tables, documents }

theorem not_any_id {tasks : List ProcessingTask} {taskId : Uuid}
    (h : ¬ tasks.any (·.id = taskId) = true) : ∀ task ∈ tasks, task.id ≠ taskId := by
  intro task hmem hid
  exact h (List.any_eq_true.2 ⟨task, hmem, decide_eq_true hid⟩)

theorem step_cases {q : Request} (h : s.step q = some s') : Stepped s s' := by
  cases q with
  | acquireSlot leaseToken owner retryBaseDelaySeconds leaseUntil =>
    simp only [step] at h
    split at h
    · cases h
    rename_i hfree
    obtain ⟨slot, hacquire, rfl⟩ := Option.map_eq_some_iff.1 h
    refine .acquired leaseToken owner retryBaseDelaySeconds slot hfree ?_
    unfold tryAcquireWorkerSlot at hacquire
    split at hacquire <;> cases hacquire
    rfl
  | worker leaseToken =>
    obtain ⟨run, hrun, hact⟩ := Option.bind_eq_some_iff.1 h
    exact .acted leaseToken run s' hrun (act_cases hact)
  | tick elapsed =>
    cases h
    exact .ticked elapsed
  | send messageId envelope visibleAt =>
    simp only [step] at h
    split at h
    · cases h
    rename_i hfresh
    cases h
    refine .sent messageId envelope visibleAt ?_
    intro message hmem hid
    exact hfresh (List.any_eq_true.2 ⟨message, hmem, decide_eq_true hid⟩)
  | createTask taskId caseVersion taskType key now dependsOn =>
    simp only [step] at h
    split at h
    · cases h
    rename_i hnew
    cases h
    rw [not_or] at hnew
    by_cases hfree : s.tables.keyFree key = true
    · refine .created (agentTask taskId caseVersion taskType key now) _ s.documents ?_
        (CaseTables.createTask_caseVersion ..) (CaseTables.createTask_caseId ..)
        (not_any_id hnew.1) ⟨rfl, rfl, rfl, rfl⟩
      rw [CaseTables.createTask, if_pos hfree]
      rfl
    · refine .others _ s.documents ?_ (CaseTables.createTask_caseVersion ..).ge
        (CaseTables.createTask_caseId ..)
      rw [CaseTables.createTask, if_neg hfree]
  | registerIngestion taskId documentVersionId caseVersion now =>
    simp only [step] at h
    split at h
    · cases h
    rename_i hnew
    cases h
    rw [not_or] at hnew
    exact .created (ingestionTask taskId documentVersionId caseVersion now) _ _ rfl rfl rfl
      (not_any_id hnew.1) ⟨rfl, rfl, rfl, rfl⟩
  | staleDocument =>
    cases h
    exact .others s.tables _ rfl (Nat.le_refl _) rfl
  | bumpCaseVersion revision handoffId =>
    simp only [step] at h
    split at h
    · rename_i tables hbump
      cases h
      refine .others tables s.documents (CaseTables.bumpCaseVersion_frame hbump).1 ?_
        (CaseTables.bumpCaseVersion_next hbump).1
      rw [(CaseTables.bumpCaseVersion_next hbump).2]
      exact Nat.le_succ _
    · cases h
  | otherWrites tables =>
    simp only [step] at h
    split at h
    · rename_i hsame
      cases h
      exact .others tables s.documents hsame.2.2 hsame.2.1.ge hsame.1
    · cases h

/-- **The tasks after a step**: those before it, each after a move, or these and one new task. -/
theorem Stepped.tasks (h : Stepped s s') :
    (∃ move : ProcessingTask → ProcessingTask, s'.tables.tasks = s.tables.tasks.map move ∧
      ∀ task ∈ s.tables.tasks, TaskMove s.clock s.tables.caseVersion task (move task)) ∨
    ∃ task, s'.tables.tasks = s.tables.tasks ++ [task] ∧
      (∀ other ∈ s.tables.tasks, other.id ≠ task.id) ∧ task.status = .pending ∧
        task.attemptCount = 0 ∧ task.maxAttempts = 3 ∧ task.lease = none := by
  have hsame : ∀ tasks : List ProcessingTask, tasks = s.tables.tasks →
      ∃ move : ProcessingTask → ProcessingTask, tasks = s.tables.tasks.map move ∧
        ∀ task ∈ s.tables.tasks, TaskMove s.clock s.tables.caseVersion task (move task) := by
    intro tasks htasks
    refine ⟨id, ?_, fun task _ => TaskMove.stays task⟩
    rw [List.map_id, htasks]
  cases h with
  | acquired | ticked | sent => exact Or.inl (hsame _ rfl)
  | acted _ _ _ _ hacted =>
    obtain ⟨move, htabs, hmove⟩ := hacted.moved
    exact Or.inl ⟨move, by rw [htabs], hmove⟩
  | created task _ _ htabs _ _ hfresh hpend =>
    exact Or.inr ⟨task, htabs, hfresh, hpend⟩
  | others _ _ htasks => exact Or.inl (hsame _ htasks)

theorem Stepped.version_le (h : Stepped s s') : s.tables.caseVersion ≤ s'.tables.caseVersion := by
  cases h with
  | acquired | ticked | sent => exact Nat.le_refl _
  | acted _ _ _ _ hacted =>
    obtain ⟨move, htabs, -⟩ := hacted.moved
    rw [htabs]
  | created _ _ _ _ hver => exact hver.ge
  | others _ _ _ hver => exact hver

theorem Stepped.caseId_eq (h : Stepped s s') : s'.tables.caseId = s.tables.caseId := by
  cases h with
  | acquired | ticked | sent => rfl
  | acted _ _ _ _ hacted =>
    obtain ⟨move, htabs, -⟩ := hacted.moved
    rw [htabs]
  | created _ _ _ _ _ hcase | others _ _ _ _ hcase => exact hcase

end System

end CreditOps.Workers
