import CreditOps.Orchestration.Coverage
import CreditOps.Orchestration.TickTriggers
import CreditOps.Outbox.Store
import CreditOps.Workers.Progress

/-!
# Ticks

A case under way together with what fires its ticks and carries them. A tick starts as a committed fact: a
task that succeeded, an intake handoff, a human gate, a revision. Its kickoff creates a planning task with
an outbox event, a dispatcher sends the message and then marks the event, and a worker that claims the task
runs one execution of `AdvanceCase` and checkpoints it.
-/

set_option autoImplicit false

namespace CreditOps.Orchestration.CaseTables

/-- `mark_outbox_dispatched`, for the event of a task. -/
def markDispatched (tables : CaseTables) (taskId : Uuid) (now : Timestamp) : CaseTables :=
  { tables with
    outbox := tables.outbox.map fun event =>
      if event.taskId = taskId ∧ event.dispatchedAt = none then
        { event with dispatchedAt := some now }
      else event }

/-- `persist_handoff` of an intake that is ready for the specialists. -/
def persistHandoff (tables : CaseTables) (handoffId : Uuid) (caseVersion : CaseVersion)
    (sourceTaskId : Uuid) : CaseTables :=
  { tables with
    handoffs :=
      ⟨handoffId, caseVersion, sourceTaskId, readyForSpecialistReview, none, none⟩ ::
        tables.handoffs }

end CreditOps.Orchestration.CaseTables

namespace CreditOps.Workers

open Orchestration Outbox Transition PartialMap

/-! ## The planning processor -/

/-- What `OrchestratorPlanProcessor` checkpoints. -/
inductive PlanCheckpoint where
  | planBuilt
  | tasksCreated
  | enqueued
deriving DecidableEq

/-- A processor that has called `execute`: its execution, and the checkpoints it has still to save. -/
structure PlanProcess where
  executionId : Uuid
  due : List PlanCheckpoint
deriving DecidableEq

/-! ## The world of the ticks -/

/-- The case, the planning processors by the lease token of their worker, the checkpoints of planning tasks
(newest first), the ticks that are still to be fired by the worker or request that owes them, and the
dispatchers that have sent an event and not marked it yet, with its task. -/
structure TickWorld where
  world : CaseWorld
  processes : Uuid → Option PlanProcess
  planCheckpoints : List (Uuid × PlanCheckpoint)
  ticks : Uuid → Option TickTrigger
  dispatches : Uuid → Option Uuid

/-- One step. A request of an endpoint carries an id under which it owes its tick. -/
inductive TickRequest where
  | around (request : Request)
  | worker (leaseToken : Uuid) (action : WorkerAction)
  | planLoad (leaseToken executionId : Uuid)
  | planAdvance (leaseToken : Uuid) (request : EngineRequest)
  | planAudit (leaseToken : Uuid)
  | planCheckpoint (leaseToken : Uuid)
  | persistGaps (leaseToken : Uuid) (gaps : List FoundGap)
  | persistHandoff (requestId handoffId : Uuid) (caseVersion : CaseVersion) (sourceTaskId : Uuid)
  | ensureGate (requestId : Uuid) (caseVersion : CaseVersion) (gateType : GateType) (ref : Nat)
      (now : Timestamp) (actorId : Uuid) (dispositionRef : Option String)
  | bumpCaseVersion (requestId : Uuid) (revision : RevisionRequest) (handoffId : Uuid)
  | retick (caller taskId : Uuid) (now : Timestamp)
  | loseTick (caller : Uuid)
  | advance (taskId : Uuid) (now : Timestamp)
  | send (dispatcher taskId : Uuid) (messageId : Nat) (visibleAt : Timestamp)
  | markDispatched (dispatcher : Uuid) (now : Timestamp)
  | stopDispatch (dispatcher : Uuid)
deriving DecidableEq

namespace TickWorld

/-- The tables of the case. -/
def tables (w : TickWorld) : CaseTables :=
  w.world.system.tables

/-- The id is new, and it is a uuid. -/
def freshId (w : TickWorld) (taskId : Uuid) : Bool :=
  taskId < 16 ^ 32 ∧ w.tables.tasks.all (·.id ≠ taskId)

/-- Nobody works or owes a tick under the id. -/
def freshCaller (w : TickWorld) (caller : Uuid) : Bool :=
  (w.world.system.workers caller).isNone ∧ (w.ticks caller).isNone

/-- The message is that of a planning task. -/
def isPlan (w : TickWorld) (message : QueueMessage) : Bool :=
  w.tables.tasks.any fun task =>
    task.id = message.envelope.taskId ∧ task.taskType = .orchestratorPlan

/-- The message a worker processes. -/
def processing (w : TickWorld) (leaseToken : Uuid) : Option QueueMessage :=
  match w.world.system.stageOf leaseToken with
  | some (.processing message _ _) => some message
  | _ => none

/-! ### The surroundings -/

/-- What happens around the workers without a tick: a lease token is drawn, time passes, documents are
registered and become stale, and messages are sent. -/
def mayHappen (w : TickWorld) : Request → Bool
  | .acquireSlot leaseToken _ _ _ => w.freshCaller leaseToken
  | .registerIngestion taskId _ _ _ => w.freshId taskId
  | .tick _ | .send _ _ _ | .staleDocument _ => true
  | .worker _ _ | .createTask _ _ _ _ _ _ | .bumpCaseVersion _ _ | .otherWrites _ => false

/-! ### The worker -/

/-- The planning processor returns a success, and only behind its last checkpoint. Other processors may
report anything. -/
def reportsAsPlanned (w : TickWorld) (leaseToken : Uuid) : WorkerAction → Bool
  | .report outcome =>
    (w.processing leaseToken).all fun message =>
      w.isPlan message → outcome = .succeeded ∧
        (message.envelope.taskId, PlanCheckpoint.enqueued) ∈ w.planCheckpoints
  | _ => true

/-- The action ends `run_once` without its result: an exception, a cancellation, a crash, or an archive of a
message that is not in the queue any more. -/
def failsAt (s : System) (leaseToken : Uuid) : WorkerAction → Bool
  | .raise | .abort | .crash => true
  | .archive =>
    match s.stageOf leaseToken with
    | some (.archiving message) => !s.queue.any (·.messageId = message.messageId)
    | _ => false
  | _ => false

/-- The tick of a worker after an action, which has led to `after`: a task other than a planning task that
was written as succeeded is to be re-ticked when `run_once` returns. -/
def tickAfter (w : TickWorld) (leaseToken : Uuid) (action : WorkerAction) (after : System) :
    Option TickTrigger :=
  if failsAt w.world.system leaseToken action then none
  else
    match action, w.world.system.stageOf leaseToken with
    | .settle _, some (.reported message .succeeded) =>
      if after.stageOf leaseToken = some (.archiving message) ∧ w.isPlan message = false then
        some (.task message.envelope.taskId)
      else w.ticks leaseToken
    | _, _ => w.ticks leaseToken

/-- The planning processor ends with the processing of its task. -/
def processAfter (w : TickWorld) (leaseToken : Uuid) (after : System) : Option PlanProcess :=
  match after.stageOf leaseToken with
  | some (.processing _ _ _) => w.processes leaseToken
  | _ => none

/-- The world after an action of a worker. -/
def afterAction (w : TickWorld) (leaseToken : Uuid) (action : WorkerAction) (after : CaseWorld) :
    TickWorld :=
  { w with
    world := after
    processes :=
      Function.update w.processes leaseToken (w.processAfter leaseToken after.system)
    ticks := Function.update w.ticks leaseToken (w.tickAfter leaseToken action after.system) }

/-! ### The planning processor -/

/-- The processor of a planning task calls `execute` unless the last checkpoint is there. -/
def mayExecute (w : TickWorld) (leaseToken : Uuid) : Bool :=
  (w.processes leaseToken).isNone ∧
    (w.processing leaseToken).any fun message =>
      w.isPlan message ∧ (message.envelope.taskId, PlanCheckpoint.enqueued) ∉ w.planCheckpoints

/-- The stages of an execution after its snapshot. -/
def mayAdvance (w : TickWorld) (executionId : Uuid) : EngineRequest → Bool
  | .advanceRefresh id _ | .advancePlan id _ => id = executionId
  | .advanceSchedule id taskId _ => id = executionId ∧ w.freshId taskId
  | .workerMoves _ _ | .kickoff _ _ _ | .advanceLoad _ => false

/-- `execute` has returned: the plan is scheduled and every audit event appended. -/
def returned (w : TickWorld) (executionId : Uuid) : Bool :=
  (w.world.advances executionId).any (·.pendingSteps = some []) ∧
    (w.world.closings executionId).any (·.due = [])

/-- A checkpoint is saved by the holder of the lease of the task, at the current version. -/
def mayCheckpoint (w : TickWorld) (leaseToken : Uuid) (message : QueueMessage) : Bool :=
  w.tables.tasks.any fun task =>
    inScope w.tables message.envelope task ∧ ownedBy leaseToken w.world.system.clock task ∧
      w.tables.caseVersion = task.caseVersion

/-! ### The step function -/

/-- A transaction on the case, and nothing else. -/
def commit (w : TickWorld) (request : CaseRequest) : Option TickWorld :=
  (w.world.step request).map fun world => { w with world }

/-- A transaction of a request that owes a tick from then on. -/
def commitOwing (w : TickWorld) (requestId : Uuid) (tick : Option TickTrigger)
    (request : CaseRequest) : Option TickWorld :=
  (w.world.step request).map fun world =>
    { w with world, ticks := Function.update w.ticks requestId tick }

/-- The tick a gate write owes: an endpoint that has a label re-ticks the case. -/
def gateTick (gateType : GateType) (ref : Nat) : Option TickTrigger :=
  (gateLabel gateType).map fun _ => .gate gateType ref

/-- The event of the task that is still to be dispatched. -/
def undispatched (w : TickWorld) (taskId : Uuid) : Option OutboxEvent :=
  w.tables.outbox.find? fun event => event.taskId = taskId ∧ event.dispatchedAt = none

/-- The envelope an event publishes. -/
def envelopeOf (w : TickWorld) (event : OutboxEvent) : Option TaskEnvelope :=
  (OutboxPayload.envelope event.taskId w.tables.caseId event.caseVersion event.taskType
    event.documentVersionId).validate

/-- The step function; `none` for a request that is not at that point or is refused. `writtenFor` is the
case version of the batch or of the assessment whose disposition satisfies the second or the third gate. -/
def step (writtenFor : Uuid → CaseVersion) (w : TickWorld) : TickRequest → Option TickWorld
  | .around request => if w.mayHappen request then w.commit (.worker request) else none
  | .worker leaseToken action =>
    if w.reportsAsPlanned leaseToken action then
      (w.world.step (.worker (.worker leaseToken action))).map (w.afterAction leaseToken action)
    else none
  | .planLoad leaseToken executionId =>
    if w.mayExecute leaseToken then
      (w.world.step (.engine (.advanceLoad executionId))).map fun world =>
        { w with
          world
          processes := Function.update w.processes leaseToken
            (some ⟨executionId, [.planBuilt, .tasksCreated, .enqueued]⟩) }
    else none
  | .planAdvance leaseToken request =>
    (w.processes leaseToken).bind fun process =>
      if w.mayAdvance process.executionId request then w.commit (.engine request) else none
  | .planAudit leaseToken =>
    (w.processes leaseToken).bind fun process => w.commit (.advanceAudit process.executionId)
  | .planCheckpoint leaseToken =>
    match w.processes leaseToken, w.processing leaseToken with
    | some ⟨executionId, kind :: due⟩, some message =>
      if w.returned executionId ∧ w.mayCheckpoint leaseToken message then
        some { w with
               processes := Function.update w.processes leaseToken (some ⟨executionId, due⟩)
               planCheckpoints := (message.envelope.taskId, kind) :: w.planCheckpoints }
      else none
    | _, _ => none
  | .persistGaps leaseToken gaps =>
    ((w.processing leaseToken).bind w.world.system.taskOf).bind fun task =>
      w.commit (.worker (.otherWrites (w.tables.addGaps task.caseVersion task.id gaps)))
  | .persistHandoff requestId handoffId caseVersion sourceTaskId =>
    if w.freshCaller requestId ∧ handoffId < 16 ^ 32 ∧ w.tables.handoffs.all (·.id ≠ handoffId) then
      w.commitOwing requestId (some (.handoff handoffId))
        (.worker (.otherWrites (w.tables.persistHandoff handoffId caseVersion sourceTaskId)))
    else none
  | .ensureGate requestId caseVersion gateType ref now actorId dispositionRef =>
    if w.freshCaller requestId ∧ gateType ≠ .g1IntakeComplete ∧
        (TickTrigger.gate gateType ref).inRange ∧
        (gateType = .g2GapRequestApproval ∨ gateType = .g3RiskDisposition →
          caseVersion = writtenFor ref) then
      w.commitOwing requestId (gateTick gateType ref)
        (.humanGate caseVersion gateType now actorId dispositionRef)
    else none
  | .bumpCaseVersion requestId revision handoffId =>
    if w.freshCaller requestId ∧ revision.dispositionId < 16 ^ 32 then
      w.commitOwing requestId (some (.revise revision.dispositionId))
        (.worker (.bumpCaseVersion revision handoffId))
    else none
  | .retick caller taskId now =>
    (w.ticks caller).bind fun trigger =>
      if (w.world.system.workers caller).isNone ∧ w.freshId taskId then
        w.commitOwing caller none (.engine (.kickoff taskId (some trigger.ref) now))
      else none
  | .loseTick caller =>
    if (w.world.system.workers caller).isNone then
      some { w with ticks := Function.update w.ticks caller none }
    else none
  | .advance taskId now =>
    if w.freshId taskId then w.commit (.engine (.kickoff taskId none now)) else none
  | .send dispatcher taskId messageId visibleAt =>
    match w.dispatches dispatcher, (w.undispatched taskId).bind w.envelopeOf with
    | none, some envelope =>
      (w.world.step (.worker (.send messageId envelope visibleAt))).map fun world =>
        { w with world, dispatches := Function.update w.dispatches dispatcher (some taskId) }
    | _, _ => none
  | .markDispatched dispatcher now =>
    (w.dispatches dispatcher).bind fun taskId =>
      (w.world.step (.worker (.otherWrites (w.tables.markDispatched taskId now)))).map fun world =>
        { w with world, dispatches := Function.update w.dispatches dispatcher none }
  | .stopDispatch dispatcher =>
    some { w with dispatches := Function.update w.dispatches dispatcher none }

/-! ## What the claim speaks of -/

/-- The case before its first task. -/
def start (caseId : Uuid) (caseVersion : CaseVersion) : TickWorld where
  world := CaseWorld.start
    { caseId
      caseVersion
      handoffs := []
      tasks := []
      dependencies := []
      gates := []
      gaps := []
      outbox := []
      audit := [] }
  processes := fun _ => none
  planCheckpoints := []
  ticks := fun _ => none
  dispatches := fun _ => none

/-- Every queue message and every outbox event has been drained. -/
def Drained (w : TickWorld) : Prop :=
  w.world.system.queue = [] ∧ ∀ event ∈ w.tables.outbox, event.dispatchedAt ≠ none

/-- No step is in flight. -/
structure Quiet (w : TickWorld) : Prop where
  workers : ∀ leaseToken, w.world.system.workers leaseToken = none
  ticks : ∀ caller, w.ticks caller = none
  dispatches : ∀ dispatcher, w.dispatches dispatcher = none

/-- A planning task failed to manual review. -/
def PlanFailed (w : TickWorld) : Prop :=
  ∃ task ∈ w.tables.tasks, task.taskType = .orchestratorPlan ∧ task.status = .failedManualReview

/-- The tick of the caller is still to be fired: no planning task of the current version has its key. -/
def owes (w : TickWorld) (caller : Uuid) : Bool :=
  (w.ticks caller).any fun trigger =>
    w.tables.keyFree (.orchPlan w.tables.caseVersion (some trigger.ref))

/-- The step gives up a tick that is still to be fired. -/
def losesTick (w : TickWorld) : TickRequest → Bool
  | .worker leaseToken action => w.owes leaseToken ∧ failsAt w.world.system leaseToken action
  | .loseTick caller => w.owes caller
  | _ => false

end TickWorld

end CreditOps.Workers
