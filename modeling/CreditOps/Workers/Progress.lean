import CreditOps.Orchestration.Noninterference
import CreditOps.Orchestration.Deadlock
import CreditOps.Workers.StaleTasks

/-!
# A case under way

Executions of `AdvanceCase`, workers, humans and version bumps act on one case, each in transactions of
its own (`CaseWorld.step`). Readiness passes over superseded tasks, while `create_task` takes whatever
row already holds the key of a type; the two agree only because no task of the current version is ever
superseded.
-/

set_option autoImplicit false

namespace CreditOps.Workers

open Orchestration Transition PartialMap

/-! ## The end of an execution -/

/-- What `execute` returns. -/
structure AdvanceResult where
  caseVersion : CaseVersion
  readiness : ReadinessReport
  gates : List GateRecord
  createdTaskIds : List Uuid
  deadlock : Option Deadlock
deriving DecidableEq

/-- The audit events that close an execution. -/
inductive AdvanceEvent where
  | orchestrationDeadlock (deadlock : Deadlock)
  | orchestrationAdvanced (createdTaskIds : List Uuid) (readiness : List NodeAssessment)
      (supersededTaskIds : List Uuid) (deadlock : Bool)
deriving DecidableEq

/-- One of these events in `audit_events`. -/
structure AdvanceAudit where
  executionId : Uuid
  caseVersion : CaseVersion
  event : AdvanceEvent
deriving DecidableEq

/-- An execution that has scheduled its plan, with the audit events it has still to append. -/
structure Closing where
  result : AdvanceResult
  due : List AdvanceEvent
deriving DecidableEq

/-- The part of `execute` after `_schedule`. -/
def closeRun (run : AdvanceRun) : Option Closing :=
  if run.pendingSteps = some [] then
    let readiness := evaluateReadiness run.graphed .canonical
    let deadlock := readiness.deadlock
    some
      { result :=
          { caseVersion := run.snapshot.caseVersion
            readiness
            gates := run.gates
            createdTaskIds := run.createdTaskIds
            deadlock }
        due :=
          (deadlock.map .orchestrationDeadlock).toList ++
            [.orchestrationAdvanced run.createdTaskIds readiness.assessments
              readiness.supersededTaskIds deadlock.isSome] }
  else none

/-! ## The world of a case -/

/-- A case with its workers, its executions by execution id, and the audit events of these, newest
first. -/
structure CaseWorld where
  system : System
  advances : Uuid → Option AdvanceRun
  closings : Uuid → Option Closing
  log : List AdvanceAudit

/-- One transaction on the case. -/
inductive CaseRequest where
  | worker (request : Request)
  | engine (request : EngineRequest)
  | humanGate (caseVersion : CaseVersion) (gateType : GateType) (now : Timestamp) (actorId : Uuid)
      (dispositionRef : Option String)
  | advanceAudit (executionId : Uuid)
deriving DecidableEq

/-- A processor reports `SUPERSEDED` as its code does: for an agent task, only when the case version it
read is not the version of the task. -/
def System.mayReportSuperseded (s : System) (leaseToken : Uuid) : Bool :=
  (s.workers leaseToken).all fun run =>
    match run.stage with
    | .processing message _ _ =>
      message.envelope.documentVersionId.isSome ∨ s.tables.caseVersion ≠ message.envelope.caseVersion
    | _ => true

/-- What the workers and their surroundings may request here. Agent tasks come from the engine. -/
def System.allows (s : System) : Request → Bool
  | .createTask _ _ _ _ _ _ => false
  | .worker leaseToken (.report .superseded) => s.mayReportSuperseded leaseToken
  | _ => true

/-- The status of a task is moved by its worker. -/
def movesStatus : EngineRequest → Bool
  | .workerMoves _ _ => true
  | _ => false

namespace CaseWorld

/-- The engine of the case. -/
def engine (w : CaseWorld) : Engine where
  tables := w.system.tables
  advances := w.advances

/-- The case after a step of its engine. -/
def withEngine (w : CaseWorld) (e : Engine) : CaseWorld :=
  { w with
    system := { w.system with tables := e.tables }
    advances := e.advances }

/-- How far the closing of an execution has come. -/
def closing (w : CaseWorld) (executionId : Uuid) : Option Closing :=
  (w.closings executionId).or ((w.advances executionId).bind closeRun)

/-- The step function; `none` for a request that is not at that point or is refused. -/
def step (w : CaseWorld) : CaseRequest → Option CaseWorld
  | .worker request =>
    if w.system.allows request then
      (w.system.step request).map fun system => { w with system }
    else none
  | .engine request =>
    if movesStatus request then none else (w.engine.step request).map w.withEngine
  | .humanGate caseVersion gateType now actorId dispositionRef =>
    some (w.withEngine { w.engine with
      tables := w.system.tables.ensureGate caseVersion gateType .satisfied now (some actorId)
        dispositionRef })
  | .advanceAudit executionId =>
    match w.closing executionId with
    | some ⟨result, event :: due⟩ =>
      some { w with
             closings := Function.update w.closings executionId (some ⟨result, due⟩)
             log := ⟨executionId, result.caseVersion, event⟩ :: w.log }
    | _ => none

/-- A case without tasks, with nothing in flight. -/
def start (tables : CaseTables) : CaseWorld where
  system := System.idle tables
  advances := fun _ => none
  closings := fun _ => none
  log := []

/-- The execution has returned its result, with every audit event appended. -/
def Committed (w : CaseWorld) (executionId : Uuid) (result : AdvanceResult) : Prop :=
  w.closings executionId = some ⟨result, []⟩

end CaseWorld

/-! ## Rows and keys -/

/-- Some task holds the key. -/
def HasKey (tables : CaseTables) (key : TaskKey) : Prop :=
  ∃ task ∈ tables.tasks, task.idempotencyKey = key

/-- A row under the key of an agent task is of its type and version, without a document. -/
def RowKeyed (task : ProcessingTask) : Prop :=
  ∀ caseVersion taskType, task.idempotencyKey = .orch caseVersion taskType →
    task.taskType = taskType ∧ task.caseVersion = caseVersion ∧ task.documentVersionId = none

theorem HasKey.mono {tables tables' : CaseTables} {key : TaskKey} (h : HasKey tables key)
    (hsub : tables.tasks ⊆ tables'.tasks) : HasKey tables' key := by
  obtain ⟨task, hmem, hkey⟩ := h
  exact ⟨task, hsub hmem, hkey⟩

theorem mem_createTask_cases {tables : CaseTables} {taskId : Uuid} {caseVersion : CaseVersion}
    {taskType : TaskType} {key : TaskKey} {now : Timestamp} {dependsOn : List Uuid}
    {task : ProcessingTask}
    (h : task ∈ (tables.createTask taskId caseVersion taskType key now dependsOn).tasks) :
    task ∈ tables.tasks ∨ task = agentTask taskId caseVersion taskType key now := by
  cases hfree : tables.keyFree key with
  | true =>
    rw [CaseTables.createTask_of_free hfree] at h
    exact (List.mem_append.1 h).imp_right List.mem_singleton.1
  | false =>
    rw [CaseTables.createTask_of_taken hfree] at h
    exact Or.inl h

/-- **The key is taken after the task write**, by the new row or by the one that was there. -/
theorem hasKey_createTask (tables : CaseTables) (taskId : Uuid) (caseVersion : CaseVersion)
    (taskType : TaskType) (key : TaskKey) (now : Timestamp) (dependsOn : List Uuid) :
    HasKey (tables.createTask taskId caseVersion taskType key now dependsOn) key := by
  cases hfree : tables.keyFree key with
  | true =>
    rw [CaseTables.createTask_of_free hfree]
    exact ⟨_, List.mem_append_right _ List.mem_cons_self, rfl⟩
  | false =>
    rw [CaseTables.createTask_of_taken hfree]
    obtain ⟨task, hmem, hkey⟩ := List.all_eq_false.1 hfree
    refine ⟨task, hmem, ?_⟩
    simpa using hkey

theorem rowKeyed_agentTask (taskId : Uuid) (caseVersion : CaseVersion) (taskType : TaskType)
    (now : Timestamp) :
    RowKeyed (agentTask taskId caseVersion taskType (.orch caseVersion taskType) now) := by
  intro v t hkey
  cases hkey
  exact ⟨rfl, rfl, rfl⟩

theorem rowKeyed_planTask (taskId : Uuid) (caseVersion : CaseVersion) (taskType : TaskType)
    (triggerRef : Option String) (now : Timestamp) :
    RowKeyed (agentTask taskId caseVersion taskType (.orchPlan caseVersion triggerRef) now) := by
  intro v t hkey
  cases hkey

/-- **A move keeps what a row stands for.** -/
theorem System.RowMove.identity {s : System} {leaseToken : Uuid} {run : WorkerRun}
    {task task' : ProcessingTask} (h : System.RowMove s leaseToken run task task') :
    task'.taskType = task.taskType ∧ task'.caseVersion = task.caseVersion ∧
      task'.documentVersionId = task.documentVersionId ∧
      task'.idempotencyKey = task.idempotencyKey := by
  cases h with
  | stays | claimed | extended | closed => exact ⟨rfl, rfl, rfl, rfl⟩
  | retried =>
    unfold retryTask
    split <;> exact ⟨rfl, rfl, rfl, rfl⟩

/-! ## When a worker reports -/

namespace System

variable {s s' : System} {leaseToken : Uuid} {run : WorkerRun}

/-- The stage of a worker. -/
def stageOf (s : System) (leaseToken : Uuid) : Option WorkerStage :=
  (s.workers leaseToken).map (·.stage)

@[simp] theorem stageOf_goTo (stage : WorkerStage) :
    (s.goTo leaseToken run stage).stageOf leaseToken = some stage := by
  simp only [stageOf, goTo, Function.update_self, Option.map_some]

theorem stageOf_renewThen (s : System) (leaseToken : Uuid) (run : WorkerRun) (message : QueueMessage) (leaseUntil : Timestamp) (renewal : Renewal)
    (stage : WorkerStage) :
    (s.renewThen leaseToken run message leaseUntil renewal stage).stageOf leaseToken = some stage ∨
      (s.renewThen leaseToken run message leaseUntil renewal stage).stageOf leaseToken =
        some .finished := by
  unfold renewThen
  split
  · exact Or.inl (stageOf_goTo stage)
  · exact Or.inr (stageOf_goTo .finished)

theorem stageOf_afterRetry (s : System) (leaseToken : Uuid) (run : WorkerRun)
    (message : QueueMessage) :
    (s.afterRetry leaseToken run message).stageOf leaseToken = some (.archiving message) ∨
      (s.afterRetry leaseToken run message).stageOf leaseToken = some .finished := by
  rcases afterRetry_cases s leaseToken run message with
    ⟨_, -, -, h⟩ | h
  · exact Or.inl (by rw [h, stageOf_goTo])
  · exact Or.inr (by rw [h, stageOf_goTo])

/-- **Only a report reports.** -/
theorem report_of_act {action : WorkerAction} (h : s.act leaseToken run action = some s')
    {message : QueueMessage} {outcome : WorkerOutcome}
    (hstage : s'.stageOf leaseToken = some (.reported message outcome)) :
    action = .report outcome ∧ ∃ latest, run.stage = .processing message latest [] := by
  have hgoTo : ∀ {t : System} {stage : WorkerStage}, some (t.goTo leaseToken run stage) = some s' →
      stage = .reported message outcome := by
    intro t stage ht
    cases ht
    rw [stageOf_goTo] at hstage
    exact Option.some.inj hstage
  have hrenew : ∀ {renewing : QueueMessage} {leaseUntil : Timestamp} {renewal : Renewal}
      {stage : WorkerStage}, some (s.renewThen leaseToken run renewing leaseUntil renewal stage) =
        some s' → stage ≠ .reported message outcome → False := by
    intro renewing leaseUntil renewal stage ht hne
    cases ht
    rcases stageOf_renewThen s leaseToken run renewing leaseUntil renewal stage with hsame | hfinished
    · exact hne (Option.some.inj (hsame.symm.trans hstage))
    · cases hfinished.symm.trans hstage
  have hafter : ∀ {t : System} {retried : QueueMessage},
      some (t.afterRetry leaseToken run retried) = some s' → False := by
    intro t retried ht
    cases ht
    rcases stageOf_afterRetry t leaseToken run retried with
      harchiving | hfinished
    · cases harchiving.symm.trans hstage
    · cases hfinished.symm.trans hstage
  unfold act at h
  split at h
  · cases hgoTo h
  · obtain ⟨_, -, hread⟩ := Option.map_eq_some_iff.1 h
    cases hgoTo (congrArg some hread)
  · split at h
    · cases h
    · cases hgoTo h
  · split at h <;> cases hgoTo h
  · split at h
    · split at h <;> cases hgoTo h
    · cases hgoTo h
  · exact (hrenew h nofun).elim
  · exact (hrenew h nofun).elim
  · exact (hrenew h nofun).elim
  · cases hgoTo h
  · split at h <;> cases hgoTo h
  · -- the one action that reports
    rename_i outcome' message' latest hprocessing
    cases hgoTo h
    exact ⟨rfl, latest, hprocessing⟩
  · obtain ⟨_, -, hraised⟩ := Option.map_eq_some_iff.1 h
    cases hgoTo (congrArg some hraised)
  · split at h
    · cases hgoTo h
    split at h
    · cases hgoTo h
    · cases hgoTo h
    · exact (hafter h).elim
  · split at h <;> cases hgoTo h
  · split at h
    · exact (hafter h).elim
    · cases hgoTo h
  · split at h <;> cases hgoTo h
  · cases h
    simp only [stageOf, Function.update_self, Option.map_none, reduceCtorEq] at hstage
  · cases hgoTo h
  · cases h
    simp only [stageOf, Function.update_self, Option.map_none, reduceCtorEq] at hstage
  · cases h

/-- The message a worker has claimed the task of. -/
def claimedMessage : WorkerStage → Option QueueMessage
  | .claimed message _ | .processing message _ _ | .reported message _ => some message
  | .slotHeld | .swept | .delivered _ | .unclaimed _ | .failing _ | .recovering _ | .archiving _
  | .finished => none

theorem exists_of_claim {envelope : TaskEnvelope} {leaseUntil : Timestamp} {tables : CaseTables}
    (h : claim s.tables s.clock s.documents envelope leaseToken leaseUntil = some tables) :
    ∃ task ∈ s.tables.tasks, inScope s.tables envelope task = true ∧
      claimable s.tables s.documents s.clock task = true := by
  unfold claim updateTasks at h
  split at h
  · rename_i hany
    obtain ⟨task, hmem, hguard⟩ := List.any_eq_true.1 hany
    exact ⟨task, hmem, Bool.and_eq_true_iff.1 hguard⟩
  · cases h

/-- The message an acting worker has claimed is the one it had, or one of a task it could claim. -/
theorem Acted.claimedMessage (h : Acted s leaseToken run s') {stage : WorkerStage}
    (hstage : s'.stageOf leaseToken = some stage) {message : QueueMessage}
    (hclaimed : System.claimedMessage stage = some message) :
    System.claimedMessage run.stage = some message ∨
      ∃ task ∈ s.tables.tasks, inScope s.tables message.envelope task = true ∧
        claimable s.tables s.documents s.clock task = true := by
  have hgoTo : ∀ {t : System} {next : WorkerStage},
      (t.goTo leaseToken run next).stageOf leaseToken = some stage → next = stage := by
    intro t next ht
    rw [stageOf_goTo] at ht
    exact Option.some.inj ht
  cases h with
  | claimed _ _ _ _ hclaim =>
    cases hgoTo hstage
    cases hclaimed
    exact Or.inr (exists_of_claim hclaim)
  | renewed _ _ _ _ _ hrenewing =>
    cases hgoTo hstage
    generalize run.stage = before at hrenewing
    cases hrenewing with
    | claimed | processing | heartbeat => exact Or.inl hclaimed
  | loaded _ hpre | saved _ _ _ _ _ hpre | reported _ _ _ hpre =>
    cases hgoTo hstage
    exact Or.inl (by rw [hpre]; exact hclaimed)
  | idles _ hidle =>
    cases hgoTo hstage
    cases stage <;> first | (cases hidle; done) | cases hclaimed
  | retried message' _ tables =>
    rcases stageOf_afterRetry { s with tables } leaseToken run message' with harchiving | hfinished
    · cases harchiving.symm.trans hstage
      cases hclaimed
    · cases hfinished.symm.trans hstage
      cases hclaimed
  | reclaimed | delivered | foundTerminal | closed | archived =>
    cases hgoTo hstage
    cases hclaimed
  | released | crashed => simp only [stageOf, Function.update_self, Option.map_none, reduceCtorEq] at hstage

theorem Acted.stageOf_of_ne (h : Acted s leaseToken run s') {token : Uuid}
    (hne : token ≠ leaseToken) : s'.stageOf token = s.stageOf token := by
  obtain ⟨_, hwkrs, -⟩ := h.worker
  rw [stageOf, stageOf, hwkrs, Function.update_of_ne hne]

/-! ## No task of the current version is superseded -/

/-- The rows under an agent key are what the key says, and a superseded agent task is of a past
version. What a worker has claimed is of no later version than the case, and where it has reported an
agent task as superseded, of an earlier one. -/
structure Fenced (s : System) : Prop where
  keyed : ∀ task ∈ s.tables.tasks, RowKeyed task
  superseded : ∀ task ∈ s.tables.tasks, task.documentVersionId = none →
    task.status = .superseded → task.caseVersion < s.tables.caseVersion
  claimed : ∀ token stage message, s.stageOf token = some stage →
    System.claimedMessage stage = some message →
    message.envelope.caseVersion ≤ s.tables.caseVersion
  reported : ∀ token message, s.stageOf token = some (.reported message .superseded) →
    message.envelope.documentVersionId = none →
    message.envelope.caseVersion < s.tables.caseVersion

theorem idle_fenced (tables : CaseTables) : (idle tables).Fenced where
  keyed _ h := by cases h
  superseded _ h := by cases h
  claimed _ _ _ h := by cases h
  reported _ _ h := by cases h

/-- What happens around the workers: rows are added that are not superseded, and a worker appears that
has claimed nothing. -/
theorem Fenced.around (h : s.Fenced)
    (htasks : ∀ task ∈ s'.tables.tasks, task ∈ s.tables.tasks ∨
      (RowKeyed task ∧ task.status = .pending))
    (hver : s.tables.caseVersion ≤ s'.tables.caseVersion)
    (hstages : ∀ token stage, s'.stageOf token = some stage →
      s.stageOf token = some stage ∨ stage = .slotHeld) : s'.Fenced where
  keyed task hmem := by
    rcases htasks task hmem with hold | ⟨hkeyed, -⟩
    · exact h.keyed task hold
    · exact hkeyed
  superseded task hmem hdoc hstat := by
    rcases htasks task hmem with hold | ⟨-, hpend⟩
    · exact Nat.lt_of_lt_of_le (h.superseded task hold hdoc hstat) hver
    · rw [hpend] at hstat
      cases hstat
  claimed token stage message hstage hclaimed := by
    rcases hstages token stage hstage with hold | rfl
    · exact Nat.le_trans (h.claimed token stage message hold hclaimed) hver
    · cases hclaimed
  reported token message hstage hdoc := by
    rcases hstages token _ hstage with hold | hnew
    · exact Nat.lt_of_lt_of_le (h.reported token message hold hdoc) hver
    · cases hnew

/-- A row that a worker leaves superseded is of a past version. -/
theorem Fenced.version_of_superseded (h : s.Fenced) (hstage : s.stageOf leaseToken = some run.stage)
    {task task' : ProcessingTask} (hmem : task ∈ s.tables.tasks)
    (hmove : RowMove s leaseToken run task task') (hdoc : task.documentVersionId = none)
    (hsuperseded : task'.status = .superseded) : task.caseVersion < s.tables.caseVersion := by
  cases hmove with
  | stays | extended => exact h.superseded task hmem hdoc hsuperseded
  | claimed => cases hsuperseded
  | closed message _ _ hreported hstat hscope =>
    rcases hstat with ⟨-, rfl⟩ | ⟨rfl, rfl⟩
    · cases hsuperseded
    rw [hreported] at hstage
    obtain ⟨-, -, hver, hscopeDocument⟩ := of_decide_eq_true hscope
    rw [hver]
    exact h.reported leaseToken message hstage (hscopeDocument.symm.trans hdoc)
  | retried now baseDelaySeconds =>
    rcases retryTask_cases now baseDelaySeconds task with ⟨-, hstat⟩ | ⟨-, hstat⟩
    all_goals
      rw [hstat] at hsuperseded
      cases hsuperseded

/-- **A worker keeps the current version free of superseded tasks**, as long as its processor reports
as coded. -/
theorem Fenced.acted (h : s.Fenced) (hrun : s.workers leaseToken = some run)
    {action : WorkerAction} (hact : s.act leaseToken run action = some s')
    (hallow : s.allows (.worker leaseToken action) = true) : s'.Fenced := by
  have hacted := act_cases hact
  obtain ⟨_, htasks, hmove⟩ := hacted.rowMove
  have hver : s'.tables.caseVersion = s.tables.caseVersion := by
    obtain ⟨_, htabs, -⟩ := hacted.moved
    rw [htabs]
  have hpre : s.stageOf leaseToken = some run.stage := by
    rw [stageOf, hrun]
    rfl
  refine ⟨?_, ?_, ?_, ?_⟩
  · intro task' hmem
    rw [htasks] at hmem
    obtain ⟨task, hold, rfl⟩ := List.mem_map.1 hmem
    obtain ⟨htype, hsame, hdoc, hkey⟩ := (hmove task hold).identity
    intro caseVersion taskType hkey'
    rw [htype, hsame, hdoc]
    exact h.keyed task hold caseVersion taskType (hkey.symm.trans hkey')
  · intro task' hmem hdoc' hstat
    rw [htasks] at hmem
    obtain ⟨task, hold, rfl⟩ := List.mem_map.1 hmem
    obtain ⟨-, hsame, hdoc, -⟩ := (hmove task hold).identity
    rw [hver, hsame]
    rw [hdoc] at hdoc'
    exact h.version_of_superseded hpre hold (hmove task hold) hdoc' hstat
  · intro token stage message hstage hclaimed
    rw [hver]
    by_cases htoken : token = leaseToken
    · subst htoken
      rcases hacted.claimedMessage hstage hclaimed with hold | ⟨_, -, hscope, hclaimable⟩
      · exact h.claimed token run.stage message hpre hold
      · obtain ⟨-, -, -, hcur, -⟩ := of_decide_eq_true hclaimable
        exact ((of_decide_eq_true hscope).2.2.1.symm.trans hcur.symm).le
    · rw [hacted.stageOf_of_ne htoken] at hstage
      exact h.claimed token stage message hstage hclaimed
  · intro token message hstage hdoc
    rw [hver]
    by_cases htoken : token = leaseToken
    · subst htoken
      -- the processor has just reported, and it had claimed the task before
      obtain ⟨rfl, _, hprocessing⟩ := report_of_act hact hstage
      have hle := h.claimed token run.stage message hpre (by rw [hprocessing]; rfl)
      refine Nat.lt_of_le_of_ne hle ?_
      have hmay : s.mayReportSuperseded token = true := hallow
      simp only [mayReportSuperseded, hrun, Option.all_some, hprocessing, hdoc,
        Option.isSome_none, Bool.false_eq_true, false_or, decide_eq_true_eq] at hmay
      exact fun hsame => hmay hsame.symm
    · rw [hacted.stageOf_of_ne htoken] at hstage
      exact h.reported token message hstage hdoc

/-- **The workers and their surroundings keep the current version free of superseded tasks.** -/
theorem Fenced.step (h : s.Fenced) {q : Request} (hallow : s.allows q = true)
    (hstep : s.step q = some s') : s'.Fenced := by
  have hsame : ∀ (tables : CaseTables) (documents : List LiveDocument),
      tables.tasks = s.tables.tasks → s.tables.caseVersion ≤ tables.caseVersion →
      ({ s with tables, documents } : System).Fenced := by
    intro tables documents htasks hver
    refine h.around ?_ hver (fun _ _ hstage => Or.inl hstage)
    intro task hmem
    exact Or.inl (htasks ▸ hmem)
  cases q with
  | acquireSlot =>
    simp only [System.step] at hstep
    split at hstep
    · cases hstep
    obtain ⟨_, -, rfl⟩ := Option.map_eq_some_iff.1 hstep
    refine h.around (fun _ hmem => Or.inl hmem) (Nat.le_refl _) ?_
    intro token stage hstage
    obtain ⟨run, hrun, rfl⟩ := Option.map_eq_some_iff.1 hstage
    rcases update_some_cases hrun with ⟨-, rfl⟩ | ⟨-, hold⟩
    · exact Or.inr rfl
    · exact Or.inl (Option.map_eq_some_iff.2 ⟨run, hold, rfl⟩)
  | worker =>
    obtain ⟨_, hrun, hact⟩ := Option.bind_eq_some_iff.1 hstep
    exact h.acted hrun hact hallow
  | tick =>
    cases hstep
    exact h.around (fun _ hmem => Or.inl hmem) (Nat.le_refl _) (fun _ _ hstage => Or.inl hstage)
  | send =>
    simp only [System.step] at hstep
    split at hstep
    · cases hstep
    cases hstep
    exact h.around (fun _ hmem => Or.inl hmem) (Nat.le_refl _) (fun _ _ hstage => Or.inl hstage)
  | createTask => cases hallow
  | registerIngestion =>
    simp only [System.step] at hstep
    split at hstep
    · cases hstep
    cases hstep
    refine h.around ?_ (Nat.le_refl _) (fun _ _ hstage => Or.inl hstage)
    intro task hmem
    refine (List.mem_append.1 hmem).imp_right ?_
    intro hnew
    rw [List.mem_singleton.1 hnew]
    exact ⟨fun _ _ hkey => (by cases hkey), rfl⟩
  | staleDocument =>
    cases hstep
    exact hsame _ _ rfl (Nat.le_refl _)
  | bumpCaseVersion revision handoffId =>
    simp only [System.step] at hstep
    split at hstep
    · rename_i tables hbump
      cases hstep
      refine hsame tables s.documents (CaseTables.bumpCaseVersion_frame hbump).1 ?_
      rw [(CaseTables.bumpCaseVersion_next hbump).2]
      exact Nat.le_succ _
    · cases hstep
  | otherWrites tables =>
    simp only [System.step] at hstep
    split at hstep
    · rename_i hkept
      cases hstep
      exact hsame tables s.documents hkept.2.2 hkept.2.1.ge
    · cases hstep

/-- The keys that are taken stay taken. -/
theorem hasKey_step {q : Request} (hstep : s.step q = some s') {key : TaskKey}
    (h : HasKey s.tables key) : HasKey s'.tables key := by
  obtain ⟨task, hmem, hkey⟩ := h
  cases step_cases hstep with
  | acted _ _ _ _ hacted =>
    obtain ⟨move, htasks, hmove⟩ := hacted.rowMove
    refine ⟨move task, ?_, (hmove task hmem).identity.2.2.2.trans hkey⟩
    rw [htasks]
    exact List.mem_map_of_mem hmem
  | created _ tables _ htabs =>
    refine ⟨task, ?_, hkey⟩
    change task ∈ tables.tasks
    rw [htabs]
    exact List.mem_append_left _ hmem
  | others tables _ htasks =>
    refine ⟨task, ?_, hkey⟩
    change task ∈ tables.tasks
    rw [htasks]
    exact hmem
  | acquired | ticked | sent => exact ⟨task, hmem, hkey⟩

/-- Only a bump moves the case version. -/
def bumps : Request → Bool
  | .bumpCaseVersion _ _ => true
  | _ => false

theorem version_step {q : Request} (hstep : s.step q = some s') (hbump : bumps q = false) :
    s'.tables.caseVersion = s.tables.caseVersion := by
  cases q with
  | acquireSlot =>
    simp only [System.step] at hstep
    split at hstep
    · cases hstep
    obtain ⟨_, -, rfl⟩ := Option.map_eq_some_iff.1 hstep
    rfl
  | worker =>
    obtain ⟨_, _, hact⟩ := Option.bind_eq_some_iff.1 hstep
    obtain ⟨_, htabs, -⟩ := (act_cases hact).moved
    rw [htabs]
  | tick | staleDocument =>
    cases hstep
    rfl
  | send | registerIngestion =>
    simp only [System.step] at hstep
    split at hstep <;> cases hstep
    rfl
  | createTask =>
    simp only [System.step] at hstep
    split at hstep <;> cases hstep
    exact CaseTables.createTask_caseVersion ..
  | bumpCaseVersion => cases hbump
  | otherWrites tables =>
    simp only [System.step] at hstep
    split at hstep
    · rename_i hkept
      cases hstep
      exact hkept.2.1
    · cases hstep

end System

/-! ## The executions in flight -/

/-- Every type the execution found ready is still to be scheduled, or holds its key. -/
def Planned (tables : CaseTables) (run : AdvanceRun) : Prop :=
  ∀ steps, run.pendingSteps = some steps → run.pendingGates = [] ∧
    ∀ taskType ∈ (evaluateReadiness run.graphed .canonical).readyTypes,
      taskType ∈ steps.map (·.taskType) ∨ HasKey tables (.orch run.snapshot.caseVersion taskType)

theorem Planned.mono {tables tables' : CaseTables} {run : AdvanceRun} (h : Planned tables run)
    (hkeep : ∀ key, HasKey tables key → HasKey tables' key) : Planned tables' run := by
  intro steps hsteps
  obtain ⟨hgates, hready⟩ := h steps hsteps
  exact ⟨hgates, fun taskType htype => (hready taskType htype).imp_right (hkeep _)⟩

section Stages

variable {tables tables' : CaseTables} {run run' : AdvanceRun} {now : Timestamp}

theorem Planned.refreshGate (h : Planned tables run)
    (hstep : run.refreshGate tables now = some (tables', run')) : Planned tables' run' := by
  unfold AdvanceRun.refreshGate at hstep
  split at hstep
  · cases hstep
  rename_i gateType record rest hpend
  cases hstep
  intro steps hsteps
  rw [(h steps hsteps).1] at hpend
  cases hpend

theorem Planned.planSteps {answer : GatewayAnswer}
    (hstep : run.planSteps .canonical answer = some run') : Planned tables run' := by
  unfold AdvanceRun.planSteps at hstep
  split at hstep
  · rename_i hgates hnone
    cases hstep
    intro steps hsteps
    cases hsteps
    refine ⟨hgates, fun taskType htype => Or.inl ?_⟩
    exact (plan_perm_readyTypes _ _ answer).mem_iff.2 htype
  · cases hstep

/-- A turn of the schedule takes a step off the plan and its key with it. -/
theorem Planned.schedule (h : Planned tables run) {taskId : Uuid}
    (hstep : run.schedule .canonical tables taskId now = some (tables', run')) :
    Planned tables' run' := by
  unfold AdvanceRun.schedule at hstep
  split at hstep
  · rename_i step rest hsteps
    cases hstep
    intro steps hrest
    cases hrest
    obtain ⟨hgates, hready⟩ := h _ hsteps
    refine ⟨hgates, fun taskType htype => ?_⟩
    rcases hready taskType htype with hplanned | hkey
    · rcases List.mem_cons.1 hplanned with rfl | hlater
      · exact Or.inr (hasKey_createTask ..)
      · exact Or.inl hlater
    · exact Or.inr (hkey.mono CaseTables.subset_createTask_tasks)
  · cases hstep

end Stages

section Engine

variable {e e' : Engine} {q : EngineRequest}

/-- **The tasks after an engine step**: those before it, and at most one new one. -/
theorem mem_tasks_engine_step (hstep : Engine.step e q = some e') (hq : movesStatus q = false)
    {task : ProcessingTask} (hmem : task ∈ e'.tables.tasks) :
    task ∈ e.tables.tasks ∨ (RowKeyed task ∧ task.status = .pending) := by
  cases Engine.step_cases hstep with
  | workerMoves => cases hq
  | kickoff =>
    rcases mem_createTask_cases hmem with hold | rfl
    · exact Or.inl hold
    · exact Or.inr ⟨rowKeyed_planTask _ _ _ _ _, rfl⟩
  | advanceLoad | advancePlan => exact Or.inl hmem
  | advanceRefresh _ _ _ _ _ _ hrefr =>
    obtain ⟨_, _, -, rfl⟩ := AdvanceRun.refreshGate_tables hrefr
    rw [CaseTables.ensureGate_frame] at hmem
    exact Or.inl hmem
  | advanceSchedule _ _ _ _ _ _ _ hsched =>
    obtain ⟨_, -, rfl⟩ := AdvanceRun.schedule_tables hsched
    rcases mem_createTask_cases hmem with hold | rfl
    · exact Or.inl hold
    · exact Or.inr ⟨rowKeyed_agentTask _ _ _ _, rfl⟩

theorem tasks_subset_engine_step (hstep : Engine.step e q = some e') (hq : movesStatus q = false) :
    e.tables.tasks ⊆ e'.tables.tasks := by
  cases Engine.step_cases hstep with
  | workerMoves => cases hq
  | kickoff => exact CaseTables.subset_createTask_tasks
  | advanceLoad | advancePlan => exact List.Subset.refl _
  | advanceRefresh _ _ _ _ _ _ hrefr =>
    obtain ⟨_, _, -, rfl⟩ := AdvanceRun.refreshGate_tables hrefr
    rw [CaseTables.ensureGate_frame]
    exact List.Subset.refl _
  | advanceSchedule _ _ _ _ _ _ _ hsched =>
    obtain ⟨_, -, rfl⟩ := AdvanceRun.schedule_tables hsched
    exact CaseTables.subset_createTask_tasks

/-- An execution goes on from where it stood, at the version it read, or it has just loaded. -/
theorem advances_engine_step (hstep : Engine.step e q = some e') {executionId : Uuid}
    {run' : AdvanceRun} (hrun' : e'.advances executionId = some run') :
    (e.advances executionId = none ∧ run'.pendingSteps = none) ∨
      ∃ run, e.advances executionId = some run ∧ run'.snapshot = run.snapshot := by
  cases Engine.step_cases hstep with
  | workerMoves | kickoff => exact Or.inr ⟨run', hrun', rfl⟩
  | advanceLoad _ hfree =>
    rcases update_some_cases hrun' with ⟨rfl, rfl⟩ | ⟨-, hold⟩
    · exact Or.inl ⟨hfree, rfl⟩
    · exact Or.inr ⟨run', hold, rfl⟩
  | advanceRefresh _ _ run _ _ hrun hrefr =>
    rcases update_some_cases hrun' with ⟨rfl, rfl⟩ | ⟨-, hold⟩
    · exact Or.inr ⟨run, hrun, AdvanceRun.refreshGate_snapshot hrefr⟩
    · exact Or.inr ⟨run', hold, rfl⟩
  | advancePlan _ _ run _ hrun hplan =>
    rcases update_some_cases hrun' with ⟨rfl, rfl⟩ | ⟨-, hold⟩
    · exact Or.inr ⟨run, hrun, AdvanceRun.planSteps_snapshot hplan⟩
    · exact Or.inr ⟨run', hold, rfl⟩
  | advanceSchedule _ _ _ run _ _ hrun hsched =>
    rcases update_some_cases hrun' with ⟨rfl, rfl⟩ | ⟨-, hold⟩
    · exact Or.inr ⟨run, hrun, AdvanceRun.schedule_snapshot hsched⟩
    · exact Or.inr ⟨run', hold, rfl⟩

/-- **The executions stay planned.** -/
theorem planned_engine_step
    (h : ∀ executionId run, e.advances executionId = some run → Planned e.tables run)
    (hstep : Engine.step e q = some e') (hq : movesStatus q = false) :
    ∀ executionId run, e'.advances executionId = some run → Planned e'.tables run := by
  have hkeep : ∀ key, HasKey e.tables key → HasKey e'.tables key :=
    fun _ hkey => hkey.mono (tasks_subset_engine_step hstep hq)
  have hothers : ∀ executionId run, e.advances executionId = some run → Planned e'.tables run :=
    fun executionId run hrun => (h executionId run hrun).mono hkeep
  intro executionId run' hrun'
  cases Engine.step_cases hstep with
  | workerMoves => cases hq
  | kickoff => exact hothers executionId run' hrun'
  | advanceLoad =>
    rcases update_some_cases hrun' with ⟨-, rfl⟩ | ⟨-, hold⟩
    · intro steps hsteps
      cases hsteps
    · exact hothers executionId run' hold
  | advanceRefresh refreshed _ run _ _ hrun hrefr =>
    rcases update_some_cases hrun' with ⟨-, rfl⟩ | ⟨-, hold⟩
    · exact (h refreshed run hrun).refreshGate hrefr
    · exact hothers executionId run' hold
  | advancePlan _ _ _ _ _ hplan =>
    rcases update_some_cases hrun' with ⟨-, rfl⟩ | ⟨-, hold⟩
    · exact Planned.planSteps hplan
    · exact hothers executionId run' hold
  | advanceSchedule scheduled _ _ run _ _ hrun hsched =>
    rcases update_some_cases hrun' with ⟨-, rfl⟩ | ⟨-, hold⟩
    · exact (h scheduled run hrun).schedule hsched
    · exact hothers executionId run' hold

/-- An execution in flight stays in flight. -/
theorem advances_persist (hstep : Engine.step e q = some e') {executionId : Uuid} {run : AdvanceRun}
    (hrun : e.advances executionId = some run) : ∃ run', e'.advances executionId = some run' := by
  have hupdate : ∀ (other : Uuid) (next : AdvanceRun),
      ∃ run', Function.update e.advances other (some next) executionId = some run' := by
    intro other next
    by_cases hsame : executionId = other
    · subst hsame
      exact ⟨next, Function.update_self ..⟩
    · exact ⟨run, by rw [Function.update_of_ne hsame, hrun]⟩
  cases Engine.step_cases hstep with
  | workerMoves | kickoff => exact ⟨run, hrun⟩
  | advanceLoad loaded => exact hupdate loaded _
  | advanceRefresh refreshed _ _ next => exact hupdate refreshed next
  | advancePlan planned _ _ next => exact hupdate planned next
  | advanceSchedule scheduled _ _ _ next =>
    exact hupdate scheduled next

end Engine

/-! ## The case over its runs -/

namespace CaseWorld

variable {w w' : CaseWorld} {q : CaseRequest} {executionId : Uuid}

/-- What an execution that has scheduled its plan answers for: every type it found ready holds its key,
and the deadlock of its report is logged or due. -/
structure Accounted (w : CaseWorld) (executionId : Uuid) (closing : Closing) : Prop where
  ready : ∀ taskType ∈ closing.result.readiness.readyTypes,
    HasKey w.system.tables (.orch closing.result.caseVersion taskType)
  evaluated : ∃ snapshot, closing.result.readiness = evaluateReadiness snapshot .canonical
  deadlock : closing.result.deadlock = closing.result.readiness.deadlock
  surfaced : ∀ deadlock, closing.result.deadlock = some deadlock →
    .orchestrationDeadlock deadlock ∈ closing.due ∨
      ∃ audit ∈ w.log, audit.executionId = executionId ∧
        audit.event = .orchestrationDeadlock deadlock

/-- The invariant of the case. -/
structure Sound (w : CaseWorld) : Prop where
  fenced : w.system.Fenced
  planned : ∀ executionId run, w.advances executionId = some run → Planned w.system.tables run
  accounted : ∀ executionId closing, w.closings executionId = some closing →
    w.Accounted executionId closing
  loaded : ∀ executionId closing, w.closings executionId = some closing →
    ∃ run, w.advances executionId = some run

theorem start_sound (tables : CaseTables) : Sound (start tables) where
  fenced := System.idle_fenced tables
  planned _ _ h := by cases h
  accounted _ _ h := by cases h
  loaded _ _ h := by cases h

theorem Accounted.mono {closing : Closing} (h : w.Accounted executionId closing)
    (hkeep : ∀ key, HasKey w.system.tables key → HasKey w'.system.tables key)
    (hlog : w.log ⊆ w'.log) : w'.Accounted executionId closing where
  ready taskType htype := hkeep _ (h.ready taskType htype)
  evaluated := h.evaluated
  deadlock := h.deadlock
  surfaced deadlock hdeadlock := by
    rcases h.surfaced deadlock hdeadlock with hdue | ⟨audit, hmem, haudit⟩
    · exact Or.inl hdue
    · exact Or.inr ⟨audit, hlog hmem, haudit⟩

/-- An execution closes with a full account. -/
theorem accounted_of_closeRun {run : AdvanceRun} {closing : Closing}
    (h : Planned w.system.tables run) (hclose : closeRun run = some closing) :
    w.Accounted executionId closing := by
  unfold closeRun at hclose
  split at hclose
  · rename_i hsteps
    cases hclose
    refine ⟨?_, ⟨run.graphed, rfl⟩, rfl, ?_⟩
    · intro taskType htype
      rcases (h [] hsteps).2 taskType htype with hplanned | hkey
      · cases hplanned
      · exact hkey
    · intro deadlock hdeadlock
      refine Or.inl (List.mem_append_left _ ?_)
      rw [Option.mem_toList]
      exact congrArg (Option.map AdvanceEvent.orchestrationDeadlock) hdeadlock
  · cases hclose

theorem accounted_of_closing {closing : Closing} (h : Sound w)
    (hclosing : w.closing executionId = some closing) : w.Accounted executionId closing := by
  rw [CaseWorld.closing, Option.or_eq_some_iff] at hclosing
  rcases hclosing with hopen | ⟨-, hrun⟩
  · exact h.accounted executionId closing hopen
  · obtain ⟨run, hrun, hclose⟩ := Option.bind_eq_some_iff.1 hrun
    exact accounted_of_closeRun (h.planned executionId run hrun) hclose

/-- A step of the engine, or a gate write, keeps the case sound. -/
theorem Sound.withEngine (h : Sound w) {e : Engine}
    (hsub : w.system.tables.tasks ⊆ e.tables.tasks)
    (htasks : ∀ task ∈ e.tables.tasks, task ∈ w.system.tables.tasks ∨
      (RowKeyed task ∧ task.status = .pending))
    (hver : e.tables.caseVersion = w.system.tables.caseVersion)
    (hplanned : ∀ executionId run, e.advances executionId = some run → Planned e.tables run)
    (hadvs : ∀ executionId run, w.advances executionId = some run →
      ∃ run', e.advances executionId = some run') : Sound (w.withEngine e) where
  fenced := h.fenced.around htasks hver.ge (fun _ _ hstage => Or.inl hstage)
  planned := hplanned
  accounted executionId closing hclosing :=
    (h.accounted executionId closing hclosing).mono (fun _ hkey => hkey.mono hsub)
      (List.Subset.refl _)
  loaded executionId closing hclosing := by
    obtain ⟨run, hrun⟩ := h.loaded executionId closing hclosing
    exact hadvs executionId run hrun

/-- **Every transaction keeps the case sound.** -/
theorem Sound.step (h : Sound w) (hstep : w.step q = some w') : Sound w' := by
  cases q with
  | worker request =>
    simp only [CaseWorld.step] at hstep
    split at hstep
    · rename_i hallow
      obtain ⟨system, hsys, rfl⟩ := Option.map_eq_some_iff.1 hstep
      have hkeep : ∀ key, HasKey w.system.tables key → HasKey system.tables key :=
        fun _ => System.hasKey_step hsys
      exact {
        fenced := h.fenced.step hallow hsys
        planned := fun executionId run hrun => (h.planned executionId run hrun).mono hkeep
        accounted := fun executionId closing hclosing =>
          (h.accounted executionId closing hclosing).mono hkeep (List.Subset.refl _)
        loaded := h.loaded }
    · cases hstep
  | engine request =>
    simp only [CaseWorld.step] at hstep
    split at hstep
    · cases hstep
    rename_i hmoves
    rw [Bool.not_eq_true] at hmoves
    obtain ⟨e, heng, rfl⟩ := Option.map_eq_some_iff.1 hstep
    exact h.withEngine (tasks_subset_engine_step heng hmoves)
      (fun _ hmem => mem_tasks_engine_step heng hmoves hmem) (Engine.step_frame heng).1
      (planned_engine_step h.planned heng hmoves)
      (fun _ _ hrun => advances_persist heng hrun)
  | humanGate caseVersion gateType now actorId dispositionRef =>
    cases hstep
    have hframe := CaseTables.ensureGate_frame w.system.tables caseVersion gateType .satisfied now
      (some actorId) dispositionRef
    refine h.withEngine ?_ ?_ ?_ ?_ (fun _ run hrun => ⟨run, hrun⟩)
    · rw [hframe]
      exact List.Subset.refl _
    · rw [hframe]
      exact fun _ hmem => Or.inl hmem
    · rw [hframe]
    · intro executionId run hrun
      refine (h.planned executionId run hrun).mono ?_
      intro key hkey
      rw [hframe]
      exact hkey
  | advanceAudit executionId =>
    simp only [CaseWorld.step] at hstep
    split at hstep
    · rename_i result event due hclosing
      cases hstep
      have hacct := accounted_of_closing h hclosing
      refine ⟨h.fenced, h.planned, ?_, ?_⟩
      · intro other closing hother
        rcases update_some_cases hother with ⟨rfl, rfl⟩ | ⟨-, hold⟩
        · -- the event leaves the due ones and joins the log
          refine ⟨hacct.ready, hacct.evaluated, hacct.deadlock, ?_⟩
          intro deadlock hdeadlock
          rcases hacct.surfaced deadlock hdeadlock with hdue | ⟨audit, hmem, haudit⟩
          · rcases List.mem_cons.1 hdue with rfl | hlater
            · exact Or.inr ⟨_, List.mem_cons_self, rfl, rfl⟩
            · exact Or.inl hlater
          · exact Or.inr ⟨audit, List.mem_cons_of_mem _ hmem, haudit⟩
        · exact (h.accounted other closing hold).mono (fun _ hkey => hkey)
            (List.subset_cons_self _ _)
      · intro other closing hother
        rcases update_some_cases hother with ⟨rfl, rfl⟩ | ⟨-, hold⟩
        · rw [CaseWorld.closing, Option.or_eq_some_iff] at hclosing
          rcases hclosing with hopen | ⟨-, hrun⟩
          · exact h.loaded other _ hopen
          · obtain ⟨run, hrun, -⟩ := Option.bind_eq_some_iff.1 hrun
            exact ⟨run, hrun⟩
        · exact h.loaded other closing hold
    · cases hstep

/-- **Every reachable case is sound.** -/
theorem sound_of_run {tables : CaseTables} {requests : List CaseRequest}
    (hrun : run CaseWorld.step (start tables) requests = some w) : Sound w :=
  run_invariant (fun h hstep => h.step hstep) (start_sound tables) hrun

/-! ## The version an execution reads -/

/-- The execution is in flight and read the version. -/
structure ReadAt (w : CaseWorld) (executionId : Uuid) (caseVersion : CaseVersion) : Prop where
  inFlight : ∃ run, w.advances executionId = some run
  run : ∀ run, w.advances executionId = some run → run.snapshot.caseVersion = caseVersion
  closing : ∀ closing, w.closings executionId = some closing →
    closing.result.caseVersion = caseVersion

theorem closeRun_caseVersion {run : AdvanceRun} {closing : Closing}
    (h : closeRun run = some closing) : closing.result.caseVersion = run.snapshot.caseVersion := by
  unfold closeRun at h
  split at h
  · cases h
    rfl
  · cases h

/-- **An execution stays at the version it read.** -/
theorem ReadAt.step {caseVersion : CaseVersion} (h : w.ReadAt executionId caseVersion)
    (hstep : w.step q = some w') : w'.ReadAt executionId caseVersion := by
  cases q with
  | worker =>
    simp only [CaseWorld.step] at hstep
    split at hstep
    · obtain ⟨_, -, rfl⟩ := Option.map_eq_some_iff.1 hstep
      exact ⟨h.inFlight, h.run, h.closing⟩
    · cases hstep
  | engine =>
    simp only [CaseWorld.step] at hstep
    split at hstep
    · cases hstep
    obtain ⟨e, heng, rfl⟩ := Option.map_eq_some_iff.1 hstep
    obtain ⟨_, hrun⟩ := h.inFlight
    refine ⟨advances_persist heng hrun, ?_, h.closing⟩
    intro run' hrun'
    rcases advances_engine_step heng hrun' with ⟨hnone, -⟩ | ⟨before, hpre, hsnap⟩
    · cases hrun.symm.trans hnone
    rw [hsnap]
    exact h.run before hpre
  | humanGate =>
    cases hstep
    exact ⟨h.inFlight, h.run, h.closing⟩
  | advanceAudit other =>
    simp only [CaseWorld.step] at hstep
    split at hstep
    · rename_i result event due hclosing
      cases hstep
      refine ⟨h.inFlight, h.run, ?_⟩
      intro closing hnow
      rcases update_some_cases hnow with ⟨rfl, rfl⟩ | ⟨-, hold⟩
      · rw [CaseWorld.closing, Option.or_eq_some_iff] at hclosing
        rcases hclosing with hopen | ⟨-, hrun⟩
        · exact h.closing ⟨result, event :: due⟩ hopen
        · obtain ⟨run, hrun, hclose⟩ := Option.bind_eq_some_iff.1 hrun
          exact (closeRun_caseVersion hclose).trans (h.run run hrun)
      · exact h.closing closing hold
    · cases hstep

/-- An execution reads the version that is current when it loads its snapshot. -/
theorem readAt_of_load (h : Sound w) (hload : w.step (.engine (.advanceLoad executionId)) = some w') :
    w'.ReadAt executionId w.system.tables.caseVersion := by
  simp only [CaseWorld.step, movesStatus, Bool.false_eq_true, if_false] at hload
  obtain ⟨e, heng, rfl⟩ := Option.map_eq_some_iff.1 hload
  cases Engine.step_cases heng with
  | advanceLoad _ hfree =>
    refine ⟨⟨_, Function.update_self ..⟩, ?_, ?_⟩
    · intro run hrun
      rcases update_some_cases hrun with ⟨-, rfl⟩ | ⟨hne, -⟩
      · rfl
      · exact absurd rfl hne
    · intro closing hclosing
      obtain ⟨_, hrun⟩ := h.loaded executionId closing hclosing
      cases hrun.symm.trans hfree

/-- Only a bump moves the version of the case. -/
def bumps : CaseRequest → Bool
  | .worker request => System.bumps request
  | .engine _ | .humanGate _ _ _ _ _ | .advanceAudit _ => false

theorem version_step (hstep : w.step q = some w') (hbump : bumps q = false) :
    w'.system.tables.caseVersion = w.system.tables.caseVersion := by
  cases q with
  | worker =>
    simp only [CaseWorld.step] at hstep
    split at hstep
    · obtain ⟨_, hsys, rfl⟩ := Option.map_eq_some_iff.1 hstep
      exact System.version_step hsys hbump
    · cases hstep
  | engine =>
    simp only [CaseWorld.step] at hstep
    split at hstep
    · cases hstep
    obtain ⟨e, heng, rfl⟩ := Option.map_eq_some_iff.1 hstep
    exact (Engine.step_frame heng).1
  | humanGate =>
    cases hstep
    change (w.system.tables.ensureGate ..).caseVersion = _
    rw [CaseTables.ensureGate_frame]
  | advanceAudit =>
    simp only [CaseWorld.step] at hstep
    split at hstep <;> cases hstep
    rfl

theorem version_run {requests : List CaseRequest} (hbumps : ∀ q ∈ requests, bumps q = false)
    (hrun : run CaseWorld.step w requests = some w') :
    w'.system.tables.caseVersion = w.system.tables.caseVersion := by
  induction requests generalizing w with
  | nil =>
    cases hrun
    rfl
  | cons q _ ih =>
    obtain ⟨m, hm, hrest⟩ := run_cons_eq_some.1 hrun
    rw [ih (fun r hr => hbumps r (List.mem_cons_of_mem _ hr)) hrest]
    exact version_step hm (hbumps q List.mem_cons_self)

/-! ## Progress -/

/-- **A committed execution leaves nothing to stall.** Whatever else commits before it and while it
runs, every type it found ready has a task at the version it read, and the task is live as long as the
case is at that version, which only a bump while the execution ran can change. A report without a
ready or running node and with a node that is not complete is surfaced as a deadlock and logged. -/
theorem advance_progress {tables : CaseTables} {before during : List CaseRequest}
    {w₀ w : CaseWorld} {executionId : Uuid} {result : AdvanceResult}
    (hpre : run CaseWorld.step (start tables) before = some w₀)
    (hduring : run CaseWorld.step w₀ (.engine (.advanceLoad executionId) :: during) = some w)
    (hcommitted : w.Committed executionId result) :
    (∀ taskType ∈ result.readiness.readyTypes, ∃ task ∈ w.system.tables.tasks,
      task.taskType = taskType ∧ task.caseVersion = w₀.system.tables.caseVersion ∧
        (w.system.tables.caseVersion = w₀.system.tables.caseVersion → task.status ≠ .superseded)) ∧
    ((∀ q ∈ during, bumps q = false) →
      w.system.tables.caseVersion = w₀.system.tables.caseVersion) ∧
    ((∀ a ∈ result.readiness.assessments, a.readiness ≠ .ready ∧ a.readiness ≠ .inProgress) →
      (∃ a ∈ result.readiness.assessments, a.readiness ≠ .complete) →
      ∃ deadlock, result.deadlock = some deadlock ∧ ∃ audit ∈ w.log,
        audit.executionId = executionId ∧ audit.event = .orchestrationDeadlock deadlock) := by
  have hsound₀ := sound_of_run hpre
  obtain ⟨_, hload, hrest⟩ := run_cons_eq_some.1 hduring
  have hsound : Sound w :=
    run_invariant (fun h hstep => h.step hstep) (hsound₀.step hload) hrest
  have hread₁ := readAt_of_load hsound₀ hload
  have hread : w.ReadAt executionId w₀.system.tables.caseVersion :=
    run_invariant (fun h hstep => ReadAt.step h hstep) hread₁ hrest
  have hacct := hsound.accounted executionId _ hcommitted
  have hver : result.caseVersion = w₀.system.tables.caseVersion := hread.closing _ hcommitted
  refine ⟨?_, ?_, ?_⟩
  · intro taskType htype
    obtain ⟨task, hmem, hkey⟩ := hacct.ready taskType htype
    obtain ⟨hsame, htaskVersion, hdoc⟩ := hsound.fenced.keyed task hmem _ _ hkey
    refine ⟨task, hmem, hsame, htaskVersion.trans hver, ?_⟩
    intro hcur hsuperseded
    have hpast := hsound.fenced.superseded task hmem hdoc hsuperseded
    rw [htaskVersion, hver, hcur] at hpast
    exact Nat.lt_irrefl _ hpast
  · intro hbumps
    rw [version_run hbumps hrest]
    exact version_step hload rfl
  · intro hstill hwork
    obtain ⟨snapshot, hevaluated⟩ : ∃ snapshot, result.readiness =
      evaluateReadiness snapshot .canonical := hacct.evaluated
    have hsome : result.readiness.deadlock.isSome = true := by
      rw [hevaluated] at hstill hwork ⊢
      exact evaluateReadiness_deadlock (by decide) hstill hwork
    obtain ⟨deadlock, hdeadlock⟩ := Option.isSome_iff_exists.1 hsome
    have hres : result.deadlock = some deadlock := hacct.deadlock.trans hdeadlock
    refine ⟨deadlock, hres, ?_⟩
    rcases hacct.surfaced deadlock hres with hdue | hlogged
    · cases hdue
    · exact hlogged

/-- The first execution on a case that intake has handed off. -/
def firstAdvance : List CaseRequest :=
  (Engine.advanceCase 5 [30, 31]).tail.map .engine ++ [.advanceAudit 5]

/-- It schedules both makers, and they are live. -/
theorem firstAdvance_progress :
    ∃ w result, run CaseWorld.step (start (Engine.handedOff 1 2 3).tables)
        (.engine (.advanceLoad 5) :: firstAdvance) = some w ∧ w.Committed 5 result ∧
      ∃ task ∈ w.system.tables.tasks, task.taskType = .legalComplianceCollateral ∧
        task.caseVersion = 1 ∧ task.status ≠ .superseded := by
  have hcoms : ((run CaseWorld.step (start (Engine.handedOff 1 2 3).tables)
      (.engine (.advanceLoad 5) :: firstAdvance)).any fun w =>
        (w.closings 5).any fun closing =>
          closing.due = [] ∧ .legalComplianceCollateral ∈ closing.result.readiness.readyTypes) =
      true := by
    decide +kernel
  obtain ⟨w, hrun, hclosed⟩ := (Option.any_eq_true _ _).1 hcoms
  obtain ⟨⟨result, _⟩, hcommitted, hready⟩ := (Option.any_eq_true _ _).1 hclosed
  obtain ⟨rfl, hready⟩ := of_decide_eq_true hready
  obtain ⟨htasks, hver, -⟩ := advance_progress
    (rfl : run CaseWorld.step (start (Engine.handedOff 1 2 3).tables) [] = some _) hrun hcommitted
  obtain ⟨task, hmem, htype, htaskVersion, hlive⟩ := htasks _ hready
  exact ⟨w, result, hrun, hcommitted, task, hmem, htype, htaskVersion, hlive (hver (by decide))⟩

end CaseWorld

end CreditOps.Workers
