import CreditOps.Library.PartialMap
import CreditOps.Orchestration.Advance

/-!
# The engine of one case

The orchestration tables of a case together with the `AdvanceCase` executions in flight, and the
requests that touch nothing else: a worker moves the status of a task, a trigger creates a planning
task, and an execution takes its next transaction. The workflows of the case share an engine and add
tables of their own.
-/

set_option autoImplicit false

namespace CreditOps.Orchestration

open PartialMap

/-- The tables of the case and the executions in flight, by the uuid each of them draws. -/
structure Engine where
  tables : CaseTables
  advances : Uuid → Option AdvanceRun

/-- One transaction of the engine. -/
inductive EngineRequest where
  | workerMoves (taskId : Uuid) (status : TaskStatus)
  | kickoff (taskId : Uuid) (triggerRef : Option String) (now : Timestamp)
  | advanceLoad (executionId : Uuid)
  | advanceRefresh (executionId : Uuid) (now : Timestamp)
  | advancePlan (executionId : Uuid) (answer : GatewayAnswer)
  | advanceSchedule (executionId taskId : Uuid) (now : Timestamp)
deriving DecidableEq

/-- The status moves a worker commits. -/
def workerMoves : TaskStatus → List TaskStatus
  | .pending | .retryWait => [.running]
  | .running => [.succeeded, .superseded, .retryWait, .failedManualReview]
  | .succeeded | .failedManualReview | .superseded => []

/-- Set the status of a task. -/
def CaseTables.setStatus (tables : CaseTables) (taskId : Uuid) (status : TaskStatus) : CaseTables :=
  { tables with
    tasks := tables.tasks.map fun task => if task.id = taskId then { task with status } else task }

namespace Engine

/-- The step function; `none` for a request that is not at that point or is refused. -/
def step (e : Engine) : EngineRequest → Option Engine
  | .workerMoves taskId status =>
    match e.tables.tasks.find? (·.id = taskId) with
    | none => none
    | some task =>
      if status ∈ workerMoves task.status then
        some { e with tables := e.tables.setStatus taskId status }
      else none
  | .kickoff taskId triggerRef now =>
    some { e with
           tables := e.tables.createTask taskId e.tables.caseVersion .orchestratorPlan
            (.orchPlan e.tables.caseVersion triggerRef) now [] }
  | .advanceLoad executionId =>
    match e.advances executionId with
    | some _ => none
    | none =>
      some { e with
             advances := Function.update e.advances executionId (some (AdvanceRun.load e.tables)) }
  | .advanceRefresh executionId now =>
    ((e.advances executionId).bind (·.refreshGate e.tables now)).map fun p =>
      { tables := p.1, advances := Function.update e.advances executionId (some p.2) }
  | .advancePlan executionId answer =>
    ((e.advances executionId).bind (·.planSteps .canonical answer)).map fun run =>
      { e with advances := Function.update e.advances executionId (some run) }
  | .advanceSchedule executionId taskId now =>
    ((e.advances executionId).bind (·.schedule .canonical e.tables taskId now)).map fun p =>
      { tables := p.1, advances := Function.update e.advances executionId (some p.2) }

/-- A whole `AdvanceCase` execution: it reads the snapshot, refreshes every gate, plans without the
gateway's answer and schedules tasks under the given ids. -/
def advanceCase (executionId : Uuid) (taskIds : List Uuid) : List EngineRequest :=
  .advanceLoad executionId :: List.replicate allGates.length (.advanceRefresh executionId 0) ++
    .advancePlan executionId .notAsked :: taskIds.map fun taskId =>
      .advanceSchedule executionId taskId 0

/-- A case at its first version, handed off by intake, with nothing in flight. -/
def handedOff (caseId handoffId sourceTaskId : Uuid) : Engine where
  tables :=
    { caseId
      caseVersion := 1
      handoffs := [⟨handoffId, 1, sourceTaskId, readyForSpecialistReview, none, none⟩]
      tasks := []
      dependencies := []
      gates := []
      gaps := []
      outbox := []
      audit := [] }
  advances := fun _ => none

variable {e e' : Engine} {q : EngineRequest}

/-! ## What a step can do -/

/-- **The inversion of a step.** The tables change by a status, by one new task, or by a gate write of
an execution in flight; the executions change at one place, to a fresh one or to the next stage of
the one that was there. -/
inductive Stepped (e : Engine) : EngineRequest → Engine → Prop where
  | workerMoves (taskId : Uuid) (status : TaskStatus) :
      Stepped e (.workerMoves taskId status)
        { e with tables := e.tables.setStatus taskId status }
  | kickoff (taskId : Uuid) (triggerRef : Option String) (now : Timestamp) :
      Stepped e (.kickoff taskId triggerRef now)
        { e with
          tables := e.tables.createTask taskId e.tables.caseVersion .orchestratorPlan
            (.orchPlan e.tables.caseVersion triggerRef) now [] }
  | advanceLoad (executionId : Uuid) (hfree : e.advances executionId = none) :
      Stepped e (.advanceLoad executionId)
        { e with
          advances := Function.update e.advances executionId (some (AdvanceRun.load e.tables)) }
  | advanceRefresh (executionId : Uuid) (now : Timestamp) (run run' : AdvanceRun)
      (tables' : CaseTables) (hrun : e.advances executionId = some run)
      (hrefr : run.refreshGate e.tables now = some (tables', run')) :
      Stepped e (.advanceRefresh executionId now)
        { tables := tables', advances := Function.update e.advances executionId (some run') }
  | advancePlan (executionId : Uuid) (answer : GatewayAnswer) (run run' : AdvanceRun)
      (hrun : e.advances executionId = some run)
      (hplan : run.planSteps .canonical answer = some run') :
      Stepped e (.advancePlan executionId answer)
        { e with advances := Function.update e.advances executionId (some run') }
  | advanceSchedule (executionId taskId : Uuid) (now : Timestamp) (run run' : AdvanceRun)
      (tables' : CaseTables) (hrun : e.advances executionId = some run)
      (hsched : run.schedule .canonical e.tables taskId now = some (tables', run')) :
      Stepped e (.advanceSchedule executionId taskId now)
        { tables := tables', advances := Function.update e.advances executionId (some run') }

theorem step_cases (hstep : step e q = some e') : Stepped e q e' := by
  cases q with
  | workerMoves taskId status =>
    simp only [step] at hstep
    split at hstep
    · cases hstep
    split at hstep
    · cases hstep
      exact .workerMoves taskId status
    · cases hstep
  | kickoff taskId triggerRef now =>
    cases hstep
    exact .kickoff taskId triggerRef now
  | advanceLoad executionId =>
    simp only [step] at hstep
    split at hstep
    · cases hstep
    rename_i hfree
    cases hstep
    exact .advanceLoad executionId hfree
  | advanceRefresh executionId now =>
    simp only [step, Option.map_eq_some_iff, Option.bind_eq_some_iff] at hstep
    obtain ⟨⟨tables', run'⟩, ⟨run, hrun, hrefr⟩, rfl⟩ := hstep
    exact .advanceRefresh executionId now run run' tables' hrun hrefr
  | advancePlan executionId answer =>
    simp only [step, Option.map_eq_some_iff, Option.bind_eq_some_iff] at hstep
    obtain ⟨run', ⟨run, hrun, hplan⟩, rfl⟩ := hstep
    exact .advancePlan executionId answer run run' hrun hplan
  | advanceSchedule executionId taskId now =>
    simp only [step, Option.map_eq_some_iff, Option.bind_eq_some_iff] at hstep
    obtain ⟨⟨tables', run'⟩, ⟨run, hrun, hsched⟩, rfl⟩ := hstep
    exact .advanceSchedule executionId taskId now run run' tables' hrun hsched

/-- **The frame of a step.** The engine keeps the case version and the gaps. -/
theorem step_frame (hstep : step e q = some e') :
    e'.tables.caseVersion = e.tables.caseVersion ∧ e'.tables.gaps = e.tables.gaps := by
  cases step_cases hstep with
  | workerMoves | advanceLoad | advancePlan => exact ⟨rfl, rfl⟩
  | kickoff =>
    exact ⟨CaseTables.createTask_caseVersion .., CaseTables.createTask_gaps ..⟩
  | advanceRefresh _ _ _ _ _ _ hrefr =>
    obtain ⟨_, _, -, rfl⟩ := AdvanceRun.refreshGate_tables hrefr
    rw [CaseTables.ensureGate_frame]
    exact ⟨rfl, rfl⟩
  | advanceSchedule _ _ _ _ _ _ _ hsched =>
    obtain ⟨_, -, rfl⟩ := AdvanceRun.schedule_tables hsched
    exact ⟨CaseTables.createTask_caseVersion .., CaseTables.createTask_gaps ..⟩

theorem step_caseId (hstep : step e q = some e') : e'.tables.caseId = e.tables.caseId := by
  cases step_cases hstep with
  | workerMoves | advanceLoad | advancePlan => rfl
  | kickoff => exact CaseTables.createTask_caseId ..
  | advanceRefresh _ _ _ _ _ _ hrefr =>
    obtain ⟨_, _, -, rfl⟩ := AdvanceRun.refreshGate_tables hrefr
    rw [CaseTables.ensureGate_frame]
  | advanceSchedule _ _ _ _ _ _ _ hsched =>
    obtain ⟨_, -, rfl⟩ := AdvanceRun.schedule_tables hsched
    exact CaseTables.createTask_caseId ..

/-! ## The executions in flight -/

/-- Every execution in flight is backed by the stored gates. -/
def Backed (e : Engine) : Prop :=
  ∀ executionId run, e.advances executionId = some run → run.GateBacked e.tables .canonical

/-- Every execution in flight read the current version. -/
def AtVersion (e : Engine) : Prop :=
  ∀ executionId run, e.advances executionId = some run →
    run.snapshot.caseVersion = e.tables.caseVersion

variable {tables : CaseTables}

theorem Backed.withTables (h : Backed e)
    (hkeep : ∀ v g, e.tables.GateSatisfied v g → tables.GateSatisfied v g) :
    Backed { e with tables } :=
  fun executionId run hrun => (h executionId run hrun).mono hkeep

theorem Backed.ensureGate (h : Backed e) (caseVersion : CaseVersion) (gateType : GateType)
    (status : GateStatus) (now : Timestamp) (actorId : Option Uuid)
    (dispositionRef : Option String) :
    Backed { e with
             tables := e.tables.ensureGate caseVersion gateType status now actorId
              dispositionRef } :=
  h.withTables fun _ _ hg => CaseTables.gateSatisfied_ensureGate_of hg

variable {executionId : Uuid} {run : AdvanceRun}

theorem Backed.update (h : Backed e)
    (hkeep : ∀ v g, e.tables.GateSatisfied v g → tables.GateSatisfied v g)
    (hrun : run.GateBacked tables .canonical) :
    Backed { tables, advances := Function.update e.advances executionId (some run) } := by
  intro id r hr
  rcases update_some_cases hr with ⟨-, rfl⟩ | ⟨-, hold⟩
  · exact hrun
  · exact (h id r hold).mono hkeep

variable {v caseVersion : CaseVersion} {g : GateType}

/-- A satisfied gate stays satisfied. -/
theorem gateSatisfied_step (hstep : step e q = some e') (hg : e.tables.GateSatisfied v g) :
    e'.tables.GateSatisfied v g := by
  cases step_cases hstep with
  | workerMoves | advanceLoad | advancePlan => exact hg
  | kickoff =>
    simpa only [CaseTables.GateSatisfied, CaseTables.createTask_gates] using hg
  | advanceRefresh _ _ _ _ _ _ hrefr =>
    obtain ⟨_, _, -, rfl⟩ := AdvanceRun.refreshGate_tables hrefr
    exact CaseTables.gateSatisfied_ensureGate_of hg
  | advanceSchedule _ _ _ _ _ _ _ hsched =>
    obtain ⟨_, -, rfl⟩ := AdvanceRun.schedule_tables hsched
    simpa only [CaseTables.GateSatisfied, CaseTables.createTask_gates] using hg

/-- **The executions stay backed.** -/
theorem Backed.step (h : Backed e) (hstep : step e q = some e') : Backed e' := by
  have hkeep : ∀ v g, e.tables.GateSatisfied v g → e'.tables.GateSatisfied v g :=
    fun _ _ => gateSatisfied_step hstep
  cases step_cases hstep with
  | workerMoves | kickoff => exact h.withTables hkeep
  | advanceLoad => exact h.update hkeep (AdvanceRun.load_gateBacked _ _)
  | advanceRefresh _ _ _ _ _ hrun hrefr =>
    exact h.update hkeep (AdvanceRun.refreshGate_gateBacked (h _ _ hrun) hrefr)
  | advancePlan _ _ _ _ hrun hplan =>
    exact h.update hkeep (AdvanceRun.planSteps_gateBacked (h _ _ hrun) hplan)
  | advanceSchedule _ _ _ _ _ _ hrun hsched =>
    exact h.update hkeep (AdvanceRun.schedule_gateBacked (h _ _ hrun) hsched)

/-- **The engine satisfies nothing but the intake gate.** Any other gate satisfied after a step was
satisfied before it. -/
theorem Backed.gateSatisfied_of_step (h : Backed e) (hstep : Engine.step e q = some e')
    (hg1 : g ≠ .g1IntakeComplete) (hg : e'.tables.GateSatisfied v g) : e.tables.GateSatisfied v g := by
  cases step_cases hstep with
  | workerMoves | advanceLoad | advancePlan => exact hg
  | kickoff =>
    simpa only [CaseTables.GateSatisfied, CaseTables.createTask_gates] using hg
  | advanceRefresh _ _ run _ _ hrun hrefr =>
    obtain ⟨_, _, hmem, rfl⟩ := AdvanceRun.refreshGate_tables hrefr
    -- the row written is one the run holds, and what the run holds as satisfied is stored so
    rcases CaseTables.gateSatisfied_of_ensureGate hg with hold | ⟨hstat, rfl, rfl⟩
    · exact hold
    · exact (h _ _ hrun).pending _ hmem hg1 hstat
  | advanceSchedule _ _ _ _ _ _ _ hsched =>
    obtain ⟨_, -, rfl⟩ := AdvanceRun.schedule_tables hsched
    simpa only [CaseTables.GateSatisfied, CaseTables.createTask_gates] using hg

variable {gate : GateRecord}

/-- A satisfied row stays. -/
theorem mem_gates_step (hstep : step e q = some e') (hmem : gate ∈ e.tables.gates)
    (hstat : gate.status = .satisfied) : gate ∈ e'.tables.gates := by
  cases step_cases hstep with
  | workerMoves | advanceLoad | advancePlan => exact hmem
  | kickoff =>
    rw [CaseTables.createTask_gates]
    exact hmem
  | advanceRefresh _ _ _ _ _ _ hrefr =>
    obtain ⟨_, _, -, rfl⟩ := AdvanceRun.refreshGate_tables hrefr
    exact CaseTables.mem_gates_ensureGate_of_satisfied hmem hstat
  | advanceSchedule _ _ _ _ _ _ _ hsched =>
    obtain ⟨_, -, rfl⟩ := AdvanceRun.schedule_tables hsched
    rw [CaseTables.createTask_gates]
    exact hmem

/-- **The engine writes no row of a human gate.** A row satisfied after a step, of any gate but the
intake gate, is a row from before it. -/
theorem Backed.mem_gates_of_step (h : Backed e) (hkeyed : e.tables.GatesKeyed)
    (hstep : Engine.step e q = some e') (hmem : gate ∈ e'.tables.gates)
    (hstat : gate.status = .satisfied) (hg1 : gate.gateType ≠ .g1IntakeComplete) :
    gate ∈ e.tables.gates := by
  cases step_cases hstep with
  | workerMoves | advanceLoad | advancePlan => exact hmem
  | kickoff =>
    rw [CaseTables.createTask_gates] at hmem
    exact hmem
  | advanceRefresh _ _ run _ _ hrun hrefr =>
    obtain ⟨_, _, hpend, rfl⟩ := AdvanceRun.refreshGate_tables hrefr
    rcases CaseTables.mem_ensureGate_satisfied hkeyed hmem hstat with
      hold | ⟨hsat, hisGate, -, -, hopen⟩
    · exact hold
    · -- what the run holds as satisfied is stored so, and then there was nothing to write
      have htype := (CaseTables.isGate_iff.1 hisGate).2
      exact absurd ((h _ _ hrun).pending _ hpend (htype ▸ hg1) hsat) hopen
  | advanceSchedule _ _ _ _ _ _ _ hsched =>
    obtain ⟨_, -, rfl⟩ := AdvanceRun.schedule_tables hsched
    rw [CaseTables.createTask_gates] at hmem
    exact hmem

/-- The gates stay keyed. -/
theorem gatesKeyed_step (h : e.tables.GatesKeyed) (hstep : step e q = some e') :
    e'.tables.GatesKeyed := by
  cases step_cases hstep with
  | workerMoves | advanceLoad | advancePlan => exact h
  | kickoff =>
    rw [CaseTables.GatesKeyed, CaseTables.createTask_gates]
    exact h
  | advanceRefresh _ _ _ _ _ _ hrefr =>
    obtain ⟨_, _, -, rfl⟩ := AdvanceRun.refreshGate_tables hrefr
    exact h.ensureGate ..
  | advanceSchedule _ _ _ _ _ _ _ hsched =>
    obtain ⟨_, -, rfl⟩ := AdvanceRun.schedule_tables hsched
    rw [CaseTables.GatesKeyed, CaseTables.createTask_gates]
    exact h

theorem AtVersion.step (h : AtVersion e) (hstep : Engine.step e q = some e') : AtVersion e' := by
  have hver := (step_frame hstep).1
  have hupdate : ∀ {executionId : Uuid} {run : AdvanceRun},
      run.snapshot.caseVersion = e.tables.caseVersion →
      ∀ id r, Function.update e.advances executionId (some run) id = some r →
        r.snapshot.caseVersion = e.tables.caseVersion := by
    intro executionId run hrun id r hr
    rcases update_some_cases hr with ⟨-, rfl⟩ | ⟨-, hold⟩
    · exact hrun
    · exact h id r hold
  intro id r hr
  rw [hver]
  cases step_cases hstep with
  | workerMoves | kickoff => exact h id r hr
  | advanceLoad => exact hupdate rfl id r hr
  | advanceRefresh _ _ _ _ _ hrun hrefr =>
    refine hupdate ?_ id r hr
    rw [AdvanceRun.refreshGate_snapshot hrefr]
    exact h _ _ hrun
  | advancePlan _ _ _ _ hrun hplan =>
    refine hupdate ?_ id r hr
    rw [AdvanceRun.planSteps_snapshot hplan]
    exact h _ _ hrun
  | advanceSchedule _ _ _ _ _ _ hrun hsched =>
    refine hupdate ?_ id r hr
    rw [AdvanceRun.schedule_snapshot hsched]
    exact h _ _ hrun

/-! ## Nothing is ahead of the case -/

/-- No task, no key of a planning task and no execution in flight carries a version that the case has
not reached. -/
structure InPast (e : Engine) : Prop where
  tasks : ∀ task ∈ e.tables.tasks, task.caseVersion ≤ e.tables.caseVersion
  planKeys : ∀ task ∈ e.tables.tasks, ∀ caseVersion triggerRef,
    task.idempotencyKey = .orchPlan caseVersion triggerRef → caseVersion ≤ e.tables.caseVersion
  advances : ∀ executionId run, e.advances executionId = some run →
    run.snapshot.caseVersion ≤ e.tables.caseVersion

theorem handedOff_inPast (caseId handoffId sourceTaskId : Uuid) :
    InPast (handedOff caseId handoffId sourceTaskId) where
  tasks _ h := by cases h
  planKeys _ h := by cases h
  advances _ _ h := by cases h

theorem InPast.withTables (h : InPast e) (htasks : tables.tasks = e.tables.tasks)
    (hver : e.tables.caseVersion ≤ tables.caseVersion) : InPast { e with tables } where
  tasks task hmem := (h.tasks task (htasks ▸ hmem)).trans hver
  planKeys task hmem caseVersion triggerRef hkey :=
    (h.planKeys task (htasks ▸ hmem) caseVersion triggerRef hkey).trans hver
  advances executionId run hrun := (h.advances executionId run hrun).trans hver

/-- A new task at a version the case has reached. -/
theorem InPast.createTask (h : InPast e) (taskId : Uuid) (taskType : TaskType) (key : TaskKey)
    (now : Timestamp) (dependsOn : List Uuid) (hver : caseVersion ≤ e.tables.caseVersion)
    (hkey : ∀ v triggerRef, key = .orchPlan v triggerRef → v ≤ e.tables.caseVersion) :
    InPast { e with
             tables := e.tables.createTask taskId caseVersion taskType key now dependsOn } where
  tasks task hmem := by
    rw [CaseTables.createTask_caseVersion]
    rcases CaseTables.mem_createTask_tasks hmem with hold | ⟨-, -, hnew, -, -⟩
    · exact h.tasks task hold
    · rw [hnew]
      exact hver
  planKeys task hmem v triggerRef hsame := by
    rw [CaseTables.createTask_caseVersion]
    rcases CaseTables.mem_createTask_tasks hmem with hold | ⟨-, -, -, -, hnew⟩
    · exact h.planKeys task hold v triggerRef hsame
    · exact hkey v triggerRef (hnew.symm.trans hsame)
  advances executionId run hrun := by
    rw [CaseTables.createTask_caseVersion]
    exact h.advances executionId run hrun

theorem InPast.withAdvance (h : InPast e) (hrun : run.snapshot.caseVersion ≤ e.tables.caseVersion) :
    InPast { e with advances := Function.update e.advances executionId (some run) } where
  tasks := h.tasks
  planKeys := h.planKeys
  advances id r hr := by
    rcases update_some_cases hr with ⟨-, rfl⟩ | ⟨-, hold⟩
    · exact hrun
    · exact h.advances id r hold

/-- **The engine never runs ahead of the case.** -/
theorem InPast.step (h : InPast e) (hstep : Engine.step e q = some e') : InPast e' := by
  cases step_cases hstep with
  | workerMoves =>
    refine ⟨?_, ?_, h.advances⟩
    · intro task hmem
      obtain ⟨old, hold, rfl⟩ := List.mem_map.1 hmem
      split
      all_goals exact h.tasks old hold
    · intro task hmem v triggerRef hkey
      obtain ⟨old, hold, rfl⟩ := List.mem_map.1 hmem
      split at hkey
      all_goals exact h.planKeys old hold v triggerRef hkey
  | kickoff taskId _ now =>
    refine h.createTask taskId _ _ now [] (Nat.le_refl _) ?_
    intro v trigger hkey
    cases hkey
    exact Nat.le_refl _
  | advanceLoad => exact h.withAdvance (Nat.le_refl _)
  | advanceRefresh _ now run _ _ hrun hrefr =>
    obtain ⟨gateType, record, -, rfl⟩ := AdvanceRun.refreshGate_tables hrefr
    rw [CaseTables.ensureGate_frame]
    have hwritten : InPast { e with
        tables := { e.tables with
          gates := (e.tables.ensureGate run.snapshot.caseVersion gateType record.status now
            record.satisfiedByActorId record.dispositionRef).gates } } :=
      h.withTables rfl (Nat.le_refl _)
    apply hwritten.withAdvance
    rw [AdvanceRun.refreshGate_snapshot hrefr]
    exact h.advances _ _ hrun
  | advancePlan _ _ _ _ hrun hplan =>
    apply h.withAdvance
    rw [AdvanceRun.planSteps_snapshot hplan]
    exact h.advances _ _ hrun
  | advanceSchedule _ taskId now run _ _ hrun hsched =>
    obtain ⟨taskType, -, rfl⟩ := AdvanceRun.schedule_tables hsched
    have hread := h.advances _ _ hrun
    have hwritten := h.createTask taskId taskType (.orch run.snapshot.caseVersion taskType) now
      (run.dependsOn .canonical taskType) hread (fun _ _ hkey => by cases hkey)
    apply hwritten.withAdvance
    rw [AdvanceRun.schedule_snapshot hsched, CaseTables.createTask_caseVersion]
    exact hread

/-! ## New tasks -/

/-- The task is there after the step and its id was not there before. -/
def Created (e e' : Engine) (task : ProcessingTask) : Prop :=
  task ∈ e'.tables.tasks ∧ task.id ∉ e.tables.tasks.map (·.id)

instance (e e' : Engine) (task : ProcessingTask) : Decidable (Created e e' task) :=
  inferInstanceAs (Decidable (_ ∧ _))

theorem setStatus_ids (tables : CaseTables) (taskId : Uuid) (status : TaskStatus) :
    (tables.setStatus taskId status).tasks.map (·.id) = tables.tasks.map (·.id) := by
  rw [CaseTables.setStatus, List.map_map]
  refine List.map_congr_left fun task _ => ?_
  simp only [Function.comp_apply]
  split <;> rfl

/-- A task without its status, which is all of it that an engine step changes. -/
def withoutStatus (task : ProcessingTask) : ProcessingTask :=
  { task with status := .pending }

/-- The event `create_task` commits with a task. -/
def createdEvent (task : ProcessingTask) : OutboxEvent where
  taskId := task.id
  caseVersion := task.caseVersion
  taskType := task.taskType
  documentVersionId := task.documentVersionId
  dispatchAttempts := 0
  dispatchedAt := none

/-- What a transaction does to the tasks and the events: it adds none, or one task and its event. -/
inductive WorkMove (tables tables' : CaseTables) : Prop where
  | kept (htasks : tables'.tasks.map withoutStatus = tables.tasks.map withoutStatus)
      (houtbox : tables'.outbox = tables.outbox)
  | added (task : ProcessingTask) (hscope : task.documentVersionId = none)
      (htasks : tables'.tasks = tables.tasks ++ [task])
      (houtbox : tables'.outbox = createdEvent task :: tables.outbox)

theorem workMove_createTask (tables : CaseTables) (taskId : Uuid) (caseVersion : CaseVersion)
    (taskType : TaskType) (key : TaskKey) (now : Timestamp) (dependsOn : List Uuid) :
    WorkMove tables (tables.createTask taskId caseVersion taskType key now dependsOn) := by
  unfold CaseTables.createTask
  split
  · exact .added _ rfl rfl rfl
  · exact .kept rfl rfl

/-- **A task and its event are committed together.** -/
theorem step_workMove (hstep : step e q = some e') : WorkMove e.tables e'.tables := by
  cases step_cases hstep with
  | workerMoves =>
    refine .kept ?_ rfl
    rw [CaseTables.setStatus, List.map_map]
    refine List.map_congr_left fun task _ => ?_
    simp only [Function.comp_apply]
    split <;> rfl
  | kickoff => exact workMove_createTask ..
  | advanceLoad | advancePlan => exact .kept rfl rfl
  | advanceRefresh _ _ _ _ _ _ hrefr =>
    obtain ⟨_, _, -, rfl⟩ := AdvanceRun.refreshGate_tables hrefr
    rw [CaseTables.ensureGate_frame]
    exact .kept rfl rfl
  | advanceSchedule _ _ _ _ _ _ _ hsched =>
    obtain ⟨_, -, rfl⟩ := AdvanceRun.schedule_tables hsched
    exact workMove_createTask ..

variable {task : ProcessingTask}

/-- **Tasks stay.** A step keeps every task with its type and version. -/
theorem task_persists (hstep : step e q = some e') (hmem : task ∈ e.tables.tasks) :
    ∃ task' ∈ e'.tables.tasks, task'.id = task.id ∧ task'.taskType = task.taskType ∧
      task'.caseVersion = task.caseVersion := by
  cases step_cases hstep with
  | workerMoves =>
    refine ⟨_, List.mem_map_of_mem hmem, ?_⟩
    split <;> exact ⟨rfl, rfl, rfl⟩
  | kickoff => exact ⟨task, CaseTables.subset_createTask_tasks hmem, rfl, rfl, rfl⟩
  | advanceLoad | advancePlan => exact ⟨task, hmem, rfl, rfl, rfl⟩
  | advanceRefresh _ _ _ _ _ _ hrefr =>
    obtain ⟨_, _, -, rfl⟩ := AdvanceRun.refreshGate_tables hrefr
    refine ⟨task, ?_, rfl, rfl, rfl⟩
    rw [CaseTables.ensureGate_frame]
    exact hmem
  | advanceSchedule _ _ _ _ _ _ _ hsched =>
    obtain ⟨_, -, rfl⟩ := AdvanceRun.schedule_tables hsched
    exact ⟨task, CaseTables.subset_createTask_tasks hmem, rfl, rfl, rfl⟩

/-- **Where a new task comes from.** It is a planning task of a trigger, or it comes from an execution
that has its type next, at the version the execution read. -/
theorem created_cases (hstep : step e q = some e') (hnew : Created e e' task) :
    task.taskType = .orchestratorPlan ∨
      ∃ executionId taskId now run, q = .advanceSchedule executionId taskId now ∧
        e.advances executionId = some run ∧ run.nextType = some task.taskType ∧
        task.caseVersion = run.snapshot.caseVersion := by
  obtain ⟨hmem, hfresh⟩ := hnew
  have hold : task ∉ e.tables.tasks := fun hin => hfresh (List.mem_map_of_mem hin)
  cases step_cases hstep with
  | workerMoves =>
    have hids := List.mem_map_of_mem (f := fun t : ProcessingTask => t.id) hmem
    rw [setStatus_ids] at hids
    exact absurd hids hfresh
  | kickoff =>
    rcases CaseTables.mem_createTask_tasks hmem with hin | ⟨-, -, -, hplan, -⟩
    · exact absurd hin hold
    · exact Or.inl hplan
  | advanceLoad | advancePlan => exact absurd hmem hold
  | advanceRefresh _ _ _ _ _ _ hrefr =>
    obtain ⟨_, _, -, rfl⟩ := AdvanceRun.refreshGate_tables hrefr
    rw [CaseTables.ensureGate_frame] at hmem
    exact absurd hmem hold
  | advanceSchedule executionId taskId now run _ _ hrun hsched =>
    rcases AdvanceRun.mem_schedule_tasks hsched hmem with hin | ⟨hnext, hver⟩
    · exact absurd hin hold
    · exact Or.inr ⟨executionId, taskId, now, run, rfl, hrun, hnext, hver⟩

/-- **A new agent task stands behind the gate of its node.** -/
theorem Backed.created_gate (h : Backed e) (hstep : Engine.step e q = some e') (hnew : Created e e' task)
    (htype : task.taskType ≠ .orchestratorPlan) :
    ∃ node ∈ DependencyTemplate.canonical.nodes, node.taskType = task.taskType ∧
      ∀ gate, node.requiredGate = some gate → e.tables.GateSatisfied task.caseVersion gate := by
  rcases created_cases hstep hnew with hplan | ⟨_, _, _, _, -, hrun, hnext, hver⟩
  · exact absurd hplan htype
  rw [hver]
  exact AdvanceRun.schedule_gate (h _ _ hrun) hnext

/-! ## One task of a type at each version -/

/-- The tasks of the case have distinct keys, and an agent task has the key of its version and
type. -/
structure Keyed (tables : CaseTables) : Prop where
  unique : ∀ t₁ ∈ tables.tasks, ∀ t₂ ∈ tables.tasks,
    t₁.idempotencyKey = t₂.idempotencyKey → t₁.id = t₂.id
  agentKey : ∀ task ∈ tables.tasks, task.taskType ≠ .orchestratorPlan →
    task.taskType ≠ .documentIngestion → task.idempotencyKey = .orch task.caseVersion task.taskType

theorem Keyed.setStatus (h : Keyed tables) (taskId : Uuid) (status : TaskStatus) :
    Keyed (tables.setStatus taskId status) := by
  have hback : ∀ task ∈ (tables.setStatus taskId status).tasks, ∃ old ∈ tables.tasks,
      task.id = old.id ∧ task.taskType = old.taskType ∧ task.caseVersion = old.caseVersion ∧
        task.idempotencyKey = old.idempotencyKey := by
    intro task hmem
    obtain ⟨old, hold, rfl⟩ := List.mem_map.1 hmem
    refine ⟨old, hold, ?_⟩
    split <;> exact ⟨rfl, rfl, rfl, rfl⟩
  constructor
  · intro t₁ h₁ t₂ h₂ hkey
    obtain ⟨o₁, ho₁, hid₁, -, -, hk₁⟩ := hback t₁ h₁
    obtain ⟨o₂, ho₂, hid₂, -, -, hk₂⟩ := hback t₂ h₂
    rw [hid₁, hid₂]
    exact h.unique o₁ ho₁ o₂ ho₂ (by rw [← hk₁, ← hk₂, hkey])
  · intro task hmem hplan hingest
    obtain ⟨old, hold, -, htype, hver, hkey⟩ := hback task hmem
    rw [htype] at hplan hingest
    rw [hkey, htype, hver]
    exact h.agentKey old hold hplan hingest

theorem Keyed.createTask (h : Keyed tables) (taskId : Uuid) {taskType : TaskType} {key : TaskKey}
    (now : Timestamp) (dependsOn : List Uuid)
    (hkey : taskType ≠ .orchestratorPlan → key = .orch caseVersion taskType) :
    Keyed (tables.createTask taskId caseVersion taskType key now dependsOn) := by
  have hfresh : ∀ task ∈ tables.tasks, tables.keyFree key = true → task.idempotencyKey ≠ key := by
    intro task hmem hfree
    simpa using List.all_eq_true.1 hfree task hmem
  constructor
  · intro t₁ h₁ t₂ h₂ hsame
    rcases CaseTables.mem_createTask_tasks h₁ with ho₁ | ⟨hfree, hid₁, -, -, hk₁⟩
    · rcases CaseTables.mem_createTask_tasks h₂ with ho₂ | ⟨hfree, -, -, -, hk₂⟩
      · exact h.unique t₁ ho₁ t₂ ho₂ hsame
      · exact absurd (hsame.trans hk₂) (hfresh t₁ ho₁ hfree)
    · rcases CaseTables.mem_createTask_tasks h₂ with ho₂ | ⟨-, hid₂, -, -, -⟩
      · exact absurd (hsame.symm.trans hk₁) (hfresh t₂ ho₂ hfree)
      · rw [hid₁, hid₂]
  · intro task hmem hplan hingest
    rcases CaseTables.mem_createTask_tasks hmem with hold | ⟨-, -, hver, htype, hk⟩
    · exact h.agentKey task hold hplan hingest
    · rw [hk, hver, htype]
      exact hkey (htype ▸ hplan)

/-- **The tasks stay keyed.** -/
theorem Keyed.step (h : Keyed e.tables) (hstep : Engine.step e q = some e') : Keyed e'.tables := by
  cases step_cases hstep with
  | workerMoves taskId status => exact h.setStatus taskId status
  | kickoff taskId _ now => exact h.createTask taskId now [] (fun hplan => absurd rfl hplan)
  | advanceLoad | advancePlan => exact h
  | advanceRefresh _ _ _ _ _ _ hrefr =>
    obtain ⟨_, _, -, rfl⟩ := AdvanceRun.refreshGate_tables hrefr
    rw [CaseTables.ensureGate_frame]
    exact ⟨h.unique, h.agentKey⟩
  | advanceSchedule _ taskId now _ _ _ _ hsched =>
    obtain ⟨_, -, rfl⟩ := AdvanceRun.schedule_tables hsched
    exact h.createTask taskId now _ fun _ => rfl

/-- **One agent task of a type at each version.** -/
theorem Keyed.agentTask_unique (h : Keyed tables) {t₁ t₂ : ProcessingTask} (h₁ : t₁ ∈ tables.tasks)
    (h₂ : t₂ ∈ tables.tasks) (hplan : t₁.taskType ≠ .orchestratorPlan)
    (hingest : t₁.taskType ≠ .documentIngestion) (htype : t₂.taskType = t₁.taskType)
    (hver : t₂.caseVersion = t₁.caseVersion) : t₁.id = t₂.id := by
  refine h.unique t₁ h₁ t₂ h₂ ?_
  rw [h.agentKey t₁ h₁ hplan hingest,
    h.agentKey t₂ h₂ (htype ▸ hplan) (htype ▸ hingest), htype, hver]

end Engine

end CreditOps.Orchestration
