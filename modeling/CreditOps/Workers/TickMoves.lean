import CreditOps.Workers.Ticks

/-!
# What a step of the ticks does

`Stepped` is the inversion of a step, one constructor for each kind of request. Every guarantee about the
ticks is read off one of its three shadows: on the workers and the queue a step is one request of the system
or none (`Stepped.system`), on the tables it is one of eleven writes (`Stepped.tableMove`), and by all of
these the rows of the case only grow (`TableMove.grows`).
-/

set_option autoImplicit false

namespace CreditOps.Workers

open Orchestration Outbox Transition PartialMap

/-! ## The requests of the case -/

namespace CaseWorld

variable {w w' : CaseWorld}

theorem step_worker_cases {request : Request} (h : w.step (.worker request) = some w') :
    w.system.allows request = true ∧
      ∃ system, w.system.step request = some system ∧ w' = { w with system } := by
  simp only [step] at h
  split at h
  · rename_i hallow
    obtain ⟨system, hsys, rfl⟩ := Option.map_eq_some_iff.1 h
    exact ⟨hallow, system, hsys, rfl⟩
  · cases h

theorem step_engine_cases {request : EngineRequest} (h : w.step (.engine request) = some w') :
    movesStatus request = false ∧
      ∃ e, w.engine.step request = some e ∧ w' = w.withEngine e := by
  simp only [step] at h
  split at h
  · cases h
  rename_i hmoves
  obtain ⟨e, heng, rfl⟩ := Option.map_eq_some_iff.1 h
  exact ⟨by simpa using hmoves, e, heng, rfl⟩

theorem otherWrites_eq {tables : CaseTables}
    (h : w.step (.worker (.otherWrites tables)) = some w') :
    w' = { w with system := { w.system with tables } } := by
  obtain ⟨-, _, hsys, rfl⟩ := step_worker_cases h
  simp only [System.step] at hsys
  split at hsys
  · cases hsys
    rfl
  · cases hsys

theorem advanceAudit_frame {executionId : Uuid}
    (h : w.step (.advanceAudit executionId) = some w') :
    w'.system = w.system ∧ w'.advances = w.advances := by
  simp only [step] at h
  split at h
  · cases h
    exact ⟨rfl, rfl⟩
  · cases h

end CaseWorld

namespace TickWorld

variable {writtenFor : Uuid → CaseVersion} {w w' : TickWorld}

/-! ## The inversion of a step -/

/-- **The inversion of a step.** -/
inductive Stepped (writtenFor : Uuid → CaseVersion) (w : TickWorld) :
    TickRequest → TickWorld → Prop where
  | around (request : Request) (world : CaseWorld) (hmay : w.mayHappen request = true)
      (hworld : w.world.step (.worker request) = some world) :
      Stepped writtenFor w (.around request) { w with world }
  | acted (leaseToken : Uuid) (action : WorkerAction) (world : CaseWorld)
      (hreport : w.reportsAsPlanned leaseToken action = true)
      (hworld : w.world.step (.worker (.worker leaseToken action)) = some world) :
      Stepped writtenFor w (.worker leaseToken action) (w.afterAction leaseToken action world)
  | planLoaded (leaseToken executionId : Uuid) (world : CaseWorld)
      (hmay : w.mayExecute leaseToken = true)
      (hworld : w.world.step (.engine (.advanceLoad executionId)) = some world) :
      Stepped writtenFor w (.planLoad leaseToken executionId)
        { w with
          world
          processes := Function.update w.processes leaseToken
            (some ⟨executionId, [.planBuilt, .tasksCreated, .enqueued]⟩) }
  | planAdvanced (leaseToken executionId : Uuid) (request : EngineRequest) (world : CaseWorld)
      (hmay : w.mayAdvance executionId request = true)
      (hworld : w.world.step (.engine request) = some world) :
      Stepped writtenFor w (.planAdvance leaseToken request) { w with world }
  | planAudited (leaseToken executionId : Uuid) (world : CaseWorld)
      (hworld : w.world.step (.advanceAudit executionId) = some world) :
      Stepped writtenFor w (.planAudit leaseToken) { w with world }
  | planCheckpointed (leaseToken executionId : Uuid) (kind : PlanCheckpoint)
      (due : List PlanCheckpoint) (message : QueueMessage)
      (hproc : w.processes leaseToken = some ⟨executionId, kind :: due⟩)
      (hprocessing : w.processing leaseToken = some message)
      (hreturned : w.returned executionId = true)
      (hmay : w.mayCheckpoint leaseToken message = true) :
      Stepped writtenFor w (.planCheckpoint leaseToken)
        { w with
          processes := Function.update w.processes leaseToken (some ⟨executionId, due⟩)
          planCheckpoints := (message.envelope.taskId, kind) :: w.planCheckpoints }
  | gapsPersisted (leaseToken : Uuid) (message : QueueMessage) (task : ProcessingTask)
      (gaps : List FoundGap) (world : CaseWorld) (htask : w.world.system.taskOf message = some task)
      (hworld : w.world.step (.worker (.otherWrites
        (w.tables.addGaps task.caseVersion task.id gaps))) = some world) :
      Stepped writtenFor w (.persistGaps leaseToken gaps) { w with world }
  | handoffPersisted (requestId handoffId : Uuid) (caseVersion : CaseVersion) (sourceTaskId : Uuid)
      (world : CaseWorld) (hfree : w.freshCaller requestId = true) (hid : handoffId < 16 ^ 32)
      (hnew : ∀ handoff ∈ w.tables.handoffs, handoff.id ≠ handoffId)
      (hworld : w.world.step (.worker (.otherWrites
        (w.tables.persistHandoff handoffId caseVersion sourceTaskId))) = some world) :
      Stepped writtenFor w (.persistHandoff requestId handoffId caseVersion sourceTaskId)
        { w with world, ticks := Function.update w.ticks requestId (some (.handoff handoffId)) }
  | gateEnsured (requestId : Uuid) (caseVersion : CaseVersion) (gateType : GateType) (ref : Nat)
      (now : Timestamp) (actorId : Uuid) (dispositionRef : Option String) (world : CaseWorld)
      (hfree : w.freshCaller requestId = true) (hg1 : gateType ≠ .g1IntakeComplete)
      (hrange : (TickTrigger.gate gateType ref).inRange = true)
      (hwritten : gateType = .g2GapRequestApproval ∨ gateType = .g3RiskDisposition →
        caseVersion = writtenFor ref)
      (hworld : w.world.step (.humanGate caseVersion gateType now actorId dispositionRef) =
        some world) :
      Stepped writtenFor w (.ensureGate requestId caseVersion gateType ref now actorId dispositionRef)
        { w with world, ticks := Function.update w.ticks requestId (gateTick gateType ref) }
  | versionBumped (requestId : Uuid) (revision : RevisionRequest) (handoffId : Uuid)
      (world : CaseWorld) (hfree : w.freshCaller requestId = true)
      (hid : revision.dispositionId < 16 ^ 32)
      (hworld : w.world.step (.worker (.bumpCaseVersion revision handoffId)) = some world) :
      Stepped writtenFor w (.bumpCaseVersion requestId revision handoffId)
        { w with
          world
          ticks := Function.update w.ticks requestId (some (.revise revision.dispositionId)) }
  | reticked (caller taskId : Uuid) (trigger : TickTrigger) (now : Timestamp) (world : CaseWorld)
      (htick : w.ticks caller = some trigger) (hid : w.freshId taskId = true)
      (hworld : w.world.step (.engine (.kickoff taskId (some trigger.ref) now)) = some world) :
      Stepped writtenFor w (.retick caller taskId now)
        { w with world, ticks := Function.update w.ticks caller none }
  | tickLost (caller : Uuid) :
      Stepped writtenFor w (.loseTick caller) { w with ticks := Function.update w.ticks caller none }
  | advanced (taskId : Uuid) (now : Timestamp) (world : CaseWorld) (hid : w.freshId taskId = true)
      (hworld : w.world.step (.engine (.kickoff taskId none now)) = some world) :
      Stepped writtenFor w (.advance taskId now) { w with world }
  | sent (dispatcher taskId : Uuid) (envelope : TaskEnvelope) (messageId : Nat)
      (visibleAt : Timestamp) (world : CaseWorld) (hfree : w.dispatches dispatcher = none)
      (henv : (w.undispatched taskId).bind w.envelopeOf = some envelope)
      (hworld : w.world.step (.worker (.send messageId envelope visibleAt)) = some world) :
      Stepped writtenFor w (.send dispatcher taskId messageId visibleAt)
        { w with world, dispatches := Function.update w.dispatches dispatcher (some taskId) }
  | marked (dispatcher taskId : Uuid) (now : Timestamp) (world : CaseWorld)
      (hsent : w.dispatches dispatcher = some taskId)
      (hworld : w.world.step (.worker (.otherWrites (w.tables.markDispatched taskId now))) =
        some world) :
      Stepped writtenFor w (.markDispatched dispatcher now)
        { w with world, dispatches := Function.update w.dispatches dispatcher none }
  | dispatchStopped (dispatcher : Uuid) :
      Stepped writtenFor w (.stopDispatch dispatcher)
        { w with dispatches := Function.update w.dispatches dispatcher none }

variable {q : TickRequest}

theorem step_cases (h : step writtenFor w q = some w') :
    Stepped writtenFor w q w' := by
  cases q with
  | around request =>
    simp only [step] at h
    split at h
    · rename_i hmay
      obtain ⟨world, hworld, rfl⟩ := Option.map_eq_some_iff.1 h
      exact .around request world hmay hworld
    · cases h
  | worker leaseToken action =>
    simp only [step] at h
    split at h
    · rename_i hreport
      obtain ⟨world, hworld, rfl⟩ := Option.map_eq_some_iff.1 h
      exact .acted leaseToken action world hreport hworld
    · cases h
  | planLoad leaseToken executionId =>
    simp only [step] at h
    split at h
    · rename_i hmay
      obtain ⟨world, hworld, rfl⟩ := Option.map_eq_some_iff.1 h
      exact .planLoaded leaseToken executionId world hmay hworld
    · cases h
  | planAdvance leaseToken request =>
    obtain ⟨process, -, h⟩ := Option.bind_eq_some_iff.1 h
    split at h
    · rename_i hmay
      obtain ⟨world, hworld, rfl⟩ := Option.map_eq_some_iff.1 h
      exact .planAdvanced leaseToken process.executionId request world hmay hworld
    · cases h
  | planAudit leaseToken =>
    obtain ⟨process, -, h⟩ := Option.bind_eq_some_iff.1 h
    obtain ⟨world, hworld, rfl⟩ := Option.map_eq_some_iff.1 h
    exact .planAudited leaseToken process.executionId world hworld
  | planCheckpoint leaseToken =>
    simp only [step] at h
    split at h
    · rename_i executionId kind due message hproc hprocessing
      split at h
      · rename_i hmay
        cases h
        exact .planCheckpointed leaseToken executionId kind due message hproc hprocessing hmay.1
          hmay.2
      · cases h
    · cases h
  | persistGaps leaseToken gaps =>
    obtain ⟨task, htask, h⟩ := Option.bind_eq_some_iff.1 h
    obtain ⟨message, -, htask⟩ := Option.bind_eq_some_iff.1 htask
    obtain ⟨world, hworld, rfl⟩ := Option.map_eq_some_iff.1 h
    exact .gapsPersisted leaseToken message task gaps world htask hworld
  | persistHandoff requestId handoffId caseVersion sourceTaskId =>
    simp only [step] at h
    split at h
    · rename_i hguard
      obtain ⟨world, hworld, rfl⟩ := Option.map_eq_some_iff.1 h
      refine .handoffPersisted requestId handoffId caseVersion sourceTaskId world hguard.1 hguard.2.1
        ?_ hworld
      intro handoff hmem
      exact of_decide_eq_true (List.all_eq_true.1 hguard.2.2 handoff hmem)
    · cases h
  | ensureGate requestId caseVersion gateType ref now actorId dispositionRef =>
    simp only [step] at h
    split at h
    · rename_i hguard
      obtain ⟨world, hworld, rfl⟩ := Option.map_eq_some_iff.1 h
      exact .gateEnsured requestId caseVersion gateType ref now actorId dispositionRef world hguard.1
        hguard.2.1 hguard.2.2.1 hguard.2.2.2 hworld
    · cases h
  | bumpCaseVersion requestId revision handoffId =>
    simp only [step] at h
    split at h
    · rename_i hguard
      obtain ⟨world, hworld, rfl⟩ := Option.map_eq_some_iff.1 h
      exact .versionBumped requestId revision handoffId world hguard.1 hguard.2 hworld
    · cases h
  | retick caller taskId now =>
    obtain ⟨trigger, htick, h⟩ := Option.bind_eq_some_iff.1 h
    split at h
    · rename_i hguard
      obtain ⟨world, hworld, rfl⟩ := Option.map_eq_some_iff.1 h
      exact .reticked caller taskId trigger now world htick hguard.2 hworld
    · cases h
  | loseTick caller =>
    simp only [step] at h
    split at h
    · cases h
      exact .tickLost caller
    · cases h
  | advance taskId now =>
    simp only [step] at h
    split at h
    · rename_i hid
      obtain ⟨world, hworld, rfl⟩ := Option.map_eq_some_iff.1 h
      exact .advanced taskId now world hid hworld
    · cases h
  | send dispatcher taskId messageId visibleAt =>
    simp only [step] at h
    split at h
    · rename_i envelope hfree henv
      obtain ⟨world, hworld, rfl⟩ := Option.map_eq_some_iff.1 h
      exact .sent dispatcher taskId envelope messageId visibleAt world hfree henv hworld
    · cases h
  | markDispatched dispatcher now =>
    obtain ⟨taskId, hsent, h⟩ := Option.bind_eq_some_iff.1 h
    obtain ⟨world, hworld, rfl⟩ := Option.map_eq_some_iff.1 h
    exact .marked dispatcher taskId now world hsent hworld
  | stopDispatch dispatcher =>
    cases h
    exact .dispatchStopped dispatcher

/-! ## On the tables -/

/-- **What a step can do to the tables of the case.** -/
inductive TableMove (w : TickWorld) : CaseTables → Prop where
  | same : TableMove w w.tables
  | acted (leaseToken : Uuid) (run : WorkerRun) (s' : System)
      (hrun : w.world.system.workers leaseToken = some run)
      (hacted : System.Acted w.world.system leaseToken run s') :
      TableMove w s'.tables
  | ingested (taskId documentVersionId : Uuid) (caseVersion : CaseVersion) (now : Timestamp)
      (hid : w.freshId taskId = true)
      (hkey : w.tables.keyFree (.ingestion documentVersionId) = true) :
      TableMove w
        { w.tables with
          tasks := w.tables.tasks ++ [ingestionTask taskId documentVersionId caseVersion now] }
  | planned (taskId : Uuid) (triggerRef : Option String) (now : Timestamp)
      (hid : w.freshId taskId = true)
      (htrigger : ∀ ref, triggerRef = some ref →
        ∃ caller trigger, w.ticks caller = some trigger ∧ ref = trigger.ref) :
      TableMove w
        (w.tables.createTask taskId w.tables.caseVersion .orchestratorPlan
          (.orchPlan w.tables.caseVersion triggerRef) now [])
  | scheduled (executionId taskId : Uuid) (run : AdvanceRun) (taskType : TaskType)
      (now : Timestamp) (dependsOn : List Uuid) (hid : w.freshId taskId = true)
      (hrun : w.world.advances executionId = some run) (hnext : run.nextType = some taskType) :
      TableMove w
        (w.tables.createTask taskId run.snapshot.caseVersion taskType
          (.orch run.snapshot.caseVersion taskType) now dependsOn)
  | refreshed (executionId : Uuid) (run : AdvanceRun) (gateType : GateType) (record : GateRecord)
      (now : Timestamp) (hrun : w.world.advances executionId = some run)
      (hpend : (gateType, record) ∈ run.pendingGates) :
      TableMove w
        (w.tables.ensureGate run.snapshot.caseVersion gateType record.status now
          record.satisfiedByActorId record.dispositionRef)
  | satisfied (caseVersion : CaseVersion) (gateType : GateType) (now : Timestamp)
      (actorId : Option Uuid) (dispositionRef : Option String)
      (hg1 : gateType ≠ .g1IntakeComplete) :
      TableMove w
        (w.tables.ensureGate caseVersion gateType .satisfied now actorId dispositionRef)
  | gapsAdded (task : ProcessingTask) (gaps : List FoundGap) (hmem : task ∈ w.tables.tasks) :
      TableMove w (w.tables.addGaps task.caseVersion task.id gaps)
  | handedOff (handoffId : Uuid) (caseVersion : CaseVersion) (sourceTaskId : Uuid) :
      TableMove w (w.tables.persistHandoff handoffId caseVersion sourceTaskId)
  | bumped (revision : RevisionRequest) (handoffId : Uuid) (tables : CaseTables)
      (hbump : w.tables.bumpCaseVersion revision handoffId = .ok tables) :
      TableMove w tables
  | marked (dispatcher taskId : Uuid) (now : Timestamp)
      (hsent : w.dispatches dispatcher = some taskId) :
      TableMove w (w.tables.markDispatched taskId now)

variable {world : CaseWorld}

/-- Around the workers only a registered document writes to the tables. -/
theorem around_tables {request : Request} (hmay : w.mayHappen request = true)
    (hworld : w.world.step (.worker request) = some world) :
    world.system.tables = w.tables ∨
      ∃ taskId documentVersionId caseVersion now, w.freshId taskId = true ∧
        w.tables.keyFree (.ingestion documentVersionId) = true ∧
        world.system.tables =
          { w.tables with
            tasks := w.tables.tasks ++
              [ingestionTask taskId documentVersionId caseVersion now] } := by
  obtain ⟨-, system, hsys, rfl⟩ := CaseWorld.step_worker_cases hworld
  cases request with
  | acquireSlot =>
    simp only [System.step] at hsys
    split at hsys
    · cases hsys
    obtain ⟨_, -, rfl⟩ := Option.map_eq_some_iff.1 hsys
    exact Or.inl rfl
  | tick | staleDocument =>
    cases hsys
    exact Or.inl rfl
  | send =>
    simp only [System.step] at hsys
    split at hsys <;> cases hsys
    exact Or.inl rfl
  | registerIngestion taskId documentVersionId caseVersion now =>
    simp only [System.step] at hsys
    split at hsys
    · cases hsys
    rename_i hnew
    cases hsys
    rw [not_or, not_not] at hnew
    exact Or.inr ⟨taskId, documentVersionId, caseVersion, now, hmay, hnew.2, rfl⟩
  | worker | createTask | bumpCaseVersion | otherWrites => cases hmay

theorem tableMove_around {request : Request} (hmay : w.mayHappen request = true)
    (hworld : w.world.step (.worker request) = some world) :
    TableMove w world.system.tables := by
  rcases around_tables hmay hworld with
    hsame | ⟨taskId, documentVersionId, caseVersion, now, hid, hkey, htabs⟩
  · rw [hsame]
    exact .same
  · rw [htabs]
    exact .ingested taskId documentVersionId caseVersion now hid hkey

variable {request : EngineRequest} {taskId executionId : Uuid}

/-- A transaction of an execution. -/
theorem tableMove_planAdvanced (hmay : w.mayAdvance executionId request = true)
    (hworld : w.world.step (.engine request) = some world) :
    TableMove w world.system.tables := by
  obtain ⟨-, e, heng, rfl⟩ := CaseWorld.step_engine_cases hworld
  cases Engine.step_cases heng with
  | workerMoves | kickoff | advanceLoad => cases hmay
  | advanceRefresh refreshed now run _ _ hrun hrefr =>
    obtain ⟨gateType, record, hpend, rfl⟩ := AdvanceRun.refreshGate_tables hrefr
    exact .refreshed refreshed run gateType record now hrun hpend
  | advancePlan => exact .same
  | advanceSchedule scheduled taskId now run _ _ hrun hsched =>
    obtain ⟨taskType, hnext, rfl⟩ := AdvanceRun.schedule_tables hsched
    obtain ⟨-, hid⟩ := of_decide_eq_true hmay
    exact .scheduled scheduled taskId run taskType now _ hid hrun hnext

variable {triggerRef : Option String} {now : Timestamp}

theorem kickoff_world (hworld : w.world.step (.engine (.kickoff taskId triggerRef now)) = some world) :
    world = w.world.withEngine
      { w.world.engine with
        tables := w.tables.createTask taskId w.tables.caseVersion .orchestratorPlan
          (.orchPlan w.tables.caseVersion triggerRef) now [] } := by
  obtain ⟨-, e, heng, rfl⟩ := CaseWorld.step_engine_cases hworld
  cases heng
  rfl

/-- **The tables after a step.** -/
theorem Stepped.tableMove (h : Stepped writtenFor w q w') :
    TableMove w w'.tables := by
  cases h with
  | around _ _ hmay hworld => exact tableMove_around hmay hworld
  | acted leaseToken _ _ _ hworld =>
    obtain ⟨-, system, hsys, rfl⟩ := CaseWorld.step_worker_cases hworld
    obtain ⟨run, hrun, hact⟩ := Option.bind_eq_some_iff.1 hsys
    exact .acted leaseToken run system hrun (System.act_cases hact)
  | planLoaded _ _ _ _ hworld =>
    obtain ⟨-, e, heng, rfl⟩ := CaseWorld.step_engine_cases hworld
    cases Engine.step_cases heng with
    | advanceLoad => exact .same
  | planAdvanced _ _ _ _ hmay hworld =>
    exact tableMove_planAdvanced hmay hworld
  | planAudited _ _ _ hworld =>
    rw [tables, (CaseWorld.advanceAudit_frame hworld).1]
    exact .same
  | planCheckpointed | tickLost | dispatchStopped =>
    exact .same
  | gapsPersisted _ _ task gaps _ htask hworld =>
    rw [CaseWorld.otherWrites_eq hworld]
    exact .gapsAdded task gaps (getTask_eq_some htask).1
  | handoffPersisted _ handoffId caseVersion sourceTaskId _ _ _ _ hworld =>
    rw [CaseWorld.otherWrites_eq hworld]
    exact .handedOff handoffId caseVersion sourceTaskId
  | gateEnsured requestId caseVersion gateType ref now actorId dispositionRef world hfree hg1 hrange hwritten hworld =>
    cases hworld
    exact .satisfied caseVersion gateType now (some actorId) dispositionRef hg1
  | versionBumped requestId revision handoffId world hfree hid hworld =>
    obtain ⟨-, system, hsys, rfl⟩ := CaseWorld.step_worker_cases hworld
    simp only [System.step] at hsys
    split at hsys
    · rename_i tables hbump
      cases hsys
      exact .bumped revision handoffId tables hbump
    · cases hsys
  | reticked caller taskId trigger now _ htick hid hworld =>
    rw [kickoff_world hworld]
    refine .planned taskId (some trigger.ref) now hid ?_
    rintro _ ⟨⟩
    exact ⟨caller, trigger, htick, rfl⟩
  | advanced taskId now _ hid hworld =>
    rw [kickoff_world hworld]
    refine .planned taskId none now hid ?_
    rintro _ ⟨⟩
  | sent _ _ _ _ _ _ _ _ hworld =>
    obtain ⟨-, _, hsys, rfl⟩ := CaseWorld.step_worker_cases hworld
    simp only [System.step] at hsys
    split at hsys <;> cases hsys
    exact .same
  | marked dispatcher taskId now _ hsent hworld =>
    rw [CaseWorld.otherWrites_eq hworld]
    exact .marked dispatcher taskId now hsent

/-! ## On the workers and the queue -/

variable {s : System} {tables : CaseTables}

theorem system_otherWrites (hcase : tables.caseId = s.tables.caseId)
    (hver : tables.caseVersion = s.tables.caseVersion) (htasks : tables.tasks = s.tables.tasks) :
    s.step (.otherWrites tables) = some { s with tables } :=
  if_pos ⟨hcase, hver, htasks⟩

theorem system_ensureGate (s : System) (caseVersion : CaseVersion) (gateType : GateType)
    (status : GateStatus) (now : Timestamp) (actorId : Option Uuid)
    (dispositionRef : Option String) :
    ∃ request, s.step request =
      some { s with
             tables := s.tables.ensureGate caseVersion gateType status now actorId
              dispositionRef } := by
  have hframe := CaseTables.ensureGate_frame s.tables caseVersion gateType status now actorId
    dispositionRef
  exact ⟨_, system_otherWrites (by rw [hframe]) (by rw [hframe]) (by rw [hframe])⟩

theorem system_createTask {taskType : TaskType} (hid : s.tables.tasks.all (·.id ≠ taskId) = true)
    (htype : taskType ≠ .documentIngestion) (caseVersion : CaseVersion) (key : TaskKey) (now : Timestamp)
    (dependsOn : List Uuid) :
    ∃ request, s.step request =
      some { s with
             tables := s.tables.createTask taskId caseVersion taskType key now dependsOn } := by
  refine ⟨.createTask taskId caseVersion taskType key now dependsOn, if_neg ?_⟩
  rintro (hany | hingestion)
  · obtain ⟨task, hmem, hsame⟩ := List.any_eq_true.1 hany
    exact of_decide_eq_true (List.all_eq_true.1 hid task hmem) (of_decide_eq_true hsame)
  · exact htype hingestion

/-- A transaction of an execution. -/
theorem system_planAdvanced (hbacked : w.world.engine.Backed)
    (hmay : w.mayAdvance executionId request = true)
    (hworld : w.world.step (.engine request) = some world) :
    world.system = w.world.system ∨ ∃ request, w.world.system.step request = some world.system := by
  obtain ⟨-, e, heng, rfl⟩ := CaseWorld.step_engine_cases hworld
  cases Engine.step_cases heng with
  | workerMoves | kickoff | advanceLoad => cases hmay
  | advanceRefresh _ _ _ _ _ _ hrefr =>
    obtain ⟨_, _, -, rfl⟩ := AdvanceRun.refreshGate_tables hrefr
    exact Or.inr (system_ensureGate w.world.system ..)
  | advancePlan => exact Or.inl rfl
  | advanceSchedule _ _ _ _ _ _ hrun hsched =>
    obtain ⟨_, hnext, rfl⟩ := AdvanceRun.schedule_tables hsched
    obtain ⟨node, hnode, htype, -⟩ := AdvanceRun.schedule_gate (hbacked _ _ hrun) hnext
    have hingestion := (canonical_agentTypes node hnode).1.2
    obtain ⟨-, hid⟩ := of_decide_eq_true hmay
    exact Or.inr (system_createTask (of_decide_eq_true hid).2 (htype ▸ hingestion) _ _ _ _)

theorem system_kickoff (hid : w.freshId taskId = true)
    (hworld : w.world.step (.engine (.kickoff taskId triggerRef now)) = some world) :
    ∃ request, w.world.system.step request = some world.system := by
  have hplan : TaskType.orchestratorPlan ≠ .documentIngestion := nofun
  rw [kickoff_world hworld]
  exact system_createTask (of_decide_eq_true hid).2 hplan _ _ _ _

/-- **The system after a step**: as it was, or after one of its own requests. -/
theorem Stepped.system (h : Stepped writtenFor w q w') (hbacked : w.world.engine.Backed) :
    w'.world.system = w.world.system ∨
      ∃ request, w.world.system.step request = some w'.world.system := by
  have hwkr : ∀ {request : Request} {world : CaseWorld},
      w.world.step (.worker request) = some world →
        ∃ request, w.world.system.step request = some world.system := by
    intro request world hworld
    obtain ⟨-, _, hsys, rfl⟩ := CaseWorld.step_worker_cases hworld
    exact ⟨request, hsys⟩
  cases h with
  | around _ _ _ hworld | acted _ _ _ _ hworld | gapsPersisted _ _ _ _ _ _ hworld
  | handoffPersisted _ _ _ _ _ _ _ _ hworld | versionBumped _ _ _ _ _ _ hworld | sent _ _ _ _ _ _ _ _ hworld
  | marked _ _ _ _ _ hworld => exact Or.inr (hwkr hworld)
  | planLoaded _ _ _ _ hworld =>
    obtain ⟨-, e, heng, rfl⟩ := CaseWorld.step_engine_cases hworld
    cases Engine.step_cases heng with
    | advanceLoad => exact Or.inl rfl
  | planAdvanced _ _ _ _ hmay hworld =>
    exact system_planAdvanced hbacked hmay hworld
  | planAudited _ _ _ hworld =>
    exact Or.inl (CaseWorld.advanceAudit_frame hworld).1
  | planCheckpointed | tickLost | dispatchStopped =>
    exact Or.inl rfl
  | gateEnsured requestId caseVersion gateType ref now actorId dispositionRef world hfree hg1 hrange hwritten hworld =>
    cases hworld
    exact Or.inr (system_ensureGate w.world.system caseVersion gateType .satisfied now (some actorId)
      dispositionRef)
  | reticked _ _ _ _ _ _ hid hworld | advanced _ _ _ hid hworld =>
    exact Or.inr (system_kickoff hid hworld)

/-! ## The rows only grow -/

/-- Two rows that stand for one task. -/
def SameTask (task task' : ProcessingTask) : Prop :=
  task'.id = task.id ∧ task'.taskType = task.taskType ∧ task'.caseVersion = task.caseVersion ∧
    task'.documentVersionId = task.documentVersionId ∧ task'.idempotencyKey = task.idempotencyKey

theorem SameTask.refl (task : ProcessingTask) : SameTask task task :=
  ⟨rfl, rfl, rfl, rfl, rfl⟩

theorem RowMove.sameTask {leaseToken : Uuid} {run : WorkerRun} {task task' : ProcessingTask}
    (h : System.RowMove s leaseToken run task task') :
    SameTask task task' := by
  obtain ⟨htype, hver, hdoc, hkey⟩ := h.identity
  exact ⟨h.frame.1, htype, hver, hdoc, hkey⟩

/-- Every task is still there, and as it was when it was finished; every handoff and every satisfied gate
stands. -/
structure Grows (tables tables' : CaseTables) : Prop where
  version : tables.caseVersion ≤ tables'.caseVersion
  tasks : ∀ task ∈ tables.tasks, ∃ task' ∈ tables'.tasks, SameTask task task' ∧
    (isTerminal task.status = true → task' = task)
  handoffs : tables.handoffs ⊆ tables'.handoffs
  gates : ∀ caseVersion gateType, tables.GateSatisfied caseVersion gateType →
    tables'.GateSatisfied caseVersion gateType

theorem grows_of_subset {tables' : CaseTables} (hver : tables.caseVersion ≤ tables'.caseVersion)
    (htasks : tables.tasks ⊆ tables'.tasks) (hhandoffs : tables.handoffs ⊆ tables'.handoffs)
    (hgates : ∀ caseVersion gateType, tables.GateSatisfied caseVersion gateType → tables'.GateSatisfied caseVersion gateType) :
    Grows tables tables' where
  version := hver
  tasks task hmem := ⟨task, htasks hmem, .refl task, fun _ => rfl⟩
  handoffs := hhandoffs
  gates := hgates

theorem createTask_handoffs (tables : CaseTables) (taskId : Uuid) (caseVersion : CaseVersion)
    (taskType : TaskType) (key : TaskKey) (now : Timestamp) (dependsOn : List Uuid) :
    (tables.createTask taskId caseVersion taskType key now dependsOn).handoffs = tables.handoffs := by
  unfold CaseTables.createTask
  split <;> rfl

theorem grows_createTask (tables : CaseTables) (taskId : Uuid) (caseVersion : CaseVersion)
    (taskType : TaskType) (key : TaskKey) (now : Timestamp) (dependsOn : List Uuid) :
    Grows tables (tables.createTask taskId caseVersion taskType key now dependsOn) := by
  refine grows_of_subset ?_ CaseTables.subset_createTask_tasks ?_ ?_
  · rw [CaseTables.createTask_caseVersion]
  · rw [createTask_handoffs]
    exact List.Subset.refl _
  · intro v g hg
    simpa only [CaseTables.GateSatisfied, CaseTables.createTask_gates] using hg

theorem grows_ensureGate (tables : CaseTables) (caseVersion : CaseVersion) (gateType : GateType)
    (status : GateStatus) (now : Timestamp) (actorId : Option Uuid)
    (dispositionRef : Option String) :
    Grows tables
      (tables.ensureGate caseVersion gateType status now actorId dispositionRef) := by
  have hframe := CaseTables.ensureGate_frame tables caseVersion gateType status now actorId
    dispositionRef
  refine grows_of_subset ?_ ?_ ?_ ?_
  · rw [hframe]
  · rw [hframe]
    exact List.Subset.refl _
  · rw [hframe]
    exact List.Subset.refl _
  · exact fun v g hg => CaseTables.gateSatisfied_ensureGate_of hg

/-- **The rows of the case only grow.** -/
theorem TableMove.grows (h : TableMove w tables) : Grows w.tables tables := by
  cases h with
  | same | gapsAdded | marked =>
    exact grows_of_subset (Nat.le_refl _) (List.Subset.refl _) (List.Subset.refl _) fun _ _ hg => hg
  | acted _ _ _ _ hacted =>
    obtain ⟨_, htabs, -⟩ := hacted.moved
    obtain ⟨move, htasks, hmove⟩ := hacted.rowMove
    refine ⟨by rw [htabs]; rfl, ?_, by rw [htabs]; exact List.Subset.refl _, ?_⟩
    · intro task hmem
      have hrow := hmove task hmem
      refine ⟨move task, ?_, RowMove.sameTask hrow, hrow.taskMove.eq_of_isTerminal⟩
      rw [htasks]
      exact List.mem_map_of_mem hmem
    · rw [htabs]
      exact fun _ _ hg => hg
  | ingested =>
    exact grows_of_subset (Nat.le_refl _) (List.subset_append_left _ _) (List.Subset.refl _)
      fun _ _ hg => hg
  | planned | scheduled => exact grows_createTask ..
  | refreshed | satisfied => exact grows_ensureGate ..
  | handedOff =>
    exact grows_of_subset (Nat.le_refl _) (List.Subset.refl _) (List.subset_cons_self _ _)
      fun _ _ hg => hg
  | bumped _ _ _ hbump =>
    obtain ⟨htasks, -, hgates, -, -⟩ := CaseTables.bumpCaseVersion_frame hbump
    refine grows_of_subset ?_ ?_ ?_ ?_
    · rw [(CaseTables.bumpCaseVersion_next hbump).2]
      exact Nat.le_succ _
    · rw [htasks]
      exact List.Subset.refl _
    · unfold CaseTables.bumpCaseVersion at hbump
      split at hbump <;> cases hbump
      exact List.subset_append_right _ _
    · intro v g hg
      rw [CaseTables.GateSatisfied, hgates]
      exact hg

end TickWorld

end CreditOps.Workers
