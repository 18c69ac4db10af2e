import CreditOps.Workers.TickInvariants

/-!
# Where a tick is

A node of the task graph that is due has its tick somewhere: some caller still owes it (`Owed`), or it is
carried by a planning task that has not saved its last checkpoint and whose execution, if there is one,
will find the node ready (`Carried`). Otherwise nothing is due, or a planning task failed to manual review
(`Alive`).
-/

set_option autoImplicit false

namespace CreditOps.Workers.TickWorld

open Orchestration Outbox Transition PartialMap

variable {writtenFor : Uuid → CaseVersion} {w w' : TickWorld} {tables tables' : CaseTables}
  {q : TickRequest}

/-! ## Writes by which nothing comes due -/

/-- Rows that have grown, with no further gate of the graph and no further agent task completed. -/
theorem Grows.steady (h : Grows tables tables') (hver : tables'.caseVersion = tables.caseVersion)
    (heffective : ∀ g, (g = .g1IntakeComplete ∨ g = .g2GapRequestApproval ∨ g = .g3RiskDisposition) →
      tables'.GateEffective tables.caseVersion g → tables.GateEffective tables.caseVersion g)
    (hcompleted : ∀ task' ∈ tables'.tasks, task'.status = .succeeded →
      task'.taskType ≠ .orchestratorPlan → task'.taskType ≠ .documentIngestion →
        task' ∈ tables.tasks) : tables.Steady tables' where
  version := hver
  stored := h.gates
  effective := heffective
  scheduled taskType hold := by
    obtain ⟨task, hmem, htype, hcur⟩ := hold
    obtain ⟨task', hmem', hsame, -⟩ := h.tasks task hmem
    exact ⟨task', hmem', hsame.2.1.trans htype,
      (hsame.2.2.1.trans hcur).trans hver.symm⟩
  completed taskType hplan hingestion hnow := by
    obtain ⟨task', hmem', rfl, hcur, hstat⟩ := hnow
    exact ⟨task', hcompleted task' hmem' hstat hplan hingestion, rfl, hcur.trans hver,
      hstat⟩

variable {caseVersion : CaseVersion} {gateType : GateType}

theorem gateEffective_congr (hgates : tables'.gates = tables.gates)
    (hhandoffs : tables'.handoffs = tables.handoffs) (h : tables'.GateEffective caseVersion gateType) :
    tables.GateEffective caseVersion gateType := by
  unfold CaseTables.GateEffective CaseTables.GateSatisfied CaseTables.hasIntakeHandoff at h ⊢
  rwa [hgates, hhandoffs] at h

theorem steady_createTask (tables : CaseTables) (taskId : Uuid) (caseVersion : CaseVersion)
    (taskType : TaskType) (key : TaskKey) (now : Timestamp) (dependsOn : List Uuid) :
    tables.Steady (tables.createTask taskId caseVersion taskType key now dependsOn) := by
  refine (grows_createTask tables taskId caseVersion taskType key now dependsOn).steady
    (CaseTables.createTask_caseVersion ..) ?_ ?_
  · intro g _ hg
    exact gateEffective_congr (CaseTables.createTask_gates ..) (createTask_handoffs ..) hg
  · intro task' hmem hstat _ _
    rcases mem_createTask_cases hmem with hold | rfl
    · exact hold
    · cases hstat

/-- A gate write that satisfies nothing, or a gate that no node waits for at the current version, or one
that is effective already. -/
theorem steady_ensureGate {status : GateStatus} (now : Timestamp) (actorId : Option Uuid)
    (dispositionRef : Option String)
    (hopen : status = .satisfied → caseVersion = tables.caseVersion → (gateType = .g1IntakeComplete ∨ gateType = .g2GapRequestApproval ∨ gateType = .g3RiskDisposition) → tables.GateEffective caseVersion gateType) :
    tables.Steady (tables.ensureGate caseVersion gateType status now actorId dispositionRef) := by
  have hframe := CaseTables.ensureGate_frame tables caseVersion gateType status now actorId
    dispositionRef
  refine (grows_ensureGate ..).steady (by rw [hframe]) ?_ ?_
  · intro g hg heffective
    rcases heffective with hstored | ⟨hg1, hhandoff⟩
    · rcases CaseTables.gateSatisfied_of_ensureGate hstored with hold | ⟨hstat, hver, rfl⟩
      · exact Or.inl hold
      · rw [hver]
        exact hopen hstat hver.symm hg
    · refine Or.inr ⟨hg1, ?_⟩
      rw [hframe] at hhandoff
      exact hhandoff
  · intro task' hmem _ _ _
    rw [hframe] at hmem
    exact hmem

theorem steady_of_rows (h : Grows tables tables')
    (hver : tables'.caseVersion = tables.caseVersion) (hgates : tables'.gates = tables.gates)
    (hhandoffs : tables'.handoffs = tables.handoffs)
    (hcompleted : ∀ task' ∈ tables'.tasks, task'.status = .succeeded →
      task'.taskType ≠ .orchestratorPlan → task'.taskType ≠ .documentIngestion →
        task' ∈ tables.tasks) : tables.Steady tables' :=
  h.steady hver (fun _ _ hg => gateEffective_congr hgates hhandoffs hg) hcompleted

/-! ## Where a tick is -/

/-- A caller owes a tick. -/
def Owed (w : TickWorld) : Prop :=
  ∃ caller, w.owes caller = true

/-- The execution of the worker, if it has one, covers. -/
def Covered (w : TickWorld) (leaseToken : Uuid) : Prop :=
  ∀ process, w.processes leaseToken = some process →
    ∀ run, w.world.advances process.executionId = some run → run.Covers w.tables

/-- The planning task will find what is due: it is not finished, its last checkpoint is still to be saved,
and the execution of the worker that holds it covers. -/
structure Carrier (w : TickWorld) (task : ProcessingTask) : Prop where
  mem : task ∈ w.tables.tasks
  plan : task.taskType = .orchestratorPlan
  current : task.caseVersion = w.tables.caseVersion
  unfinished : isTerminal task.status = false
  unsaved : (task.id, PlanCheckpoint.enqueued) ∉ w.planCheckpoints
  covered : ∀ leaseToken leaseUntil, task.lease = some (leaseToken, leaseUntil) → w.Covered leaseToken

/-- A planning task carries the tick. -/
def Carried (w : TickWorld) : Prop :=
  ∃ task, w.Carrier task

/-- **A due node has its tick somewhere**, unless a planning task failed to manual review. -/
inductive Alive (w : TickWorld) : Prop where
  | nothingDue (h : w.tables.NothingDue)
  | owed (h : w.Owed)
  | carried (h : w.Carried)
  | planFailed (h : w.PlanFailed)

variable {caller requestId leaseToken executionId : Uuid}

theorem owes_iff :
    w.owes caller = true ↔ ∃ trigger, w.ticks caller = some trigger ∧
      w.tables.keyFree (.orchPlan w.tables.caseVersion (some trigger.ref)) = true := by
  rw [owes, Option.any_eq_true]

theorem PlanFailed.mono (h : w.PlanFailed) (hgrows : Grows w.tables w'.tables) : w'.PlanFailed := by
  obtain ⟨task, hmem, hplan, hstat⟩ := h
  obtain ⟨_, hmem', -, hsame⟩ := hgrows.tasks task hmem
  rw [hsame (by rw [hstat]; rfl)] at hmem'
  exact ⟨task, hmem', hplan, hstat⟩

/-! ## The success of a task -/

variable {s s' : System} {run : WorkerRun} {task task' : ProcessingTask}

/-- A row that has newly succeeded is that of the message whose success its worker reported. -/
theorem RowMove.of_succeeded (h : System.RowMove s leaseToken run task task')
    (hstat : task'.status = .succeeded) :
    task' = task ∨ ∃ message, run.stage = .reported message .succeeded ∧
      inScope s.tables message.envelope task = true := by
  cases h with
  | stays => exact Or.inl rfl
  | claimed => cases hstat
  | extended _ howned =>
    exact absurd (hstat.symm.trans (of_decide_eq_true howned).1) (by simp)
  | closed message _ _ hstage hclosing hscope =>
    rcases hclosing with ⟨rfl, -⟩ | ⟨-, rfl⟩
    · exact Or.inr ⟨message, hstage, hscope⟩
    · cases hstat
  | retried now baseDelaySeconds =>
    rcases retryTask_cases now baseDelaySeconds task with ⟨-, hretried⟩ | ⟨-, hretried⟩
    all_goals cases hstat.symm.trans hretried

variable {action : WorkerAction} {message : QueueMessage}

/-- What an action does while a success is reported: it writes the success and goes on to archive, or it
leaves the tables alone. -/
theorem settle_of_act (hstage : run.stage = .reported message .succeeded)
    (hact : s.act leaseToken run action = some s') :
    s'.tables = s.tables ∨
      ∃ now, action = .settle now ∧ s'.stageOf leaseToken = some (.archiving message) := by
  cases action with
  | settle now =>
    simp only [System.act, hstage] at hact
    split at hact
    · cases hact
      exact Or.inl rfl
    · cases hact
      exact Or.inr ⟨now, rfl, System.stageOf_goTo _⟩
  | raise =>
    simp only [System.act, hstage] at hact
    obtain ⟨_, -, rfl⟩ := Option.map_eq_some_iff.1 hact
    exact Or.inl rfl
  | abort | crash =>
    cases hact
    exact Or.inl rfl
  | _ =>
    simp only [System.act, hstage] at hact
    cases hact

/-- **When a task has newly succeeded.** It is the one whose success the worker has just written, and the
worker goes on to archive its message. -/
theorem succeeded_of_act (hact : s.act leaseToken run action = some s') (hmem : task' ∈ s'.tables.tasks)
    (hstat : task'.status = .succeeded) :
    task' ∈ s.tables.tasks ∨ ∃ message now, run.stage = .reported message .succeeded ∧
      action = .settle now ∧ s'.stageOf leaseToken = some (.archiving message) ∧
        ∃ task ∈ s.tables.tasks, SameTask task task' ∧
          inScope s.tables message.envelope task = true := by
  obtain ⟨_, htasks, hmove⟩ := (System.act_cases hact).rowMove
  have hmoved := hmem
  rw [htasks] at hmoved
  obtain ⟨task, hold, rfl⟩ := List.mem_map.1 hmoved
  rcases RowMove.of_succeeded (hmove task hold) hstat with hsame | ⟨message, hstage, hscope⟩
  · rw [hsame]
    exact Or.inl hold
  · rcases settle_of_act hstage hact with htabs | ⟨now, rfl, hafter⟩
    · rw [htabs] at hmem
      exact Or.inl hmem
    · exact Or.inr ⟨message, now, hstage, rfl, hafter, task, hold,
        RowMove.sameTask (hmove task hold), hscope⟩

/-! ## A committed fact and its tick -/

theorem keyFree_of_back {key : TaskKey}
    (hback : ∀ task' ∈ tables'.tasks, ∃ task ∈ tables.tasks,
      task'.idempotencyKey = task.idempotencyKey)
    (hfree : tables.keyFree key = true) : tables'.keyFree key = true := by
  rw [CaseTables.keyFree, List.all_eq_true] at hfree ⊢
  intro task' hmem'
  obtain ⟨task, hmem, hkey⟩ := hback task' hmem'
  rw [hkey]
  exact hfree task hmem

variable {trigger : TickTrigger}

/-- **A new fact leaves its tick with the caller** who committed it: no earlier tick has its reference. -/
theorem owed_of_fact (h : TickInv writtenFor w) (htick : w'.ticks caller = some trigger)
    (hrange : trigger.inRange = true) (huuid : trigger.namesUuid = true)
    (hfired : ¬ Fired writtenFor w.tables trigger)
    (hback : ∀ task' ∈ w'.tables.tasks, ∃ task ∈ w.tables.tasks, task'.idempotencyKey = task.idempotencyKey) :
    w'.Owed :=
  ⟨caller, owes_iff.2 ⟨trigger, htick,
    keyFree_of_back hback (h.keys.keyFree hrange huuid hfired w'.tables.caseVersion)⟩⟩

variable {now : Timestamp} {after world : CaseWorld}

/-- The success of a task that is not a planning task. -/
theorem owed_of_settle (h : TickInv writtenFor w) {system : System}
    (hrun : w.world.system.workers leaseToken = some run)
    (hstage : run.stage = .reported message .succeeded)
    (hact : w.world.system.act leaseToken run (.settle now) = some system)
    (hafter : system.stageOf leaseToken = some (.archiving message)) (hplan : w.isPlan message = false)
    (hsys : after.system = system) :
    (w.afterAction leaseToken (.settle now) after).Owed := by
  obtain ⟨task, hmem, hscope, howned, -⟩ := succeeded_of_settle hstage hact hafter
  have hid : task.id = message.envelope.taskId := (of_decide_eq_true hscope).1
  obtain ⟨_, htasks, hmove⟩ := (System.act_cases hact).rowMove
  have hstageOf : w.world.system.stageOf leaseToken = some (.reported message .succeeded) := by
    rw [System.stageOf, hrun, Option.map_some, hstage]
  have htick : (w.afterAction leaseToken (.settle now) after).ticks leaseToken =
      some (.task message.envelope.taskId) := by
    change Function.update w.ticks leaseToken _ leaseToken = _
    rw [Function.update_self, hsys]
    simp only [tickAfter, failsAt, Bool.false_eq_true, if_false, hstageOf]
    exact if_pos ⟨hafter, hplan⟩
  refine owed_of_fact h htick ?_ rfl ?_ ?_
  · rw [← hid]
    exact decide_eq_true (h.rows.bounded task hmem)
  · -- the task was running until now
    rintro ⟨_, hother, hotherId, hstat⟩
    rw [h.inv.eq_of_id hmem hother (hotherId.trans hid.symm)] at hstat
    cases hstat.symm.trans (of_decide_eq_true howned).1
  · intro task' hmem'
    change task' ∈ after.system.tables.tasks at hmem'
    rw [hsys, htasks] at hmem'
    obtain ⟨old, hold, rfl⟩ := List.mem_map.1 hmem'
    exact ⟨old, hold, (hmove old hold).identity.2.2.2⟩

/-! ## Steps by which something comes due -/

/-- An action of a worker: nothing comes due, or it is the success of a task and its tick is owed. -/
theorem steady_or_owed_acted (h : TickInv writtenFor w)
    (hworld : w.world.step (.worker (.worker leaseToken action)) = some world)
    (hgrows : Grows w.tables (w.afterAction leaseToken action world).tables) :
    w.tables.Steady (w.afterAction leaseToken action world).tables ∨
      (w.afterAction leaseToken action world).Owed := by
  obtain ⟨-, system, hsys, rfl⟩ := CaseWorld.step_worker_cases hworld
  obtain ⟨run, hrun, hact⟩ := Option.bind_eq_some_iff.1 hsys
  obtain ⟨_, htabs, -⟩ := (System.act_cases hact).moved
  by_cases howed : ∃ message now, run.stage = .reported message .succeeded ∧
      action = .settle now ∧ system.stageOf leaseToken = some (.archiving message) ∧
        w.isPlan message = false
  · obtain ⟨_, _, hstage, rfl, hafter, hplan⟩ := howed
    exact Or.inr (owed_of_settle h hrun hstage hact hafter hplan rfl)
  · have hframe : system.tables.caseVersion = w.tables.caseVersion ∧
        system.tables.gates = w.tables.gates ∧ system.tables.handoffs = w.tables.handoffs := by
      rw [htabs]
      exact ⟨rfl, rfl, rfl⟩
    refine Or.inl (steady_of_rows hgrows hframe.1 hframe.2.1 hframe.2.2 ?_)
    intro task' hmem hstat htype _
    rcases succeeded_of_act hact hmem hstat with
      hold | ⟨message, now, hstage, rfl, hafter, task, htask, hsame, hscope⟩
    · exact hold
    · -- the message is that of a planning task, and so is the task
      have hplan : w.isPlan message = true := by
        rw [← Bool.not_eq_false]
        exact fun hother => howed ⟨message, now, hstage, rfl, hafter, hother⟩
      obtain ⟨other, hother, hisPlan⟩ := List.any_eq_true.1 hplan
      obtain ⟨hid, hotherType⟩ := of_decide_eq_true hisPlan
      have hone : other = task :=
        h.inv.eq_of_id htask hother (hid.trans (of_decide_eq_true hscope).1.symm)
      rw [hone] at hotherType
      exact absurd (hsame.2.1.trans hotherType) htype

/-- A transaction of an execution makes nothing due: it refreshes as satisfied only what is effective. -/
theorem steady_planAdvanced (hruns : RunsInv w.world.engine) {request : EngineRequest}
    (hmay : w.mayAdvance executionId request = true)
    (hworld : w.world.step (.engine request) = some world) :
    w.tables.Steady world.system.tables := by
  obtain ⟨-, e, heng, rfl⟩ := CaseWorld.step_engine_cases hworld
  cases Engine.step_cases heng with
  | workerMoves | kickoff | advanceLoad => cases hmay
  | advanceRefresh refreshed now run _ _ hrun hrefr =>
    obtain ⟨gateType, record, hpend, rfl⟩ := AdvanceRun.refreshGate_tables hrefr
    refine steady_ensureGate now record.satisfiedByActorId record.dispositionRef ?_
    intro hstat _ _
    by_cases hg1 : gateType = .g1IntakeComplete
    · subst hg1
      exact hruns.intake refreshed run hrun record hpend hstat
    · exact Or.inl ((hruns.backed refreshed run hrun).pending _ hpend hg1 hstat)
  | advancePlan => exact .refl _
  | advanceSchedule _ _ _ _ _ _ _ hsched =>
    obtain ⟨_, -, rfl⟩ := AdvanceRun.schedule_tables hsched
    exact steady_createTask ..

/-- What happens around the workers makes nothing due. -/
theorem steady_around {request : Request} (hmay : w.mayHappen request = true)
    (hworld : w.world.step (.worker request) = some world) :
    w.tables.Steady world.system.tables := by
  have hgrows := (tableMove_around hmay hworld).grows
  rcases around_tables hmay hworld with
    hsame | ⟨taskId, documentVersionId, caseVersion, now, -, -, htabs⟩
  · rw [hsame]
    exact .refl _
  · rw [htabs] at hgrows ⊢
    refine steady_of_rows hgrows rfl rfl rfl ?_
    intro task' hmem hstat _ htype
    rcases List.mem_append.1 hmem with hold | hnew
    · exact hold
    · rw [List.mem_singleton.1 hnew] at hstat
      cases hstat

/-- A gate is satisfied by a human: nothing comes due, or the gate is newly satisfied and its tick is
owed. -/
theorem steady_or_owed_gate (h : TickInv writtenFor w) {ref : Nat} {actorId : Uuid}
    {dispositionRef : Option String} (hg1 : gateType ≠ .g1IntakeComplete)
    (hrange : (TickTrigger.gate gateType ref).inRange = true)
    (hwritten : gateType = .g2GapRequestApproval ∨ gateType = .g3RiskDisposition → caseVersion = writtenFor ref)
    (htabs : w'.tables = w.tables.ensureGate caseVersion gateType .satisfied now (some actorId) dispositionRef)
    (hticks : w'.ticks requestId = gateTick gateType ref) : w.tables.Steady w'.tables ∨ w'.Owed := by
  by_cases hnew : (gateType = .g2GapRequestApproval ∨ gateType = .g3RiskDisposition) ∧
      ¬ w.tables.GateSatisfied caseVersion gateType
  · obtain ⟨hgate, hopen⟩ := hnew
    have htick : w'.ticks requestId = some (.gate gateType ref) := by
      rw [hticks]
      rcases hgate with rfl | rfl <;> rfl
    refine Or.inr (owed_of_fact h htick hrange ?_ ?_ ?_)
    · rcases hgate with rfl | rfl <;> rfl
    · intro hfired
      rw [hwritten hgate] at hopen
      exact hopen (hfired hgate)
    · intro task' hmem
      rw [htabs, CaseTables.ensureGate_frame] at hmem
      exact ⟨task', hmem, rfl⟩
  · rw [htabs]
    refine Or.inl (steady_ensureGate now (some actorId) dispositionRef ?_)
    rintro - - (hintake | hgate)
    · exact absurd hintake hg1
    · refine Or.inl ?_
      by_contra hopen
      exact hnew ⟨hgate, hopen⟩

theorem owed_of_bump (h : TickInv writtenFor w) {revision : RevisionRequest} {handoffId : Uuid}
    (hbump : w.tables.bumpCaseVersion revision handoffId = .ok w'.tables)
    (htick : w'.ticks requestId = some (.revise revision.dispositionId)) : w'.Owed := by
  refine ⟨requestId, owes_iff.2 ⟨_, htick, ?_⟩⟩
  rw [CaseTables.keyFree, (CaseTables.bumpCaseVersion_frame hbump).1, List.all_eq_true]
  intro task hmem
  refine decide_eq_true ?_
  intro hkey
  have hold := (h.keys task hmem _ _ hkey).1
  rw [(CaseTables.bumpCaseVersion_next hbump).2] at hold
  exact absurd hold (Nat.not_succ_le_self _)

/-- **Nothing comes due by a step, or its tick is owed.** -/
theorem Stepped.steady_or_owed (hstepped : Stepped writtenFor w q w') (h : TickInv writtenFor w) :
    w.tables.Steady w'.tables ∨ w'.Owed := by
  have hgrows := hstepped.tableMove.grows
  -- a step that writes neither a gate nor a handoff nor a task
  have hrows : w'.tables.caseVersion = w.tables.caseVersion → w'.tables.gates = w.tables.gates →
      w'.tables.handoffs = w.tables.handoffs → w'.tables.tasks = w.tables.tasks →
        w.tables.Steady w'.tables ∨ w'.Owed := by
    intro hver hgates hhandoffs htasks
    refine Or.inl (steady_of_rows hgrows hver hgates hhandoffs ?_)
    rw [htasks]
    exact fun _ hmem _ _ _ => hmem
  cases hstepped with
  | around _ _ hmay hworld => exact Or.inl (steady_around hmay hworld)
  | acted _ _ _ _ hworld => exact steady_or_owed_acted h hworld hgrows
  | planLoaded _ _ _ _ hworld =>
    obtain ⟨-, e, heng, rfl⟩ := CaseWorld.step_engine_cases hworld
    cases Engine.step_cases heng with
    | advanceLoad => exact Or.inl (.refl _)
  | planAdvanced _ _ _ _ hmay hworld =>
    exact Or.inl (steady_planAdvanced h.runs hmay hworld)
  | planAudited _ _ _ hworld =>
    rw [tables, tables, (CaseWorld.advanceAudit_frame hworld).1]
    exact Or.inl (.refl _)
  | gapsPersisted _ _ _ _ _ _ hworld | marked _ _ _ _ _ hworld =>
    rw [CaseWorld.otherWrites_eq hworld] at hrows ⊢
    exact hrows rfl rfl rfl rfl
  | handoffPersisted _ _ _ _ _ _ hid hnew hworld =>
    refine Or.inr (owed_of_fact h (Function.update_self ..) (decide_eq_true hid) rfl ?_ ?_)
    · rintro ⟨handoff, hmem, hsame⟩
      exact hnew handoff hmem hsame
    · rw [CaseWorld.otherWrites_eq hworld]
      exact fun task hmem => ⟨task, hmem, rfl⟩
  | gateEnsured requestId caseVersion gateType ref now actorId dispositionRef world hfree hg1 hrange hwritten hworld =>
    cases hworld
    exact steady_or_owed_gate h hg1 hrange hwritten rfl (Function.update_self ..)
  | versionBumped requestId revision handoffId world hfree hid hworld =>
    obtain ⟨-, system, hsys, rfl⟩ := CaseWorld.step_worker_cases hworld
    simp only [System.step] at hsys
    split at hsys
    · rename_i tables hbump
      cases hsys
      exact Or.inr (owed_of_bump h hbump (Function.update_self ..))
    · cases hsys
  | reticked _ _ _ _ _ _ _ hworld | advanced _ _ _ _ hworld =>
    rw [kickoff_world hworld]
    exact Or.inl (steady_createTask ..)
  | sent _ _ _ _ _ _ _ _ hworld =>
    obtain ⟨-, _, hsys, rfl⟩ := CaseWorld.step_worker_cases hworld
    simp only [System.step] at hsys
    split at hsys <;> cases hsys
    exact Or.inl (.refl _)
  | planCheckpointed | tickLost | dispatchStopped =>
    exact Or.inl (.refl _)

/-! ## A carried tick -/

/-- Away from the actions of the workers every task is still as it was. -/
theorem Stepped.subset_tasks (hstepped : Stepped writtenFor w q w')
    (hq : ∀ leaseToken action, q ≠ .worker leaseToken action) : w.tables.tasks ⊆ w'.tables.tasks := by
  cases hstepped with
  | around _ _ hmay hworld =>
    rcases around_tables hmay hworld with
      hsame | ⟨taskId, documentVersionId, caseVersion, now, -, -, htabs⟩
    · rw [tables, tables, hsame]
      exact List.Subset.refl _
    · rw [tables, tables, htabs]
      exact List.subset_append_left _ _
  | acted leaseToken action => exact absurd rfl (hq leaseToken action)
  | planLoaded _ _ _ _ hworld | planAdvanced _ _ _ _ _ hworld =>
    obtain ⟨hmoves, e, heng, rfl⟩ := CaseWorld.step_engine_cases hworld
    exact tasks_subset_engine_step heng hmoves
  | planAudited _ _ _ hworld =>
    rw [tables, tables, (CaseWorld.advanceAudit_frame hworld).1]
    exact List.Subset.refl _
  | gapsPersisted _ _ _ _ _ _ hworld | handoffPersisted _ _ _ _ _ _ _ _ hworld | marked _ _ _ _ _ hworld =>
    rw [CaseWorld.otherWrites_eq hworld]
    exact List.Subset.refl _
  | gateEnsured requestId caseVersion gateType ref now actorId dispositionRef world hfree hg1 hrange hwritten hworld =>
    cases hworld
    intro task hmem
    change task ∈ (w.tables.ensureGate caseVersion gateType .satisfied now (some actorId)
      dispositionRef).tasks
    rw [CaseTables.ensureGate_frame]
    exact hmem
  | versionBumped requestId revision handoffId world hfree hid hworld =>
    obtain ⟨-, system, hsys, rfl⟩ := CaseWorld.step_worker_cases hworld
    simp only [System.step] at hsys
    split at hsys
    · rename_i tables hbump
      cases hsys
      exact fun _ hmem => (CaseTables.bumpCaseVersion_frame hbump).1 ▸ hmem
    · cases hsys
  | reticked _ _ _ _ _ _ _ hworld | advanced _ _ _ _ hworld =>
    rw [kickoff_world hworld]
    exact CaseTables.subset_createTask_tasks
  | sent _ _ _ _ _ _ _ _ hworld =>
    obtain ⟨-, _, hsys, rfl⟩ := CaseWorld.step_worker_cases hworld
    simp only [System.step] at hsys
    split at hsys <;> cases hsys
    exact List.Subset.refl _
  | planCheckpointed | tickLost | dispatchStopped =>
    exact List.Subset.refl _

/-- **The execution of a worker keeps covering** while nothing comes due. One that is loaded covers from
the start. -/
theorem Covered.step (h : TickInv writtenFor w) (hsteady : w.tables.Steady w'.tables)
    (hstepped : Stepped writtenFor w q w') {token : Uuid} (hcovered : w.Covered token) :
    w'.Covered token := by
  have hstands : (∀ process, w'.processes token = some process → ∃ before,
      w.processes token = some before ∧ before.executionId = process.executionId) →
      w'.world.advances = w.world.advances → w'.Covered token := by
    intro hprocesses hadvs process hproc run hrun
    obtain ⟨before, hpre, hid⟩ := hprocesses process hproc
    rw [hadvs, ← hid] at hrun
    exact (hcovered before hpre run hrun).mono hsteady
  have hsame : w'.processes = w.processes → w'.world.advances = w.world.advances →
      w'.Covered token := by
    intro hprocesses
    exact hstands fun process hproc => ⟨process, hprocesses ▸ hproc, rfl⟩
  cases hstepped with
  | around _ _ _ hworld | versionBumped _ _ _ _ _ _ hworld | sent _ _ _ _ _ _ _ _ hworld =>
    obtain ⟨-, _, -, rfl⟩ := CaseWorld.step_worker_cases hworld
    exact hsame rfl rfl
  | acted leaseToken _ _ _ hworld =>
    obtain ⟨-, system, -, rfl⟩ := CaseWorld.step_worker_cases hworld
    refine hstands ?_ rfl
    intro process hproc
    refine ⟨process, ?_, rfl⟩
    change Function.update w.processes leaseToken (w.processAfter leaseToken system) token = _
      at hproc
    by_cases htoken : token = leaseToken
    · subst htoken
      rw [Function.update_self, processAfter] at hproc
      split at hproc
      · exact hproc
      · cases hproc
    · rwa [Function.update_of_ne htoken] at hproc
  | planLoaded _ _ _ _ hworld =>
    obtain ⟨-, e, heng, rfl⟩ := CaseWorld.step_engine_cases hworld
    cases Engine.step_cases heng with
    | advanceLoad =>
      intro process hproc run hrun
      rcases update_some_cases hrun with ⟨-, rfl⟩ | ⟨hid, hold⟩
      · exact AdvanceRun.covers_load (h.rows.sound h.inv h.sound.fenced) h.gatesKeyed
      · rcases update_some_cases hproc with ⟨-, rfl⟩ | ⟨-, hpre⟩
        · exact absurd rfl hid
        · exact hcovered process hpre run hold
  | planAdvanced _ _ _ _ hmay hworld =>
    obtain ⟨-, e, heng, rfl⟩ := CaseWorld.step_engine_cases hworld
    intro process hproc next hnext
    cases Engine.step_cases heng with
    | workerMoves | kickoff | advanceLoad => cases hmay
    | advanceRefresh _ _ run _ _ hrun hrefr =>
      rcases update_some_cases hnext with ⟨hid, rfl⟩ | ⟨-, hold⟩
      · exact (hcovered process hproc run (hid ▸ hrun)).refreshGate h.gatesKeyed
          (h.runs.backed _ _ hrun).refreshed hsteady hrefr
      · exact (hcovered process hproc next hold).mono hsteady
    | advancePlan _ _ run _ hrun hplan =>
      rcases update_some_cases hnext with ⟨hid, rfl⟩ | ⟨-, hold⟩
      · exact (hcovered process hproc run (hid ▸ hrun)).planSteps hplan
      · exact (hcovered process hproc next hold).mono hsteady
    | advanceSchedule _ _ _ run _ _ hrun hsched =>
      rcases update_some_cases hnext with ⟨hid, rfl⟩ | ⟨-, hold⟩
      · exact (hcovered process hproc run (hid ▸ hrun)).schedule hsteady hsched
      · exact (hcovered process hproc next hold).mono hsteady
  | planAudited _ _ _ hworld =>
    exact hsame rfl (CaseWorld.advanceAudit_frame hworld).2
  | planCheckpointed _ _ _ _ _ hproc =>
    refine hstands ?_ rfl
    intro process hafter
    rcases update_some_cases hafter with ⟨rfl, rfl⟩ | ⟨-, hold⟩
    · exact ⟨_, hproc, rfl⟩
    · exact ⟨process, hold, rfl⟩
  | gapsPersisted _ _ _ _ _ _ hworld | handoffPersisted _ _ _ _ _ _ _ _ hworld | marked _ _ _ _ _ hworld =>
    rw [CaseWorld.otherWrites_eq hworld] at hsame ⊢
    exact hsame rfl rfl
  | gateEnsured requestId caseVersion gateType ref now actorId dispositionRef world hfree hg1 hrange hwritten hworld =>
    cases hworld
    exact hsame rfl rfl
  | reticked _ _ _ _ _ _ _ hworld | advanced _ _ _ _ hworld =>
    rw [kickoff_world hworld] at hsame ⊢
    exact hsame rfl rfl
  | tickLost | dispatchStopped => exact hsame rfl rfl

/-- **What a covering execution leaves due**, once its plan is scheduled: nothing. -/
theorem nothingDue_of_covers (h : TickInv writtenFor w) {run : AdvanceRun}
    (hrun : w.world.advances executionId = some run) (hcovers : run.Covers w.tables)
    (hsteps : run.pendingSteps = some []) : w.tables.NothingDue := by
  intro node hnode hdue
  obtain ⟨hgates, hready⟩ := h.sound.planned executionId run hrun [] hsteps
  have hfound := (hcovers.foresees node hnode hdue).ready hgates hnode
  rcases hready _ hfound with hplanned | ⟨task, hmem, hkey⟩
  · cases hplanned
  obtain ⟨htype, hver, -⟩ := h.sound.fenced.keyed task hmem _ _ hkey
  exact hdue.fresh ⟨task, hmem, htype, hver.trans hcovers.version⟩

theorem Carrier.of_same (hcarrier : w.Carrier task) (hmem : task ∈ w'.tables.tasks)
    (hver : w'.tables.caseVersion = w.tables.caseVersion)
    (hunsaved : (task.id, PlanCheckpoint.enqueued) ∉ w'.planCheckpoints)
    (hcovered : ∀ token, w.Covered token → w'.Covered token) : w'.Carrier task where
  mem := hmem
  plan := hcarrier.plan
  current := hcarrier.current.trans hver.symm
  unfinished := hcarrier.unfinished
  unsaved := hunsaved
  covered leaseToken leaseUntil hlease :=
    hcovered leaseToken (hcarrier.covered leaseToken leaseUntil hlease)

/-- **A worker keeps the tick with the planning task.** It cannot finish the task before its last
checkpoint is saved. -/
theorem Carrier.acted (h : TickInv writtenFor w)
    (hworld : w.world.step (.worker (.worker leaseToken action)) = some world)
    (hcovered : ∀ token, w.Covered token → (w.afterAction leaseToken action world).Covered token)
    (hcarrier : w.Carrier task) :
    (w.afterAction leaseToken action world).Carried ∨
      (w.afterAction leaseToken action world).PlanFailed := by
  obtain ⟨-, system, hsys, rfl⟩ := CaseWorld.step_worker_cases hworld
  obtain ⟨run, hrun, hact⟩ := Option.bind_eq_some_iff.1 hsys
  obtain ⟨_, htabs, -⟩ := (System.act_cases hact).moved
  obtain ⟨move, htasks, hmove⟩ := (System.act_cases hact).rowMove
  have hver : system.tables.caseVersion = w.tables.caseVersion := by
    rw [htabs]
    rfl
  have hpre : w.world.system.stageOf leaseToken = some run.stage := by
    rw [System.stageOf, hrun]
    rfl
  have hmem : move task ∈ system.tables.tasks := by
    rw [htasks]
    exact List.mem_map_of_mem hcarrier.mem
  have hrow := hmove task hcarrier.mem
  generalize move task = task' at hmem hrow
  obtain ⟨-, htype, -⟩ := RowMove.sameTask hrow
  cases hrow with
  | stays => exact Or.inl ⟨task, hcarrier.of_same hmem hver hcarrier.unsaved hcovered⟩
  | claimed _ _ hstage =>
    refine Or.inl ⟨_, hmem, hcarrier.plan, hcarrier.current.trans hver.symm, rfl,
      hcarrier.unsaved, ?_⟩
    rintro _ _ ⟨⟩
    -- the worker has no processor yet
    intro process hproc
    change Function.update w.processes leaseToken (w.processAfter leaseToken system) leaseToken = _
      at hproc
    rw [Function.update_self, processAfter] at hproc
    split at hproc
    · obtain ⟨_, hother⟩ := h.workers.processes leaseToken process hproc
      obtain ⟨_, _, hprocessing⟩ := processing_eq_some.1 hother
      rw [hpre, hstage] at hprocessing
      cases hprocessing
    · cases hproc
  | extended _ howned =>
    refine Or.inl ⟨_, hmem, hcarrier.plan, hcarrier.current.trans hver.symm,
      hcarrier.unfinished, hcarrier.unsaved, ?_⟩
    rintro _ _ ⟨⟩
    obtain ⟨lease, hlease, hmine⟩ := (Option.any_eq_true _ _).1 (of_decide_eq_true howned).2
    obtain ⟨rfl, -⟩ := of_decide_eq_true hmine
    exact hcovered lease.1 (hcarrier.covered lease.1 lease.2 hlease)
  | closed message outcome _ hstage _ hscope =>
    -- a planning task is reported only behind its last checkpoint
    have hid : task.id = message.envelope.taskId := (of_decide_eq_true hscope).1
    have hisPlan : w.isPlan message = true :=
      List.any_eq_true.2 ⟨task, hcarrier.mem, decide_eq_true ⟨hid, hcarrier.plan⟩⟩
    have hsaved := (h.workers.reported leaseToken message outcome (by rw [hpre, hstage]) hisPlan).2
    rw [← hid] at hsaved
    exact absurd hsaved hcarrier.unsaved
  | retried now baseDelaySeconds =>
    obtain ⟨hid, hversionOf, -, -, -, hlease⟩ := retryTask_frame now baseDelaySeconds task
    rcases retryTask_cases now baseDelaySeconds task with ⟨-, hstat⟩ | ⟨-, hstat⟩
    · exact Or.inr ⟨_, hmem, htype.trans hcarrier.plan, hstat⟩
    · refine Or.inl ⟨_, hmem, htype.trans hcarrier.plan,
        (hversionOf.trans hcarrier.current).trans hver.symm, by rw [hstat]; rfl,
        by rw [hid]; exact hcarrier.unsaved, ?_⟩
      intro token leaseUntil hleased
      rw [hlease] at hleased
      cases hleased

/-- A checkpoint of a planning processor: the last one of the carrier shows that nothing is due. -/
theorem Carrier.checkpointed (h : TickInv writtenFor w) {kind : PlanCheckpoint}
    {due : List PlanCheckpoint} (hproc : w.processes leaseToken = some ⟨executionId, kind :: due⟩)
    (hreturned : w.returned executionId = true) (hmay : w.mayCheckpoint leaseToken message = true)
    (hcovered : ∀ token, w.Covered token → w'.Covered token) (hsame : w'.world = w.world)
    (hcheckpoints : w'.planCheckpoints = (message.envelope.taskId, kind) :: w.planCheckpoints)
    (hcarrier : w.Carrier task) : w'.Carried ∨ w.tables.NothingDue := by
  by_cases hsaved : (task.id, PlanCheckpoint.enqueued) = (message.envelope.taskId, kind)
  · right
    obtain ⟨hid, -⟩ := Prod.mk.inj hsaved
    obtain ⟨other, hother, hguard⟩ := List.any_eq_true.1 hmay
    obtain ⟨hscope, howned, -⟩ := of_decide_eq_true hguard
    -- the holder of the lease is the worker whose execution has returned
    have hone : other = task :=
      h.inv.eq_of_id hcarrier.mem hother ((of_decide_eq_true hscope).1.trans hid.symm)
    rw [hone] at howned
    obtain ⟨-, leaseUntil, hlease, -⟩ := ownedBy_iff.1 howned
    obtain ⟨run, hrun, hsteps⟩ := (Option.any_eq_true _ _).1 (of_decide_eq_true hreturned).1
    exact nothingDue_of_covers h hrun (hcarrier.covered leaseToken leaseUntil hlease _ hproc run hrun)
      (of_decide_eq_true hsteps)
  · refine Or.inl ⟨task, hcarrier.of_same ?_ ?_ ?_ hcovered⟩
    · rw [tables, hsame]
      exact hcarrier.mem
    · rw [tables, hsame]
      rfl
    · rw [hcheckpoints]
      intro hmem
      rcases List.mem_cons.1 hmem with hnew | hold
      · exact hsaved hnew
      · exact hcarrier.unsaved hold

/-- **A carried tick stays carried** by a step that makes nothing due, until nothing is due or a planning
task fails to manual review. -/
theorem Carried.step (h : TickInv writtenFor w) (hsteady : w.tables.Steady w'.tables)
    (hstepped : Stepped writtenFor w q w') (hcarried : w.Carried) : w'.Alive := by
  obtain ⟨task, hcarrier⟩ := hcarried
  have hcovered : ∀ token, w.Covered token → w'.Covered token :=
    fun token => Covered.step h hsteady hstepped
  -- away from the workers and the checkpoints the planning task goes on as it is
  have hsame : (∀ leaseToken action, q ≠ .worker leaseToken action) →
      w'.planCheckpoints = w.planCheckpoints → w'.Alive := by
    intro hq hcheckpoints
    refine .carried ⟨task, hcarrier.of_same (hstepped.subset_tasks hq hcarrier.mem) hsteady.version ?_
      hcovered⟩
    rw [hcheckpoints]
    exact hcarrier.unsaved
  cases hstepped with
  | acted _ _ _ _ hworld =>
    rcases hcarrier.acted h hworld hcovered with hnext | hfailed
    · exact .carried hnext
    · exact .planFailed hfailed
  | planCheckpointed _ _ _ _ _ hproc _ hreturned hmay =>
    have hnext := Carrier.checkpointed h hproc hreturned hmay hcovered rfl rfl hcarrier
    rcases hnext with hnext | hnone
    · exact .carried hnext
    · exact .nothingDue hnone
  | _ => exact hsame nofun rfl

/-! ## An owed tick -/

theorem carried_of_newTask (h : TickInv writtenFor w) (hsteady : w.tables.Steady w'.tables)
    (hstepped : Stepped writtenFor w q w') (hmem : task ∈ w'.tables.tasks) (hnew : NewTask w task)
    {triggerRef : Option String} (hkey : task.idempotencyKey = .orchPlan caseVersion triggerRef) :
    w'.Carried := by
  obtain ⟨hplan, hver⟩ := hnew.plan _ _ hkey
  refine ⟨task, hmem, hplan, hver.trans hsteady.version.symm, by rw [hnew.pending]; rfl, ?_, ?_⟩
  · intro hsaved
    obtain ⟨known, hknown, hid⟩ := h.checkpoints.before hstepped _ hsaved
    exact of_decide_eq_true (List.all_eq_true.1 (of_decide_eq_true hnew.fresh).2 known hknown) hid
  · intro leaseToken leaseUntil hlease
    rw [hnew.unleased] at hlease
    cases hlease

/-- The tick of a worker after an action that does not give it up. -/
theorem ticks_acted (htick : w.ticks caller = some trigger)
    (hkept : caller = leaseToken → failsAt w.world.system leaseToken action = false) :
    (w.afterAction leaseToken action after).ticks caller = some trigger ∨
      ∃ message now, caller = leaseToken ∧ action = .settle now ∧
        w.world.system.stageOf leaseToken = some (.reported message .succeeded) ∧
        after.system.stageOf leaseToken = some (.archiving message) ∧ w.isPlan message = false := by
  change Function.update w.ticks leaseToken (w.tickAfter leaseToken action after.system) caller = _ ∨ _
  by_cases hcaller : caller = leaseToken
  · subst hcaller
    rw [Function.update_self]
    simp only [tickAfter, hkept rfl, Bool.false_eq_true, if_false]
    split
    · split
      · rename_i now message hstage hsettled
        exact Or.inr ⟨message, now, trivial, rfl, hstage, hsettled⟩
      · exact Or.inl htick
    · exact Or.inl htick
  · rw [Function.update_of_ne hcaller]
    exact Or.inl htick

/-- **An owed tick stays owed or comes to be carried** by a step that makes nothing due and gives up no
tick: its key stays free until a planning task takes it. -/
theorem Owed.step (h : TickInv writtenFor w) (hkept : losesTick w q = false)
    (hsteady : w.tables.Steady w'.tables) (hstepped : Stepped writtenFor w q w') (howed : w.Owed) :
    w'.Owed ∨ w'.Carried := by
  obtain ⟨caller, howes⟩ := howed
  obtain ⟨trigger, htick, hfree⟩ := owes_iff.1 howes
  by_cases hfree' : w'.tables.keyFree (.orchPlan w'.tables.caseVersion (some trigger.ref)) = true
  · left
    have howed : w'.ticks caller = some trigger → w'.Owed :=
      fun htick' => ⟨caller, owes_iff.2 ⟨trigger, htick', hfree'⟩⟩
    -- a request that comes up now owes nothing yet, so it is another one
    have hother : ∀ {requestId : Uuid} {tick : Option TickTrigger}, w.freshCaller requestId = true →
        Function.update w.ticks requestId tick caller = some trigger := by
      intro requestId tick hnew
      rw [Function.update_of_ne, htick]
      rintro rfl
      have hnone := (of_decide_eq_true hnew).2
      rw [htick] at hnone
      cases hnone
    cases hstepped with
    | acted leaseToken action _ _ hworld =>
      have hstays : caller = leaseToken → failsAt w.world.system leaseToken action = false := by
        rintro rfl
        rw [losesTick, howes] at hkept
        simpa using hkept
      rcases ticks_acted htick hstays with hsame | ⟨_, _, rfl, rfl, hstage, hafter, hplan⟩
      · exact howed hsame
      · -- another success of the worker
        obtain ⟨-, _, hsys, rfl⟩ := CaseWorld.step_worker_cases hworld
        obtain ⟨_, hrun, hact⟩ := Option.bind_eq_some_iff.1 hsys
        rw [System.stageOf, hrun, Option.map_some, Option.some.injEq] at hstage
        exact owed_of_settle h hrun hstage hact hafter hplan rfl
    | handoffPersisted _ _ _ _ _ hnew
    | gateEnsured requestId caseVersion gateType ref now actorId dispositionRef world hnew hg1 hrange hwritten hworld
    | versionBumped _ _ _ _ hnew =>
      exact howed (hother hnew)
    | reticked fired taskId _ now _ hfired _ hworld =>
      refine howed ?_
      change Function.update w.ticks fired none caller = _
      rw [Function.update_of_ne, htick]
      rintro rfl
      -- its own key is taken by now
      cases htick.symm.trans hfired
      rw [hsteady.version, kickoff_world hworld] at hfree'
      obtain ⟨task, hmem, hkey⟩ := hasKey_createTask w.tables taskId w.tables.caseVersion
        .orchestratorPlan (.orchPlan w.tables.caseVersion (some trigger.ref)) now []
      exact of_decide_eq_true (List.all_eq_true.1 hfree' task hmem) hkey
    | tickLost lost =>
      refine howed ?_
      change Function.update w.ticks lost none caller = _
      rw [Function.update_of_ne, htick]
      rintro rfl
      rw [losesTick, howes] at hkept
      cases hkept
    | _ => exact howed htick
  · right
    -- a new planning task has taken the key
    rw [hsteady.version, Bool.not_eq_true] at hfree'
    obtain ⟨_, hmem', hkey⟩ := List.all_eq_false.1 hfree'
    rw [decide_eq_true_eq, not_not] at hkey
    rcases hstepped.tableMove.task_cases hmem' with ⟨task, hmem, hsame⟩ | hnew
    · have hold := of_decide_eq_true (List.all_eq_true.1 hfree task hmem)
      exact absurd (hsame.2.2.2.2.symm.trans hkey) hold
    · exact carried_of_newTask h hsteady hstepped hmem' hnew hkey

/-! ## Every step -/

/-- **A step that gives up no tick keeps the case alive.** -/
theorem Alive.step (h : TickInv writtenFor w) (hkept : losesTick w q = false)
    (hstepped : Stepped writtenFor w q w') (halive : w.Alive) : w'.Alive := by
  rcases hstepped.steady_or_owed h with hsteady | howed
  · cases halive with
    | nothingDue hnone => exact .nothingDue (hsteady.nothingDue hnone)
    | owed howed =>
      rcases howed.step h hkept hsteady hstepped with hstill | hcarried
      · exact .owed hstill
      · exact .carried hcarried
    | carried hcarried => exact hcarried.step h hsteady hstepped
    | planFailed hfailed => exact .planFailed (hfailed.mono hstepped.tableMove.grows)
  · exact .owed howed

end CreditOps.Workers.TickWorld
