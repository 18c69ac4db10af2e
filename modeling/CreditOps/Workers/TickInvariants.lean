import CreditOps.Workers.TickMoves

/-!
# What every step of the ticks keeps

The rows stay keyed and outboxed (`RowInv.step`), every key of a re-tick and every tick that is owed goes
back to a committed fact (`Fired`), an execution refreshes the intake gate as satisfied only when it is
effective, the planning processor reports only behind its last checkpoint, and an event is marked
dispatched only when its message is in the queue or its task is finished. `TickInv` puts these together,
and it holds in every state of every run (`TickInv.step`).
-/

set_option autoImplicit false

namespace CreditOps.Workers.TickWorld

open Orchestration Outbox Transition PartialMap

variable {writtenFor : Uuid → CaseVersion} {w w' : TickWorld} {tables tables' : CaseTables}

/-! ## Rows -/

/-- Keys are unique, an agent task has the key of its type and version, no document and an event in the
outbox, and a gap is attached to a task of its version. -/
structure RowInv (tables : CaseTables) : Prop where
  keys : (tables.tasks.map (·.idempotencyKey)).Nodup
  agent : ∀ task ∈ tables.tasks, task.taskType ≠ .orchestratorPlan →
    task.taskType ≠ .documentIngestion → task.idempotencyKey = .orch task.caseVersion task.taskType
  unscoped : ∀ task ∈ tables.tasks, task.taskType ≠ .documentIngestion →
    task.documentVersionId = none
  bounded : ∀ task ∈ tables.tasks, task.id < 16 ^ 32
  gaps : ∀ gap ∈ tables.gaps, ∃ task ∈ tables.tasks, task.id = gap.affectedTaskId ∧
    task.caseVersion = gap.caseVersion
  outboxed : ∀ task ∈ tables.tasks, task.taskType ≠ .documentIngestion →
    ∃ event ∈ tables.outbox, event.taskId = task.id

/-- The rows after their tasks have moved, with more gaps and other marks. -/
theorem RowInv.map (h : RowInv tables) {move : ProcessingTask → ProcessingTask}
    (htasks : tables'.tasks = tables.tasks.map move)
    (hsame : ∀ task ∈ tables.tasks, SameTask task (move task))
    (hgaps : ∀ gap ∈ tables'.gaps, gap ∈ tables.gaps ∨
      ∃ task ∈ tables.tasks, task.id = gap.affectedTaskId ∧ task.caseVersion = gap.caseVersion)
    (houtbox : ∀ event ∈ tables.outbox, ∃ event' ∈ tables'.outbox, event'.taskId = event.taskId) :
    RowInv tables' := by
  have hback : ∀ task' ∈ tables'.tasks, ∃ task ∈ tables.tasks, SameTask task task' := by
    intro task' hmem
    rw [htasks] at hmem
    obtain ⟨task, hold, rfl⟩ := List.mem_map.1 hmem
    exact ⟨task, hold, hsame task hold⟩
  refine ⟨?_, ?_, ?_, ?_, ?_, ?_⟩
  · have hkeys : tables'.tasks.map (·.idempotencyKey) = tables.tasks.map (·.idempotencyKey) := by
      rw [htasks, List.map_map]
      exact List.map_congr_left fun task hmem => (hsame task hmem).2.2.2.2
    rw [hkeys]
    exact h.keys
  · intro task' hmem hplan hingestion
    obtain ⟨task, hold, -, htype, hver, -, hkey⟩ := hback task' hmem
    rw [htype] at hplan hingestion
    rw [hkey, htype, hver]
    exact h.agent task hold hplan hingestion
  · intro task' hmem hingestion
    obtain ⟨task, hold, -, htype, -, hdoc, -⟩ := hback task' hmem
    rw [htype] at hingestion
    rw [hdoc]
    exact h.unscoped task hold hingestion
  · intro task' hmem
    obtain ⟨task, hold, hid, -⟩ := hback task' hmem
    rw [hid]
    exact h.bounded task hold
  · intro gap hgap
    obtain ⟨task, hmem, hid, hver⟩ := (hgaps gap hgap).elim (h.gaps gap) id
    obtain ⟨hid', -, hver', -⟩ := hsame task hmem
    refine ⟨move task, ?_, hid'.trans hid, hver'.trans hver⟩
    rw [htasks]
    exact List.mem_map_of_mem hmem
  · intro task' hmem hingestion
    obtain ⟨task, hold, hid, htype, -⟩ := hback task' hmem
    rw [htype] at hingestion
    obtain ⟨event, hevent, htask⟩ := h.outboxed task hold hingestion
    obtain ⟨event', hevent', hsameTask⟩ := houtbox event hevent
    exact ⟨event', hevent', hsameTask.trans (htask.trans hid.symm)⟩

theorem RowInv.of_same (h : RowInv tables) (htasks : tables'.tasks = tables.tasks)
    (hgaps : ∀ gap ∈ tables'.gaps, gap ∈ tables.gaps ∨
      ∃ task ∈ tables.tasks, task.id = gap.affectedTaskId ∧ task.caseVersion = gap.caseVersion)
    (houtbox : ∀ event ∈ tables.outbox, ∃ event' ∈ tables'.outbox, event'.taskId = event.taskId) :
    RowInv tables' := by
  have hmap : tables'.tasks = tables.tasks.map id := by rw [List.map_id, htasks]
  exact h.map hmap (fun task _ => .refl task) hgaps houtbox

/-- The rows with one more task and its event. -/
theorem RowInv.append (h : RowInv tables) {new : ProcessingTask}
    (htasks : tables'.tasks = tables.tasks ++ [new]) (hgaps : tables'.gaps = tables.gaps)
    (hkey : ∀ task ∈ tables.tasks, task.idempotencyKey ≠ new.idempotencyKey)
    (hagent : new.taskType ≠ .orchestratorPlan → new.taskType ≠ .documentIngestion →
      new.idempotencyKey = .orch new.caseVersion new.taskType)
    (hunscoped : new.taskType ≠ .documentIngestion → new.documentVersionId = none)
    (hbounded : new.id < 16 ^ 32) (houtbox : tables.outbox ⊆ tables'.outbox)
    (hevent : new.taskType ≠ .documentIngestion → ∃ event ∈ tables'.outbox, event.taskId = new.id) :
    RowInv tables' := by
  have hcases : ∀ task ∈ tables'.tasks, task ∈ tables.tasks ∨ task = new := by
    intro task hmem
    rw [htasks] at hmem
    exact (List.mem_append.1 hmem).imp_right List.mem_singleton.1
  refine ⟨?_, ?_, ?_, ?_, ?_, ?_⟩
  · rw [htasks, List.map_append, List.map_singleton, List.nodup_append]
    refine ⟨h.keys, List.nodup_singleton _, ?_⟩
    rintro _ hold _ hnew rfl
    obtain ⟨task, hmem, hsame⟩ := List.mem_map.1 hold
    exact hkey task hmem (hsame.trans (List.mem_singleton.1 hnew))
  · intro task hmem hplan hingestion
    rcases hcases task hmem with hold | rfl
    · exact h.agent task hold hplan hingestion
    · exact hagent hplan hingestion
  · intro task hmem hingestion
    rcases hcases task hmem with hold | rfl
    · exact h.unscoped task hold hingestion
    · exact hunscoped hingestion
  · intro task hmem
    rcases hcases task hmem with hold | rfl
    · exact h.bounded task hold
    · exact hbounded
  · intro gap hgap
    rw [hgaps] at hgap
    obtain ⟨task, hmem, hsame⟩ := h.gaps gap hgap
    refine ⟨task, ?_, hsame⟩
    rw [htasks]
    exact List.mem_append_left _ hmem
  · intro task hmem hingestion
    rcases hcases task hmem with hold | rfl
    · obtain ⟨event, hmemEvent, htask⟩ := h.outboxed task hold hingestion
      exact ⟨event, houtbox hmemEvent, htask⟩
    · exact hevent hingestion

variable {taskId leaseToken : Uuid} {caseVersion : CaseVersion}

/-- A task write keeps the rows. -/
theorem RowInv.createTask (h : RowInv tables) {taskType : TaskType} {key : TaskKey}
    (hid : taskId < 16 ^ 32) (hagent : taskType ≠ .orchestratorPlan → key = .orch caseVersion taskType)
    (now : Timestamp) (dependsOn : List Uuid) :
    RowInv (tables.createTask taskId caseVersion taskType key now dependsOn) := by
  cases hfree : tables.keyFree key with
  | false =>
    rw [CaseTables.createTask_of_taken hfree]
    exact h
  | true =>
    rw [CaseTables.createTask_of_free hfree]
    refine h.append rfl rfl ?_ (fun hplan _ => hagent hplan) (fun _ => rfl) hid
      (List.subset_cons_self _ _) (fun _ => ⟨_, List.mem_cons_self, rfl⟩)
    intro task hmem
    exact of_decide_eq_true (List.all_eq_true.1 hfree task hmem)

theorem RowInv.ensureGate (h : RowInv tables) (caseVersion : CaseVersion) (gateType : GateType)
    (status : GateStatus) (now : Timestamp) (actorId : Option Uuid)
    (dispositionRef : Option String) :
    RowInv (tables.ensureGate caseVersion gateType status now actorId dispositionRef) := by
  rw [CaseTables.ensureGate_frame]
  exact h.of_same rfl (fun _ hgap => Or.inl hgap) (fun event hevent => ⟨event, hevent, rfl⟩)

variable {event : OutboxEvent}

theorem exists_markDispatched (hevent : event ∈ tables.outbox) (taskId : Uuid) (now : Timestamp) :
    ∃ event' ∈ (tables.markDispatched taskId now).outbox, event'.taskId = event.taskId := by
  refine ⟨_, List.mem_map_of_mem hevent, ?_⟩
  split <;> rfl

/-- **Every step keeps the rows.** -/
theorem RowInv.step (h : RowInv w.tables) (hmove : TableMove w tables) : RowInv tables := by
  have hkeep : ∀ event ∈ w.tables.outbox, ∃ event' ∈ w.tables.outbox,
      event'.taskId = event.taskId := fun event hevent => ⟨event, hevent, rfl⟩
  cases hmove with
  | same => exact h
  | acted _ _ _ _ hacted =>
    obtain ⟨_, htabs, -⟩ := hacted.moved
    obtain ⟨_, htasks, hrow⟩ := hacted.rowMove
    refine h.map htasks (fun task hmem => RowMove.sameTask (hrow task hmem)) ?_ ?_
    · rw [htabs]
      exact fun _ hgap => Or.inl hgap
    · rw [htabs]
      exact hkeep
  | ingested _ _ _ _ hid hkey =>
    refine h.append rfl rfl ?_ (fun _ hingestion => absurd rfl hingestion)
      (fun hingestion => absurd rfl hingestion) (of_decide_eq_true hid).1 (List.Subset.refl _)
      (fun hingestion => absurd rfl hingestion)
    intro task hmem
    exact of_decide_eq_true (List.all_eq_true.1 hkey task hmem)
  | planned _ _ now hid =>
    exact h.createTask (of_decide_eq_true hid).1 (fun hplan => absurd rfl hplan) now []
  | scheduled _ _ _ _ now dependsOn hid =>
    exact h.createTask (of_decide_eq_true hid).1 (fun _ => rfl) now dependsOn
  | refreshed | satisfied => exact h.ensureGate ..
  | gapsAdded task _ hmem =>
    refine h.of_same rfl ?_ hkeep
    intro gap hgap
    rcases List.mem_append.1 hgap with hnew | hold
    · obtain ⟨_, -, rfl⟩ := List.mem_map.1 hnew
      exact Or.inr ⟨task, hmem, rfl, rfl⟩
    · exact Or.inl hold
  | handedOff =>
    exact h.of_same rfl (fun _ hgap => Or.inl hgap) hkeep
  | bumped _ _ _ hbump =>
    obtain ⟨htasks, -, -, hgaps, houtbox⟩ := CaseTables.bumpCaseVersion_frame hbump
    refine h.of_same htasks ?_ ?_
    · rw [hgaps]
      exact fun _ hgap => Or.inl hgap
    · rw [houtbox]
      exact hkeep
  | marked _ taskId now =>
    exact h.of_same rfl (fun _ hgap => Or.inl hgap)
      (fun event hevent => exists_markDispatched hevent taskId now)

theorem RowInv.sound {s : System} (h : RowInv s.tables) (hinv : s.Inv) (hfenced : s.Fenced) :
    s.tables.RowsSound where
  keys := h.keys
  agent := h.agent
  superseded task hmem hingestion hstat :=
    hfenced.superseded task hmem (h.unscoped task hmem hingestion) hstat
  gaps gap hgap task hmem hid := by
    obtain ⟨_, hattached, hattachedId, hver⟩ := h.gaps gap hgap
    rw [hinv.eq_of_id hattached hmem (hid.trans hattachedId.symm)]
    exact hver

/-- **The gates stay keyed.** -/
theorem TableMove.gatesKeyed (hmove : TableMove w tables) (h : w.tables.GatesKeyed) :
    tables.GatesKeyed := by
  have hsame : tables.gates = w.tables.gates → tables.GatesKeyed := by
    intro hgates
    rw [CaseTables.GatesKeyed, hgates]
    exact h
  cases hmove with
  | same | ingested | gapsAdded | handedOff | marked => exact h
  | acted _ _ _ _ hacted =>
    obtain ⟨_, htabs, -⟩ := hacted.moved
    exact hsame (by rw [htabs]; rfl)
  | planned | scheduled => exact hsame (CaseTables.createTask_gates ..)
  | refreshed | satisfied => exact h.ensureGate ..
  | bumped _ _ _ hbump =>
    exact hsame (CaseTables.bumpCaseVersion_frame hbump).2.2.1

/-! ## New tasks -/

/-- A task that a step has added: it waits, without a lease. Under a planning key it is a planning task of
the current version, and the key of a re-tick is that of a tick that was owed. -/
structure NewTask (w : TickWorld) (task : ProcessingTask) : Prop where
  fresh : w.freshId task.id = true
  pending : task.status = .pending
  unleased : task.lease = none
  plan : ∀ caseVersion triggerRef, task.idempotencyKey = .orchPlan caseVersion triggerRef →
    task.taskType = .orchestratorPlan ∧ task.caseVersion = w.tables.caseVersion
  key : ∀ caseVersion triggerRef, task.idempotencyKey = .orchPlan caseVersion triggerRef →
    caseVersion = w.tables.caseVersion ∧ ∀ ref, triggerRef = some ref →
      ∃ caller trigger, w.ticks caller = some trigger ∧ ref = trigger.ref

/-- **Where a task comes from.** It stands for a task from before the step, or it is new. -/
theorem TableMove.task_cases (hmove : TableMove w tables) {task' : ProcessingTask}
    (hmem : task' ∈ tables.tasks) :
    (∃ task ∈ w.tables.tasks, SameTask task task') ∨ NewTask w task' := by
  have hsame : tables.tasks = w.tables.tasks →
      (∃ task ∈ w.tables.tasks, SameTask task task') ∨ NewTask w task' := by
    intro htasks
    rw [htasks] at hmem
    exact Or.inl ⟨task', hmem, .refl task'⟩
  cases hmove with
  | same | gapsAdded | handedOff | marked => exact hsame rfl
  | acted _ _ _ _ hacted =>
    obtain ⟨_, htasks, hrow⟩ := hacted.rowMove
    rw [htasks] at hmem
    obtain ⟨task, hold, rfl⟩ := List.mem_map.1 hmem
    exact Or.inl ⟨task, hold, RowMove.sameTask (hrow task hold)⟩
  | ingested _ _ _ _ hid =>
    rcases List.mem_append.1 hmem with hold | hnew
    · exact Or.inl ⟨task', hold, .refl task'⟩
    · rw [List.mem_singleton.1 hnew]
      exact Or.inr ⟨hid, rfl, rfl, nofun, nofun⟩
  | planned _ _ _ hid htrigger =>
    rcases mem_createTask_cases hmem with hold | rfl
    · exact Or.inl ⟨task', hold, .refl task'⟩
    · refine Or.inr ⟨hid, rfl, rfl, fun _ _ _ => ⟨rfl, rfl⟩, ?_⟩
      intro caseVersion ref hkey
      cases hkey
      exact ⟨rfl, htrigger⟩
  | scheduled _ _ _ _ _ _ hid =>
    rcases mem_createTask_cases hmem with hold | rfl
    · exact Or.inl ⟨task', hold, .refl task'⟩
    · exact Or.inr ⟨hid, rfl, rfl, nofun, nofun⟩
  | refreshed | satisfied =>
    exact hsame (by rw [CaseTables.ensureGate_frame])
  | bumped _ _ _ hbump => exact hsame (CaseTables.bumpCaseVersion_frame hbump).1

/-! ## The facts behind the ticks -/

/-- The fact that fires the tick has been committed. -/
def Fired (writtenFor : Uuid → CaseVersion) (tables : CaseTables) : TickTrigger → Prop
  | .task taskId => ∃ task ∈ tables.tasks, task.id = taskId ∧ task.status = .succeeded
  | .handoff handoffId => ∃ handoff ∈ tables.handoffs, handoff.id = handoffId
  | .revise _ => True
  | .gate gateType ref =>
    gateType = .g2GapRequestApproval ∨ gateType = .g3RiskDisposition →
      tables.GateSatisfied (writtenFor ref) gateType

variable {trigger : TickTrigger}

/-- A committed fact stands. -/
theorem Fired.mono (h : Fired writtenFor tables trigger) (hgrows : Grows tables tables') :
    Fired writtenFor tables' trigger := by
  cases trigger with
  | task =>
    obtain ⟨task, hmem, hid, hstat⟩ := h
    obtain ⟨_, hmem', -, hsame⟩ := hgrows.tasks task hmem
    rw [hsame (by rw [hstat]; rfl)] at hmem'
    exact ⟨task, hmem', hid, hstat⟩
  | handoff =>
    obtain ⟨handoff, hmem, hid⟩ := h
    exact ⟨handoff, hgrows.handoffs hmem, hid⟩
  | revise => exact h
  | gate => exact fun hgate => hgrows.gates _ _ (h hgate)

/-- The planning tasks have keys of versions the case has reached, and those of a re-tick go back to a
committed fact. -/
def KeysFired (writtenFor : Uuid → CaseVersion) (tables : CaseTables) : Prop :=
  ∀ task ∈ tables.tasks, ∀ caseVersion triggerRef,
    task.idempotencyKey = .orchPlan caseVersion triggerRef → caseVersion ≤ tables.caseVersion ∧
      ∀ ref, triggerRef = some ref →
        ∃ trigger : TickTrigger, trigger.inRange = true ∧ ref = trigger.ref ∧
          Fired writtenFor tables trigger

/-- The ticks that are owed go back to a committed fact. -/
def TicksFired (writtenFor : Uuid → CaseVersion) (w : TickWorld) : Prop :=
  ∀ caller trigger, w.ticks caller = some trigger →
    trigger.inRange = true ∧ Fired writtenFor w.tables trigger

theorem KeysFired.step (h : KeysFired writtenFor w.tables) (hticks : TicksFired writtenFor w)
    (hmove : TableMove w tables) : KeysFired writtenFor tables := by
  have hgrows := hmove.grows
  intro task' hmem caseVersion triggerRef hkey
  rcases hmove.task_cases hmem with ⟨task, hold, -, -, -, -, hsame⟩ | hnew
  · obtain ⟨hver, htrigger⟩ := h task hold caseVersion triggerRef (hsame.symm.trans hkey)
    refine ⟨hver.trans hgrows.version, fun ref href => ?_⟩
    obtain ⟨trigger, hrange, href, hfired⟩ := htrigger ref href
    exact ⟨trigger, hrange, href, hfired.mono hgrows⟩
  · obtain ⟨rfl, htrigger⟩ := hnew.key caseVersion triggerRef hkey
    refine ⟨hgrows.version, fun ref href => ?_⟩
    obtain ⟨caller, trigger, htick, href⟩ := htrigger ref href
    obtain ⟨hrange, hfired⟩ := hticks caller trigger htick
    exact ⟨trigger, hrange, href, hfired.mono hgrows⟩

/-- **A fact that is not committed has fired no tick.** The key of its re-tick is free. -/
theorem KeysFired.keyFree (h : KeysFired writtenFor tables) (hrange : trigger.inRange = true)
    (huuid : trigger.namesUuid = true) (hfired : ¬ Fired writtenFor tables trigger)
    (caseVersion : CaseVersion) :
    tables.keyFree (.orchPlan caseVersion (some trigger.ref)) = true := by
  rw [CaseTables.keyFree, List.all_eq_true]
  intro task hmem
  refine decide_eq_true ?_
  intro hkey
  obtain ⟨_, hotherRange, href, hotherFired⟩ :=
    (h task hmem caseVersion (some trigger.ref) hkey).2 trigger.ref rfl
  rw [TickTrigger.eq_of_ref_eq hrange hotherRange huuid href] at hfired
  exact hfired hotherFired

/-! ## The executions -/

variable {q : TickRequest}

/-- **The case after a step**: as it was, or after one of its transactions. -/
theorem Stepped.world (h : Stepped writtenFor w q w') :
    w'.world = w.world ∨ ∃ request, w.world.step request = some w'.world := by
  cases h with
  | around _ _ _ hworld | acted _ _ _ _ hworld | planLoaded _ _ _ _ hworld | planAdvanced _ _ _ _ _ hworld
  | planAudited _ _ _ hworld | gapsPersisted _ _ _ _ _ _ hworld | handoffPersisted _ _ _ _ _ _ _ _ hworld
  | gateEnsured requestId caseVersion gateType ref now actorId dispositionRef world hfree hg1 hrange hwritten hworld
  | versionBumped _ _ _ _ _ _ hworld | reticked _ _ _ _ _ _ _ hworld | advanced _ _ _ _ hworld
  | sent _ _ _ _ _ _ _ _ hworld | marked _ _ _ _ _ hworld => exact Or.inr ⟨_, hworld⟩
  | planCheckpointed | tickLost | dispatchStopped =>
    exact Or.inl rfl

/-- The executions after a transaction: as they were, or after a step of the engine. -/
theorem engine_of_step {c c' : CaseWorld} {request : CaseRequest} (h : c.step request = some c') :
    c'.advances = c.advances ∨ ∃ q, c.engine.step q = some c'.engine := by
  cases request with
  | worker =>
    obtain ⟨-, _, -, rfl⟩ := CaseWorld.step_worker_cases h
    exact Or.inl rfl
  | engine request =>
    obtain ⟨-, e, heng, rfl⟩ := CaseWorld.step_engine_cases h
    exact Or.inr ⟨request, heng⟩
  | humanGate =>
    cases h
    exact Or.inl rfl
  | advanceAudit => exact Or.inl (CaseWorld.advanceAudit_frame h).2

/-- What the executions in flight owe to the tables: the gates they hold as satisfied are stored so, the
version they read is no later than that of the case, and where they are to refresh the intake gate as
satisfied it is effective. -/
structure RunsInv (e : Engine) : Prop where
  backed : e.Backed
  version : ∀ executionId run, e.advances executionId = some run →
    run.snapshot.caseVersion ≤ e.tables.caseVersion
  intake : ∀ executionId run, e.advances executionId = some run → ∀ record,
    (GateType.g1IntakeComplete, record) ∈ run.pendingGates → record.status = .satisfied →
      e.tables.GateEffective run.snapshot.caseVersion .g1IntakeComplete

theorem gateEffective_mono (hgrows : Grows tables tables') {gateType : GateType}
    (h : tables.GateEffective caseVersion gateType) :
    tables'.GateEffective caseVersion gateType := by
  refine h.imp (hgrows.gates _ _) ?_
  rintro ⟨hg1, hhandoff⟩
  obtain ⟨handoff, hmem, hlive⟩ := List.any_eq_true.1 hhandoff
  exact ⟨hg1, List.any_eq_true.2 ⟨handoff, hgrows.handoffs hmem, hlive⟩⟩

theorem RunsInv.withTables {e : Engine} (h : RunsInv e) (hgrows : Grows e.tables tables) :
    RunsInv { e with tables } where
  backed := h.backed.withTables hgrows.gates
  version executionId run hrun := (h.version executionId run hrun).trans hgrows.version
  intake executionId run hrun record hpend hstat :=
    gateEffective_mono hgrows (h.intake executionId run hrun record hpend hstat)

/-- **A step of the engine keeps what the executions owe.** -/
theorem RunsInv.step {e e' : Engine} (h : RunsInv e) (hkeyed : e.tables.GatesKeyed)
    (hgrows : Grows e.tables e'.tables) {q : EngineRequest} (hstep : e.step q = some e') :
    RunsInv e' := by
  have hbacked := h.backed.step hstep
  -- an execution goes on at the version it read, with no more gates to refresh than before
  have hupdate : ∀ {executionId : Uuid} {before after : AdvanceRun},
      e.advances executionId = some before → after.snapshot = before.snapshot →
      after.pendingGates ⊆ before.pendingGates →
      e'.advances = Function.update e.advances executionId (some after) → RunsInv e' := by
    intro executionId before after hpre hsnap hpend hadvs
    refine ⟨hbacked, ?_, ?_⟩
    · intro id run hrun
      rw [hadvs] at hrun
      rcases update_some_cases hrun with ⟨-, rfl⟩ | ⟨-, hold⟩
      · rw [hsnap]
        exact (h.version executionId before hpre).trans hgrows.version
      · exact (h.version id run hold).trans hgrows.version
    · intro id run hrun record hmem hstat
      rw [hadvs] at hrun
      rcases update_some_cases hrun with ⟨-, rfl⟩ | ⟨-, hold⟩
      · rw [hsnap]
        exact gateEffective_mono hgrows
          (h.intake executionId before hpre record (hpend hmem) hstat)
      · exact gateEffective_mono hgrows (h.intake id run hold record hmem hstat)
  cases Engine.step_cases hstep with
  | workerMoves | kickoff => exact h.withTables hgrows
  | advanceLoad =>
    refine ⟨hbacked, ?_, ?_⟩
    · intro id run hrun
      rcases update_some_cases hrun with ⟨-, rfl⟩ | ⟨-, hold⟩
      · exact Nat.le_refl _
      · exact h.version id run hold
    · intro id run hrun record hmem hstat
      rcases update_some_cases hrun with ⟨-, rfl⟩ | ⟨-, hold⟩
      · -- the snapshot shows the intake gate as satisfied because it is effective
        obtain ⟨_, -, hgate⟩ := List.mem_map.1 hmem
        obtain ⟨rfl, rfl⟩ := Prod.mk.inj hgate
        exact (effectiveGate_loadSnapshot_iff hkeyed .g1IntakeComplete).1 hstat
      · exact h.intake id run hold record hmem hstat
  | advanceRefresh executionId now run run' tables' hrun hrefr =>
    refine hupdate hrun (AdvanceRun.refreshGate_snapshot hrefr) ?_ rfl
    unfold AdvanceRun.refreshGate at hrefr
    split at hrefr
    · cases hrefr
    rename_i gateType record rest hpend
    cases hrefr
    rw [hpend]
    exact List.subset_cons_self _ _
  | advancePlan _ _ _ _ hrun hplan =>
    refine hupdate hrun (AdvanceRun.planSteps_snapshot hplan) ?_ rfl
    unfold AdvanceRun.planSteps at hplan
    split at hplan <;> cases hplan
    exact List.Subset.refl _
  | advanceSchedule _ _ _ _ _ _ hrun hsched =>
    refine hupdate hrun (AdvanceRun.schedule_snapshot hsched) ?_ rfl
    unfold AdvanceRun.schedule at hsched
    split at hsched <;> cases hsched
    exact List.Subset.refl _

/-- **Every step keeps what the executions owe.** -/
theorem RunsInv.of_stepped (h : RunsInv w.world.engine) (hkeyed : w.tables.GatesKeyed)
    (hstepped : Stepped writtenFor w q w') : RunsInv w'.world.engine := by
  have hgrows : Grows w.tables w'.tables := hstepped.tableMove.grows
  rcases hstepped.world with hsame | ⟨_, hworld⟩
  · rw [hsame]
    exact h
  · rcases engine_of_step hworld with hadvs | ⟨q, heng⟩
    · have heng : w'.world.engine = { w.world.engine with tables := w'.tables } := by
        rw [CaseWorld.engine, hadvs]
        rfl
      rw [heng]
      exact h.withTables hgrows
    · exact h.step hkeyed hgrows heng

/-! ## The workers -/

variable {message : QueueMessage}

theorem isPlan_of_move (hmove : TableMove w w'.tables)
    (hknown : ∃ task ∈ w.tables.tasks, task.id = message.envelope.taskId) (h : w'.isPlan message = true) :
    w.isPlan message = true := by
  obtain ⟨_, hmem, hplan⟩ := List.any_eq_true.1 h
  obtain ⟨hid, htype⟩ := of_decide_eq_true hplan
  rcases hmove.task_cases hmem with ⟨task, hold, hsameId, hsameType, -⟩ | hnew
  · exact List.any_eq_true.2
      ⟨task, hold, decide_eq_true ⟨hsameId.symm.trans hid, hsameType.symm.trans htype⟩⟩
  · obtain ⟨known, hmemKnown, hknownId⟩ := hknown
    have hfresh := List.all_eq_true.1 (of_decide_eq_true hnew.fresh).2 known hmemKnown
    exact absurd (hknownId.trans hid.symm) (of_decide_eq_true hfresh)

/-- The stages after a step that is no action of a worker: a worker may have appeared. -/
theorem Stepped.stageOf (h : Stepped writtenFor w q w')
    (hq : ∀ leaseToken action, q ≠ .worker leaseToken action) (token : Uuid) :
    w'.world.system.stageOf token = w.world.system.stageOf token ∨
      (w.world.system.stageOf token = none ∧
        w'.world.system.stageOf token = some .slotHeld) := by
  cases h with
  | around request world hmay hworld =>
    obtain ⟨-, system, hsys, rfl⟩ := CaseWorld.step_worker_cases hworld
    cases request with
    | acquireSlot leaseToken owner retryBaseDelaySeconds leaseUntil =>
      simp only [System.step] at hsys
      split at hsys
      · cases hsys
      rename_i hfree
      obtain ⟨_, -, rfl⟩ := Option.map_eq_some_iff.1 hsys
      by_cases htoken : token = leaseToken
      · subst htoken
        refine Or.inr ⟨by rw [System.stageOf, hfree]; rfl, ?_⟩
        simp only [System.stageOf, Function.update_self, Option.map_some]
      · exact Or.inl (by simp only [System.stageOf, Function.update_of_ne htoken])
    | tick | staleDocument =>
      cases hsys
      exact Or.inl rfl
    | send | registerIngestion =>
      simp only [System.step] at hsys
      split at hsys <;> cases hsys
      exact Or.inl rfl
    | worker | createTask | bumpCaseVersion | otherWrites => cases hmay
  | acted leaseToken action => exact absurd rfl (hq leaseToken action)
  | planLoaded _ _ _ _ hworld | planAdvanced _ _ _ _ _ hworld =>
    obtain ⟨-, e, -, rfl⟩ := CaseWorld.step_engine_cases hworld
    exact Or.inl rfl
  | planAudited _ _ _ hworld =>
    exact Or.inl (by rw [(CaseWorld.advanceAudit_frame hworld).1])
  | planCheckpointed | tickLost | dispatchStopped =>
    exact Or.inl rfl
  | gapsPersisted _ _ _ _ _ _ hworld | handoffPersisted _ _ _ _ _ _ _ _ hworld | marked _ _ _ _ _ hworld =>
    rw [CaseWorld.otherWrites_eq hworld]
    exact Or.inl rfl
  | gateEnsured requestId caseVersion gateType ref now actorId dispositionRef world hfree hg1 hrange hwritten hworld =>
    cases hworld
    exact Or.inl rfl
  | versionBumped _ _ _ _ _ _ hworld | sent _ _ _ _ _ _ _ _ hworld =>
    obtain ⟨-, _, hsys, rfl⟩ := CaseWorld.step_worker_cases hworld
    simp only [System.step] at hsys
    split at hsys <;> cases hsys
    exact Or.inl rfl
  | reticked _ _ _ _ _ _ _ hworld | advanced _ _ _ _ hworld =>
    rw [kickoff_world hworld]
    exact Or.inl rfl

theorem processing_eq_some {token : Uuid} :
    w.processing token = some message ↔
      ∃ latest pending, w.world.system.stageOf token = some (.processing message latest pending) := by
  unfold processing
  constructor
  · intro h
    split at h
    · rename_i found latest pending hstage
      cases h
      exact ⟨latest, pending, hstage⟩
    · cases h
  · rintro ⟨_, _, hstage⟩
    rw [hstage]

/-- A planning processor runs only while its worker processes a task. What a worker has claimed is a task
of the case, and where it has reported a planning task, it has reported its success behind the last
checkpoint. -/
structure WorkersInv (w : TickWorld) : Prop where
  processes : ∀ token process, w.processes token = some process →
    ∃ message, w.processing token = some message
  known : ∀ token stage message, w.world.system.stageOf token = some stage →
    System.claimedMessage stage = some message →
      ∃ task ∈ w.tables.tasks, task.id = message.envelope.taskId
  reported : ∀ token message outcome,
    w.world.system.stageOf token = some (.reported message outcome) → w.isPlan message = true →
      outcome = .succeeded ∧ (message.envelope.taskId, PlanCheckpoint.enqueued) ∈ w.planCheckpoints

theorem known_of_grows (hgrows : Grows tables tables') (h : ∃ task ∈ tables.tasks, task.id = taskId) :
    ∃ task ∈ tables'.tasks, task.id = taskId := by
  obtain ⟨task, hmem, rfl⟩ := h
  obtain ⟨task', hmem', hsame, -⟩ := hgrows.tasks task hmem
  exact ⟨task', hmem', hsame.1⟩

variable {action : WorkerAction}

/-- An action of a worker. -/
theorem WorkersInv.acted (h : WorkersInv w) {world : CaseWorld}
    (hreport : w.reportsAsPlanned leaseToken action = true)
    (hworld : w.world.step (.worker (.worker leaseToken action)) = some world)
    (hmove : TableMove w (w.afterAction leaseToken action world).tables) :
    WorkersInv (w.afterAction leaseToken action world) := by
  obtain ⟨-, system, hsys, rfl⟩ := CaseWorld.step_worker_cases hworld
  obtain ⟨run, hrun, hact⟩ := Option.bind_eq_some_iff.1 hsys
  have hacted := System.act_cases hact
  have hpre : w.world.system.stageOf leaseToken = some run.stage := by
    rw [System.stageOf, hrun]
    rfl
  refine ⟨?_, ?_, ?_⟩
  · intro token process hproc
    by_cases htoken : token = leaseToken
    · subst htoken
      change Function.update w.processes token (w.processAfter token system) token = _ at hproc
      rw [Function.update_self, processAfter] at hproc
      split at hproc
      · rename_i message latest pending hstage
        exact ⟨message, processing_eq_some.2 ⟨latest, pending, hstage⟩⟩
      · cases hproc
    · change Function.update w.processes leaseToken _ token = _ at hproc
      rw [Function.update_of_ne htoken] at hproc
      obtain ⟨message, hmsg⟩ := h.processes token process hproc
      obtain ⟨latest, pending, hstage⟩ := processing_eq_some.1 hmsg
      exact ⟨message, processing_eq_some.2
        ⟨latest, pending, (hacted.stageOf_of_ne htoken).trans hstage⟩⟩
  · intro token stage message hstage hclaimed
    apply known_of_grows hmove.grows
    by_cases htoken : token = leaseToken
    · subst htoken
      rcases hacted.claimedMessage hstage hclaimed with hold | ⟨task, hmem, hscope, -⟩
      · exact h.known token run.stage message hpre hold
      · exact ⟨task, hmem, (of_decide_eq_true hscope).1⟩
    · exact h.known token stage message ((hacted.stageOf_of_ne htoken).symm.trans hstage) hclaimed
  · intro token message outcome hstage hplan
    by_cases htoken : token = leaseToken
    · subst htoken
      -- the processor has just reported the message it processed
      obtain ⟨rfl, latest, hprocessing⟩ := System.report_of_act hact hstage
      have hmsg : w.processing token = some message :=
        processing_eq_some.2 ⟨latest, [], by rw [hpre, hprocessing]⟩
      have hknown := h.known token run.stage message hpre (by rw [hprocessing]; rfl)
      rw [reportsAsPlanned, hmsg, Option.all_some, decide_eq_true_eq] at hreport
      exact hreport (isPlan_of_move hmove hknown hplan)
    · have hold : w.world.system.stageOf token = some (.reported message outcome) :=
        (hacted.stageOf_of_ne htoken).symm.trans hstage
      exact h.reported token message outcome hold
        (isPlan_of_move hmove (h.known token _ message hold rfl) hplan)

/-- **Every step keeps what the workers are at.** -/
theorem WorkersInv.step (h : WorkersInv w) (hstepped : Stepped writtenFor w q w') : WorkersInv w' := by
  have hmove := hstepped.tableMove
  -- away from the actions of the workers the stages stand
  have hstages : (∀ leaseToken action, q ≠ .worker leaseToken action) →
      (∀ token process, w'.processes token = some process →
        (∃ process, w.processes token = some process) ∨
          ∃ message, w.processing token = some message) →
      w.planCheckpoints ⊆ w'.planCheckpoints → WorkersInv w' := by
    intro hq hprocesses hcheckpoints
    have hback : ∀ token stage message, w'.world.system.stageOf token = some stage →
        System.claimedMessage stage = some message → w.world.system.stageOf token = some stage := by
      intro token stage message hstage hclaimed
      rcases hstepped.stageOf hq token with hsame | ⟨-, hnew⟩
      · rw [← hsame]
        exact hstage
      · cases hnew.symm.trans hstage
        cases hclaimed
    refine ⟨?_, ?_, ?_⟩
    · intro token process hproc
      obtain ⟨message, hmsg⟩ : ∃ message, w.processing token = some message := by
        rcases hprocesses token process hproc with ⟨before, hpre⟩ | hmsg
        · exact h.processes token before hpre
        · exact hmsg
      obtain ⟨latest, pending, hstage⟩ := processing_eq_some.1 hmsg
      refine ⟨message, processing_eq_some.2 ⟨latest, pending, ?_⟩⟩
      rcases hstepped.stageOf hq token with hsame | ⟨hnone, -⟩
      · rw [hsame]
        exact hstage
      · cases hnone.symm.trans hstage
    · intro token stage message hstage hclaimed
      exact known_of_grows hmove.grows
        (h.known token stage message (hback token stage message hstage hclaimed) hclaimed)
    · intro token message outcome hstage hplan
      have hold := hback token _ message hstage rfl
      have hwas := isPlan_of_move hmove (h.known token _ message hold rfl) hplan
      exact (h.reported token message outcome hold hwas).imp_right (hcheckpoints ·)
  have hplain : (∀ leaseToken action, q ≠ .worker leaseToken action) →
      w'.processes = w.processes → w.planCheckpoints ⊆ w'.planCheckpoints → WorkersInv w' := by
    intro hq hprocesses hcheckpoints
    refine hstages hq (fun token process hproc => Or.inl ?_) hcheckpoints
    rw [hprocesses] at hproc
    exact ⟨process, hproc⟩
  cases hstepped with
  | acted _ _ _ hreport hworld => exact h.acted hreport hworld hmove
  | planLoaded _ _ _ hmay =>
    refine hstages nofun ?_ (List.Subset.refl _)
    intro token process hproc
    rcases update_some_cases hproc with ⟨rfl, -⟩ | ⟨-, hold⟩
    · obtain ⟨-, hprocessing⟩ := of_decide_eq_true hmay
      obtain ⟨message, hmsg, -⟩ := (Option.any_eq_true _ _).1 hprocessing
      exact Or.inr ⟨message, hmsg⟩
    · exact Or.inl ⟨process, hold⟩
  | planCheckpointed _ _ _ _ message hproc hprocessing =>
    refine hstages nofun ?_ (List.subset_cons_self _ _)
    intro token process hproc
    rcases update_some_cases hproc with ⟨rfl, -⟩ | ⟨-, hold⟩
    · exact Or.inr ⟨message, hprocessing⟩
    · exact Or.inl ⟨process, hold⟩
  | _ => exact hplain nofun rfl (List.Subset.refl _)

/-! ## The checkpoints -/

/-- A checkpoint is that of a task of the case. -/
def CheckpointsKnown (w : TickWorld) : Prop :=
  ∀ entry ∈ w.planCheckpoints, ∃ task ∈ w.tables.tasks, task.id = entry.1

theorem CheckpointsKnown.before (h : CheckpointsKnown w) (hstepped : Stepped writtenFor w q w') :
    ∀ entry ∈ w'.planCheckpoints, ∃ task ∈ w.tables.tasks, task.id = entry.1 := by
  cases hstepped with
  | planCheckpointed _ _ _ _ _ _ _ _ hmay =>
    intro entry hmem
    rcases List.mem_cons.1 hmem with rfl | hold
    · obtain ⟨task, htask, hguard⟩ := List.any_eq_true.1 hmay
      obtain ⟨hscope, -⟩ := of_decide_eq_true hguard
      exact ⟨task, htask, (of_decide_eq_true hscope).1⟩
    · exact h entry hold
  | _ => exact h

theorem CheckpointsKnown.step (h : CheckpointsKnown w) (hstepped : Stepped writtenFor w q w') :
    CheckpointsKnown w' :=
  fun entry hmem => known_of_grows hstepped.tableMove.grows (h.before hstepped entry hmem)

/-! ## The messages -/

/-- The message of the task was sent: it is in the queue, or the task is finished. -/
def Delivered (w : TickWorld) (taskId : Uuid) : Prop :=
  ∃ message, w.world.system.Kept message ∧ message.envelope.taskId = taskId

/-- An event that is marked, or sent and about to be marked, has been delivered. -/
structure EventsInv (w : TickWorld) : Prop where
  dispatched : ∀ event ∈ w.tables.outbox, event.dispatchedAt ≠ none → w.Delivered event.taskId
  dispatches : ∀ dispatcher taskId, w.dispatches dispatcher = some taskId → w.Delivered taskId

theorem Delivered.step (h : w.Delivered taskId) (hmail : w.world.system.Mail)
    (hsys : w'.world.system = w.world.system ∨ ∃ request, w.world.system.step request = some w'.world.system) :
    w'.Delivered taskId := by
  obtain ⟨message, hkept, hid⟩ := h
  refine ⟨message, ?_, hid⟩
  rcases hsys with hsame | ⟨_, hstep⟩
  · rw [hsame]
    exact hkept
  · exact hkept.step hmail hstep

/-- An event that is marked after a step was marked before it, or is the one a dispatcher has sent. -/
theorem TableMove.outbox_cases (hmove : TableMove w tables) (hmem : event ∈ tables.outbox)
    (hset : event.dispatchedAt ≠ none) :
    event ∈ w.tables.outbox ∨ ∃ dispatcher, w.dispatches dispatcher = some event.taskId := by
  have hcreate : ∀ {taskId : Uuid} {caseVersion : CaseVersion} {taskType : TaskType}
      {key : TaskKey} {now : Timestamp} {dependsOn : List Uuid},
      event ∈ (w.tables.createTask taskId caseVersion taskType key now dependsOn).outbox →
        event ∈ w.tables.outbox := by
    intro taskId caseVersion taskType key now dependsOn hcreated
    unfold CaseTables.createTask at hcreated
    split at hcreated
    · rcases List.mem_cons.1 hcreated with rfl | hold
      · exact absurd rfl hset
      · exact hold
    · exact hcreated
  cases hmove with
  | same | ingested | gapsAdded | handedOff => exact Or.inl hmem
  | acted _ _ _ _ hacted =>
    obtain ⟨_, htabs, -⟩ := hacted.moved
    rw [htabs] at hmem
    exact Or.inl hmem
  | planned | scheduled => exact Or.inl (hcreate hmem)
  | refreshed | satisfied =>
    rw [CaseTables.ensureGate_frame] at hmem
    exact Or.inl hmem
  | bumped _ _ _ hbump =>
    rw [(CaseTables.bumpCaseVersion_frame hbump).2.2.2.2] at hmem
    exact Or.inl hmem
  | marked dispatcher taskId _ hsent =>
    obtain ⟨old, hold, rfl⟩ := List.mem_map.1 hmem
    by_cases hmatch : old.taskId = taskId ∧ old.dispatchedAt = none
    · refine Or.inr ⟨dispatcher, ?_⟩
      rw [if_pos hmatch, hmatch.1]
      exact hsent
    · rw [if_neg hmatch]
      exact Or.inl hold

theorem envelope_taskId {envelope : TaskEnvelope}
    (h : (w.undispatched taskId).bind w.envelopeOf = some envelope) : envelope.taskId = taskId := by
  obtain ⟨event, hevent, henv⟩ := Option.bind_eq_some_iff.1 h
  have hmatch := List.find?_some (p := fun event : OutboxEvent =>
    decide (event.taskId = taskId ∧ event.dispatchedAt = none)) hevent
  rw [envelopeOf, OutboxPayload.validate] at henv
  split at henv
  · cases henv
    exact (of_decide_eq_true hmatch).1
  · cases henv

/-- **Every step keeps the marked events delivered.** -/
theorem EventsInv.step (h : EventsInv w) (hmail : w.world.system.Mail) (hbacked : w.world.engine.Backed)
    (hstepped : Stepped writtenFor w q w') :
    EventsInv w' := by
  have hdelivered : ∀ {taskId : Uuid}, w.Delivered taskId → w'.Delivered taskId :=
    fun hold => hold.step hmail (hstepped.system hbacked)
  refine ⟨?_, ?_⟩
  · intro event hmem hset
    rcases hstepped.tableMove.outbox_cases hmem hset with hold | ⟨dispatcher, hsent⟩
    · exact hdelivered (h.dispatched event hold hset)
    · exact hdelivered (h.dispatches dispatcher event.taskId hsent)
  · intro dispatcher taskId hsent
    cases hstepped with
    | sent _ _ envelope messageId visibleAt _ _ henv hworld =>
      rcases update_some_cases hsent with ⟨-, rfl⟩ | ⟨-, hold⟩
      · -- the message has just been put into the queue
        obtain ⟨-, _, hsys, rfl⟩ := CaseWorld.step_worker_cases hworld
        simp only [System.step] at hsys
        split at hsys <;> cases hsys
        refine ⟨⟨messageId, visibleAt, envelope⟩, Or.inr ?_, envelope_taskId henv⟩
        exact ⟨_, List.mem_append_right _ List.mem_cons_self, rfl, rfl⟩
      · exact hdelivered (h.dispatches dispatcher taskId hold)
    | marked | dispatchStopped =>
      exact hdelivered (h.dispatches dispatcher taskId (of_update_none hsent))
    | _ => exact hdelivered (h.dispatches dispatcher taskId hsent)

/-! ## The ticks -/

/-- A worker that goes on to archive after its success has written it. -/
theorem succeeded_of_settle {s s' : System} {run : WorkerRun} {now : Timestamp}
    (hstage : run.stage = .reported message .succeeded)
    (hact : s.act leaseToken run (.settle now) = some s')
    (hafter : s'.stageOf leaseToken = some (.archiving message)) :
    ∃ task ∈ s.tables.tasks, inScope s.tables message.envelope task = true ∧
      ownedBy leaseToken s.clock task = true ∧ closeTask .succeeded task ∈ s'.tables.tasks := by
  simp only [System.act, hstage] at hact
  split at hact
  · cases hact
    rw [System.stageOf_goTo] at hafter
    cases hafter
  · rename_i tables hsettle
    cases hact
    exact exists_of_updateOwned hsettle

/-- What the tick of a worker comes to. -/
theorem tickAfter_cases {after : System} (h : w.tickAfter leaseToken action after = some trigger) :
    w.ticks leaseToken = some trigger ∨
      ∃ message now, trigger = .task message.envelope.taskId ∧ action = .settle now ∧
        w.world.system.stageOf leaseToken = some (.reported message .succeeded) ∧
        after.stageOf leaseToken = some (.archiving message) ∧ w.isPlan message = false := by
  unfold tickAfter at h
  split at h
  · cases h
  split at h
  · split at h
    · rename_i now message hstage _ hsettled
      cases h
      exact Or.inr ⟨message, now, rfl, rfl, hstage, hsettled⟩
    · exact Or.inl h
  · exact Or.inl h

/-- **Every tick that is owed goes back to a committed fact.** -/
theorem TicksFired.step (h : TicksFired writtenFor w) (hrows : RowInv w.tables)
    (hstepped : Stepped writtenFor w q w') : TicksFired writtenFor w' := by
  have hgrows := hstepped.tableMove.grows
  have hold : ∀ caller trigger, w.ticks caller = some trigger →
      trigger.inRange = true ∧ Fired writtenFor w'.tables trigger :=
    fun caller trigger htick => (h caller trigger htick).imp_right (·.mono hgrows)
  intro caller trigger htick
  cases hstepped with
  | acted leaseToken _ _ _ hworld =>
    by_cases hcaller : caller = leaseToken
    · subst hcaller
      change Function.update w.ticks caller _ caller = _ at htick
      rw [Function.update_self] at htick
      rcases tickAfter_cases htick with hpre | ⟨message, _, rfl, rfl, hstage, hafter, -⟩
      · exact hold caller trigger hpre
      · obtain ⟨-, _, hsys, rfl⟩ := CaseWorld.step_worker_cases hworld
        obtain ⟨_, hrun, hact⟩ := Option.bind_eq_some_iff.1 hsys
        rw [System.stageOf, hrun, Option.map_some, Option.some.injEq] at hstage
        obtain ⟨task, hmem, hscope, -, hclosed⟩ := succeeded_of_settle hstage hact hafter
        have hid : task.id = message.envelope.taskId := (of_decide_eq_true hscope).1
        refine ⟨?_, _, hclosed, hid, rfl⟩
        rw [← hid]
        exact decide_eq_true (hrows.bounded task hmem)
    · change Function.update w.ticks leaseToken _ caller = _ at htick
      rw [Function.update_of_ne hcaller] at htick
      exact hold caller trigger htick
  | handoffPersisted _ _ _ _ _ _ hid _ hworld =>
    rcases update_some_cases htick with ⟨-, rfl⟩ | ⟨-, hpre⟩
    · rw [CaseWorld.otherWrites_eq hworld]
      exact ⟨decide_eq_true hid, _, List.mem_cons_self, rfl⟩
    · exact hold caller trigger hpre
  | gateEnsured requestId caseVersion gateType ref now actorId dispositionRef world hfree hg1 hrange hwritten hworld =>
    by_cases hcaller : caller = requestId
    · subst hcaller
      change Function.update w.ticks caller _ caller = _ at htick
      rw [Function.update_self] at htick
      obtain ⟨_, -, rfl⟩ := Option.map_eq_some_iff.1 htick
      cases hworld
      refine ⟨hrange, fun hgate => ?_⟩
      rw [← hwritten hgate]
      exact CaseTables.gateSatisfied_ensureGate_self ..
    · change Function.update w.ticks requestId _ caller = _ at htick
      rw [Function.update_of_ne hcaller] at htick
      exact hold caller trigger htick
  | versionBumped _ _ _ _ _ hid =>
    rcases update_some_cases htick with ⟨-, rfl⟩ | ⟨-, hpre⟩
    · exact ⟨decide_eq_true hid, trivial⟩
    · exact hold caller trigger hpre
  | reticked | tickLost =>
    exact hold caller trigger (of_update_none htick)
  | _ => exact hold caller trigger htick

/-! ## Every state of every run -/

/-- The invariant of the ticks. -/
structure TickInv (writtenFor : Uuid → CaseVersion) (w : TickWorld) : Prop where
  sound : w.world.Sound
  inv : w.world.system.Inv
  mail : w.world.system.Mail
  gatesKeyed : w.tables.GatesKeyed
  rows : RowInv w.tables
  runs : RunsInv w.world.engine
  keys : KeysFired writtenFor w.tables
  ticks : TicksFired writtenFor w
  workers : WorkersInv w
  checkpoints : CheckpointsKnown w
  events : EventsInv w

theorem start_tickInv (writtenFor : Uuid → CaseVersion) (caseId : Uuid) (caseVersion : CaseVersion) :
    TickInv writtenFor (start caseId caseVersion) where
  sound := CaseWorld.start_sound _
  inv := System.idle_inv _
  mail := System.idle_mail _
  gatesKeyed := List.nodup_nil
  rows :=
    { keys := List.nodup_nil
      agent := fun _ hmem => absurd hmem List.not_mem_nil
      unscoped := fun _ hmem => absurd hmem List.not_mem_nil
      bounded := fun _ hmem => absurd hmem List.not_mem_nil
      gaps := fun _ hmem => absurd hmem List.not_mem_nil
      outboxed := fun _ hmem => absurd hmem List.not_mem_nil }
  runs := by
    refine ⟨?_, ?_, ?_⟩ <;> intro executionId run hrun <;> cases hrun
  keys := fun _ hmem => absurd hmem List.not_mem_nil
  ticks := by
    intro caller trigger htick
    cases htick
  workers := by
    refine ⟨?_, ?_, ?_⟩
    · intro leaseToken process hproc
      cases hproc
    · intro leaseToken stage message hstage
      cases hstage
    · intro leaseToken message outcome hstage
      cases hstage
  checkpoints := fun _ hmem => absurd hmem List.not_mem_nil
  events := by
    refine ⟨fun _ hmem => absurd hmem List.not_mem_nil, ?_⟩
    intro dispatcher taskId hsent
    cases hsent

/-- **Every step keeps the invariant.** -/
theorem TickInv.step (h : TickInv writtenFor w) (hstepped : Stepped writtenFor w q w') :
    TickInv writtenFor w' := by
  have hmove := hstepped.tableMove
  have hsys := hstepped.system h.runs.backed
  refine
    { sound := ?_
      inv := ?_
      mail := ?_
      gatesKeyed := hmove.gatesKeyed h.gatesKeyed
      rows := h.rows.step hmove
      runs := h.runs.of_stepped h.gatesKeyed hstepped
      keys := h.keys.step h.ticks hmove
      ticks := h.ticks.step h.rows hstepped
      workers := h.workers.step hstepped
      checkpoints := h.checkpoints.step hstepped
      events := h.events.step h.mail h.runs.backed hstepped }
  · rcases hstepped.world with hsame | ⟨_, hworld⟩
    · rw [hsame]
      exact h.sound
    · exact h.sound.step hworld
  · rcases hsys with hsame | ⟨_, hstep⟩
    · rw [hsame]
      exact h.inv
    · exact h.inv.step hstep
  · rcases hsys with hsame | ⟨_, hstep⟩
    · rw [hsame]
      exact h.mail
    · exact h.mail.step hstep

end CreditOps.Workers.TickWorld
