import CreditOps.Orchestration.Store

/-!
# Advancing a case

`AdvanceCase.execute`, cut at its transactions. A run reads a snapshot, refreshes every gate with one
`ensure_gate` each and keeps the rows read back, evaluates readiness over the refreshed gates and
plans, and then creates the planned tasks one by one. Other requests commit between any two of these
steps, so a run carries what it read.
-/

set_option autoImplicit false

namespace CreditOps.Orchestration

/-- One `AdvanceCase` execution in flight. The steps are there once the run has planned. -/
structure AdvanceRun where
  snapshot : OrchestrationSnapshot
  pendingGates : List (GateType × GateRecord)
  gates : List GateRecord
  pendingSteps : Option (List PlanStep)
  createdTaskIds : List Uuid
deriving DecidableEq

namespace AdvanceRun

/-- The first step: `load_snapshot`, and the effective gates to be refreshed. -/
def load (tables : CaseTables) : AdvanceRun where
  snapshot := tables.loadSnapshot
  pendingGates := deriveEffectiveGates tables.loadSnapshot
  gates := []
  pendingSteps := none
  createdTaskIds := []

/-- One turn of the loop of `_refresh_gates`: the gate is written and its row read back. -/
def refreshGate (run : AdvanceRun) (tables : CaseTables) (now : Timestamp) :
    Option (CaseTables × AdvanceRun) :=
  match run.pendingGates with
  | [] => none
  | (gateType, record) :: rest =>
    let written := tables.ensureGate run.snapshot.caseVersion gateType record.status now
      record.satisfiedByActorId record.dispositionRef
    some (written,
      { run with
        pendingGates := rest
        gates := run.gates ++ (written.gate? run.snapshot.caseVersion gateType).toList })

/-- The snapshot with the refreshed gates. -/
def graphed (run : AdvanceRun) : OrchestrationSnapshot :=
  { run.snapshot with gates := run.gates }

/-- Readiness and planning, once every gate is refreshed. -/
def planSteps (run : AdvanceRun) (template : DependencyTemplate) (answer : GatewayAnswer) :
    Option AdvanceRun :=
  match run.pendingGates, run.pendingSteps with
  | [], none =>
    let report := evaluateReadiness run.graphed template
    some { run with pendingSteps := some (plan report template answer).plan.steps }
  | _, _ => none

/-- The task of a type at the snapshot's version; the last one stands. -/
def currentTaskId (run : AdvanceRun) (taskType : TaskType) : Option Uuid :=
  ((run.snapshot.tasks.filter fun task =>
    task.caseVersion = run.snapshot.caseVersion ∧ task.taskType = taskType).getLast?).map (·.taskId)

/-- The dependencies `_schedule` records for a step. -/
def dependsOn (run : AdvanceRun) (template : DependencyTemplate) (taskType : TaskType) : List Uuid :=
  ((template.byType taskType).map (·.predecessors)).getD [] |>.filterMap run.currentTaskId

/-- The type of the task the run creates next. -/
def nextType (run : AdvanceRun) : Option TaskType :=
  run.pendingSteps.bind fun steps => steps.head?.map (·.taskType)

/-- One turn of the loop of `_schedule`. -/
def schedule (run : AdvanceRun) (template : DependencyTemplate) (tables : CaseTables)
    (taskId : Uuid) (now : Timestamp) : Option (CaseTables × AdvanceRun) :=
  match run.pendingSteps with
  | some (step :: rest) =>
    let key := TaskKey.orch run.snapshot.caseVersion step.taskType
    some (tables.createTask taskId run.snapshot.caseVersion step.taskType key now
        (run.dependsOn template step.taskType),
      { run with
        pendingSteps := some rest
        createdTaskIds :=
          if tables.keyFree key then run.createdTaskIds ++ [taskId] else run.createdTaskIds })
  | _ => none

/-! ## What a run in flight owes to the tables -/

/-- Every gate the run holds as satisfied, and the gate of every node it will schedule, is stored as
satisfied. The intake gate may be satisfied by the run itself. -/
structure GateBacked (tables : CaseTables) (template : DependencyTemplate) (run : AdvanceRun) :
    Prop where
  pending : ∀ p ∈ run.pendingGates, p.1 ≠ .g1IntakeComplete → p.2.status = .satisfied →
    tables.GateSatisfied run.snapshot.caseVersion p.1
  refreshed : ∀ gate ∈ run.gates, gate.caseVersion = run.snapshot.caseVersion →
    gate.status = .satisfied → tables.GateSatisfied run.snapshot.caseVersion gate.gateType
  planned : ∀ steps, run.pendingSteps = some steps → ∀ step ∈ steps,
    ∃ node ∈ template.nodes, node.taskType = step.taskType ∧
      ∀ gate, node.requiredGate = some gate → tables.GateSatisfied run.snapshot.caseVersion gate

variable {tables : CaseTables} {template : DependencyTemplate} {run : AdvanceRun}

/-! ## What the stages write -/

variable {now : Timestamp} {tables' : CaseTables} {run' : AdvanceRun}

theorem refreshGate_tables (hstep : run.refreshGate tables now = some (tables', run')) :
    ∃ gateType record, (gateType, record) ∈ run.pendingGates ∧
      tables' = tables.ensureGate run.snapshot.caseVersion gateType record.status now
        record.satisfiedByActorId record.dispositionRef := by
  unfold refreshGate at hstep
  split at hstep
  · cases hstep
  rename_i gateType record rest hpend
  cases hstep
  refine ⟨gateType, record, ?_, rfl⟩
  rw [hpend]
  exact List.mem_cons_self

theorem refreshGate_snapshot (hstep : run.refreshGate tables now = some (tables', run')) :
    run'.snapshot = run.snapshot := by
  unfold refreshGate at hstep
  split at hstep
  · cases hstep
  cases hstep
  rfl

variable {answer : GatewayAnswer}

theorem planSteps_snapshot (hstep : run.planSteps template answer = some run') :
    run'.snapshot = run.snapshot := by
  unfold planSteps at hstep
  split at hstep
  · cases hstep
    rfl
  · cases hstep

variable {taskId : Uuid}

theorem schedule_tables (hstep : run.schedule template tables taskId now = some (tables', run')) :
    ∃ taskType, run.nextType = some taskType ∧
      tables' = tables.createTask taskId run.snapshot.caseVersion taskType
        (.orch run.snapshot.caseVersion taskType) now (run.dependsOn template taskType) := by
  unfold schedule at hstep
  split at hstep
  · rename_i step rest hsteps
    cases hstep
    refine ⟨step.taskType, ?_, rfl⟩
    simp only [nextType, hsteps, Option.bind_some, List.head?_cons, Option.map_some]
  · cases hstep

theorem schedule_snapshot (hstep : run.schedule template tables taskId now = some (tables', run')) :
    run'.snapshot = run.snapshot := by
  unfold schedule at hstep
  split at hstep
  · cases hstep
    rfl
  · cases hstep

/-! ## The backing through a run -/

theorem GateBacked.mono (h : GateBacked tables template run)
    (hkeep : ∀ v g, tables.GateSatisfied v g → tables'.GateSatisfied v g) :
    GateBacked tables' template run where
  pending p hp hg1 hstat := hkeep _ _ (h.pending p hp hg1 hstat)
  refreshed gate hgate hver hstat := hkeep _ _ (h.refreshed gate hgate hver hstat)
  planned steps hsteps step hstep := by
    obtain ⟨node, hnode, htype, hgate⟩ := h.planned steps hsteps step hstep
    exact ⟨node, hnode, htype, fun gate hreq => hkeep _ _ (hgate gate hreq)⟩

variable {gateType : GateType}

theorem gateSatisfied_of_loadSnapshot (h : gateStatus tables.loadSnapshot gateType = some .satisfied) :
    tables.GateSatisfied tables.caseVersion gateType := by
  rw [gateStatus, Option.map_eq_some_iff] at h
  obtain ⟨gate, hlast, hstat⟩ := h
  obtain ⟨hmem, hmatch⟩ := List.mem_filter.1 (List.mem_of_getLast? hlast)
  obtain ⟨hstored, -⟩ := List.mem_filter.1 hmem
  rw [decide_eq_true_eq] at hmatch
  exact ⟨gate, hstored, CaseTables.isGate_iff.2 hmatch, hstat⟩

theorem load_gateBacked (tables : CaseTables) (template : DependencyTemplate) :
    GateBacked tables template (load tables) where
  pending p hp hg1 hstat := by
    obtain ⟨_, -, rfl⟩ := List.mem_map.1 hp
    exact gateSatisfied_of_loadSnapshot ((effectiveGate_satisfied_iff hg1).1 hstat)
  refreshed gate hgate := by cases hgate
  planned steps hsteps := by cases hsteps

theorem gate?_eq_some {caseVersion : CaseVersion} {gate : GateRecord}
    (h : tables.gate? caseVersion gateType = some gate) :
    gate ∈ tables.gates ∧ gate.caseVersion = caseVersion ∧ gate.gateType = gateType :=
  ⟨List.mem_of_find?_eq_some h, CaseTables.isGate_iff.1 (List.find?_some h)⟩

/-- Refreshing a gate keeps the backing: the row kept is one that was just read. -/
theorem refreshGate_gateBacked (h : GateBacked tables template run)
    (hstep : run.refreshGate tables now = some (tables', run')) :
    GateBacked tables' template run' := by
  unfold refreshGate at hstep
  split at hstep
  · cases hstep
  rename_i gateType record rest hpend
  cases hstep
  have hkeep : ∀ v g, tables.GateSatisfied v g →
      (tables.ensureGate run.snapshot.caseVersion gateType record.status now
        record.satisfiedByActorId record.dispositionRef).GateSatisfied v g :=
    fun v g hg => CaseTables.gateSatisfied_ensureGate_of hg
  have hmono := h.mono hkeep
  refine ⟨?_, ?_, hmono.planned⟩
  · intro p hp
    exact hmono.pending p (by rw [hpend]; exact List.mem_cons_of_mem _ hp)
  · intro gate hgate hver hstat
    rcases List.mem_append.1 hgate with hold | hnew
    · exact hmono.refreshed gate hold hver hstat
    · rw [Option.mem_toList] at hnew
      obtain ⟨hmem, hv, _⟩ := gate?_eq_some hnew
      exact ⟨gate, hmem, CaseTables.isGate_iff.2 ⟨hv, rfl⟩, hstat⟩

/-- Planning keeps the backing: what is planned is ready, and what is ready has its gate. -/
theorem planSteps_gateBacked (h : GateBacked tables template run)
    (hstep : run.planSteps template answer = some run') :
    GateBacked tables template run' := by
  unfold planSteps at hstep
  split at hstep
  · cases hstep
    refine ⟨h.pending, h.refreshed, ?_⟩
    intro steps hsteps step hmem
    cases hsteps
    have hready : step.taskType ∈ (evaluateReadiness run.graphed template).readyTypes :=
      (plan_perm_readyTypes _ _ _).mem_iff.1 (List.mem_map_of_mem hmem)
    obtain ⟨node, hnode, htype, -, -, hgate⟩ := ready_of_mem_readyTypes hready
    refine ⟨node, hnode, htype, fun gate hreq => ?_⟩
    obtain ⟨record, hlast, hstat⟩ := Option.map_eq_some_iff.1 (hgate gate hreq)
    obtain ⟨hrec, hmatch⟩ := List.mem_filter.1 (List.mem_of_getLast? hlast)
    rw [decide_eq_true_eq] at hmatch
    rw [← hmatch.2]
    exact h.refreshed record hrec hmatch.1 hstat
  · cases hstep

/-- Scheduling keeps the backing. -/
theorem schedule_gateBacked (h : GateBacked tables template run)
    (hstep : run.schedule template tables taskId now = some (tables', run')) :
    GateBacked tables' template run' := by
  unfold schedule at hstep
  split at hstep
  · rename_i step rest hsteps
    cases hstep
    have hkeep : ∀ v g, tables.GateSatisfied v g →
        (tables.createTask taskId run.snapshot.caseVersion step.taskType
          (.orch run.snapshot.caseVersion step.taskType) now
          (run.dependsOn template step.taskType)).GateSatisfied v g := by
      intro v g hg
      simpa only [CaseTables.GateSatisfied, CaseTables.createTask_gates] using hg
    have hmono := h.mono hkeep
    refine ⟨hmono.pending, hmono.refreshed, ?_⟩
    intro steps hrest s hs
    cases hrest
    exact hmono.planned _ hsteps s (List.mem_cons_of_mem _ hs)
  · cases hstep

/-- **A task is scheduled only behind its gate.** The next step of a backed run belongs to a node
whose gate is stored as satisfied. -/
theorem schedule_gate (h : GateBacked tables template run) {taskType : TaskType}
    (hnext : run.nextType = some taskType) :
    ∃ node ∈ template.nodes, node.taskType = taskType ∧
      ∀ gate, node.requiredGate = some gate →
        tables.GateSatisfied run.snapshot.caseVersion gate := by
  rw [nextType, Option.bind_eq_some_iff] at hnext
  obtain ⟨steps, hsteps, hhead⟩ := hnext
  rw [Option.map_eq_some_iff] at hhead
  obtain ⟨step, hstep, rfl⟩ := hhead
  exact h.planned steps hsteps step (List.mem_of_head? hstep)

theorem mem_schedule_tasks (hstep : run.schedule template tables taskId now = some (tables', run'))
    {task : ProcessingTask} (htask : task ∈ tables'.tasks) :
    task ∈ tables.tasks ∨
      (run.nextType = some task.taskType ∧ task.caseVersion = run.snapshot.caseVersion) := by
  obtain ⟨_, hnext, rfl⟩ := schedule_tables hstep
  rcases CaseTables.mem_createTask_tasks htask with hold | ⟨-, -, hver, htype, -⟩
  · exact Or.inl hold
  · rw [htype]
    exact Or.inr ⟨hnext, hver⟩

end AdvanceRun

end CreditOps.Orchestration
