import CreditOps.Orchestration.ReadyTypes
import CreditOps.Orchestration.HumanGates

/-!
# What an execution will schedule

A node of the task graph is due when its type has no task at the current version, its gate is effective
and its predecessors have completed there (`CaseTables.Due`). Whatever is reported as ready is due, on the
stored gates and on the effective ones (`CaseTables.RowsSound.due_of_ready`,
`CaseTables.RowsSound.due_of_effective_ready`).
-/

set_option autoImplicit false

namespace CreditOps.Orchestration

/-! ## Due nodes -/

namespace CaseTables

/-- The gate is satisfied at the version, or it is the intake gate and derived from a handoff. -/
def GateEffective (tables : CaseTables) (caseVersion : CaseVersion) (gateType : GateType) : Prop :=
  tables.GateSatisfied caseVersion gateType ∨
    (gateType = .g1IntakeComplete ∧ tables.hasIntakeHandoff caseVersion = true)

/-- The type has a task at the current version. -/
def Scheduled (tables : CaseTables) (taskType : TaskType) : Prop :=
  ∃ task ∈ tables.tasks, task.taskType = taskType ∧ task.caseVersion = tables.caseVersion

/-- A task of the type has succeeded at the current version. -/
def Completed (tables : CaseTables) (taskType : TaskType) : Prop :=
  ∃ task ∈ tables.tasks, task.taskType = taskType ∧ task.caseVersion = tables.caseVersion ∧
    task.status = .succeeded

/-- The node has no task yet, and nothing holds it back. -/
structure Due (tables : CaseTables) (node : TaskNode) : Prop where
  fresh : ¬ tables.Scheduled node.taskType
  gate : ∀ gateType, node.requiredGate = some gateType →
    tables.GateEffective tables.caseVersion gateType
  predecessors : ∀ p ∈ node.predecessors, tables.Completed p

/-- No node of the task graph is due. -/
def NothingDue (tables : CaseTables) : Prop :=
  ∀ node ∈ DependencyTemplate.canonical.nodes, ¬ tables.Due node

/-- Nothing comes due from the one to the other: no further gate of the graph is effective, no further
type has completed, and what was scheduled or satisfied stays so. -/
structure Steady (tables tables' : CaseTables) : Prop where
  version : tables'.caseVersion = tables.caseVersion
  stored : ∀ v g, tables.GateSatisfied v g → tables'.GateSatisfied v g
  effective : ∀ g, (g = .g1IntakeComplete ∨ g = .g2GapRequestApproval ∨ g = .g3RiskDisposition) →
    tables'.GateEffective tables.caseVersion g → tables.GateEffective tables.caseVersion g
  scheduled : ∀ taskType, tables.Scheduled taskType → tables'.Scheduled taskType
  completed : ∀ taskType, taskType ≠ .orchestratorPlan → taskType ≠ .documentIngestion →
    tables'.Completed taskType → tables.Completed taskType

/-- What the rows of a case keep: keys are unique, an agent task has the key of its type and version and
is superseded only at a past version, and a gap stands at the version of the task it is attached to. -/
structure RowsSound (tables : CaseTables) : Prop where
  keys : (tables.tasks.map (·.idempotencyKey)).Nodup
  agent : ∀ task ∈ tables.tasks, task.taskType ≠ .orchestratorPlan →
    task.taskType ≠ .documentIngestion → task.idempotencyKey = .orch task.caseVersion task.taskType
  superseded : ∀ task ∈ tables.tasks, task.taskType ≠ .documentIngestion →
    task.status = .superseded → task.caseVersion < tables.caseVersion
  gaps : ∀ gap ∈ tables.gaps, ∀ task ∈ tables.tasks, task.id = gap.affectedTaskId →
    task.caseVersion = gap.caseVersion

end CaseTables

theorem canonical_agentTypes : ∀ node ∈ DependencyTemplate.canonical.nodes,
    (node.taskType ≠ .orchestratorPlan ∧ node.taskType ≠ .documentIngestion) ∧
      ∀ p ∈ node.predecessors, p ≠ .orchestratorPlan ∧ p ≠ .documentIngestion := by
  decide

theorem canonical_requiredGates : ∀ node ∈ DependencyTemplate.canonical.nodes, ∀ gateType,
    node.requiredGate = some gateType →
      gateType = .g1IntakeComplete ∨ gateType = .g2GapRequestApproval ∨
        gateType = .g3RiskDisposition := by
  intro node hnode gateType hgate
  revert hgate
  revert node
  cases gateType <;> decide

theorem CaseTables.Steady.refl (tables : CaseTables) : tables.Steady tables where
  version := rfl
  stored _ _ hg := hg
  effective _ _ hg := hg
  scheduled _ hscheduled := hscheduled
  completed _ _ _ hcompleted := hcompleted

variable {tables tables' : CaseTables}

/-- **What is due after a steady step was due before it.** -/
theorem CaseTables.Steady.due {node : TaskNode} (h : tables.Steady tables')
    (hnode : node ∈ DependencyTemplate.canonical.nodes) (hdue : tables'.Due node) : tables.Due node := by
  refine ⟨fun hold => hdue.fresh (h.scheduled _ hold), ?_, ?_⟩
  · intro gateType hrequired
    have hgate := hdue.gate gateType hrequired
    rw [h.version] at hgate
    exact h.effective gateType (canonical_requiredGates node hnode gateType hrequired) hgate
  · intro p hp
    obtain ⟨hplan, hingestion⟩ := (canonical_agentTypes node hnode).2 p hp
    exact h.completed p hplan hingestion (hdue.predecessors p hp)

theorem CaseTables.Steady.nothingDue (h : tables.Steady tables') (hnone : tables.NothingDue) :
    tables'.NothingDue :=
  fun node hnode hdue => hnone node hnode (h.due hnode hdue)

section Rows

variable {tables : CaseTables} {node : TaskNode}

theorem mem_loadSnapshot_tasks {row : OrchestrationTaskRow} :
    row ∈ tables.loadSnapshot.tasks ↔ ∃ task ∈ tables.tasks, task.taskType ≠ .documentIngestion ∧
      row = ⟨task.id, task.taskType, task.caseVersion, task.status⟩ := by
  simp only [CaseTables.loadSnapshot, List.mem_map, List.mem_filter, decide_eq_true_eq]
  constructor
  · rintro ⟨task, ⟨hmem, htype⟩, rfl⟩
    exact ⟨task, hmem, htype, rfl⟩
  · rintro ⟨task, hmem, htype, rfl⟩
    exact ⟨task, ⟨hmem, htype⟩, rfl⟩

/-- **What is ready is due.** The snapshot may carry other gates than the stored ones, as long as they
are effective. -/
theorem CaseTables.due_of_readyNode (hrows : tables.RowsSound) (snapshot : OrchestrationSnapshot)
    (htasks : snapshot.tasks = tables.loadSnapshot.tasks)
    (hver : snapshot.caseVersion = tables.caseVersion)
    (hgates : ∀ gateType, gateStatus snapshot gateType = some .satisfied →
      tables.GateEffective tables.caseVersion gateType)
    (hnode : node ∈ DependencyTemplate.canonical.nodes) (hready : ReadyNode snapshot node) :
    tables.Due node := by
  obtain ⟨hlive, -, hgate, hcomplete⟩ := hready
  obtain ⟨⟨-, hingestion⟩, -⟩ := canonical_agentTypes node hnode
  refine ⟨?_, fun gateType hrequired => hgates gateType (hgate gateType hrequired), ?_⟩
  · rintro ⟨task, hmem, htype, hcur⟩
    have hrow : (⟨task.id, task.taskType, task.caseVersion, task.status⟩ : OrchestrationTaskRow) ∈
        snapshot.tasks := by
      rw [htasks]
      exact mem_loadSnapshot_tasks.2 ⟨task, hmem, htype ▸ hingestion, rfl⟩
    refine noLiveTask_iff.1 hlive ⟨_, hrow, htype, hcur.trans hver.symm, ?_⟩
    intro hsuperseded
    have hpast := hrows.superseded task hmem (htype ▸ hingestion) hsuperseded
    rw [hcur] at hpast
    exact Nat.lt_irrefl _ hpast
  · intro p hp
    obtain ⟨_, hrow, htype, hrowLive, hstat⟩ := exists_live_of_currentTaskStatus (hcomplete p hp)
    rw [htasks] at hrow
    obtain ⟨task, hmem, -, rfl⟩ := mem_loadSnapshot_tasks.1 hrow
    exact ⟨task, hmem, htype, hrowLive.1.trans hver, hstat⟩

variable {taskType : TaskType}

/-- At most one task of an agent type stands in the snapshot. -/
theorem CaseTables.RowsSound.oneLiveTask (hrows : tables.RowsSound)
    (hplan : taskType ≠ .orchestratorPlan) (hingestion : taskType ≠ .documentIngestion) :
    OneLiveTask tables.loadSnapshot taskType := by
  intro row hrow other hother htype hotherType hlive hotherLive
  obtain ⟨task, hmem, -, rfl⟩ := mem_loadSnapshot_tasks.1 hrow
  obtain ⟨task', hmem', -, rfl⟩ := mem_loadSnapshot_tasks.1 hother
  have hkey : task'.idempotencyKey = task.idempotencyKey := by
    change task.taskType = taskType at htype
    change task'.taskType = taskType at hotherType
    rw [hrows.agent task hmem (htype ▸ hplan) (htype ▸ hingestion),
      hrows.agent task' hmem' (hotherType ▸ hplan) (hotherType ▸ hingestion), htype, hotherType,
      show task.caseVersion = _ from hlive.1, show task'.caseVersion = _ from hotherLive.1]
  rw [List.inj_on_of_nodup_map hrows.keys hmem' hmem hkey]

theorem CaseTables.RowsSound.not_mem_blockedByGap (hrows : tables.RowsSound)
    (hfresh : ¬ tables.Scheduled taskType) : taskType ∉ blockedByGap tables.loadSnapshot := by
  intro hblocked
  obtain ⟨_, hgap, -, htype⟩ := mem_blockedByGap_iff.1 hblocked
  obtain ⟨_, hlast, hrowType⟩ := Option.map_eq_some_iff.1 htype
  obtain ⟨hrow, hid⟩ := List.mem_filter.1 (List.mem_of_getLast? hlast)
  obtain ⟨task, hmem, -, rfl⟩ := mem_loadSnapshot_tasks.1 hrow
  obtain ⟨stored, hstored, rfl⟩ := List.mem_map.1 hgap
  obtain ⟨hstoredMem, hopen⟩ := List.mem_filter.1 hstored
  have hver := hrows.gaps stored hstoredMem task hmem (of_decide_eq_true hid)
  exact hfresh ⟨task, hmem, hrowType, hver.trans (of_decide_eq_true hopen).1⟩

end Rows

/-! ## Executions that cover -/

namespace AdvanceRun

/-- The execution will find the node ready: it read no task of its type, no gap that blocks it and its
predecessors as completed, and its gate is refreshed as satisfied or will be. -/
structure Foresees (run : AdvanceRun) (tables : CaseTables) (node : TaskNode) : Prop where
  fresh : NoLiveTask run.snapshot node.taskType
  unblocked : node.taskType ∉ blockedByGap run.snapshot
  gate : ∀ gateType, node.requiredGate = some gateType →
    gateStatus run.graphed gateType = some .satisfied ∨
      ∃ record, (gateType, record) ∈ run.pendingGates ∧
        (record.status = .satisfied ∨ tables.GateSatisfied run.snapshot.caseVersion gateType)
  predecessors : ∀ p ∈ node.predecessors, currentTaskStatus run.snapshot p = some .succeeded

/-- The execution read the current version, and it foresees every node that is due. -/
structure Covers (run : AdvanceRun) (tables : CaseTables) : Prop where
  version : run.snapshot.caseVersion = tables.caseVersion
  foresees : ∀ node ∈ DependencyTemplate.canonical.nodes, tables.Due node → run.Foresees tables node

variable {tables tables' : CaseTables} {run run' : AdvanceRun}

/-- **A snapshot read now covers.** -/
theorem covers_load (hrows : tables.RowsSound) (hkeyed : tables.GatesKeyed) :
    (load tables).Covers tables where
  version := rfl
  foresees node hnode hdue := by
    obtain ⟨⟨_, _⟩, hpreds⟩ := canonical_agentTypes node hnode
    refine ⟨?_, hrows.not_mem_blockedByGap hdue.fresh, ?_, ?_⟩
    · rw [noLiveTask_iff]
      rintro ⟨_, hrow, htype, hlive⟩
      obtain ⟨task, hmem, -, rfl⟩ := mem_loadSnapshot_tasks.1 hrow
      exact hdue.fresh ⟨task, hmem, htype, hlive.1⟩
    · intro gateType hrequired
      refine Or.inr ⟨effectiveGate tables.loadSnapshot gateType, ?_, Or.inl ?_⟩
      · exact List.mem_map.2 ⟨gateType, mem_allGates gateType, rfl⟩
      · exact (effectiveGate_loadSnapshot_iff hkeyed gateType).2 (hdue.gate gateType hrequired)
    · intro p hp
      obtain ⟨hpPlan, hpIngestion⟩ := hpreds p hp
      refine (currentTaskStatus_succeeded_iff (hrows.oneLiveTask hpPlan hpIngestion)).2 ?_
      obtain ⟨task, hmem, htype, hcur, hstat⟩ := hdue.predecessors p hp
      exact ⟨_, mem_loadSnapshot_tasks.2 ⟨task, hmem, htype ▸ hpIngestion, rfl⟩, htype, hcur,
        hstat⟩

/-- **What else commits** keeps the cover, as long as nothing comes due by it. -/
theorem Covers.mono (h : run.Covers tables) (hsteady : tables.Steady tables') :
    run.Covers tables' where
  version := h.version.trans hsteady.version.symm
  foresees node hnode hnow := by
    obtain ⟨hfresh, hunblocked, hgate, hpreds⟩ :=
      h.foresees node hnode (hsteady.due hnode hnow)
    refine ⟨hfresh, hunblocked, fun gateType hrequired => ?_, hpreds⟩
    rcases hgate gateType hrequired with hrefreshed | ⟨record, hpend, hstat⟩
    · exact Or.inl hrefreshed
    · exact Or.inr ⟨record, hpend, hstat.imp_right (hsteady.stored _ _)⟩

/-! ### The stages of an execution -/

variable {gateType : GateType}

theorem exists_gate?_satisfied (hkeyed : tables.GatesKeyed) {caseVersion : CaseVersion}
    (h : tables.GateSatisfied caseVersion gateType) :
    ∃ gate, tables.gate? caseVersion gateType = some gate ∧ gate.caseVersion = caseVersion ∧
      gate.gateType = gateType ∧ gate.status = .satisfied := by
  obtain ⟨gate, hmem, hisGate, hstat⟩ := h
  obtain ⟨found, hfound⟩ : ∃ found, tables.gate? caseVersion gateType = some found :=
    Option.isSome_iff_exists.1 (List.find?_isSome.2 ⟨gate, hmem, hisGate⟩)
  obtain ⟨hfoundMem, hfoundVersion, hfoundType⟩ := gate?_eq_some hfound
  have hsame : found = gate :=
    hkeyed.eq_of_isGate hfoundMem hmem (CaseTables.isGate_iff.2 ⟨hfoundVersion, hfoundType⟩) hisGate
  exact ⟨found, hfound, hfoundVersion, hfoundType, hsame ▸ hstat⟩

theorem gateStatus_append_self (snapshot : OrchestrationSnapshot) (gates : List GateRecord)
    {gate : GateRecord} (hver : gate.caseVersion = snapshot.caseVersion) :
    gateStatus { snapshot with gates := gates ++ [gate] } gate.gateType = some gate.status := by
  rw [gateStatus, List.filter_append]
  simp only [List.filter_cons, hver, and_self, decide_true, if_true, List.filter_nil,
    List.getLast?_append, List.getLast?_singleton, Option.some_or, Option.map_some]

theorem gateStatus_append_of_ne (snapshot : OrchestrationSnapshot) (gates rows : List GateRecord)
    (hne : ∀ row ∈ rows, row.gateType ≠ gateType) :
    gateStatus { snapshot with gates := gates ++ rows } gateType =
      gateStatus { snapshot with gates } gateType := by
  have hnone : (rows.filter fun row => row.caseVersion = snapshot.caseVersion ∧
      row.gateType = gateType) = [] := by
    rw [List.filter_eq_nil_iff]
    intro row hrow hmatch
    exact hne row hrow (of_decide_eq_true hmatch).2
  rw [gateStatus, gateStatus, List.filter_append, hnone, List.append_nil]

variable {now : Timestamp} {node : TaskNode}

/-- **Refreshing a gate keeps what is foreseen.** -/
theorem Foresees.refreshGate (h : run.Foresees tables node) (hkeyed : tables.GatesKeyed)
    (hrefreshed : ∀ gate ∈ run.gates, gate.caseVersion = run.snapshot.caseVersion → gate.status = .satisfied → tables.GateSatisfied run.snapshot.caseVersion gate.gateType)
    (hstep : run.refreshGate tables now = some (tables', run')) : run'.Foresees tables' node := by
  unfold AdvanceRun.refreshGate at hstep
  split at hstep
  · cases hstep
  rename_i headType headRecord rest hpend
  cases hstep
  refine ⟨h.fresh, h.unblocked, ?_, h.predecessors⟩
  intro gateType hrequired
  have hmono : ∀ {v g}, tables.GateSatisfied v g →
      (tables.ensureGate run.snapshot.caseVersion headType headRecord.status now
        headRecord.satisfiedByActorId headRecord.dispositionRef).GateSatisfied v g :=
    fun hg => CaseTables.gateSatisfied_ensureGate_of hg
  have hkeyed' : (tables.ensureGate run.snapshot.caseVersion headType headRecord.status now
      headRecord.satisfiedByActorId headRecord.dispositionRef).GatesKeyed := hkeyed.ensureGate ..
  -- the gate at the head is read back as satisfied once it is stored so
  have hread : ∀ {g : GateType}, g = headType →
      (tables.ensureGate run.snapshot.caseVersion headType headRecord.status now
        headRecord.satisfiedByActorId headRecord.dispositionRef).GateSatisfied
          run.snapshot.caseVersion headType →
      gateStatus { run.snapshot with
        gates := run.gates ++ ((tables.ensureGate run.snapshot.caseVersion headType
          headRecord.status now headRecord.satisfiedByActorId
            headRecord.dispositionRef).gate? run.snapshot.caseVersion headType).toList } g =
        some .satisfied := by
    rintro g rfl hstored
    obtain ⟨_, hgate, hver, htype, hstat⟩ := exists_gate?_satisfied hkeyed' hstored
    rw [hgate, Option.toList_some, ← htype, gateStatus_append_self _ _ hver, hstat]
  rcases h.gate gateType hrequired with hdone | ⟨record, hmem, hstat⟩
  · left
    by_cases hhead : gateType = headType
    · -- what was refreshed as satisfied is stored so
      obtain ⟨row, hlast, hrow⟩ := Option.map_eq_some_iff.1 hdone
      obtain ⟨hrowMem, hmatch⟩ := List.mem_filter.1 (List.mem_of_getLast? hlast)
      obtain ⟨hver, htype⟩ := of_decide_eq_true hmatch
      refine hread hhead (hmono ?_)
      rw [← hhead, ← htype]
      exact hrefreshed row hrowMem hver hrow
    · refine (gateStatus_append_of_ne _ _ _ ?_).trans hdone
      intro row hrow
      rw [Option.mem_toList] at hrow
      rw [(gate?_eq_some hrow).2.2]
      exact fun heq => hhead heq.symm
  · rw [hpend] at hmem
    rcases List.mem_cons.1 hmem with heq | hlater
    · obtain ⟨rfl, rfl⟩ := Prod.mk.inj heq
      left
      refine hread rfl ?_
      rcases hstat with hsat | hstored
      · rw [hsat]
        exact CaseTables.gateSatisfied_ensureGate_self ..
      · exact hmono hstored
    · exact Or.inr ⟨record, hlater, hstat.imp_right hmono⟩

theorem Covers.refreshGate (h : run.Covers tables) (hkeyed : tables.GatesKeyed)
    (hrefreshed : ∀ gate ∈ run.gates, gate.caseVersion = run.snapshot.caseVersion → gate.status = .satisfied → tables.GateSatisfied run.snapshot.caseVersion gate.gateType)
    (hsteady : tables.Steady tables') (hstep : run.refreshGate tables now = some (tables', run')) :
    run'.Covers tables' where
  version := by
    rw [refreshGate_snapshot hstep, hsteady.version]
    exact h.version
  foresees node hnode hnow :=
    (h.foresees node hnode (hsteady.due hnode hnow)).refreshGate hkeyed hrefreshed hstep

theorem Covers.planSteps {answer : GatewayAnswer} (h : run.Covers tables)
    (hstep : run.planSteps .canonical answer = some run') : run'.Covers tables := by
  unfold AdvanceRun.planSteps at hstep
  split at hstep
  · cases hstep
    refine ⟨h.version, fun node hnode hdue => ?_⟩
    obtain ⟨hfresh, hunblocked, hgate, hpreds⟩ := h.foresees node hnode hdue
    exact ⟨hfresh, hunblocked, hgate, hpreds⟩
  · cases hstep

/-- Scheduling reads nothing new. -/
theorem Covers.schedule {taskId : Uuid} (h : run.Covers tables) (hsteady : tables.Steady tables')
    (hstep : run.schedule .canonical tables taskId now = some (tables', run')) :
    run'.Covers tables' := by
  have hkept : run'.Covers tables := by
    unfold AdvanceRun.schedule at hstep
    split at hstep
    · cases hstep
      refine ⟨h.version, fun node hnode hnow => ?_⟩
      obtain ⟨hfresh, hunblocked, hgate, hpreds⟩ := h.foresees node hnode hnow
      exact ⟨hfresh, hunblocked, hgate, hpreds⟩
    · cases hstep
  exact hkept.mono hsteady

/-- A foreseen node is ready in the evaluation, once every gate is refreshed. -/
theorem Foresees.ready (h : run.Foresees tables node) (hpend : run.pendingGates = [])
    (hnode : node ∈ DependencyTemplate.canonical.nodes) :
    node.taskType ∈ (evaluateReadiness run.graphed .canonical).readyTypes := by
  have hready : ReadyNode run.graphed node := by
    refine ⟨h.fresh, h.unblocked, ?_, h.predecessors⟩
    intro gateType hrequired
    rcases h.gate gateType hrequired with hrefreshed | ⟨_, hmem, -⟩
    · exact hrefreshed
    · rw [hpend] at hmem
      cases hmem
  rw [mem_readyTypes_iff]
  exact (exists_ready_assessNodes_iff DependencyTemplate.canonical.nodes canonical_topological
    (fun p hp => by cases hp)).2 ⟨node, hnode, rfl, hready⟩

end AdvanceRun

/-! ## Reports -/

section Reports

variable {tables : CaseTables} {taskType : TaskType}

theorem exists_readyNode {snapshot : OrchestrationSnapshot}
    (hready : taskType ∈ (evaluateReadiness snapshot .canonical).readyTypes) :
    ∃ node ∈ DependencyTemplate.canonical.nodes, ReadyNode snapshot node := by
  have hresolved : ResolvedBy snapshot (fun _ => none) [] := fun p hp => by cases hp
  obtain ⟨node, hnode, -, hreadyNode⟩ := (exists_ready_assessNodes_iff
    DependencyTemplate.canonical.nodes canonical_topological hresolved).1
      (mem_readyTypes_iff.1 hready)
  exact ⟨node, hnode, hreadyNode⟩

/-- **What the stored gates make ready is due.** -/
theorem CaseTables.RowsSound.due_of_ready (hrows : tables.RowsSound)
    (hready : taskType ∈ (evaluateReadiness tables.loadSnapshot .canonical).readyTypes) :
    ∃ node ∈ DependencyTemplate.canonical.nodes, tables.Due node := by
  obtain ⟨node, hnode, hreadyNode⟩ := exists_readyNode hready
  refine ⟨node, hnode, due_of_readyNode hrows tables.loadSnapshot rfl rfl ?_ hnode hreadyNode⟩
  exact fun gateType hgate => Or.inl (AdvanceRun.gateSatisfied_of_loadSnapshot hgate)

/-- The snapshot with the gates the engine acts on, as `build_status` and `AdvanceCase` evaluate it. -/
def effectiveSnapshot (tables : CaseTables) : OrchestrationSnapshot :=
  { tables.loadSnapshot with gates := (deriveEffectiveGates tables.loadSnapshot).map (·.2) }

theorem effectiveGate_gateType (snapshot : OrchestrationSnapshot) (gateType : GateType) :
    (effectiveGate snapshot gateType).gateType = gateType := by
  have hstored : ∀ gate, storedGate snapshot gateType = some gate → gate.gateType = gateType := by
    intro gate hgate
    exact (of_decide_eq_true (List.mem_filter.1 (List.mem_of_getLast? hgate)).2).2
  unfold effectiveGate
  split
  · split
    · rename_i record hrec
      exact hstored record (Option.filter_eq_some_iff.1 hrec).1
    · split <;> rfl
  · rename_i existing _ hexisting
    exact hstored existing hexisting
  · rfl

/-- **What the effective gates make ready is due.** -/
theorem CaseTables.RowsSound.due_of_effective_ready (hrows : tables.RowsSound)
    (hkeyed : tables.GatesKeyed)
    (hready : taskType ∈ (evaluateReadiness (effectiveSnapshot tables) .canonical).readyTypes) :
    ∃ node ∈ DependencyTemplate.canonical.nodes, tables.Due node := by
  obtain ⟨node, hnode, hreadyNode⟩ := exists_readyNode hready
  refine ⟨node, hnode, due_of_readyNode hrows (effectiveSnapshot tables) rfl rfl ?_ hnode hreadyNode⟩
  intro gateType hgate
  obtain ⟨_, hlast, hstat⟩ := Option.map_eq_some_iff.1 hgate
  obtain ⟨hmem, hmatch⟩ := List.mem_filter.1 (List.mem_of_getLast? hlast)
  obtain ⟨p, hp, rfl⟩ := List.mem_map.1 hmem
  obtain ⟨other, -, rfl⟩ := List.mem_map.1 hp
  have htype : other = gateType :=
    (effectiveGate_gateType _ other).symm.trans (of_decide_eq_true hmatch).2
  subst htype
  exact (effectiveGate_loadSnapshot_iff hkeyed other).1 hstat

end Reports

end CreditOps.Orchestration
