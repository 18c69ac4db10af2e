import CreditOps.Domain.Orchestration

/-!
# The task graph and its readiness

The canonical dependency template and the pure evaluation of it. `evaluateReadiness` walks the nodes in
template order; a node is assessed from its live task, the blocking gaps attached to its type, its
required gate and the nodes resolved before it (`assessNode`).
-/

set_option autoImplicit false

namespace CreditOps.Orchestration

/-! ## The dependency template -/

/-- A node with its predecessors and the one gate it needs. -/
structure TaskNode where
  taskType : TaskType
  predecessors : List TaskType
  requiredGate : Option GateType
deriving DecidableEq

/-- A template of nodes, in canonical order. -/
structure DependencyTemplate where
  nodes : List TaskNode
deriving DecidableEq

/-- `DependencyTemplate.canonical` -/
def DependencyTemplate.canonical : DependencyTemplate where
  nodes :=
    [{ taskType := .creditUnderwriting
       predecessors := []
       requiredGate := some .g1IntakeComplete },
     { taskType := .legalComplianceCollateral
       predecessors := []
       requiredGate := some .g1IntakeComplete },
     { taskType := .independentRiskReview
       predecessors := [.creditUnderwriting, .legalComplianceCollateral]
       requiredGate := some .g2GapRequestApproval },
     { taskType := .creditOperations
       predecessors := [.independentRiskReview]
       requiredGate := some .g3RiskDisposition }]

namespace DependencyTemplate

/-- The task types in canonical order. -/
def orderedTypes (template : DependencyTemplate) : List TaskType :=
  template.nodes.map (·.taskType)

/-- The index of a type in canonical order; unknown types come last. -/
def priorityOf (template : DependencyTemplate) (taskType : TaskType) : Nat :=
  template.nodes.findIdx (·.taskType = taskType)

/-- `by_type[task_type]` -/
def byType (template : DependencyTemplate) (taskType : TaskType) : Option TaskNode :=
  template.nodes.find? (·.taskType = taskType)

end DependencyTemplate

/-! ## Node assessment -/

/-- The verdict on one node, with its reason. -/
structure NodeAssessment where
  taskType : TaskType
  readiness : TaskReadiness
  reason : String
deriving DecidableEq

/-- The verdicts on all nodes, and the tasks of older versions that are fenced. -/
structure ReadinessReport where
  assessments : List NodeAssessment
  supersededTaskIds : List Uuid
deriving DecidableEq

namespace ReadinessReport

/-- The types that are ready, in template order. -/
def readyTypes (report : ReadinessReport) : List TaskType :=
  (report.assessments.filter (·.readiness = .ready)).map (·.taskType)

/-- `state_map().get(task_type)`: the last assessment of a type stands. -/
def state (report : ReadinessReport) (taskType : TaskType) : Option TaskReadiness :=
  (report.assessments.reverse.find? (·.taskType = taskType)).map (·.readiness)

end ReadinessReport

/-- The last stored status of a gate at the current version. -/
def gateStatus (snapshot : OrchestrationSnapshot) (gateType : GateType) : Option GateStatus :=
  ((snapshot.gates.filter fun gate =>
    gate.caseVersion = snapshot.caseVersion ∧ gate.gateType = gateType).getLast?).map (·.status)

/-- The type of a task of the snapshot, by id. -/
def taskTypeById (snapshot : OrchestrationSnapshot) (taskId : Uuid) : Option TaskType :=
  ((snapshot.tasks.filter (·.taskId = taskId)).getLast?).map (·.taskType)

/-- The task types that have an unresolved blocking gap attached. -/
def blockedByGap (snapshot : OrchestrationSnapshot) : List TaskType :=
  (snapshot.blockingGaps.filter (·.blockingLevel = .blocking)).filterMap fun gap =>
    taskTypeById snapshot gap.affectedTaskId

/-- The status of the live current-version task of a type; a superseded attempt does not count. -/
def currentTaskStatus (snapshot : OrchestrationSnapshot) (taskType : TaskType) :
    Option TaskStatus :=
  ((snapshot.tasks.filter fun task =>
    task.caseVersion = snapshot.caseVersion ∧ task.status ≠ .superseded ∧
      task.taskType = taskType).getLast?).map (·.status)

/-- A task of the type exists at an older case version. -/
def hasStaleTask (snapshot : OrchestrationSnapshot) (taskType : TaskType) : Bool :=
  snapshot.tasks.any fun task =>
    task.taskType = taskType ∧ task.caseVersion < snapshot.caseVersion

/-- The nodes resolved so far. -/
abbrev Resolved := TaskType → Option TaskReadiness

/-- The predecessors that are not resolved as complete. -/
def unmetPredecessors (node : TaskNode) (resolved : Resolved) : List TaskType :=
  node.predecessors.filter (resolved · ≠ some .complete)

/-- The part of `_assess_node` that is reached without a live current-version task. -/
def assessFresh (snapshot : OrchestrationSnapshot) (resolved : Resolved) (node : TaskNode) :
    NodeAssessment :=
  if node.taskType ∈ blockedByGap snapshot then
    ⟨node.taskType, .blocked, "blocking evidence gap on required inputs"⟩
  else
    match node.requiredGate.filter (gateStatus snapshot · ≠ some .satisfied) with
    | some gate =>
      ⟨node.taskType, .blocked, "human gate " ++ gate.value ++ " is not satisfied"⟩
    | none =>
      match unmetPredecessors node resolved with
      | [] =>
        ⟨node.taskType, .ready,
          if hasStaleTask snapshot node.taskType then "stale task fenced; fresh work is ready"
          else "dependencies met"⟩
      | unmet =>
        ⟨node.taskType, .blocked,
          "waiting for predecessor: " ++ ", ".intercalate (unmet.map (·.value))⟩

/-- `_assess_node` -/
def assessNode (snapshot : OrchestrationSnapshot) (resolved : Resolved) (node : TaskNode) :
    NodeAssessment :=
  match currentTaskStatus snapshot node.taskType with
  | some .succeeded => ⟨node.taskType, .complete, "task succeeded"⟩
  | some .pending | some .running | some .retryWait =>
    ⟨node.taskType, .inProgress, "task in progress"⟩
  | some .failedManualReview => ⟨node.taskType, .failed, "task in manual review"⟩
  | some .superseded | none => assessFresh snapshot resolved node

/-- The loop over the template, with the nodes resolved so far. -/
def assessNodes (snapshot : OrchestrationSnapshot) :
    List TaskNode → Resolved → List NodeAssessment
  | [], _ => []
  | node :: nodes, resolved =>
    let assessment := assessNode snapshot resolved node
    assessment ::
      assessNodes snapshot nodes
        (Function.update resolved node.taskType (some assessment.readiness))

/-- `evaluate_readiness` -/
def evaluateReadiness (snapshot : OrchestrationSnapshot) (template : DependencyTemplate) :
    ReadinessReport where
  assessments := assessNodes snapshot template.nodes fun _ => none
  supersededTaskIds :=
    (snapshot.tasks.filter (·.caseVersion < snapshot.caseVersion)).map (·.taskId)

/-! ## When a node is ready -/

/-- No live attempt of the type exists at the current version. -/
def NoLiveTask (snapshot : OrchestrationSnapshot) (taskType : TaskType) : Prop :=
  currentTaskStatus snapshot taskType = none ∨
    currentTaskStatus snapshot taskType = some .superseded

/-- The gate the node needs, if any, is satisfied in the snapshot. -/
def GateMet (snapshot : OrchestrationSnapshot) (node : TaskNode) : Prop :=
  ∀ gate, node.requiredGate = some gate → gateStatus snapshot gate = some .satisfied

theorem assessFresh_taskType (snapshot : OrchestrationSnapshot) (resolved : Resolved)
    (node : TaskNode) : (assessFresh snapshot resolved node).taskType = node.taskType := by
  unfold assessFresh
  split
  · rfl
  · split
    · rfl
    · split <;> rfl

@[simp] theorem assessNode_taskType (snapshot : OrchestrationSnapshot) (resolved : Resolved)
    (node : TaskNode) : (assessNode snapshot resolved node).taskType = node.taskType := by
  unfold assessNode
  split
  · rfl
  · rfl
  · rfl
  · rfl
  · rfl
  · exact assessFresh_taskType snapshot resolved node
  · exact assessFresh_taskType snapshot resolved node

theorem gateMet_iff (snapshot : OrchestrationSnapshot) (node : TaskNode) :
    GateMet snapshot node ↔
      node.requiredGate.filter (gateStatus snapshot · ≠ some .satisfied) = none := by
  unfold GateMet
  cases node.requiredGate with
  | none => simp only [reduceCtorEq, false_implies, implies_true, Option.filter_none]
  | some =>
    simp only [Option.some.injEq, forall_eq', Option.filter_some, ne_eq, decide_not,
      Bool.not_eq_eq_eq_not, Bool.not_true, decide_eq_false_iff_not, ite_eq_right_iff,
      reduceCtorEq, imp_false, not_not]

theorem unmetPredecessors_eq_nil_iff (node : TaskNode) (resolved : Resolved) :
    unmetPredecessors node resolved = [] ↔ ∀ p ∈ node.predecessors, resolved p = some .complete := by
  simp only [unmetPredecessors, List.filter_eq_nil_iff, ne_eq, decide_not, Bool.not_eq_eq_eq_not,
    Bool.not_true, decide_eq_false_iff_not, not_not]

theorem assessFresh_ready_iff (snapshot : OrchestrationSnapshot) (resolved : Resolved)
    (node : TaskNode) :
    (assessFresh snapshot resolved node).readiness = .ready ↔
      node.taskType ∉ blockedByGap snapshot ∧ GateMet snapshot node ∧
        ∀ p ∈ node.predecessors, resolved p = some .complete := by
  rw [gateMet_iff, ← unmetPredecessors_eq_nil_iff]
  unfold assessFresh
  by_cases hgap : node.taskType ∈ blockedByGap snapshot
  · simp only [if_pos hgap, reduceCtorEq, false_iff, not_and]
    exact fun hno => absurd hgap hno
  · rw [if_neg hgap]
    cases node.requiredGate.filter (gateStatus snapshot · ≠ some .satisfied) with
    | some => simp only [reduceCtorEq, false_and, and_false]
    | none =>
      cases unmetPredecessors node resolved with
      | nil => simp only [hgap, not_false_eq_true, and_self]
      | cons => simp only [reduceCtorEq, and_false]

/-- **A node is ready exactly when** it has no live task, no blocking gap attached to its type, its
gate is satisfied and every predecessor is complete. -/
theorem assessNode_ready_iff (snapshot : OrchestrationSnapshot) (resolved : Resolved)
    (node : TaskNode) :
    (assessNode snapshot resolved node).readiness = .ready ↔
      NoLiveTask snapshot node.taskType ∧ node.taskType ∉ blockedByGap snapshot ∧
        GateMet snapshot node ∧ ∀ p ∈ node.predecessors, resolved p = some .complete := by
  rw [← assessFresh_ready_iff]
  unfold assessNode NoLiveTask
  cases currentTaskStatus snapshot node.taskType with
  | none => simp only [true_or, true_and]
  | some status =>
    cases status with
    | superseded => simp only [or_true, true_and]
    | pending | running | retryWait | succeeded | failedManualReview =>
      simp only [reduceCtorEq, Option.some.injEq, or_self, false_and]

/-! ## The report as a whole -/

theorem assessNodes_map_taskType (snapshot : OrchestrationSnapshot) :
    ∀ (nodes : List TaskNode) (resolved : Resolved),
      (assessNodes snapshot nodes resolved).map (·.taskType) = nodes.map (·.taskType)
  | [], _ => rfl
  | node :: nodes, resolved => by
      simp only [assessNodes, List.map_cons, assessNode_taskType,
        assessNodes_map_taskType snapshot nodes]

theorem exists_node_of_mem_assessNodes {snapshot : OrchestrationSnapshot} {a : NodeAssessment} :
    ∀ {nodes : List TaskNode} {resolved : Resolved}, a ∈ assessNodes snapshot nodes resolved →
      ∃ node ∈ nodes, ∃ before, a = assessNode snapshot before node
  | [], _, h => by cases h
  | node :: nodes, resolved, h => by
      rcases List.mem_cons.1 h with rfl | hrest
      · exact ⟨node, List.mem_cons_self, resolved, rfl⟩
      · obtain ⟨found, hfound, before, rfl⟩ := exists_node_of_mem_assessNodes hrest
        exact ⟨found, List.mem_cons_of_mem _ hfound, before, rfl⟩

/-- **What a ready type guarantees.** It is a node of the template without a live task, without a
blocking gap of its own, and with its gate satisfied in the snapshot. -/
theorem ready_of_mem_readyTypes {snapshot : OrchestrationSnapshot} {template : DependencyTemplate}
    {taskType : TaskType} (h : taskType ∈ (evaluateReadiness snapshot template).readyTypes) :
    ∃ node ∈ template.nodes, node.taskType = taskType ∧ NoLiveTask snapshot taskType ∧
      taskType ∉ blockedByGap snapshot ∧ GateMet snapshot node := by
  obtain ⟨a, ha, rfl⟩ := List.mem_map.1 h
  obtain ⟨hmem, hready⟩ := List.mem_filter.1 ha
  obtain ⟨node, hnode, before, rfl⟩ := exists_node_of_mem_assessNodes hmem
  obtain ⟨hlive, hgap, hgate, -⟩ :=
    (assessNode_ready_iff snapshot before node).1 (by simpa only [decide_eq_true_eq] using hready)
  rw [assessNode_taskType]
  exact ⟨node, hnode, rfl, hlive, hgap, hgate⟩

end CreditOps.Orchestration
