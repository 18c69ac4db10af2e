import Mathlib.Data.List.Nodup
import CreditOps.Orchestration.Readiness

/-!
# Readiness, soundly and completely

`evaluateReadiness` resolves the nodes one after the other and keeps its tables by type, so a verdict
depends on the order of the template and on which task stands for a type. For a template in topological
order and a snapshot with at most one live task of a type, neither shows: `ready_iff` says when a type
is ready by the rows of the snapshot alone.
-/

set_option autoImplicit false

namespace CreditOps

/-- A task that stands for its type: of the current version, and not superseded. -/
def OrchestrationTaskRow.IsLive (task : OrchestrationTaskRow) (caseVersion : CaseVersion) : Prop :=
  task.caseVersion = caseVersion ∧ task.status ≠ .superseded

instance (task : OrchestrationTaskRow) (caseVersion : CaseVersion) :
    Decidable (task.IsLive caseVersion) :=
  inferInstanceAs (Decidable (_ ∧ _))

namespace Orchestration

/-! ## Templates in topological order -/

/-- The nodes name each type once, and each node comes after its predecessors. -/
def TopologicalFrom : List TaskType → List TaskNode → Prop
  | _, [] => True
  | seen, node :: nodes =>
    node.taskType ∉ seen ∧ (∀ p ∈ node.predecessors, p ∈ seen) ∧
      TopologicalFrom (node.taskType :: seen) nodes

instance decidableTopologicalFrom :
    ∀ (seen : List TaskType) (nodes : List TaskNode), Decidable (TopologicalFrom seen nodes)
  | _, [] => isTrue trivial
  | seen, node :: nodes =>
    have := decidableTopologicalFrom (node.taskType :: seen) nodes
    inferInstanceAs (Decidable (_ ∧ _ ∧ _))

/-- The template lists its nodes in a topological order of their dependencies. -/
def DependencyTemplate.Topological (template : DependencyTemplate) : Prop :=
  TopologicalFrom [] template.nodes

instance (template : DependencyTemplate) : Decidable template.Topological :=
  inferInstanceAs (Decidable (TopologicalFrom _ _))

/-- In topological order a predecessor is the type of a node. -/
theorem TopologicalFrom.mem_predecessors {seen : List TaskType} {nodes : List TaskNode}
    (h : TopologicalFrom seen nodes) {node : TaskNode} (hnode : node ∈ nodes) {p : TaskType}
    (hp : p ∈ node.predecessors) : p ∈ seen ∨ ∃ before ∈ nodes, before.taskType = p := by
  induction nodes generalizing seen with
  | nil => cases hnode
  | cons first _ ih =>
    obtain ⟨-, hpreds, hrest⟩ := h
    rcases List.mem_cons.1 hnode with rfl | hlater
    · exact Or.inl (hpreds p hp)
    · rcases ih hrest hlater with hseen | ⟨before, hpre, htype⟩
      · rcases List.mem_cons.1 hseen with rfl | hold
        · exact Or.inr ⟨first, List.mem_cons_self, rfl⟩
        · exact Or.inl hold
      · exact Or.inr ⟨before, List.mem_cons_of_mem _ hpre, htype⟩

theorem canonical_topological : DependencyTemplate.canonical.Topological := by
  decide

/-! ## Live tasks -/

/-- At most one live task of the type. -/
def OneLiveTask (snapshot : OrchestrationSnapshot) (taskType : TaskType) : Prop :=
  ∀ task ∈ snapshot.tasks, ∀ other ∈ snapshot.tasks, task.taskType = taskType →
    other.taskType = taskType → task.IsLive snapshot.caseVersion →
    other.IsLive snapshot.caseVersion → other = task

instance (snapshot : OrchestrationSnapshot) (taskType : TaskType) :
    Decidable (OneLiveTask snapshot taskType) :=
  inferInstanceAs (Decidable (∀ task ∈ snapshot.tasks, _))

/-- A task of the type has succeeded at the current version. -/
def HasComplete (snapshot : OrchestrationSnapshot) (taskType : TaskType) : Prop :=
  ∃ task ∈ snapshot.tasks, task.taskType = taskType ∧ task.caseVersion = snapshot.caseVersion ∧
    task.status = .succeeded

section Snapshot

variable {snapshot : OrchestrationSnapshot} {taskType : TaskType}

theorem exists_live_of_currentTaskStatus {status : TaskStatus}
    (h : currentTaskStatus snapshot taskType = some status) :
    ∃ task ∈ snapshot.tasks, task.taskType = taskType ∧ task.IsLive snapshot.caseVersion ∧
      task.status = status := by
  obtain ⟨task, hlast, hstat⟩ := Option.map_eq_some_iff.1 h
  obtain ⟨hmem, hmatch⟩ := List.mem_filter.1 (List.mem_of_getLast? hlast)
  obtain ⟨hver, hlive, htype⟩ := of_decide_eq_true hmatch
  exact ⟨task, hmem, htype, ⟨hver, hlive⟩, hstat⟩

theorem currentTaskStatus_isSome {task : OrchestrationTaskRow} (hmem : task ∈ snapshot.tasks)
    (htype : task.taskType = taskType) (hlive : task.IsLive snapshot.caseVersion) :
    ∃ status, currentTaskStatus snapshot taskType = some status := by
  have hfilter : task ∈ snapshot.tasks.filter fun row =>
      row.caseVersion = snapshot.caseVersion ∧ row.status ≠ .superseded ∧ row.taskType = taskType :=
    List.mem_filter.2 ⟨hmem, decide_eq_true ⟨hlive.1, hlive.2, htype⟩⟩
  obtain ⟨last, hlast⟩ := Option.isSome_iff_exists.1
    (List.getLast?_isSome.2 (List.ne_nil_of_mem hfilter))
  exact ⟨last.status, Option.map_eq_some_iff.2 ⟨last, hlast, rfl⟩⟩

/-- **No live task** means just that: stale and superseded tasks do not count. -/
theorem noLiveTask_iff :
    NoLiveTask snapshot taskType ↔
      ¬ ∃ task ∈ snapshot.tasks, task.taskType = taskType ∧ task.IsLive snapshot.caseVersion := by
  constructor
  · rintro hnone ⟨_, hmem, htype, hlive⟩
    obtain ⟨_, hstat⟩ := currentTaskStatus_isSome hmem htype hlive
    rcases hnone with hnone | hsuperseded
    · rw [hnone] at hstat
      cases hstat
    · obtain ⟨_, -, -, hfoundLive, hfound⟩ := exists_live_of_currentTaskStatus hsuperseded
      exact hfoundLive.2 hfound
  · intro hnone
    cases hstat : currentTaskStatus snapshot taskType with
    | none => exact Or.inl hstat
    | some =>
      obtain ⟨task, hmem, htype, hlive, -⟩ := exists_live_of_currentTaskStatus hstat
      exact absurd ⟨task, hmem, htype, hlive⟩ hnone

/-- With one live task a type, the status of the type is complete when some task of it is. -/
theorem currentTaskStatus_succeeded_iff (hone : OneLiveTask snapshot taskType) :
    currentTaskStatus snapshot taskType = some .succeeded ↔ HasComplete snapshot taskType := by
  constructor
  · intro h
    obtain ⟨task, hmem, htype, hlive, hstat⟩ := exists_live_of_currentTaskStatus h
    exact ⟨task, hmem, htype, hlive.1, hstat⟩
  · rintro ⟨task, hmem, htype, hver, hstat⟩
    have hlive : task.IsLive snapshot.caseVersion := ⟨hver, by rw [hstat]; decide⟩
    obtain ⟨_, hfound⟩ := currentTaskStatus_isSome hmem htype hlive
    obtain ⟨found, hfoundMem, hfoundType, hfoundLive, hfoundStatus⟩ :=
      exists_live_of_currentTaskStatus hfound
    have hsame := hone task hmem found hfoundMem htype hfoundType hlive hfoundLive
    rw [hfound, ← hfoundStatus, hsame, hstat]

theorem mem_blockedByGap_iff :
    taskType ∈ blockedByGap snapshot ↔
      ∃ gap ∈ snapshot.blockingGaps, gap.blockingLevel = .blocking ∧
        taskTypeById snapshot gap.affectedTaskId = some taskType := by
  rw [blockedByGap, List.mem_filterMap]
  constructor
  · rintro ⟨gap, hgap, htype⟩
    obtain ⟨hmem, hlevel⟩ := List.mem_filter.1 hgap
    exact ⟨gap, hmem, of_decide_eq_true hlevel, htype⟩
  · rintro ⟨gap, hmem, hlevel, htype⟩
    exact ⟨gap, List.mem_filter.2 ⟨hmem, decide_eq_true hlevel⟩, htype⟩

/-! ## Walking the template -/

theorem assessFresh_readiness_ne_complete (snapshot : OrchestrationSnapshot) (resolved : Resolved)
    (node : TaskNode) : (assessFresh snapshot resolved node).readiness ≠ .complete := by
  unfold assessFresh
  split
  · exact nofun
  · split
    · exact nofun
    · split <;> exact nofun

/-- A node is complete exactly when the status of its type says so. -/
theorem assessNode_complete_iff (resolved : Resolved) (node : TaskNode) :
    (assessNode snapshot resolved node).readiness = .complete ↔
      currentTaskStatus snapshot node.taskType = some .succeeded := by
  have hfresh := assessFresh_readiness_ne_complete snapshot resolved node
  unfold assessNode
  cases currentTaskStatus snapshot node.taskType with
  | none => simp only [hfresh, reduceCtorEq]
  | some status =>
    cases status with
    | succeeded => simp only
    | superseded => simp only [hfresh, reduceCtorEq, Option.some.injEq]
    | pending | running | retryWait | failedManualReview =>
      simp only [reduceCtorEq, Option.some.injEq]

/-- The nodes seen so far are resolved as complete exactly when their type has succeeded. -/
def ResolvedBy (snapshot : OrchestrationSnapshot) (resolved : Resolved) (seen : List TaskType) :
    Prop :=
  ∀ p ∈ seen, resolved p = some .complete ↔ currentTaskStatus snapshot p = some .succeeded

theorem ResolvedBy.step {resolved : Resolved} {seen : List TaskType}
    (h : ResolvedBy snapshot resolved seen) {node : TaskNode} (hnew : node.taskType ∉ seen) :
    ResolvedBy snapshot
      (Function.update resolved node.taskType (some (assessNode snapshot resolved node).readiness))
      (node.taskType :: seen) := by
  intro p hp
  rcases List.mem_cons.1 hp with rfl | hold
  · rw [Function.update_self, Option.some.injEq]
    exact assessNode_complete_iff resolved node
  · have hne : p ≠ node.taskType := by
      rintro rfl
      exact hnew hold
    rw [Function.update_of_ne hne]
    exact h p hold

/-- What makes a node ready, by the tables of the evaluation. -/
def ReadyNode (snapshot : OrchestrationSnapshot) (node : TaskNode) : Prop :=
  NoLiveTask snapshot node.taskType ∧ node.taskType ∉ blockedByGap snapshot ∧
    GateMet snapshot node ∧
    ∀ p ∈ node.predecessors, currentTaskStatus snapshot p = some .succeeded

theorem assessNode_ready_of_resolvedBy {resolved : Resolved} {seen : List TaskType} {node : TaskNode}
    (h : ResolvedBy snapshot resolved seen) (hpreds : ∀ p ∈ node.predecessors, p ∈ seen) :
    (assessNode snapshot resolved node).readiness = .ready ↔ ReadyNode snapshot node := by
  have hcomplete : (∀ p ∈ node.predecessors, resolved p = some .complete) ↔
      ∀ p ∈ node.predecessors, currentTaskStatus snapshot p = some .succeeded := by
    constructor
    · intro hall p hp
      exact (h p (hpreds p hp)).1 (hall p hp)
    · intro hall p hp
      exact (h p (hpreds p hp)).2 (hall p hp)
  rw [assessNode_ready_iff, hcomplete, ReadyNode]

/-- **The walk over the rest of a topological order.** -/
theorem exists_ready_assessNodes_iff :
    ∀ (nodes : List TaskNode) {seen : List TaskType} {resolved : Resolved},
      TopologicalFrom seen nodes → ResolvedBy snapshot resolved seen →
      ((∃ a ∈ assessNodes snapshot nodes resolved, a.taskType = taskType ∧ a.readiness = .ready) ↔
        ∃ node ∈ nodes, node.taskType = taskType ∧ ReadyNode snapshot node) := by
  intro nodes
  induction nodes with
  | nil =>
    intro seen resolved _ _
    simp only [assessNodes, List.not_mem_nil, false_and, exists_false]
  | cons _ _ ih =>
    intro seen resolved htopological hresolved
    obtain ⟨hnew, hpreds, hrest⟩ := htopological
    have hhead := assessNode_ready_of_resolvedBy hresolved hpreds
    have htail := ih hrest (hresolved.step hnew)
    rw [assessNodes]
    simp only [List.mem_cons, exists_eq_or_imp, assessNode_taskType]
    rw [htail, hhead]

theorem mem_readyTypes_iff {report : ReadinessReport} :
    taskType ∈ report.readyTypes ↔
      ∃ a ∈ report.assessments, a.taskType = taskType ∧ a.readiness = .ready := by
  rw [ReadinessReport.readyTypes, List.mem_map]
  constructor
  · rintro ⟨a, ha, htype⟩
    obtain ⟨hmem, hready⟩ := List.mem_filter.1 ha
    exact ⟨a, hmem, htype, of_decide_eq_true hready⟩
  · rintro ⟨a, hmem, htype, hready⟩
    exact ⟨a, List.mem_filter.2 ⟨hmem, decide_eq_true hready⟩, htype⟩

/-- **Readiness is sound and complete.** Over a template in topological order and a snapshot with at
most one live task of each of its types, a type is ready exactly when it is the type of a node with no
live task, no blocking gap attached to it, its gate satisfied at the current version, and a succeeded
task of each predecessor at the current version. -/
theorem ready_iff {template : DependencyTemplate} (htopological : template.Topological)
    (hone : ∀ node ∈ template.nodes, OneLiveTask snapshot node.taskType) :
    taskType ∈ (evaluateReadiness snapshot template).readyTypes ↔
      ∃ node ∈ template.nodes, node.taskType = taskType ∧
        (¬ ∃ task ∈ snapshot.tasks, task.taskType = taskType ∧ task.IsLive snapshot.caseVersion) ∧
        (¬ ∃ gap ∈ snapshot.blockingGaps, gap.blockingLevel = .blocking ∧
          taskTypeById snapshot gap.affectedTaskId = some taskType) ∧
        (∀ gate, node.requiredGate = some gate → gateStatus snapshot gate = some .satisfied) ∧
        ∀ p ∈ node.predecessors, HasComplete snapshot p := by
  rw [mem_readyTypes_iff]
  have hwalk : (∃ a ∈ (evaluateReadiness snapshot template).assessments,
      a.taskType = taskType ∧ a.readiness = .ready) ↔
      ∃ node ∈ template.nodes, node.taskType = taskType ∧ ReadyNode snapshot node :=
    exists_ready_assessNodes_iff template.nodes htopological (fun p hp => by cases hp)
  refine hwalk.trans ?_
  apply exists_congr
  intro node
  apply and_congr_right
  intro hnode
  apply and_congr_right
  rintro rfl
  have hcomplete : (∀ p ∈ node.predecessors, currentTaskStatus snapshot p = some .succeeded) ↔
      ∀ p ∈ node.predecessors, HasComplete snapshot p := by
    refine forall₂_congr fun p hp => ?_
    rcases TopologicalFrom.mem_predecessors htopological hnode hp with hseen | ⟨before, hmem, rfl⟩
    · cases hseen
    · exact currentTaskStatus_succeeded_iff (hone before hmem)
  rw [ReadyNode, noLiveTask_iff, mem_blockedByGap_iff, GateMet, hcomplete]

/-- Both makers have succeeded at version 2 and the request gate is satisfied there; version 1 left a
superseded review. Of the two gaps, the one attached to the review does not block and the one that
blocks is attached to another type. -/
def reviewReady : OrchestrationSnapshot where
  caseId := 1
  caseVersion := 2
  hasIntakeHandoff := true
  tasks :=
    [⟨10, .independentRiskReview, 1, .superseded⟩,
     ⟨11, .creditUnderwriting, 2, .succeeded⟩,
     ⟨12, .legalComplianceCollateral, 2, .superseded⟩,
     ⟨13, .legalComplianceCollateral, 2, .succeeded⟩]
  gates := [⟨.g2GapRequestApproval, 2, .satisfied, some 7, some "review", some 0⟩]
  blockingGaps := [⟨20, 10, .conditional⟩, ⟨21, 11, .blocking⟩]

theorem reviewReady_ready :
    .independentRiskReview ∈ (evaluateReadiness reviewReady .canonical).readyTypes :=
  (ready_iff canonical_topological (by decide)).2
    ⟨_, List.mem_of_getElem? (i := 2) rfl, rfl, by decide, by decide,
      fun gate h => by cases h; decide, by
        intro p hp
        rcases List.mem_cons.1 hp with rfl | hp
        · exact ⟨_, List.mem_of_getElem? (i := 1) rfl, rfl, rfl, rfl⟩
        · cases List.mem_singleton.1 hp
          exact ⟨_, List.mem_of_getElem? (i := 3) rfl, rfl, rfl, rfl⟩⟩

end Snapshot

/-! ## Reports with one verdict a type -/

/-- The report assesses each type once. -/
def ReadinessReport.OnePerType (report : ReadinessReport) : Prop :=
  (report.assessments.map (·.taskType)).Nodup

instance (report : ReadinessReport) : Decidable report.OnePerType :=
  inferInstanceAs (Decidable (List.Nodup _))

theorem evaluateReadiness_onePerType (snapshot : OrchestrationSnapshot)
    {template : DependencyTemplate} (h : template.orderedTypes.Nodup) :
    (evaluateReadiness snapshot template).OnePerType := by
  rw [ReadinessReport.OnePerType, evaluateReadiness, assessNodes_map_taskType]
  exact h

theorem ReadinessReport.OnePerType.readyTypes_nodup {report : ReadinessReport}
    (h : report.OnePerType) : report.readyTypes.Nodup :=
  List.Nodup.sublist (List.Sublist.map _ List.filter_sublist) h

end Orchestration

end CreditOps
