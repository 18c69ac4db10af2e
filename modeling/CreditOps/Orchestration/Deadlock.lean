import CreditOps.Orchestration.ReadyTypes

/-!
# Deadlock detection

`detectDeadlock` surfaces a stall: nothing is ready, nothing is running, and work remains. It reads the
tables of a report by type. For a report with one verdict a type, `detectDeadlock_isSome_iff` says when
it surfaces one by the verdicts alone.
-/

set_option autoImplicit false

namespace CreditOps.Orchestration

/-! ## The tables of a report -/

namespace ReadinessReport

/-- `state_map()`: the types in the order in which they were first assessed, with the last verdict on
each. -/
def stateMap (report : ReadinessReport) : List (TaskType × TaskReadiness) :=
  (report.assessments.map (·.taskType)).eraseDups.filterMap fun taskType =>
    (report.state taskType).map fun state => (taskType, state)

/-- `reason_map().get(task_type)` -/
def reason (report : ReadinessReport) (taskType : TaskType) : Option String :=
  (report.assessments.reverse.find? (·.taskType = taskType)).map (·.reason)

end ReadinessReport

/-! ## The detection -/

/-- A surfaced stall: what is blocked and why, and the distinct reasons. -/
structure Deadlock where
  blocked : List (TaskType × String)
  reasons : List String
deriving DecidableEq

/-- The node still has work. -/
def isIncomplete : TaskReadiness → Bool
  | .complete | .superseded => false
  | .blocked | .ready | .inProgress | .failed => true

/-- The node moves on by itself. -/
def hasProgress : TaskReadiness → Bool
  | .ready | .inProgress => true
  | .blocked | .complete | .superseded | .failed => false

/-- `detect_deadlock` -/
def detectDeadlock (states : List (TaskType × TaskReadiness)) (reasonOf : TaskType → Option String) :
    Option Deadlock :=
  if (states.any fun p => hasProgress p.2) ∨ ¬ (states.any fun p => isIncomplete p.2) then none
  else
    let blocked := (states.filter fun p => isIncomplete p.2).map fun p =>
      (p.1, (reasonOf p.1).getD "blocked")
    some ⟨blocked, (blocked.map (·.2)).eraseDups⟩

/-- The deadlock an execution surfaces for a report. -/
def ReadinessReport.deadlock (report : ReadinessReport) : Option Deadlock :=
  detectDeadlock report.stateMap report.reason

/-! ## When a stall is surfaced -/

theorem detectDeadlock_isSome_iff_states {states : List (TaskType × TaskReadiness)}
    {reasonOf : TaskType → Option String} :
    (detectDeadlock states reasonOf).isSome = true ↔
      (∀ p ∈ states, hasProgress p.2 = false) ∧ ∃ p ∈ states, isIncomplete p.2 = true := by
  have hprogress : (¬ (states.any fun p => hasProgress p.2) = true) ↔
      ∀ p ∈ states, hasProgress p.2 = false := by
    rw [Bool.not_eq_true, List.any_eq_false]
    exact forall₂_congr fun _ _ => iff_of_eq (Bool.not_eq_true _)
  rw [← hprogress, ← List.any_eq_true]
  unfold detectDeadlock
  split
  · rename_i hnone
    constructor
    · intro h
      cases h
    · rintro ⟨hstill, hwork⟩
      rcases hnone with hmoves | hdone
      · exact absurd hmoves hstill
      · exact absurd hwork hdone
  · rename_i hsome
    rw [not_or, not_not] at hsome
    exact ⟨fun _ => hsome, fun _ => rfl⟩

section OnePerType

variable {report : ReadinessReport}

theorem ReadinessReport.OnePerType.state_eq (h : report.OnePerType) {a : NodeAssessment}
    (ha : a ∈ report.assessments) : report.state a.taskType = some a.readiness := by
  cases hfind : report.assessments.reverse.find? (·.taskType = a.taskType) with
  | none =>
    exact absurd (decide_eq_true rfl)
      (List.find?_eq_none.1 hfind a (List.mem_reverse.2 ha))
  | some =>
    have htype := of_decide_eq_true
      (List.find?_some (p := fun b : NodeAssessment => decide (b.taskType = a.taskType)) hfind)
    have hmem := List.mem_reverse.1 (List.mem_of_find?_eq_some hfind)
    rw [ReadinessReport.state, hfind, List.inj_on_of_nodup_map h hmem ha htype]
    rfl

/-- With one verdict a type, the table holds the verdicts. -/
theorem ReadinessReport.OnePerType.mem_stateMap_iff (h : report.OnePerType)
    {p : TaskType × TaskReadiness} :
    p ∈ report.stateMap ↔ ∃ a ∈ report.assessments, p = (a.taskType, a.readiness) := by
  rw [ReadinessReport.stateMap, List.mem_filterMap]
  constructor
  · rintro ⟨_, htype, hp⟩
    obtain ⟨a, ha, rfl⟩ := List.mem_map.1 (List.mem_eraseDups.1 htype)
    rw [h.state_eq ha] at hp
    cases hp
    exact ⟨a, ha, rfl⟩
  · rintro ⟨a, ha, rfl⟩
    refine ⟨a.taskType, List.mem_eraseDups.2 (List.mem_map_of_mem ha), ?_⟩
    rw [h.state_eq ha]
    rfl

/-- **A stall is surfaced** exactly when no node is ready or in progress and some node has work. -/
theorem ReadinessReport.OnePerType.deadlock_isSome_iff (h : report.OnePerType) :
    report.deadlock.isSome = true ↔
      (∀ a ∈ report.assessments, hasProgress a.readiness = false) ∧
        ∃ a ∈ report.assessments, isIncomplete a.readiness = true := by
  rw [ReadinessReport.deadlock, detectDeadlock_isSome_iff_states]
  constructor
  · rintro ⟨hstill, p, hp, hwork⟩
    obtain ⟨a, ha, rfl⟩ := h.mem_stateMap_iff.1 hp
    exact ⟨fun b hb => hstill _ (h.mem_stateMap_iff.2 ⟨b, hb, rfl⟩), a, ha, hwork⟩
  · rintro ⟨hstill, a, ha, hwork⟩
    refine ⟨?_, _, h.mem_stateMap_iff.2 ⟨a, ha, rfl⟩, hwork⟩
    intro p hp
    obtain ⟨b, hb, rfl⟩ := h.mem_stateMap_iff.1 hp
    exact hstill b hb

end OnePerType

/-! ## The evaluation never fences a node -/

/-- No verdict of the evaluation is `SUPERSEDED`. -/
theorem assessNode_readiness_ne_superseded (snapshot : OrchestrationSnapshot) (resolved : Resolved)
    (node : TaskNode) : (assessNode snapshot resolved node).readiness ≠ .superseded := by
  have hfresh : (assessFresh snapshot resolved node).readiness ≠ .superseded := by
    unfold assessFresh
    split
    · exact nofun
    · split
      · exact nofun
      · split <;> exact nofun
  unfold assessNode
  split
  · exact nofun
  · exact nofun
  · exact nofun
  · exact nofun
  · exact nofun
  · exact hfresh
  · exact hfresh

/-- **No silent stall.** When the evaluation finds no node ready or in progress and some node not
complete, a deadlock is surfaced. -/
theorem evaluateReadiness_deadlock {snapshot : OrchestrationSnapshot}
    {template : DependencyTemplate} (hdistinct : template.orderedTypes.Nodup)
    (hstill : ∀ a ∈ (evaluateReadiness snapshot template).assessments,
      a.readiness ≠ .ready ∧ a.readiness ≠ .inProgress)
    (hwork : ∃ a ∈ (evaluateReadiness snapshot template).assessments, a.readiness ≠ .complete) :
    (evaluateReadiness snapshot template).deadlock.isSome = true := by
  rw [(evaluateReadiness_onePerType snapshot hdistinct).deadlock_isSome_iff]
  constructor
  · intro a ha
    obtain ⟨hready, hprogress⟩ := hstill a ha
    cases hreadiness : a.readiness with
    | ready => exact absurd hreadiness hready
    | inProgress => exact absurd hreadiness hprogress
    | blocked | complete | superseded | failed => rfl
  · obtain ⟨a, ha, hopen⟩ := hwork
    refine ⟨a, ha, ?_⟩
    obtain ⟨node, -, before, hnode⟩ := exists_node_of_mem_assessNodes ha
    cases hreadiness : a.readiness with
    | complete => exact absurd hreadiness hopen
    | superseded =>
      rw [hnode] at hreadiness
      exact absurd hreadiness (assessNode_readiness_ne_superseded snapshot before node)
    | blocked | ready | inProgress | failed => rfl

end CreditOps.Orchestration
