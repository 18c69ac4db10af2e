import CreditOps.Orchestration.Engine
import CreditOps.Orchestration.ReadyTypes
import CreditOps.Library.Transition

/-!
# What the gateway's answer can change

The planner hands untrusted proposals to the scheduler. Two executions that differ in nothing but the
gateway's answer create the same tasks with the same dependencies: the plans hold the same types
(`plan_noninterference`), a step is scheduled by its type alone (`scheduleAll`), and creating tasks of
different types commutes up to the order of the rows (`createTask_comm`).

The answer does show in the plans. The priority of a step is the proposed one where there is a proposal
and the canonical one otherwise, and the plan says where it comes from (`proposal_shows`).
-/

set_option autoImplicit false

namespace CreditOps.Orchestration

open Transition

/-! ## Tables up to the order of their rows -/

/-- The tables without the rows a task write adds. -/
def CaseTables.withoutWork (tables : CaseTables) : CaseTables :=
  { tables with tasks := [], dependencies := [], outbox := [] }

/-- The same tables, with tasks, dependencies and outbox events in another order. -/
structure SameUpToOrder (tables tables' : CaseTables) : Prop where
  tasks : tables.tasks.Perm tables'.tasks
  dependencies : tables.dependencies.Perm tables'.dependencies
  outbox : tables.outbox.Perm tables'.outbox
  rest : tables.withoutWork = tables'.withoutWork

namespace SameUpToOrder

variable {tables tables' tables'' : CaseTables}

theorem refl (tables : CaseTables) : SameUpToOrder tables tables :=
  ⟨List.Perm.refl _, List.Perm.refl _, List.Perm.refl _, rfl⟩

theorem trans (h : SameUpToOrder tables tables') (h' : SameUpToOrder tables' tables'') :
    SameUpToOrder tables tables'' where
  tasks := h.tasks.trans h'.tasks
  dependencies := h.dependencies.trans h'.dependencies
  outbox := h.outbox.trans h'.outbox
  rest := h.rest.trans h'.rest

theorem keyFree_eq (h : SameUpToOrder tables tables') (key : TaskKey) :
    tables'.keyFree key = tables.keyFree key :=
  h.tasks.all_eq.symm

theorem createTask (h : SameUpToOrder tables tables') (taskId : Uuid) (caseVersion : CaseVersion)
    (taskType : TaskType) (key : TaskKey) (now : Timestamp) (dependsOn : List Uuid) :
    SameUpToOrder (tables.createTask taskId caseVersion taskType key now dependsOn)
      (tables'.createTask taskId caseVersion taskType key now dependsOn) := by
  unfold CaseTables.createTask
  rw [h.keyFree_eq]
  split
  · exact ⟨h.tasks.append_right _, h.dependencies.append_left _, h.outbox.cons _, h.rest⟩
  · exact h

end SameUpToOrder

/-! ## Scheduling a whole plan -/

variable {tables : CaseTables} {taskId : Uuid} {caseVersion : CaseVersion} {taskType : TaskType}
  {key : TaskKey} {now : Timestamp} {dependsOn : List Uuid}

theorem CaseTables.keyFree_createTask {other : TaskKey} (hne : other ≠ key) :
    (tables.createTask taskId caseVersion taskType key now dependsOn).keyFree other =
      tables.keyFree other := by
  unfold CaseTables.createTask
  split
  · simp only [CaseTables.keyFree, List.all_append, List.all_cons, List.all_nil, Bool.and_true,
      ne_eq, hne.symm, not_false_eq_true, decide_true]
  · rfl

theorem CaseTables.createTask_of_free (h : tables.keyFree key = true) :
    tables.createTask taskId caseVersion taskType key now dependsOn =
      { tables with
        tasks := tables.tasks ++
          [⟨taskId, caseVersion, none, taskType, .pending, 0, 3, now, none, key⟩]
        dependencies := dependsOn.map (fun dependency => (taskId, dependency)) ++
          tables.dependencies
        outbox := ⟨taskId, caseVersion, taskType, none, 0, none⟩ :: tables.outbox } :=
  if_pos h

theorem CaseTables.createTask_of_taken (h : tables.keyFree key = false) :
    tables.createTask taskId caseVersion taskType key now dependsOn = tables :=
  if_neg (by rw [h]; exact Bool.false_ne_true)

theorem CaseTables.keyFree_createTask_self :
    (tables.createTask taskId caseVersion taskType key now dependsOn).keyFree key = false := by
  cases h : tables.keyFree key with
  | false => rwa [createTask_of_taken h]
  | true => simp [createTask_of_free h, keyFree]

namespace AdvanceRun

/-- The loop body of `_schedule` for a type, with the id drawn for it. Neither the priority nor the
rationale of the step plays a part. -/
def createStep (run : AdvanceRun) (template : DependencyTemplate) (idOf : TaskType → Uuid)
    (now : Timestamp) (tables : CaseTables) (taskType : TaskType) : CaseTables :=
  tables.createTask (idOf taskType) run.snapshot.caseVersion taskType
    (.orch run.snapshot.caseVersion taskType) now (run.dependsOn template taskType)

/-- `_schedule`: the types of the plan, one after the other. -/
def scheduleAll (run : AdvanceRun) (template : DependencyTemplate) (idOf : TaskType → Uuid)
    (now : Timestamp) (tables : CaseTables) (types : List TaskType) : CaseTables :=
  types.foldl (run.createStep template idOf now) tables

variable {run : AdvanceRun} {template : DependencyTemplate} {idOf : TaskType → Uuid}
  {now : Timestamp} {tables tables' : CaseTables}

/-- **Creating the tasks of two types commutes**, up to the order of the rows. -/
theorem createStep_comm (tables : CaseTables) (a b : TaskType) :
    SameUpToOrder
      (run.createStep template idOf now (run.createStep template idOf now tables a) b)
      (run.createStep template idOf now (run.createStep template idOf now tables b) a) := by
  by_cases hab : a = b
  · subst hab
    exact SameUpToOrder.refl _
  · have hkey : TaskKey.orch run.snapshot.caseVersion a ≠ .orch run.snapshot.caseVersion b := by
      intro h
      cases h
      exact hab rfl
    have hfreeB : (run.createStep template idOf now tables a).keyFree
        (.orch run.snapshot.caseVersion b) = tables.keyFree (.orch run.snapshot.caseVersion b) :=
      CaseTables.keyFree_createTask hkey.symm
    have hfreeA : (run.createStep template idOf now tables b).keyFree
        (.orch run.snapshot.caseVersion a) = tables.keyFree (.orch run.snapshot.caseVersion a) :=
      CaseTables.keyFree_createTask hkey
    unfold createStep at hfreeA hfreeB ⊢
    cases ha : tables.keyFree (.orch run.snapshot.caseVersion a) with
    | false =>
      rw [ha] at hfreeA
      rw [CaseTables.createTask_of_taken ha, CaseTables.createTask_of_taken hfreeA]
      exact SameUpToOrder.refl _
    | true =>
      cases hb : tables.keyFree (.orch run.snapshot.caseVersion b) with
      | false =>
        rw [hb] at hfreeB
        rw [CaseTables.createTask_of_taken hfreeB, CaseTables.createTask_of_taken hb]
        exact SameUpToOrder.refl _
      | true =>
        rw [ha] at hfreeA
        rw [hb] at hfreeB
        rw [CaseTables.createTask_of_free hfreeB, CaseTables.createTask_of_free hfreeA,
          CaseTables.createTask_of_free ha, CaseTables.createTask_of_free hb]
        refine ⟨?_, ?_, List.Perm.swap _ _ _, rfl⟩
        · simp only [List.append_assoc]
          exact List.Perm.append_left _ (List.Perm.swap _ _ _)
        · simp only [← List.append_assoc]
          exact List.Perm.append_right _ List.perm_append_comm

theorem createStep_congr (h : SameUpToOrder tables tables') (taskType : TaskType) :
    SameUpToOrder (run.createStep template idOf now tables taskType)
      (run.createStep template idOf now tables' taskType) :=
  h.createTask ..

theorem scheduleAll_congr (types : List TaskType) (h : SameUpToOrder tables tables') :
    SameUpToOrder (run.scheduleAll template idOf now tables types)
      (run.scheduleAll template idOf now tables' types) := by
  induction types generalizing tables tables' with
  | nil => exact h
  | cons taskType _ ih => exact ih (createStep_congr h taskType)

/-- **A plan in another order** leaves the same tables, up to the order of the rows. -/
theorem scheduleAll_perm {types types' : List TaskType} (hperm : types.Perm types')
    (tables : CaseTables) :
    SameUpToOrder (run.scheduleAll template idOf now tables types)
      (run.scheduleAll template idOf now tables types') := by
  induction hperm generalizing tables with
  | nil => exact SameUpToOrder.refl _
  | cons _ _ ih => exact ih _
  | swap a b types => exact scheduleAll_congr types (createStep_comm tables b a)
  | trans _ _ ih₁ ih₂ => exact (ih₁ tables).trans (ih₂ tables)

variable {run' : AdvanceRun}

/-- Once a type is scheduled its key is taken. -/
theorem keyFree_scheduleAll {types : List TaskType}
    (h : taskType ∈ types ∨ tables.keyFree (.orch run.snapshot.caseVersion taskType) = false) :
    (run.scheduleAll template idOf now tables types).keyFree
      (.orch run.snapshot.caseVersion taskType) = false := by
  induction types generalizing tables with
  | nil => exact h.resolve_left List.not_mem_nil
  | cons first rest ih =>
    by_cases hfirst : taskType = first
    · subst hfirst
      exact ih (Or.inr CaseTables.keyFree_createTask_self)
    · refine ih ((h.imp_left (List.mem_of_ne_of_mem hfirst)).imp_right fun htaken => ?_)
      have hkey : TaskKey.orch run.snapshot.caseVersion taskType ≠
          .orch run.snapshot.caseVersion first := by
        rintro ⟨⟩
        exact hfirst rfl
      exact (CaseTables.keyFree_createTask hkey).trans htaken

/-- **A plan scheduled again adds nothing.** Of two executions at one version of the case, the second
creates no task of a type that the first has scheduled, whatever it has seen and whatever ids it draws. -/
theorem scheduleAll_again {types again : List TaskType} {template' : DependencyTemplate}
    {idOf' : TaskType → Uuid} {now' : Timestamp}
    (hversion : run'.snapshot.caseVersion = run.snapshot.caseVersion) (hagain : again ⊆ types) :
    run'.scheduleAll template' idOf' now' (run.scheduleAll template idOf now tables types) again =
      run.scheduleAll template idOf now tables types := by
  induction again with
  | nil => rfl
  | cons taskType rest ih =>
    obtain ⟨hmem, hrest⟩ := List.cons_subset.1 hagain
    have hsame : run'.createStep template' idOf' now' (run.scheduleAll template idOf now tables types)
        taskType = run.scheduleAll template idOf now tables types := by
      unfold createStep
      rw [hversion]
      exact CaseTables.createTask_of_taken (keyFree_scheduleAll (Or.inl hmem))
    rw [scheduleAll, List.foldl_cons, hsame]
    exact ih hrest

/-- A case with nothing in it. -/
def newCase : CaseTables := ⟨1, 1, [], [], [], [], [], [], []⟩

/-- An execution that has one step to schedule. -/
def oneStep : AdvanceRun :=
  { load newCase with pendingSteps := some [⟨.legalComplianceCollateral, 1, "r"⟩] }

theorem oneStep_again :
    let tables := oneStep.scheduleAll .canonical (fun _ => 9) 5 newCase [.legalComplianceCollateral]
    oneStep.scheduleAll .canonical (fun _ => 7) 6 tables [.legalComplianceCollateral] = tables :=
  scheduleAll_again rfl (List.Subset.refl _)

theorem dependsOn_eq (h : run'.snapshot = run.snapshot) :
    run'.dependsOn template = run.dependsOn template := by
  funext taskType
  unfold dependsOn currentTaskId
  rw [h]

theorem createStep_eq (h : run'.snapshot = run.snapshot) :
    run'.createStep template idOf now = run.createStep template idOf now := by
  funext tables taskType
  rw [createStep, createStep, dependsOn_eq h, h]

/-- What the plan asks for: the types with the dependencies recorded for them. -/
def work (run : AdvanceRun) (template : DependencyTemplate) (plan : Plan) :
    List (TaskType × List Uuid) :=
  plan.steps.map fun step => (step.taskType, run.dependsOn template step.taskType)

theorem work_eq_map (run : AdvanceRun) (template : DependencyTemplate) (plan : Plan) :
    run.work template plan =
      plan.taskTypes.map fun taskType => (taskType, run.dependsOn template taskType) := by
  rw [work, Plan.taskTypes, List.map_map]
  rfl

end AdvanceRun

/-! ## The engine schedules a plan -/

/-- The transactions that schedule a plan, each under the id drawn for its type. -/
def scheduleRequests (executionId : Uuid) (idOf : TaskType → Uuid) (now : Timestamp)
    (steps : List PlanStep) : List EngineRequest :=
  steps.map fun step => .advanceSchedule executionId (idOf step.taskType) now

/-- **The turns of an execution amount to `_schedule`** when nothing commits in between. -/
theorem Engine.run_scheduleRequests {executionId : Uuid} {idOf : TaskType → Uuid} {steps : List PlanStep}
    {e : Engine} {run : AdvanceRun} (hrun : e.advances executionId = some run)
    (hsteps : run.pendingSteps = some steps) :
    ∃ e', Transition.run Engine.step e (scheduleRequests executionId idOf now steps) = some e' ∧
      e'.tables =
        run.scheduleAll .canonical idOf now e.tables (steps.map (·.taskType)) := by
  induction steps generalizing e run with
  | nil => exact ⟨e, rfl, rfl⟩
  | cons step steps ih =>
    -- one turn writes the task of the step and keeps the rest of the plan
    let next : AdvanceRun :=
      { run with
        pendingSteps := some steps
        createdTaskIds :=
          if e.tables.keyFree (.orch run.snapshot.caseVersion step.taskType) then
            run.createdTaskIds ++ [idOf step.taskType]
          else run.createdTaskIds }
    have hturn : run.schedule .canonical e.tables (idOf step.taskType) now =
        some (run.createStep .canonical idOf now e.tables step.taskType, next) := by
      unfold AdvanceRun.schedule
      rw [hsteps]
      rfl
    obtain ⟨e', hrest, htabs⟩ := ih
      (e := ⟨run.createStep .canonical idOf now e.tables step.taskType,
        Function.update e.advances executionId (some next)⟩)
      (Function.update_self executionId (some next) e.advances) rfl
    refine ⟨e', run_cons_eq_some.2 ⟨_, ?_, hrest⟩, ?_⟩
    · simp only [Engine.step, hrun, Option.bind_some, hturn, Option.map_some]
    · have hsnap : next.snapshot = run.snapshot := rfl
      rw [htabs, AdvanceRun.scheduleAll, AdvanceRun.createStep_eq hsnap]
      rfl

open AdvanceRun in
theorem oneStep_scheduled : ∃ e', Transition.run Engine.step ⟨newCase, fun _ => some oneStep⟩
      (scheduleRequests 0 (fun _ => 9) 5 [⟨.legalComplianceCollateral, 1, "r"⟩]) = some e' ∧
    e'.tables = oneStep.scheduleAll .canonical (fun _ => 9) 5 newCase [.legalComplianceCollateral] :=
  Engine.run_scheduleRequests rfl rfl

/-! ## Two answers -/

/-- **The gateway cannot change what is scheduled.** Whatever it answers, the plan holds exactly the
ready types, each once, with the same dependencies, and scheduling it leaves the same tables up to the
order of their rows. -/
theorem plan_noninterference {report : ReadinessReport} (hone : report.OnePerType)
    (template : DependencyTemplate) (answer₁ answer₂ : GatewayAnswer) :
    let plan₁ := (plan report template answer₁).plan
    let plan₂ := (plan report template answer₂).plan
    plan₁.taskTypes.Perm plan₂.taskTypes ∧
      plan₁.taskTypes.Nodup ∧ (∀ taskType, taskType ∈ plan₁.taskTypes ↔ taskType ∈ report.readyTypes) ∧
      ∀ run : AdvanceRun, (run.work template plan₁).Perm (run.work template plan₂) ∧
        ∀ idOf now tables, SameUpToOrder
          (run.scheduleAll template idOf now tables plan₁.taskTypes)
          (run.scheduleAll template idOf now tables plan₂.taskTypes) := by
  intro plan₁ plan₂
  have hready₁ : plan₁.taskTypes.Perm report.readyTypes := plan_perm_readyTypes report template answer₁
  have hready₂ : plan₂.taskTypes.Perm report.readyTypes := plan_perm_readyTypes report template answer₂
  have hsame : plan₁.taskTypes.Perm plan₂.taskTypes := hready₁.trans hready₂.symm
  refine ⟨hsame, hready₁.nodup_iff.2 hone.readyTypes_nodup, fun _ => hready₁.mem_iff, ?_⟩
  intro run
  constructor
  · rw [AdvanceRun.work_eq_map, AdvanceRun.work_eq_map]
    exact hsame.map _
  · intro idOf now tables
    exact AdvanceRun.scheduleAll_perm hsame tables

/-- Both makers are ready: the intake is complete and no task is there. -/
def makersReady : OrchestrationSnapshot where
  caseId := 1
  caseVersion := 1
  hasIntakeHandoff := true
  tasks := []
  gates := [⟨.g1IntakeComplete, 1, .satisfied, none, none, some 0⟩]
  blockingGaps := []

theorem makersReady_noninterference :
    (plan (evaluateReadiness makersReady .canonical) .canonical
        (.payload [⟨.legalComplianceCollateral, 1, by decide⟩])).plan.taskTypes.Perm
      (plan (evaluateReadiness makersReady .canonical) .canonical
        (.unavailable "timeout")).plan.taskTypes :=
  (plan_noninterference (evaluateReadiness_onePerType makersReady (by decide)) .canonical
    (.payload [⟨.legalComplianceCollateral, 1, by decide⟩]) (.unavailable "timeout")).1

/-! ## What the answer shows in -/

/-- The plans differ in nothing but the order of the steps and their rationale. -/
def Plan.SameButRationale (plan plan' : Plan) : Prop :=
  (plan.steps.map fun step => (step.taskType, step.priority)).Perm
      (plan'.steps.map fun step => (step.taskType, step.priority)) ∧
    plan.source = plan'.source

instance (plan plan' : Plan) : Decidable (plan.SameButRationale plan') :=
  inferInstanceAs (Decidable (List.Perm _ _ ∧ _))

theorem proposal_shows :
    ¬ ∀ (report : ReadinessReport) (template : DependencyTemplate) (answer₁ answer₂ : GatewayAnswer),
      report.OnePerType →
        (plan report template answer₁).plan.SameButRationale
          (plan report template answer₂).plan := by
  intro h
  exact absurd
    (h (evaluateReadiness makersReady .canonical) .canonical
      (.payload [⟨.legalComplianceCollateral, 1, by decide⟩]) (.unavailable "timeout") (by decide))
    (by decide)

end CreditOps.Orchestration
