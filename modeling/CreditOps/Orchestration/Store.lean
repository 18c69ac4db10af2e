import CreditOps.Orchestration.Planner
import CreditOps.Orchestration.Gates

/-!
# The orchestration tables of one case

The rows the engine reads and writes, all keyed by the case and, within it, by case version. Each
function here is one transaction of the orchestration repository: `loadSnapshot` reads, `ensureGate`
inserts an open gate if there is none and satisfies only an open one, and `createTask` inserts a task
together with its outbox event unless the idempotency key is taken.
-/

set_option autoImplicit false

namespace CreditOps.Orchestration

/-! ## Rows -/

/-- The case-scoped idempotency keys of agent tasks, by the parts the source joins with colons:
`ORCH:case:version:type` and `ORCH-PLAN:case:version[:trigger]`. -/
inductive TaskKey where
  | orch (caseVersion : CaseVersion) (taskType : TaskType)
  | orchPlan (caseVersion : CaseVersion) (triggerRef : Option String)
  | ingestion (documentVersionId : Uuid)
deriving DecidableEq

/-- One row of `processing_tasks`. The lease columns are set together or not at all. -/
structure ProcessingTask where
  id : Uuid
  caseVersion : CaseVersion
  documentVersionId : Option Uuid
  taskType : TaskType
  status : TaskStatus
  attemptCount : Nat
  maxAttempts : Nat
  availableAt : Timestamp
  lease : Option (Uuid × Timestamp)
  idempotencyKey : TaskKey
deriving DecidableEq

/-- One row of `handoffs`, with the revision note merged into its data. -/
structure Handoff where
  id : Uuid
  caseVersion : CaseVersion
  sourceTaskId : Uuid
  state : String
  staleAt : Option Timestamp
  reissuedFromVersion : Option CaseVersion
deriving DecidableEq

/-- `READY_FOR_SPECIALIST_REVIEW`, the state of an intake handoff. -/
def readyForSpecialistReview : String := "READY_FOR_SPECIALIST_REVIEW"

/-- One row of `evidence_gaps`. -/
structure EvidenceGap where
  id : Uuid
  caseVersion : CaseVersion
  affectedTaskId : Uuid
  status : GapStatus
  blockingLevel : GapBlockingLevel
  missingInformationVi : String
  suggestedEvidenceVi : List String
deriving DecidableEq

/-- A gap a maker or the checker found, as it is persisted. -/
structure FoundGap where
  id : Uuid
  blockingLevel : GapBlockingLevel
  missingInformationVi : String
  suggestedEvidenceVi : List String
deriving DecidableEq

/-- One `TASK_READY` row of `outbox_events`: the envelope it publishes, and its dispatch state. -/
structure OutboxEvent where
  taskId : Uuid
  caseVersion : CaseVersion
  taskType : TaskType
  documentVersionId : Option Uuid
  dispatchAttempts : Nat
  dispatchedAt : Option Timestamp
deriving DecidableEq

/-- The audit events of the orchestrator. -/
inductive OrchestrationAudit where
  | caseVersionBumped (previousVersion newVersion : CaseVersion) (reason dispositionRef : String)
      (actorId : Option Uuid)
  | orchestrationKickoff (caseVersion : CaseVersion) (taskId : Uuid)
  | orchestrationAdvanced (caseVersion : CaseVersion) (createdTaskIds : List Uuid)
deriving DecidableEq

/-- The orchestration tables of one case. Tasks stand in `created_at` order, newest last; the other
appended rows stand newest first. -/
structure CaseTables where
  caseId : Uuid
  caseVersion : CaseVersion
  handoffs : List Handoff
  tasks : List ProcessingTask
  dependencies : List (Uuid × Uuid)
  gates : List GateRecord
  gaps : List EvidenceGap
  outbox : List OutboxEvent
  audit : List OrchestrationAudit
deriving DecidableEq

namespace CaseTables

/-! ## Reads -/

/-- A live intake handoff exists at the version. -/
def hasIntakeHandoff (tables : CaseTables) (caseVersion : CaseVersion) : Bool :=
  tables.handoffs.any fun handoff =>
    handoff.caseVersion = caseVersion ∧ handoff.state = readyForSpecialistReview ∧
      handoff.staleAt = none

/-- The open gaps of a version. -/
def openGaps (tables : CaseTables) (caseVersion : CaseVersion) : List EvidenceGap :=
  tables.gaps.filter fun gap => gap.caseVersion = caseVersion ∧ gap.status.isOpen

/-- `load_snapshot` -/
def loadSnapshot (tables : CaseTables) : OrchestrationSnapshot where
  caseId := tables.caseId
  caseVersion := tables.caseVersion
  hasIntakeHandoff := tables.hasIntakeHandoff tables.caseVersion
  tasks :=
    (tables.tasks.filter (·.taskType ≠ .documentIngestion)).map fun task =>
      ⟨task.id, task.taskType, task.caseVersion, task.status⟩
  gates := tables.gates.filter (·.caseVersion = tables.caseVersion)
  blockingGaps :=
    (tables.openGaps tables.caseVersion).map fun gap =>
      ⟨gap.id, gap.affectedTaskId, gap.blockingLevel⟩

/-! ## Gates -/

/-- The row is the gate of this version and type. -/
def isGate (caseVersion : CaseVersion) (gateType : GateType) (gate : GateRecord) : Bool :=
  gate.caseVersion = caseVersion ∧ gate.gateType = gateType

/-- The stored gate row of a version; the key is unique. -/
def gate? (tables : CaseTables) (caseVersion : CaseVersion) (gateType : GateType) :
    Option GateRecord :=
  tables.gates.find? (isGate caseVersion gateType)

/-- What the update of an open gate writes. -/
def satisfyGate (now : Timestamp) (actorId : Option Uuid) (dispositionRef : Option String)
    (gate : GateRecord) : GateRecord :=
  { gate with
    status := .satisfied
    satisfiedByActorId := actorId
    dispositionRef
    satisfiedAt := some now }

/-- `insert … on conflict do nothing` of an open gate. -/
def insertGate (tables : CaseTables) (caseVersion : CaseVersion) (gateType : GateType) :
    CaseTables :=
  match tables.gate? caseVersion gateType with
  | some _ => tables
  | none => { tables with gates := GateRecord.opened gateType caseVersion :: tables.gates }

/-- `update … where status = 'OPEN'` -/
def satisfyOpenGate (tables : CaseTables) (caseVersion : CaseVersion) (gateType : GateType)
    (now : Timestamp) (actorId : Option Uuid) (dispositionRef : Option String) : CaseTables :=
  { tables with
    gates := tables.gates.map fun gate =>
      if isGate caseVersion gateType gate ∧ gate.status = .opened then
        satisfyGate now actorId dispositionRef gate
      else gate }

/-- `ensure_gate`: the tables after it; the row it returns is read back with `gate?`. -/
def ensureGate (tables : CaseTables) (caseVersion : CaseVersion) (gateType : GateType)
    (status : GateStatus) (now : Timestamp) (actorId : Option Uuid)
    (dispositionRef : Option String) : CaseTables :=
  let inserted := tables.insertGate caseVersion gateType
  match status with
  | .opened => inserted
  | .satisfied => inserted.satisfyOpenGate caseVersion gateType now actorId dispositionRef

/-- The gate of a version is stored as satisfied. -/
def GateSatisfied (tables : CaseTables) (caseVersion : CaseVersion) (gateType : GateType) : Prop :=
  ∃ gate ∈ tables.gates, isGate caseVersion gateType gate = true ∧ gate.status = .satisfied

instance (tables : CaseTables) (caseVersion : CaseVersion) (gateType : GateType) :
    Decidable (tables.GateSatisfied caseVersion gateType) :=
  inferInstanceAs (Decidable (∃ gate ∈ tables.gates, _))

/-! ## Tasks -/

/-- Whether the key is free for this case. -/
def keyFree (tables : CaseTables) (key : TaskKey) : Bool :=
  tables.tasks.all (·.idempotencyKey ≠ key)

/-- `create_task`: the task, its dependencies and its outbox event, unless the key is taken. A new
agent task has three attempts and no document scope. -/
def createTask (tables : CaseTables) (taskId : Uuid) (caseVersion : CaseVersion)
    (taskType : TaskType) (key : TaskKey) (now : Timestamp) (dependsOn : List Uuid) : CaseTables :=
  if tables.keyFree key then
    { tables with
      tasks := tables.tasks ++
        [{ id := taskId
           caseVersion
           documentVersionId := none
           taskType
           status := .pending
           attemptCount := 0
           maxAttempts := 3
           availableAt := now
           lease := none
           idempotencyKey := key }]
      dependencies := dependsOn.map (fun dependency => (taskId, dependency)) ++ tables.dependencies
      outbox :=
        { taskId
          caseVersion
          taskType
          documentVersionId := none
          dispatchAttempts := 0
          dispatchedAt := none } :: tables.outbox }
  else tables

/-! ## Gaps -/

/-- The gap rows of an assessment: provisional, attached to the task that found them. -/
def addGaps (tables : CaseTables) (caseVersion : CaseVersion) (taskId : Uuid)
    (gaps : List FoundGap) : CaseTables :=
  { tables with
    gaps :=
      gaps.map (fun gap =>
        { id := gap.id
          caseVersion
          affectedTaskId := taskId
          status := .provisional
          blockingLevel := gap.blockingLevel
          missingInformationVi := gap.missingInformationVi
          suggestedEvidenceVi := gap.suggestedEvidenceVi }) ++ tables.gaps }

/-! ## Audit -/

/-- `append_audit` -/
def appendAudit (tables : CaseTables) (event : OrchestrationAudit) : CaseTables :=
  { tables with audit := event :: tables.audit }

/-! ## What the gate write does -/

section EnsureGate

variable {tables : CaseTables} {caseVersion : CaseVersion} {gateType : GateType}

variable {gate : GateRecord}

theorem isGate_iff :
    isGate caseVersion gateType gate = true ↔
      gate.caseVersion = caseVersion ∧ gate.gateType = gateType := by
  simp only [isGate, Bool.decide_and, Bool.and_eq_true, decide_eq_true_eq]

@[simp] theorem isGate_satisfyGate (now : Timestamp) (actorId : Option Uuid)
    (dispositionRef : Option String) (gate : GateRecord) :
    isGate caseVersion gateType (satisfyGate now actorId dispositionRef gate) =
      isGate caseVersion gateType gate := rfl

variable {v : CaseVersion} {g : GateType}

theorem gateSatisfied_insertGate_iff (tables : CaseTables) (caseVersion : CaseVersion)
    (gateType : GateType) :
    (tables.insertGate caseVersion gateType).GateSatisfied v g ↔ tables.GateSatisfied v g := by
  unfold insertGate GateSatisfied
  cases tables.gate? caseVersion gateType with
  | some => exact Iff.rfl
  | none =>
    simp only [List.mem_cons, exists_eq_or_imp, GateRecord.opened, reduceCtorEq, and_false,
      false_or]

variable {now : Timestamp} {actorId : Option Uuid} {dispositionRef : Option String}

theorem gateSatisfied_satisfyOpenGate_of (h : tables.GateSatisfied v g) :
    (tables.satisfyOpenGate caseVersion gateType now actorId dispositionRef).GateSatisfied v g := by
  obtain ⟨gate, hmem, hgate, hstat⟩ := h
  refine ⟨gate, List.mem_map.2 ⟨gate, hmem, ?_⟩, hgate, hstat⟩
  rw [if_neg]
  rintro ⟨-, hopen⟩
  rw [hstat] at hopen
  cases hopen

theorem gateSatisfied_of_satisfyOpenGate
    (h : (tables.satisfyOpenGate caseVersion gateType now actorId dispositionRef).GateSatisfied v g) :
    tables.GateSatisfied v g ∨ (v = caseVersion ∧ g = gateType) := by
  obtain ⟨_, hmem, hgate, hstat⟩ := h
  obtain ⟨gate, hold, rfl⟩ := List.mem_map.1 hmem
  by_cases hmatch : isGate caseVersion gateType gate = true ∧ gate.status = .opened
  · rw [if_pos hmatch, isGate_satisfyGate] at hgate
    obtain ⟨hver, htype⟩ := isGate_iff.1 hgate
    obtain ⟨hver', htype'⟩ := isGate_iff.1 hmatch.1
    exact Or.inr ⟨hver.symm.trans hver', htype.symm.trans htype'⟩
  · rw [if_neg hmatch] at hgate hstat
    exact Or.inl ⟨gate, hold, hgate, hstat⟩

variable {status : GateStatus}

/-- **A satisfied gate stays satisfied** under every gate write. -/
theorem gateSatisfied_ensureGate_of (h : tables.GateSatisfied v g) :
    (tables.ensureGate caseVersion gateType status now actorId dispositionRef).GateSatisfied v g := by
  have hinserted := (gateSatisfied_insertGate_iff tables caseVersion gateType).2 h
  cases status with
  | opened => exact hinserted
  | satisfied => exact gateSatisfied_satisfyOpenGate_of hinserted

/-- **A gate write satisfies at most the gate it is asked to satisfy.** -/
theorem gateSatisfied_of_ensureGate
    (h : (tables.ensureGate caseVersion gateType status now actorId dispositionRef).GateSatisfied v g) :
    tables.GateSatisfied v g ∨ (status = .satisfied ∧ v = caseVersion ∧ g = gateType) := by
  cases status with
  | opened => exact Or.inl ((gateSatisfied_insertGate_iff _ _ _).1 h)
  | satisfied =>
    rcases gateSatisfied_of_satisfyOpenGate h with hold | hnew
    · exact Or.inl ((gateSatisfied_insertGate_iff _ _ _).1 hold)
    · exact Or.inr ⟨rfl, hnew⟩

/-- A satisfied row is immutable: every gate write keeps it. -/
theorem mem_gates_ensureGate_of_satisfied (hmem : gate ∈ tables.gates) (hgate : gate.status = .satisfied) :
    gate ∈ (tables.ensureGate caseVersion gateType status now actorId dispositionRef).gates := by
  have hinserted : gate ∈ (tables.insertGate caseVersion gateType).gates := by
    unfold insertGate
    cases tables.gate? caseVersion gateType with
    | some => exact hmem
    | none => exact List.mem_cons_of_mem _ hmem
  cases status with
  | opened => exact hinserted
  | satisfied =>
    refine List.mem_map.2 ⟨gate, hinserted, if_neg ?_⟩
    rintro ⟨-, hopen⟩
    rw [hgate] at hopen
    cases hopen

/-- **An open gate is satisfied with the reference it was given.** -/
theorem exists_satisfied_ensureGate (hopen : ¬ tables.GateSatisfied caseVersion gateType)
    (now : Timestamp) (actorId : Option Uuid) (dispositionRef : Option String) :
    ∃ gate ∈ (tables.ensureGate caseVersion gateType .satisfied now actorId dispositionRef).gates,
      isGate caseVersion gateType gate = true ∧ gate.status = .satisfied ∧
        gate.dispositionRef = dispositionRef := by
  obtain ⟨gate, hmem, hgate⟩ : ∃ gate ∈ (tables.insertGate caseVersion gateType).gates,
      isGate caseVersion gateType gate = true := by
    unfold insertGate
    cases hfind : tables.gate? caseVersion gateType with
    | some gate => exact ⟨gate, List.mem_of_find?_eq_some hfind, List.find?_some hfind⟩
    | none =>
      exact ⟨_, List.mem_cons_self, isGate_iff.2 ⟨rfl, rfl⟩⟩
  have hstat : gate.status = .opened := by
    cases h : gate.status with
    | opened => rfl
    | satisfied =>
      exact absurd ((gateSatisfied_insertGate_iff _ _ _).1 ⟨gate, hmem, hgate, h⟩) hopen
  refine ⟨satisfyGate now actorId dispositionRef gate, List.mem_map.2 ⟨gate, hmem, ?_⟩, ?_, rfl, rfl⟩
  · rw [if_pos ⟨hgate, hstat⟩]
  · exact hgate

/-- The unique key of `human_gates`, within the case. -/
def GatesKeyed (tables : CaseTables) : Prop :=
  (tables.gates.map fun gate => (gate.caseVersion, gate.gateType)).Nodup

theorem GatesKeyed.eq_of_isGate (h : tables.GatesKeyed) {other : GateRecord}
    (hgate : gate ∈ tables.gates) (hother : other ∈ tables.gates)
    (hisGate : isGate caseVersion gateType gate = true)
    (hisOther : isGate caseVersion gateType other = true) : gate = other := by
  obtain ⟨hver, htype⟩ := isGate_iff.1 hisGate
  obtain ⟨hver', htype'⟩ := isGate_iff.1 hisOther
  apply List.inj_on_of_nodup_map h hgate hother
  rw [hver, htype, hver', htype']

theorem GatesKeyed.insertGate (h : tables.GatesKeyed) :
    (tables.insertGate caseVersion gateType).GatesKeyed := by
  unfold CaseTables.insertGate
  cases hfind : tables.gate? caseVersion gateType with
  | some => exact h
  | none =>
    refine List.nodup_cons.2 ⟨?_, h⟩
    intro hmem
    obtain ⟨gate, hgate, hkey⟩ := List.mem_map.1 hmem
    obtain ⟨hver, htype⟩ := Prod.mk.inj hkey
    exact (List.find?_eq_none.1 hfind) gate hgate (isGate_iff.2 ⟨hver, htype⟩)

/-- **Every gate write keeps the key unique.** -/
theorem GatesKeyed.ensureGate (h : tables.GatesKeyed) (status : GateStatus) (now : Timestamp)
    (actorId : Option Uuid) (dispositionRef : Option String) :
    (tables.ensureGate caseVersion gateType status now actorId dispositionRef).GatesKeyed := by
  have hinserted : (tables.insertGate caseVersion gateType).GatesKeyed := h.insertGate
  cases status with
  | opened => exact hinserted
  | satisfied =>
    have hsame : ((tables.insertGate caseVersion gateType).satisfyOpenGate caseVersion gateType now
        actorId dispositionRef).gates.map (fun gate => (gate.caseVersion, gate.gateType)) =
        (tables.insertGate caseVersion gateType).gates.map
          fun gate => (gate.caseVersion, gate.gateType) := by
      rw [satisfyOpenGate, List.map_map]
      apply List.map_congr_left
      intro gate _
      simp only [Function.comp_apply]
      split <;> rfl
    change (((tables.insertGate caseVersion gateType).satisfyOpenGate caseVersion gateType now
      actorId dispositionRef).gates.map fun gate => (gate.caseVersion, gate.gateType)).Nodup
    rw [hsame]
    exact hinserted

/-- **Where a satisfied row comes from.** It was satisfied before the write, or the write satisfied it
for the actor and with the reference it was given, and the gate was not satisfied before. -/
theorem mem_ensureGate_satisfied (hkeyed : tables.GatesKeyed)
    (hmem : gate ∈ (tables.ensureGate caseVersion gateType status now actorId dispositionRef).gates)
    (hstat : gate.status = .satisfied) :
    gate ∈ tables.gates ∨
      (status = .satisfied ∧ isGate caseVersion gateType gate = true ∧
        gate.satisfiedByActorId = actorId ∧ gate.dispositionRef = dispositionRef ∧
        ¬ tables.GateSatisfied caseVersion gateType) := by
  have hinserted : ∀ row ∈ (tables.insertGate caseVersion gateType).gates,
      row.status = .satisfied → row ∈ tables.gates := by
    intro row hrow hrowStatus
    unfold CaseTables.insertGate at hrow
    split at hrow
    · exact hrow
    · rcases List.mem_cons.1 hrow with rfl | hold
      · cases hrowStatus
      · exact hold
  cases status with
  | opened => exact Or.inl (hinserted gate hmem hstat)
  | satisfied =>
    obtain ⟨row, hrow, hwritten⟩ := List.mem_map.1 hmem
    by_cases hmatch : isGate caseVersion gateType row = true ∧ row.status = .opened
    · rw [if_pos hmatch] at hwritten
      subst hwritten
      refine Or.inr ⟨rfl, hmatch.1, rfl, rfl, ?_⟩
      intro hsat
      -- a satisfied row of the gate would be the open one
      obtain ⟨_, hother, hisOther, hotherStatus⟩ :=
        (gateSatisfied_insertGate_iff tables caseVersion gateType).2 hsat
      have hsame := hkeyed.insertGate.eq_of_isGate hother hrow hisOther hmatch.1
      rw [hsame, hmatch.2] at hotherStatus
      cases hotherStatus
    · rw [if_neg hmatch] at hwritten
      subst hwritten
      exact Or.inl (hinserted row hrow hstat)

theorem ensureGate_frame (tables : CaseTables) (caseVersion : CaseVersion) (gateType : GateType)
    (status : GateStatus) (now : Timestamp) (actorId : Option Uuid)
    (dispositionRef : Option String) :
    tables.ensureGate caseVersion gateType status now actorId dispositionRef =
      { tables with
        gates := (tables.ensureGate caseVersion gateType status now actorId dispositionRef).gates } := by
  unfold ensureGate insertGate satisfyOpenGate
  cases tables.gate? caseVersion gateType <;> cases status <;> rfl

end EnsureGate

/-! ## What the task write does -/

variable {tables : CaseTables} {taskId : Uuid} {caseVersion : CaseVersion} {taskType : TaskType}
  {key : TaskKey} {now : Timestamp} {dependsOn : List Uuid}

/-- A task after `create_task` is an old one, or the new one whose key was free. -/
theorem mem_createTask_tasks {task : ProcessingTask}
    (h : task ∈ (tables.createTask taskId caseVersion taskType key now dependsOn).tasks) :
    task ∈ tables.tasks ∨
      (tables.keyFree key = true ∧ task.id = taskId ∧ task.caseVersion = caseVersion ∧
        task.taskType = taskType ∧ task.idempotencyKey = key) := by
  unfold createTask at h
  by_cases hfree : tables.keyFree key = true
  · rw [if_pos hfree] at h
    rcases List.mem_append.1 h with hold | hnew
    · exact Or.inl hold
    · rw [List.mem_singleton] at hnew
      subst hnew
      exact Or.inr ⟨hfree, rfl, rfl, rfl, rfl⟩
  · rw [if_neg hfree] at h
    exact Or.inl h

theorem subset_createTask_tasks :
    tables.tasks ⊆ (tables.createTask taskId caseVersion taskType key now dependsOn).tasks := by
  unfold createTask
  split
  · exact List.subset_append_left _ _
  · exact List.Subset.refl _

@[simp] theorem createTask_gates (tables : CaseTables) (taskId : Uuid) (caseVersion : CaseVersion)
    (taskType : TaskType) (key : TaskKey) (now : Timestamp) (dependsOn : List Uuid) :
    (tables.createTask taskId caseVersion taskType key now dependsOn).gates = tables.gates := by
  unfold createTask
  split <;> rfl

@[simp] theorem createTask_gaps (tables : CaseTables) (taskId : Uuid) (caseVersion : CaseVersion)
    (taskType : TaskType) (key : TaskKey) (now : Timestamp) (dependsOn : List Uuid) :
    (tables.createTask taskId caseVersion taskType key now dependsOn).gaps = tables.gaps := by
  unfold createTask
  split <;> rfl

@[simp] theorem createTask_caseVersion (tables : CaseTables) (taskId : Uuid)
    (caseVersion : CaseVersion) (taskType : TaskType) (key : TaskKey) (now : Timestamp)
    (dependsOn : List Uuid) :
    (tables.createTask taskId caseVersion taskType key now dependsOn).caseVersion =
      tables.caseVersion := by
  unfold createTask
  split <;> rfl

@[simp] theorem createTask_caseId (tables : CaseTables) (taskId : Uuid) (caseVersion : CaseVersion)
    (taskType : TaskType) (key : TaskKey) (now : Timestamp) (dependsOn : List Uuid) :
    (tables.createTask taskId caseVersion taskType key now dependsOn).caseId = tables.caseId := by
  unfold createTask
  split <;> rfl

end CaseTables

end CreditOps.Orchestration
