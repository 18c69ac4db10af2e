import CreditOps.Library.Transition
import CreditOps.Orchestration.Revision

/-!
# Retrying a maker revision

`RequestMakerRevision.execute`, cut at its transactions: the version bump, the snapshot the kickoff
reads, the planning task with its outbox event, and the kickoff's audit row. An execution that fails or
crashes stops between two of them and is never resumed; the caller can only make the same request
again, which opens a new execution.

The second execution is guarded by the version the caller observed, so once the bump has committed it
is refused. What the first execution left out after that stays out: `retryable_iff` says that a stopped
execution can be made good by a retry exactly when it did not stop between the bump and the planning
task.
-/

set_option autoImplicit false

namespace CreditOps.Orchestration

open PartialMap Transition

/-! ## Executions -/

/-- How far an execution has come. -/
inductive RevisionStage where
  | started
  | bumped
  | loaded (caseVersion : CaseVersion)
  | planned (caseVersion : CaseVersion) (taskId : Uuid)
  | finished
  | refused (error : RevisionError)
deriving DecidableEq

/-- One execution of `RequestMakerRevision`. -/
structure RevisionRun where
  request : RevisionRequest
  stage : RevisionStage
deriving DecidableEq

/-- The uuids and the clock reading of one transaction of an execution. -/
structure RevisionDraws where
  handoffId : Uuid
  taskId : Uuid
  now : Timestamp
deriving DecidableEq

namespace RevisionRun

/-- The key of the planning task: `ORCH-PLAN:case:version:REVISE:disposition`. -/
def planKey (request : RevisionRequest) (caseVersion : CaseVersion) : TaskKey :=
  .orchPlan caseVersion (some request.triggerRef)

/-- The next transaction of an execution; `none` once it is over. -/
def advance (run : RevisionRun) (tables : CaseTables) (draws : RevisionDraws) :
    Option (CaseTables × RevisionRun) :=
  match run.stage with
  | .started =>
    match tables.bumpCaseVersion run.request draws.handoffId with
    | .ok bumped => some (bumped, { run with stage := .bumped })
    | .error error => some (tables, { run with stage := .refused error })
  | .bumped => some (tables, { run with stage := .loaded tables.caseVersion })
  | .loaded caseVersion =>
    let key := planKey run.request caseVersion
    some (tables.createTask draws.taskId caseVersion .orchestratorPlan key draws.now [],
      -- the kickoff is audited only when it created the task
      if tables.keyFree key then { run with stage := .planned caseVersion draws.taskId }
      else { run with stage := .finished })
  | .planned caseVersion taskId =>
    some (tables.appendAudit (.orchestrationKickoff caseVersion taskId),
      { run with stage := .finished })
  | .finished | .refused _ => none

/-- A step of an execution that nothing runs beside; an execution that is over stays as it is. -/
def next (draws : RevisionDraws) (state : CaseTables × RevisionRun) : CaseTables × RevisionRun :=
  (state.2.advance state.1 draws).getD state

/-- The tables after an execution that stops after `stop` transactions. -/
def executeUntil (request : RevisionRequest) (draws : RevisionDraws) (stop : Nat)
    (tables : CaseTables) : CaseTables :=
  ((next draws)^[stop] (tables, ⟨request, .started⟩)).1

/-- The tables after an execution that nothing interrupts: four transactions at most. -/
def execute (request : RevisionRequest) (draws : RevisionDraws) (tables : CaseTables) : CaseTables :=
  executeUntil request draws 4 tables

end RevisionRun

/-! ## The system -/

/-- The engine of a case with the maker revisions in flight. -/
structure RevisionSystem where
  engine : Engine
  revisions : Uuid → Option RevisionRun

/-- One transaction. `otherWrites` stands for every transaction of the case that leaves its version and
its tasks alone. -/
inductive RevisionSystemRequest where
  | engine (request : EngineRequest)
  | otherWrites (tables : CaseTables)
  | openRevision (executionId : Uuid) (request : RevisionRequest)
  | advanceRevision (executionId : Uuid) (draws : RevisionDraws)
deriving DecidableEq

namespace RevisionSystem

/-- The step function; `none` for a request that is not at that point or is refused. A crash is an
execution that takes no further step. -/
def step (s : RevisionSystem) : RevisionSystemRequest → Option RevisionSystem
  | .engine request => (s.engine.step request).map fun engine => { s with engine }
  | .otherWrites tables =>
    if tables.tasks = s.engine.tables.tasks ∧ tables.caseVersion = s.engine.tables.caseVersion then
      some { s with engine := { s.engine with tables } }
    else none
  | .openRevision executionId request =>
    match s.revisions executionId with
    | some _ => none
    | none =>
      some { s with
             revisions := Function.update s.revisions executionId (some ⟨request, .started⟩) }
  | .advanceRevision executionId draws =>
    ((s.revisions executionId).bind (·.advance s.engine.tables draws)).map fun p =>
      { engine := { s.engine with tables := p.1 }
        revisions := Function.update s.revisions executionId (some p.2) }

/-- A case handed off by intake, with no revision in flight. -/
def handedOff (caseId handoffId sourceTaskId : Uuid) : RevisionSystem where
  engine := Engine.handedOff caseId handoffId sourceTaskId
  revisions := fun _ => none

end RevisionSystem

/-! ## Nothing is ahead of the case -/

/-- The version an execution has read for its planning task. -/
def RevisionStage.read : RevisionStage → Option CaseVersion
  | .loaded caseVersion => some caseVersion
  | _ => none

/-- Neither the engine nor a revision in flight is ahead of the case. -/
structure RevisionSystem.InPast (s : RevisionSystem) : Prop where
  engine : s.engine.InPast
  read : ∀ executionId run, s.revisions executionId = some run →
    ∀ caseVersion, run.stage.read = some caseVersion → caseVersion ≤ s.engine.tables.caseVersion

theorem RevisionSystem.handedOff_inPast (caseId handoffId sourceTaskId : Uuid) :
    (RevisionSystem.handedOff caseId handoffId sourceTaskId).InPast where
  engine := Engine.handedOff_inPast caseId handoffId sourceTaskId
  read _ _ h := by cases h

/-- What one transaction of an execution does: it keeps the tasks or creates the planning task of the
version it read, it never lowers the case version, and a version it reads is the current one. -/
theorem RevisionRun.advance_cases {run run' : RevisionRun} {tables tables' : CaseTables}
    {draws : RevisionDraws} (h : run.advance tables draws = some (tables', run')) :
    tables.caseVersion ≤ tables'.caseVersion ∧
      (∀ v, run'.stage.read = some v → v = tables.caseVersion) ∧
      (tables'.tasks = tables.tasks ∨ ∃ v, run.stage.read = some v ∧
        tables' = tables.createTask draws.taskId v .orchestratorPlan (planKey run.request v)
          draws.now []) := by
  unfold RevisionRun.advance at h
  split at h
  · split at h
    · rename_i bumped hbump
      cases h
      refine ⟨?_, (fun v hv => by cases hv), Or.inl (CaseTables.bumpCaseVersion_frame hbump).1⟩
      rw [(CaseTables.bumpCaseVersion_next hbump).2]
      exact Nat.le_succ _
    · cases h
      exact ⟨Nat.le_refl _, (fun v hv => by cases hv), Or.inl rfl⟩
  · cases h
    refine ⟨Nat.le_refl _, ?_, Or.inl rfl⟩
    intro v hv
    cases hv
    rfl
  · rename_i caseVersion hstage
    cases h
    refine ⟨(CaseTables.createTask_caseVersion ..).ge, ?_, Or.inr ⟨caseVersion, ?_, rfl⟩⟩
    · intro v hv
      split at hv <;> cases hv
    · rw [hstage]
      rfl
  · cases h
    exact ⟨Nat.le_refl _, (fun v hv => by cases hv), Or.inl rfl⟩
  · cases h
  · cases h

/-- **Nothing ever runs ahead of the case**, whatever revisions are in flight. -/
theorem RevisionSystem.InPast.step {s s' : RevisionSystem} (h : s.InPast)
    {q : RevisionSystemRequest} (hstep : s.step q = some s') : s'.InPast := by
  cases q with
  | engine =>
    obtain ⟨_, heng, rfl⟩ := Option.map_eq_some_iff.1 hstep
    refine ⟨h.engine.step heng, ?_⟩
    intro id run hrun v hv
    rw [(Engine.step_frame heng).1]
    exact h.read id run hrun v hv
  | otherWrites tables =>
    simp only [RevisionSystem.step] at hstep
    split at hstep
    · rename_i hsame
      cases hstep
      refine ⟨h.engine.withTables hsame.1 hsame.2.ge, ?_⟩
      intro id run hrun v hv
      exact (h.read id run hrun v hv).trans hsame.2.ge
    · cases hstep
  | openRevision =>
    simp only [RevisionSystem.step] at hstep
    split at hstep
    · cases hstep
    cases hstep
    refine ⟨h.engine, ?_⟩
    intro id run hrun v hv
    rcases update_some_cases hrun with ⟨-, rfl⟩ | ⟨-, hold⟩
    · cases hv
    · exact h.read id run hold v hv
  | advanceRevision executionId draws =>
    simp only [RevisionSystem.step, Option.map_eq_some_iff, Option.bind_eq_some_iff] at hstep
    obtain ⟨⟨_, _⟩, ⟨run, hrun, hadv⟩, rfl⟩ := hstep
    obtain ⟨hver, hread, htasks⟩ := RevisionRun.advance_cases hadv
    constructor
    · rcases htasks with hsame | ⟨v, hv, rfl⟩
      · exact h.engine.withTables hsame hver
      · have hpast := h.read executionId run hrun v hv
        refine h.engine.createTask draws.taskId _ _ draws.now [] hpast ?_
        intro w triggerRef hkey
        cases hkey
        exact hpast
    · intro id other hother v hv
      rcases update_some_cases hother with ⟨-, rfl⟩ | ⟨-, hold⟩
      · exact (hread v hv).le.trans hver
      · exact (h.read id other hold v hv).trans hver

/-! ## What a retry reaches -/

/-- The planning tasks of a version. -/
def CaseTables.planTasks (tables : CaseTables) (caseVersion : CaseVersion) : List ProcessingTask :=
  tables.tasks.filter fun task =>
    task.taskType = .orchestratorPlan ∧ task.caseVersion = caseVersion

/-- One version bump after the tables, and one planning task at the version it opened. -/
def RevisedOnce (before after : CaseTables) : Prop :=
  after.caseVersion = before.caseVersion + 1 ∧
    (after.planTasks (before.caseVersion + 1)).length = 1

/-- An execution that stopped has changed nothing, or repeating the request revises the case once. -/
def Retryable (request : RevisionRequest) (draws retryDraws : RevisionDraws) (stop : Nat)
    (tables : CaseTables) : Prop :=
  RevisionRun.executeUntil request draws stop tables = tables ∨
    RevisedOnce tables
      (RevisionRun.execute request retryDraws (RevisionRun.executeUntil request draws stop tables))

namespace RevisionRun

variable {tables bumped : CaseTables} {request : RevisionRequest} {draws : RevisionDraws}

theorem executeUntil_of_stale (hstale : tables.caseVersion ≠ request.expectedVersion) (stop : Nat) :
    executeUntil request draws stop tables = tables := by
  cases stop with
  | zero => rfl
  | succ =>
    rw [executeUntil, Function.iterate_succ_apply]
    have hrefused : next draws (tables, ⟨request, .started⟩) = (tables, ⟨request, .refused
        (.staleCaseVersion "case version moved on before the revision bump")⟩) := by
      simp only [next, advance, CaseTables.bumpCaseVersion, if_neg hstale, Option.getD_some]
    -- a refused execution takes no further transaction
    rw [hrefused, Function.iterate_fixed rfl]

/-- The tables once the planning task is committed. -/
def planned (request : RevisionRequest) (draws : RevisionDraws) (bumped : CaseTables) : CaseTables :=
  bumped.createTask draws.taskId bumped.caseVersion .orchestratorPlan
    (planKey request bumped.caseVersion) draws.now []

section Current

variable (hbump : tables.bumpCaseVersion request draws.handoffId = .ok bumped)
include hbump

theorem next_started :
    next draws (tables, ⟨request, .started⟩) = (bumped, ⟨request, .bumped⟩) := by
  simp only [next, advance, hbump, Option.getD_some]

theorem executeUntil_one : executeUntil request draws 1 tables = bumped := by
  rw [executeUntil, Function.iterate_one, next_started hbump]

theorem iterate_two : (next draws)^[2] (tables, ⟨request, .started⟩) =
    (bumped, ⟨request, .loaded bumped.caseVersion⟩) := by
  rw [Function.iterate_succ_apply, Function.iterate_one, next_started hbump]
  rfl

theorem executeUntil_two : executeUntil request draws 2 tables = bumped := by
  rw [executeUntil, iterate_two hbump]

/-- From the third transaction on, the planning task is there; after it only the audit row is
written. -/
theorem executeUntil_add_three
    (hfree : bumped.keyFree (planKey request bumped.caseVersion) = true) (more : Nat) :
    executeUntil request draws (more + 3) tables = planned request draws bumped ∨
      executeUntil request draws (more + 3) tables =
        (planned request draws bumped).appendAudit
          (.orchestrationKickoff bumped.caseVersion draws.taskId) := by
  have hthree : (next draws)^[3] (tables, ⟨request, .started⟩) =
      (planned request draws bumped, ⟨request, .planned bumped.caseVersion draws.taskId⟩) := by
    rw [Function.iterate_succ_apply', iterate_two hbump]
    simp only [next, advance, hfree, if_true, Option.getD_some, planned]
  rw [executeUntil, Function.iterate_add_apply, hthree]
  cases more with
  | zero => exact Or.inl rfl
  | succ =>
    rw [Function.iterate_succ_apply]
    have hfinished : next draws (planned request draws bumped,
        ⟨request, .planned bumped.caseVersion draws.taskId⟩) =
          ((planned request draws bumped).appendAudit
            (.orchestrationKickoff bumped.caseVersion draws.taskId), ⟨request, .finished⟩) := rfl
    rw [hfinished, Function.iterate_fixed rfl]
    exact Or.inr rfl

end Current

/-- **Once the planning task is committed, the case is revised once.** -/
theorem planned_revisedOnce {advances : Uuid → Option AdvanceRun}
    (hpast : Engine.InPast ⟨tables, advances⟩)
    (hbump : tables.bumpCaseVersion request draws.handoffId = .ok bumped) :
    bumped.keyFree (planKey request bumped.caseVersion) = true ∧
      RevisedOnce tables (planned request draws bumped) := by
  have hver := (CaseTables.bumpCaseVersion_next hbump).2
  have htasks := (CaseTables.bumpCaseVersion_frame hbump).1
  have hfree : bumped.keyFree (planKey request bumped.caseVersion) = true := by
    rw [CaseTables.keyFree, List.all_eq_true]
    intro task hmem
    apply decide_eq_true
    intro hkey
    have hread := hpast.planKeys task (htasks ▸ hmem) _ _ hkey
    rw [hver] at hread
    exact Nat.not_succ_le_self _ hread
  refine ⟨hfree, ?_, ?_⟩
  · rw [planned, CaseTables.createTask_caseVersion, hver]
  · have hnone : tables.planTasks (tables.caseVersion + 1) = [] := by
      rw [CaseTables.planTasks, List.filter_eq_nil_iff]
      intro task hmem hmatch
      have hle := hpast.tasks task hmem
      rw [(of_decide_eq_true hmatch).2] at hle
      exact Nat.not_succ_le_self _ hle
    have hold : (bumped.tasks.filter fun task =>
        task.taskType = .orchestratorPlan ∧ task.caseVersion = tables.caseVersion + 1) = [] := by
      rw [htasks]
      exact hnone
    rw [planned, CaseTables.createTask, if_pos hfree, CaseTables.planTasks, List.filter_append, hold]
    simp [hver]

theorem executeUntil_revisedOnce {advances : Uuid → Option AdvanceRun}
    (hpast : Engine.InPast ⟨tables, advances⟩)
    (hbump : tables.bumpCaseVersion request draws.handoffId = .ok bumped) (more : Nat) :
    RevisedOnce tables (executeUntil request draws (more + 3) tables) := by
  obtain ⟨hfree, honce⟩ := planned_revisedOnce hpast hbump
  rcases executeUntil_add_three hbump hfree more with h | h
  · rw [h]
    exact honce
  · -- the audit row touches neither the version nor the tasks
    rw [h]
    exact honce

theorem exists_bump (draws : RevisionDraws)
    (hcur : tables.caseVersion = request.expectedVersion) :
    ∃ bumped, tables.bumpCaseVersion request draws.handoffId = .ok bumped := by
  rw [CaseTables.bumpCaseVersion, if_pos hcur]
  exact ⟨_, rfl⟩

end RevisionRun

open RevisionRun

/-- **When a stopped execution can be made good.** In every state reached, whatever else is in flight,
an execution that stops has changed nothing or is made good by a retry, unless it was not refused and
stopped after the bump and before the planning task. -/
theorem retryable_iff {caseId handoffId sourceTaskId : Uuid} {requests : List RevisionSystemRequest}
    {s : RevisionSystem}
    (hrun : run RevisionSystem.step (.handedOff caseId handoffId sourceTaskId) requests = some s)
    (request : RevisionRequest) (draws retryDraws : RevisionDraws) (stop : Nat) :
    Retryable request draws retryDraws stop s.engine.tables ↔
      ¬ (s.engine.tables.caseVersion = request.expectedVersion ∧ (stop = 1 ∨ stop = 2)) := by
  have hinv : s.InPast := run_invariant (fun h hstep => h.step hstep)
    (RevisionSystem.handedOff_inPast caseId handoffId sourceTaskId) hrun
  by_cases hcur : s.engine.tables.caseVersion = request.expectedVersion
  · obtain ⟨bumped, hbump⟩ := exists_bump draws hcur
    have hnext := (CaseTables.bumpCaseVersion_next hbump).2
    -- every later request for the same version is refused
    have hrefused : ∀ after : CaseTables, after.caseVersion = s.engine.tables.caseVersion + 1 →
        execute request retryDraws after = after := by
      intro after hafter
      apply executeUntil_of_stale
      rw [hafter, hcur]
      exact Nat.succ_ne_self _
    -- a stop right after the bump leaves no planning task, and the retry adds none
    have hlost : ¬ (bumped = s.engine.tables ∨
        RevisedOnce s.engine.tables (execute request retryDraws bumped)) := by
      rintro (hsame | hrevised)
      · rw [hsame] at hnext
        exact Nat.succ_ne_self _ hnext.symm
      · rw [hrefused bumped hnext] at hrevised
        obtain ⟨task, htask⟩ := List.exists_mem_of_length_pos (hrevised.2 ▸ Nat.one_pos)
        obtain ⟨hmem, hmatch⟩ := List.mem_filter.1 htask
        have hle := hinv.engine.tasks task ((CaseTables.bumpCaseVersion_frame hbump).1 ▸ hmem)
        rw [(of_decide_eq_true hmatch).2] at hle
        exact Nat.not_succ_le_self _ hle
    rcases stop with _ | _ | _ | stop
    · exact ⟨fun _ h => by omega, fun _ => Or.inl rfl⟩
    · rw [Retryable, executeUntil_one hbump]
      exact ⟨fun h => absurd h hlost, fun h => absurd ⟨hcur, Or.inl rfl⟩ h⟩
    · rw [Retryable, executeUntil_two hbump]
      exact ⟨fun h => absurd h hlost, fun h => absurd ⟨hcur, Or.inr rfl⟩ h⟩
    · have honce := executeUntil_revisedOnce hinv.engine hbump stop
      refine ⟨fun _ h => by omega, fun _ => Or.inr ?_⟩
      rw [hrefused _ honce.1]
      exact honce
  · constructor
    · rintro - ⟨h, -⟩
      exact hcur h
    · intro _
      exact Or.inl (executeUntil_of_stale hcur stop)

/-! ## A crash after the bump -/

/-- The request of a risk reviewer at version one, and the draws of its executions. -/
def sampleRevision : RevisionRequest := ⟨1, 50, 41, "phân tích lại dòng tiền"⟩

theorem sampleRevision_retryable_after_plan :
    Retryable sampleRevision ⟨60, 61, 1⟩ ⟨62, 63, 2⟩ 3
      (RevisionSystem.handedOff 10 20 21).engine.tables :=
  (retryable_iff (run_nil (RevisionSystem.handedOff 10 20 21)) sampleRevision ⟨60, 61, 1⟩
    ⟨62, 63, 2⟩ 3).2 (by decide)

/-- **The promise fails on the code.** The execution crashes after the bump has committed; the retry is
refused, and the new version never gets its planning task. -/
theorem sampleRevision_lost_after_bump :
    ¬ ∀ (requests : List RevisionSystemRequest) (s : RevisionSystem),
      run RevisionSystem.step (.handedOff 10 20 21) requests = some s →
      ∀ request draws retryDraws stop, Retryable request draws retryDraws stop s.engine.tables := by
  intro hclaim
  rcases hclaim [] _ (run_nil _) sampleRevision ⟨60, 61, 1⟩ ⟨62, 63, 2⟩ 1 with hsame | honce
  · exact absurd (congrArg CaseTables.caseVersion hsame) (by decide +kernel)
  · exact absurd honce.2 (by decide +kernel)

end CreditOps.Orchestration
