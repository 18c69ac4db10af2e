import CreditOps.Orchestration.Revision
import CreditOps.Outbox.Store
import CreditOps.Library.Transition

/-!
# Publishing the outbox

`create_task` commits a task together with its event, and the dispatcher publishes the event afterwards:
it loads a batch, and for each event sends the envelope in one transaction and writes the outcome in
another. Between any two of these anything else can happen, and a dispatcher or an execution that crashes
is dropped where it stands (`DispatchWorld.step`). A send whose reply is lost has enqueued its message all
the same.

`CaseSound` pairs the tasks of a case with its events, one to one and in order. It carries
`exactly_once_scheduling`: one task of a type at each version, one `TASK_READY` event for each task,
`dispatched_at` only after the message was enqueued, and every committed event in line until then.
-/

set_option autoImplicit false

namespace CreditOps.Outbox

open Orchestration Workers Transition PartialMap

/-! ## A dispatcher run -/

/-- How far a run has come with the event at the head of its batch. -/
inductive DispatchStage where
  | fresh
  | sent
  | failed
deriving DecidableEq

/-- What `queue.send` does: it enqueues the message and answers, it raises a `QueueError` and has not
enqueued it, or it raises one although it has. -/
inductive SendReply where
  | accepted
  | refused
  | lost
deriving DecidableEq

/-- What `run` returns. -/
structure DispatchResult where
  dispatched : Nat
  failed : Nat
  workerDispatchRequested : Bool
deriving DecidableEq

/-- One `run` in flight: the events of the batch still to be handled, and its counters. -/
structure DispatchRun where
  pending : List OutboxRow
  stage : DispatchStage
  dispatched : Nat
  failed : Nat
deriving DecidableEq

namespace DispatchRun

/-- The run with the batch it loaded. -/
def load (table : OutboxTable) (limit : Nat) : DispatchRun where
  pending := table.loadUndispatchedOutbox limit
  stage := .fresh
  dispatched := 0
  failed := 0

/-- The loop body up to `queue.send`: the run after it and the messages it enqueued. An event of another
type and a payload that is no envelope are not sent. -/
def publish (run : DispatchRun) (reply : SendReply) : Option (DispatchRun × List TaskEnvelope) :=
  match run.stage, run.pending with
  | .fresh, event :: _ =>
    if event.eventType ≠ taskReadyEvent then some ({ run with stage := .failed }, [])
    else
      match event.payload.validate with
      | none => some ({ run with stage := .failed }, [])
      | some envelope =>
        match reply with
        | .accepted => some ({ run with stage := .sent }, [envelope])
        | .refused => some ({ run with stage := .failed }, [])
        | .lost => some ({ run with stage := .failed }, [envelope])
  | _, _ => none

/-- The rest of the loop body: the outcome is written and counted. -/
def record (run : DispatchRun) (table : OutboxTable) (now : Timestamp) :
    Option (OutboxTable × DispatchRun) :=
  match run.stage, run.pending with
  | .sent, event :: rest =>
    some (table.markOutboxDispatched event.eventId now,
      { run with pending := rest, stage := .fresh, dispatched := run.dispatched + 1 })
  | .failed, event :: rest =>
    some (table.recordOutboxDispatchFailure event.eventId,
      { run with pending := rest, stage := .fresh, failed := run.failed + 1 })
  | _, _ => none

/-- The end of `run`: after a send it asks for a worker execution. `accepted` is the answer, `none` when
there is no worker dispatcher or it raises. -/
def finish (run : DispatchRun) (accepted : Option Bool) : Option DispatchResult :=
  if run.pending = [] then
    some
      { dispatched := run.dispatched
        failed := run.failed
        workerDispatchRequested := 0 < run.dispatched ∧ accepted = some true }
  else none

/-! ## What the loop body does -/

variable {run run' : DispatchRun} {table table' : OutboxTable} {now : Timestamp} {reply : SendReply}
  {messages : List TaskEnvelope}

/-- **What a send does.** The event stays at the head; it counts as sent only when its envelope was
enqueued. -/
theorem publish_cases (h : run.publish reply = some (run', messages)) :
    run'.pending = run.pending ∧
      (run'.stage = .sent → ∃ event rest envelope, run.pending = event :: rest ∧
        event.eventType = taskReadyEvent ∧ event.payload.validate = some envelope ∧
          envelope ∈ messages) := by
  unfold publish at h
  split at h
  · rename_i event rest hstage hpend
    split at h
    · cases h
      exact ⟨rfl, nofun⟩
    · rename_i htype
      split at h
      · cases h
        exact ⟨rfl, nofun⟩
      · rename_i envelope hvalid
        cases reply with
        | accepted =>
          cases h
          exact ⟨rfl, fun _ => ⟨event, rest, envelope, hpend, not_not.1 htype, hvalid,
            List.mem_singleton_self _⟩⟩
        | refused | lost =>
          cases h
          exact ⟨rfl, nofun⟩
  · cases h

/-- **What the outcome of an event writes.** A mark is written for an event that was sent, a failure for
one that was not, and the run goes on to the next event. -/
theorem record_cases (h : run.record table now = some (table', run')) :
    ∃ event, run.pending = event :: run'.pending ∧ run'.stage = .fresh ∧
      ((run.stage = .sent ∧ table' = table.markOutboxDispatched event.eventId now) ∨
        table' = table.recordOutboxDispatchFailure event.eventId) := by
  unfold record at h
  split at h
  · rename_i event rest hstage hpend
    cases h
    exact ⟨event, hpend, rfl, Or.inl ⟨hstage, rfl⟩⟩
  · rename_i event rest hstage hpend
    cases h
    exact ⟨event, hpend, rfl, Or.inr rfl⟩
  · cases h

end DispatchRun

/-! ## The world of the outbox -/

/-- The event `create_task` inserts for a task: its envelope, under the id and the time the row gets. -/
def readyEvent (caseId eventId : Uuid) (createdAt : Timestamp) (event : OutboxEvent) : OutboxCore where
  eventId
  caseId
  caseVersion := event.caseVersion
  eventType := taskReadyEvent
  eventSchemaVersion := "1"
  aggregateType := "PROCESSING_TASK"
  aggregateId := event.taskId
  payload :=
    .envelope event.taskId caseId event.caseVersion event.taskType event.documentVersionId
  correlationId := none
  createdAt

/-- The events a transaction of the engine has added; the newest stands first. -/
def newEvents (e e' : Engine) : List OutboxEvent :=
  e'.tables.outbox.take (e'.tables.outbox.length - e.tables.outbox.length)

/-- The events of a transaction reach the table, or a payload that is no envelope or a refused insert
rolls it back. -/
def OutboxTable.commit (table : OutboxTable) (caseId eventId : Uuid) (createdAt : Timestamp)
    (events : List OutboxEvent) : Option OutboxTable :=
  events.foldlM (fun table event =>
    let core := readyEvent caseId eventId createdAt event
    core.payload.validate.bind fun _ => table.insert core) table

/-- The cases with their executions in flight, the outbox table, every message ever enqueued, the
dispatcher runs in flight, and what the finished ones returned. -/
structure DispatchWorld where
  cases : Uuid → Option Engine
  outbox : OutboxTable
  enqueued : List TaskEnvelope
  dispatchers : Uuid → Option DispatchRun
  results : Uuid → Option DispatchResult

/-- One transaction, or a crash. -/
inductive DispatchRequest where
  | engine (caseId : Uuid) (request : EngineRequest) (eventId : Uuid) (createdAt : Timestamp)
  | revise (caseId : Uuid) (request : RevisionRequest) (handoffId : Uuid)
  | advanceCrash (caseId executionId : Uuid)
  | dispatchLoad (runId : Uuid) (limit : Nat)
  | dispatchSend (runId : Uuid) (reply : SendReply)
  | dispatchRecord (runId : Uuid) (now : Timestamp)
  | dispatchFinish (runId : Uuid) (accepted : Option Bool)
  | dispatchCrash (runId : Uuid)
deriving DecidableEq

/-- A trigger asks for a planning task of the case. -/
def DispatchRequest.kicksOff (caseId : Uuid) : DispatchRequest → Bool
  | .engine id (.kickoff _ _ _) _ _ => id = caseId
  | _ => false

namespace DispatchWorld

/-- Another state of a case. -/
def withCase (w : DispatchWorld) (caseId : Uuid) (e : Engine) : DispatchWorld :=
  { w with cases := Function.update w.cases caseId (some e) }

/-- Another state of a dispatcher run; `none` when it is gone. -/
def withDispatcher (w : DispatchWorld) (runId : Uuid) (run : Option DispatchRun) : DispatchWorld :=
  { w with dispatchers := Function.update w.dispatchers runId run }

/-- The step function; `none` for a request that is not at that point or is refused. The primary key of
the tasks refuses an id that is taken. -/
def step (w : DispatchWorld) : DispatchRequest → Option DispatchWorld
  | .engine caseId request eventId createdAt =>
    (w.cases caseId).bind fun e => (e.step request).bind fun e' =>
      if (e'.tables.tasks.map (·.id)).Nodup then
        (w.outbox.commit e.tables.caseId eventId createdAt (newEvents e e')).map fun outbox =>
          { w.withCase caseId e' with outbox }
      else none
  | .revise caseId request handoffId =>
    (w.cases caseId).bind fun e =>
      match e.tables.bumpCaseVersion request handoffId with
      | .ok tables => some (w.withCase caseId { e with tables })
      | .error _ => none
  | .advanceCrash caseId executionId =>
    (w.cases caseId).map fun e =>
      w.withCase caseId { e with advances := Function.update e.advances executionId none }
  | .dispatchLoad runId limit =>
    match w.dispatchers runId with
    | some _ => none
    | none => some (w.withDispatcher runId (some (DispatchRun.load w.outbox limit)))
  | .dispatchSend runId reply =>
    ((w.dispatchers runId).bind (·.publish reply)).map fun p =>
      { w.withDispatcher runId (some p.1) with enqueued := w.enqueued ++ p.2 }
  | .dispatchRecord runId now =>
    ((w.dispatchers runId).bind (·.record w.outbox now)).map fun p =>
      { w.withDispatcher runId (some p.2) with outbox := p.1 }
  | .dispatchFinish runId accepted =>
    ((w.dispatchers runId).bind (·.finish accepted)).map fun result =>
      { w.withDispatcher runId none with
        results := Function.update w.results runId (some result) }
  | .dispatchCrash runId => some (w.withDispatcher runId none)

/-- Cases before their first `AdvanceCase`, an empty outbox and nothing in flight. -/
def start (cases : Uuid → Option Engine) : DispatchWorld where
  cases
  outbox := .empty
  enqueued := []
  dispatchers := fun _ => none
  results := fun _ => none

variable {w w' : DispatchWorld} {q : DispatchRequest}

/-! ## What a step can do -/

/-- **The inversion of a step.** -/
inductive Stepped (w : DispatchWorld) : DispatchRequest → DispatchWorld → Prop where
  | engine (caseId : Uuid) (request : EngineRequest) (eventId : Uuid) (createdAt : Timestamp)
      (e e' : Engine) (outbox : OutboxTable) (hcase : w.cases caseId = some e)
      (hstep : e.step request = some e') (hids : (e'.tables.tasks.map (·.id)).Nodup)
      (hcom : w.outbox.commit e.tables.caseId eventId createdAt (newEvents e e') = some outbox) :
      Stepped w (.engine caseId request eventId createdAt) { w.withCase caseId e' with outbox }
  | revise (caseId : Uuid) (request : RevisionRequest) (handoffId : Uuid) (e : Engine)
      (tables : CaseTables) (hcase : w.cases caseId = some e)
      (hbump : e.tables.bumpCaseVersion request handoffId = .ok tables) :
      Stepped w (.revise caseId request handoffId) (w.withCase caseId { e with tables })
  | advanceCrash (caseId executionId : Uuid) (e : Engine) (hcase : w.cases caseId = some e) :
      Stepped w (.advanceCrash caseId executionId)
        (w.withCase caseId { e with advances := Function.update e.advances executionId none })
  | dispatchLoad (runId : Uuid) (limit : Nat) (hfree : w.dispatchers runId = none) :
      Stepped w (.dispatchLoad runId limit)
        (w.withDispatcher runId (some (DispatchRun.load w.outbox limit)))
  | dispatchSend (runId : Uuid) (reply : SendReply) (run run' : DispatchRun)
      (messages : List TaskEnvelope) (hrun : w.dispatchers runId = some run)
      (hpublish : run.publish reply = some (run', messages)) :
      Stepped w (.dispatchSend runId reply)
        { w.withDispatcher runId (some run') with enqueued := w.enqueued ++ messages }
  | dispatchRecord (runId : Uuid) (now : Timestamp) (run run' : DispatchRun) (outbox : OutboxTable)
      (hrun : w.dispatchers runId = some run) (hrec : run.record w.outbox now = some (outbox, run')) :
      Stepped w (.dispatchRecord runId now) { w.withDispatcher runId (some run') with outbox }
  | dispatchFinish (runId : Uuid) (accepted : Option Bool) (run : DispatchRun)
      (result : DispatchResult) (hrun : w.dispatchers runId = some run)
      (hfinish : run.finish accepted = some result) :
      Stepped w (.dispatchFinish runId accepted)
        { w.withDispatcher runId none with
          results := Function.update w.results runId (some result) }
  | dispatchCrash (runId : Uuid) :
      Stepped w (.dispatchCrash runId) (w.withDispatcher runId none)

theorem step_cases (hstep : step w q = some w') : Stepped w q w' := by
  cases q with
  | engine caseId request eventId createdAt =>
    simp only [step, Option.bind_eq_some_iff] at hstep
    obtain ⟨e, hcase, e', heng, hcom⟩ := hstep
    split at hcom
    · rename_i hids
      obtain ⟨outbox, hcommitted, rfl⟩ := Option.map_eq_some_iff.1 hcom
      exact .engine caseId request eventId createdAt e e' outbox hcase heng hids hcommitted
    · cases hcom
  | revise caseId request handoffId =>
    simp only [step, Option.bind_eq_some_iff] at hstep
    obtain ⟨e, hcase, hbump⟩ := hstep
    split at hbump
    · rename_i tables hok
      cases hbump
      exact .revise caseId request handoffId e tables hcase hok
    · cases hbump
  | advanceCrash caseId executionId =>
    obtain ⟨e, hcase, rfl⟩ := Option.map_eq_some_iff.1 hstep
    exact .advanceCrash caseId executionId e hcase
  | dispatchLoad runId limit =>
    simp only [step] at hstep
    split at hstep
    · cases hstep
    rename_i hfree
    cases hstep
    exact .dispatchLoad runId limit hfree
  | dispatchSend runId reply =>
    simp only [step, Option.map_eq_some_iff, Option.bind_eq_some_iff] at hstep
    obtain ⟨⟨run', messages⟩, ⟨run, hrun, hpublish⟩, rfl⟩ := hstep
    exact .dispatchSend runId reply run run' messages hrun hpublish
  | dispatchRecord runId now =>
    simp only [step, Option.map_eq_some_iff, Option.bind_eq_some_iff] at hstep
    obtain ⟨⟨outbox, run'⟩, ⟨run, hrun, hrec⟩, rfl⟩ := hstep
    exact .dispatchRecord runId now run run' outbox hrun hrec
  | dispatchFinish runId accepted =>
    simp only [step, Option.map_eq_some_iff, Option.bind_eq_some_iff] at hstep
    obtain ⟨result, ⟨run, hrun, hfinish⟩, rfl⟩ := hstep
    exact .dispatchFinish runId accepted run result hrun hfinish
  | dispatchCrash runId =>
    cases hstep
    exact .dispatchCrash runId

end DispatchWorld

/-! ## Tasks and events in pairs -/

/-- The event without the id and the time its row was given. -/
def OutboxCore.content (core : OutboxCore) : OutboxCore :=
  { core with eventId := 0, createdAt := 0 }

/-- The content of the event a task is committed with. -/
def announcement (caseId : Uuid) (task : ProcessingTask) : OutboxCore :=
  readyEvent caseId 0 0 (Engine.createdEvent task)

/-- The agent tasks of a case, which are the ones `create_task` inserts: they have no document scope. -/
def agentTasks (tables : CaseTables) : List ProcessingTask :=
  tables.tasks.filter (·.documentVersionId = none)

/-- The tasks of a case are keyed, and its agent tasks and its events stand in pairs, in the order they
were committed. -/
structure CaseSound (caseId : Uuid) (e : Engine) (events : List OutboxCore) : Prop where
  owner : e.tables.caseId = caseId
  keyed : Engine.Keyed e.tables
  ids : (e.tables.tasks.map (·.id)).Nodup
  unscoped : ∀ task ∈ e.tables.tasks, task.taskType ≠ .documentIngestion →
    task.documentVersionId = none
  paired : (events.filter (·.caseId = caseId)).map OutboxCore.content =
    (agentTasks e.tables).map (announcement caseId)

section Commit

variable {e e' : Engine} {table table' : OutboxTable} {caseId eventId : Uuid} {createdAt : Timestamp}

/-- **What a commit writes.** No event when there is no new task, and the event of the new task
otherwise. -/
theorem commit_cases (hmove : Engine.WorkMove e.tables e'.tables)
    (hcom : table.commit caseId eventId createdAt (newEvents e e') = some table') :
    (table' = table ∧
        e'.tables.tasks.map Engine.withoutStatus = e.tables.tasks.map Engine.withoutStatus) ∨
      ∃ task, task.documentVersionId = none ∧ e'.tables.tasks = e.tables.tasks ++ [task] ∧
        table.insert (readyEvent caseId eventId createdAt (Engine.createdEvent task)) =
          some table' := by
  cases hmove with
  | kept htasks houtbox =>
    rw [newEvents, houtbox, Nat.sub_self, List.take_zero] at hcom
    cases hcom
    exact Or.inl ⟨rfl, htasks⟩
  | added task hscope htasks houtbox =>
    rw [newEvents, houtbox, List.length_cons, Nat.add_sub_cancel_left, List.take_succ_cons,
      List.take_zero] at hcom
    simp only [OutboxTable.commit, List.foldlM_cons, List.foldlM_nil, Option.bind_eq_bind,
      Option.bind_eq_some_iff, Option.pure_def, Option.some.injEq, exists_eq_right] at hcom
    obtain ⟨-, -, hins⟩ := hcom
    exact Or.inr ⟨task, hscope, htasks, hins⟩

/-- A status move leaves the announcements alone. -/
theorem announcements_of_withoutStatus {tables tables' : CaseTables}
    (h : tables'.tasks.map Engine.withoutStatus = tables.tasks.map Engine.withoutStatus) :
    (agentTasks tables').map (announcement caseId) =
      (agentTasks tables).map (announcement caseId) := by
  have hfactor : ∀ tasks : List ProcessingTask,
      (tasks.filter (·.documentVersionId = none)).map (announcement caseId) =
        ((tasks.map Engine.withoutStatus).filter (·.documentVersionId = none)).map
          (announcement caseId) := by
    intro tasks
    rw [List.filter_map, List.map_map]
    rfl
  rw [agentTasks, hfactor, h, ← hfactor]
  rfl

variable {request : EngineRequest}

theorem CaseSound.commit (h : CaseSound caseId e table.events) (hstep : e.step request = some e')
    (hids : (e'.tables.tasks.map (·.id)).Nodup)
    (hcom : table.commit caseId eventId createdAt (newEvents e e') = some table') :
    CaseSound caseId e' table'.events where
  owner := (Engine.step_caseId hstep).trans h.owner
  keyed := h.keyed.step hstep
  ids := hids
  unscoped := by
    intro task hmem htype
    rcases commit_cases (Engine.step_workMove hstep) hcom with
      ⟨rfl, htasks⟩ | ⟨new, hscope, htasks, -⟩
    · -- the task was there, perhaps with another status
      have hkept : Engine.withoutStatus task ∈ e.tables.tasks.map Engine.withoutStatus :=
        htasks ▸ List.mem_map_of_mem hmem
      obtain ⟨old, hold, hsame⟩ := List.mem_map.1 hkept
      have hdoc := congrArg ProcessingTask.documentVersionId hsame
      have hkind := congrArg ProcessingTask.taskType hsame
      exact hdoc.symm.trans (h.unscoped old hold fun hold => htype (hkind.symm.trans hold))
    · rw [htasks] at hmem
      rcases List.mem_append.1 hmem with hold | hnew
      · exact h.unscoped task hold htype
      · rw [List.mem_singleton.1 hnew]
        exact hscope
  paired := by
    rcases commit_cases (Engine.step_workMove hstep) hcom with
      ⟨rfl, htasks⟩ | ⟨task, hscope, htasks, hins⟩
    · rw [announcements_of_withoutStatus htasks]
      exact h.paired
    · have hagent : agentTasks e'.tables = agentTasks e.tables ++ [task] := by
        rw [agentTasks, htasks, List.filter_append]
        simp [agentTasks, hscope]
      rw [OutboxTable.events_insert hins, hagent, List.filter_append, List.map_append,
        List.map_append, h.paired]
      simp [readyEvent, announcement, OutboxCore.content]

/-- What is committed for another case leaves the pairs alone. -/
theorem CaseSound.commit_other {other : Uuid} {eOther : Engine} (h : CaseSound other eOther table.events)
    (hne : caseId ≠ other) (hstep : e.step request = some e')
    (hcom : table.commit caseId eventId createdAt (newEvents e e') = some table') :
    CaseSound other eOther table'.events where
  owner := h.owner
  keyed := h.keyed
  ids := h.ids
  unscoped := h.unscoped
  paired := by
    rcases commit_cases (Engine.step_workMove hstep) hcom with
      ⟨rfl, -⟩ | ⟨task, -, -, hins⟩
    · exact h.paired
    · rw [OutboxTable.events_insert hins, List.filter_append]
      simpa [readyEvent, hne] using h.paired

theorem CaseSound.withSameTasks {events : List OutboxCore} (h : CaseSound caseId e events)
    (hcase : e'.tables.caseId = e.tables.caseId) (htasks : e'.tables.tasks = e.tables.tasks) :
    CaseSound caseId e' events where
  owner := hcase.trans h.owner
  keyed := ⟨htasks ▸ h.keyed.unique, htasks ▸ h.keyed.agentKey⟩
  ids := htasks ▸ h.ids
  unscoped := htasks ▸ h.unscoped
  paired := by
    rw [agentTasks, htasks]
    exact h.paired

/-- **A task has one event.** -/
theorem CaseSound.existsUnique_event
    (h : CaseSound caseId e table.events) {task : ProcessingTask} (hmem : task ∈ e.tables.tasks)
    (hscope : task.documentVersionId = none) :
    ∃! row, row ∈ table.rows ∧ row.caseId = caseId ∧ row.eventType = taskReadyEvent ∧
      row.aggregateId = task.id := by
  have hagent : task ∈ agentTasks e.tables :=
    List.mem_filter.2 ⟨hmem, decide_eq_true hscope⟩
  -- the events of the case have the ids of its agent tasks, in order
  have hids : (table.events.filter (·.caseId = caseId)).map (·.aggregateId) =
      (agentTasks e.tables).map (·.id) := by
    have hmapped := congrArg (List.map (·.aggregateId)) h.paired
    rwa [List.map_map, List.map_map] at hmapped
  have hnodup : ((table.events.filter (·.caseId = caseId)).map (·.aggregateId)).Nodup := by
    rw [hids]
    exact h.ids.sublist (List.filter_sublist.map _)
  obtain ⟨_, hcore, hcont⟩ := List.mem_map.1
    (h.paired ▸ List.mem_map_of_mem (f := announcement caseId) hagent)
  obtain ⟨hcoreMem, hcoreCase⟩ := List.mem_filter.1 hcore
  obtain ⟨row, hrow, rfl⟩ := List.mem_map.1 hcoreMem
  refine ⟨row, ⟨hrow, of_decide_eq_true hcoreCase, ?_, ?_⟩, ?_⟩
  · exact congrArg OutboxCore.eventType hcont
  · exact congrArg OutboxCore.aggregateId hcont
  · rintro other ⟨hother, hotherCase, -, hotherId⟩
    have hotherMem : other.toOutboxCore ∈ table.events.filter (·.caseId = caseId) :=
      List.mem_filter.2 ⟨List.mem_map_of_mem hother, decide_eq_true hotherCase⟩
    have hsame := List.inj_on_of_nodup_map hnodup hotherMem hcore
      (hotherId.trans (congrArg OutboxCore.aggregateId hcont).symm)
    exact OutboxTable.row_eq_of_eventId hother hrow (congrArg OutboxCore.eventId hsame)

end Commit

/-! ## The invariant -/

namespace DispatchWorld

variable {w w' : DispatchWorld} {q : DispatchRequest}

/-- The message of the event was enqueued. -/
def Enqueued (w : DispatchWorld) (core : OutboxCore) : Prop :=
  ∃ envelope ∈ w.enqueued, core.payload.validate = some envelope

/-- The cases stand in pairs with their events, a dispatched event was enqueued, the batches hold events
of the table, and an event that counts as sent was enqueued. -/
structure Sound (w : DispatchWorld) : Prop where
  cases : ∀ caseId e, w.cases caseId = some e → CaseSound caseId e w.outbox.events
  dispatched : ∀ row ∈ w.outbox.rows, row.dispatchedAt ≠ none → w.Enqueued row.toOutboxCore
  batches : ∀ runId run, w.dispatchers runId = some run →
    ∀ event ∈ run.pending, event.toOutboxCore ∈ w.outbox.events
  sent : ∀ runId run, w.dispatchers runId = some run → run.stage = .sent →
    ∀ event ∈ run.pending.head?, w.Enqueued event.toOutboxCore

theorem Enqueued.append {core : OutboxCore} (h : w.Enqueued core) (messages : List TaskEnvelope) :
    ∃ envelope ∈ w.enqueued ++ messages, core.payload.validate = some envelope := by
  obtain ⟨envelope, hmem, hvalid⟩ := h
  exact ⟨envelope, List.mem_append_left _ hmem, hvalid⟩

/-- The world after a run took another stage: what has to be shown of that run. -/
theorem Sound.withDispatcher (h : Sound w) {runId : Uuid} {run : Option DispatchRun}
    (hbatch : ∀ r, run = some r → ∀ event ∈ r.pending, event.toOutboxCore ∈ w.outbox.events)
    (hsent : ∀ r, run = some r → r.stage = .sent →
      ∀ event ∈ r.pending.head?, w.Enqueued event.toOutboxCore) :
    Sound (w.withDispatcher runId run) := by
  have hruns : ∀ id r, (w.withDispatcher runId run).dispatchers id = some r →
      run = some r ∨ w.dispatchers id = some r := by
    intro id r hr
    change Function.update w.dispatchers runId run id = some r at hr
    by_cases hid : id = runId
    · subst hid
      rw [Function.update_self] at hr
      exact Or.inl hr
    · rw [Function.update_of_ne hid] at hr
      exact Or.inr hr
  refine ⟨h.cases, h.dispatched, ?_, ?_⟩
  · intro id r hr
    rcases hruns id r hr with hnew | hold
    · exact hbatch r hnew
    · exact h.batches id r hold
  · intro id r hr
    rcases hruns id r hr with hnew | hold
    · exact hsent r hnew
    · exact h.sent id r hold

theorem Sound.withEnqueued (h : Sound w) (messages : List TaskEnvelope) :
    Sound { w with enqueued := w.enqueued ++ messages } where
  cases := h.cases
  dispatched row hrow hset := (h.dispatched row hrow hset).append messages
  batches := h.batches
  sent runId run hrun hstage event hevent := (h.sent runId run hrun hstage event hevent).append messages

variable {outbox : OutboxTable}

theorem Sound.withOutbox (h : Sound w) (hevts : outbox.events = w.outbox.events)
    (hdispatched : ∀ row ∈ outbox.rows, row.dispatchedAt ≠ none → w.Enqueued row.toOutboxCore) :
    Sound { w with outbox } where
  cases caseId e hcase := by
    rw [hevts]
    exact h.cases caseId e hcase
  dispatched := hdispatched
  batches runId run hrun event hevent := by
    rw [hevts]
    exact h.batches runId run hrun event hevent
  sent := h.sent

variable {caseId : Uuid} {e e' : Engine}

theorem Sound.withCase (h : Sound w) (hcase : w.cases caseId = some e)
    (hid : e'.tables.caseId = e.tables.caseId) (htasks : e'.tables.tasks = e.tables.tasks) :
    Sound (w.withCase caseId e') := by
  refine ⟨?_, h.dispatched, h.batches, h.sent⟩
  intro id r hr
  rcases update_some_cases hr with ⟨rfl, rfl⟩ | ⟨-, hold⟩
  · exact (h.cases id e hcase).withSameTasks hid htasks
  · exact h.cases id r hold

variable {request : EngineRequest}

/-- The world after a commit of the engine. -/
theorem Sound.commit (h : Sound w) {eventId : Uuid} {createdAt : Timestamp}
    (hcase : w.cases caseId = some e) (hstep : e.step request = some e')
    (hids : (e'.tables.tasks.map (·.id)).Nodup)
    (hcom : w.outbox.commit e.tables.caseId eventId createdAt (newEvents e e') = some outbox) :
    Sound { w.withCase caseId e' with outbox } := by
  have howner : e.tables.caseId = caseId := (h.cases caseId e hcase).owner
  rw [howner] at hcom
  -- a new row is undispatched, and the old ones are all still there
  have hrows : outbox.rows = w.outbox.rows ∨ ∃ core, outbox.rows = w.outbox.rows ++ [⟨core, 0, none⟩] := by
    rcases commit_cases (Engine.step_workMove hstep) hcom with
      ⟨rfl, -⟩ | ⟨task, -, -, hins⟩
    · exact Or.inl rfl
    · exact Or.inr ⟨_, (OutboxTable.insert_eq_some hins).2.2⟩
  have hkept : w.outbox.events ⊆ outbox.events := by
    intro core hmem
    rcases hrows with hsame | ⟨_, hnew⟩
    · rwa [OutboxTable.events, hsame]
    · rw [OutboxTable.events, hnew, List.map_append]
      exact List.mem_append_left _ hmem
  refine ⟨?_, ?_, fun id r hr event hevent => hkept (h.batches id r hr event hevent), h.sent⟩
  · intro id r hr
    rcases update_some_cases hr with ⟨rfl, rfl⟩ | ⟨hne, hold⟩
    · exact (h.cases id e hcase).commit hstep hids hcom
    · exact (h.cases id r hold).commit_other (Ne.symm hne) hstep hcom
  · intro row hrow hset
    rcases hrows with hsame | ⟨_, hnew⟩
    · exact h.dispatched row (hsame ▸ hrow) hset
    · rw [hnew] at hrow
      rcases List.mem_append.1 hrow with hold | hlast
      · exact h.dispatched row hold hset
      · rw [List.mem_singleton.1 hlast] at hset
        exact absurd rfl hset

/-- **Every step keeps the outbox sound.** -/
theorem Sound.step (h : Sound w) (hstep : DispatchWorld.step w q = some w') : Sound w' := by
  cases step_cases hstep with
  | engine _ _ _ _ _ _ _ hcase heng hids hcom =>
    exact h.commit hcase heng hids hcom
  | revise _ _ _ _ _ hcase hbump =>
    exact h.withCase hcase (CaseTables.bumpCaseVersion_next hbump).1
      (CaseTables.bumpCaseVersion_frame hbump).1
  | advanceCrash _ _ _ hcase => exact h.withCase hcase rfl rfl
  | dispatchLoad =>
    apply h.withDispatcher
    · rintro _ ⟨rfl⟩ _ hevent
      exact List.mem_map_of_mem (OutboxTable.mem_loadUndispatchedOutbox_iff.1 hevent).1
    · rintro _ ⟨rfl⟩ hstage
      cases hstage
  | dispatchSend runId _ run _ messages hrun hpublish =>
    obtain ⟨hpend, hsent⟩ := DispatchRun.publish_cases hpublish
    apply (h.withEnqueued messages).withDispatcher
    · rintro _ ⟨rfl⟩ event hevent
      exact h.batches runId run hrun event (hpend ▸ hevent)
    · rintro _ ⟨rfl⟩ hstage _ hevent
      obtain ⟨_, _, envelope, hhead, -, hvalid, hmem⟩ := hsent hstage
      rw [hpend, hhead, List.head?_cons, Option.mem_some_iff] at hevent
      subst hevent
      exact ⟨envelope, List.mem_append_right _ hmem, hvalid⟩
  | dispatchRecord runId _ run _ outbox hrun hrec =>
    obtain ⟨event, hpend, hstage', hwrite⟩ := DispatchRun.record_cases hrec
    have houtbox : Sound { w with outbox } := by
      rcases hwrite with ⟨hstage, rfl⟩ | rfl
      · refine h.withOutbox OutboxTable.events_updatePending ?_
        intro row hrow hset
        rcases OutboxTable.mem_updatePending hrow with hold | ⟨old, hold, hid, -, rfl⟩
        · exact h.dispatched row hold hset
        · -- the row that is marked is the event that was sent
          have hevent : event.toOutboxCore ∈ w.outbox.events :=
            h.batches runId run hrun event (hpend ▸ List.mem_cons_self)
          obtain ⟨stored, hstored, hcore⟩ := List.mem_map.1 hevent
          have hsame : old = stored := by
            apply OutboxTable.row_eq_of_eventId hold hstored
            rw [hid, ← hcore]
          have hsent := h.sent runId run hrun hstage event (by rw [hpend]; rfl)
          rw [← hcore, ← hsame] at hsent
          exact hsent
      · refine h.withOutbox OutboxTable.events_updatePending ?_
        intro row hrow hset
        rcases OutboxTable.mem_updatePending hrow with hold | ⟨_, -, -, hnone, rfl⟩
        · exact h.dispatched row hold hset
        · exact absurd hnone hset
    apply houtbox.withDispatcher
    · rintro _ ⟨rfl⟩ other hother
      exact houtbox.batches runId run hrun other (hpend ▸ List.mem_cons_of_mem _ hother)
    · rintro _ ⟨rfl⟩ hstage
      rw [hstage'] at hstage
      cases hstage
  | dispatchFinish runId =>
    have hgone : Sound (w.withDispatcher runId none) := h.withDispatcher nofun nofun
    exact ⟨hgone.cases, hgone.dispatched, hgone.batches, hgone.sent⟩
  | dispatchCrash => exact h.withDispatcher nofun nofun

/-- **Rows only move forward.** No event is lost, changed or taken back. -/
theorem movesForward_step (hstep : DispatchWorld.step w q = some w') :
    w.outbox.MovesForward w'.outbox := by
  cases step_cases hstep with
  | engine _ _ _ _ _ _ _ _ heng _ hcom =>
    rcases commit_cases (Engine.step_workMove heng) hcom with
      ⟨rfl, -⟩ | ⟨task, -, -, hins⟩
    · exact .refl _
    · exact OutboxTable.movesForward_insert hins
  | revise | advanceCrash | dispatchLoad | dispatchSend | dispatchFinish | dispatchCrash => exact .refl _
  | dispatchRecord _ now _ _ _ _ hrec =>
    obtain ⟨_, -, -, ⟨-, rfl⟩ | rfl⟩ := DispatchRun.record_cases hrec
    · exact OutboxTable.movesForward_updatePending fun _ => guardMutation_markRow now
    · exact OutboxTable.movesForward_updatePending fun row _ => guardMutation_recordRow row

/-! ## Planning tasks -/

/-- The executions of the case are backed and it has no planning task. -/
def NoPlans (caseId : Uuid) (w : DispatchWorld) : Prop :=
  ∀ e, w.cases caseId = some e →
    Engine.Backed e ∧ ∀ task ∈ e.tables.tasks, task.taskType ≠ .orchestratorPlan

theorem canonical_ne_orchestratorPlan :
    ∀ node ∈ DependencyTemplate.canonical.nodes, node.taskType ≠ .orchestratorPlan := by
  decide

/-- An execution schedules no planning task. -/
theorem no_plan_of_engine (hbacked : Engine.Backed e)
    (hplans : ∀ task ∈ e.tables.tasks, task.taskType ≠ .orchestratorPlan)
    (hstep : e.step request = some e')
    (hreq : ∀ taskId triggerRef now, request ≠ .kickoff taskId triggerRef now) :
    ∀ task ∈ e'.tables.tasks, task.taskType ≠ .orchestratorPlan := by
  intro task hmem
  cases Engine.step_cases hstep with
  | workerMoves =>
    obtain ⟨old, hold, rfl⟩ := List.mem_map.1 hmem
    split
    all_goals exact hplans old hold
  | kickoff taskId triggerRef now => exact absurd rfl (hreq taskId triggerRef now)
  | advanceLoad | advancePlan => exact hplans task hmem
  | advanceRefresh _ _ _ _ _ _ hrefr =>
    obtain ⟨_, _, -, rfl⟩ := AdvanceRun.refreshGate_tables hrefr
    rw [CaseTables.ensureGate_frame] at hmem
    exact hplans task hmem
  | advanceSchedule _ _ _ _ _ _ hrun hsched =>
    rcases AdvanceRun.mem_schedule_tasks hsched hmem with hold | ⟨hnext, -⟩
    · exact hplans task hold
    · obtain ⟨node, hnode, htype, -⟩ := AdvanceRun.schedule_gate (hbacked _ _ hrun) hnext
      rw [← htype]
      exact canonical_ne_orchestratorPlan node hnode

theorem NoPlans.step (h : NoPlans caseId w) (hq : q.kicksOff caseId = false)
    (hstep : DispatchWorld.step w q = some w') : NoPlans caseId w' := by
  intro r hr
  cases step_cases hstep with
  | engine _ _ _ _ e _ _ hcase heng =>
    rcases update_some_cases hr with ⟨rfl, rfl⟩ | ⟨-, hold⟩
    · obtain ⟨hbacked, hplans⟩ := h e hcase
      refine ⟨hbacked.step heng, no_plan_of_engine hbacked hplans heng ?_⟩
      rintro _ _ _ rfl
      simp [DispatchRequest.kicksOff] at hq
    · exact h r hold
  | revise _ _ _ e _ hcase hbump =>
    rcases update_some_cases hr with ⟨rfl, rfl⟩ | ⟨-, hold⟩
    · obtain ⟨hbacked, hplans⟩ := h e hcase
      obtain ⟨htasks, -, hgates, -, -⟩ := CaseTables.bumpCaseVersion_frame hbump
      refine ⟨hbacked.withTables fun v g hg => ?_, ?_⟩
      · rw [CaseTables.GateSatisfied, hgates]
        exact hg
      · rw [htasks]
        exact hplans
    · exact h r hold
  | advanceCrash _ _ e hcase =>
    rcases update_some_cases hr with ⟨rfl, rfl⟩ | ⟨-, hold⟩
    · obtain ⟨hbacked, hplans⟩ := h e hcase
      exact ⟨fun other run hrun => hbacked other run (of_update_none hrun), hplans⟩
    · exact h r hold
  | dispatchLoad | dispatchSend | dispatchRecord | dispatchFinish | dispatchCrash => exact h r hr

/-! ## From the start -/

/-- A case before its first `AdvanceCase`: it has ingestion tasks at most, and no event and no execution
in flight. -/
structure Opening (caseId : Uuid) (e : Engine) : Prop where
  owner : e.tables.caseId = caseId
  ingestion : ∀ task ∈ e.tables.tasks,
    task.taskType = .documentIngestion ∧ task.documentVersionId ≠ none
  keys : ∀ t₁ ∈ e.tables.tasks, ∀ t₂ ∈ e.tables.tasks,
    t₁.idempotencyKey = t₂.idempotencyKey → t₁.id = t₂.id
  ids : (e.tables.tasks.map (·.id)).Nodup
  outbox : e.tables.outbox = []
  idle : ∀ executionId, e.advances executionId = none

theorem handedOff_opening (caseId handoffId sourceTaskId : Uuid) :
    Opening caseId (Engine.handedOff caseId handoffId sourceTaskId) where
  owner := rfl
  ingestion _ hmem := absurd hmem List.not_mem_nil
  keys _ hmem := absurd hmem List.not_mem_nil
  ids := List.nodup_nil
  outbox := rfl
  idle _ := rfl

variable {cases : Uuid → Option Engine}

theorem Opening.caseSound (h : Opening caseId e) :
    CaseSound caseId e [] where
  owner := h.owner
  keyed := ⟨h.keys, fun task hmem _ hne => absurd (h.ingestion task hmem).1 hne⟩
  ids := h.ids
  unscoped task hmem hne := absurd (h.ingestion task hmem).1 hne
  paired := by
    have hnone : agentTasks e.tables = [] := by
      refine List.filter_eq_nil_iff.2 fun task hmem hscope => ?_
      exact (h.ingestion task hmem).2 (of_decide_eq_true hscope)
    rw [hnone]
    rfl

theorem sound_start (hopening : ∀ caseId e, cases caseId = some e → Opening caseId e) :
    Sound (start cases) where
  cases caseId e hcase := (hopening caseId e hcase).caseSound
  dispatched := nofun
  batches := nofun
  sent := nofun

theorem noPlans_start (hopening : ∀ caseId e, cases caseId = some e → Opening caseId e)
    (caseId : Uuid) : NoPlans caseId (start cases) := by
  intro e hcase
  have h := hopening caseId e hcase
  refine ⟨fun executionId run hrun => ?_, fun task hmem hplan => ?_⟩
  · rw [h.idle executionId] at hrun
    cases hrun
  · rw [(h.ingestion task hmem).1] at hplan
    cases hplan

/-! ## Exactly once -/

/-- **Exactly-once scheduling with at-least-once delivery.** In whatever way executions, dispatchers and
crashes interleave: there is at most one task of a type at each version, and planning tasks come from
triggers alone; a task has exactly one `TASK_READY` event; an event is marked dispatched only after its
message was enqueued; and an event once committed stays as it is, and stands in line until it is
dispatched, where every batch that is large enough reaches it. -/
theorem exactly_once_scheduling
    (hopening : ∀ caseId e, cases caseId = some e → Opening caseId e)
    {before later : List DispatchRequest} (hpre : run step (start cases) before = some w)
    (hlater : run step w later = some w') :
    (∀ caseId e, w'.cases caseId = some e →
      (∀ t₁ ∈ e.tables.tasks, ∀ t₂ ∈ e.tables.tasks, t₁.taskType ≠ .documentIngestion →
        t₂.caseVersion = t₁.caseVersion → t₂.taskType = t₁.taskType →
        (t₁.taskType = .orchestratorPlan →
          ∀ request ∈ before ++ later, request.kicksOff caseId = false) → t₁ = t₂) ∧
      ∀ task ∈ e.tables.tasks, task.taskType ≠ .documentIngestion →
        ∃! row, row ∈ w'.outbox.rows ∧ row.caseId = caseId ∧ row.eventType = taskReadyEvent ∧
          row.aggregateId = task.id) ∧
    (∀ row ∈ w'.outbox.rows, row.dispatchedAt ≠ none → w'.Enqueued row.toOutboxCore) ∧
    ∀ row ∈ w.outbox.rows, ∃ row' ∈ w'.outbox.rows, Forward row row' ∧
      (row'.dispatchedAt = none → ∀ limit, w'.outbox.ahead row' < limit →
        row' ∈ w'.outbox.loadUndispatchedOutbox limit) := by
  have hrun : run step (start cases) (before ++ later) = some w' :=
    run_append_eq_some.2 ⟨w, hpre, hlater⟩
  have hsound : Sound w' :=
    run_invariant (fun h hstep => Sound.step h hstep) (sound_start hopening) hrun
  refine ⟨?_, hsound.dispatched, ?_⟩
  · intro caseId e hcase
    have h := hsound.cases caseId e hcase
    refine ⟨?_, fun task hmem htype => h.existsUnique_event hmem (h.unscoped task hmem htype)⟩
    intro t₁ h₁ t₂ h₂ hingest hver htype hkicks
    apply List.inj_on_of_nodup_map h.ids h₁ h₂
    by_cases hplan : t₁.taskType = .orchestratorPlan
    · -- without a trigger there is no planning task at all
      have hnone : NoPlans caseId w' :=
        run_invariant_of_allowed (fun h hq hstep => NoPlans.step h hq hstep) (hkicks hplan)
          (noPlans_start hopening caseId) hrun
      exact absurd hplan ((hnone e hcase).2 t₁ h₁)
    · exact h.keyed.agentTask_unique h₁ h₂ hplan hingest htype hver
  · intro row hmem
    have hkeep : ∀ {u q v}, w.outbox.MovesForward u.outbox → step u q = some v →
        w.outbox.MovesForward v.outbox :=
      fun hu hstep => hu.trans (movesForward_step hstep)
    obtain ⟨row', hmem', hforward⟩ :=
      run_invariant hkeep (OutboxTable.MovesForward.refl w.outbox) hlater row hmem
    refine ⟨row', hmem', hforward, fun hnone limit hlimit => ?_⟩
    exact OutboxTable.mem_loadUndispatchedOutbox_iff.2 ⟨hmem', hnone, hlimit⟩

/-- One case, handed off by intake. -/
def oneCase : Uuid → Option Engine :=
  Function.update (fun _ => none) 1 (some (Engine.handedOff 1 2 3))

/-- Two executions plan the same task, and both try to schedule it. -/
def twoSchedulers : List DispatchRequest :=
  (Engine.advanceCase 5 [] ++ Engine.advanceCase 6 [] ++
    [EngineRequest.advanceSchedule 5 21 0, .advanceSchedule 6 22 0]).map fun request => .engine 1 request 31 0

/-- The reply of the first send is lost, the second dispatcher crashes after its send, and the third one
marks the event. -/
def redelivery : List DispatchRequest :=
  [.dispatchLoad 41 32, .dispatchSend 41 .lost, .dispatchRecord 41 7, .dispatchLoad 42 32,
    .dispatchSend 42 .accepted, .dispatchCrash 42, .dispatchLoad 43 32, .dispatchSend 43 .accepted,
    .dispatchRecord 43 9, .dispatchFinish 43 (some true)]

theorem oneCase_opening : ∀ caseId e, oneCase caseId = some e → Opening caseId e := by
  intro caseId e hcase
  rcases update_some_cases hcase with ⟨rfl, rfl⟩ | ⟨-, hnone⟩
  · exact handedOff_opening 1 2 3
  · cases hnone

theorem redelivery_exactly_once :
    ∃ w w', run step (start oneCase) twoSchedulers = some w ∧ run step w redelivery = some w' ∧
      w'.enqueued.length = 3 ∧
      ∃ row ∈ w.outbox.rows, ∃ row' ∈ w'.outbox.rows, row.dispatchedAt = none ∧
        Forward row row' ∧ row'.dispatchedAt = some 9 ∧ w'.Enqueued row'.toOutboxCore := by
  have hruns : ((run step (start oneCase) twoSchedulers).any fun w =>
      w.outbox.rows.any (·.dispatchedAt = none) ∧ (run step w redelivery).any fun w' =>
        w'.enqueued.length = 3 ∧ w'.outbox.rows.all (·.dispatchedAt = some 9)) = true := by
    decide +kernel
  obtain ⟨w, hpre, hlater⟩ := (Option.any_eq_true _ _).1 hruns
  obtain ⟨hpend, hlater⟩ := of_decide_eq_true hlater
  obtain ⟨row, hrow, hnone⟩ := List.any_eq_true.1 hpend
  obtain ⟨w', hlater, hafter⟩ := (Option.any_eq_true _ _).1 hlater
  obtain ⟨hcount, hmarked⟩ := of_decide_eq_true hafter
  obtain ⟨-, hdispatched, hkept⟩ := exactly_once_scheduling oneCase_opening hpre hlater
  obtain ⟨row', hrow', hforward, -⟩ := hkept row hrow
  have hmark : row'.dispatchedAt = some 9 := of_decide_eq_true (List.all_eq_true.1 hmarked row' hrow')
  have hset : row'.dispatchedAt ≠ none := by
    rw [hmark]
    exact Option.some_ne_none _
  have henqueued := hdispatched row' hrow' hset
  have hwaiting : row.dispatchedAt = none := of_decide_eq_true hnone
  exact ⟨w, w', hpre, hlater, hcount, row, hrow, row', hrow', hwaiting, hforward, hmark, henqueued⟩

end DispatchWorld

end CreditOps.Outbox
