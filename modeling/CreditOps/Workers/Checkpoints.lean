import CreditOps.Library.AppendLog
import CreditOps.Workers.Delivery

/-!
# The checkpoint chain

A worker numbers its next checkpoint after the last one it has seen. It may have seen too few, since
another worker may have claimed the task in between; but then it no longer owns the lease, and the
number it asks for is taken as well. So the checkpoints of a task are numbered without a hole or a
duplicate (`Chained.step`).

`checkpoint_chain` is the whole guarantee: the chain of each task, the lease under which each row was
appended, and that `latestCheckpoint` reads the row that was committed last.
-/

set_option autoImplicit false

namespace CreditOps.Workers

open Orchestration Transition PartialMap AppendLog

/-- The checkpoints of one task, newest first. -/
def checkpointsOf (checkpoints : List TaskCheckpoint) (taskId : Uuid) : List TaskCheckpoint :=
  checkpoints.filter (·.taskId = taskId)

/-- The row stands for the task: it has its id and its scope. -/
structure StandsFor (tables : CaseTables) (row : TaskCheckpoint) (task : ProcessingTask) : Prop where
  id : row.taskId = task.id
  caseId : row.caseId = tables.caseId
  caseVersion : row.caseVersion = task.caseVersion
  document : some row.documentVersionId = task.documentVersionId

theorem latestCheckpoint_mem {checkpoints : List TaskCheckpoint} {envelope : TaskEnvelope}
    {row : TaskCheckpoint} (h : latestCheckpoint checkpoints envelope = some row) :
    row ∈ checkpoints ∧ row.taskId = envelope.taskId := by
  have hmem := (List.mem_insertionSort _).1 (List.mem_of_head? h)
  obtain ⟨hrow, hscope⟩ := List.mem_filter.1 hmem
  exact ⟨hrow, (of_decide_eq_true hscope).1⟩

namespace System

variable {s s' : System} {leaseToken : Uuid} {run : WorkerRun}

/-- The checkpoint the worker continues from is a row of its task. -/
def Knows (s : System) (stage : WorkerStage) : Prop :=
  ∀ message row pending, stage = .processing message (some row) pending →
    row ∈ s.checkpoints ∧ row.taskId = message.envelope.taskId

/-- A checkpoint of the task was written by the holder of the lease of the task. -/
structure Appended (s : System) (leaseToken : Uuid) (row : TaskCheckpoint) : Prop where
  owned : ∃ task ∈ s.tables.tasks, ownedBy leaseToken s.clock task = true ∧
    StandsFor s.tables row task
  free : ∀ other ∈ s.checkpoints, other.taskId = row.taskId → other.sequenceNo ≠ row.sequenceNo
  next : row.sequenceNo = 1 ∨
    ∃ seen ∈ s.checkpoints, seen.taskId = row.taskId ∧ row.sequenceNo = seen.sequenceNo + 1

/-- **The checkpoints after an action**: those before it, or one more under the lease. -/
theorem Acted.checkpoints (h : Acted s leaseToken run s') (hknows : Knows s run.stage) :
    s'.checkpoints = s.checkpoints ∨
      ∃ row, s'.checkpoints = row :: s.checkpoints ∧ Appended s leaseToken row := by
  cases h with
  | saved message latest _ _ row hstage hrow =>
    refine Or.inr ⟨row, rfl, ?_⟩
    obtain ⟨task, hmem, hscope, howned, hid, hsequence, hcase, hver, hdoc, hfree⟩ :=
      checkpoint_ok hrow
    have htask : task.id = message.envelope.taskId := (of_decide_eq_true hscope).1
    refine ⟨⟨task, hmem, howned, hid, hcase, hver, hdoc⟩, ?_, ?_⟩
    · intro other hother hsame
      rw [hsequence]
      exact hfree other hother (hsame.trans hid)
    · -- the number is one, or follows the last checkpoint the worker has seen
      cases latest with
      | none => exact Or.inl hsequence
      | some seen =>
        obtain ⟨hseen, hseenTask⟩ := hknows message seen [] hstage
        exact Or.inr ⟨seen, hseen, by rw [hseenTask, hid, htask], hsequence⟩
  | renewed _ _ renewal _ _ _ hrenew =>
    cases renewal with
    | taskLease =>
      obtain ⟨tables, -, rfl⟩ := Option.map_eq_some_iff.1 hrenew
      exact Or.inl rfl
    | workerSlot =>
      obtain ⟨slot, -, rfl⟩ := Option.map_eq_some_iff.1 hrenew
      exact Or.inl rfl
    | visibility =>
      cases hrenew
      exact Or.inl rfl
  | retried message _ tables =>
    rcases afterRetry_cases { s with tables } leaseToken run message with
      ⟨_, -, -, h⟩ | h <;> rw [h] <;> exact Or.inl rfl
  | _ => exact Or.inl rfl

/-- **The worker after an action** still continues from a row of its task. -/
theorem Acted.knows (h : Acted s leaseToken run s') (hknows : Knows s run.stage) :
    ∃ next : Option WorkerRun, s'.workers = Function.update s.workers leaseToken next ∧
      ∀ after, next = some after → Knows s' after.stage := by
  cases h with
  | loaded =>
    refine ⟨_, rfl, ?_⟩
    rintro after ⟨⟩ message' row pending hafter
    simp only [WorkerStage.processing.injEq] at hafter
    obtain ⟨rfl, hlatest, -⟩ := hafter
    exact latestCheckpoint_mem hlatest
  | saved _ _ _ _ _ _ hrow =>
    refine ⟨_, rfl, ?_⟩
    rintro after ⟨⟩ message' row' pending hafter
    cases hafter
    obtain ⟨task, -, hscope, -, hid, -⟩ := checkpoint_ok hrow
    exact ⟨List.mem_cons_self, hid.trans (of_decide_eq_true hscope).1⟩
  | renewed _ _ renewal renewed stage hrenewing hrenew =>
    have hsame : renewed.workers = s.workers ∧ renewed.checkpoints = s.checkpoints := by
      cases renewal with
      | taskLease =>
        obtain ⟨tables, -, rfl⟩ := Option.map_eq_some_iff.1 hrenew
        exact ⟨rfl, rfl⟩
      | workerSlot =>
        obtain ⟨slot, -, rfl⟩ := Option.map_eq_some_iff.1 hrenew
        exact ⟨rfl, rfl⟩
      | visibility =>
        cases hrenew
        exact ⟨rfl, rfl⟩
    refine ⟨some { run with stage }, by rw [← hsame.1]; rfl, ?_⟩
    rintro after ⟨⟩ message' row pending hafter
    change row ∈ renewed.checkpoints ∧ _
    rw [hsame.2]
    generalize run.stage = before at hrenewing hknows
    cases hrenewing with
    | claimed => cases hafter
    | processing | heartbeat =>
      cases hafter
      exact hknows _ _ _ rfl
  | idles _ hidle =>
    refine ⟨_, rfl, ?_⟩
    rintro after ⟨⟩ message row pending hafter
    cases hafter
    cases hidle
  | retried message _ tables =>
    rcases afterRetry_cases { s with tables } leaseToken run message with
      ⟨_, -, -, h⟩ | h
    all_goals
      rw [h]
      exact ⟨_, rfl, by rintro after ⟨⟩ _ _ _ hafter; cases hafter⟩
  | released | crashed => exact ⟨none, rfl, fun _ h => by cases h⟩
  | reclaimed | delivered | claimed | foundTerminal | reported | closed | archived =>
    exact ⟨_, rfl, by rintro after ⟨⟩ _ _ _ hafter; cases hafter⟩

/-! ## The chain -/

/-- What every interleaving keeps of the checkpoints. -/
structure Chained (s : System) : Prop where
  numbered : ∀ taskId, Numbered (·.sequenceNo) (checkpointsOf s.checkpoints taskId)
  stands : ∀ row ∈ s.checkpoints, ∃ task ∈ s.tables.tasks, StandsFor s.tables row task
  knows : ∀ leaseToken run, s.workers leaseToken = some run → Knows s run.stage

theorem idle_chained (tables : CaseTables) : Chained (idle tables) where
  numbered _ := trivial
  stands _ h := by cases h
  knows _ _ h := by cases h

variable {row : TaskCheckpoint}

/-- **A checkpoint appended under the lease continues the chain.** -/
theorem Chained.numbered_cons (h : Chained s) (happended : Appended s leaseToken row) (taskId : Uuid) :
    Numbered (·.sequenceNo) (checkpointsOf (row :: s.checkpoints) taskId) := by
  unfold checkpointsOf
  by_cases htask : row.taskId = taskId
  · rw [List.filter_cons, if_pos (decide_eq_true htask)]
    refine ⟨(h.numbered taskId).eq_next ?_ ?_, h.numbered taskId⟩
    · intro other hother
      obtain ⟨hmem, hsame⟩ := List.mem_filter.1 hother
      exact happended.free other hmem ((of_decide_eq_true hsame).trans htask.symm)
    · rcases happended.next with hfirst | ⟨seen, hmem, hsame, hnext⟩
      · exact Or.inl hfirst
      · exact Or.inr ⟨seen, List.mem_filter.2 ⟨hmem, decide_eq_true (hsame.trans htask)⟩, hnext⟩
  · rw [List.filter_cons, if_neg (by rw [decide_eq_true_eq]; exact htask)]
    exact h.numbered taskId

variable {task : ProcessingTask} {q : Request}

/-- A step keeps the scope of the tasks, so a checkpoint stands for the task it stood for. -/
theorem standsFor_step (hstep : s.step q = some s') (hmem : task ∈ s.tables.tasks)
    (h : StandsFor s.tables row task) : ∃ task' ∈ s'.tables.tasks, StandsFor s'.tables row task' := by
  have hcase : s'.tables.caseId = s.tables.caseId := (step_cases hstep).caseId_eq
  rcases (step_cases hstep).tasks with ⟨move, htasks, hmove⟩ | ⟨new, htasks, -⟩
  · obtain ⟨hid, hver, hdoc⟩ := (hmove task hmem).frame
    refine ⟨move task, ?_, h.id.trans hid.symm, h.caseId.trans hcase.symm,
      h.caseVersion.trans hver.symm, h.document.trans hdoc.symm⟩
    rw [htasks]
    exact List.mem_map_of_mem hmem
  · refine ⟨task, ?_, h.id, h.caseId.trans hcase.symm, h.caseVersion, h.document⟩
    rw [htasks]
    exact List.mem_append_left _ hmem

/-- The checkpoints after a step: those before it, or one more, written by a worker that owns the
task. -/
theorem checkpoints_step (h : Chained s) (hstep : s.step q = some s') :
    s'.checkpoints = s.checkpoints ∨
      ∃ leaseToken action row, q = .worker leaseToken action ∧ s'.checkpoints = row :: s.checkpoints ∧
        Appended s leaseToken row := by
  cases q with
  | worker leaseToken action =>
    obtain ⟨run, hrun, hact⟩ := Option.bind_eq_some_iff.1 hstep
    rcases (act_cases hact).checkpoints (h.knows leaseToken run hrun) with hsame |
      ⟨row, hrow, happended⟩
    · exact Or.inl hsame
    · exact Or.inr ⟨leaseToken, action, row, rfl, hrow, happended⟩
  | acquireSlot =>
    simp only [step] at hstep
    split at hstep
    · cases hstep
    obtain ⟨slot, -, rfl⟩ := Option.map_eq_some_iff.1 hstep
    exact Or.inl rfl
  | tick | staleDocument =>
    cases hstep
    exact Or.inl rfl
  | send | createTask | registerIngestion | bumpCaseVersion | otherWrites =>
    simp only [step] at hstep
    split at hstep <;> cases hstep
    exact Or.inl rfl

/-- **Every step keeps the chain.** -/
theorem Chained.step (h : Chained s) (hstep : s.step q = some s') : Chained s' := by
  have hgrow := checkpoints_step h hstep
  constructor
  · intro taskId
    rcases hgrow with hsame | ⟨leaseToken, action, row, -, hrow, happended⟩
    · rw [hsame]
      exact h.numbered taskId
    · rw [hrow]
      exact h.numbered_cons happended taskId
  · intro row hmem
    rcases hgrow with hsame | ⟨leaseToken, action, new, -, hnew, happended⟩
    · rw [hsame] at hmem
      obtain ⟨task, htask, hstands⟩ := h.stands row hmem
      exact standsFor_step hstep htask hstands
    · rw [hnew] at hmem
      rcases List.mem_cons.1 hmem with rfl | hold
      · obtain ⟨task, htask, -, hstands⟩ := happended.owned
        exact standsFor_step hstep htask hstands
      · obtain ⟨task, htask, hstands⟩ := h.stands row hold
        exact standsFor_step hstep htask hstands
  · intro token after hafter
    have hkeeps : ∀ stage, Knows s stage → s'.checkpoints = s.checkpoints → Knows s' stage := by
      intro stage hknows hsame message row pending hstage
      rw [hsame]
      exact hknows message row pending hstage
    cases step_cases hstep with
    | acquired =>
      rcases update_some_cases hafter with ⟨-, rfl⟩ | ⟨-, hold⟩
      · intro message row pending hstage
        cases hstage
      · exact hkeeps _ (h.knows token after hold) rfl
    | acted leaseToken run _ hrun hacted =>
      obtain ⟨next, hwkrs, hnext⟩ := hacted.knows (h.knows leaseToken run hrun)
      by_cases htoken : token = leaseToken
      · subst htoken
        rw [hwkrs, Function.update_self] at hafter
        exact hnext after hafter
      · rw [hwkrs, Function.update_of_ne htoken] at hafter
        intro message row pending hstage
        obtain ⟨hmem, hid⟩ := h.knows token after hafter message row pending hstage
        refine ⟨?_, hid⟩
        rcases hgrow with hsame | ⟨_, _, _, -, hrow, -⟩
        · rw [hsame]
          exact hmem
        · rw [hrow]
          exact List.mem_cons_of_mem _ hmem
    | ticked | sent | created | others => exact hkeeps _ (h.knows token after hafter) rfl

theorem chained_of_run {tables : CaseTables} {requests : List Request}
    (hrun : Transition.run System.step (idle tables) requests = some s) : Chained s :=
  run_invariant (fun h hstep => h.step hstep) (idle_chained tables) hrun

/-! ## Reading the chain -/

/-- **The latest checkpoint is the one committed last.** -/
theorem Chained.latestCheckpoint_eq (h : Chained s) (hinv : Inv s) {envelope : TaskEnvelope}
    (hmem : task ∈ s.tables.tasks) (hscope : inScope s.tables envelope task = true) :
    latestCheckpoint s.checkpoints envelope = (checkpointsOf s.checkpoints envelope.taskId).head? := by
  obtain ⟨hid, hcase, hver, hdoc⟩ := of_decide_eq_true hscope
  have hfilter : (s.checkpoints.filter fun row =>
      row.taskId = envelope.taskId ∧ row.caseId = envelope.caseId ∧
        row.caseVersion = envelope.caseVersion ∧
          some row.documentVersionId = envelope.documentVersionId) =
      checkpointsOf s.checkpoints envelope.taskId := by
    apply List.filter_congr
    intro row hrow
    rw [decide_eq_decide]
    constructor
    · exact fun hmatch => hmatch.1
    · -- a row of the task carries the scope of the task
      intro hsame
      obtain ⟨other, hother, hstands⟩ := h.stands row hrow
      have heq : other = task :=
        hinv.eq_of_id hmem hother (hstands.id.symm.trans (hsame.trans hid.symm))
      subst heq
      exact ⟨hsame, hstands.caseId.trans hcase, hstands.caseVersion.trans hver,
        hstands.document.trans hdoc⟩
  unfold latestCheckpoint
  rw [hfilter, (h.numbered envelope.taskId).pairwise.insertionSort_eq]

/-- **The checkpoint chain.** In every state reached, the checkpoints of each task are numbered from
one on, in the order they were committed; whatever step is taken next, a checkpoint it appends is
appended by the holder of the lease of its task; and the latest checkpoint a worker reads is the one that
was committed last. -/
theorem checkpoint_chain {tables : CaseTables} {requests : List Request}
    (hrun : Transition.run System.step (idle tables) requests = some s) :
    (∀ taskId, ((checkpointsOf s.checkpoints taskId).map (·.sequenceNo)).reverse =
      List.range' 1 (checkpointsOf s.checkpoints taskId).length) ∧
    (∀ q s', s.step q = some s' → s'.checkpoints = s.checkpoints ∨
      ∃ leaseToken action row, q = .worker leaseToken action ∧ s'.checkpoints = row :: s.checkpoints ∧
        ∃ task ∈ s.tables.tasks, task.id = row.taskId ∧
          ownedBy leaseToken s.clock task = true) ∧
    (∀ envelope, ∀ task ∈ s.tables.tasks, inScope s.tables envelope task = true →
      latestCheckpoint s.checkpoints envelope =
        (checkpointsOf s.checkpoints envelope.taskId).head?) := by
  have hchained := chained_of_run hrun
  have hinv := inv_of_run hrun
  refine ⟨fun taskId => (hchained.numbered taskId).map_reverse, ?_, ?_⟩
  · intro q s' hstep
    rcases checkpoints_step hchained hstep with hsame |
      ⟨leaseToken, action, row, hq, hrow, happended⟩
    · exact Or.inl hsame
    · obtain ⟨task, hmem, howned, hstands⟩ := happended.owned
      exact Or.inr ⟨leaseToken, action, row, hq, hrow, task, hmem, hstands.id.symm, howned⟩
  · intro envelope task hmem hscope
    exact hchained.latestCheckpoint_eq hinv hmem hscope

/-- The worker that claimed the task saves a checkpoint and crashes; the next one goes on from it. -/
def checkpointedTwice : List Request :=
  ingestionPosted ++ claiming 21 300 ++
    [.worker 21 (.renew 300), .worker 21 (.renew 300), .worker 21 (.renew 300),
      .worker 21 .latestCheckpoint, .worker 21 (.saveCheckpoint "PARSED" "1"), .worker 21 .crash,
      .tick 40000000, .acquireSlot 22 3 30 50000000, .worker 22 (.reclaimStranded 400),
      .tick 40000000, .worker 22 (.readOne 1 90000000), .worker 22 (.claim 90000000),
      .worker 22 .crash]

theorem checkpointedTwice_chain :
    ∃ s, Transition.run System.step (idle emptyCase) checkpointedTwice = some s ∧
      (checkpointsOf s.checkpoints 1).length = 1 ∧
      ((checkpointsOf s.checkpoints 1).map (·.sequenceNo)).reverse = List.range' 1 1 := by
  refine ⟨_, rfl, rfl, ?_⟩
  exact (checkpoint_chain
    (rfl : Transition.run System.step (idle emptyCase) checkpointedTwice = some _)).1 1

end System

end CreditOps.Workers
