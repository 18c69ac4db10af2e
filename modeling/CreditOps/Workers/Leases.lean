import CreditOps.Workers.Worker

/-!
# The task lease invariant

Whatever the workers do and in whatever order, every task keeps within its attempts and holds a lease
exactly while it runs (`Inv.step`), and a finished task is never touched again
(`terminal_persists_run`). An operation presented with a token that is not the current token of its
task is refused and writes nothing. `lease_invariant` puts the three together.
-/

set_option autoImplicit false

namespace CreditOps.Workers

open Orchestration Transition

namespace System

variable {s s' : System}

/-! ## The invariant -/

/-- Every task is well formed, and no two tasks share an id. -/
structure Inv (s : System) : Prop where
  wellFormed : ∀ task ∈ s.tables.tasks, WellFormed task
  ids : (s.tables.tasks.map (·.id)).Nodup

theorem idle_inv (tables : CaseTables) : Inv (idle tables) where
  wellFormed _ h := by cases h
  ids := List.nodup_nil

variable {task : ProcessingTask}

theorem wellFormed_of_new (hstat : task.status = .pending) (hatts : task.attemptCount = 0)
    (hmax : task.maxAttempts = 3) (hlease : task.lease = none) :
    WellFormed task where
  attempts := by
    rw [hatts]
    exact Nat.zero_le _
  waiting _ := by
    rw [hatts, hmax]
    decide
  leased := by
    rw [hstat, hlease]
    decide

theorem map_move_ids {clock : Timestamp} {current : CaseVersion} {tasks : List ProcessingTask}
    {move : ProcessingTask → ProcessingTask}
    (hmove : ∀ task ∈ tasks, TaskMove clock current task (move task)) :
    (tasks.map move).map (·.id) = tasks.map (·.id) := by
  rw [List.map_map]
  apply List.map_congr_left
  intro task hmem
  exact (hmove task hmem).frame.1

variable {q : Request}

/-- **Every step keeps the invariant.** -/
theorem Inv.step (h : Inv s) (hstep : s.step q = some s') : Inv s' := by
  rcases (step_cases hstep).tasks with ⟨_, htasks, hmove⟩ | ⟨task, htasks, hfresh, hnew⟩
  · constructor
    · intro task hmem
      rw [htasks] at hmem
      obtain ⟨old, hold, rfl⟩ := List.mem_map.1 hmem
      exact (hmove old hold).wellFormed (h.wellFormed old hold)
    · rw [htasks, map_move_ids hmove]
      exact h.ids
  · obtain ⟨hstat, hatts, hmax, hlease⟩ := hnew
    constructor
    · intro other hmem
      rw [htasks] at hmem
      rcases List.mem_append.1 hmem with hold | hnew
      · exact h.wellFormed other hold
      · rw [List.mem_singleton] at hnew
        subst hnew
        exact wellFormed_of_new hstat hatts hmax hlease
    · rw [htasks, List.map_append, List.nodup_append]
      refine ⟨h.ids, List.nodup_singleton _, ?_⟩
      intro id hid other hother
      obtain ⟨old, hold, rfl⟩ := List.mem_map.1 hid
      rw [List.map_singleton, List.mem_singleton] at hother
      rw [hother]
      exact hfresh old hold

variable {requests : List Request}

/-- **The invariant holds of every reachable state.** -/
theorem inv_of_run {tables : CaseTables} (hrun : run System.step (idle tables) requests = some s) :
    Inv s :=
  run_invariant (fun h hstep => h.step hstep) (idle_inv tables) hrun

theorem Inv.eq_of_id (h : Inv s) {other : ProcessingTask} (htask : task ∈ s.tables.tasks)
    (hother : other ∈ s.tables.tasks) (hid : other.id = task.id) : other = task :=
  List.inj_on_of_nodup_map h.ids hother htask hid

/-! ## Finished tasks -/

theorem terminal_persists (hstep : s.step q = some s') (hmem : task ∈ s.tables.tasks)
    (hterm : isTerminal task.status = true) :
    task ∈ s'.tables.tasks := by
  rcases (step_cases hstep).tasks with ⟨_, htasks, hmove⟩ | ⟨_, htasks, -⟩
  · rw [htasks, ← (hmove task hmem).eq_of_isTerminal hterm]
    exact List.mem_map_of_mem hmem
  · rw [htasks]
    exact List.mem_append_left _ hmem

/-- **A finished task is never touched again.** -/
theorem terminal_persists_run (hmem : task ∈ s.tables.tasks) (hterm : isTerminal task.status = true)
    (hrun : run System.step s requests = some s') : task ∈ s'.tables.tasks := by
  have hkeep : ∀ {t : System} {q : Request} {t' : System}, task ∈ t.tables.tasks →
      t.step q = some t' → task ∈ t'.tables.tasks :=
    fun h hstep => terminal_persists hstep h hterm
  exact run_invariant hkeep hmem hrun

/-! ## The guarantee -/

/-- Every operation on the task of the envelope that is presented with the token is refused. -/
structure Refused (s : System) (envelope : TaskEnvelope) (leaseToken : Uuid) : Prop where
  extendTaskLease : ∀ leaseUntil,
    Workers.extendTaskLease s.tables s.clock envelope leaseToken leaseUntil = none
  succeed : Workers.succeed s.tables s.clock envelope leaseToken = none
  markSuperseded : Workers.markSuperseded s.tables s.clock envelope leaseToken = none
  retryOrFail : ∀ now baseDelaySeconds,
    Workers.retryOrFail s.tables s.clock envelope leaseToken now baseDelaySeconds = none
  checkpoint : ∀ sequenceNo checkpointType checkpointData,
    Workers.checkpoint s.tables s.clock s.documents s.checkpoints envelope leaseToken sequenceNo
      checkpointType checkpointData =
        .error (.staleTask "task or document version is no longer current")

/-- **A token that is not current is worth nothing.** -/
theorem refused_of_lost {envelope : TaskEnvelope} {leaseToken : Uuid}
    (hlost : ∀ task ∈ s.tables.tasks, task.id = envelope.taskId →
      task.lease.map (·.1) ≠ some leaseToken) : Refused s envelope leaseToken where
  extendTaskLease _ := updateOwned_eq_none hlost
  succeed := updateOwned_eq_none hlost
  markSuperseded := updateOwned_eq_none hlost
  retryOrFail _ _ := updateOwned_eq_none hlost
  checkpoint _ _ _ := checkpoint_error_of_lost hlost

/-- **The task lease invariant.** In every state reached, a task has made no more attempts than it may
and runs exactly while it holds a lease; whatever happens from there, a finished task stays the row it
is; and an operation presented with a token that is not the current one of its task is refused. -/
theorem lease_invariant {tables : CaseTables} {requests : List Request}
    (hrun : run System.step (idle tables) requests = some s) :
    (∀ task ∈ s.tables.tasks, task.attemptCount ≤ task.maxAttempts ∧
      (task.status = .running ↔ task.lease.isSome = true)) ∧
    (∀ later t, run System.step s later = some t → ∀ task ∈ s.tables.tasks,
      isTerminal task.status = true → ∀ after ∈ t.tables.tasks, after.id = task.id → after = task) ∧
    (∀ envelope leaseToken, (∀ task ∈ s.tables.tasks, task.id = envelope.taskId →
      task.lease.map (·.1) ≠ some leaseToken) → Refused s envelope leaseToken) := by
  have hinv := inv_of_run hrun
  refine ⟨?_, ?_, ?_⟩
  · intro task hmem
    exact ⟨(hinv.wellFormed task hmem).attempts, (hinv.wellFormed task hmem).leased⟩
  · intro later t hlater task hmem hterm after hafter hid
    have hkept := terminal_persists_run hmem hterm hlater
    have hinv' : Inv t := run_invariant (fun h hstep => h.step hstep) hinv hlater
    exact hinv'.eq_of_id hkept hafter hid
  · intro envelope leaseToken hlost
    exact refused_of_lost hlost

/-! ## A crash and a second claim -/

/-- A case at its first version, with nothing in it. -/
def emptyCase : CaseTables where
  caseId := 10
  caseVersion := 1
  handoffs := []
  tasks := []
  dependencies := []
  gates := []
  gaps := []
  outbox := []
  audit := []

/-- The message of the ingestion of document version 5. -/
def ingestionEnvelope : TaskEnvelope where
  taskId := 1
  caseId := 10
  caseVersion := 1
  taskType := .documentIngestion
  documentVersionId := some 5
  caseVersion_pos := Nat.one_pos
  documentScope := by decide

/-- A worker that takes the slot, reads message 1 and claims its task until a given time. -/
def claiming (leaseToken : Uuid) (leaseUntil : Timestamp) : List Request :=
  [.acquireSlot leaseToken 3 30 leaseUntil, .worker leaseToken (.reclaimStranded 0),
    .worker leaseToken (.readOne 1 leaseUntil), .worker leaseToken (.claim leaseUntil)]

/-- A document is registered, its ingestion claimed by a worker that crashes, and claimed again. -/
def claimedTwice : List Request :=
  [.registerIngestion 1 5 1 0, .send 1 ingestionEnvelope 0] ++ claiming 21 300 ++
    [.worker 21 .crash, .tick 40000000, .acquireSlot 22 3 30 50000000,
      .worker 22 (.reclaimStranded 400), .tick 40000000] ++
    [.worker 22 (.readOne 1 90000000), .worker 22 (.claim 90000000)]

theorem claimedTwice_lease_invariant :
    ∃ s, run System.step (idle emptyCase) claimedTwice = some s ∧
      (s.tables.tasks.map fun task => (task.status, task.attemptCount, task.lease)) =
        [(.running, 2, some (22, 90000000))] ∧
      Refused s ingestionEnvelope 21 ∧
      ∀ task ∈ s.tables.tasks, task.attemptCount ≤ task.maxAttempts := by
  refine ⟨_, rfl, rfl, ?_, ?_⟩
  · apply (lease_invariant
      (rfl : run System.step (idle emptyCase) claimedTwice = some _)).2.2 ingestionEnvelope 21
    decide
  · intro task hmem
    exact ((lease_invariant
      (rfl : run System.step (idle emptyCase) claimedTwice = some _)).1 task hmem).1

end System

end CreditOps.Workers
