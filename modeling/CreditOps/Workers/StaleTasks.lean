import CreditOps.Workers.Delivery

/-!
# Tasks a version bump leaves behind

A claim takes only tasks of the current case version, and the worker archives the message of a task it
cannot claim only when the task is finished. So a task that still waits when the case moves on is never
claimed again, and its message is read and returned for ever (`Finishable.of_step` is the trap it sits
in). A task that is running then can only be finished by the worker that holds it, or by the sweep once
its attempts are used up.

`stale_resolvable_iff` is the exact condition, in every reachable state, under which the workers can
still bring a task of a past version to an end and archive its message.
-/

set_option autoImplicit false

namespace CreditOps.Workers

open Orchestration Transition PartialMap

namespace System

variable {s s' : System} {leaseToken : Uuid} {run : WorkerRun} {task : ProcessingTask}
  {message : QueueMessage}

/-! ## What the workers can do about a task -/

/-- The worker has only its own steps between itself and a write that finishes the task: it still holds
its lease, and a renewal of the slot that it has to make goes through. -/
def canFinish (s : System) (leaseToken : Uuid) (run : WorkerRun) (task : ProcessingTask) : Prop :=
  match run.stage with
  | .claimed message pending | .processing message _ pending =>
    inScope s.tables message.envelope task = true ∧
      (.workerSlot ∈ pending → slotLive s.slot s.clock run.owner leaseToken = true)
  | .reported message outcome =>
    inScope s.tables message.envelope task = true ∧
      (outcome = .succeeded ∨ outcome = .superseded)
  | _ => False

/-- The holder of the live lease of the task can finish it. -/
def HasFinisher (s : System) (task : ProcessingTask) : Prop :=
  ∃ leaseToken leaseUntil run, task.lease = some (leaseToken, leaseUntil) ∧ s.clock < leaseUntil ∧
    s.workers leaseToken = some run ∧ s.canFinish leaseToken run task

/-- The task is finished, or it is running and either has no attempt left or has a holder that can
finish it. -/
def Finishable (s : System) (task : ProcessingTask) : Prop :=
  isTerminal task.status = true ∨
    (task.status = .running ∧
      (task.maxAttempts ≤ task.attemptCount ∨ s.HasFinisher task))

/-- The steps of the workers, and the passing of time. -/
def isWorkerStep : Request → Bool
  | .acquireSlot _ _ _ _ | .worker _ _ | .tick _ => true
  | .send _ _ _ | .createTask _ _ _ _ _ _ | .registerIngestion _ _ _ _ | .staleDocument _
  | .bumpCaseVersion _ _ | .otherWrites _ => false

/-- The workers can bring the task of the message to an end and archive the message. -/
def Resolvable (s : System) (message : QueueMessage) : Prop :=
  ∃ t, ReachesBy System.step (fun q => isWorkerStep q = true) s t ∧ t.Settled message ∧
    ∃ copy ∈ t.archive, SameMessage message copy

/-! ## By whose hand a row moves -/

/-- What an action of a worker does to one row, and what the worker has come to by then. -/
inductive RowMove (s : System) (leaseToken : Uuid) (run : WorkerRun) (task : ProcessingTask) :
    ProcessingTask → Prop where
  | stays : RowMove s leaseToken run task task
  | claimed (message : QueueMessage) (leaseUntil : Timestamp)
      (hstage : run.stage = .delivered message)
      (hclaimable : claimable s.tables s.documents s.clock task = true) :
      RowMove s leaseToken run task (claimTask leaseToken leaseUntil task)
  | extended (leaseUntil : Timestamp) (howned : ownedBy leaseToken s.clock task = true) :
      RowMove s leaseToken run task (extendTask leaseToken leaseUntil task)
  | closed (message : QueueMessage) (outcome : WorkerOutcome) (status : TaskStatus)
      (hstage : run.stage = .reported message outcome)
      (hstat : (outcome = .succeeded ∧ status = .succeeded) ∨
        (outcome = .superseded ∧ status = .superseded))
      (hscope : inScope s.tables message.envelope task = true)
      (howned : ownedBy leaseToken s.clock task = true) :
      RowMove s leaseToken run task (closeTask status task)
  | retried (now : Timestamp) (baseDelaySeconds : Nat) (hrunning : task.status = .running) :
      RowMove s leaseToken run task (retryTask now baseDelaySeconds task)

variable {task' : ProcessingTask}

theorem RowMove.frame (h : RowMove s leaseToken run task task') :
    task'.id = task.id ∧ task'.caseVersion = task.caseVersion := by
  cases h with
  | stays | claimed | extended | closed => exact ⟨rfl, rfl⟩
  | retried now baseDelaySeconds =>
    obtain ⟨hid, hver, -⟩ := retryTask_frame now baseDelaySeconds task
    exact ⟨hid, hver⟩

theorem RowMove.taskMove (h : RowMove s leaseToken run task task') :
    TaskMove s.clock s.tables.caseVersion task task' := by
  cases h with
  | stays => exact .stays task
  | claimed _ leaseUntil _ hclaimable =>
    obtain ⟨hwaiting, -, -, hcur, -⟩ := of_decide_eq_true hclaimable
    exact .claimed task leaseToken leaseUntil hwaiting hcur
  | extended leaseUntil howned => exact .extended task leaseToken leaseUntil howned
  | closed _ _ status _ hstat _ howned =>
    exact .closed task leaseToken status (hstat.imp And.right And.right) howned
  | retried now baseDelaySeconds hrunning => exact .retried task now baseDelaySeconds hrunning

variable {tables tables' : CaseTables}

/-- The rows after an update, each under the guard of the update or as it was. -/
theorem rowMove_of_updateTasks {guard : ProcessingTask → Bool} {set : ProcessingTask → ProcessingTask}
    (hset : ∀ task ∈ tables.tasks, guard task = true → RowMove s leaseToken run task (set task))
    (h : updateTasks tables guard set = some tables') :
    ∃ move : ProcessingTask → ProcessingTask, tables'.tasks = tables.tasks.map move ∧
      ∀ task ∈ tables.tasks, RowMove s leaseToken run task (move task) := by
  unfold updateTasks at h
  split at h
  · cases h
    refine ⟨_, rfl, ?_⟩
    intro task hmem
    split
    · rename_i hguard
      exact hset task hmem hguard
    · exact RowMove.stays
  · cases h

/-- **The rows after an action**, by the hand of the worker. -/
theorem Acted.rowMove (h : Acted s leaseToken run s') :
    ∃ move : ProcessingTask → ProcessingTask, s'.tables.tasks = s.tables.tasks.map move ∧
      ∀ task ∈ s.tables.tasks, RowMove s leaseToken run task (move task) := by
  have hsame : ∀ tasks : List ProcessingTask, tasks = s.tables.tasks →
      ∃ move : ProcessingTask → ProcessingTask, tasks = s.tables.tasks.map move ∧
        ∀ task ∈ s.tables.tasks, RowMove s leaseToken run task (move task) := by
    rintro tasks rfl
    exact ⟨id, (List.map_id _).symm, fun _ _ => .stays⟩
  cases h with
  | reclaimed now =>
    refine ⟨_, rfl, ?_⟩
    intro task _
    split
    · rename_i hstranded
      exact .retried now _ (of_decide_eq_true hstranded).1
    · exact .stays
  | claimed message leaseUntil _ hstage hclaim =>
    refine rowMove_of_updateTasks ?_ hclaim
    intro task _ hguard
    exact .claimed message leaseUntil hstage (Bool.and_eq_true_iff.1 hguard).2
  | renewed _ leaseUntil renewal _ _ _ hrenew =>
    cases renewal with
    | taskLease =>
      obtain ⟨tables, hextend, rfl⟩ := Option.map_eq_some_iff.1 hrenew
      refine rowMove_of_updateTasks ?_ hextend
      intro task _ hguard
      exact .extended leaseUntil (Bool.and_eq_true_iff.1 hguard).2
    | workerSlot =>
      obtain ⟨slot, -, rfl⟩ := Option.map_eq_some_iff.1 hrenew
      exact hsame _ rfl
    | visibility =>
      cases hrenew
      exact hsame _ rfl
  | closed message _ _ _ hstage hout hsettle =>
    rcases hout with rfl | rfl
    · refine rowMove_of_updateTasks ?_ hsettle
      intro task _ hguard
      obtain ⟨hscope, howned⟩ := Bool.and_eq_true_iff.1 hguard
      exact .closed message _ _ hstage (Or.inl ⟨rfl, rfl⟩) hscope howned
    · refine rowMove_of_updateTasks ?_ hsettle
      intro task _ hguard
      obtain ⟨hscope, howned⟩ := Bool.and_eq_true_iff.1 hguard
      exact .closed message _ _ hstage (Or.inr ⟨rfl, rfl⟩) hscope howned
  | retried _ now _ _ hretry =>
    rw [afterRetry_tables]
    refine rowMove_of_updateTasks ?_ hretry
    intro task _ hguard
    exact .retried now _ (ownedBy_iff.1 (Bool.and_eq_true_iff.1 hguard).2).1
  | delivered | idles | foundTerminal | loaded | saved | reported | archived | released | crashed =>
    exact hsame _ rfl

/-! ## The slot -/

variable {owner token : Uuid}

theorem slotLive_iff {slot : Option WorkerSlot} {clock : Timestamp} :
    slotLive slot clock owner leaseToken = true ↔
      ∃ leaseUntil, slot = some ⟨owner, leaseToken, leaseUntil⟩ ∧ clock < leaseUntil := by
  rw [slotLive, Option.any_eq_true]
  constructor
  · rintro ⟨⟨heldOwner, heldToken, leaseUntil⟩, rfl, hmatch⟩
    obtain ⟨rfl, rfl, hlive⟩ := of_decide_eq_true hmatch
    exact ⟨leaseUntil, rfl, hlive⟩
  · rintro ⟨leaseUntil, rfl, hlive⟩
    exact ⟨_, rfl, decide_eq_true ⟨rfl, rfl, hlive⟩⟩

/-- The slot after an action: as it was, renewed by the worker that held it, or released. -/
theorem Acted.slot (h : Acted s leaseToken run s') :
    s'.slot = s.slot ∨
      (slotLive s.slot s.clock run.owner leaseToken = true ∧
        ∃ leaseUntil, s'.slot = some ⟨run.owner, leaseToken, leaseUntil⟩) ∨
      s'.slot = releaseWorkerSlot s.slot run.owner leaseToken := by
  cases h with
  | renewed message leaseUntil renewal renewed stage hrenewing hrenew =>
    cases renewal with
    | taskLease =>
      obtain ⟨tables, -, rfl⟩ := Option.map_eq_some_iff.1 hrenew
      exact Or.inl rfl
    | workerSlot =>
      obtain ⟨slot, hextend, rfl⟩ := Option.map_eq_some_iff.1 hrenew
      unfold extendWorkerSlot at hextend
      split at hextend
      · rename_i hlive
        cases hextend
        exact Or.inr (Or.inl ⟨hlive, leaseUntil, rfl⟩)
      · cases hextend
    | visibility =>
      cases hrenew
      exact Or.inl rfl
  | retried message _ tables =>
    rcases afterRetry_cases { s with tables } leaseToken run message with
      ⟨_, -, -, h⟩ | h <;> rw [h] <;> exact Or.inl rfl
  | released => exact Or.inr (Or.inr rfl)
  | _ => exact Or.inl rfl

/-- No action brings a slot to life. -/
theorem Acted.slotLive_of (h : Acted s leaseToken run s')
    (hlive : slotLive s'.slot s'.clock owner token = true) :
    slotLive s.slot s.clock owner token = true := by
  rw [h.clock_eq] at hlive
  rcases h.slot with hslot | ⟨hheld, leaseUntil, hslot⟩ | hslot
  · rwa [hslot] at hlive
  · rw [hslot, slotLive_iff] at hlive
    obtain ⟨_, hsame, -⟩ := hlive
    cases hsame
    exact hheld
  · rw [hslot, slotLive_iff] at hlive
    obtain ⟨leaseUntil, hkept, hclock⟩ := hlive
    exact slotLive_iff.2 ⟨leaseUntil, (Option.filter_eq_some_iff.1 hkept).1, hclock⟩

/-! ## The trap -/

variable {envelope : TaskEnvelope}

theorem inScope_congr {task : ProcessingTask} (hcase : tables'.caseId = tables.caseId)
    (hframe : task'.id = task.id ∧ task'.caseVersion = task.caseVersion ∧ task'.documentVersionId = task.documentVersionId) :
    inScope tables' envelope task' = inScope tables envelope task := by
  obtain ⟨hid, hver, hdoc⟩ := hframe
  simp only [inScope, hcase, hid, hver, hdoc]

/-- A worker that has not moved can finish no more than before, unless its slot came to life. -/
theorem canFinish_of_same
    (hscope : ∀ envelope, inScope s'.tables envelope task' = inScope s.tables envelope task)
    (hslot : slotLive s'.slot s'.clock run.owner leaseToken = true → slotLive s.slot s.clock run.owner leaseToken = true)
    (h : s'.canFinish leaseToken run task') : s.canFinish leaseToken run task := by
  unfold canFinish at h ⊢
  cases hstage : run.stage with
  | claimed | processing =>
    rw [hstage] at h
    exact ⟨(hscope _).symm.trans h.1, fun hpending => hslot (h.2 hpending)⟩
  | reported =>
    rw [hstage] at h
    exact ⟨(hscope _).symm.trans h.1, h.2⟩
  | slotHeld | swept | delivered | unclaimed | failing | recovering | archiving | finished =>
    rw [hstage] at h
    exact h

variable {leaseUntil : Timestamp}

/-- The claim of another task leaves a running task out of scope. -/
theorem not_inScope_of_claim (hinv : Inv s) (hmem : task ∈ s.tables.tasks)
    (hrunning : task.status = .running)
    (h : claim s.tables s.clock s.documents envelope leaseToken leaseUntil = some tables) :
    ¬ inScope s.tables envelope task = true := by
  intro hscope
  unfold claim updateTasks at h
  split at h
  · rename_i hany
    obtain ⟨other, hother, hguard⟩ := List.any_eq_true.1 hany
    obtain ⟨hotherScope, hclaimable⟩ := Bool.and_eq_true_iff.1 hguard
    have hid : other.id = task.id :=
      (of_decide_eq_true hotherScope).1.trans (of_decide_eq_true hscope).1.symm
    rw [hinv.eq_of_id hmem hother hid] at hclaimable
    obtain ⟨hwaiting, -⟩ := of_decide_eq_true hclaimable
    rw [hrunning] at hwaiting
    rcases hwaiting with hwait | hwait <;> cases hwait
  · cases h

theorem slotLive_of_renewOnce (h : s.renewOnce leaseToken run message leaseUntil .workerSlot = some s') :
    slotLive s.slot s.clock run.owner leaseToken = true := by
  obtain ⟨slot, hextend, -⟩ := Option.map_eq_some_iff.1 h
  unfold extendWorkerSlot at hextend
  split at hextend
  · assumption
  · cases hextend

variable {run' : WorkerRun}

/-- **A worker that cannot finish a running task never comes to a point where it can.** -/
theorem Acted.canFinish_of (h : Acted s leaseToken run s') (hinv : Inv s) (hmem : task ∈ s.tables.tasks)
    (hrunning : task.status = .running)
    (hscope : ∀ envelope, inScope s'.tables envelope task' = inScope s.tables envelope task)
    (hrun' : s'.workers leaseToken = some run') (hfinish : s'.canFinish leaseToken run' task') :
    s.canFinish leaseToken run task := by
  have hslot : ∀ {owner token : Uuid}, slotLive s'.slot s'.clock owner token = true →
      slotLive s.slot s.clock owner token = true := h.slotLive_of
  have hnext : ∀ (t : System) (stage : WorkerStage),
      (t.goTo leaseToken run stage).workers leaseToken = some run' →
        run' = { run with stage } := by
    intro t stage hsome
    simp only [goTo, Function.update_self, Option.some.injEq] at hsome
    exact hsome.symm
  cases h with
  | reclaimed | delivered | foundTerminal | closed | archived =>
    cases hnext _ _ hrun'
    cases hfinish
  | claimed _ _ _ _ hclaim =>
    cases hnext _ _ hrun'
    exact absurd ((hscope _).symm.trans hfinish.1) (not_inScope_of_claim hinv hmem hrunning hclaim)
  | idles stage hidle =>
    cases hnext _ _ hrun'
    cases stage <;> first | exact False.elim hfinish | cases hidle
  | renewed _ _ renewal renewed _ hrenewing hrenew =>
    cases hnext _ _ hrun'
    have hpend : ∀ pending : List Renewal,
        (.workerSlot ∈ pending →
          slotLive renewed.slot renewed.clock run.owner leaseToken = true) →
        .workerSlot ∈ renewal :: pending →
          slotLive s.slot s.clock run.owner leaseToken = true := by
      intro pending hlive hpending
      rcases List.mem_cons.1 hpending with rfl | hrest
      · exact slotLive_of_renewOnce hrenew
      · exact hslot (hlive hrest)
    unfold canFinish at hfinish ⊢
    generalize run.stage = before at hrenewing
    cases hrenewing with
    | claimed pending | processing _ pending =>
      exact ⟨(hscope _).symm.trans hfinish.1, hpend pending hfinish.2⟩
    | heartbeat =>
      exact ⟨(hscope _).symm.trans hfinish.1, fun hpending => hslot (hfinish.2 hpending)⟩
  | loaded _ hstage | saved _ _ _ _ _ hstage | reported _ _ _ hstage =>
    cases hnext _ _ hrun'
    rw [canFinish, hstage]
    exact ⟨(hscope _).symm.trans hfinish.1, fun hnone => by cases hnone⟩
  | retried message _ tables =>
    rcases afterRetry_cases { s with tables } leaseToken run message with
      ⟨_, -, -, hafter⟩ | hafter
    all_goals
      rw [hafter] at hrun'
      cases hnext _ _ hrun'
      cases hfinish
  | released | crashed =>
    simp only [Function.update_self, reduceCtorEq] at hrun'

/-- **The holder of a lease after an action** could finish the task before it. -/
theorem Acted.hasFinisher_of (h : Acted s leaseToken run s') (hinv : Inv s)
    (hrun : s.workers leaseToken = some run) (hmem : task ∈ s.tables.tasks)
    (hrunning : task.status = .running)
    (hscope : ∀ envelope, inScope s'.tables envelope task' = inScope s.tables envelope task)
    (hrun' : s'.workers token = some run') (hfinish : s'.canFinish token run' task') :
    ∃ before, s.workers token = some before ∧ s.canFinish token before task := by
  by_cases htoken : token = leaseToken
  · subst htoken
    exact ⟨run, hrun, h.canFinish_of hinv hmem hrunning hscope hrun' hfinish⟩
  · obtain ⟨next, hwkrs, -⟩ := h.worker
    rw [hwkrs, Function.update_of_ne htoken] at hrun'
    exact ⟨run', hrun', canFinish_of_same hscope h.slotLive_of hfinish⟩

theorem Finishable.of_same (h : s'.Finishable task') (hsame : task' = task)
    (hholder : task.status = .running → ∀ token leaseUntil run', task.lease = some (token, leaseUntil) → s'.clock < leaseUntil → s'.workers token = some run' → s'.canFinish token run' task' → s.HasFinisher task) :
    s.Finishable task := by
  subst hsame
  rcases h with hterm | ⟨hrunning, hused | ⟨token, leaseUntil, run', hlease, hlive, hrun',
    hfinish⟩⟩
  · exact Or.inl hterm
  · exact Or.inr ⟨hrunning, Or.inl hused⟩
  · exact Or.inr ⟨hrunning, Or.inr (hholder hrunning token leaseUntil run' hlease hlive hrun' hfinish)⟩

/-- **An action opens no way out** for a task of a past version. -/
theorem Acted.finishable_of (h : Acted s leaseToken run s') (hinv : Inv s)
    (hrun : s.workers leaseToken = some run) (hmem : task ∈ s.tables.tasks)
    (hstale : task.caseVersion < s.tables.caseVersion) (hmove : RowMove s leaseToken run task task')
    (hfinishable : s'.Finishable task') :
    s.Finishable task := by
  have hcase : s'.tables.caseId = s.tables.caseId := by
    obtain ⟨move, htabs, -⟩ := h.moved
    rw [htabs]
  cases hmove with
  | stays =>
    refine hfinishable.of_same rfl ?_
    intro hrunning token leaseUntil run' hlease hlive hrun' hfinish
    obtain ⟨before, hpre, hcan⟩ := h.hasFinisher_of hinv hrun hmem hrunning
      (fun _ => inScope_congr hcase ⟨rfl, rfl, rfl⟩) hrun' hfinish
    rw [h.clock_eq] at hlive
    exact ⟨token, leaseUntil, before, hlease, hlive, hpre, hcan⟩
  | claimed _ _ _ hclaimable =>
    obtain ⟨-, -, -, hcur, -⟩ := of_decide_eq_true hclaimable
    rw [hcur] at hstale
    exact absurd hstale (Nat.lt_irrefl _)
  | extended _ howned =>
    obtain ⟨hrunning, until_, hlease, hlive⟩ := ownedBy_iff.1 howned
    refine Or.inr ⟨hrunning, ?_⟩
    rcases hfinishable with hterm | ⟨-, hused | ⟨token, _, run', hlease', -, hrun', hfinish⟩⟩
    · change isTerminal task.status = true at hterm
      rw [hrunning] at hterm
      cases hterm
    · exact Or.inl hused
    · cases hlease'
      obtain ⟨before, hpre, hcan⟩ := h.hasFinisher_of hinv hrun hmem hrunning
        (fun _ => inScope_congr hcase ⟨rfl, rfl, rfl⟩) hrun' hfinish
      exact Or.inr ⟨leaseToken, until_, before, hlease, hlive, hpre, hcan⟩
  | closed _ _ _ hstage hstat hscope howned =>
    obtain ⟨hrunning, leaseUntil, hlease, hlive⟩ := ownedBy_iff.1 howned
    refine Or.inr ⟨hrunning, Or.inr ⟨leaseToken, leaseUntil, run, hlease, hlive, hrun, ?_⟩⟩
    rw [canFinish, hstage]
    exact ⟨hscope, hstat.imp And.left And.left⟩
  | retried now baseDelaySeconds hrunning =>
    rcases retryTask_cases now baseDelaySeconds task with ⟨hused, -⟩ | ⟨-, hstat⟩
    · exact Or.inr ⟨hrunning, Or.inl hused⟩
    · rcases hfinishable with hterm | ⟨hrunning', -⟩
      · rw [hstat] at hterm
        cases hterm
      · rw [hstat] at hrunning'
        cases hrunning'

variable {q : Request}

/-- **The trap.** A task of a past version that cannot be finished stays one, whatever happens. -/
theorem Finishable.of_step (hinv : Inv s) (hmem : task ∈ s.tables.tasks)
    (hstale : task.caseVersion < s.tables.caseVersion) (hstep : s.step q = some s')
    (hstuck : ¬ s.Finishable task) :
    ∃ task' ∈ s'.tables.tasks, task'.id = task.id ∧ task'.caseVersion < s'.tables.caseVersion ∧
      ¬ s'.Finishable task' := by
  have hstale' := Nat.lt_of_lt_of_le hstale (step_cases hstep).version_le
  have hcaseId := (step_cases hstep).caseId_eq
  -- a step of the world around the workers leaves the holders as they are
  have hkeep : ∀ (_ : s'.clock = s.clock) (_ : s'.slot = s.slot) (_ : s'.workers = s.workers),
      ¬ s'.Finishable task := by
    intro hclock hslot hwkrs hfinishable
    apply hstuck
    refine hfinishable.of_same rfl ?_
    intro _ token leaseUntil run' hlease hlive hrun' hfinish
    rw [hclock] at hlive
    rw [hwkrs] at hrun'
    refine ⟨token, leaseUntil, run', hlease, hlive, hrun', canFinish_of_same ?_ ?_ hfinish⟩
    · exact fun _ => inScope_congr hcaseId ⟨rfl, rfl, rfl⟩
    · rw [hclock, hslot]
      exact id
  cases step_cases hstep with
  | acquired _ _ _ _ _ hslot =>
    refine ⟨task, hmem, rfl, hstale, ?_⟩
    intro hfinishable
    apply hstuck
    refine hfinishable.of_same rfl ?_
    intro _ token leaseUntil run' hlease hlive hrun' hfinish
    rcases update_some_cases hrun' with ⟨rfl, rfl⟩ | ⟨hne, hold⟩
    · cases hfinish
    refine ⟨token, leaseUntil, run', hlease, hlive, hold, canFinish_of_same ?_ ?_ hfinish⟩
    · exact fun _ => rfl
    · intro hslotLive
      obtain ⟨_, hsame, -⟩ := slotLive_iff.1 hslotLive
      cases hsame
      exact absurd hslot hne
  | acted _ _ _ hrun hacted =>
    obtain ⟨move, htasks, hmove⟩ := hacted.rowMove
    have hmoved := hmove task hmem
    obtain ⟨hid, hver⟩ := hmoved.frame
    refine ⟨move task, ?_, hid, ?_, ?_⟩
    · rw [htasks]
      exact List.mem_map_of_mem hmem
    · rw [hver]
      exact hstale'
    · exact fun hfinishable => hstuck (hacted.finishable_of hinv hrun hmem hstale hmoved hfinishable)
  | ticked elapsed =>
    refine ⟨task, hmem, rfl, hstale, ?_⟩
    intro hfinishable
    apply hstuck
    refine hfinishable.of_same rfl ?_
    intro _ token leaseUntil run' hlease hlive hrun' hfinish
    have hlater : s.clock ≤ s.clock + elapsed := Nat.le_add_right _ _
    refine ⟨token, leaseUntil, run', hlease, Nat.lt_of_le_of_lt hlater hlive, hrun',
      canFinish_of_same ?_ ?_ hfinish⟩
    · exact fun _ => rfl
    · intro hslotLive
      obtain ⟨slotUntil, hslot, hclock⟩ := slotLive_iff.1 hslotLive
      exact slotLive_iff.2 ⟨slotUntil, hslot, Nat.lt_of_le_of_lt hlater hclock⟩
  | sent =>
    exact ⟨task, hmem, rfl, hstale, hkeep rfl rfl rfl⟩
  | created _ tables _ htabs =>
    refine ⟨task, ?_, rfl, hstale', hkeep rfl rfl rfl⟩
    change task ∈ tables.tasks
    rw [htabs]
    exact List.mem_append_left _ hmem
  | others tables _ htasks =>
    refine ⟨task, ?_, rfl, hstale', hkeep rfl rfl rfl⟩
    change task ∈ tables.tasks
    rw [htasks]
    exact hmem

/-- **A task that is left behind unfinishable is never finished.** -/
theorem not_resolvable_of_stuck (hinv : Inv s) (hmem : task ∈ s.tables.tasks)
    (hstale : task.caseVersion < s.tables.caseVersion) (hid : task.id = message.envelope.taskId)
    (hstuck : ¬ s.Finishable task) : ¬ s.Resolvable message := by
  rintro ⟨t, hreaches, hsettled, -⟩
  let Trap (u : System) : Prop := Inv u ∧ ∃ row ∈ u.tables.tasks, row.id = task.id ∧
    row.caseVersion < u.tables.caseVersion ∧ ¬ u.Finishable row
  have hclosed : ∀ {u : System} {q : Request} {v : System}, Trap u → u.step q = some v → Trap v := by
    rintro u q v ⟨huInv, row, hrow, hrowId, hrowStale, hrowStuck⟩ hstep
    obtain ⟨row', hrow', hid', hstale', hstuck'⟩ :=
      Finishable.of_step huInv hrow hrowStale hstep hrowStuck
    exact ⟨huInv.step hstep, row', hrow', hid'.trans hrowId, hstale', hstuck'⟩
  have hdisj : ∀ u, Trap u → ¬ u.Settled message := by
    rintro u ⟨huInv, row, hrow, hrowId, -, hrowStuck⟩ ⟨done, hdone, hdoneId, hterm⟩
    -- the finished row of the message would be this very row
    have hsame := huInv.eq_of_id hrow hdone (hdoneId.trans (hid.symm.trans hrowId.symm))
    rw [hsame] at hterm
    exact hrowStuck (Or.inl hterm)
  exact not_reaches_of_trap hclosed hdisj ⟨hinv, task, hmem, rfl, hstale, hstuck⟩
    ⟨t, hreaches.reaches, hsettled⟩

/-! ## A worker that archives -/

/-- The lease tokens in use lie below a bound. -/
def TokensBounded (s : System) : Prop :=
  ∃ bound, ∀ token, bound ≤ token → s.workers token = none

theorem TokensBounded.step (h : s.TokensBounded) (hstep : s.step q = some s') :
    s'.TokensBounded := by
  obtain ⟨bound, hbound⟩ := h
  cases step_cases hstep with
  | acquired leaseToken =>
    refine ⟨max bound (leaseToken + 1), fun token htoken => ?_⟩
    have hne : token ≠ leaseToken := by
      rintro rfl
      exact Nat.not_succ_le_self _ ((Nat.le_max_right _ _).trans htoken)
    exact (Function.update_of_ne hne ..).trans (hbound token ((Nat.le_max_left _ _).trans htoken))
  | acted leaseToken _ _ hrun hacted =>
    obtain ⟨next, hwkrs, -⟩ := hacted.worker
    refine ⟨bound, fun token htoken => ?_⟩
    have hne : token ≠ leaseToken := by
      rintro rfl
      rw [hbound token htoken] at hrun
      cases hrun
    rw [hwkrs]
    exact (Function.update_of_ne hne ..).trans (hbound token htoken)
  | ticked | sent | created | others => exact ⟨bound, hbound⟩

variable {requests : List Request}

/-- **There is always room for another worker.** -/
theorem exists_free_token (hrun : Transition.run System.step (idle tables) requests = some s) :
    ∃ token, s.workers token = none := by
  have hidle : (idle tables).TokensBounded := ⟨0, fun _ _ => rfl⟩
  obtain ⟨bound, hbound⟩ := run_invariant (fun h hstep => TokensBounded.step h hstep) hidle hrun
  exact ⟨bound, hbound bound (Nat.le_refl _)⟩

/-- What the sweep makes of a row. -/
def sweptTask (now : Timestamp) (task : ProcessingTask) : ProcessingTask :=
  if stranded now task then retryTask now reclaimRetryBaseDelaySeconds task else task

theorem sweptTask_id (now : Timestamp) (task : ProcessingTask) :
    (sweptTask now task).id = task.id := by
  unfold sweptTask
  split
  · exact (retryTask_frame now reclaimRetryBaseDelaySeconds task).1
  · rfl

theorem step_worker {action : WorkerAction} (hrun : s.workers token = some run)
    (hact : s.act token run action = some s') : s.step (.worker token action) = some s' := by
  rw [step, hrun]
  exact hact

@[simp] theorem goTo_workers_self (stage : WorkerStage) :
    (s.goTo leaseToken run stage).workers leaseToken = some { run with stage } :=
  Function.update_self ..

theorem claim_eq_none (hinv : Inv s) (hmem : task ∈ s.tables.tasks)
    (hterm : isTerminal task.status = true) (hid : task.id = envelope.taskId)
    (leaseUntil : Timestamp) :
    claim s.tables s.clock s.documents envelope leaseToken leaseUntil = none := by
  rw [claim, updateTasks, if_neg]
  intro hany
  obtain ⟨other, hother, hguard⟩ := List.any_eq_true.1 hany
  obtain ⟨hscope, hclaimable⟩ := Bool.and_eq_true_iff.1 hguard
  rw [hinv.eq_of_id hmem hother ((of_decide_eq_true hscope).1.trans hid.symm)] at hclaimable
  obtain ⟨hwaiting, -⟩ := of_decide_eq_true hclaimable
  rcases hwaiting with hwait | hwait <;> rw [hwait] at hterm <;> cases hterm

theorem taskOf_eq_some (hinv : Inv s) (hmem : task ∈ s.tables.tasks)
    (hid : task.id = message.envelope.taskId) (hcase : s.tables.caseId = message.envelope.caseId) :
    s.taskOf message = some task := by
  rw [taskOf, getTask, if_pos hcase]
  obtain ⟨found, hfound⟩ : ∃ found,
      s.tables.tasks.find? (fun row => decide (row.id = message.envelope.taskId)) = some found :=
    Option.isSome_iff_exists.1 (List.find?_isSome.2 ⟨task, hmem, decide_eq_true hid⟩)
  have hfoundId := List.find?_some (p := fun row : ProcessingTask =>
    decide (row.id = message.envelope.taskId)) hfound
  rw [hfound, hinv.eq_of_id hmem (List.mem_of_find?_eq_some hfound)
    ((of_decide_eq_true hfoundId).trans hid.symm)]

/-- A worker that reads the message of a finished task archives it. -/
theorem archives_of_delivered (hinv : Inv s) (hrun : s.workers leaseToken = some run)
    (hstage : run.stage = .delivered message) (hqueue : ∃ copy ∈ s.queue, SameMessage message copy)
    (hmem : task ∈ s.tables.tasks) (hid : task.id = message.envelope.taskId)
    (hcase : s.tables.caseId = message.envelope.caseId)
    (hterm : isTerminal task.status = true) :
    ∃ t, ReachesBy System.step (fun q => isWorkerStep q = true) s t ∧ t.Settled message ∧
      message ∈ t.archive := by
  let unclaimed := s.goTo leaseToken run (.unclaimed message)
  let archiving := unclaimed.goTo leaseToken { run with stage := .unclaimed message }
    (.archiving message)
  have hclaim : s.step (.worker leaseToken (.claim 0)) = some unclaimed := by
    refine step_worker hrun ?_
    simp only [act, hstage, claim_eq_none hinv hmem hterm hid, unclaimed]
  have hget : unclaimed.step (.worker leaseToken .getUnclaimed) = some archiving := by
    refine step_worker (goTo_workers_self _) ?_
    have htask : unclaimed.taskOf message = some task :=
      taskOf_eq_some (hinv.step hclaim) hmem hid hcase
    simp only [act, htask, hterm, ↓reduceIte, archiving]
  have hany : archiving.queue.any (·.messageId = message.messageId) = true := by
    obtain ⟨copy, hcopy, hsame, -⟩ := hqueue
    exact List.any_eq_true.2 ⟨copy, hcopy, decide_eq_true hsame⟩
  have harchive : archiving.step (.worker leaseToken .archive) = some
      ({ archiving with
          queue := dropMessage archiving.queue message.messageId
          archive := message :: archiving.archive }.goTo leaseToken
            { run with stage := .archiving message } .finished) := by
    refine step_worker (goTo_workers_self _) ?_
    simp only [act, hany, ↓reduceIte]
  refine ⟨_, .head rfl hclaim (.head rfl hget (.head rfl harchive (.refl _))), ?_, ?_⟩
  · exact ⟨task, hmem, hid, hterm⟩
  · exact List.mem_cons_self

/-- **A fresh worker archives** the message of a task that its sweep leaves finished. -/
theorem archives_after_sweep (hinv : Inv s) (hmail : Mail s) (hfree : s.workers token = none)
    (hslot : ∀ held, s.slot = some held → held.leaseUntil ≤ s.clock) (hmsg : message ∈ s.queue)
    (hvisible : message.visibleAt ≤ s.clock) (hmem : task ∈ s.tables.tasks)
    (hid : task.id = message.envelope.taskId) (hcase : s.tables.caseId = message.envelope.caseId)
    (hterm : isTerminal (sweptTask s.clock task).status = true) : s.Resolvable message := by
  let held : System :=
    { s with
      slot := some ⟨0, token, s.clock + 1⟩
      workers := Function.update s.workers token (some ⟨0, 0, .slotHeld⟩) }
  let swept := { held with tables := reclaimStranded s.tables s.clock }.goTo token ⟨0, 0, .slotHeld⟩
    .swept
  have hacquire : s.step (.acquireSlot token 0 0 (s.clock + 1)) = some held := by
    have hfreeSlot : s.slot.all (fun held => decide (held.leaseUntil ≤ s.clock ∨
        (held.leaseOwner = 0 ∧ held.leaseToken = token))) = true := by
      rw [Option.all_eq_true]
      intro row hrow
      exact decide_eq_true (Or.inl (hslot row hrow))
    simp only [step, hfree, tryAcquireWorkerSlot, Nat.lt_add_one, hfreeSlot, and_self, ↓reduceIte,
      Option.map_some, held]
  have hsweep : held.step (.worker token (.reclaimStranded s.clock)) = some swept := by
    refine step_worker (Function.update_self ..) ?_
    rfl
  -- the message that is read is the one posted, or a copy of it
  obtain ⟨found, hfound⟩ : ∃ found, s.queue.find? (fun row => decide
      (row.messageId = message.messageId ∧ row.visibleAt ≤ s.clock)) = some found :=
    Option.isSome_iff_exists.1 (List.find?_isSome.2
      ⟨message, hmsg, decide_eq_true ⟨rfl, hvisible⟩⟩)
  have hfoundMem := List.mem_of_find?_eq_some hfound
  have hfoundId : found.messageId = message.messageId :=
    (of_decide_eq_true (List.find?_some (p := fun row : QueueMessage => decide
      (row.messageId = message.messageId ∧ row.visibleAt ≤ s.clock)) hfound)).1
  have hfoundEnvelope : found.envelope = message.envelope :=
    hmail.posted found (List.mem_append_left _ hfoundMem) message
      (List.mem_append_left _ hmsg) hfoundId
  let delivered := { swept with queue := setVisibility s.queue message.messageId 0 }.goTo token
    ⟨0, 0, .swept⟩ (.delivered found)
  have hread : swept.step (.worker token (.readOne message.messageId 0)) = some delivered := by
    refine step_worker (goTo_workers_self _) ?_
    have hfound' : swept.queue.find? (fun row => decide
        (row.messageId = message.messageId ∧ row.visibleAt ≤ swept.clock)) = some found := hfound
    simp only [act, hfound', Option.map_some]
    rfl
  have hinvSwept : Inv delivered := by
    have hinvHeld : Inv swept := (hinv.step hacquire).step hsweep
    exact hinvHeld.step hread
  have hswept : sweptTask s.clock task ∈ delivered.tables.tasks := List.mem_map_of_mem hmem
  obtain ⟨t, hreaches, hsettled, harchived⟩ := archives_of_delivered hinvSwept
    (goTo_workers_self _) rfl (exists_same_in_setVisibility hfoundMem _ _) hswept
    ((sweptTask_id _ _).trans (hid.trans (by rw [hfoundEnvelope])))
    (hcase.trans (by rw [hfoundEnvelope])) hterm
  refine ⟨t, .head rfl hacquire (.head rfl hsweep (.head rfl hread hreaches)), ?_, found, harchived,
    hfoundId, hfoundEnvelope⟩
  exact hsettled.of_same hfoundEnvelope.symm

/-- **A finished task, or one without attempts.** Once its lease has run out, the next worker sweeps it
and archives its message. -/
theorem resolvable_of_ended (hinv : Inv s) (hmail : Mail s) (hfree : s.workers token = none)
    (hmsg : message ∈ s.queue) (hmem : task ∈ s.tables.tasks)
    (hid : task.id = message.envelope.taskId) (hcase : s.tables.caseId = message.envelope.caseId)
    (hended : isTerminal task.status = true ∨ (task.status = .running ∧ task.maxAttempts ≤ task.attemptCount)) :
    s.Resolvable message := by
  let elapsed : Timestamp :=
    s.slot.elim 0 (·.leaseUntil) + message.visibleAt + task.lease.elim 0 (·.2)
  let later : System := { s with clock := s.clock + elapsed }
  have htick : s.step (.tick elapsed) = some later := rfl
  have hslot : ∀ held, later.slot = some held → held.leaseUntil ≤ later.clock := by
    intro held hheld
    change s.slot = some held at hheld
    change held.leaseUntil ≤ s.clock + (s.slot.elim 0 (·.leaseUntil) + message.visibleAt + _)
    rw [hheld]
    exact Nat.le_add_left_of_le ((Nat.le_add_right _ _).trans (Nat.le_add_right _ _))
  have hvisible : message.visibleAt ≤ later.clock :=
    Nat.le_add_left_of_le ((Nat.le_add_left _ _).trans (Nat.le_add_right _ _))
  have hterm : isTerminal (sweptTask later.clock task).status = true := by
    rcases hended with hterm | ⟨hrunning, hused⟩
    · have hidle : ¬ stranded later.clock task = true := by
        intro hstranded
        rw [(of_decide_eq_true hstranded).1] at hterm
        cases hterm
      rw [sweptTask, if_neg hidle]
      exact hterm
    · obtain ⟨lease, hlease⟩ := Option.isSome_iff_exists.1
        ((hinv.wellFormed task hmem).leased.1 hrunning)
      have hexpired : lease.2 ≤ later.clock := by
        change lease.2 ≤ s.clock + (_ + _ + task.lease.elim 0 (·.2))
        rw [hlease]
        exact Nat.le_add_left_of_le (Nat.le_add_left _ _)
      have hstranded : stranded later.clock task = true := by
        rw [stranded, hlease]
        exact decide_eq_true ⟨hrunning, decide_eq_true hexpired⟩
      rw [sweptTask, if_pos hstranded]
      rcases retryTask_cases later.clock reclaimRetryBaseDelaySeconds task with
        ⟨-, hfailed⟩ | ⟨hleft, -⟩
      · rw [hfailed]
        rfl
      · exact absurd hused (Nat.not_le_of_lt hleft)
  obtain ⟨t, hreaches, hdone⟩ := archives_after_sweep (hinv.step htick) (hmail.step htick) hfree hslot
    hmsg hvisible hmem hid hcase hterm
  exact ⟨t, .head rfl htick hreaches, hdone⟩

/-! ## A worker that finishes -/

/-- The worker owns the task of the message. -/
def Holding (s : System) (leaseToken : Uuid) (message : QueueMessage) : Prop :=
  ∃ task ∈ s.tables.tasks, inScope s.tables message.envelope task = true ∧
    ownedBy leaseToken s.clock task = true

/-- An update of the holder goes through. -/
theorem Holding.updateOwned (h : s.Holding leaseToken message)
    (set : ProcessingTask → ProcessingTask) :
    ∃ tables, updateOwned s.tables s.clock message.envelope leaseToken set = some tables ∧
      tables.caseId = s.tables.caseId ∧ ∃ task ∈ s.tables.tasks,
        inScope s.tables message.envelope task = true ∧ ownedBy leaseToken s.clock task = true ∧
          set task ∈ tables.tasks := by
  obtain ⟨task, hmem, hscope, howned⟩ := h
  have hguard : (inScope s.tables message.envelope task && ownedBy leaseToken s.clock task) = true :=
    Bool.and_eq_true_iff.2 ⟨hscope, howned⟩
  let written : CaseTables :=
    { s.tables with
      tasks := s.tables.tasks.map fun row =>
        if inScope s.tables message.envelope row && ownedBy leaseToken s.clock row then set row
        else row }
  refine ⟨written, ?_, rfl, task, hmem, hscope, howned, ?_⟩
  · rw [Workers.updateOwned, updateTasks, if_pos (List.any_eq_true.2 ⟨task, hmem, hguard⟩)]
  · exact List.mem_map.2 ⟨task, hmem, if_pos hguard⟩

/-- A renewal of the holder goes through, and leaves everything as it was but for the expiries. -/
theorem Holding.renewOnce (h : s.Holding leaseToken message) (run : WorkerRun) (renewal : Renewal)
    (hslot : renewal = .workerSlot → slotLive s.slot s.clock run.owner leaseToken = true) :
    ∃ t, s.renewOnce leaseToken run message (s.clock + 1) renewal = some t ∧
      t.workers = s.workers ∧ t.Holding leaseToken message ∧
      (slotLive s.slot s.clock run.owner leaseToken = true →
        slotLive t.slot t.clock run.owner leaseToken = true) ∧
      ∀ copy ∈ s.queue, ∃ kept ∈ t.queue, SameMessage copy kept := by
  cases renewal with
  | taskLease =>
    obtain ⟨tables, hextend, hcase, task, hmem, hscope, howned, hrow⟩ :=
      h.updateOwned (extendTask leaseToken (s.clock + 1))
    refine ⟨{ s with tables }, Option.map_eq_some_iff.2 ⟨tables, hextend, rfl⟩, rfl,
      ⟨_, hrow, ?_, ?_⟩, id, fun copy hcopy => ⟨copy, hcopy, rfl, rfl⟩⟩
    · rw [inScope_congr hcase ⟨rfl, rfl, rfl⟩]
      exact hscope
    · exact ownedBy_iff.2 ⟨(ownedBy_iff.1 howned).1, s.clock + 1, rfl, Nat.lt_succ_self _⟩
  | workerSlot =>
    have hextend : extendWorkerSlot s.slot s.clock run.owner leaseToken (s.clock + 1) =
        some ⟨run.owner, leaseToken, s.clock + 1⟩ := if_pos (hslot rfl)
    refine ⟨{ s with slot := some ⟨run.owner, leaseToken, s.clock + 1⟩ },
      Option.map_eq_some_iff.2 ⟨_, hextend, rfl⟩, rfl, h, ?_,
      fun copy hcopy => ⟨copy, hcopy, rfl, rfl⟩⟩
    intro _
    exact slotLive_iff.2 ⟨s.clock + 1, rfl, Nat.lt_succ_self _⟩
  | visibility =>
    exact ⟨_, rfl, rfl, h, id, fun copy hcopy => exists_same_in_setVisibility hcopy _ _⟩

variable {held : QueueMessage}

/-- **The pending renewals of a holder** are made one by one. -/
theorem Holding.renews (stage : List Renewal → WorkerStage)
    (hact : ∀ (u : System) (run : WorkerRun) (renewal : Renewal) (pending : List Renewal) (leaseUntil : Timestamp), run.stage = stage (renewal :: pending) → u.act leaseToken run (.renew leaseUntil) = some (u.renewThen leaseToken run held leaseUntil renewal (stage pending))) :
    ∀ (pending : List Renewal) {s : System} {run : WorkerRun}, s.Holding leaseToken held →
      s.workers leaseToken = some run → run.stage = stage pending →
      (.workerSlot ∈ pending → slotLive s.slot s.clock run.owner leaseToken = true) →
      (∃ copy ∈ s.queue, SameMessage message copy) →
      ∃ t after, ReachesBy System.step (fun q => isWorkerStep q = true) s t ∧
        t.workers leaseToken = some after ∧ after.stage = stage [] ∧ t.Holding leaseToken held ∧
        ∃ copy ∈ t.queue, SameMessage message copy := by
  intro pending
  induction pending with
  | nil =>
    intro s run hholding hrun hstage _ hqueue
    exact ⟨s, run, .refl s, hrun, hstage, hholding, hqueue⟩
  | cons renewal pending ih =>
    intro s run hholding hrun hstage hslot hqueue
    obtain ⟨u, hrenew, -, hholding', hlive, hkept⟩ := hholding.renewOnce run
      renewal fun hrenewal => hslot (hrenewal ▸ List.mem_cons_self)
    have hstep : s.step (.worker leaseToken (.renew (s.clock + 1))) =
        some (u.goTo leaseToken run (stage pending)) := by
      refine step_worker hrun ?_
      rw [hact s run renewal pending _ hstage, renewThen, hrenew]
    obtain ⟨copy, hcopy, hid, henv⟩ := hqueue
    obtain ⟨kept, hkeptMem, hkeptId, hkeptEnvelope⟩ := hkept copy hcopy
    obtain ⟨t, after, hreaches, hdone⟩ := ih (s := u.goTo leaseToken run (stage pending))
      hholding' (goTo_workers_self _) rfl
      (fun hpending => hlive (hslot (List.mem_cons_of_mem _ hpending)))
      ⟨kept, hkeptMem, hkeptId.trans hid, hkeptEnvelope.trans henv⟩
    exact ⟨t, after, .head rfl hstep hreaches, hdone⟩

/-- A holder whose processor has reported an end of the task writes it. -/
theorem Holding.settles {outcome : WorkerOutcome} (h : s.Holding leaseToken held)
    (hrun : s.workers leaseToken = some run) (hstage : run.stage = .reported held outcome)
    (hout : outcome = .succeeded ∨ outcome = .superseded)
    (hqueue : ∃ copy ∈ s.queue, SameMessage message copy) :
    ∃ t, ReachesBy System.step (fun q => isWorkerStep q = true) s t ∧ t.Settled held ∧
      ∃ copy ∈ t.queue, SameMessage message copy := by
  obtain ⟨tables, hsettle⟩ : ∃ tables,
      s.settleOutcome leaseToken run held 0 outcome = some tables := by
    rcases hout with rfl | rfl
    · obtain ⟨tables, hwrite, -⟩ := h.updateOwned (closeTask .succeeded)
      exact ⟨tables, hwrite⟩
    · obtain ⟨tables, hwrite, -⟩ := h.updateOwned (closeTask .superseded)
      exact ⟨tables, hwrite⟩
  have hstep : s.step (.worker leaseToken (.settle 0)) =
      some ({ s with tables }.goTo leaseToken run (.archiving held)) := by
    refine step_worker hrun ?_
    rcases hout with rfl | rfl <;> simp only [act, hstage, hsettle]
  refine ⟨_, .head rfl hstep (.refl _), ?_, hqueue⟩
  exact settled_of_closing hout hsettle

/-- **A holder that can finish its task finishes it.** -/
theorem Holding.finishes (hlease : ownedBy leaseToken s.clock task = true)
    (hmem : task ∈ s.tables.tasks) (hrun : s.workers leaseToken = some run)
    (hfinish : s.canFinish leaseToken run task)
    (hqueue : ∃ copy ∈ s.queue, SameMessage message copy) :
    ∃ t held, ReachesBy System.step (fun q => isWorkerStep q = true) s t ∧ t.Settled held ∧
      held.envelope.taskId = task.id ∧ ∃ copy ∈ t.queue, SameMessage message copy := by
  have hreport : ∀ {u : System} {after : WorkerRun} {held : QueueMessage}
      {latest : Option TaskCheckpoint}, u.Holding leaseToken held →
      u.workers leaseToken = some after → after.stage = .processing held latest [] →
      (∃ copy ∈ u.queue, SameMessage message copy) →
      ∃ t, ReachesBy System.step (fun q => isWorkerStep q = true) u t ∧ t.Settled held ∧
        ∃ copy ∈ t.queue, SameMessage message copy := by
    intro u after held latest hholding hafter hstage hkept
    have hstep : u.step (.worker leaseToken (.report .succeeded)) =
        some (u.goTo leaseToken after (.reported held .succeeded)) := by
      refine step_worker hafter ?_
      simp only [act, hstage]
    obtain ⟨t, hreaches, hdone⟩ := Holding.settles
      (s := u.goTo leaseToken after (.reported held .succeeded)) hholding (goTo_workers_self _) rfl
      (Or.inl rfl) hkept
    exact ⟨t, .head rfl hstep hreaches, hdone⟩
  unfold canFinish at hfinish
  cases hstage : run.stage with
  | claimed held pending =>
    rw [hstage] at hfinish
    obtain ⟨u, after, hreaches, hafter, hstage', hholding, hkept⟩ :=
      Holding.renews (.claimed held)
        (fun u run renewal pending leaseUntil hstage => by simp only [act, hstage]) pending
        ⟨task, hmem, hfinish.1, hlease⟩ hrun hstage hfinish.2 hqueue
    let latest := latestCheckpoint u.checkpoints held.envelope
    have hstep : u.step (.worker leaseToken .latestCheckpoint) =
        some (u.goTo leaseToken after (.processing held latest [])) := by
      refine step_worker hafter ?_
      simp only [act, hstage', latest]
    obtain ⟨t, hreaches', hsettled, hkept'⟩ := hreport
      (u := u.goTo leaseToken after (.processing held latest [])) hholding (goTo_workers_self _) rfl
      hkept
    exact ⟨t, held, hreaches.trans (.head rfl hstep hreaches'), hsettled,
      (of_decide_eq_true hfinish.1).1.symm, hkept'⟩
  | processing held latest pending =>
    rw [hstage] at hfinish
    obtain ⟨u, after, hreaches, hafter, hstage', hholding, hkept⟩ :=
      Holding.renews (.processing held latest)
        (fun u run renewal pending leaseUntil hstage => by simp only [act, hstage]) pending
        ⟨task, hmem, hfinish.1, hlease⟩ hrun hstage hfinish.2 hqueue
    obtain ⟨t, hreaches', hsettled, hkept'⟩ := hreport hholding hafter hstage' hkept
    exact ⟨t, held, hreaches.trans hreaches', hsettled, (of_decide_eq_true hfinish.1).1.symm, hkept'⟩
  | reported held =>
    rw [hstage] at hfinish
    have hholding : s.Holding leaseToken held := ⟨task, hmem, hfinish.1, hlease⟩
    obtain ⟨t, hreaches, hsettled, hkept⟩ := hholding.settles hrun hstage hfinish.2 hqueue
    exact ⟨t, held, hreaches, hsettled, (of_decide_eq_true hfinish.1).1.symm, hkept⟩
  | slotHeld | swept | delivered | unclaimed | failing | recovering | archiving | finished =>
    rw [hstage] at hfinish
    exact hfinish.elim

theorem caseId_run (hrun : Transition.run System.step s requests = some s') :
    s'.tables.caseId = s.tables.caseId := by
  have hkeep : ∀ {u : System} {q : Request} {v : System}, u.tables.caseId = s.tables.caseId →
      u.step q = some v → v.tables.caseId = s.tables.caseId :=
    fun h hstep => (step_cases hstep).caseId_eq.trans h
  exact run_invariant hkeep rfl hrun

/-! ## The exact condition -/

/-- A document is registered and its message is sent, and then the case moves on. -/
def leftBehind : List Request :=
  [.registerIngestion 1 5 1 0, .send 1 ingestionEnvelope 0, .bumpCaseVersion ⟨1, 7, 8, ""⟩ 9]

/-- A worker claims the task before the case moves on. -/
def claimedThenLeftBehind : List Request :=
  ingestionPosted ++ claiming 21 300 ++ [.bumpCaseVersion ⟨1, 7, 8, ""⟩ 9]

end System

end CreditOps.Workers
