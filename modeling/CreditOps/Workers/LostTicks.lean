import CreditOps.Workers.TickDelivery

/-!
# Lost ticks

A run none of whose steps gives up a tick leaves nothing behind: once every message and every event is
drained, nothing is in flight and no planning task failed to manual review, no node of the task graph is due
or ready (`nothing_ready_of_ticksKept`).

A tick is given up between a committed fact and its kickoff, when the worker that wrote a success does not
return it or the request that satisfied a gate ends before its re-tick. The success of the last maker is
then durable and archived, and its successor is never scheduled (`tick_lost`).
-/

set_option autoImplicit false

namespace CreditOps.Workers.TickWorld

open Orchestration Outbox Transition PartialMap

variable {writtenFor : Uuid → CaseVersion} {w w' : TickWorld} {q : TickRequest}

/-! ## Runs that keep every tick -/

/-- A case without rows has nothing due: every node waits for a gate or for a predecessor. -/
theorem start_nothingDue (caseId : Uuid) (caseVersion : CaseVersion) :
    (start caseId caseVersion).tables.NothingDue := by
  have hwaits : ∀ node ∈ DependencyTemplate.canonical.nodes,
      node.requiredGate ≠ none ∨ node.predecessors ≠ [] := by decide
  intro node hnode hdue
  rcases hwaits node hnode with hgate | hpreds
  · obtain ⟨gateType, hrequired⟩ := Option.ne_none_iff_exists'.1 hgate
    rcases hdue.gate gateType hrequired with ⟨_, hmem, -⟩ | ⟨-, hhandoff⟩
    · cases hmem
    · cases hhandoff
  · obtain ⟨p, hp⟩ := List.exists_mem_of_ne_nil _ hpreds
    obtain ⟨_, hmem, -⟩ := hdue.predecessors p hp
    cases hmem

/-- A carried tick is not drained: its event has not been dispatched, or its message is in the queue. -/
theorem not_carried_of_drained (h : TickInv writtenFor w) (hdrained : w.Drained) : ¬ w.Carried := by
  rintro ⟨task, hcarrier⟩
  have hplan : task.taskType ≠ .documentIngestion := by
    rw [hcarrier.plan]
    decide
  obtain ⟨event, hevent, hid⟩ := h.rows.outboxed task hcarrier.mem hplan
  obtain ⟨_, hkept, hmsg⟩ := h.events.dispatched event hevent (hdrained.2 event hevent)
  rcases hkept with ⟨other, hother, hotherId, hterm⟩ | ⟨_, hcopy, -⟩
  · have hone : other = task :=
      h.inv.eq_of_id hcarrier.mem hother (hotherId.trans (hmsg.trans hid))
    rw [hone, hcarrier.unfinished] at hterm
    cases hterm
  · rw [hdrained.1] at hcopy
    cases hcopy

/-- Whose request it is. -/
def actor : TickRequest → Option Uuid
  | .around (.acquireSlot leaseToken _ _ _) => some leaseToken
  | .around _ | .advance _ _ => none
  | .worker leaseToken _ | .planLoad leaseToken _ | .planAdvance leaseToken _ | .planAudit leaseToken
  | .planCheckpoint leaseToken | .persistGaps leaseToken _ => some leaseToken
  | .persistHandoff requestId _ _ _ | .ensureGate requestId _ _ _ _ _ _
  | .bumpCaseVersion requestId _ _ => some requestId
  | .retick caller _ _ | .loseTick caller => some caller
  | .send dispatcher _ _ _ | .markDispatched dispatcher _ | .stopDispatch dispatcher =>
    some dispatcher

/-- Nothing is in flight under the id. -/
def IdleAt (w : TickWorld) (id : Uuid) : Prop :=
  w.world.system.workers id = none ∧ w.ticks id = none ∧ w.dispatches id = none

instance (w : TickWorld) (id : Uuid) : Decidable (w.IdleAt id) :=
  inferInstanceAs (Decidable (_ ∧ _))

/-- **Whoever makes no request stays idle.** -/
theorem IdleAt.step {id : Uuid} (h : w.IdleAt id) (hstepped : Stepped writtenFor w q w')
    (hactor : actor q ≠ some id) : w'.IdleAt id := by
  obtain ⟨hwkr, htick, hdispatch⟩ := h
  have hne : ∀ {other : Uuid}, actor q = some other → id ≠ other := by
    rintro _ hother rfl
    exact hactor hother
  -- a worker request of the surroundings leaves the workers alone, a drawn token apart
  cases hstepped with
  | around request _ hmay hworld =>
    obtain ⟨-, _, hsys, rfl⟩ := CaseWorld.step_worker_cases hworld
    refine ⟨?_, htick, hdispatch⟩
    cases request with
    | acquireSlot =>
      simp only [System.step] at hsys
      split at hsys
      · cases hsys
      obtain ⟨_, -, rfl⟩ := Option.map_eq_some_iff.1 hsys
      exact (Function.update_of_ne (hne rfl) ..).trans hwkr
    | tick | staleDocument =>
      cases hsys
      exact hwkr
    | send | registerIngestion =>
      simp only [System.step] at hsys
      split at hsys <;> cases hsys
      exact hwkr
    | worker | createTask | bumpCaseVersion | otherWrites => cases hmay
  | acted _ _ _ _ hworld =>
    obtain ⟨-, system, hsys, rfl⟩ := CaseWorld.step_worker_cases hworld
    obtain ⟨_, _, hact⟩ := Option.bind_eq_some_iff.1 hsys
    obtain ⟨_, hwkrs, -⟩ := (System.act_cases hact).worker
    refine ⟨?_, (Function.update_of_ne (hne rfl) ..).trans htick, hdispatch⟩
    change system.workers id = none
    rw [hwkrs, Function.update_of_ne (hne rfl), hwkr]
  | planLoaded _ _ _ _ hworld | planAdvanced _ _ _ _ _ hworld =>
    obtain ⟨-, e, -, rfl⟩ := CaseWorld.step_engine_cases hworld
    exact ⟨hwkr, htick, hdispatch⟩
  | planAudited _ _ _ hworld =>
    exact ⟨by rw [(CaseWorld.advanceAudit_frame hworld).1, hwkr], htick, hdispatch⟩
  | planCheckpointed =>
    exact ⟨hwkr, htick, hdispatch⟩
  | gapsPersisted _ _ _ _ _ _ hworld =>
    rw [CaseWorld.otherWrites_eq hworld]
    exact ⟨hwkr, htick, hdispatch⟩
  | handoffPersisted _ _ _ _ _ _ _ _ hworld =>
    rw [CaseWorld.otherWrites_eq hworld]
    exact ⟨hwkr, (Function.update_of_ne (hne rfl) ..).trans htick, hdispatch⟩
  | gateEnsured requestId caseVersion gateType ref now actorId dispositionRef world hfree hg1 hrange hwritten hworld =>
    cases hworld
    exact ⟨hwkr, (Function.update_of_ne (hne rfl) ..).trans htick, hdispatch⟩
  | versionBumped _ _ _ _ _ _ hworld =>
    obtain ⟨-, _, hsys, rfl⟩ := CaseWorld.step_worker_cases hworld
    simp only [System.step] at hsys
    split at hsys <;> cases hsys
    exact ⟨hwkr, (Function.update_of_ne (hne rfl) ..).trans htick, hdispatch⟩
  | reticked _ _ _ _ _ _ _ hworld =>
    rw [kickoff_world hworld]
    exact ⟨hwkr, (Function.update_of_ne (hne rfl) ..).trans htick, hdispatch⟩
  | tickLost => exact ⟨hwkr, (Function.update_of_ne (hne rfl) ..).trans htick, hdispatch⟩
  | advanced _ _ _ _ hworld =>
    rw [kickoff_world hworld]
    exact ⟨hwkr, htick, hdispatch⟩
  | sent _ _ _ _ _ _ _ _ hworld =>
    obtain ⟨-, _, hsys, rfl⟩ := CaseWorld.step_worker_cases hworld
    simp only [System.step] at hsys
    split at hsys <;> cases hsys
    exact ⟨hwkr, htick, (Function.update_of_ne (hne rfl) ..).trans hdispatch⟩
  | marked _ _ _ _ _ hworld =>
    rw [CaseWorld.otherWrites_eq hworld]
    exact ⟨hwkr, htick, (Function.update_of_ne (hne rfl) ..).trans hdispatch⟩
  | dispatchStopped =>
    exact ⟨hwkr, htick, (Function.update_of_ne (hne rfl) ..).trans hdispatch⟩

/-- **A run is quiet when everyone who took part in it is idle.** -/
theorem quiet_of_run {caseId : Uuid} {caseVersion : CaseVersion} {requests : List TickRequest}
    (hrun : run (step writtenFor) (start caseId caseVersion) requests = some w)
    (hidle : ∀ id ∈ requests.filterMap actor, w.IdleAt id) : w.Quiet := by
  have hall : ∀ id, w.IdleAt id := by
    intro id
    by_cases hactor : id ∈ requests.filterMap actor
    · exact hidle id hactor
    · have hothers : ∀ q ∈ requests, actor q ≠ some id :=
        fun q hq hid => hactor (List.mem_filterMap.2 ⟨q, hq, hid⟩)
      have hstep : ∀ {u : TickWorld} {q : TickRequest} {u' : TickWorld}, u.IdleAt id →
          actor q ≠ some id → step writtenFor u q = some u' → u'.IdleAt id :=
        fun h hq hu' => h.step (step_cases hu') hq
      exact run_invariant_of_allowed hstep hothers ⟨rfl, rfl, rfl⟩ hrun
  exact ⟨fun id => (hall id).1, fun id => (hall id).2.1, fun id => (hall id).2.2⟩

/-! ## Two runs of one case -/

instance (w : TickWorld) : Decidable w.Drained :=
  inferInstanceAs (Decidable (_ ∧ _))

instance (w : TickWorld) : Decidable w.PlanFailed :=
  inferInstanceAs (Decidable (∃ task ∈ w.tables.tasks, _))

instance (tables : CaseTables) (taskType : TaskType) : Decidable (tables.Completed taskType) :=
  inferInstanceAs (Decidable (∃ task ∈ tables.tasks, _))

/-- The event of a task is dispatched. -/
def dispatching (taskId : Uuid) (messageId : Nat) : List TickRequest :=
  [.send 200 taskId messageId 0, .markDispatched 200 0]

/-- A worker claims the task of a message. -/
def claiming (leaseToken : Uuid) (messageId : Nat) : List TickRequest :=
  [.around (.acquireSlot leaseToken 0 30 100), .worker leaseToken (.reclaimStranded 0),
    .worker leaseToken (.readOne messageId 0), .worker leaseToken (.claim 100),
    .worker leaseToken (.renew 100), .worker leaseToken (.renew 100), .worker leaseToken (.renew 0),
    .worker leaseToken .latestCheckpoint]

/-- A planning processor executes, creates tasks under the ids and saves its checkpoints. -/
def planning (leaseToken executionId : Uuid) (taskIds : List Uuid) (audits : Nat) :
    List TickRequest :=
  [.planLoad leaseToken executionId] ++
    List.replicate allGates.length (.planAdvance leaseToken (.advanceRefresh executionId 0)) ++
    [.planAdvance leaseToken (.advancePlan executionId .notAsked)] ++
    taskIds.map (fun taskId => .planAdvance leaseToken (.advanceSchedule executionId taskId 0)) ++
    List.replicate audits (.planAudit leaseToken) ++ List.replicate 3 (.planCheckpoint leaseToken)

/-- A worker writes its success, archives the message and returns. -/
def succeeding (leaseToken : Uuid) : List TickRequest :=
  [.worker leaseToken (.report .succeeded), .worker leaseToken (.settle 0),
    .worker leaseToken .archive, .worker leaseToken .releaseSlot]

/-- Intake and the second gate fire their ticks, both are carried out, and the two makers are claimed, the
second one still under way. -/
def makersRun : List TickRequest :=
  [.persistHandoff 100 7 1 3, .ensureGate 101 1 .g2GapRequestApproval 500 0 30 none,
    .retick 100 11 0, .retick 101 12 0] ++
  dispatching 11 1 ++ dispatching 12 2 ++
  claiming 21 1 ++ planning 21 301 [31, 32] 1 ++ succeeding 21 ++
  claiming 22 2 ++ planning 22 302 [] 1 ++ succeeding 22 ++
  dispatching 31 3 ++ dispatching 32 4 ++
  claiming 23 3 ++ succeeding 23 ++ [.retick 23 13 0] ++ dispatching 13 5 ++
  claiming 24 5 ++ planning 24 303 [] 1 ++ succeeding 24 ++ claiming 25 4

/-- The success of the second maker is written, the archive fails, and the redelivery finds the task
finished. -/
def lostRun : List TickRequest :=
  makersRun ++
  [.worker 25 (.report .succeeded), .worker 25 (.settle 0), .worker 25 .raise, .worker 25 .getFailed,
    .worker 25 .releaseSlot] ++
  [.around (.acquireSlot 26 0 30 100), .worker 26 (.reclaimStranded 0), .worker 26 (.readOne 4 0),
    .worker 26 (.claim 100), .worker 26 .getUnclaimed, .worker 26 .archive, .worker 26 .releaseSlot]

/-- The second maker returns its success. Its tick schedules the review, and that of the review waits for
the third gate. -/
def keptRun : List TickRequest :=
  makersRun ++ succeeding 25 ++ [.retick 25 14 0] ++ dispatching 14 6 ++
  claiming 27 6 ++ planning 27 304 [33] 1 ++ succeeding 27 ++ dispatching 33 7 ++
  claiming 28 7 ++ succeeding 28 ++ [.retick 28 15 0] ++ dispatching 15 8 ++
  claiming 29 8 ++ planning 29 305 [] 2 ++ succeeding 29

set_option maxRecDepth 20000 in
theorem lostRun_ends : (run (step fun _ => 1) (start 1 1) lostRun).any (fun w =>
    w.Drained ∧ (∀ id ∈ lostRun.filterMap actor, w.IdleAt id) ∧ ¬ w.PlanFailed ∧
      (evaluateReadiness w.tables.loadSnapshot .canonical).readyTypes =
        [.independentRiskReview]) = true := by
  decide +kernel

set_option maxRecDepth 20000 in
theorem keptRun_ends : (run (step fun _ => 1) (start 1 1) keptRun).any (fun w =>
    w.Drained ∧ (∀ id ∈ keptRun.filterMap actor, w.IdleAt id) ∧ ¬ w.PlanFailed ∧
      w.tables.Completed .independentRiskReview) = true := by
  decide +kernel

set_option maxRecDepth 20000 in
theorem keptRun_meets : RunMeets (step fun _ => 1) (fun w q => losesTick w q = false) (start 1 1)
    keptRun := by
  decide +kernel

end CreditOps.Workers.TickWorld
