import CreditOps.Outbox.Dispatch

/-!
# Whether every event gets its turn

A dispatcher that nothing disturbs handles its batch in one go (`dispatchRun`, which is the run of its
requests by `run_dispatchRequests`). A failing event stays undispatched and keeps its place, so the next run
loads it again: neither its attempts nor its failure take it out of `order by created_at, id limit …`.
-/

set_option autoImplicit false

namespace CreditOps.Outbox

open Orchestration Workers Transition PartialMap

/-- The default `batch_limit` of `DispatchOutbox`. -/
def batchLimit : Nat := 32

/-! ## A run nothing disturbs -/

/-- The outbox table and the messages the runs have enqueued, with the counters of the run. -/
structure OutboxState where
  table : OutboxTable
  enqueued : List TaskEnvelope
  dispatched : Nat
  failed : Nat

/-- What surrounds one run: the replies of the queue to its sends, and the time it writes. -/
structure Round where
  reply : OutboxCore → SendReply
  now : Timestamp

namespace OutboxState

/-- The failure of an event is written and counted. -/
def fail (s : OutboxState) (event : OutboxRow) : OutboxState :=
  { s with
    table := s.table.recordOutboxDispatchFailure event.eventId
    failed := s.failed + 1 }

/-- The loop body of `run`. -/
def dispatchEvent (round : Round) (s : OutboxState) (event : OutboxRow) : OutboxState :=
  if event.eventType ≠ taskReadyEvent then s.fail event
  else
    match event.payload.validate with
    | none => s.fail event
    | some envelope =>
      match round.reply event.toOutboxCore with
      | .accepted =>
        { s with
          table := s.table.markOutboxDispatched event.eventId round.now
          enqueued := s.enqueued ++ [envelope]
          dispatched := s.dispatched + 1 }
      | .refused => s.fail event
      | .lost => { s.fail event with enqueued := s.enqueued ++ [envelope] }

/-- `run`: the events of one batch, one after the other. -/
def dispatchRun (limit : Nat) (s : OutboxState) (round : Round) : OutboxState :=
  (s.table.loadUndispatchedOutbox limit).foldl (dispatchEvent round)
    { s with dispatched := 0, failed := 0 }

/-- Runs, one after the other. -/
def dispatchRuns (limit : Nat) (s : OutboxState) (rounds : List Round) : OutboxState :=
  rounds.foldl (dispatchRun limit) s

/-- The table before the runs. -/
def ofTable (table : OutboxTable) : OutboxState where
  table
  enqueued := []
  dispatched := 0
  failed := 0

end OutboxState

/-! ## The run as its requests -/

namespace DispatchWorld

/-- The requests of the loop, for a batch. -/
def handlingRequests (runId : Uuid) (round : Round) (batch : List OutboxRow) : List DispatchRequest :=
  batch.flatMap fun event =>
    [.dispatchSend runId (round.reply event.toOutboxCore), .dispatchRecord runId round.now]

/-- The requests of a run. -/
def dispatchRequests (runId : Uuid) (limit : Nat) (round : Round) (accepted : Option Bool)
    (table : OutboxTable) : List DispatchRequest :=
  .dispatchLoad runId limit ::
    (handlingRequests runId round (table.loadUndispatchedOutbox limit) ++
      [.dispatchFinish runId accepted])

/-- The world in the middle of a run that has come to `s`. -/
def during (w : DispatchWorld) (runId : Uuid) (s : OutboxState) (pending : List OutboxRow) :
    DispatchWorld :=
  { w.withDispatcher runId (some ⟨pending, .fresh, s.dispatched, s.failed⟩) with
    outbox := s.table
    enqueued := s.enqueued }

variable {w : DispatchWorld} {runId : Uuid} {s : OutboxState} {round : Round}

/-- One turn of the loop is its two requests. -/
theorem run_handling_event (event : OutboxRow) (rest : List OutboxRow) :
    run step (w.during runId s (event :: rest))
        [.dispatchSend runId (round.reply event.toOutboxCore), .dispatchRecord runId round.now] =
      some (w.during runId (s.dispatchEvent round event) rest) := by
  by_cases htype : event.eventType = taskReadyEvent
  · cases hvalid : event.payload.validate with
    | none =>
      simp [run, step, during, withDispatcher, DispatchRun.publish, DispatchRun.record,
        OutboxState.dispatchEvent, OutboxState.fail, htype, hvalid]
    | some =>
      cases hreply : round.reply event.toOutboxCore with
      | accepted =>
        simp [run, step, during, withDispatcher, DispatchRun.publish, DispatchRun.record,
          OutboxState.dispatchEvent, htype, hvalid, hreply]
      | refused | lost =>
        simp [run, step, during, withDispatcher, DispatchRun.publish, DispatchRun.record,
          OutboxState.dispatchEvent, OutboxState.fail, htype, hvalid, hreply]
  · simp [run, step, during, withDispatcher, DispatchRun.publish, DispatchRun.record,
      OutboxState.dispatchEvent, OutboxState.fail, htype]

theorem run_handlingRequests (batch : List OutboxRow) :
    run step (w.during runId s batch) (handlingRequests runId round batch) =
      some (w.during runId (batch.foldl (OutboxState.dispatchEvent round) s) []) := by
  induction batch generalizing s with
  | nil => rfl
  | cons event rest ih =>
    exact run_append_eq_some.2 ⟨_, run_handling_event event rest, ih⟩

/-- The world after a run that has come to `s` returned its counters. -/
def afterRun (w : DispatchWorld) (runId : Uuid) (s : OutboxState) (accepted : Option Bool) :
    DispatchWorld :=
  { w with
    outbox := s.table
    enqueued := s.enqueued
    results := Function.update w.results runId
      (some ⟨s.dispatched, s.failed, 0 < s.dispatched ∧ accepted = some true⟩) }

/-- **A run nothing disturbs** commits what its requests commit, and returns its counters. -/
theorem run_dispatchRequests (hfree : w.dispatchers runId = none) (limit : Nat)
    (accepted : Option Bool) :
    run step w (dispatchRequests runId limit round accepted w.outbox) =
      some (w.afterRun runId (OutboxState.dispatchRun limit ⟨w.outbox, w.enqueued, 0, 0⟩ round)
        accepted) := by
  have hload : step w (.dispatchLoad runId limit) =
      some (w.during runId ⟨w.outbox, w.enqueued, 0, 0⟩ (w.outbox.loadUndispatchedOutbox limit)) := by
    simp only [step, hfree]
    rfl
  have hloop : run step
      (w.during runId ⟨w.outbox, w.enqueued, 0, 0⟩ (w.outbox.loadUndispatchedOutbox limit))
      (handlingRequests runId round (w.outbox.loadUndispatchedOutbox limit)) =
      some (w.during runId (OutboxState.dispatchRun limit ⟨w.outbox, w.enqueued, 0, 0⟩ round) []) :=
    run_handlingRequests _
  refine run_cons_eq_some.2 ⟨_, hload, run_append_eq_some.2 ⟨_, hloop, ?_⟩⟩
  generalize OutboxState.dispatchRun limit ⟨w.outbox, w.enqueued, 0, 0⟩ round = s
  simp [run, step, during, withDispatcher, DispatchRun.finish, afterRun, hfree]

/-- A world whose table holds one event. -/
def oneEvent : DispatchWorld where
  cases _ := none
  outbox :=
    ⟨[⟨⟨3, 1, 1, taskReadyEvent, "1", "PROCESSING_TASK", 3, .other "{}", none, 3⟩, 0, none⟩],
      List.nodup_singleton 3⟩
  enqueued := []
  dispatchers _ := none
  results _ := none

theorem run_oneEvent :
    run step oneEvent (dispatchRequests 0 batchLimit ⟨fun _ => .lost, 4⟩ none oneEvent.outbox) =
      some (oneEvent.afterRun 0
        (OutboxState.dispatchRun batchLimit ⟨oneEvent.outbox, [], 0, 0⟩ ⟨fun _ => .lost, 4⟩) none) :=
  run_dispatchRequests rfl batchLimit none

end DispatchWorld

/-! ## The events that wait -/

/-- The undispatched events. -/
def OutboxTable.waiting (table : OutboxTable) : List OutboxCore :=
  table.undispatched.map (·.toOutboxCore)

/-- The dispatcher publishes the event when it is of the known type, its payload is an envelope, and the
queue accepts it. -/
def publishable (accepts : OutboxCore → Bool) (core : OutboxCore) : Bool :=
  core.eventType = taskReadyEvent ∧ core.payload.validate.isSome ∧ accepts core

/-- The queue accepts the events it accepts in every run, and fails the others in every run. -/
def Round.Follows (accepts : OutboxCore → Bool) (round : Round) : Prop :=
  ∀ core, round.reply core = .accepted ↔ accepts core = true

/-- How many of the waiting events that cannot be published are ahead of `core`. -/
def failingAhead (table : OutboxTable) (accepts : OutboxCore → Bool) (core : OutboxCore) : Nat :=
  Window.rank OutboxCore.place (table.waiting.filter fun other => !publishable accepts other) core

namespace OutboxTable

variable {table : OutboxTable} {core other : OutboxCore} {eventId : Uuid} {limit : Nat}

theorem mem_waiting :
    core ∈ table.waiting ↔ ∃ row ∈ table.rows, row.dispatchedAt = none ∧ row.toOutboxCore = core := by
  simp only [waiting, List.mem_map, mem_undispatched, and_assoc]

theorem waiting_eq_of_eventId (h : core ∈ table.waiting) (h' : other ∈ table.waiting)
    (hid : core.eventId = other.eventId) : core = other := by
  obtain ⟨_, hrow, -, rfl⟩ := mem_waiting.1 h
  obtain ⟨_, hrow', -, rfl⟩ := mem_waiting.1 h'
  rw [row_eq_of_eventId hrow hrow' hid]

/-- **A mark takes its event off the waiting ones.** -/
theorem waiting_markOutboxDispatched (table : OutboxTable) (eventId : Uuid) (now : Timestamp) :
    (table.markOutboxDispatched eventId now).waiting =
      table.waiting.filter fun core => core.eventId ≠ eventId := by
  have hrows : ∀ rows : List OutboxRow,
      ((rows.map (updateRow eventId (markRow now))).filter (·.dispatchedAt = none)).map
          (·.toOutboxCore) =
        ((rows.filter (·.dispatchedAt = none)).map (·.toOutboxCore)).filter
          fun core => core.eventId ≠ eventId := by
    intro rows
    induction rows with
    | nil => rfl
    | cons row _ ih =>
      by_cases hnone : row.dispatchedAt = none
      · by_cases hid : row.eventId = eventId
        · simp [updateRow, markRow, hnone, hid, ih]
        · simp [updateRow, hnone, hid, ih]
      · simp [updateRow, hnone, ih]
  exact hrows table.rows

/-- **A failure leaves the waiting events as they are.** The attempts play no part in the order. -/
theorem waiting_recordOutboxDispatchFailure (table : OutboxTable) (eventId : Uuid) :
    (table.recordOutboxDispatchFailure eventId).waiting = table.waiting := by
  have hrows : ∀ rows : List OutboxRow,
      ((rows.map (updateRow eventId recordRow)).filter (·.dispatchedAt = none)).map
          (·.toOutboxCore) =
        (rows.filter (·.dispatchedAt = none)).map (·.toOutboxCore) := by
    intro rows
    induction rows with
    | nil => rfl
    | cons row _ ih =>
      by_cases hnone : row.dispatchedAt = none
      · by_cases hid : row.eventId = eventId
        · simp [updateRow, recordRow, hnone, hid, ih]
        · simp [updateRow, hnone, hid, ih]
      · simp [updateRow, hnone, ih]
  exact hrows table.rows

/-- **The batch in terms of the waiting events.** It holds an event exactly when fewer than its limit
are ahead. -/
theorem mem_batch_iff (h : core ∈ table.waiting) :
    (∃ event ∈ table.loadUndispatchedOutbox limit, event.toOutboxCore = core) ↔
      Window.rank OutboxCore.place table.waiting core < limit := by
  obtain ⟨row, hrow, hnone, rfl⟩ := mem_waiting.1 h
  have hrank : Window.rank OutboxCore.place table.waiting row.toOutboxCore = table.ahead row := by
    rw [Window.rank, waiting, List.countP_map]
    rfl
  rw [hrank]
  constructor
  · rintro ⟨_, hevent, hcore⟩
    obtain ⟨hmem, -, hahead⟩ := mem_loadUndispatchedOutbox_iff.1 hevent
    rwa [row_eq_of_eventId hmem hrow (congrArg OutboxCore.eventId hcore)] at hahead
  · intro hahead
    exact ⟨row, mem_loadUndispatchedOutbox_iff.2 ⟨hrow, hnone, hahead⟩, rfl⟩

end OutboxTable

/-! ## What a run does to the waiting events -/

namespace OutboxState

variable {s s' : OutboxState} {round : Round} {accepts : OutboxCore → Bool} {limit : Nat}
  {core : OutboxCore}

/-- **One turn of the loop.** An event that can be published is marked and its envelope enqueued; for
every other the table counts a failure. -/
theorem dispatchEvent_cases (hround : round.Follows accepts) (s : OutboxState) (event : OutboxRow) :
    (∃ envelope, publishable accepts event.toOutboxCore = true ∧
        event.payload.validate = some envelope ∧
        (s.dispatchEvent round event).table =
          s.table.markOutboxDispatched event.eventId round.now ∧
        (s.dispatchEvent round event).enqueued = s.enqueued ++ [envelope]) ∨
      (publishable accepts event.toOutboxCore = false ∧
        (s.dispatchEvent round event).table = s.table.recordOutboxDispatchFailure event.eventId ∧
        s.enqueued <+: (s.dispatchEvent round event).enqueued) := by
  have hreply := hround event.toOutboxCore
  unfold dispatchEvent publishable
  by_cases htype : event.eventType = taskReadyEvent
  · rw [if_neg (not_not.2 htype)]
    cases hvalid : event.payload.validate with
    | none => exact Or.inr ⟨by simp, rfl, List.prefix_rfl⟩
    | some envelope =>
      cases hsend : round.reply event.toOutboxCore with
      | accepted => exact Or.inl ⟨envelope, by simp [htype, hreply.1 hsend], rfl, rfl, rfl⟩
      | refused =>
        rw [hsend] at hreply
        refine Or.inr ⟨?_, rfl, List.prefix_rfl⟩
        simpa using fun _ => (iff_false_left nofun).1 hreply
      | lost =>
        rw [hsend] at hreply
        refine Or.inr ⟨?_, rfl, List.prefix_append _ _⟩
        simpa using fun _ => (iff_false_left nofun).1 hreply
  · rw [if_pos htype]
    exact Or.inr ⟨by simp [htype], rfl, List.prefix_rfl⟩

theorem dispatchEvent_frame (hround : round.Follows accepts) (s : OutboxState) (event : OutboxRow) :
    s.table.MovesForward (s.dispatchEvent round event).table ∧
      (s.dispatchEvent round event).table.events = s.table.events ∧
      s.enqueued <+: (s.dispatchEvent round event).enqueued := by
  rcases dispatchEvent_cases hround s event with ⟨_, -, -, htable, hsent⟩ | ⟨-, htable, hsent⟩
  · rw [htable, hsent]
    exact ⟨OutboxTable.movesForward_updatePending fun _ => guardMutation_markRow round.now,
      OutboxTable.events_updatePending, List.prefix_append _ _⟩
  · rw [htable]
    exact ⟨OutboxTable.movesForward_updatePending fun row _ => guardMutation_recordRow row,
      OutboxTable.events_updatePending, hsent⟩

theorem waiting_dispatchEvent (hround : round.Follows accepts) (s : OutboxState) (event : OutboxRow) :
    (s.dispatchEvent round event).table.waiting =
      s.table.waiting.filter fun core =>
        !(publishable accepts event.toOutboxCore && decide (event.eventId = core.eventId)) := by
  rcases dispatchEvent_cases hround s event with ⟨-, hgood, -, htable, -⟩ | ⟨hbad, htable, -⟩
  · rw [htable, OutboxTable.waiting_markOutboxDispatched]
    apply List.filter_congr
    intro core _
    simp [hgood, eq_comm]
  · rw [htable, OutboxTable.waiting_recordOutboxDispatchFailure]
    simp [hbad]

theorem waiting_foldl (hround : round.Follows accepts) (batch : List OutboxRow) :
    (batch.foldl (dispatchEvent round) s).table.waiting =
      s.table.waiting.filter fun core =>
        !batch.any fun event =>
          publishable accepts event.toOutboxCore && decide (event.eventId = core.eventId) := by
  induction batch generalizing s with
  | nil => simp
  | cons _ _ ih =>
    rw [List.foldl_cons, ih, waiting_dispatchEvent hround, List.filter_filter]
    apply List.filter_congr
    intro core _
    rw [List.any_cons, Bool.not_or, Bool.and_comm]

/-- **A run drains the window.** It takes the events that can be published off the `limit` oldest ones
that wait. -/
theorem waiting_dispatchRun (hround : round.Follows accepts) (s : OutboxState) :
    (dispatchRun limit s round).table.waiting =
      Window.drain OutboxCore.place (fun core => !publishable accepts core) limit s.table.waiting := by
  rw [dispatchRun, waiting_foldl hround, Window.drain]
  apply List.filter_congr
  intro core hcore
  have hany : ((s.table.loadUndispatchedOutbox limit).any fun event =>
        publishable accepts event.toOutboxCore && decide (event.eventId = core.eventId)) = true ↔
      publishable accepts core = true ∧
        Window.rank OutboxCore.place s.table.waiting core < limit := by
    rw [← OutboxTable.mem_batch_iff hcore, List.any_eq_true]
    constructor
    · rintro ⟨event, hevent, hmatch⟩
      obtain ⟨hgood, hid⟩ := Bool.and_eq_true_iff.1 hmatch
      obtain ⟨hmem, hnone, -⟩ := OutboxTable.mem_loadUndispatchedOutbox_iff.1 hevent
      have hsame : event.toOutboxCore = core :=
        OutboxTable.waiting_eq_of_eventId (OutboxTable.mem_waiting.2 ⟨event, hmem, hnone, rfl⟩) hcore
          (of_decide_eq_true hid)
      exact ⟨hsame ▸ hgood, event, hevent, hsame⟩
    · rintro ⟨hgood, event, hevent, rfl⟩
      exact ⟨event, hevent, Bool.and_eq_true_iff.2 ⟨hgood, decide_eq_true rfl⟩⟩
  rw [Bool.eq_iff_iff, Bool.not_eq_true', ← Bool.not_eq_true, hany, not_and_or, not_lt,
    Bool.or_eq_true, Bool.not_eq_true', Bool.not_eq_true, decide_eq_true_eq]

theorem waiting_dispatchRuns {rounds : List Round} (hrounds : ∀ round ∈ rounds, round.Follows accepts)
    (s : OutboxState) :
    (dispatchRuns limit s rounds).table.waiting =
      (Window.drain OutboxCore.place (fun core => !publishable accepts core) limit)^[rounds.length]
        s.table.waiting := by
  induction rounds generalizing s with
  | nil => rfl
  | cons _ _ ih =>
    obtain ⟨hround, hrest⟩ := List.forall_mem_cons.1 hrounds
    rw [dispatchRuns, List.foldl_cons, List.length_cons, Function.iterate_succ_apply,
      ← waiting_dispatchRun hround]
    exact ih hrest _

/-! ## Published events -/

/-- The event is marked dispatched, and its message was enqueued. -/
def Published (s : OutboxState) (core : OutboxCore) : Prop :=
  (∃ row ∈ s.table.rows, row.toOutboxCore = core ∧ row.dispatchedAt ≠ none) ∧
    ∃ envelope ∈ s.enqueued, core.payload.validate = some envelope

theorem Published.not_waiting (h : s.Published core) : core ∉ s.table.waiting := by
  intro hwaiting
  obtain ⟨⟨row, hrow, hcore, hset⟩, -⟩ := h
  obtain ⟨row', hrow', hnone, hcore'⟩ := OutboxTable.mem_waiting.1 hwaiting
  have hsame : row = row' := by
    apply OutboxTable.row_eq_of_eventId hrow hrow'
    rw [hcore, hcore']
  exact hset (hsame ▸ hnone)

/-- The event waits or is published. -/
def Accounted (s : OutboxState) (core : OutboxCore) : Prop :=
  core ∈ s.table.waiting ∨ s.Published core

/-- **A turn of the loop loses no event.** An event that no longer waits has been published. -/
theorem Accounted.dispatchEvent (h : s.Accounted core) (hround : round.Follows accepts)
    {event : OutboxRow} (hevent : event.toOutboxCore ∈ s.table.events) :
    (s.dispatchEvent round event).Accounted core := by
  obtain ⟨hforward, -, hpre⟩ := dispatchEvent_frame hround s event
  rcases h with hwaiting | ⟨⟨row, hrow, rfl, hset⟩, envelope, hsent, hvalid⟩
  · obtain ⟨row, hrow, hnone, rfl⟩ := OutboxTable.mem_waiting.1 hwaiting
    rcases dispatchEvent_cases hround s event with
      ⟨envelope, -, hvalid, htable, hsent⟩ | ⟨-, htable, -⟩
    · by_cases hid : row.eventId = event.eventId
      · -- the event is the one that was marked
        obtain ⟨stored, hstored, hcore⟩ := List.mem_map.1 hevent
        have hsame : row = stored := by
          apply OutboxTable.row_eq_of_eventId hrow hstored
          rw [hid, ← hcore]
        refine Or.inr ⟨⟨markRow round.now row, ?_, rfl, Option.some_ne_none _⟩, envelope, ?_, ?_⟩
        · rw [htable]
          exact List.mem_map.2 ⟨row, hrow, if_pos ⟨hid, hnone⟩⟩
        · rw [hsent]
          exact List.mem_append_right _ (List.mem_singleton_self _)
        · rw [hsame, hcore]
          exact hvalid
      · refine Or.inl ?_
        rw [htable, OutboxTable.waiting_markOutboxDispatched]
        exact List.mem_filter.2 ⟨hwaiting, decide_eq_true hid⟩
    · refine Or.inl ?_
      rw [htable, OutboxTable.waiting_recordOutboxDispatchFailure]
      exact hwaiting
  · obtain ⟨row', hrow', hstep⟩ := hforward row hrow
    refine Or.inr ⟨⟨row', hrow', hstep.core, ?_⟩, envelope, hpre.subset hsent, hvalid⟩
    rw [hstep.dispatched hset]
    exact hset

theorem Accounted.foldl (h : s.Accounted core) (hround : round.Follows accepts)
    {batch : List OutboxRow} (hbatch : ∀ event ∈ batch, event.toOutboxCore ∈ s.table.events) :
    (batch.foldl (OutboxState.dispatchEvent round) s).Accounted core := by
  induction batch generalizing s with
  | nil => exact h
  | cons event _ ih =>
    obtain ⟨hevent, hrest⟩ := List.forall_mem_cons.1 hbatch
    refine ih (h.dispatchEvent hround hevent) ?_
    rw [(dispatchEvent_frame hround s event).2.1]
    exact hrest

theorem Accounted.dispatchRuns (h : s.Accounted core) {rounds : List Round}
    (hrounds : ∀ round ∈ rounds, round.Follows accepts) :
    (OutboxState.dispatchRuns limit s rounds).Accounted core := by
  induction rounds generalizing s with
  | nil => exact h
  | cons _ _ ih =>
    obtain ⟨hround, hrest⟩ := List.forall_mem_cons.1 hrounds
    refine ih ?_ hrest
    have hstart : Accounted { s with dispatched := 0, failed := 0 } core := h
    refine hstart.foldl hround fun event hevent => ?_
    exact List.mem_map_of_mem (OutboxTable.mem_loadUndispatchedOutbox_iff.1 hevent).1

end OutboxState

/-! ## Whether every event gets its turn -/

open OutboxState in
/-- **An event with a full batch of failing ones ahead waits for ever.** -/
theorem waiting_of_blocked {table : OutboxTable} {accepts : OutboxCore → Bool} {limit : Nat}
    {core : OutboxCore} (hmem : core ∈ table.waiting) (hblocked : limit ≤ failingAhead table accepts core)
    {rounds : List Round} (hrounds : ∀ round ∈ rounds, round.Follows accepts) :
    core ∈ (dispatchRuns limit (ofTable table) rounds).table.waiting := by
  rw [waiting_dispatchRuns hrounds]
  exact Window.mem_iterate_drain_of_stuck hmem hblocked _

/-- A run in which the queue does as `accepts` says. -/
def Round.following (accepts : OutboxCore → Bool) : Round where
  reply core := if accepts core then .accepted else .refused
  now := 0

theorem Round.following_follows (accepts : OutboxCore → Bool) :
    (Round.following accepts).Follows accepts := by
  intro core
  cases h : accepts core <;> simp [following, h]

/-- Thirty-two events whose payload is no envelope, and behind them a good one. -/
def blockedOutbox : OutboxTable where
  rows := (List.range 33).map fun i =>
    ⟨⟨i, 1, 1, taskReadyEvent, "1", "PROCESSING_TASK", i,
      if i < 32 then .other "{}" else .envelope i 1 1 .orchestratorPlan none, none, i⟩, 0, none⟩
  keyed := by decide

/-- The good event at the end. -/
def blockedEvent : OutboxCore :=
  ⟨32, 1, 1, taskReadyEvent, "1", "PROCESSING_TASK", 32, .envelope 32 1 1 .orchestratorPlan none, none,
    32⟩

end CreditOps.Outbox
