import Mathlib.Data.Prod.Lex
import CreditOps.Library.Window
import CreditOps.Workers.Tasks

/-!
# The outbox table

A row of `outbox_events` has columns that never change, the event proper (`OutboxCore`), and the dispatch
bookkeeping. The table carries its primary key: rows with one id cannot be built.
-/

set_option autoImplicit false

namespace CreditOps.Outbox

open Orchestration Workers

/-! ## Rows -/

/-- `TASK_READY_EVENT` -/
def taskReadyEvent : String := "TASK_READY"

/-- The JSON object of an event, as far as `TaskEnvelopeV1` parses it: its fields, or an object that
lacks one, has one too many or has one of another shape. -/
inductive OutboxPayload where
  | envelope (taskId caseId : Uuid) (caseVersion : Nat) (taskType : TaskType)
      (documentVersionId : Option Uuid)
  | other (json : String)
deriving DecidableEq

/-- `TaskEnvelopeV1.model_validate`; `none` for a `ValidationError`. -/
def OutboxPayload.validate : OutboxPayload → Option TaskEnvelope
  | .envelope taskId caseId caseVersion taskType documentVersionId =>
    if h : 1 ≤ caseVersion ∧ (taskType = .documentIngestion ↔ documentVersionId.isSome = true) then
      some ⟨taskId, caseId, caseVersion, taskType, documentVersionId, h.1, h.2⟩
    else none
  | .other _ => none

/-- The core columns of `outbox_events`, which are append-only. -/
structure OutboxCore where
  eventId : Uuid
  caseId : Uuid
  caseVersion : CaseVersion
  eventType : String
  eventSchemaVersion : String
  aggregateType : String
  aggregateId : Uuid
  payload : OutboxPayload
  correlationId : Option String
  createdAt : Timestamp
deriving DecidableEq

/-- One row of `outbox_events`: the event and its dispatch bookkeeping. -/
structure OutboxRow extends OutboxCore where
  dispatchAttempts : Nat
  dispatchedAt : Option Timestamp
deriving DecidableEq

/-- The place of an event in `order by created_at, id`. -/
def OutboxCore.place (core : OutboxCore) : Timestamp ×ₗ Uuid :=
  toLex (core.createdAt, core.eventId)

/-- The columns of an insert that the table checks. -/
def OutboxCore.checked (core : OutboxCore) : Bool :=
  0 < core.caseVersion ∧ core.eventType ∈ [taskReadyEvent]

/-! ## The trigger -/

/-- `outbox_events_guard_mutation`: an update to a new row, or a delete. -/
def guardMutation (old : OutboxRow) : Option OutboxRow → Except SqlError OutboxRow
  | none =>
    .error (.insufficientPrivilege "outbox_events rows are append-only and cannot be deleted")
  | some new =>
    if new.toOutboxCore ≠ old.toOutboxCore then
      .error (.insufficientPrivilege "outbox_events core columns are immutable")
    else if old.dispatchedAt ≠ none ∧ new.dispatchedAt ≠ old.dispatchedAt then
      .error (.insufficientPrivilege
        "a dispatched outbox event cannot be re-dispatched or reverted")
    else if new.dispatchAttempts < old.dispatchAttempts then
      .error (.insufficientPrivilege "outbox dispatch attempts can never decrease")
    else .ok new

/-- A mutation that only moves the bookkeeping forward. -/
structure Forward (old new : OutboxRow) : Prop where
  core : new.toOutboxCore = old.toOutboxCore
  dispatched : old.dispatchedAt ≠ none → new.dispatchedAt = old.dispatchedAt
  attempts : old.dispatchAttempts ≤ new.dispatchAttempts

theorem Forward.refl (row : OutboxRow) : Forward row row :=
  ⟨rfl, fun _ => rfl, Nat.le_refl _⟩

theorem Forward.trans {old mid new : OutboxRow} (h : Forward old mid) (h' : Forward mid new) :
    Forward old new where
  core := h'.core.trans h.core
  dispatched hset := by
    have hmid := h.dispatched hset
    exact (h'.dispatched (hmid ▸ hset)).trans hmid
  attempts := h.attempts.trans h'.attempts

/-- **What the trigger lets through** is forward bookkeeping. -/
theorem guardMutation_ok_iff {old new written : OutboxRow} :
    guardMutation old (some new) = .ok written ↔ written = new ∧ Forward old new := by
  simp only [guardMutation]
  split
  · rename_i hcore
    exact ⟨nofun, fun h => absurd h.2.core hcore⟩
  · rename_i hcore
    split
    · rename_i hreverted
      exact ⟨nofun, fun h => absurd (h.2.dispatched hreverted.1) hreverted.2⟩
    · rename_i hreverted
      split
      · rename_i hfewer
        exact ⟨nofun, fun h => absurd h.2.attempts (Nat.not_le_of_lt hfewer)⟩
      · rename_i hfewer
        rw [Except.ok.injEq, eq_comm, iff_self_and]
        intro _
        exact ⟨not_not.1 hcore, fun hset => by_contra fun hne => hreverted ⟨hset, hne⟩,
          Nat.le_of_not_lt hfewer⟩

/-- What `mark_outbox_dispatched` sets. -/
def markRow (now : Timestamp) (row : OutboxRow) : OutboxRow :=
  { row with dispatchedAt := some now }

/-- What `record_outbox_dispatch_failure` sets. -/
def recordRow (row : OutboxRow) : OutboxRow :=
  { row with dispatchAttempts := row.dispatchAttempts + 1 }

theorem guardMutation_markRow (now : Timestamp) {row : OutboxRow} (h : row.dispatchedAt = none) :
    guardMutation row (some (markRow now row)) = .ok (markRow now row) :=
  guardMutation_ok_iff.2 ⟨rfl, rfl, fun hset => absurd h hset, Nat.le_refl _⟩

theorem guardMutation_recordRow (row : OutboxRow) :
    guardMutation row (some (recordRow row)) = .ok (recordRow row) :=
  guardMutation_ok_iff.2 ⟨rfl, rfl, fun _ => rfl, Nat.le_succ _⟩

/-! ## The table -/

/-- `outbox_events`, in the order of the inserts, with its primary key. -/
structure OutboxTable where
  rows : List OutboxRow
  keyed : (rows.map (·.eventId)).Nodup

namespace OutboxTable

/-- The table before the first event. -/
def empty : OutboxTable := ⟨[], List.nodup_nil⟩

/-- `insert`; `none` when a column check or the primary key refuses the row. -/
def insert (table : OutboxTable) (core : OutboxCore) : Option OutboxTable :=
  if h : core.checked = true ∧ core.eventId ∉ table.rows.map (·.eventId) then
    some
      { rows := table.rows ++ [⟨core, 0, none⟩]
        keyed := by
          rw [List.map_append, List.nodup_append]
          refine ⟨table.keyed, List.nodup_singleton _, ?_⟩
          rintro _ hid _ hother rfl
          rw [List.map_singleton, List.mem_singleton] at hother
          exact h.2 (hother ▸ hid) }
  else none

/-- What an update does to a row: the `where` clause and the new values. -/
def updateRow (eventId : Uuid) (set : OutboxRow → OutboxRow) (row : OutboxRow) : OutboxRow :=
  if row.eventId = eventId ∧ row.dispatchedAt = none then set row else row

theorem forward_updateRow {set : OutboxRow → OutboxRow}
    (accepted : ∀ row : OutboxRow, row.dispatchedAt = none →
      guardMutation row (some (set row)) = .ok (set row)) (eventId : Uuid) (row : OutboxRow) :
    Forward row (updateRow eventId set row) := by
  unfold updateRow
  split
  · rename_i hmatch
    exact (guardMutation_ok_iff.1 (accepted row hmatch.2)).2
  · exact Forward.refl row

/-- `update … where id = %s and dispatched_at is null`, of rows the trigger accepts. -/
def updatePending (table : OutboxTable) (eventId : Uuid) (set : OutboxRow → OutboxRow)
    (accepted : ∀ row : OutboxRow, row.dispatchedAt = none →
      guardMutation row (some (set row)) = .ok (set row)) : OutboxTable where
  rows := table.rows.map (updateRow eventId set)
  keyed := by
    have hids : (table.rows.map (updateRow eventId set)).map (·.eventId) =
        table.rows.map (·.eventId) := by
      rw [List.map_map]
      apply List.map_congr_left
      intro row _
      exact congrArg OutboxCore.eventId (forward_updateRow accepted eventId row).core
    rw [hids]
    exact table.keyed

/-- `mark_outbox_dispatched` -/
def markOutboxDispatched (table : OutboxTable) (eventId : Uuid) (now : Timestamp) : OutboxTable :=
  table.updatePending eventId (markRow now) fun _ => guardMutation_markRow now

/-- `record_outbox_dispatch_failure` -/
def recordOutboxDispatchFailure (table : OutboxTable) (eventId : Uuid) : OutboxTable :=
  table.updatePending eventId recordRow fun row _ => guardMutation_recordRow row

/-- The events of the table. -/
def events (table : OutboxTable) : List OutboxCore :=
  table.rows.map (·.toOutboxCore)

/-- The rows with `dispatched_at is null`. -/
def undispatched (table : OutboxTable) : List OutboxRow :=
  table.rows.filter (·.dispatchedAt = none)

/-- What the dispatcher selects from: the undispatched rows, `order by created_at, id`. -/
def eligible (table : OutboxTable) : List OutboxRow :=
  table.undispatched.insertionSort fun a b => a.place ≤ b.place

/-- `load_undispatched_outbox` -/
def loadUndispatchedOutbox (table : OutboxTable) (limit : Nat) : List OutboxRow :=
  table.eligible.take limit

variable {table table' : OutboxTable} {eventId : Uuid} {core : OutboxCore} {row row' : OutboxRow}
  {limit : Nat} {now : Timestamp}

/-! ## What an insert does -/

theorem insert_eq_some (h : table.insert core = some table') :
    core.checked = true ∧ core.eventId ∉ table.rows.map (·.eventId) ∧
      table'.rows = table.rows ++ [⟨core, 0, none⟩] := by
  unfold insert at h
  split at h
  · rename_i haccepted
    cases h
    exact ⟨haccepted.1, haccepted.2, rfl⟩
  · cases h

theorem events_insert (h : table.insert core = some table') : table'.events = table.events ++ [core] := by
  rw [events, (insert_eq_some h).2.2, List.map_append]
  rfl

/-! ## What the updates do -/

theorem row_eq_of_eventId (hmem : row ∈ table.rows) (hmem' : row' ∈ table.rows)
    (hid : row.eventId = row'.eventId) : row = row' :=
  List.inj_on_of_nodup_map table.keyed hmem hmem' hid

/-- Every row has a row after it that is the same event, further on. -/
def MovesForward (table table' : OutboxTable) : Prop :=
  ∀ row ∈ table.rows, ∃ row' ∈ table'.rows, Forward row row'

theorem MovesForward.refl (table : OutboxTable) : MovesForward table table :=
  fun row hmem => ⟨row, hmem, Forward.refl row⟩

theorem MovesForward.trans {table'' : OutboxTable} (h : MovesForward table table')
    (h' : MovesForward table' table'') : MovesForward table table'' := by
  intro row hmem
  obtain ⟨row', hmem', hforward⟩ := h row hmem
  obtain ⟨row'', hmem'', hforward'⟩ := h' row' hmem'
  exact ⟨row'', hmem'', hforward.trans hforward'⟩

theorem movesForward_insert (h : table.insert core = some table') : MovesForward table table' := by
  intro row hmem
  refine ⟨row, ?_, Forward.refl row⟩
  rw [(insert_eq_some h).2.2]
  exact List.mem_append_left _ hmem

section UpdatePending

variable {set : OutboxRow → OutboxRow}
  {accepted : ∀ row : OutboxRow, row.dispatchedAt = none →
    guardMutation row (some (set row)) = .ok (set row)}

variable (accepted) in
theorem movesForward_updatePending : MovesForward table (table.updatePending eventId set accepted) :=
  fun row hmem => ⟨_, List.mem_map_of_mem hmem, forward_updateRow accepted eventId row⟩

theorem mem_updatePending (h : row' ∈ (table.updatePending eventId set accepted).rows) :
    row' ∈ table.rows ∨
      ∃ row ∈ table.rows, row.eventId = eventId ∧ row.dispatchedAt = none ∧ row' = set row := by
  obtain ⟨row, hmem, rfl⟩ := List.mem_map.1 h
  by_cases hmatch : row.eventId = eventId ∧ row.dispatchedAt = none
  · exact Or.inr ⟨row, hmem, hmatch.1, hmatch.2, if_pos hmatch⟩
  · refine Or.inl ?_
    rw [updateRow, if_neg hmatch]
    exact hmem

theorem events_updatePending : (table.updatePending eventId set accepted).events = table.events := by
  rw [events, updatePending, List.map_map]
  apply List.map_congr_left
  intro row _
  exact (forward_updateRow accepted eventId row).core

end UpdatePending

/-! ## What the dispatcher reads -/

theorem mem_undispatched : row ∈ table.undispatched ↔ row ∈ table.rows ∧ row.dispatchedAt = none := by
  rw [undispatched, List.mem_filter, decide_eq_true_eq]

theorem mem_eligible : row ∈ table.eligible ↔ row ∈ table.rows ∧ row.dispatchedAt = none := by
  rw [eligible, (List.perm_insertionSort _ _).mem_iff, mem_undispatched]

theorem pairwise_eligible : table.eligible.Pairwise fun a b => a.place < b.place := by
  have hsort : table.eligible.Pairwise fun a b => a.place ≤ b.place :=
    List.pairwise_insertionSort _ _
  have hids : (table.eligible.map (·.eventId)).Nodup := by
    refine (((List.perm_insertionSort _ _).map _).nodup_iff).2 ?_
    exact table.keyed.sublist (List.filter_sublist.map _)
  refine (hsort.and (List.pairwise_map.1 hids)).imp ?_
  rintro a b ⟨hle, hne⟩
  refine lt_of_le_of_ne hle fun hsame => hne ?_
  exact (Prod.mk.inj (congrArg ofLex hsame)).2

/-- How many undispatched rows are older. -/
def ahead (table : OutboxTable) (row : OutboxRow) : Nat :=
  Window.rank (fun other : OutboxRow => other.place) table.undispatched row

/-- **A batch reaches a row** when fewer undispatched rows than its limit are older. -/
theorem mem_loadUndispatchedOutbox_iff :
    row ∈ table.loadUndispatchedOutbox limit ↔
      row ∈ table.rows ∧ row.dispatchedAt = none ∧ table.ahead row < limit := by
  have hrank : Window.rank (fun other : OutboxRow => other.place) table.eligible row =
      table.ahead row :=
    (List.perm_insertionSort _ _).countP_eq _
  rw [loadUndispatchedOutbox, Window.mem_take_iff_rank_lt pairwise_eligible, mem_eligible, hrank,
    and_assoc]

end OutboxTable

end CreditOps.Outbox
