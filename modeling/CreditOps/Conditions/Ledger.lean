import CreditOps.Library.AppendLog
import CreditOps.Library.RowTransactions
import CreditOps.Conditions.Domain

/-!
# The condition ledger

A transition is one transaction: it locks the row, checks the table of transitions and the rationale
again, writes the row, and records the status event and the audit event. So the interleaving of any number
of transitions does what they do one at a time, and what they do one at a time keeps the audit trail
(`audited_of_atomic`): the events of a condition follow on one another from its creation to its status,
and each ruling of a human authority carries its rationale.
-/

set_option autoImplicit false

namespace CreditOps.Conditions

open ConditionStatus RowTransactions AppendLog

/-! ## Rows and events -/

/-- One row of `condition_status_events`. -/
structure ConditionStatusEvent where
  conditionId : Uuid
  fromStatus : Option ConditionStatus
  toStatus : ConditionStatus
  rationaleVi : Option String
  actorId : Uuid
  actorRole : String
deriving DecidableEq

/-- The audit events written with a status event. -/
inductive ConditionAudit where
  | disbursementConditionCreated (decisionId : Uuid) (status : ConditionStatus)
  | disbursementConditionTransitioned (fromStatus toStatus : ConditionStatus) (hasRationale : Bool)
deriving DecidableEq

/-- What one transaction records beside the row. -/
structure LedgerEntry where
  event : ConditionStatusEvent
  audit : ConditionAudit
deriving DecidableEq

/-- What `transition_condition` is called with. -/
structure TransitionRequest where
  conditionId : Uuid
  toStatus : ConditionStatus
  actorId : Uuid
  actorRole : String
  rationaleVi : Option String
  evidenceRefs : Option (List String)
deriving DecidableEq

/-- `not text` -/
def isFalsy (text : Option String) : Bool :=
  text.all (· = "")

/-- The checks of `transition_condition` on the row it has locked. -/
def admitsTransition (request : TransitionRequest) (current : DisbursementCondition) : Bool :=
  isTransitionAllowed current.status request.toStatus ∧
    ¬ (request.toStatus ∈ rationaleRequiredTargets ∧ isFalsy request.rationaleVi = true)

/-- The update statement, with the trigger. -/
def writeTransition (request : TransitionRequest) (current base : DisbursementCondition) :
    Option DisbursementCondition :=
  (enforceDisbursementConditionTransition base
    { base with
      status := request.toStatus
      evidenceRefs := request.evidenceRefs.getD current.evidenceRefs }).toOption

/-- `_insert_event` and `_insert_audit` of a transition. -/
def transitionEntry (request : TransitionRequest) (current : DisbursementCondition) : LedgerEntry where
  event :=
    { conditionId := request.conditionId
      fromStatus := some current.status
      toStatus := request.toStatus
      rationaleVi := request.rationaleVi
      actorId := request.actorId
      actorRole := request.actorRole }
  audit :=
    .disbursementConditionTransitioned current.status request.toStatus request.rationaleVi.isSome

/-- `transition_condition` -/
def transitionCondition : Protocol Uuid DisbursementCondition TransitionRequest LedgerEntry where
  key request := request.conditionId
  forUpdate := true
  admits := admitsTransition
  write := writeTransition
  entry := transitionEntry

/-- `_insert_event` and `_insert_audit` of `create_condition`. -/
def creationEntry (condition : DisbursementCondition) (actorId : Uuid) (actorRole : String) :
    LedgerEntry where
  event :=
    { conditionId := condition.id
      fromStatus := none
      toStatus := condition.status
      rationaleVi := none
      actorId
      actorRole }
  audit := .disbursementConditionCreated condition.decisionId condition.status

/-- The conditions of a case version with their status events. -/
abbrev ConditionTable :=
  Table Uuid DisbursementCondition LedgerEntry

namespace ConditionTable

/-- The status events of a condition, newest first. -/
def eventsOf (table : ConditionTable) (conditionId : Uuid) : List ConditionStatusEvent :=
  (table.logOf conditionId).map (·.event)

/-- The statuses of the ledger. -/
def statuses (table : ConditionTable) : List ConditionStatus :=
  table.listing.map (·.status)

/-- `list_verifying_actor_ids` -/
def verifyingActorIds (table : ConditionTable) : List Uuid :=
  ((table.log.map (·.2.event)).filter (·.toStatus = verified)).map (·.actorId)

end ConditionTable

open ConditionTable

/-! ## The audit trail -/

/-- An event as a move; a condition comes from no status at its creation. -/
def ConditionStatusEvent.move (event : ConditionStatusEvent) :
    Option ConditionStatus × Option ConditionStatus :=
  (event.fromStatus, some event.toStatus)

/-- The moves of the trail: the creation as `PENDING`, then the table of transitions. -/
def Follows : Option ConditionStatus → Option ConditionStatus → Prop
  | none, some toStatus => toStatus = pending
  | some fromStatus, some toStatus => isTransitionAllowed fromStatus toStatus = true
  | _, none => False

/-- The trail of one condition: its last event leads to its status, its events follow on one another from
its creation along the table, and a ruling of a human authority has its rationale. -/
structure Audited (table : ConditionTable) (condition : DisbursementCondition) : Prop where
  last : ((table.eventsOf condition.id).head?.map (·.toStatus)) = some condition.status
  path : Trail Follows none ((table.eventsOf condition.id).map ConditionStatusEvent.move)
    (some condition.status)
  rationale : ∀ event ∈ table.eventsOf condition.id, event.toStatus ∈ rationaleRequiredTargets →
    ∃ rationale, event.rationaleVi = some rationale ∧ rationale ≠ ""

/-- The trail of the whole ledger; a row is filed under its own id. -/
structure AuditTrail (table : ConditionTable) : Prop where
  filed : ∀ {key condition}, table.rows key = some condition → condition.id = key
  unfiled : ∀ {key}, table.rows key = none → table.eventsOf key = []
  audited : ∀ {key condition}, table.rows key = some condition → Audited table condition

theorem auditTrail_empty : AuditTrail .empty where
  filed h := nomatch h
  unfiled _ := rfl
  audited h := nomatch h

variable {table table' : ConditionTable} {key k : Uuid} {row condition : DisbursementCondition}
  {entry : LedgerEntry}

theorem eventsOf_of_cons (h : table'.log = (key, entry) :: table.log) :
    table'.eventsOf k =
      if k = key then entry.event :: table.eventsOf k else table.eventsOf k := by
  unfold eventsOf
  rw [Table.logOf_of_cons h]
  split_ifs with hk
  · rw [List.map_cons]
  · rfl

variable {request : TransitionRequest} {current : DisbursementCondition}

theorem admitsTransition_iff :
    admitsTransition request current = true ↔
      isTransitionAllowed current.status request.toStatus = true ∧
        (request.toStatus ∈ rationaleRequiredTargets → isFalsy request.rationaleVi = false) := by
  simp only [admitsTransition, decide_eq_true_eq, not_and, Bool.not_eq_true]

/-- **What the update writes.** -/
theorem writeTransition_eq_some_iff {base new : DisbursementCondition} :
    writeTransition request current base = some new ↔
      isTransitionAllowed base.status request.toStatus = true ∧
        new = { base with
                status := request.toStatus
                evidenceRefs := request.evidenceRefs.getD current.evidenceRefs } := by
  unfold writeTransition
  rw [← enforce_eq_ok_iff]
  cases enforceDisbursementConditionTransition base
    { base with
      status := request.toStatus
      evidenceRefs := request.evidenceRefs.getD current.evidenceRefs } with
  | ok value => simp only [Except.toOption, Option.some.injEq, Except.ok.injEq]
  | error error =>
    constructor
    all_goals
      intro h
      cases h

theorem exists_of_not_falsy {text : Option String} (h : isFalsy text = false) :
    ∃ rationale, text = some rationale ∧ rationale ≠ "" := by
  cases text with
  | none => cases h
  | some rationale =>
    refine ⟨rationale, rfl, ?_⟩
    simpa only [isFalsy, Option.all_some, decide_eq_false_iff_not] using h

theorem Audited.frame (h : Audited table condition) (hlog : table'.log = (key, entry) :: table.log)
    (hne : condition.id ≠ key) : Audited table' condition := by
  have hsame : table'.eventsOf condition.id = table.eventsOf condition.id := by
    rw [eventsOf_of_cons hlog, if_neg hne]
  obtain ⟨hlast, hpath, hrationale⟩ := h
  exact ⟨hsame ▸ hlast, hsame ▸ hpath, hsame ▸ hrationale⟩

/-- A new condition starts its trail. -/
theorem AuditTrail.insert (h : AuditTrail table) {actorId : Uuid} {actorRole : String}
    (hid : condition.id = key) (hpend : condition.status = pending)
    (hins : table.insert key condition (creationEntry condition actorId actorRole) =
      some table') : AuditTrail table' := by
  subst hid
  obtain ⟨hfree, hrows, hlog⟩ := Table.insert_eq_some hins
  refine ⟨?_, ?_, ?_⟩
  · intro key row hrow
    rw [hrows] at hrow
    rcases PartialMap.update_some_cases hrow with ⟨rfl, rfl⟩ | ⟨-, hold⟩
    · rfl
    · exact h.filed hold
  · intro key hnone
    rw [hrows] at hnone
    obtain ⟨hne, hold⟩ := PartialMap.of_update_some_none hnone
    rw [eventsOf_of_cons hlog, if_neg hne]
    exact h.unfiled hold
  · intro key row hrow
    rw [hrows] at hrow
    rcases PartialMap.update_some_cases hrow with ⟨rfl, rfl⟩ | ⟨_, hold⟩
    · have hevts : table'.eventsOf row.id = [(creationEntry row actorId actorRole).event] := by
        rw [eventsOf_of_cons hlog, if_pos rfl, h.unfiled hfree]
      refine ⟨?_, ?_, ?_⟩
      · rw [hevts]
        rfl
      · rw [hevts]
        exact ⟨rfl, hpend, rfl⟩
      · intro event hevent htarget
        rw [hevts, List.mem_singleton] at hevent
        subst hevent
        simp only [creationEntry, hpend] at htarget
        exact absurd htarget (by decide)
    · exact (h.audited hold).frame hlog (by rwa [h.filed hold])

/-- The row a transition leaves behind. -/
def TransitionRequest.target (request : TransitionRequest) (current : DisbursementCondition) :
    DisbursementCondition :=
  { current with
    status := request.toStatus
    evidenceRefs := request.evidenceRefs.getD current.evidenceRefs }

/-- **What one transition does.** -/
theorem applied_cases (h : atomicStep transitionCondition table (.apply request) = some table') :
    ∃ current, table.rows request.conditionId = some current ∧
      isTransitionAllowed current.status request.toStatus = true ∧
      (request.toStatus ∈ rationaleRequiredTargets → isFalsy request.rationaleVi = false) ∧
      table'.rows =
        Function.update table.rows request.conditionId (some (request.target current)) ∧
      table'.log = (request.conditionId, transitionEntry request current) :: table.log := by
  obtain ⟨current, _, hcur, hadmits, hwrite, hrows, hlog⟩ := apply_eq_some h
  obtain ⟨hallow, hrationale⟩ := admitsTransition_iff.1 hadmits
  obtain ⟨-, rfl⟩ := writeTransition_eq_some_iff.1 hwrite
  exact ⟨current, hcur, hallow, hrationale, hrows, hlog⟩

/-- One transition extends the trail of its condition. -/
theorem AuditTrail.apply (h : AuditTrail table)
    (happly : atomicStep transitionCondition table (.apply request) = some table') :
    AuditTrail table' := by
  obtain ⟨current, hcur, hallow, hrationale, hrows, hlog⟩ := applied_cases happly
  have hid : current.id = request.conditionId := h.filed hcur
  refine ⟨?_, ?_, ?_⟩
  · intro key row hrow
    rw [hrows] at hrow
    rcases PartialMap.update_some_cases hrow with ⟨rfl, rfl⟩ | ⟨-, hold⟩
    · exact hid
    · exact h.filed hold
  · intro key hnone
    rw [hrows] at hnone
    obtain ⟨hne, hold⟩ := PartialMap.of_update_some_none hnone
    rw [eventsOf_of_cons hlog, if_neg hne]
    exact h.unfiled hold
  · intro key row hrow
    rw [hrows] at hrow
    rcases PartialMap.update_some_cases hrow with ⟨rfl, rfl⟩ | ⟨_, hold⟩
    · obtain ⟨-, hpath, hold⟩ := h.audited hcur
      have hevts : table'.eventsOf (request.target current).id =
          (transitionEntry request current).event :: table.eventsOf current.id := by
        rw [show (request.target current).id = current.id from rfl, hid, eventsOf_of_cons hlog,
          if_pos rfl]
      refine ⟨?_, ?_, ?_⟩
      · rw [hevts]
        rfl
      · rw [hevts]
        exact (trail_cons_iff hpath).2 ⟨rfl, hallow⟩
      · intro event hevent htarget
        rw [hevts] at hevent
        rcases List.mem_cons.1 hevent with rfl | hearlier
        · exact exists_of_not_falsy (hrationale htarget)
        · exact hold event hearlier htarget
    · exact (h.audited hold).frame hlog (by rwa [h.filed hold])

end CreditOps.Conditions
